import GlobalSurvey.Globals.Analyzer
import GlobalSurvey.Report.Record

/-!
# Analysis capabilities

A capability analyzes one unit at a time. What it answers is a reply: it may cancel the whole batch on the way, it may
have to wait, and it ends in facts or in a failure.
-/
namespace GlobalSurvey.Batch
open GlobalSurvey.Report

inductive Outcome where
  | facts (all : List String)
  | rejected (reason : String)
  | failed (failure : Failure)

/-- The outcome of an analysis that gives values, which have to be texts, or fails. -/
def Outcome.ofValues : Except Failure (List Value) → Outcome
  | .ok values =>
    match textsOf values with
    | .ok all => .facts all
    | .error failure => .failed failure
  | .error (.rejected _ reason) => .rejected reason
  | .error failure => .failed failure

/-- The outcome of an analysis that gives texts or fails. -/
def Outcome.ofTexts : Except Failure (List String) → Outcome
  | .ok all => .facts all
  | .error (.rejected _ reason) => .rejected reason
  | .error failure => .failed failure

structure Reply where
  cancels : Bool := false
  /-- It ends only after it is released. -/
  waits : Bool := false
  outcome : Outcome

abbrev Capability := String → Reply

/-- What is given as a capability: one, which may look at files, or a value that cannot analyze anything. -/
inductive Provider where
  | capability (analyze : Files.Disk → Capability)
  | value (v : Value)

namespace Provider

/-- The capability of a provider. A value fails at every unit. -/
def analyze : Provider → Files.Disk → Capability
  | .capability analyze => analyze
  | .value v => fun _ _ => { outcome := .failed (.lacks v "analyze") }

/-- The provider that lists the global variables of source files. -/
def globalVariables (options : Globals.Options) : Provider :=
  .capability fun d unit => { outcome := .ofTexts (Globals.analyze options d unit) }

end Provider

/-! ## Functions as capabilities -/

/-- The items of what a function gives for a unit. Nothing is no result. -/
def adapt (unit : String) : Except Failure Value → Except Failure (List Value)
  | .error failure => .error failure
  | .ok .null => .error (.rejected unit "analyzer returned no result")
  | .ok v => v.iterate

/-- The text that stands for a capability made of a function. -/
def functionText (name : String) : String := "FunctionCapability(" ++ Text.quotedString name ++ ")"

end GlobalSurvey.Batch
