import GlobalSurvey.Failure
import GlobalSurvey.Files.Path
import GlobalSurvey.Text.Order

/-!
# Records

A record holds the facts about one unit, in a fixed order: by their folded text, then by their length, then by the text
itself. Its line is the name of the unit and the facts, parted by spaces.
-/
namespace GlobalSurvey.Report
open GlobalSurvey.Text

/-! ## The order of facts -/

/-- What decides the place of a fact, in this order. -/
structure FactKey where
  folded : String
  length : Nat
  text : String
deriving DecidableEq, Repr

def factKey (fact : String) : FactKey := ⟨CaseMap.foldString fact, fact.length, fact⟩

/-- The first key does not come after the second. -/
def FactKey.le (a b : FactKey) : Bool :=
  if a.folded ≠ b.folded then textLE a.folded b.folded
  else if a.length ≠ b.length then decide (a.length < b.length)
  else textLE a.text b.text

def factLE (a b : String) : Bool := (factKey a).le (factKey b)

def sortFacts (facts : List String) : List String := facts.mergeSort factLE

/-- The texts among values, if all of them are texts. -/
def textsOf : List Value → Except Failure (List String)
  | [] => .ok []
  | .str s :: rest =>
    match textsOf rest with
    | .ok texts => .ok (s :: texts)
    | .error failure => .error failure
  | v :: _ => .error (.lacks v "casefold")

/-! ## Records -/

/-- The facts about one unit. -/
structure Record where
  unit : String
  displayName : String
  facts : List String
deriving DecidableEq, Repr

namespace Record

def make (unit : String) (facts : List String) : Record := ⟨unit, Files.displayName unit, sortFacts facts⟩

def render (r : Record) : String := " ".intercalate (r.displayName :: r.facts)

end Record

/-- The text holds no line end that a reader of lines would split at. -/
def isSingleLine (line : String) : Bool := !line.toList.contains '\n' && !line.toList.contains '\r'

end GlobalSurvey.Report
