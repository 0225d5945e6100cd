import GlobalSurvey.Text.Digit
import GlobalSurvey.Text.Quoted

/-!
# Arguments

A command line is a list of texts. Those that start with a minus are options, unless they look like negative numbers or
come after `--`; a long option may be cut short as long as only one option starts that way. An option takes its value
from the text after it, from behind a `=`, or, if it has one letter, from the rest of its own text.
-/
namespace GlobalSurvey.CommandLine
open GlobalSurvey.Text

/-- An option that a command knows. -/
structure Flag where
  names : List String
  takesValue : Bool := true
  /-- What is wrong with a value, if something is. -/
  refuses : String → Option String := fun _ => none

def Flag.label (f : Flag) : String := "/".intercalate f.names

inductive Fault where
  | ambiguous (text : String) (candidates : List String)
  | lacksValue (label : String)
  /-- The option has a value that it does not take. -/
  | superfluous (label value : String)
  | refused (label reason : String)
  | missing (label : String)
  | unrecognized (texts : List String)
deriving DecidableEq, Repr

def Fault.message : Fault → String
  | .ambiguous text candidates => "ambiguous option: " ++ text ++ " could match " ++ ", ".intercalate candidates
  | .lacksValue label => "argument " ++ label ++ ": expected one argument"
  | .superfluous label value => "argument " ++ label ++ ": ignored explicit argument " ++ quotedString value
  | .refused label reason => "argument " ++ label ++ ": " ++ reason
  | .missing label => "the following arguments are required: " ++ label
  | .unrecognized texts => "unrecognized arguments: " ++ " ".intercalate texts

def invalidChoice (choices : List String) (value : String) : String :=
  "invalid choice: " ++ quotedString value ++ " (choose from " ++ ", ".intercalate (choices.map quotedString) ++ ")"

/-! ## Reading texts -/

/-- An option as it is written. -/
structure Use where
  text : String
  /-- The option and the way it is written, if it is known. -/
  flag : Option (Flag × String)
  /-- The value in the same text. -/
  value : Option String

/-- What a text is. -/
inductive Token where
  | word (text : String)
  | option (use : Use)
  /-- The `--` after which all texts are words. -/
  | separator

def spellings (flags : List Flag) : List (Flag × String) := flags.flatMap fun f => f.names.map fun name => (f, name)

def spelled? (flags : List Flag) (text : String) : Option (Flag × String) := (spellings flags).find? (·.2 = text)

/-- The text before the first `=`, and the text after it. -/
def cutValue (text : String) : String × Option String :=
  match cut '=' text.toList with
  | (name, value) => (String.ofList name, value.map String.ofList)

/-- The options that a text may be short for. -/
def candidates (flags : List Flag) (text : String) : List Use :=
  match text.toList with
  | '-' :: '-' :: _ =>
    let (name, value) := cutValue text
    ((spellings flags).filter fun s => s.2.startsWith name).map fun s => ⟨text, some s, value⟩
  | '-' :: letter :: rest =>
    (spellings flags).filterMap fun s =>
      if s.2 = String.ofList ['-', letter] then some ⟨text, some s, some (String.ofList rest)⟩
      else if s.2.startsWith text then some ⟨text, some s, none⟩
      else none
  | _ => []

/-- The text looks like a negative number. -/
def isNegativeNumber (text : List Char) : Bool :=
  let isDigit (c : Char) : Bool := (digitValue? c).isSome
  match text with
  | '-' :: digits =>
    match cut '.' digits with
    | (whole, none) => !whole.isEmpty && whole.all isDigit
    | (whole, some fraction) => whole.all isDigit && !fraction.isEmpty && fraction.all isDigit
  | _ => false

/-- What a text is if it is not after `--`. -/
def classify (flags : List Flag) (text : String) : Except Fault Token :=
  match text.toList with
  | '-' :: _ :: _ =>
    match spelled? flags text with
    | some flag => .ok (.option ⟨text, some flag, none⟩)
    | none =>
      let (name, value) := cutValue text
      match value, spelled? flags name with
      | some value, some flag => .ok (.option ⟨text, some flag, some value⟩)
      | _, _ =>
        match candidates flags text with
        | [use] => .ok (.option use)
        | [] =>
          if isNegativeNumber text.toList || text.toList.contains ' ' then .ok (.word text)
          else .ok (.option ⟨text, none, none⟩)
        | several => .error (.ambiguous text (several.filterMap fun u => u.flag.map (·.2)))
  | _ => .ok (.word text)

def tokens (flags : List Flag) : List String → Except Fault (List Token)
  | [] => .ok []
  | "--" :: rest => .ok (.separator :: rest.map .word)
  | text :: rest => do
    let t ← classify flags text
    let ts ← tokens flags rest
    .ok (t :: ts)

/-! ## Reading a command -/

structure Parsed where
  /-- The options by their first names, with their values; in order. -/
  options : List (String × String) := []
  /-- The words, once they are taken. Only one run of words is. -/
  words : Option (List String) := none
  extras : List String := []
  help : Bool := false

def helpName : String := "-h"

/-- Adds an option. -/
def Parsed.add (p : Parsed) (f : Flag) (value : String) : Parsed :=
  let name := f.names.headD ""
  { p with options := p.options ++ [(name, value)], help := p.help || name == helpName }

/-- Takes a run of words; the first `--` of a run is none of them. -/
def Parsed.take (p : Parsed) (run : List String) : Parsed :=
  match p.words with
  | none => { p with words := some (run.erase "--") }
  | some _ => { p with extras := p.extras ++ run }

def Parsed.takeBefore (p : Parsed) (run : List String) : Parsed := if run.isEmpty then p else p.take run

def Parsed.withValue (p : Parsed) (f : Flag) (value : String) : Except Fault Parsed :=
  match f.refuses value with
  | some reason => .error (.refused f.label reason)
  | none => .ok (p.add f value)

/-- Reads tokens after a run of words, the last one first. -/
def readTokens (p : Parsed) (run : List String) : List Token → Except Fault Parsed
  | [] => .ok (p.take run.reverse)
  | .word w :: rest => readTokens p (w :: run) rest
  | .separator :: rest => readTokens p ("--" :: run) rest
  | .option use :: rest =>
    let p := p.takeBefore run.reverse
    match use.flag, use.value with
    | none, _ => readTokens { p with extras := p.extras ++ [use.text] } [] rest
    | some (f, _), some value =>
      if f.takesValue then do
        let p ← p.withValue f value
        readTokens p [] rest
      else .error (.superfluous f.label value)
    | some (f, _), none =>
      if f.takesValue then
        match rest with
        | .word w :: rest => do
          let p ← p.withValue f w
          readTokens p [] rest
        | _ => .error (.lacksValue f.label)
      else
        let p := p.add f ""
        if p.help then .ok p else readTokens p [] rest

/-- Reads the arguments of a command, which may take words or not. -/
def readArguments (flags : List Flag) (takesWords : Bool) (texts : List String) : Except Fault Parsed := do
  let ts ← tokens flags texts
  readTokens { words := if takesWords then none else some [] } [] ts

end GlobalSurvey.CommandLine
