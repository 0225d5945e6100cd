import GlobalSurvey.Log
import GlobalSurvey.Value.Json.Writer

/-!
# The layout of log entries

An entry takes one line: a JSON object, or, for the eye, its level, its event and its fields.
-/
namespace GlobalSurvey

/-- How log entries are laid out. -/
inductive LogFormat where
  | json
  | console
deriving DecidableEq, Repr

/-- A text with blanks after it, up to a width. -/
def padded (width : Nat) (text : String) : String :=
  text ++ String.ofList (List.replicate (width - text.length) ' ')

/-- A field, for the eye. Texts are written as they are. -/
def fieldText (field : String × Value) : String :=
  field.1 ++ "=" ++ match field.2 with
    | .str s => s
    | v => v.text

/-- The line of an entry, without a line end. -/
def Entry.line (e : Entry) : LogFormat → String
  | .json => Json.write (.dict e.values)
  | .console =>
    " ".intercalate (("[" ++ padded 8 e.level.word ++ "]") :: padded 30 e.event :: e.fields.map fieldText)

end GlobalSurvey
