import GlobalSurvey.Decimal.Text
import GlobalSurvey.Text.Quoted
import GlobalSurvey.Value

/-!
# The text of a value in messages

Strings are quoted, and so are bytes, after a `b`. Lists stand in brackets and dicts in braces, with a comma and a space
between their items.
-/
namespace GlobalSurvey.Value
open GlobalSurvey.Text

mutual
def text : Value → String
  | .null => "None"
  | .bool true => "True"
  | .bool false => "False"
  | .int n => toString n
  | .float f => Decimal.floatText f
  | .str s => quotedString s
  | .bytes content => quotedBytes content
  | .list items => "[" ++ ", ".intercalate (texts items) ++ "]"
  | .dict entries => "\x7b" ++ ", ".intercalate (entryTexts entries) ++ "\x7d"
  | .object _ text => text
def texts : List Value → List String
  | [] => []
  | v :: rest => v.text :: texts rest
def entryTexts : List (String × Value) → List String
  | [] => []
  | (key, v) :: rest => (quotedString key ++ ": " ++ v.text) :: entryTexts rest
end

end GlobalSurvey.Value
