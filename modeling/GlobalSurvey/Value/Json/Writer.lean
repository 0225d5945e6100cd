import GlobalSurvey.Text.Quoted
import GlobalSurvey.Value.Text

/-!
# Writing JSON

Characters outside ASCII are escaped by their UTF-16 units. Floats are written with the fewest digits that read back.
-/
namespace GlobalSurvey.Json
open GlobalSurvey.Text

def unitEscape (unit : Nat) : List Char := '\\' :: 'u' :: hexPadded 4 unit

/-- A character between quotes. -/
def writeChar (c : Char) : List Char :=
  if c = '"' then ['\\', '"']
  else if c = '\\' then ['\\', '\\']
  else if c = '\n' then ['\\', 'n']
  else if c = '\r' then ['\\', 'r']
  else if c = '\t' then ['\\', 't']
  else if c = '\x08' then ['\\', 'b']
  else if c = '\x0c' then ['\\', 'f']
  else if 32 ≤ c.toNat ∧ c.toNat < 127 then [c]
  else if c.toNat < 0x10000 then unitEscape c.toNat
  else
    let n := c.toNat - 0x10000
    unitEscape (0xD800 + n / 0x400) ++ unitEscape (0xDC00 + n % 0x400)

def writeString (s : String) : String := String.ofList ('"' :: s.toList.flatMap writeChar ++ ['"'])

def writeFloat (f : Float) : String :=
  if f.isNaN then "NaN"
  else if f.isInf then (if f < 0 then "-Infinity" else "Infinity")
  else Decimal.floatText f

mutual
def write : Value → String
  | .null => "null"
  | .bool true => "true"
  | .bool false => "false"
  | .int n => toString n
  | .float f => writeFloat f
  | .str s => writeString s
  | .list items => "[" ++ ", ".intercalate (writeItems items) ++ "]"
  | .dict entries => "\x7b" ++ ", ".intercalate (writeEntries entries) ++ "\x7d"
  | .bytes content => writeString (Value.bytes content).text
  | .object type text => writeString (Value.object type text).text
/-- The JSON texts of several values. -/
def writeItems : List Value → List String
  | [] => []
  | v :: rest => write v :: writeItems rest
/-- The JSON texts of the entries of an object. -/
def writeEntries : List (String × Value) → List String
  | [] => []
  | (key, v) :: rest => (writeString key ++ ": " ++ write v) :: writeEntries rest
end

end GlobalSurvey.Json
