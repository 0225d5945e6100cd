/-!
# Values of unknown type

Requests, settings that were not checked, and what an analysis capability returns may be any value of this type.
Integers have any size and stay apart from floats. A list stands for anything but a text, bytes or a dict that gives its
items in order.
-/
namespace GlobalSurvey

/-- A value of unknown type. -/
inductive Value where
  | null
  | bool (b : Bool)
  | int (n : Int)
  | float (f : Float)
  | str (s : String)
  | bytes (content : List UInt8)
  | list (items : List Value)
  | dict (entries : List (String × Value))
  /-- A value of any other type, by the word for its type and its text. It has no items. -/
  | object (type text : String)

namespace Value

instance : Inhabited Value := ⟨.null⟩

def typeName : Value → String
  | .null => "NoneType"
  | .bool _ => "bool"
  | .int _ => "int"
  | .float _ => "float"
  | .str _ => "str"
  | .bytes _ => "bytes"
  | .list _ => "list"
  | .dict _ => "dict"
  | .object type _ => type

/-- The entry of a dict. -/
def get? (v : Value) (key : String) : Option Value :=
  match v with
  | .dict entries => (entries.find? (·.1 = key)).map (·.2)
  | _ => none

/-- Sets an entry: a key that is there keeps its place. -/
def setEntry (key : String) (value : Value) : List (String × Value) → List (String × Value)
  | [] => [(key, value)]
  | (k, v) :: rest => if k = key then (k, value) :: rest else (k, v) :: setEntry key value rest

end Value

end GlobalSurvey
