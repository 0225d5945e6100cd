import GlobalSurvey.Failure
import GlobalSurvey.Text.Blank
import GlobalSurvey.Text.Split

/-!
# The forms of values

A form reads a value of unknown type as a value of a certain type, or tells every part of it that does not fit. Numbers
and switches may be written as texts, an integral number is as good as an integer, and bytes in UTF-8 as good as their text.
-/
namespace GlobalSurvey

/-- What is read from a value, or what does not fit in it. -/
abbrev Checked (α : Type) := Except (List Misfit) α

namespace Checked

def misfit {α : Type} (reason : String) : Checked α := .error [⟨[], reason⟩]

/-- Applies what was read to what is read next. The misfits of both are kept. -/
def apply {α β : Type} (f : Checked (α → β)) (a : Checked α) : Checked β :=
  match f, a with
  | .ok f, .ok a => .ok (f a)
  | .ok _, .error misfits => .error misfits
  | .error misfits, .ok _ => .error misfits
  | .error first, .error second => .error (first ++ second)

/-- A part behind a step. -/
def below {α : Type} (step : Step) (a : Checked α) : Checked α :=
  match a with
  | .ok a => .ok a
  | .error misfits => .error (misfits.map (·.below step))

end Checked

/-- A way to read values. -/
abbrev Form (α : Type) := Value → Checked α

namespace Form
open GlobalSurvey.Text

/-! ## Integers in texts -/

/-- The text without the white space at its ends. -/
def trimSpace (text : List Char) : List Char :=
  ((text.dropWhile isSpace).reverse.dropWhile isSpace).reverse

/-- Drops zeros, and low lines between them, at the start of a number; a last character is kept. `zero` is the character
before. -/
def dropZeros (before : Char) : List Char → Option (List Char)
  | [] => some [before]
  | c :: rest =>
    if c = '0' ∨ c = '_' then dropZeros c rest
    else if c.isDigit then some (c :: rest)
    else if c = '.' then some (before :: c :: rest)
    else none

/-- Drops the zeros that a number starts with. A text that cannot be a number is refused. -/
def withoutLeadingZeros : List Char → Option (List Char)
  | '0' :: rest => dropZeros '0' rest
  | '-' :: rest => some ('-' :: rest)
  | c :: rest => if c.isDigit then some (c :: rest) else none
  | [] => none

def withoutZeroFraction (text : List Char) : List Char :=
  match cut '.' text with
  | (whole, some fraction) => if !fraction.isEmpty && fraction.all (· = '0') then whole else text
  | (_, none) => text

/-- Two low lines stand side by side. -/
def hasDoubleLine : List Char → Bool
  | '_' :: '_' :: _ => true
  | _ :: rest => hasDoubleLine rest
  | [] => false

/-- Drops single low lines inside a number. -/
def withoutLines (text : List Char) : List Char :=
  if text.head? = some '_' || text.getLast? = some '_' || hasDoubleLine text then text
  else text.filter (· ≠ '_')

def lengthLimit : Nat := 4300

def decimal (digits : List Char) : Nat := digits.foldl (fun n c => 10 * n + (c.toNat - 48)) 0

/-- An integer in its plain form: a minus perhaps, and digits that do not start with a superfluous zero. -/
def plainInteger (text : List Char) : Except String Int :=
  let (negative, digits) := match text with
    | '-' :: rest => (true, rest)
    | rest => (false, rest)
  if digits.isEmpty || !digits.all Char.isDigit || (digits.head? = some '0' && 1 < digits.length) then
    .error "int_parsing"
  else if lengthLimit < text.length then .error "int_parsing_size"
  else .ok (if negative then -(decimal digits : Int) else decimal digits)

/-- The integer that a text writes, or the word for why it writes none. -/
def integerOfText (text : List Char) : Except String Int :=
  let trimmed := trimSpace text
  let unsigned := match trimmed with
    | '+' :: '-' :: _ => []
    | '+' :: rest => rest
    | rest => rest
  match withoutLeadingZeros unsigned with
  | none => .error "int_parsing"
  | some digits => plainInteger (withoutLines (withoutZeroFraction digits))

/-! ## Floats in texts -/

def spanDigits (text : List Char) : List Char × List Char := (text.takeWhile Char.isDigit, text.dropWhile Char.isDigit)

/-- The exponent at the start of a text, which has to be all of the text. -/
def exponentOfText : List Char → Option Int
  | [] => some 0
  | mark :: rest =>
    if mark = 'e' ∨ mark = 'E' then
      let (negative, digits) := match rest with
        | '-' :: digits => (true, digits)
        | '+' :: digits => (false, digits)
        | digits => (false, digits)
      if digits.isEmpty || !digits.all Char.isDigit then none
      else some (if negative then -(decimal digits : Int) else decimal digits)
    else none

/-- The float that a text without a sign writes. -/
def unsignedFloat (text : List Char) : Option Float :=
  let word := String.ofList (text.map Char.toLower)
  if word = "inf" ∨ word = "infinity" then some (1 / 0)
  else if word = "nan" then some (0 / 0)
  else
    let (whole, rest) := spanDigits text
    let (fraction, rest) := match rest with
      | '.' :: rest => spanDigits rest
      | rest => ([], rest)
    if whole.isEmpty && fraction.isEmpty then none
    else match exponentOfText rest with
      | none => none
      | some e => some (Decimal.toFloat (decimal (whole ++ fraction)) (e - fraction.length))

def plainFloat (text : List Char) : Option Float :=
  match text with
  | '-' :: rest => (unsignedFloat rest).map fun f => -f
  | '+' :: rest => unsignedFloat rest
  | rest => unsignedFloat rest

/-- The float that a text writes; white space at its ends and single low lines in it do not count. -/
def floatOfText (text : List Char) : Option Float :=
  let trimmed := trimSpace text
  match plainFloat trimmed with
  | some f => some f
  | none => plainFloat (withoutLines trimmed)

/-! ## Forms -/

/-- The text that bytes are in UTF-8, or a misfit if they are none. -/
def textOfBytes (reason : String) (content : List UInt8) : Checked String :=
  match Codec.decodeUtf8 content with
  | .ok text => .ok (String.ofList text)
  | .error _ => .misfit reason

def text : Form String
  | .str s => .ok s
  | .bytes content => textOfBytes "string_unicode" content
  | _ => .misfit "string_type"

def optional {α : Type} (form : Form α) : Form (Option α)
  | .null => .ok none
  | v =>
    match form v with
    | .ok a => .ok (some a)
    | .error misfits => .error misfits

/-- The greatest integer that an integral float may stand for. -/
def floatLimit : Int := Nat.pow 2 63

/-- The integer that a float stands for, or the word for why it stands for none. -/
def integerOfFloat (f : Float) : Except String Int :=
  match Decimal.Parts.ofFloat f with
  | .nan => .error "finite_number"
  | .infinite _ => .error "finite_number"
  | .zero _ => .ok 0
  | .finite negative value _ =>
    let (n, d) := Decimal.ratio value.mantissa 2 value.exponent
    if n % d ≠ 0 then .error "int_from_float"
    else if floatLimit ≤ n / d then .error "int_parsing_size"
    else .ok (if negative then -((n / d : Nat) : Int) else (n / d : Nat))

def integerText (s : String) : Checked Int :=
  match integerOfText s.toList with
  | .ok n => .ok n
  | .error reason => .misfit reason

def integer : Form Int
  | .bool b => .ok (if b then 1 else 0)
  | .int n => .ok n
  | .float f =>
    match integerOfFloat f with
    | .ok n => .ok n
    | .error reason => .misfit reason
  | .str s => integerText s
  | .bytes content =>
    match textOfBytes "int_parsing" content with
    | .ok s => integerText s
    | .error misfits => .error misfits
  | _ => .misfit "int_type"

def positive (v : Value) : Checked Int :=
  match integer v with
  | .ok n => if n < 1 then .misfit "greater_than_equal" else .ok n
  | .error misfits => .error misfits

def onWords : List String := ["1", "on", "t", "true", "y", "yes"]
def offWords : List String := ["0", "off", "f", "false", "n", "no"]

def switchOfInteger (n : Int) : Checked Bool :=
  if n = 0 then .ok false else if n = 1 then .ok true else .misfit "bool_parsing"

def switchText (s : String) : Checked Bool :=
  let word := String.ofList (s.toList.map Char.toLower)
  if onWords.contains word then .ok true
  else if offWords.contains word then .ok false
  else .misfit "bool_parsing"

def switch : Form Bool
  | .bool b => .ok b
  | .str s => switchText s
  | .bytes content =>
    match textOfBytes "bool_parsing" content with
    | .ok s => switchText s
    | .error misfits => .error misfits
  | .int n => if n.natAbs < floatLimit.natAbs then switchOfInteger n else .misfit "bool_type"
  | .float f =>
    match integerOfFloat f with
    | .ok n => switchOfInteger n
    | .error _ => .misfit "bool_type"
  | _ => .misfit "bool_type"

def floatText (s : String) : Checked Float :=
  match floatOfText s.toList with
  | some f => .ok f
  | none => .misfit "float_parsing"

def float : Form Float
  | .float f => .ok f
  | .bool b => .ok (if b then 1 else 0)
  | .int n =>
    let f := (Number.int n).toFloat
    if f.isInf then .misfit "float_type" else .ok f
  | .str s => floatText s
  | .bytes content =>
    match textOfBytes "float_parsing" content with
    | .ok s => floatText s
    | .error misfits => .error misfits
  | _ => .misfit "float_type"

def positiveFloat (v : Value) : Checked Float :=
  match float v with
  | .ok f => if 0 < f then .ok f else .misfit "greater_than"
  | .error misfits => .error misfits

def oneOf {α : Type} (words : List (String × α)) : Form α
  | .str s =>
    match words.find? (·.1 = s) with
    | some (_, a) => .ok a
    | none => .misfit "literal_error"
  | _ => .misfit "literal_error"

def itemsFrom {α : Type} (form : Form α) (position : Nat) : List Value → Checked (List α)
  | [] => .ok []
  | v :: rest =>
    .apply (.apply (.ok List.cons) ((form v).below (.item position))) (itemsFrom form (position + 1) rest)

def listOf {α : Type} (form : Form α) : Form (List α)
  | .list items => itemsFrom form 0 items
  | _ => .misfit "list_type"

/-- The entry with a key, which has to be there. -/
def required {α : Type} (key : String) (form : Form α) (entries : List (String × Value)) : Checked α :=
  .below (.field key) (match (Value.dict entries).get? key with
    | some v => form v
    | none => .misfit "missing")

/-- The entry with a key, or a default. -/
def withDefault {α : Type} (key : String) (form : Form α) (default : α) (entries : List (String × Value)) : Checked α :=
  .below (.field key) (match (Value.dict entries).get? key with
    | some v => form v
    | none => .ok default)

end Form

end GlobalSurvey
