import GlobalSurvey.Decimal.Text
import GlobalSurvey.Text.Table
import GlobalSurvey.Value

/-!
# Reading JSON

Besides the standard's values the words `NaN`, `Infinity` and `-Infinity` are read. A number with neither fraction nor
exponent is an integer. Of entries with one key the last one counts. The escape of half a surrogate pair is read as the
replacement character, since no text holds such a half. A text that is no JSON is refused with the place where it stops being
one.
-/
namespace GlobalSurvey.Json
open GlobalSurvey.Text

/-- Why a text is not read. -/
inductive Fault where
  /-- The text stops being JSON at a place, counted in characters. -/
  | invalid (position : Nat)
  | longInteger
deriving DecidableEq, Repr

/-- The rest of a text, and how many characters come before it. -/
structure Cursor where
  /-- The number of characters before the rest. -/
  position : Nat
  rest : List Char

def Cursor.advance (c : Cursor) (n : Nat) : Cursor := ⟨c.position + n, c.rest.drop n⟩

def isBlank (c : Char) : Bool := c == ' ' || c == '\t' || c == '\n' || c == '\r'

def Cursor.skipBlanks (c : Cursor) : Cursor := c.advance (c.rest.takeWhile isBlank).length

def digitLimit : Nat := 4300

/-- Text with one character escaped by a letter. -/
def simpleEscape? : Char → Option Char
  | '"' => some '"'
  | '\\' => some '\\'
  | '/' => some '/'
  | 'b' => some '\x08'
  | 'f' => some '\x0c'
  | 'n' => some '\n'
  | 'r' => some '\r'
  | 't' => some '\t'
  | _ => none

def isHexDigit (c : Char) : Bool := c.isDigit || ('a' ≤ c && c ≤ 'f') || ('A' ≤ c && c ≤ 'F')

/-- The unit that four hexadecimal digits write. -/
def unit? (text : List Char) : Option Nat :=
  let digits := text.take 4
  if digits.length = 4 && digits.all isHexDigit then some (hexValue digits) else none

/-- The second half of a surrogate pair, if the text goes on with an escape for one. -/
def lowSurrogate? (text : List Char) : Option Nat :=
  match text with
  | '\\' :: 'u' :: rest =>
    match unit? rest with
    | some low => if 0xDC00 ≤ low ∧ low < 0xE000 then some low else none
    | none => none
  | _ => none

/-- Reads the text after an opening quote at the place `start`. -/
def string (start : Nat) : (fuel : Nat) → (read : List Char) → Cursor → Except Fault (String × Cursor)
  | 0, _, _ => .error (.invalid start)
  | fuel + 1, read, c =>
    match c.rest with
    | [] => .error (.invalid start)
    | '"' :: _ => .ok (String.ofList read.reverse, c.advance 1)
    | '\\' :: [] => .error (.invalid start)
    | '\\' :: 'u' :: rest =>
      match unit? rest with
      | none => .error (.invalid (c.position + 1))
      | some unit =>
        if rest.length < 5 then .error (.invalid (c.position + 1))
        else if 0xD800 ≤ unit ∧ unit < 0xDC00 then
          match lowSurrogate? (rest.drop 4) with
          | some low =>
            string start fuel (Char.ofNat (0x10000 + (unit - 0xD800) * 0x400 + (low - 0xDC00)) :: read) (c.advance 12)
          | none => string start fuel ('\ufffd' :: read) (c.advance 6)
        else string start fuel ((if 0xDC00 ≤ unit ∧ unit < 0xE000 then '\ufffd' else Char.ofNat unit) :: read)
          (c.advance 6)
    | '\\' :: letter :: _ =>
      match simpleEscape? letter with
      | some plain => string start fuel (plain :: read) (c.advance 2)
      | none => .error (.invalid c.position)
    | plain :: _ =>
      if plain.toNat < 32 then .error (.invalid c.position) else string start fuel (plain :: read) (c.advance 1)

def digits (text : List Char) : List Char := text.takeWhile Char.isDigit

def decimal (text : List Char) : Nat := text.foldl (fun n c => 10 * n + (c.toNat - 48)) 0

/-- Reads a number: an integer part without superfluous zeros, then a fraction and an exponent if they are complete. -/
def number (c : Cursor) : Except Fault (Value × Cursor) :=
  let (negative, text) := match c.rest with
    | '-' :: rest => (true, rest)
    | rest => (false, rest)
  let whole := match text with
    | '0' :: _ => ['0']
    | text => digits text
  if whole.isEmpty then .error (.invalid c.position)
  else
    let rest := text.drop whole.length
    let fraction := match rest with
      | '.' :: rest => digits rest
      | _ => []
    let rest := if fraction.isEmpty then rest else rest.drop (fraction.length + 1)
    let (mark, sign, exponent) := match rest with
      | e :: rest =>
        if e == 'e' || e == 'E' then
          match rest with
          | '-' :: rest => (2, true, digits rest)
          | '+' :: rest => (2, false, digits rest)
          | rest => (1, false, digits rest)
        else (0, false, [])
      | [] => (0, false, [])
    let after := (if negative then 1 else 0) + whole.length
      + (if fraction.isEmpty then 0 else fraction.length + 1) + (if exponent.isEmpty then 0 else mark + exponent.length)
    if fraction.isEmpty && exponent.isEmpty then
      if digitLimit < whole.length then .error .longInteger
      else
        let n : Int := decimal whole
        .ok (.int (if negative then -n else n), c.advance after)
    else
      let power : Int := decimal exponent
      let f := Decimal.toFloat (decimal (whole ++ fraction)) ((if sign then -power else power) - fraction.length)
      .ok (.float (if negative then -f else f), c.advance after)

def words : List (String × Value) :=
  [("null", .null), ("true", .bool true), ("false", .bool false), ("NaN", .float (0 / 0)),
   ("Infinity", .float (1 / 0)), ("-Infinity", .float (-1 / 0))]

mutual
def value : (fuel : Nat) → Cursor → Except Fault (Value × Cursor)
  | 0, c => .error (.invalid c.position)
  | fuel + 1, c =>
    match c.rest with
    | '"' :: _ => do
      let (s, c) ← string c.position (c.rest.length + 1) [] (c.advance 1)
      .ok (.str s, c)
    | '[' :: _ =>
      let inner := (c.advance 1).skipBlanks
      match inner.rest with
      | ']' :: _ => .ok (.list [], inner.advance 1)
      | _ => elements fuel [] inner
    | '\x7b' :: _ =>
      let inner := (c.advance 1).skipBlanks
      match inner.rest with
      | '\x7d' :: _ => .ok (.dict [], inner.advance 1)
      | _ => entries fuel [] inner
    | _ =>
      match words.find? fun w => w.1.toList.isPrefixOf c.rest with
      | some (word, v) => .ok (v, c.advance word.length)
      | none => number c
/-- Reads the elements of an array, after `read`, given last one first. -/
def elements : (fuel : Nat) → (read : List Value) → Cursor → Except Fault (Value × Cursor)
  | 0, _, c => .error (.invalid c.position)
  | fuel + 1, read, c => do
    let (v, c) ← value fuel c
    let c := c.skipBlanks
    match c.rest with
    | ']' :: _ => .ok (.list (v :: read).reverse, c.advance 1)
    | ',' :: _ => elements fuel (v :: read) (c.advance 1).skipBlanks
    | _ => .error (.invalid c.position)
/-- Reads the entries of an object, after `read`. -/
def entries : (fuel : Nat) → (read : List (String × Value)) → Cursor → Except Fault (Value × Cursor)
  | 0, _, c => .error (.invalid c.position)
  | fuel + 1, read, c =>
    match c.rest with
    | '"' :: _ => do
      let (key, c) ← string c.position (c.rest.length + 1) [] (c.advance 1)
      let c := c.skipBlanks
      match c.rest with
      | ':' :: _ =>
        let (v, c) ← value fuel (c.advance 1).skipBlanks
        let read := Value.setEntry key v read
        let c := c.skipBlanks
        match c.rest with
        | '\x7d' :: _ => .ok (.dict read, c.advance 1)
        | ',' :: _ => entries fuel read (c.advance 1).skipBlanks
        | _ => .error (.invalid c.position)
      | _ => .error (.invalid c.position)
    | _ => .error (.invalid c.position)
end

def parse (text : List Char) : Except Fault Value := do
  let (v, c) ← value (2 * text.length + 2) (Cursor.mk 0 text).skipBlanks
  let c := c.skipBlanks
  if c.rest.isEmpty then .ok v else .error (.invalid c.position)

end GlobalSurvey.Json
