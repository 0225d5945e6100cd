import GlobalSurvey.Text.Utf8

/-!
# UTF-16

Each unit is two bytes, in either order. A character above U+FFFF is a pair of surrogates.
-/
namespace GlobalSurvey.Text.Utf16
open GlobalSurvey.Text.Utf8 (byte)

/-- The order of the two bytes of a unit. -/
inductive ByteOrder where
  /-- The low byte comes first. -/
  | little
  /-- The high byte comes first. -/
  | big
deriving DecidableEq, Repr

def unitBytes (order : ByteOrder) (n : Nat) : List UInt8 :=
  match order with
  | .little => [byte (n % 256), byte (n / 256)]
  | .big => [byte (n / 256), byte (n % 256)]

def unit (order : ByteOrder) (a b : UInt8) : Nat :=
  match order with
  | .little => a.toNat + 256 * b.toNat
  | .big => 256 * a.toNat + b.toNat

def encodeChar (order : ByteOrder) (c : Char) : List UInt8 :=
  let n := c.toNat
  if n < 0x10000 then unitBytes order n
  else unitBytes order (0xD800 + (n - 0x10000) / 0x400) ++ unitBytes order (0xDC00 + (n - 0x10000) % 0x400)

def encode (order : ByteOrder) (text : List Char) : List UInt8 := text.flatMap (encodeChar order)

/-- Why bytes are no character. -/
inductive Reason where
  /-- One byte is left over at the end. -/
  | truncated
  /-- The text ends after the first half of a pair. -/
  | unexpectedEnd
  /-- The second half of a pair comes first. -/
  | encoding
  /-- The first half of a pair has no second half. -/
  | surrogate
deriving DecidableEq, Repr

/-- Where a row of bytes stops being UTF-16. -/
structure Fault where
  /-- The number of bytes before the fault. -/
  position : Nat
  bytes : List UInt8
  reason : Reason
deriving DecidableEq, Repr

/-- Reads the text of some bytes, `position` bytes into a longer row. -/
def decodeFrom (order : ByteOrder) (position : Nat) : List UInt8 → Except Fault (List Char)
  | [] => .ok []
  | [a] => .error ⟨position, [a], .truncated⟩
  | a :: b :: rest =>
    let first := unit order a b
    if first < 0xD800 ∨ 0xE000 ≤ first then
      match decodeFrom order (position + 2) rest with
      | .ok text => .ok (Char.ofNat first :: text)
      | .error fault => .error fault
    else if 0xDC00 ≤ first then .error ⟨position, [a, b], .encoding⟩
    else
      match rest with
      | c :: d :: rest =>
        let second := unit order c d
        if 0xDC00 ≤ second ∧ second < 0xE000 then
          match decodeFrom order (position + 4) rest with
          | .ok text => .ok (Char.ofNat (0x10000 + (first - 0xD800) * 0x400 + (second - 0xDC00)) :: text)
          | .error fault => .error fault
        else .error ⟨position, [a, b], .surrogate⟩
      | short => .error ⟨position, a :: b :: short, .unexpectedEnd⟩

def decode (order : ByteOrder) (bytes : List UInt8) : Except Fault (List Char) := decodeFrom order 0 bytes

end GlobalSurvey.Text.Utf16
