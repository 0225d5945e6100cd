/-!
# UTF-8

`encode` writes each character in one to four bytes; `decode` reads them back. A text that is not UTF-8 is refused at
its first fault: a byte that opens no character, or the longest part of a character that its next byte does not
continue or after which the text ends.
-/
namespace GlobalSurvey.Text.Utf8

/-! ## Writing -/

def byte (n : Nat) : UInt8 := UInt8.ofNat n

def encodeChar (c : Char) : List UInt8 :=
  let n := c.toNat
  if n < 0x80 then [byte n]
  else if n < 0x800 then [byte (0xC0 + n / 64), byte (0x80 + n % 64)]
  else if n < 0x10000 then [byte (0xE0 + n / 4096), byte (0x80 + n / 64 % 64), byte (0x80 + n % 64)]
  else [byte (0xF0 + n / 262144), byte (0x80 + n / 4096 % 64), byte (0x80 + n / 64 % 64), byte (0x80 + n % 64)]

def encode (text : List Char) : List UInt8 := text.flatMap encodeChar

/-! ## Reading -/

/-- Why bytes are no character. -/
inductive Reason where
  /-- No character opens with the byte. -/
  | startByte
  /-- The next byte does not continue the character. -/
  | continuation
  /-- The text ends within the character. -/
  | unexpectedEnd
deriving DecidableEq, Repr

/-- What the start of a row of bytes is. -/
inductive Reading where
  | char (c : Char) (rest : List UInt8)
  /-- So many bytes that are no character. -/
  | fault (count : Nat) (reason : Reason)

def isTail (b : UInt8) : Bool := 0x80 ≤ b.toNat && b.toNat ≤ 0xBF

/-- The byte may come second after the first byte of a character of three bytes: no longer form than needed, and no
surrogate. -/
def isSecondOfThree (a b : UInt8) : Bool :=
  isTail b && (a.toNat != 0xE0 || 0xA0 ≤ b.toNat) && (a.toNat != 0xED || b.toNat < 0xA0)

/-- The byte may come second after the first byte of a character of four bytes: no longer form than needed, and no
number above the last character. -/
def isSecondOfFour (a b : UInt8) : Bool :=
  isTail b && (a.toNat != 0xF0 || 0x90 ≤ b.toNat) && (a.toNat != 0xF4 || b.toNat < 0x90)

/-- Reads a character of two bytes. -/
def readTwo (a : UInt8) : List UInt8 → Reading
  | [] => .fault 1 .unexpectedEnd
  | b :: rest =>
    if isTail b then .char (Char.ofNat ((a.toNat - 0xC0) * 64 + (b.toNat - 0x80))) rest else .fault 1 .continuation

/-- Reads a character of three bytes. -/
def readThree (a : UInt8) : List UInt8 → Reading
  | [] => .fault 1 .unexpectedEnd
  | b :: rest =>
    if isSecondOfThree a b then
      match rest with
      | [] => .fault 2 .unexpectedEnd
      | c :: rest =>
        if isTail c then
          .char (Char.ofNat ((a.toNat - 0xE0) * 4096 + (b.toNat - 0x80) * 64 + (c.toNat - 0x80))) rest
        else .fault 2 .continuation
    else .fault 1 .continuation

/-- Reads a character of four bytes. -/
def readFour (a : UInt8) : List UInt8 → Reading
  | [] => .fault 1 .unexpectedEnd
  | b :: rest =>
    if isSecondOfFour a b then
      match rest with
      | [] => .fault 2 .unexpectedEnd
      | c :: rest =>
        if isTail c then
          match rest with
          | [] => .fault 3 .unexpectedEnd
          | d :: rest =>
            if isTail d then
              .char (Char.ofNat ((a.toNat - 0xF0) * 262144 + (b.toNat - 0x80) * 4096 + (c.toNat - 0x80) * 64 +
                (d.toNat - 0x80))) rest
            else .fault 3 .continuation
        else .fault 2 .continuation
    else .fault 1 .continuation

/-- Reads the character that opens with the byte `a`. -/
def readChar (a : UInt8) (rest : List UInt8) : Reading :=
  if a.toNat < 0x80 then .char (Char.ofNat a.toNat) rest
  else if a.toNat < 0xC2 then .fault 1 .startByte
  else if a.toNat < 0xE0 then readTwo a rest
  else if a.toNat < 0xF0 then readThree a rest
  else if a.toNat < 0xF5 then readFour a rest
  else .fault 1 .startByte

theorem length_le_of_readChar {a : UInt8} {bytes rest : List UInt8} {c : Char}
    (h : readChar a bytes = .char c rest) : rest.length ≤ bytes.length := by
  unfold readChar readTwo readThree readFour at h
  repeat' split at h
  all_goals simp_all
  all_goals (try obtain ⟨-, rfl⟩ := h)
  all_goals (try omega)

/-- Where a row of bytes stops being UTF-8. -/
structure Fault where
  /-- The number of bytes before the fault. -/
  position : Nat
  bytes : List UInt8
  reason : Reason
deriving DecidableEq, Repr

/-- Reads the text of some bytes, `position` bytes into a longer row. -/
def decodeFrom (position : Nat) (bytes : List UInt8) : Except Fault (List Char) :=
  match bytes with
  | [] => .ok []
  | a :: rest =>
    match _h : readChar a rest with
    | .fault count reason => .error ⟨position, (a :: rest).take count, reason⟩
    | .char c after =>
      match decodeFrom (position + ((a :: rest).length - after.length)) after with
      | .ok text => .ok (c :: text)
      | .error fault => .error fault
termination_by bytes.length
decreasing_by
  have := length_le_of_readChar _h
  simp; omega

def decode (bytes : List UInt8) : Except Fault (List Char) := decodeFrom 0 bytes

end GlobalSurvey.Text.Utf8
