import GlobalSurvey.Text.Quoted
import GlobalSurvey.Text.Utf16
import GlobalSurvey.Text.Utf8

/-!
# Encodings of source files

A codec is found by its name; case and punctuation do not count. There are those of UTF-8, ASCII, Latin-1, Windows-1252 and
UTF-16: the name of any other encoding counts as unknown. UTF-8 with a signature drops one byte order mark at the start, and
UTF-16 takes its byte order from the mark, which has to be there.
-/
namespace GlobalSurvey.Text

inductive Codec where
  | utf8
  | utf8Signature
  | ascii
  | latin1
  | windows1252
  | utf16
  | utf16Order (order : Utf16.ByteOrder)
deriving DecidableEq, Repr

namespace Codec

/-! ## Names -/

/-- The parts of a name: runs of ASCII letters, digits and points, in lower case. -/
def nameParts (part : List Char) : List Char → List (List Char)
  | [] => if part.isEmpty then [] else [part.reverse]
  | c :: rest =>
    if c.isAlphanum || c == '.' then nameParts (c.toLower :: part) rest
    else if part.isEmpty then nameParts [] rest
    else part.reverse :: nameParts [] rest

/-- A name in its plain form: its parts joined by low lines. -/
def plainName (name : String) : String :=
  "_".intercalate ((nameParts [] name.toList).map String.ofList)

def names : List (Codec × List String) :=
  [(.utf8, ["utf_8", "u8", "utf", "utf8", "utf8_ucs2", "utf8_ucs4", "cp65001"]),
   (.utf8Signature, ["utf_8_sig"]),
   (.ascii, ["ascii", "646", "ansi_x3.4_1968", "ansi_x3_4_1968", "ansi_x3.4_1986", "cp367", "csascii", "ibm367",
      "iso646_us", "iso_646.irv_1991", "iso_ir_6", "us", "us_ascii"]),
   (.latin1, ["latin_1", "8859", "cp819", "csisolatin1", "ibm819", "iso8859", "iso8859_1", "iso_8859_1",
      "iso_8859_1_1987", "iso_ir_100", "l1", "latin", "latin1"]),
   (.windows1252, ["cp1252", "1252", "windows_1252"]),
   (.utf16, ["utf_16", "u16", "utf16"]),
   (.utf16Order .little, ["utf_16_le", "unicodelittleunmarked", "utf_16le"]),
   (.utf16Order .big, ["utf_16_be", "unicodebigunmarked", "utf_16be"])]

/-- The codec with a name. Points stand for low lines, except in the first name of each codec. -/
def ofName? (name : String) : Option Codec :=
  let plain := plainName name
  let pointless := String.ofList (plain.toList.map fun c => if c = '.' then '_' else c)
  (names.find? fun entry => plain ∈ entry.2 ∨ pointless ∈ entry.2.tail).map (·.1)

/-! ## Reading -/

/-- Why bytes cannot be read. -/
inductive Reason where
  | utf8 (reason : Utf8.Reason)
  | utf16 (order : Utf16.ByteOrder) (reason : Utf16.Reason)
  | notAscii
  | unmapped
deriving DecidableEq, Repr

/-- The bytes that cannot be read, and the number of bytes before them. -/
structure Undecodable where
  /-- The number of bytes before. -/
  position : Nat
  bytes : List UInt8
  reason : Reason
deriving DecidableEq, Repr

/-- Why the text of a file cannot be had. -/
inductive Fault where
  | undecodable (what : Undecodable)
  /-- UTF-16 without a byte order mark. -/
  | unmarked
deriving DecidableEq, Repr

/-- The name of a codec in messages about its faults. -/
def Reason.codecName : Reason → String
  | .utf8 _ => "utf-8"
  | .utf16 .little _ => "utf-16-le"
  | .utf16 .big _ => "utf-16-be"
  | .notAscii => "ascii"
  | .unmapped => "charmap"

/-- What is said about a fault. -/
def Reason.text : Reason → String
  | .utf8 .startByte => "invalid start byte"
  | .utf8 .continuation => "invalid continuation byte"
  | .utf8 .unexpectedEnd => "unexpected end of data"
  | .utf16 _ .truncated => "truncated data"
  | .utf16 _ .unexpectedEnd => "unexpected end of data"
  | .utf16 _ .encoding => "illegal encoding"
  | .utf16 _ .surrogate => "illegal UTF-16 surrogate"
  | .notAscii => "ordinal not in range(128)"
  | .unmapped => "character maps to <undefined>"

/-- The message about bytes that cannot be read. -/
def Undecodable.message (u : Undecodable) : String :=
  let what := match u.bytes with
    | [b] => "byte 0x" ++ String.ofList (hexPadded 2 b.toNat) ++ " in position " ++ toString u.position
    | bytes => "bytes in position " ++ toString u.position ++ "-" ++ toString (u.position + bytes.length - 1)
  "'" ++ u.reason.codecName ++ "' codec can't decode " ++ what ++ ": " ++ u.reason.text

/-- The characters of Windows-1252 from 0x80 to 0x9F; 0 where there is none. -/
def windowsPage : List Nat :=
  [0x20AC, 0, 0x201A, 0x0192, 0x201E, 0x2026, 0x2020, 0x2021, 0x02C6, 0x2030, 0x0160, 0x2039, 0x0152, 0, 0x017D, 0,
   0, 0x2018, 0x2019, 0x201C, 0x201D, 0x2022, 0x2013, 0x2014, 0x02DC, 0x2122, 0x0161, 0x203A, 0x0153, 0, 0x017E,
   0x0178]

def windowsChar? (b : UInt8) : Option Char :=
  if b.toNat < 0x80 ∨ 0xA0 ≤ b.toNat then some (Char.ofNat b.toNat)
  else match windowsPage[b.toNat - 0x80]? with
    | some 0 => none
    | some n => some (Char.ofNat n)
    | none => none

/-- Reads bytes that each stand for one character. -/
def decodeBytes (char? : UInt8 → Option Char) (reason : Reason) (position : Nat) :
    List UInt8 → Except Undecodable (List Char)
  | [] => .ok []
  | b :: rest =>
    match char? b with
    | none => .error ⟨position, [b], reason⟩
    | some c =>
      match decodeBytes char? reason (position + 1) rest with
      | .ok text => .ok (c :: text)
      | .error fault => .error fault

def asciiChar? (b : UInt8) : Option Char := if b.toNat < 0x80 then some (Char.ofNat b.toNat) else none

def decodeUtf8 (bytes : List UInt8) : Except Undecodable (List Char) :=
  match Utf8.decode bytes with
  | .ok text => .ok text
  | .error fault => .error ⟨fault.position, fault.bytes, .utf8 fault.reason⟩

/-- Reads UTF-16, `position` bytes into a longer row. -/
def decodeUtf16 (order : Utf16.ByteOrder) (position : Nat) (bytes : List UInt8) :
    Except Undecodable (List Char) :=
  match Utf16.decodeFrom order position bytes with
  | .ok text => .ok text
  | .error fault => .error ⟨fault.position, fault.bytes, .utf16 order fault.reason⟩

def signature : List UInt8 := [0xEF, 0xBB, 0xBF]

/-- Reads the text of some bytes. Positions of faults count from the first byte after a signature. -/
def decode (codec : Codec) (bytes : List UInt8) : Except Fault (List Char) :=
  let lift (result : Except Undecodable (List Char)) : Except Fault (List Char) :=
    match result with
    | .ok text => .ok text
    | .error what => .error (.undecodable what)
  match codec with
  | .utf8 => lift (decodeUtf8 bytes)
  | .utf8Signature =>
    if bytes.isPrefixOf signature then .ok []
    else if signature.isPrefixOf bytes then lift (decodeUtf8 (bytes.drop 3))
    else lift (decodeUtf8 bytes)
  | .ascii => lift (decodeBytes asciiChar? .notAscii 0 bytes)
  | .latin1 => lift (decodeBytes (fun b => some (Char.ofNat b.toNat)) .unmapped 0 bytes)
  | .windows1252 => lift (decodeBytes windowsChar? .unmapped 0 bytes)
  | .utf16Order order => lift (decodeUtf16 order 0 bytes)
  | .utf16 =>
    if [0xFF, 0xFE].isPrefixOf bytes then lift (decodeUtf16 .little 2 (bytes.drop 2))
    else if [0xFE, 0xFF].isPrefixOf bytes then lift (decodeUtf16 .big 2 (bytes.drop 2))
    else match decodeUtf16 .little 0 bytes with
      | .error what => .error (.undecodable what)
      | .ok [] => .ok []
      | .ok _ => .error .unmarked

/-! ## Writing -/

def narrowByte? (bound : Nat) (c : Char) : Option UInt8 :=
  if c.toNat < bound then some (UInt8.ofNat c.toNat) else none

def windowsByte? (c : Char) : Option UInt8 :=
  if c.toNat < 0x80 ∨ (0xA0 ≤ c.toNat ∧ c.toNat < 0x100) then some (UInt8.ofNat c.toNat)
  else if c.toNat = 0 then none
  else (windowsPage.findIdx? (· = c.toNat)).map fun i => UInt8.ofNat (0x80 + i)

/-- The bytes of a text, if every character of it has some. -/
def encode? (codec : Codec) (text : List Char) : Option (List UInt8) :=
  match codec with
  | .utf8 => some (Utf8.encode text)
  | .utf8Signature => some (signature ++ Utf8.encode text)
  | .ascii => text.mapM (narrowByte? 0x80)
  | .latin1 => text.mapM (narrowByte? 0x100)
  | .windows1252 => text.mapM windowsByte?
  | .utf16 => some (Utf16.encode .little ('\ufeff' :: text))
  | .utf16Order order => some (Utf16.encode order text)

end Codec

end GlobalSurvey.Text
