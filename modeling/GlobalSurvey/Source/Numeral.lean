/-!
# Numeric literals

Digits may be parted by single low lines. A literal may be followed at once by a keyword that can stand after an
operand (`1if x else 2`), but by no other letter, digit or low line.
-/
namespace GlobalSurvey.Source.Numeral

/-- The rest of a row of digits, with single low lines between them; none if a low line is not followed by a digit. -/
def moreDigits (isDigit : Char → Bool) : List Char → Option (List Char)
  | [] => some []
  | '_' :: rest =>
    match rest with
    | d :: rest => if isDigit d then moreDigits isDigit rest else none
    | [] => none
  | c :: rest => if isDigit c then moreDigits isDigit rest else some (c :: rest)

/-- The text after a row of at least one digit. -/
def afterDigits (isDigit : Char → Bool) : List Char → Option (List Char)
  | d :: rest => if isDigit d then moreDigits isDigit rest else none
  | [] => none

/-- A character that goes on with a word: an ASCII letter, digit or low line, or anything outside ASCII. -/
def isWordChar (c : Char) : Bool := c.isAlphanum || c == '_' || 128 ≤ c.toNat

/-- A numeric literal may end before this text. -/
def mayEnd : List Char → Bool
  | 'a' :: 'n' :: 'd' :: _ => true
  | 'e' :: 'l' :: 's' :: 'e' :: _ => true
  | 'f' :: 'o' :: 'r' :: _ => true
  | 'i' :: 'f' :: _ => true
  | 'i' :: 'n' :: _ => true
  | 'i' :: 's' :: _ => true
  | 'n' :: 'o' :: 't' :: _ => true
  | 'o' :: 'r' :: _ => true
  | c :: _ => !isWordChar c
  | [] => true

/-- The text itself if a literal may end before it. -/
def ended (rest : List Char) : Option (List Char) := if mayEnd rest then some rest else none

/-- The text after an optional imaginary mark, where the literal has to end. -/
def afterMark : List Char → Option (List Char)
  | c :: rest => if c == 'j' || c == 'J' then ended rest else ended (c :: rest)
  | [] => some []

/-- The text after an exponent if there is one. A letter `e` that no digit follows ends the literal before it. -/
def afterExponent (text : List Char) : Option (List Char) :=
  match text with
  | c :: rest =>
    if c == 'e' || c == 'E' then
      match rest with
      | d :: more =>
        if d == '+' || d == '-' then (afterDigits Char.isDigit more).bind afterMark
        else if d.isDigit then (afterDigits Char.isDigit rest).bind afterMark
        else ended text
      | [] => ended text
    else afterMark text
  | [] => some []

/-- The text after the digits of a fraction, whose point has been read, and after what follows them. -/
def afterPoint (text : List Char) : Option (List Char) :=
  match text with
  | d :: _ => if d.isDigit then (afterDigits Char.isDigit text).bind afterExponent else afterExponent text
  | [] => some []

/-- The text after a literal with a base letter, which has been read. -/
def afterBase (isDigit : Char → Bool) (text : List Char) : Option (List Char) :=
  match text with
  | '_' :: rest => (afterDigits isDigit rest).bind ended
  | _ => (afterDigits isDigit text).bind ended

def isOctal (c : Char) : Bool := '0' ≤ c && c ≤ '7'
def isBinary (c : Char) : Bool := c == '0' || c == '1'
def isHex (c : Char) : Bool := c.isDigit || ('a' ≤ c && c ≤ 'f') || ('A' ≤ c && c ≤ 'F')

/-- The digits that open the text hold one that is not zero. -/
def hasNonzero (text : List Char) : Bool :=
  (text.takeWhile fun c => c.isDigit || c == '_').any fun c => c != '0' && c != '_'

/-- The text after a literal that opens with a decimal digit. An integer may not open with a superfluous zero. -/
def afterDecimal (text : List Char) : Option (List Char) :=
  match afterDigits Char.isDigit text with
  | none => none
  | some rest =>
    match rest with
    | '.' :: more => afterPoint more
    | c :: _ =>
      if c == 'e' || c == 'E' then afterExponent rest
      else if c == 'j' || c == 'J' then afterMark rest
      else if text.head? == some '0' && hasNonzero text then none
      else ended rest
    | [] => if text.head? == some '0' && hasNonzero text then none else some []

/-- The text after the numeric literal that opens the text with a digit or with a point and a digit. -/
def afterLiteral (text : List Char) : Option (List Char) :=
  match text with
  | '.' :: rest => afterPoint rest
  | '0' :: c :: rest =>
    if c == 'x' || c == 'X' then afterBase isHex rest
    else if c == 'o' || c == 'O' then afterBase isOctal rest
    else if c == 'b' || c == 'B' then afterBase isBinary rest
    else afterDecimal text
  | _ => afterDecimal text

def isLiteralChar (c : Char) : Bool := isWordChar c || c == '.' || c == '+' || c == '-'

/-- The literal that opens the text and ends before `after`. -/
def literal (text after : List Char) : List Char :=
  let run := text.takeWhile isLiteralChar
  run.take (run.length - (after.takeWhile isLiteralChar).length)

/-- The greatest number of digits of a decimal integer. -/
def digitLimit : Nat := 4300

/-- A literal that is a decimal integer with more digits than allowed. Zero may have any number of them. -/
def isTooLong (text : List Char) : Bool :=
  text.head? != some '0' && text.all (fun c => c.isDigit || c == '_') &&
    digitLimit < (text.filter Char.isDigit).length

end GlobalSurvey.Source.Numeral
