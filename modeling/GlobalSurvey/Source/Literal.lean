import GlobalSurvey.Source.Fault
import GlobalSurvey.Source.Numeral
import GlobalSurvey.Source.Token
import GlobalSurvey.Source.Tree
import GlobalSurvey.Text.CharName
import GlobalSurvey.Text.Table

/-!
# String literals

Neighbouring literals form one expression. Their escapes have to be well formed, bytes literals hold ASCII only and do
not mix with the others, and formatted literals hold replacement fields `\x7bexpression!conversion:format\x7d` whose
formats may hold fields once more. Reading the expression of a field is a parameter: a field is a text of its own.
-/
namespace GlobalSurvey.Source.Literal
open GlobalSurvey.Text

/-! ## Escapes -/

/-- The text after `n` hexadecimal digits, and their value. -/
def hexDigits : (n : Nat) → (value : Nat) → List Char → Option (Nat × List Char)
  | 0, value, rest => some (value, rest)
  | n + 1, value, c :: rest =>
    if Numeral.isHex c then hexDigits n (16 * value + hexDigitValue c) rest else none
  | _ + 1, _, [] => none

/-- Every escape of a text literal is well formed. An unknown escape stands for itself. -/
def escapesFit : (fuel : Nat) → List Char → Bool
  | 0, text => text.isEmpty
  | fuel + 1, text =>
    match text with
    | [] => true
    | '\\' :: c :: rest =>
      match c with
      | 'x' =>
        match hexDigits 2 0 rest with
        | some (_, rest) => escapesFit fuel rest
        | none => false
      | 'u' =>
        match hexDigits 4 0 rest with
        | some (_, rest) => escapesFit fuel rest
        | none => false
      | 'U' =>
        match hexDigits 8 0 rest with
        | some (value, rest) => value ≤ 0x10FFFF && escapesFit fuel rest
        | none => false
      | 'N' =>
        match rest with
        | '\x7b' :: rest =>
          match cut '\x7d' rest with
          | (name, some rest) => CharName.isName name && escapesFit fuel rest
          | (_, none) => false
        | _ => false
      | _ => escapesFit fuel rest
    | _ :: rest => escapesFit fuel rest

/-- Every escape of a bytes literal is well formed: only `\x` can fail to be. -/
def byteEscapesFit : (fuel : Nat) → List Char → Bool
  | 0, text => text.isEmpty
  | fuel + 1, text =>
    match text with
    | [] => true
    | '\\' :: 'x' :: rest =>
      match hexDigits 2 0 rest with
      | some (_, rest) => byteEscapesFit fuel rest
      | none => false
    | '\\' :: _ :: rest => byteEscapesFit fuel rest
    | _ :: rest => byteEscapesFit fuel rest

/-- The text of a literal, or of a part of one, is well formed. -/
def textFits (raw : Bool) (text : List Char) : Bool := raw || escapesFit (text.length + 1) text

/-! ## Replacement fields -/

/-- The characters that end the expression of a field outside of its brackets. -/
def endsField (c : Char) : Bool :=
  c == '!' || c == ':' || c == '\x7d' || c == '='

/-- The bracket closes the other. -/
def closes (opened closed : Char) : Bool :=
  (opened == '(' && closed == ')') || (opened == '[' && closed == ']') || (opened == '\x7b' && closed == '\x7d')

/-- Where the search for the end of a field's expression stands. -/
inductive FieldState where
  /-- Outside of strings, with the open brackets, innermost first. -/
  | outside (brackets : List Char)
  | quoted (quote : Char) (triple : Bool) (brackets : List Char)

/-- Splits a text at the end of the field expression that opens it. Backslashes and hashes are refused, and so are
brackets and strings that are not closed. -/
def fieldExpression (state : FieldState) (read : List Char) (text : List Char) : Option (List Char × List Char) :=
  match text, state with
  | [], _ => none
  | c :: rest, .quoted quote triple brackets =>
    if c = '\\' then none
    else if c = quote ∧ !triple then fieldExpression (.outside brackets) (c :: read) rest
    else if c = quote ∧ rest.take 2 = [quote, quote] then
      fieldExpression (.outside brackets) (c :: c :: c :: read) (rest.drop 2)
    else fieldExpression (.quoted quote triple brackets) (c :: read) rest
  | c :: rest, .outside brackets =>
    if c = '\\' ∨ c = '#' then none
    else if c = '\'' ∨ c = '"' then
      if rest.take 2 = [c, c] then fieldExpression (.quoted c true brackets) (c :: c :: c :: read) (rest.drop 2)
      else fieldExpression (.quoted c false brackets) (c :: read) rest
    else if c = '(' ∨ c = '[' ∨ c = '\x7b' then fieldExpression (.outside (c :: brackets)) (c :: read) rest
    else if brackets.isEmpty ∧ (c = '!' ∨ c = '=' ∨ c = '<' ∨ c = '>') ∧ rest.head? = some '=' then
      fieldExpression (.outside brackets) ('=' :: c :: read) (rest.drop 1)
    else if brackets.isEmpty ∧ endsField c then some (read.reverse, c :: rest)
    else if c = ')' ∨ c = ']' ∨ c = '\x7d' then
      match brackets with
      | [] => none
      | opened :: outer =>
        if closes opened c then fieldExpression (.outside outer) (c :: read) rest else none
    else fieldExpression (.outside brackets) (c :: read) rest
termination_by text.length
decreasing_by all_goals grind

def isSourceBlank (c : Char) : Bool := c == ' ' || c == '\t' || c == '\n' || c == '\x0c'

def isAsciiBlank (c : Char) : Bool := c == ' ' || ('\t' ≤ c && c ≤ '\r')

/-- The text after an optional conversion `!s`, `!r` or `!a`; text must follow. -/
def afterConversion : List Char → Option (List Char)
  | '!' :: c :: rest => if (c == 's' || c == 'r' || c == 'a') && !rest.isEmpty then some rest else none
  | '!' :: [] => none
  | rest => if rest.isEmpty then none else some rest

/-- A piece of literal text, and what comes after it. -/
structure Piece where
  text : List Char
  rest : List Char
  /-- The piece ended with a doubled brace, so that literal text goes on. -/
  goesOn : Bool

/-- Ends a piece at a brace. At the outermost level a doubled brace stands for one, and a closing brace may not stand
alone. -/
def pieceAtBrace (nested : Bool) (read : List Char) (brace : Char) (after : List Char) : Option Piece :=
  if nested then some ⟨read.reverse, brace :: after, false⟩
  else if after.head? = some brace then some ⟨(brace :: read).reverse, after.drop 1, true⟩
  else if brace = '\x7d' then none
  else some ⟨read.reverse, brace :: after, false⟩

/-- Reads literal text up to a brace, the braces around the name of a character (`inName`) apart. -/
def literalPiece (raw nested : Bool) (inName : Bool) (read : List Char) : List Char → Option Piece
  | [] => some ⟨read.reverse, [], false⟩
  | c :: rest =>
    if inName then literalPiece raw nested (c != '\x7d') (c :: read) rest
    else if c = '\\' ∧ !raw then
      match rest with
      | [] => some ⟨(c :: read).reverse, [], false⟩
      | 'N' :: '\x7b' :: after => literalPiece raw nested true ('\x7b' :: 'N' :: c :: read) after
      | d :: after =>
        if d = '\x7b' ∨ d = '\x7d' then pieceAtBrace nested (c :: read) d after
        else literalPiece raw nested false (d :: c :: read) after
    else if c = '\x7b' ∨ c = '\x7d' then pieceAtBrace nested read c rest
    else literalPiece raw nested false (c :: read) rest

/-- The deepest level at which fields may stand: in the format of a field. -/
def deepestLevel : Nat := 1

/-- The replacement fields of a formatted text and the text after it: nothing at the outermost level, and a closing
brace in a format. -/
def fields (parse : List Char → Except SyntaxFault Expr) (raw : Bool) :
    (fuel level : Nat) → List Char → Except SyntaxFault (List Expr × List Char)
  | 0, _, _ => .error .malformed
  | fuel + 1, level, text =>
    match literalPiece raw (level ≠ 0) false [] text with
    | none => .error .malformed
    | some piece =>
      if !textFits raw piece.text then .error .malformed
      else if piece.goesOn then fields parse raw fuel level piece.rest
      else match piece.rest with
        | '\x7b' :: text =>
          if deepestLevel < level then .error .malformed
          else match fieldExpression (.outside []) [] text with
            | none => .error .malformed
            | some (expression, rest) =>
              if expression.all isSourceBlank then .error .malformed
              else do
                let value ← parse expression
                let rest := match rest with
                  | '=' :: rest => rest.dropWhile isAsciiBlank
                  | rest => rest
                match afterConversion rest with
                | none => .error .malformed
                | some rest =>
                  let (format, rest) ← match rest with
                    | ':' :: [] => .error .malformed
                    | ':' :: rest =>
                      match fields parse raw fuel (level + 1) rest with
                      | .ok (parts, rest) => .ok ([.other .joinedText parts], rest)
                      | .error fault => .error fault
                    | rest => .ok ([], rest)
                  match rest with
                  | '\x7d' :: rest =>
                    let (others, rest) ← fields parse raw fuel level rest
                    .ok (.other .replacement (value :: format) :: others, rest)
                  | _ => .error .malformed
        | rest => .ok ([], rest)

/-! ## Whole literals -/

/-- The replacement fields of one literal, whose text is well formed. -/
def literalFields (parse : List Char → Except SyntaxFault Expr) (literal : StringToken) :
    Except SyntaxFault (List Expr) :=
  if literal.formatted then do
    let (parts, _) ← fields parse literal.raw (literal.body.length + 2) 0 literal.body
    .ok parts
  else if literal.bytes then
    if literal.body.all (·.toNat < 128) && (literal.raw || byteEscapesFit (literal.body.length + 1) literal.body) then
      .ok []
    else .error .malformed
  else if textFits literal.raw literal.body then .ok [] else .error .malformed

/-- The expression that neighbouring literals form. -/
def joined (parse : List Char → Except SyntaxFault Expr) (literals : List StringToken) :
    Except SyntaxFault Expr := do
  let parts ← literals.mapM (literalFields parse)
  if literals.any (·.bytes) && !literals.all (·.bytes) then .error .malformed
  else if literals.any (·.formatted) then .ok (.other .joinedText parts.flatten)
  else .ok (.other .constant [])

end GlobalSurvey.Source.Literal
