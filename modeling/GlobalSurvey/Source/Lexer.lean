import GlobalSurvey.Source.Numeral
import GlobalSurvey.Source.Token
import GlobalSurvey.Text.Blank
import GlobalSurvey.Text.Identifier
import GlobalSurvey.Text.Normal

/-!
# From text to tokens

`tokenize` reads the whole text. At the start of each line outside brackets the indentation is measured and turned
into `indent` and `dedent` tokens; blank lines and comments have no say in it. Inside brackets line ends are blanks.
Every step of `scan` uses up at least one character, so the length of the text bounds the steps.
-/
namespace GlobalSurvey.Source.Lexer
open GlobalSurvey.Text

/-! ## Line ends -/

/-- The text with a line feed at its end. -/
def endLine (text : List Char) : List Char :=
  if text.getLast? = some '\n' then text else text ++ ['\n']

/-! ## Layout -/

/-- The width of a line's indentation with a tab stop at every eighth column, and with tabs as wide as blanks. -/
structure Indent where
  /-- The width with tab stops. -/
  wide : Nat
  /-- The width with tabs as wide as blanks. -/
  narrow : Nat
deriving DecidableEq, Repr

/-- What the lines so far have left open. -/
structure Layout where
  /-- The indentations of the open blocks, innermost first; the module itself is not among them. -/
  blocks : List Indent
  /-- The open brackets, innermost first. -/
  brackets : List Char

/-- The most blocks that may be open, the module's counted. -/
def blockLimit : Nat := 100
def bracketLimit : Nat := 200

/-- The indentation of the innermost block. -/
def current (blocks : List Indent) : Indent := blocks.headD ⟨0, 0⟩

/-- Measures the blanks that open a line. A form feed starts anew. A backslash at the line's end joins the next
line; the blanks before the first such backslash, if there are any, are the indentation of the joined line. -/
def measure (indent : Indent) (joined : Option Indent) : List Char → Except TokenFault (Indent × List Char)
  | ' ' :: rest => measure ⟨indent.wide + 1, indent.narrow + 1⟩ joined rest
  | '\t' :: rest => measure ⟨(indent.wide / 8 + 1) * 8, indent.narrow + 1⟩ joined rest
  | '\x0c' :: rest => measure ⟨0, 0⟩ joined rest
  | '\\' :: rest =>
    match rest with
    | '\n' :: rest =>
      if rest.isEmpty then .error .unfinished
      else measure indent (joined <|> if indent.wide = 0 then none else some ⟨indent.wide, indent.wide⟩) rest
    | _ => .error .unfinished
  | rest => .ok (joined.getD indent, rest)

/-- Closes the blocks that are indented further than a line, counting them. -/
def close (line : Indent) : List Indent → Nat × List Indent
  | [] => (0, [])
  | block :: blocks =>
    if line.wide < block.wide then
      let (closed, left) := close line blocks
      (closed + 1, left)
    else (0, block :: blocks)

/-- The layout tokens before a line with the given indentation, and the blocks that are open after them. -/
def enterLine (line : Indent) (blocks : List Indent) : Except TokenFault (List Token × List Indent) :=
  let block := current blocks
  if line.wide = block.wide then
    if line.narrow = block.narrow then .ok ([], blocks) else .error .tabs
  else if block.wide < line.wide then
    if blockLimit ≤ blocks.length + 1 then .error .indentation
    else if line.narrow ≤ block.narrow then .error .tabs
    else .ok ([.indent], line :: blocks)
  else
    let (closed, left) := close line blocks
    if (current left).wide ≠ line.wide then .error .indentation
    else if (current left).narrow ≠ line.narrow then .error .tabs
    else .ok (List.replicate closed .dedent, left)

/-! ## Strings -/

/-- The body of a literal between single quotes, and the text after it. -/
def shortBody (quote : Char) : List Char → Option (List Char × List Char)
  | [] => none
  | '\n' :: _ => none
  | '\\' :: rest =>
    match rest with
    | c :: rest => (shortBody quote rest).map fun (body, after) => ('\\' :: c :: body, after)
    | [] => none
  | c :: rest =>
    if c = quote then some ([], rest) else (shortBody quote rest).map fun (body, after) => (c :: body, after)

/-- The body of a literal between triple quotes, and the text after it. -/
def longBody (quote : Char) : List Char → Option (List Char × List Char)
  | [] => none
  | '\\' :: rest =>
    match rest with
    | c :: rest => (longBody quote rest).map fun (body, after) => ('\\' :: c :: body, after)
    | [] => none
  | c :: rest =>
    if c = quote ∧ rest.take 2 = [quote, quote] then some ([], rest.drop 2)
    else (longBody quote rest).map fun (body, after) => (c :: body, after)

/-- The body of the literal that opens the text with a quote, and the text after it. -/
def quoted (quote : Char) (rest : List Char) : Option (List Char × List Char) :=
  if rest.take 2 = [quote, quote] then longBody quote (rest.drop 2) else shortBody quote rest

def isQuote (c : Char) : Bool := c == '\'' || c == '"'

/-- The prefixes that a string literal may have, in lower case. -/
def stringPrefixes : List (List Char) :=
  [[], ['b'], ['r'], ['u'], ['f'], ['b', 'r'], ['r', 'b'], ['f', 'r'], ['r', 'f']]

/-- The prefix in front of a quote, in lower case, if the text opens a string literal. -/
def stringPrefix? (text : List Char) : Option (List Char) :=
  let letters := (text.takeWhile Char.isAlpha).map Char.toLower
  if letters ∈ stringPrefixes then
    match text.drop letters.length with
    | c :: _ => if isQuote c then some letters else none
    | [] => none
  else none

/-! ## Operators -/

def operators3 : List String := ["**=", "...", "//=", "<<=", ">>="]
/-- The operators of two characters. -/
def operators2 : List String :=
  ["!=", "%=", "&=", "**", "*=", "+=", "-=", "->", "//", "/=", ":=", "<<", "<=", "<>", "==", ">=", ">>", "@=", "^=",
   "|="]

/-- The longest operator that opens a text whose first character is `c`. Any character may stand as one. -/
def operatorAt (c : Char) (rest : List Char) : String × List Char :=
  let three := String.ofList (c :: rest.take 2)
  let two := String.ofList (c :: rest.take 1)
  if three ∈ operators3 then (three, rest.drop 2)
  else if two ∈ operators2 then (two, rest.drop 1)
  else (String.singleton c, rest)

/-- The bracket that closes another. -/
def closing : Char → Char
  | '(' => ')'
  | '[' => ']'
  | c => if c = '\x7b' then '\x7d' else c

/-- The brackets that are open after an operator. -/
def nest (operator : String) (brackets : List Char) : Except TokenFault (List Char) :=
  match operator.toList with
  | [c] =>
    if c = '(' ∨ c = '[' ∨ c = '\x7b' then
      if bracketLimit ≤ brackets.length then .error .malformed else .ok (c :: brackets)
    else if c = ')' ∨ c = ']' ∨ c = '\x7d' then
      match brackets with
      | [] => .error .malformed
      | opened :: outer => if closing opened = c then .ok outer else .error .malformed
    else .ok brackets
  | _ => .ok brackets

/-! ## Words -/

/-- The token of a word: a keyword, or a name if the word is an identifier. -/
def wordToken (word : List Char) : Except TokenFault Token :=
  let text := String.ofList word
  if text ∈ keywords then .ok (.keyword text)
  else if Identifier.isIdentifier word then .ok (.name text (String.ofList (Normal.normalize word)))
  else .error .malformed

/-! ## The whole text -/

def isGap (c : Char) : Bool := c == ' ' || c == '\t' || c == '\x0c'

/-- Reads the token that opens `c :: rest`, a character that is neither blank nor line end, with the brackets
that are open after it. -/
def token (brackets : List Char) (c : Char) (rest : List Char) :
    Except TokenFault (Token × List Char × List Char) :=
  let text := c :: rest
  match stringPrefix? text with
  | some letters =>
    match text.drop letters.length with
    | quote :: body =>
      match quoted quote body with
      | some (body, after) =>
        .ok (.string ⟨letters.contains 'r', letters.contains 'b', letters.contains 'f', body⟩, after, brackets)
      | none => .error .malformed
    | [] => .error .malformed
  | none =>
    if c.isDigit || (c == '.' && rest.head?.any Char.isDigit) then
      match Numeral.afterLiteral text with
      | some after => .ok (.number (String.ofList (Numeral.literal text after)), after, brackets)
      | none => .error .malformed
    else if Numeral.isWordChar c then do
      let word ← wordToken (text.takeWhile Numeral.isWordChar)
      .ok (word, text.dropWhile Numeral.isWordChar, brackets)
    else if c.toNat < 32 || c.toNat = 127 then .error .malformed
    else do
      let (operator, after) := operatorAt c rest
      .ok (.operator operator, after, ← nest operator brackets)

/-- Reads tokens, from the start of a line or from within one. -/
def scan : (fuel : Nat) → (lineStart : Bool) → Layout → List Char → Array Token → TokenRow
  | 0, _, _, _, tokens => ⟨tokens, some .unfinished⟩
  | fuel + 1, true, layout, text, tokens =>
    match measure ⟨0, 0⟩ none text with
    | .error fault => ⟨tokens, some fault⟩
    | .ok (indent, rest) =>
      match rest with
      | '\n' :: rest => scan fuel true layout rest tokens
      | '#' :: rest => scan fuel true layout ((rest.dropWhile (· ≠ '\n')).drop 1) tokens
      | rest =>
        match enterLine indent layout.blocks with
        | .error fault => ⟨tokens, some fault⟩
        | .ok (added, blocks) =>
          let tokens := tokens ++ added.toArray
          let layout := { layout with blocks }
          if rest.isEmpty then ⟨tokens.push .ending, none⟩ else scan fuel false layout rest tokens
  | fuel + 1, false, layout, text, tokens =>
    match text with
    | [] => ⟨tokens, some .unfinished⟩
    | '\n' :: rest =>
      if layout.brackets.isEmpty then scan fuel true layout rest (tokens.push .newline)
      else scan fuel false layout rest tokens
    | '#' :: rest => scan fuel false layout (rest.dropWhile (· ≠ '\n')) tokens
    | '\\' :: rest =>
      match rest with
      | '\n' :: rest =>
        if rest.isEmpty then ⟨tokens, some .unfinished⟩ else scan fuel false layout rest tokens
      | _ => ⟨tokens, some .unfinished⟩
    | c :: rest =>
      if isGap c then scan fuel false layout rest tokens
      else match token layout.brackets c rest with
        | .error fault => ⟨tokens, some fault⟩
        | .ok (token, rest, brackets) => scan fuel false { layout with brackets } rest (tokens.push token)

def tokenize (text : List Char) : TokenRow :=
  let text := endLine (unifyLineEnds text)
  scan (2 * text.length + 2) true ⟨[], []⟩ text #[]

end GlobalSurvey.Source.Lexer
