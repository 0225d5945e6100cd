/-!
# White space and line ends

`isBlank` is the class of characters that are dropped at the ends of an entry. `isLineBreak` is the class of characters
that end a line; of a carriage return and a line feed after it, both end one line.
-/
namespace GlobalSurvey.Text

/-- White space: the characters that are spaces, or separate paragraphs or segments. -/
def isBlank (c : Char) : Bool :=
  let n := c.toNat
  (9 ≤ n && n ≤ 13) || (28 ≤ n && n ≤ 32) || n == 0x85 || n == 0xA0 || n == 0x1680 || (0x2000 ≤ n && n ≤ 0x200A) ||
    n == 0x2028 || n == 0x2029 || n == 0x202F || n == 0x205F || n == 0x3000

/-- White space without the characters that separate pieces of information. -/
def isSpace (c : Char) : Bool := isBlank c && !(28 ≤ c.toNat && c.toNat ≤ 31)

def isLineBreak (c : Char) : Bool :=
  let n := c.toNat
  (10 ≤ n && n ≤ 13) || (28 ≤ n && n ≤ 30) || n == 0x85 || n == 0x2028 || n == 0x2029

def trimStart (text : List Char) : List Char := text.dropWhile isBlank

def trimEnd (text : List Char) : List Char := (text.reverse.dropWhile isBlank).reverse

def trim (text : List Char) : List Char := trimEnd (trimStart text)

/-- Every line end as a line feed. -/
def unifyLineEnds : List Char → List Char
  | [] => []
  | '\r' :: '\n' :: rest => '\n' :: unifyLineEnds rest
  | '\r' :: rest => '\n' :: unifyLineEnds rest
  | c :: rest => c :: unifyLineEnds rest

/-- The lines of a text without their ends, `read` before it on the first line, last character first. -/
def linesFrom (read : List Char) : List Char → List (List Char)
  | [] => if read.isEmpty then [] else [read.reverse]
  | '\r' :: '\n' :: rest => read.reverse :: linesFrom [] rest
  | c :: rest => if isLineBreak c then read.reverse :: linesFrom [] rest else linesFrom (c :: read) rest

/-- The lines of a text without their ends. A line end at the end of the text opens no further line. -/
def lines (text : List Char) : List (List Char) := linesFrom [] text

end GlobalSurvey.Text
