/-!
# Tokens of a source text
-/
namespace GlobalSurvey.Source

/-- What a string literal writes: its prefix letters in lower case and the text between its quotes. -/
structure StringToken where
  /-- The prefix has an `r`: backslashes stand for themselves. -/
  raw : Bool
  /-- The prefix has a `b`: the literal writes bytes. -/
  bytes : Bool
  /-- The prefix has an `f`: the literal holds expressions in braces. -/
  formatted : Bool
  body : List Char
deriving DecidableEq, Repr

/-- A token. Layout tokens stand for line ends and for changes of the indentation. -/
inductive Token where
  /-- An identifier as it is written, and its normal form, which is the name that it denotes. -/
  | name (raw id : String)
  | keyword (text : String)
  | number (text : String)
  | string (literal : StringToken)
  | operator (text : String)
  | newline
  | indent
  | dedent
  | ending
deriving DecidableEq, Repr

/-- The words that are never names. -/
def keywords : List String :=
  ["False", "None", "True", "and", "as", "assert", "async", "await", "break", "class", "continue", "def", "del",
   "elif", "else", "except", "finally", "for", "from", "global", "if", "import", "in", "is", "lambda", "nonlocal",
   "not", "or", "pass", "raise", "return", "try", "while", "with", "yield"]

/-- Why the row of tokens breaks off. -/
inductive TokenFault where
  | malformed
  /-- The text ends inside brackets or after a backslash, or a backslash stands before something else than a line end. -/
  | unfinished
  /-- A line goes back to an indentation that no open block has, or opens one block too many. -/
  | indentation
  /-- Which line is indented further depends on the width of a tab. -/
  | tabs
deriving DecidableEq, Repr

/-- The tokens of a text, up to the first fault if there is one. -/
structure TokenRow where
  /-- The tokens before the fault; without a fault the last one is `Token.ending`. -/
  tokens : Array Token
  /-- The fault that follows the last token. -/
  fault : Option TokenFault

end GlobalSurvey.Source
