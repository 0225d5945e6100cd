import GlobalSurvey.Text.Blank

/-!
# Files of variables

Each line binds a name to a value, `name=value`, perhaps after the word `export`. Values may stand in single or double
quotes, and then go on over line ends; a value without quotes ends before white space and a `#`. A line that makes no
sense is passed over. In a value, `$\x7bname\x7d` stands for the value of a name, and `$\x7bname:-default\x7d` gives a
default for it.
-/
namespace GlobalSurvey.Dotenv
open GlobalSurvey.Text

def isInner (c : Char) : Bool := isBlank c && c != '\n' && c != '\r'

/-- A character that ends a line of such a file. -/
def isEnd (c : Char) : Bool := c == '\n' || c == '\r'

def skipInner (text : List Char) : List Char := text.dropWhile isInner

def afterLine (text : List Char) : List Char :=
  match text.dropWhile (!isEnd ·) with
  | '\r' :: rest => rest
  | '\n' :: rest => rest
  | rest => rest

/-- The text after the word `export`, if white space follows it. -/
def skipExport (text : List Char) : List Char :=
  let word := "export".toList
  if word.isPrefixOf text then
    let rest := text.drop word.length
    if (rest.head?.map isInner).getD false then skipInner rest else text
  else text

/-- The text in quotes, `read` before it with its last character first, and the text after the closing quote. A backslash
keeps a quote from closing, unless there is no other one: `escaped` is the outcome if the last such quote does close. -/
def quotedText (quote : Char) (read : List Char) (escaped : Option (List Char × List Char)) :
    List Char → Option (List Char × List Char)
  | [] => escaped
  | [c] => if c = quote then some (read.reverse, []) else escaped
  | c :: d :: rest =>
    if c = quote then some (read.reverse, d :: rest)
    else if c = '\\' ∧ d = quote then
      quotedText quote (d :: c :: read) (some ((c :: read).reverse, rest)) rest
    else quotedText quote (c :: read) escaped (d :: rest)

/-- The character that a letter after a backslash stands for, in double quotes. -/
def doubleEscape? : Char → Option Char
  | '\\' => some '\\'
  | '\'' => some '\''
  | '"' => some '"'
  | 'a' => some '\x07'
  | 'b' => some '\x08'
  | 'f' => some '\x0c'
  | 'n' => some '\n'
  | 'r' => some '\r'
  | 't' => some '\t'
  | 'v' => some '\x0b'
  | _ => none

/-- The character that a letter after a backslash stands for, in single quotes. -/
def singleEscape? : Char → Option Char
  | '\\' => some '\\'
  | '\'' => some '\''
  | _ => none

/-- A text with its escapes resolved. -/
def unescape (escape? : Char → Option Char) : List Char → List Char
  | '\\' :: c :: rest =>
    match escape? c with
    | some plain => plain :: unescape escape? rest
    | none => '\\' :: unescape escape? (c :: rest)
  | c :: rest => c :: unescape escape? rest
  | [] => []
termination_by text => text.length

/-- A value without quotes up to white space and a `#`. The white space just read is given, last character first. -/
def uncommented (blanks : List Char) : List Char → List Char
  | [] => blanks.reverse
  | c :: rest =>
    if isBlank c then uncommented (c :: blanks) rest
    else if c = '#' ∧ !blanks.isEmpty then []
    else blanks.reverse ++ c :: uncommented [] rest

/-- Reads a value; gives the text after it. -/
def value (text : List Char) : Option (List Char × List Char) :=
  match text with
  | '\'' :: rest => (quotedText '\'' [] none rest).map fun (v, rest) => (unescape singleEscape? v, rest)
  | '"' :: rest => (quotedText '"' [] none rest).map fun (v, rest) => (unescape doubleEscape? v, rest)
  | text =>
    let line := text.takeWhile (!isEnd ·)
    some (trimEnd (uncommented [] line), text.drop line.length)

/-- Reads a name; a comment has none. -/
def key (text : List Char) : Option (Option (List Char) × List Char) :=
  match text with
  | '#' :: _ => some (none, text)
  | '\'' :: rest =>
    let name := rest.takeWhile (· ≠ '\'')
    match rest.drop name.length with
    | '\'' :: after => if name.isEmpty then none else some (some name, after)
    | _ => none
  | text =>
    let name := text.takeWhile fun c => c != '=' && c != '#' && !isBlank c
    if name.isEmpty then none else some (some name, text.drop name.length)

/-- The text after the comment and the end of a line, if nothing else is left in it. -/
def endOfLine (text : List Char) : Option (List Char) :=
  let text := match skipInner text with
    | '#' :: rest => rest.dropWhile (!isEnd ·)
    | rest => rest
  match text with
  | [] => some []
  | '\r' :: '\n' :: rest => some rest
  | c :: rest => if isEnd c then some rest else none

/-- A name with its value, if it is given one. -/
structure Binding where
  name : String
  value : Option String
deriving DecidableEq, Repr

/-- Reads the binding of a line; gives the text after it, or where the line stops making sense. -/
def binding (text : List Char) : Except (List Char) (Option Binding × List Char) :=
  let start := skipExport text
  match key start with
  | none => .error start
  | some (name, afterName) =>
    let afterName := skipInner afterName
    let read : Except (List Char) (Option String × List Char) := match afterName with
      | '=' :: rest =>
        match value (skipInner rest) with
        | some (v, after) => .ok (some (String.ofList v), after)
        | none => .error (skipInner rest)
      | rest => .ok (none, rest)
    match read with
    | .error place => .error place
    | .ok (v, after) =>
      match endOfLine after with
      | none => .error after
      | some rest => .ok (name.map fun n => ⟨String.ofList n, v⟩, rest)

/-- The bindings of a text, line by line. -/
def bindingsFrom : (fuel : Nat) → List Char → List Binding
  | 0, _ => []
  | fuel + 1, text =>
    let text := text.dropWhile isBlank
    if text.isEmpty then []
    else match binding text with
      | .ok (some b, rest) => b :: bindingsFrom fuel rest
      | .ok (none, rest) => bindingsFrom fuel rest
      | .error place => bindingsFrom fuel (afterLine place)

def bindings (text : List Char) : List Binding := bindingsFrom (text.length + 1) text

/-! ## References -/

/-- The value of a name; nothing for a name without a value. -/
abbrev Lookup := String → Option (Option String)

/-- Reads a reference after its opening brace: the name and the default. -/
def reference (text : List Char) : Option (String × String × List Char) :=
  let name := text.takeWhile fun c => c != '\x7d' && c != ':'
  match text.drop name.length with
  | '\x7d' :: rest => some (String.ofList name, "", rest)
  | ':' :: '-' :: rest =>
    let default := rest.takeWhile (· ≠ '\x7d')
    match rest.drop default.length with
    | '\x7d' :: after => some (String.ofList name, String.ofList default, after)
    | _ => none
  | _ => none

/-- What a reference stands for. -/
def resolve (lookup : Lookup) (name default : String) : String :=
  match lookup name with
  | some v => v.getD ""
  | none => default

/-- A value with its references resolved. -/
def expandFrom (lookup : Lookup) : (fuel : Nat) → List Char → List Char
  | 0, text => text
  | _ + 1, [] => []
  | fuel + 1, '$' :: '\x7b' :: rest =>
    match reference rest with
    | some (name, default, after) => (resolve lookup name default).toList ++ expandFrom lookup fuel after
    | none => '$' :: expandFrom lookup fuel ('\x7b' :: rest)
  | fuel + 1, c :: rest => c :: expandFrom lookup fuel rest

/-- A value with its references resolved. -/
def expand (lookup : Lookup) (v : String) : String :=
  String.ofList (expandFrom lookup (v.length + 1) v.toList)

/-- Looks a name up among bindings, the last one first, and then in the environment. -/
def lookupIn (environment : List (String × String)) (bound : List Binding) : Lookup := fun name =>
  match bound.find? (·.name = name) with
  | some b => some b.value
  | none => (environment.find? (·.1 = name)).map fun e => some e.2

/-- The bindings with the references in their values resolved, each by what is bound before it; `bound` holds the ones
before, the last one first. -/
def resolveAll (environment : List (String × String)) (bound : List Binding) : List Binding → List Binding
  | [] => []
  | b :: rest =>
    let b := { b with value := b.value.map (expand (lookupIn environment bound)) }
    b :: resolveAll environment (b :: bound) rest

/-- Binds a name anew: it keeps its place and gets the new value. -/
def rebind (b : Binding) : List Binding → List Binding
  | [] => [b]
  | old :: rest => if old.name = b.name then b :: rest else old :: rebind b rest

/-- What a text binds, each name once. -/
def read (environment : List (String × String)) (text : List Char) : List Binding :=
  (resolveAll environment [] (bindings text)).foldl (fun all b => rebind b all) []

end GlobalSurvey.Dotenv
