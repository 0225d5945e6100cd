import GlobalSurvey.Text.CaseMap
import GlobalSurvey.Text.Split

/-!
# Paths as texts

Components are parted by `/`. These functions look at the text of a path only, not at any file.
-/
namespace GlobalSurvey.Files
open GlobalSurvey.Text

/-- The text after the last occurrence of a character; all of it if there is none. -/
def afterLast (c : Char) (text : List Char) : List Char := (text.reverse.takeWhile (· ≠ c)).reverse

/-- The text up to the last occurrence of a character, that one included; nothing if there is none. -/
def uptoLast (c : Char) (text : List Char) : List Char := (text.reverse.dropWhile (· ≠ c)).reverse

/-- The last component of a path: the name under which a unit is reported. -/
def displayName (path : String) : String := String.ofList (afterLast '/' path.toList)

/-- Appends a component or a relative path; an absolute path replaces what was before. -/
def joinPath (a b : String) : String :=
  if b.toList.head? = some '/' then b
  else if a.isEmpty ∨ a.toList.getLast? = some '/' then a ++ b
  else a ++ "/" ++ b

/-- Splits a path before its last component; the slashes between belong to neither, unless there is nothing else. -/
def splitPath (path : String) : String × String :=
  let text := path.toList
  let directory := uptoLast '/' text
  let trimmed := (directory.reverse.dropWhile (· = '/')).reverse
  (String.ofList (if trimmed.isEmpty then directory else trimmed), String.ofList (afterLast '/' text))

def directoryOf (path : String) : String := (splitPath path).1

def components (path : String) : List String :=
  ((splitAt '/' path.toList).filter (· ≠ [])).map String.ofList

/-- Drops the components that stay in place and those that are taken back again, of an absolute path. -/
def collapse (kept : List String) : List String → List String
  | [] => kept.reverse
  | part :: rest =>
    if part = "." then collapse kept rest
    else if part = ".." then collapse (kept.drop 1) rest
    else collapse (part :: kept) rest

/-- The absolute form of a path, from the absolute path of the working directory. Two slashes at the start stay two. -/
def absolutePath (working path : String) : String :=
  let full := joinPath working path
  let slashes := (full.toList.takeWhile (· = '/')).length
  (if slashes = 2 then "//" else "/") ++ "/".intercalate (collapse [] (components full))

/-! ## Extensions -/

/-- Splits a file name before its extension: the last point of the last component and what follows it. Points at the
start of the component begin no extension. -/
def splitExtension (path : List Char) : List Char × List Char :=
  let base := afterLast '/' path
  let stem := uptoLast '.' base
  if stem.any (· ≠ '.') then
    let extension := '.' :: afterLast '.' base
    (path.take (path.length - extension.length), extension)
  else (path, [])

/-- The file name has one of the extensions, upper and lower case being one. -/
def hasExtension (filename : String) (extensions : List String) : Bool :=
  (extensions.map fun e => CaseMap.lower e.toList).contains (CaseMap.lower (splitExtension filename.toList).2)

end GlobalSurvey.Files
