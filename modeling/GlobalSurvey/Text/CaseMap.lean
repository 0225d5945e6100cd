import GlobalSurvey.Text.CaseMap.Table

/-!
# Case folding, lower case and upper case

All are the full maps, under which a character may become several. A capital sigma becomes a final small sigma at the
end of a word: a cased character stands before it and none after it, case-ignorable characters aside.
-/
namespace GlobalSurvey.Text.CaseMap

def foldChar (c : Char) : List Char :=
  if c.toNat < 128 then [c.toLower] else (foldMap.get.find? c).getD [c]

def fold (text : List Char) : List Char := text.flatMap foldChar

/-- The first character that is not case-ignorable is cased. -/
def meetsCased : List Char → Bool
  | [] => false
  | c :: rest =>
    if ignorableRanges.get.contains c.toNat then meetsCased rest else casedRanges.get.contains c.toNat

/-- The lower case of a character, with the characters before it, last one first, and those after it. -/
def lowerChar (before : List Char) (c : Char) (after : List Char) : List Char :=
  if c.toNat < 128 then [c.toLower]
  else if c = 'Σ' then (if meetsCased before && !meetsCased after then ['ς'] else ['σ'])
  else (lowerMap.get.find? c).getD [c]

/-- The lower case of a text after the characters `before`, last one first. -/
def lowerFrom (before : List Char) : List Char → List Char
  | [] => []
  | c :: rest => lowerChar before c rest ++ lowerFrom (c :: before) rest

def lower (text : List Char) : List Char := lowerFrom [] text

def upperChar (c : Char) : List Char :=
  if c.toNat < 128 then [c.toUpper] else (upperMap.get.find? c).getD [c]

def upper (text : List Char) : List Char := text.flatMap upperChar

def lowerString (s : String) : String := String.ofList (lower s.toList)

def foldString (s : String) : String := String.ofList (fold s.toList)

end GlobalSurvey.Text.CaseMap
