import GlobalSurvey.Text.CharName.Table
import GlobalSurvey.Text.Table

/-!
# Names of characters

A character is named by an entry of the table, in any mix of cases, or by a rule: an ideograph by its number, a Hangul
syllable by the letters that it is made of. Names made by rule are in capitals.
-/
namespace GlobalSurvey.Text.CharName

/-! ## Listed names -/

/-- The number of letters that an item of the table takes over from the name before. -/
def lettersKept (c : Char) : Nat := if c.isDigit then c.toNat - 48 else c.toNat - 87

/-- A name is among those that items stand for; `before` is the name before the first item. -/
def listedAfter (before name : List Char) : List (List Char) → Bool
  | [] => false
  | [] :: items => listedAfter before name items
  | (kept :: added) :: items =>
    let here := before.take (lettersKept kept) ++ added
    here == name || listedAfter here name items

def tableItems : Thunk (List (List Char)) :=
  Thunk.mk fun _ => ((namesText.splitOn "\n").flatMap fun line => line.splitOn ",").map String.toList

def isListed (name : List Char) : Bool := listedAfter [] (name.map Char.toUpper) tableItems.get

/-! ## Names made by rule -/

/-- What follows a text at the start of another text. -/
def after? : (opening text : List Char) → Option (List Char)
  | [], text => some text
  | c :: opening, d :: text => if c = d then after? opening text else none
  | _ :: _, [] => none

/-- The characters that are ideographs of the unified set. -/
def ideographs : List (Nat × Nat) :=
  [(0x3400, 0x4DBF), (0x4E00, 0x9FFF), (0x20000, 0x2A6DF), (0x2A700, 0x2B738), (0x2B740, 0x2B81D), (0x2B820, 0x2CEA1),
    (0x2CEB0, 0x2EBE0), (0x30000, 0x3134A)]

def isCapitalDigit (c : Char) : Bool := c.isDigit || ('A' ≤ c && c ≤ 'F')

/-- Four or five digits of the number of an ideograph. -/
def isIdeograph (digits : List Char) : Bool :=
  (digits.length == 4 || digits.length == 5) && digits.all isCapitalDigit &&
    ideographs.any fun run => run.1 ≤ hexValue digits && hexValue digits ≤ run.2

/-- The names of the leading consonants of syllables. -/
def leads : List String :=
  ["G", "GG", "N", "D", "DD", "R", "M", "B", "BB", "S", "SS", "", "J", "JJ", "C", "K", "T", "P", "H"]

def vowels : List String :=
  ["A", "AE", "YA", "YAE", "EO", "E", "YEO", "YE", "O", "WA", "WAE", "OE", "YO", "U", "WEO", "WE", "WI", "YU", "EU", "YI",
    "I"]

/-- The names of the trailing consonants of syllables. -/
def tails : List String :=
  ["", "G", "GG", "GS", "N", "NJ", "NH", "D", "L", "LG", "LM", "LB", "LS", "LT", "LP", "LH", "M", "B", "BS", "S", "SS",
    "NG", "J", "C", "K", "T", "P", "H"]

/-- A leading consonant, a vowel and a trailing consonant. -/
def isSyllable (letters : List Char) : Bool :=
  leads.any fun lead =>
    match after? lead.toList letters with
    | none => false
    | some rest => vowels.any fun vowel =>
      match after? vowel.toList rest with
      | none => false
      | some tail => tails.any fun t => t.toList == tail

def isName (name : List Char) : Bool :=
  match after? "HANGUL SYLLABLE ".toList name, after? "CJK UNIFIED IDEOGRAPH-".toList name with
  | some letters, _ => isSyllable letters
  | none, some digits => isIdeograph digits
  | none, none => isListed name

end GlobalSurvey.Text.CharName
