import Std.Data.HashMap
import GlobalSurvey.Text.Split

/-!
# Character tables kept as text

A table is a row of items parted by spaces and line ends. Numbers are hexadecimal. A class is a list of items `a` or `a-b`;
a map has items `a=t` (one character), `a=t+u` (several), `a-b=t` (a run with a constant distance) and `a-b/2=t`
(every second character of a run). Items are in ascending order, so a look-up is a binary search.
-/
namespace GlobalSurvey.Text

/-- The value of a hexadecimal digit, zero for any other character. -/
def hexDigitValue (c : Char) : Nat :=
  if '0' ≤ c ∧ c ≤ '9' then c.toNat - 48
  else if 'a' ≤ c ∧ c ≤ 'f' then c.toNat - 87
  else if 'A' ≤ c ∧ c ≤ 'F' then c.toNat - 55
  else 0

/-- The number that a row of hexadecimal digits writes. -/
def hexValue (digits : List Char) : Nat := digits.foldl (fun n c => 16 * n + hexDigitValue c) 0

def items (text : String) : List (List Char) :=
  (splitAt ' ' (text.toList.map fun c => if c = '\n' then ' ' else c)).filter (· ≠ [])

/-- The ends of a run `a-b`; a single number is a run of one. -/
def runEnds (text : List Char) : Nat × Nat :=
  match cut '-' text with
  | (first, none) => (hexValue first, hexValue first)
  | (first, some last) => (hexValue first, hexValue last)

/-- Searches a row sorted by key for the last entry whose key is at most `n`. -/
def lastAtMost {α : Type} (row : Array α) (key : α → Nat) (n : Nat) : (fuel low high : Nat) → Option α
  | 0, _, _ => none
  | fuel + 1, low, high =>
    if low < high then
      let middle := (low + high) / 2
      match row[middle]? with
      | none => none
      | some entry =>
        if key entry ≤ n then
          if middle + 1 < high then
            match lastAtMost row key n fuel (middle + 1) high with
            | some later => some later
            | none => some entry
          else some entry
        else lastAtMost row key n fuel low middle
    else none

/-- The entry of a sorted row whose key is the greatest one not above `n`. -/
def floorEntry {α : Type} (row : Array α) (key : α → Nat) (n : Nat) : Option α :=
  lastAtMost row key n (row.size + 1) 0 row.size

/-- A set of characters, as ascending disjoint ranges. -/
abbrev Ranges := Array (Nat × Nat)

def Ranges.ofText (text : String) : Ranges := ((items text).map runEnds).toArray

def Ranges.contains (ranges : Ranges) (n : Nat) : Bool :=
  match floorEntry ranges Prod.fst n with
  | some (_, last) => n ≤ last
  | none => false

/-- A run of characters that a map moves by one distance, or one character with its image. -/
structure MapRun where
  first : Nat
  last : Nat
  /-- The distance between neighbours of the run. -/
  step : Nat
  /-- The image of the first character. -/
  image : List Nat

/-- A map from characters to rows of characters, the identity outside its runs. -/
abbrev CharMap := Array MapRun

/-- The runs that a table text lists. -/
def CharMap.ofText (text : String) : CharMap :=
  ((items text).map fun item =>
    match cut '=' item with
    | (source, image) =>
      match cut '/' source with
      | (run, step) =>
        let (first, last) := runEnds run
        { first, last
          step := match step with
            | some digits => hexValue digits
            | none => 1
          image := (splitAt '+' (image.getD [])).map hexValue : MapRun }).toArray

/-- The image of a character, if the map changes it. -/
def CharMap.find? (map : CharMap) (c : Char) : Option (List Char) :=
  match floorEntry map MapRun.first c.toNat with
  | none => none
  | some run =>
    if c.toNat ≤ run.last ∧ (c.toNat - run.first) % run.step = 0 then
      match run.image with
      | [one] => some [Char.ofNat (one + (c.toNat - run.first))]
      | several => some (several.map Char.ofNat)
    else none

/-- Ranges that each carry a value, from items `a-b=value`. -/
def rangeValues (text : String) : Array (Nat × Nat × Nat) :=
  ((items text).map fun item =>
    match cut '=' item with
    | (run, value) =>
      let (first, last) := runEnds run
      (first, last, hexValue (value.getD []))).toArray

abbrev PairMap := Std.HashMap (Nat × Nat) Nat

/-- The pairs that a table text lists as `a+b=c`. -/
def PairMap.ofText (text : String) : PairMap :=
  (items text).foldl (fun map item =>
    match cut '=' item with
    | (pair, value) =>
      match cut '+' pair with
      | (first, second) => map.insert (hexValue first, hexValue (second.getD [])) (hexValue (value.getD []))) ∅

end GlobalSurvey.Text
