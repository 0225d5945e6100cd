import GlobalSurvey.Text.Normal.Table

/-!
# Compatibility composition (normalization form NFKC)

A text is decomposed, its combining marks are put into the order of their classes, and pairs are composed again.
Hangul syllables are computed, all else is looked up. ASCII text is its own normal form.
-/
namespace GlobalSurvey.Text.Normal

/-! ## Hangul syllables -/

/-- The first Hangul syllable. -/
def syllableBase : Nat := 0xAC00
/-- The first leading consonant. -/
def leadBase : Nat := 0x1100
def vowelBase : Nat := 0x1161
/-- One before the first trailing consonant. -/
def tailBase : Nat := 0x11A7

def syllableParts? (n : Nat) : Option (List Char) :=
  if syllableBase ≤ n ∧ n < syllableBase + 11172 then
    let index := n - syllableBase
    let lead := Char.ofNat (leadBase + index / 588)
    let vowel := Char.ofNat (vowelBase + index % 588 / 28)
    if index % 28 = 0 then some [lead, vowel] else some [lead, vowel, Char.ofNat (tailBase + index % 28)]
  else none

/-- The Hangul syllable that two neighbours form. -/
def syllable? (first second : Nat) : Option Char :=
  if leadBase ≤ first ∧ first < leadBase + 19 ∧ vowelBase ≤ second ∧ second < vowelBase + 21 then
    some (Char.ofNat (syllableBase + ((first - leadBase) * 21 + (second - vowelBase)) * 28))
  else if syllableBase ≤ first ∧ first < syllableBase + 11172 ∧ (first - syllableBase) % 28 = 0 ∧
      tailBase < second ∧ second < tailBase + 28 then
    some (Char.ofNat (first + (second - tailBase)))
  else none

/-! ## The three steps -/

/-- The full compatibility decomposition of a character. -/
def decompose (c : Char) : List Char :=
  match syllableParts? c.toNat with
  | some parts => parts
  | none => (decompositionMap.get.find? c).getD [c]

def combiningClass (c : Char) : Nat :=
  match floorEntry classMap.get Prod.fst c.toNat with
  | some (_, last, value) => if c.toNat ≤ last then value else 0
  | none => 0

/-- Puts a mark before the marks of a higher class that end the row `reversed`, given last character first. -/
def settle (c : Char) : List Char → List Char
  | [] => [c]
  | d :: rest =>
    if combiningClass c ≠ 0 ∧ combiningClass c < combiningClass d then d :: settle c rest else c :: d :: rest

/-- Each run of combining marks in the order of their classes, equal classes as they came. -/
def reorder (text : List Char) : List Char := (text.foldl (fun reversed c => settle c reversed) []).reverse

/-- The character that two others compose to. -/
def composite? (first second : Char) : Option Char :=
  match syllable? first.toNat second.toNat with
  | some c => some c
  | none => (compositeMap.get[(first.toNat, second.toNat)]?).map Char.ofNat

/-- Composes the characters after `starter`. `held` has the marks between that did not compose, last one first. -/
def composeFrom (starter : Char) (held : List Char) : List Char → List Char
  | [] => starter :: held.reverse
  | c :: rest =>
    let free := match held with
      | [] => true
      | last :: _ => combiningClass last < combiningClass c
    match if free then composite? starter c else none with
    | some joined => composeFrom joined held rest
    | none =>
      if combiningClass c = 0 then starter :: held.reverse ++ composeFrom c [] rest
      else composeFrom starter (c :: held) rest

/-- Composes a text whose marks are in order. -/
def compose : List Char → List Char
  | [] => []
  | c :: rest => if combiningClass c = 0 then composeFrom c [] rest else c :: compose rest

/-- The normalization form NFKC. -/
def normalize (text : List Char) : List Char :=
  if text.all (·.toNat < 128) then text else compose (reorder (text.flatMap decompose))

end GlobalSurvey.Text.Normal
