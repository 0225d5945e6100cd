/-!
# Lexicographic order

Rows of numbers are compared at the first place where they differ; a row comes before every longer row that it opens.
Texts are ordered by their characters' numbers.
-/
namespace GlobalSurvey.Text

/-- The first row does not come after the second. -/
def rowLE : List Nat → List Nat → Bool
  | [], _ => true
  | _ :: _, [] => false
  | x :: a, y :: b => if x < y then true else if y < x then false else rowLE a b

def codes (text : List Char) : List Nat := text.map Char.toNat

/-- The first text does not come after the second, by the numbers of their characters. -/
def textLE (a b : String) : Bool := rowLE (codes a.toList) (codes b.toList)

def sortTexts (texts : List String) : List String := texts.mergeSort textLE

theorem rowLE_total (a b : List Nat) : (rowLE a b || rowLE b a) = true := by
  induction a generalizing b with
  | nil => simp [rowLE]
  | cons x a ih =>
    cases b with
    | nil => simp [rowLE]
    | cons y b =>
      simp only [rowLE]
      split
      · simp
      · split
        · simp
        · exact ih b

theorem rowLE_trans {a b c : List Nat} (ab : rowLE a b = true) (bc : rowLE b c = true) : rowLE a c = true := by
  induction a generalizing b c with
  | nil => rfl
  | cons x a ih =>
    cases b with
    | nil => simp [rowLE] at ab
    | cons y b =>
      cases c with
      | nil => simp [rowLE] at bc
      | cons z c =>
        simp only [rowLE] at ab bc ⊢
        split at ab
        · split at bc
          · rw [if_pos (by omega)]
          · split at bc
            · simp at bc
            · rw [if_pos (by omega)]
        · split at ab
          · simp at ab
          · split at bc
            · rw [if_pos (by omega)]
            · split at bc
              · simp at bc
              · rw [if_neg (by omega), if_neg (by omega)]
                exact ih ab bc

/-- Two rows that each do not come after the other are equal. -/
theorem eq_of_rowLE {a b : List Nat} (ab : rowLE a b = true) (ba : rowLE b a = true) : a = b := by
  induction a generalizing b with
  | nil => cases b with
    | nil => rfl
    | cons y b => simp [rowLE] at ba
  | cons x a ih =>
    cases b with
    | nil => simp [rowLE] at ab
    | cons y b =>
      simp only [rowLE] at ab ba
      split at ab
      · rw [if_neg (by omega), if_pos (by omega)] at ba
        simp at ba
      · split at ab
        · simp at ab
        · rw [if_neg (by omega), if_neg (by omega)] at ba
          rw [ih ab ba, show x = y by omega]

end GlobalSurvey.Text
