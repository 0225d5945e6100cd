import GlobalSurvey.Text.Order

/-!
# The comparison of rows is the lexicographic order

`rowLE` decides whether a row is the same as another or comes before it in lexicographic order (`rowLE_iff`). The order
does not change under a map that keeps the order of the entries (`lexLE_map`), so bytes may be compared as numbers. Texts
are in the order of the rows of their characters' numbers.
-/
namespace GlobalSurvey.Text

section
variable {α β : Type} [LT α] [LT β]

/-- The first row is the second one, or comes before it in lexicographic order. -/
def LexLE (a b : List α) : Prop := a = b ∨ List.Lex (· < ·) a b

theorem lexLE_nil (a : List α) : LexLE [] a := by
  cases a with
  | nil => exact .inl rfl
  | cons => exact .inr .nil

theorem not_lexLE_nil (x : α) (a : List α) : ¬ LexLE (x :: a) [] := by
  rintro (same | less)
  · cases same
  · cases less

theorem lexLE_cons {x y : α} {a b : List α} : LexLE (x :: a) (y :: b) ↔ x < y ∨ x = y ∧ LexLE a b := by
  constructor
  · rintro (same | less)
    · cases same
      exact .inr ⟨rfl, .inl rfl⟩
    · cases less with
      | rel less => exact .inl less
      | cons less => exact .inr ⟨rfl, .inr less⟩
  · rintro (less | ⟨rfl, rfl | less⟩)
    · exact .inr (.rel less)
    · exact .inl rfl
    · exact .inr (.cons less)

theorem lexLE_map {f : α → β} (keeps : ∀ x y, f x < f y ↔ x < y) (injective : ∀ x y, f x = f y ↔ x = y) {a b : List α} :
    LexLE (a.map f) (b.map f) ↔ LexLE a b := by
  induction a generalizing b with
  | nil => simp [lexLE_nil]
  | cons x a ih =>
    cases b with
    | nil => simp [not_lexLE_nil]
    | cons y b => simp only [List.map_cons, lexLE_cons, keeps, injective, ih]

end

theorem rowLE_iff {a b : List Nat} : rowLE a b = true ↔ LexLE a b := by
  induction a generalizing b with
  | nil => simp [rowLE, lexLE_nil]
  | cons x a ih =>
    cases b with
    | nil => simp [rowLE, not_lexLE_nil]
    | cons y b =>
      rw [rowLE, lexLE_cons]
      rcases Nat.lt_trichotomy x y with less | rfl | more
      · simp [less]
      · simp [ih]
      · simp [more, Nat.lt_asymm more, Nat.ne_of_gt more]

/-! ## Texts -/

theorem codes_inj {a b : String} : codes a.toList = codes b.toList ↔ a = b := by
  rw [codes, codes, List.map_inj_right fun _ _ => Char.toNat_inj.mp, String.toList_inj]

theorem textLE_iff {a b : String} : textLE a b = true ↔ LexLE (codes a.toList) (codes b.toList) := rowLE_iff

theorem textLE_total (a b : String) : (textLE a b || textLE b a) = true := rowLE_total _ _

theorem textLE_trans {a b c : String} (ab : textLE a b = true) (bc : textLE b c = true) : textLE a c = true :=
  rowLE_trans ab bc

/-- Texts that each do not come after the other are the same text. -/
theorem eq_of_textLE {a b : String} (ab : textLE a b = true) (ba : textLE b a = true) : a = b :=
  codes_inj.mp (eq_of_rowLE ab ba)

theorem rowLE_append (row a b : List Nat) : rowLE (row ++ a) (row ++ b) = rowLE a b := by
  induction row with
  | nil => rfl
  | cons x row ih => simp [rowLE, ih]

/-- Texts with a common beginning are in the order of what follows it. -/
theorem textLE_append (first a b : String) : textLE (first ++ a) (first ++ b) = textLE a b := by
  simp [textLE, codes, rowLE_append]

theorem sortTexts_map (first : String) (texts : List String) :
    sortTexts (texts.map (first ++ ·)) = (sortTexts texts).map (first ++ ·) :=
  (List.map_mergeSort fun a _ b _ => (textLE_append first a b).symm).symm

/-- Sorted texts without repetition strictly ascend. -/
theorem ascending_sortTexts {texts : List String} (once : texts.Nodup) :
    (sortTexts texts).Pairwise fun a b => List.Lex (· < ·) (codes a.toList) (codes b.toList) := by
  have sorted : (sortTexts texts).Pairwise fun a b => textLE a b = true :=
    List.pairwise_mergeSort (fun a b c => @textLE_trans a b c) textLE_total texts
  have different : (sortTexts texts).Nodup := (List.mergeSort_perm texts textLE).nodup_iff.mpr once
  refine (sorted.and different).imp ?_
  rintro a b ⟨ordered, different⟩
  rcases textLE_iff.mp ordered with same | less
  · exact absurd (codes_inj.mp same) different
  · exact less

end GlobalSurvey.Text
