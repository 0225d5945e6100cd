
/-!
# What a sort depends on

A stable sort leaves entries that the order does not part as they stood. Where the order parts all entries of a list,
nothing of their arrangement is left: the sorted list tells which entries there are and how often, and nothing else
(`mergeSort_eq_iff_perm`).
-/
namespace GlobalSurvey

section
variable {α : Type} {le : α → α → Bool} {a b : List α}

theorem mergeSort_eq_of_perm (trans : ∀ x y z, le x y = true → le y z = true → le x z = true)
    (total : ∀ x y, (le x y || le y x) = true)
    (parted : ∀ x ∈ a, ∀ y ∈ a, le x y = true → le y x = true → x = y) (perm : a.Perm b) :
    a.mergeSort le = b.mergeSort le := by
  have sorted : (a.mergeSort le).Perm (b.mergeSort le) :=
    (List.mergeSort_perm a le).trans (perm.trans (List.mergeSort_perm b le).symm)
  refine sorted.eq_of_pairwise ?_ (List.pairwise_mergeSort trans total a) (List.pairwise_mergeSort trans total b)
  intro x y left right
  exact parted x (List.mem_mergeSort.mp left) y (perm.mem_iff.mpr (List.mem_mergeSort.mp right))

theorem mergeSort_eq_iff_perm (trans : ∀ x y z, le x y = true → le y z = true → le x z = true)
    (total : ∀ x y, (le x y || le y x) = true) (parted : ∀ x y, le x y = true → le y x = true → x = y) :
    a.mergeSort le = b.mergeSort le ↔ a.Perm b := by
  constructor
  · intro same
    exact (List.mergeSort_perm a le).symm.trans (same ▸ List.mergeSort_perm b le)
  · exact mergeSort_eq_of_perm trans total fun x _ y _ => parted x y

end

end GlobalSurvey
