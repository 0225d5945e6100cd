import GlobalSurvey.Proofs.Sorting
import GlobalSurvey.Proofs.Text.Order
import GlobalSurvey.Report.Record

/-!
# The order of the facts of a record

Facts are in a total order in which no two different facts are equal: the text itself decides last. So the facts of a
record depend on nothing but which facts there are, and how often (`sortFacts_eq_iff_perm`).
-/
namespace GlobalSurvey.Report
open GlobalSurvey.Text

namespace FactKey

/-- The folded texts decide first, then the lengths, then the texts. -/
theorem le_iff {a b : FactKey} :
    a.le b = true ↔
      a.folded ≠ b.folded ∧ textLE a.folded b.folded = true ∨
        a.folded = b.folded ∧ (a.length < b.length ∨ a.length = b.length ∧ textLE a.text b.text = true) := by
  unfold le
  by_cases folded : a.folded = b.folded
  · by_cases length : a.length = b.length
    · simp [folded, length]
    · simp [folded, length]
  · simp [folded]

theorem le_total (a b : FactKey) : (a.le b || b.le a) = true := by
  rw [Bool.or_eq_true, le_iff, le_iff]
  by_cases folded : a.folded = b.folded
  · rcases Nat.lt_trichotomy a.length b.length with less | length | more
    · exact .inl (.inr ⟨folded, .inl less⟩)
    · rcases Bool.or_eq_true _ _ ▸ textLE_total a.text b.text with ab | ba
      · exact .inl (.inr ⟨folded, .inr ⟨length, ab⟩⟩)
      · exact .inr (.inr ⟨folded.symm, .inr ⟨length.symm, ba⟩⟩)
    · exact .inr (.inr ⟨folded.symm, .inl more⟩)
  · rcases Bool.or_eq_true _ _ ▸ textLE_total a.folded b.folded with ab | ba
    · exact .inl (.inl ⟨folded, ab⟩)
    · exact .inr (.inl ⟨Ne.symm folded, ba⟩)

theorem le_trans {a b c : FactKey} (ab : a.le b = true) (bc : b.le c = true) : a.le c = true := by
  rw [le_iff] at ab bc ⊢
  rcases ab with ⟨differ, ab⟩ | ⟨same, ab⟩ <;> rcases bc with ⟨differ', bc⟩ | ⟨same', bc⟩
  · -- the folded texts strictly ascend twice, so they do not come back
    refine .inl ⟨?_, textLE_trans ab bc⟩
    intro back
    exact differ (eq_of_textLE ab (back ▸ bc))
  · exact .inl ⟨same' ▸ differ, same' ▸ ab⟩
  · exact .inl ⟨same ▸ differ', same ▸ bc⟩
  · refine .inr ⟨same.trans same', ?_⟩
    rcases ab with less | ⟨length, ab⟩ <;> rcases bc with less' | ⟨length', bc⟩
    · exact .inl (Nat.lt_trans less less')
    · exact .inl (length' ▸ less)
    · exact .inl (length ▸ less')
    · exact .inr ⟨length.trans length', textLE_trans ab bc⟩

/-- Keys that each do not come after the other have the same text. -/
theorem text_eq_of_le {a b : FactKey} (ab : a.le b = true) (ba : b.le a = true) : a.text = b.text := by
  rw [le_iff] at ab ba
  rcases ab with ⟨differ, ab⟩ | ⟨same, ab⟩ <;> rcases ba with ⟨differ', ba⟩ | ⟨same', ba⟩
  · exact absurd (eq_of_textLE ab ba) differ
  · exact absurd same'.symm differ
  · exact absurd same.symm differ'
  · rcases ab with less | ⟨length, ab⟩ <;> rcases ba with less' | ⟨length', ba⟩
    · omega
    · omega
    · omega
    · exact eq_of_textLE ab ba

end FactKey

theorem factLE_total (a b : String) : (factLE a b || factLE b a) = true := FactKey.le_total (factKey a) (factKey b)

theorem factLE_trans (a b c : String) (ab : factLE a b = true) (bc : factLE b c = true) : factLE a c = true :=
  FactKey.le_trans ab bc

/-- Facts that each do not come after the other are the same fact. -/
theorem eq_of_factLE {a b : String} (ab : factLE a b = true) (ba : factLE b a = true) : a = b :=
  FactKey.text_eq_of_le ab ba

/-- The sorted facts tell which facts there are and how often, and nothing else. -/
theorem sortFacts_eq_iff_perm {a b : List String} : sortFacts a = sortFacts b ↔ a.Perm b :=
  mergeSort_eq_iff_perm factLE_trans factLE_total fun _ _ => eq_of_factLE

end GlobalSurvey.Report
