import GlobalSurvey.Proofs.Report.Facts

/-!
# Records keep every fact

The facts of a record are arranged by their folded texts, then by their lengths, then by the texts themselves
(`factLE_iff`). The arrangement tells which facts there are and how often, and so does the line of the record, if no fact
holds a space (`render_eq_iff`). The main statement is `facts_arranged`.
-/
namespace GlobalSurvey.Report
open GlobalSurvey.Text

/-! ## The arrangement of facts -/

/-- The first fact does not come after the second: the folded texts decide, then the lengths, then the texts. Texts are in
the lexicographic order of the numbers of their characters. -/
def NotAfter (a b : String) : Prop :=
  List.Lex (· < ·) (codes (CaseMap.fold a.toList)) (codes (CaseMap.fold b.toList)) ∨
    CaseMap.fold a.toList = CaseMap.fold b.toList ∧
      (a.length < b.length ∨ a.length = b.length ∧ LexLE (codes a.toList) (codes b.toList))

theorem factLE_iff {a b : String} : factLE a b = true ↔ NotAfter a b := by
  have folded (s : String) : (CaseMap.foldString s).toList = CaseMap.fold s.toList := String.toList_ofList
  have same : CaseMap.foldString a = CaseMap.foldString b ↔ CaseMap.fold a.toList = CaseMap.fold b.toList :=
    String.ofList_inj
  have less : CaseMap.foldString a ≠ CaseMap.foldString b ∧
      textLE (CaseMap.foldString a) (CaseMap.foldString b) = true ↔
        List.Lex (· < ·) (codes (CaseMap.fold a.toList)) (codes (CaseMap.fold b.toList)) := by
    rw [textLE_iff, LexLE, codes_inj, folded, folded]
    constructor
    · rintro ⟨differ, same | less⟩
      · exact absurd same differ
      · exact less
    · intro less
      refine ⟨?_, .inr less⟩
      intro equal
      rw [same.mp equal] at less
      exact List.lex_irrefl Nat.lt_irrefl _ less
  rw [factLE, FactKey.le_iff]
  exact or_congr less (and_congr same (or_congr .rfl (and_congr .rfl textLE_iff)))

theorem sortFacts_perm (facts : List String) : (sortFacts facts).Perm facts := List.mergeSort_perm facts factLE

theorem pairwise_sortFacts (facts : List String) : (sortFacts facts).Pairwise NotAfter := by
  have sorted : (sortFacts facts).Pairwise fun a b => factLE a b = true :=
    List.pairwise_mergeSort factLE_trans factLE_total facts
  exact sorted.imp factLE_iff.mp

/-! ## Lines of records -/

theorem render_make (unit : String) (facts : List String) :
    (Record.make unit facts).render = Files.displayName unit ++ " ".intercalate ("" :: sortFacts facts) := by
  rw [← String.intercalate_cons_append, String.append_empty]
  rfl

/-- Texts without spaces are read off the text in which each of them follows a space. -/
theorem splitOn_intercalate_space {texts : List String} (free : ∀ text ∈ texts, ' ' ∉ text.toList) :
    (" ".intercalate ("" :: texts)).toList.splitOn ' ' = ("" :: texts).map String.toList := by
  rw [String.toList_intercalate]
  refine List.splitOn_intercalate ' ' ?_ (by simp)
  intro text member
  obtain ⟨s, inside, rfl⟩ := List.mem_map.mp member
  rcases List.mem_cons.mp inside with rfl | inside
  · simp
  · exact free s inside

theorem intercalate_space_inj {a b : List String} (freeLeft : ∀ text ∈ a, ' ' ∉ text.toList)
    (freeRight : ∀ text ∈ b, ' ' ∉ text.toList) (same : " ".intercalate ("" :: a) = " ".intercalate ("" :: b)) : a = b := by
  have left := splitOn_intercalate_space freeLeft
  have right := splitOn_intercalate_space freeRight
  rw [same, right] at left
  have texts := (List.map_inj_right fun _ _ => String.toList_inj.mp).mp left
  exact (List.cons.inj texts).2.symm

/-- The line of a record tells its facts and how often it has each of them, if no fact holds a space. -/
theorem render_eq_iff {unit : String} {a b : List String} (free : ∀ fact ∈ a ++ b, ' ' ∉ fact.toList) :
    (Record.make unit a).render = (Record.make unit b).render ↔ a.Perm b := by
  rw [render_make, render_make, String.append_right_inj, ← sortFacts_eq_iff_perm]
  constructor
  · intro same
    refine intercalate_space_inj ?_ ?_ same
    · intro fact member
      exact free fact (List.mem_append_left b ((sortFacts_perm a).mem_iff.mp member))
    · intro fact member
      exact free fact (List.mem_append_right a ((sortFacts_perm b).mem_iff.mp member))
  · intro same
    rw [same]

/-- The arranged facts are a canonical form. They are the facts, none of which comes before an earlier one; two lists are
arranged alike exactly if each is a rearrangement of the other; and arranged facts stay as they are. If no fact holds a
space, the lines of two records of one unit are the same exactly if their facts are the same, each as often. -/
theorem facts_arranged (a b : List String) :
    (sortFacts a).Perm a ∧ (sortFacts a).Pairwise NotAfter ∧ (sortFacts a = sortFacts b ↔ b.Perm a) ∧
      sortFacts (sortFacts a) = sortFacts a ∧
      ∀ unit, (∀ fact ∈ a ++ b, ' ' ∉ fact.toList) →
        ((Record.make unit a).render = (Record.make unit b).render ↔ b.Perm a) := by
  refine ⟨sortFacts_perm a, pairwise_sortFacts a, ?_, sortFacts_eq_iff_perm.mpr (sortFacts_perm a), ?_⟩
  · rw [sortFacts_eq_iff_perm, List.perm_comm]
  · intro unit free
    rw [render_eq_iff free, List.perm_comm]

/-- Variants of a fact that are folded alike, with an expansion among them, in two arrangements. -/
theorem facts_of_variants :
    (∀ fact ∈ ["aB", "straße", "Ab", "STRASSE", "Ab"] ++ ["Ab", "STRASSE", "Ab", "straße", "aB"], ' ' ∉ fact.toList) ∧
      (Record.make "d/my m.py" ["aB", "straße", "Ab", "STRASSE", "Ab"]).render =
        (Record.make "d/my m.py" ["Ab", "STRASSE", "Ab", "straße", "aB"]).render := by
  have free : ∀ fact ∈ ["aB", "straße", "Ab", "STRASSE", "Ab"] ++ ["Ab", "STRASSE", "Ab", "straße", "aB"],
      ' ' ∉ fact.toList := by decide
  obtain ⟨-, -, -, -, lines⟩ :=
    facts_arranged ["aB", "straße", "Ab", "STRASSE", "Ab"] ["Ab", "STRASSE", "Ab", "straße", "aB"]
  exact ⟨free, (lines "d/my m.py" free).mpr (by decide)⟩

end GlobalSurvey.Report
