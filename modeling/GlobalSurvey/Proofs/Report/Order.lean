import GlobalSurvey.Proofs.Sorting
import GlobalSurvey.Proofs.Text.Utf8
import GlobalSurvey.Report.Merge

/-!
# The order of a report

Lines are in a total order, by their bytes, in which no two different lines are equal. So the sorted lines depend on
nothing but which lines there are, and how often (`sortLines_eq_iff_perm`).
-/
namespace GlobalSurvey.Report
open GlobalSurvey.Text

theorem lineKey_injective {a b : String} (same : lineKey a = lineKey b) : a = b := by
  have bytes : Utf8.encode a.toList = Utf8.encode b.toList :=
    (List.map_inj_right fun _ _ => UInt8.toNat_inj.mp).mp same
  exact String.toList_inj.mp (Utf8.encode_injective bytes)

theorem lineLE_total (a b : String) : (lineLE a b || lineLE b a) = true := rowLE_total (lineKey a) (lineKey b)

theorem lineLE_trans (a b c : String) (ab : lineLE a b = true) (bc : lineLE b c = true) : lineLE a c = true :=
  rowLE_trans ab bc

/-- Lines that each do not come after the other are the same line. -/
theorem eq_of_lineLE {a b : String} (ab : lineLE a b = true) (ba : lineLE b a = true) : a = b :=
  lineKey_injective (eq_of_rowLE ab ba)

theorem sortLines_perm (lines : List String) : (sortLines lines).Perm lines := List.mergeSort_perm lines lineLE

theorem pairwise_sortLines (lines : List String) : (sortLines lines).Pairwise fun a b => lineLE a b = true :=
  List.pairwise_mergeSort lineLE_trans lineLE_total lines

@[simp] theorem length_sortLines (lines : List String) : (sortLines lines).length = lines.length :=
  List.length_mergeSort lines

/-- The sorted lines tell which lines there are and how often, and nothing else. -/
theorem sortLines_eq_iff_perm {a b : List String} : sortLines a = sortLines b ↔ a.Perm b :=
  mergeSort_eq_iff_perm lineLE_trans lineLE_total fun _ _ => eq_of_lineLE

end GlobalSurvey.Report
