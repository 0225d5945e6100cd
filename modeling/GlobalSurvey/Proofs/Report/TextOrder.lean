import GlobalSurvey.Files.Scan
import GlobalSurvey.Proofs.Report.Facts
import GlobalSurvey.Proofs.Report.Spread
import GlobalSurvey.Proofs.Text.ByteOrder

/-!
# Reports, scans and facts are in one order

The lines of a report are in the order of their bytes, found files and the facts of a record in that of their characters'
numbers. These are one order (`strictMono_lineKey`), so each of the three may be said in terms of the other order. The
main statement is `byte_order_is_text_order`.
-/
namespace GlobalSurvey.Report
open GlobalSurvey.Files GlobalSurvey.Text

theorem strictMono_lineKey : StrictMono lineKey := by
  intro a b less
  have bytes : Utf8.encode a.toList < Utf8.encode b.toList := Utf8.encode_lt_encode (String.lt_iff_toList_lt.mp less)
  exact List.map_lt (fun _ _ => UInt8.lt_iff_toNat_lt.mp) bytes

theorem lineKey_lt_iff {a b : String} : lineKey a < lineKey b ↔ codes a.toList < codes b.toList :=
  strictMono_lineKey.lt_iff_lt.trans strictMono_codes_toList.lt_iff_lt.symm

/-- The bytes of texts compare as the numbers of their characters. -/
theorem cmp_lineKey (a b : String) : cmp (lineKey a) (lineKey b) = cmp (codes a.toList) (codes b.toList) := by
  simp only [cmp, cmpUsing, lineKey_lt_iff]

theorem lineLE_eq_textLE (a b : String) : lineLE a b = textLE a b := by
  rw [Bool.eq_iff_iff, lineLE, rowLE_iff_le, strictMono_lineKey.le_iff_le, textLE_iff_le]

theorem sortLines_eq_sortTexts (lines : List String) : sortLines lines = sortTexts lines := by
  have same : lineLE = textLE := funext fun a => funext fun b => lineLE_eq_textLE a b
  rw [sortLines, sortTexts, same]

/-- A report is the lines that the sinks read back, sorted as texts. -/
theorem merge_eq_sortTexts {d : Disk} {sinks : List Sink} {report : List String} :
    merge d sinks = .ok report ↔ ∃ lines, ReadBack d sinks lines ∧ report = sortTexts lines.flatten := by
  simp only [merge_eq_ok_iff, ← eq_sortLines_iff, sortLines_eq_sortTexts]

/-- A scan gives the files that it finds, sorted by the bytes of their paths. -/
theorem scan_eq_sortLines {d : Disk} {root : String} {extensions units : List String} :
    scan d root extensions = .ok units ↔ ∃ entries, d.node? root = .ok (.directory entries) ∧
      units = sortLines (filesIn d.isDirectory extensions root entries) := by
  unfold scan
  constructor
  · intro scanned
    split at scanned
    · rename_i entries found
      cases scanned
      exact ⟨entries, found, (sortLines_eq_sortTexts _).symm⟩
    · cases scanned
  · rintro ⟨entries, found, rfl⟩
    rw [found, sortLines_eq_sortTexts]

/-- Facts are arranged by the bytes of their folded texts, then by their lengths, then by their own bytes. -/
theorem factLE_iff_bytes {a b : String} :
    factLE a b = true ↔ lineKey (CaseMap.foldString a) < lineKey (CaseMap.foldString b) ∨
      CaseMap.foldString a = CaseMap.foldString b ∧
        (a.length < b.length ∨ a.length = b.length ∧ lineKey a ≤ lineKey b) := by
  have folded (x y : String) : x ≠ y ∧ textLE x y = true ↔ lineKey x < lineKey y := by
    rw [strictMono_lineKey.lt_iff_lt, textLE_iff_le, and_comm, lt_iff_le_and_ne]
  rw [factLE, FactKey.le_iff, folded, textLE_iff_le, strictMono_lineKey.le_iff_le]
  rfl

/-- The order of bytes is the order of texts. The bytes of two texts compare as the numbers of their characters do, and are
the same for one text only; so a line comes before another in a report exactly if it does as a text. A report is therefore
the lines of its sinks, sorted as found files are; found files are sorted as the lines of a report are; and facts are in
the order of the bytes of their folded texts, then of their lengths, then of their own bytes. -/
theorem byte_order_is_text_order :
    (∀ a b : String, cmp (lineKey a) (lineKey b) = cmp (codes a.toList) (codes b.toList) ∧
        (lineKey a = lineKey b ↔ a = b) ∧ lineLE a b = textLE a b) ∧
      (∀ d sinks report, merge d sinks = .ok report ↔
        ∃ lines, ReadBack d sinks lines ∧ report = sortTexts lines.flatten) ∧
      (∀ d root extensions units, scan d root extensions = .ok units ↔
        ∃ entries, d.node? root = .ok (.directory entries) ∧
          units = sortLines (filesIn d.isDirectory extensions root entries)) ∧
      ∀ a b, factLE a b = true ↔ lineKey (CaseMap.foldString a) < lineKey (CaseMap.foldString b) ∨
        CaseMap.foldString a = CaseMap.foldString b ∧
          (a.length < b.length ∨ a.length = b.length ∧ lineKey a ≤ lineKey b) := by
  refine ⟨?_, fun _ _ _ => merge_eq_sortTexts, fun _ _ _ _ => scan_eq_sortLines, fun _ _ => factLE_iff_bytes⟩
  intro a b
  exact ⟨cmp_lineKey a b, strictMono_lineKey.injective.eq_iff, lineLE_eq_textLE a b⟩

/-- Characters above `U+FFFF` come after all others in both orders. -/
example : cmp (lineKey "\uffff") (lineKey "😀") = .lt ∧ cmp (codes "\uffff".toList) (codes "😀".toList) = .lt := by decide

end GlobalSurvey.Report
