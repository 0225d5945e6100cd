import GlobalSurvey.Proofs.Report.Order
import GlobalSurvey.Proofs.Report.Sink

/-!
# What a merge gives

The report of finalized sinks that are read back is the sorted lines of all of them (`merge_eq`), and a report that was
written is found in its file (`contents_write`).
-/
namespace GlobalSurvey.Report
open GlobalSurvey.Files GlobalSurvey.Text

theorem allLines_eq {d : Disk} {sinks : List Sink} (read : ∀ s ∈ sinks, s.readLines d = .ok s.lines) :
    allLines d sinks = .ok (sinks.flatMap Sink.lines) := by
  induction sinks with
  | nil => rfl
  | cons s rest ih =>
    have later := ih fun t member => read t (List.mem_cons_of_mem s member)
    simp only [allLines, read s List.mem_cons_self, later, List.flatMap_cons]

/-- The merge of finalized sinks is what comes of reading all of them, sorted. -/
theorem merge_of_finalized {d : Disk} {sinks : List Sink} (finalized : ∀ s ∈ sinks, s.finalized = true) :
    merge d sinks = (allLines d sinks).map sortLines := by
  have none : sinks.filter (fun s => !s.finalized) = [] := by
    rw [List.filter_eq_nil_iff]
    intro s member
    simp [finalized s member]
  simp only [merge, none, List.map_nil]
  cases allLines d sinks <;> rfl

theorem merge_eq {d : Disk} {sinks : List Sink} (finalized : ∀ s ∈ sinks, s.finalized = true)
    (read : ∀ s ∈ sinks, s.readLines d = .ok s.lines) : merge d sinks = .ok (sortLines (sinks.flatMap Sink.lines)) := by
  rw [merge_of_finalized finalized, allLines_eq read]
  rfl

theorem mem_readable_iff {sinks : List (Int × Sink)} {s : Sink} :
    s ∈ readable sinks ↔ s ∈ sinks.map Prod.snd ∧ s.finalized = true := by
  simp only [readable, List.mem_map, List.mem_filter]
  constructor
  · rintro ⟨entry, ⟨member, finalized⟩, rfl⟩
    exact ⟨⟨entry, member, rfl⟩, finalized⟩
  · rintro ⟨⟨entry, member, rfl⟩, finalized⟩
    exact ⟨entry, ⟨member, finalized⟩, rfl⟩

/-- The bytes of a report. -/
def reportBytes (lines : List String) : List UInt8 := Utf8.encode (render lines).toList

/-- A report that was written is found under the path that is given back. -/
theorem contents_write {d : Disk} {lines : List String} {path absolute : String}
    (written : (write d lines path).path = .ok absolute) :
    (write d lines path).disk.contents absolute = .ok (reportBytes lines) := by
  unfold write at written ⊢
  cases made : d.makePath (directoryOf (absolutePath (pathOf d.working) path)) with
  | mk above fault =>
    simp only [made] at written ⊢
    cases fault with
    | some fault => cases written
    | none =>
      simp only at written ⊢
      cases stored : above.store (absolutePath (pathOf d.working) path) (Utf8.encode (render lines).toList) with
      | error fault =>
        simp only [stored] at written
        cases written
      | ok after =>
        simp only [stored] at written ⊢
        cases written
        exact Disk.contents_store stored

end GlobalSurvey.Report
