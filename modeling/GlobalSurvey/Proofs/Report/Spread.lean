import GlobalSurvey.Proofs.Files.Names
import GlobalSurvey.Proofs.Report.Merge
import GlobalSurvey.Proofs.Text.Order
import Mathlib.Data.List.Forall2

/-!
# A report tells which lines there are, not how they were spread

A merge is refused exactly if some sink is not finalized (`merge_eq_sinkFault_iff`). Otherwise, unless a file cannot be read
(`merge_total`), it gives the lines that the sinks read back, sorted by their bytes (`merge_eq_ok_iff`), so it is the same
however the lines are spread over the sinks (`report_of_spread_lines`).
-/
namespace GlobalSurvey.Report
open GlobalSurvey.Files GlobalSurvey.Text

/-- Lines are in the lexicographic order of their bytes in UTF-8. -/
theorem lineLE_iff {a b : String} :
    lineLE a b = true ↔ LexLE (Utf8.encode a.toList) (Utf8.encode b.toList) :=
  rowLE_iff.trans (lexLE_map (fun _ _ => UInt8.lt_iff_toNat_lt.symm) fun _ _ => UInt8.toNat_inj)

namespace Sink

theorem finalized_of_readLines {s : Sink} {d : Disk} {lines : List String} (read : s.readLines d = .ok lines) :
    s.finalized = true := by
  cases finalized : s.finalized with
  | true => rfl
  | false => simp [readLines, finalized] at read

theorem readLines_memory {s : Sink} (d : Disk) (finalized : s.finalized = true) (placed : s.store = .memory) :
    s.readLines d = .ok s.lines := by
  simp [readLines, finalized, placed]

/-- A finalized sink may still fail to read its file, but is not refused as a sink. -/
theorem readLines_ne_sinkFault {s : Sink} (d : Disk) (finalized : s.finalized = true) (fault : SinkFault) :
    s.readLines d ≠ .error (.sink fault) := by
  have closed : ¬ (!s.finalized) = true := by simp [finalized]
  rw [readLines, if_neg closed]
  intro refused
  split at refused
  · cases refused
  · split at refused
    · cases refused
    · split at refused <;> cases refused

end Sink

/-- Some sinks read back some lines, each sink its own. -/
def ReadBack (d : Disk) (sinks : List Sink) (lines : List (List String)) : Prop :=
  List.Forall₂ (fun s own => s.readLines d = .ok own) sinks lines

section
variable {d : Disk} {sinks : List Sink}

theorem ReadBack.finalized {lines : List (List String)} (read : ReadBack d sinks lines) :
    ∀ s ∈ sinks, s.finalized = true := by
  induction read with
  | nil => simp
  | cons own _ ih => exact List.forall_mem_cons.mpr ⟨Sink.finalized_of_readLines own, ih⟩

theorem allLines_eq_ok_iff {all : List String} :
    allLines d sinks = .ok all ↔ ∃ lines, ReadBack d sinks lines ∧ all = lines.flatten := by
  induction sinks generalizing all with
  | nil =>
    simp only [allLines, Except.ok.injEq]
    constructor
    · rintro rfl
      exact ⟨[], .nil, rfl⟩
    · rintro ⟨_, ⟨⟩, rfl⟩
      rfl
  | cons s rest ih =>
    constructor
    · intro joined
      cases own : s.readLines d with
      | error failure => simp [allLines, own] at joined
      | ok first =>
        cases later : allLines d rest with
        | error failure => simp [allLines, own, later] at joined
        | ok more =>
          obtain ⟨lines, read, rfl⟩ := ih.mp later
          simp only [allLines, own, later, Except.ok.injEq] at joined
          exact ⟨first :: lines, .cons own read, joined.symm⟩
    · rintro ⟨_, read, rfl⟩
      cases read with
      | cons own read =>
        have later := ih.mpr ⟨_, read, rfl⟩
        simp only [allLines, own, later, List.flatten_cons]

theorem finalized_of_none_open (closed : ¬ ∃ s ∈ sinks, s.finalized = false) : ∀ s ∈ sinks, s.finalized = true :=
  fun s member => Bool.of_not_eq_false fun open_ => closed ⟨s, member, open_⟩

theorem allLines_ne_sinkFault (finalized : ∀ s ∈ sinks, s.finalized = true) (fault : SinkFault) :
    allLines d sinks ≠ .error (.sink fault) := by
  induction sinks with
  | nil => simp [allLines]
  | cons s rest ih =>
    obtain ⟨own, later⟩ := List.forall_mem_cons.mp finalized
    have first := Sink.readLines_ne_sinkFault d own fault
    simp only [allLines]
    cases read : s.readLines d with
    | error failure => simpa only [read] using first
    | ok lines =>
      cases more : allLines d rest with
      | error failure => simpa only [more] using ih later
      | ok others => simp

theorem exists_unread {failure : Failure} (unread : allLines d sinks = .error failure) :
    ∃ s ∈ sinks, s.readLines d = .error failure := by
  induction sinks with
  | nil => cases unread
  | cons s rest ih =>
    cases own : s.readLines d with
    | error first =>
      simp only [allLines, own, Except.error.injEq] at unread
      exact ⟨s, List.mem_cons_self, own.trans (congrArg _ unread)⟩
    | ok lines =>
      cases later : allLines d rest with
      | error next =>
        simp only [allLines, own, later, Except.error.injEq] at unread
        obtain ⟨other, member, refused⟩ := ih (later.trans (congrArg _ unread))
        exact ⟨other, List.mem_cons_of_mem s member, refused⟩
      | ok more => simp [allLines, own, later] at unread

theorem merge_of_open (waiting : ∃ s ∈ sinks, s.finalized = false) :
    merge d sinks = .error (.sink (.unfinishedMerge ((sinks.filter fun s => !s.finalized).map (·.name)))) := by
  obtain ⟨s, member, open_⟩ := waiting
  have listed : s ∈ sinks.filter fun s => !s.finalized := List.mem_filter.mpr ⟨member, by simp [open_]⟩
  obtain ⟨first, rest, same⟩ := List.exists_cons_of_ne_nil (List.ne_nil_of_mem listed)
  simp only [merge, same, List.map_cons]

/-- A merge is refused exactly if some sink is not finalized, and names these sinks in their order. -/
theorem merge_eq_sinkFault_iff {fault : SinkFault} :
    merge d sinks = .error (.sink fault) ↔ (∃ s ∈ sinks, s.finalized = false) ∧
      fault = .unfinishedMerge ((sinks.filter fun s => !s.finalized).map (·.name)) := by
  by_cases waiting : ∃ s ∈ sinks, s.finalized = false
  · rw [merge_of_open waiting, Except.error.injEq, Failure.sink.injEq, eq_comm]
    exact (and_iff_right waiting).symm
  · have finalized := finalized_of_none_open waiting
    have readable := allLines_ne_sinkFault (d := d) finalized fault
    simp only [merge_of_finalized finalized, waiting, false_and, iff_false]
    cases read : allLines d sinks with
    | error failure => simpa only [Except.map, read] using readable
    | ok lines => simp [Except.map]

/-- Finalized sinks have a report, unless the file of one of them cannot be read. -/
theorem merge_total (finalized : ∀ s ∈ sinks, s.finalized = true) :
    (∃ report, merge d sinks = .ok report) ∨
      ∃ s ∈ sinks, s.store ≠ .memory ∧ ∃ failure, s.readLines d = .error failure ∧ merge d sinks = .error failure := by
  rw [merge_of_finalized finalized]
  cases joined : allLines d sinks with
  | ok all => exact .inl ⟨sortLines all, rfl⟩
  | error failure =>
    obtain ⟨s, member, unread⟩ := exists_unread joined
    refine .inr ⟨s, member, ?_, failure, unread, rfl⟩
    intro placed
    rw [Sink.readLines_memory d (finalized s member) placed] at unread
    cases unread

theorem merge_of_readBack {lines : List (List String)} (read : ReadBack d sinks lines) :
    merge d sinks = .ok (sortLines lines.flatten) := by
  rw [merge_of_finalized read.finalized, allLines_eq_ok_iff.mpr ⟨lines, read, rfl⟩]
  rfl

/-- The lines in the order of their bytes are the only arrangement of them that is in order. -/
theorem eq_sortLines_iff {report lines : List String} :
    report = sortLines lines ↔ report.Perm lines ∧
      report.Pairwise fun a b => LexLE (Utf8.encode a.toList) (Utf8.encode b.toList) := by
  simp only [← lineLE_iff]
  constructor
  · rintro rfl
    exact ⟨sortLines_perm lines, pairwise_sortLines lines⟩
  · rintro ⟨perm, sorted⟩
    rw [← sortLines_eq_iff_perm.mpr perm]
    exact (List.mergeSort_of_pairwise sorted).symm

/-- A report is the lines of all sinks, in the order of their bytes. -/
theorem merge_eq_ok_iff {report : List String} :
    merge d sinks = .ok report ↔ ∃ lines, ReadBack d sinks lines ∧ report.Perm lines.flatten ∧
      report.Pairwise fun a b => LexLE (Utf8.encode a.toList) (Utf8.encode b.toList) := by
  constructor
  · intro merged
    have finalized : ∀ s ∈ sinks, s.finalized = true := by
      refine finalized_of_none_open fun waiting => ?_
      rw [merge_of_open waiting] at merged
      cases merged
    rw [merge_of_finalized finalized] at merged
    cases joined : allLines d sinks with
    | error failure => simp [joined, Except.map] at merged
    | ok all =>
      obtain ⟨lines, read, rfl⟩ := allLines_eq_ok_iff.mp joined
      simp only [joined, Except.map, Except.ok.injEq] at merged
      exact ⟨lines, read, eq_sortLines_iff.mp merged.symm⟩
  · rintro ⟨lines, read, arranged⟩
    rw [merge_of_readBack read, eq_sortLines_iff.mpr arranged]

end

/-- A merge sees nothing but which lines there are, and how often. It is refused exactly if some sink is not finalized, and
then names these sinks in their order. Otherwise there is a report, unless the file of a sink cannot be read. A report is
an arrangement of the lines that the sinks read back, in the lexicographic order of their bytes. And if two lists of sinks
read back the same lines, however these are spread over the sinks and in whatever order they come, both give the same
report. -/
theorem report_of_spread_lines (d : Disk) (sinks : List Sink) :
    (∀ fault, merge d sinks = .error (.sink fault) ↔ (∃ s ∈ sinks, s.finalized = false) ∧
        fault = .unfinishedMerge ((sinks.filter fun s => !s.finalized).map (·.name))) ∧
      ((∃ s ∈ sinks, s.finalized = false) ∨ (∃ report, merge d sinks = .ok report) ∨
        ∃ s ∈ sinks, s.store ≠ .memory ∧ ∃ failure, s.readLines d = .error failure ∧ merge d sinks = .error failure) ∧
      (∀ report, merge d sinks = .ok report ↔ ∃ lines, ReadBack d sinks lines ∧ report.Perm lines.flatten ∧
        report.Pairwise fun a b => LexLE (Utf8.encode a.toList) (Utf8.encode b.toList)) ∧
      ∀ (e : Disk) (others : List Sink) (lines more : List (List String)), ReadBack d sinks lines →
        ReadBack e others more → lines.flatten.Perm more.flatten →
          ∃ report, merge d sinks = .ok report ∧ merge e others = .ok report := by
  refine ⟨fun fault => merge_eq_sinkFault_iff, ?_, fun report => merge_eq_ok_iff, ?_⟩
  · by_cases waiting : ∃ s ∈ sinks, s.finalized = false
    · exact .inl waiting
    · exact .inr (merge_total (finalized_of_none_open waiting))
  · intro e others lines more read again perm
    refine ⟨_, merge_of_readBack read, ?_⟩
    rw [merge_of_readBack again, sortLines_eq_iff_perm.mpr perm]

/-! ## Lines in memory and in a file -/

/-- A disk with the file of a sink. -/
def spreadDisk : Disk := ⟨.directory [("s1.txt", .file (Sink.lineBytes ["é 1", "b 2"]))], [], []⟩

/-- A finalized sink in memory, and one in the file. -/
def spreadSinks : List Sink :=
  [{ name := "s0", store := .memory, written := ["a 3"], finalized := true },
    { name := "s1.txt", store := .file "s1.txt" ["s1.txt"], finalized := true }]

/-- A finalized sink with the same lines in another order. -/
def gatheredSinks : List Sink := [{ name := "s0", store := .memory, written := ["b 2", "a 3", "é 1"], finalized := true }]

theorem readBack_spreadSinks : ReadBack spreadDisk spreadSinks [["a 3"], ["é 1", "b 2"]] := by
  have held : spreadDisk.contents "s1.txt" = .ok (Sink.lineBytes ["é 1", "b 2"]) :=
    Disk.contents_of_entry ⟨by decide, by decide, by decide⟩ (by decide) (by decide) rfl rfl
  have single : ∀ line ∈ ["é 1", "b 2"], isSingleLine line = true := by decide
  refine .cons rfl (.cons ?_ .nil)
  simp only [Sink.readLines, held, Sink.linesOfBytes_lineBytes single]
  rfl

theorem report_of_spreadSinks :
    ReadBack spreadDisk spreadSinks [["a 3"], ["é 1", "b 2"]] ∧
      ReadBack spreadDisk gatheredSinks [["é 1", "a 3", "b 2"]] ∧
      ["a 3", "é 1", "b 2"].Perm ["é 1", "a 3", "b 2"] ∧
      merge spreadDisk spreadSinks = .ok ["a 3", "b 2", "é 1"] ∧
      merge spreadDisk gatheredSinks = .ok ["a 3", "b 2", "é 1"] := by
  have gathered : ReadBack spreadDisk gatheredSinks [["é 1", "a 3", "b 2"]] := .cons rfl .nil
  have perm : ["a 3", "é 1", "b 2"].Perm ["é 1", "a 3", "b 2"] := by decide
  have sorted : ["a 3", "b 2", "é 1"].Pairwise fun a b => LexLE (Utf8.encode a.toList) (Utf8.encode b.toList) := by
    simp only [← lineLE_iff]
    decide
  obtain ⟨-, -, isReport, same⟩ := report_of_spread_lines spreadDisk spreadSinks
  have first := (isReport ["a 3", "b 2", "é 1"]).mpr ⟨_, readBack_spreadSinks, by decide, sorted⟩
  obtain ⟨report, again, second⟩ := same spreadDisk gatheredSinks _ _ readBack_spreadSinks gathered perm
  cases first.symm.trans again
  exact ⟨readBack_spreadSinks, gathered, perm, first, second⟩

end GlobalSurvey.Report
