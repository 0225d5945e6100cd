import GlobalSurvey.Proofs.Files.Resolution
import GlobalSurvey.Proofs.Text.Utf8
import GlobalSurvey.Report.Sink

/-!
# Sinks and their lines

What a sink takes (`append_eq_ok_iff`), and that its lines are read back as they were written, from memory and from a
file alike (`readLines_flushAll`). Files are read after the lines of all sinks have reached them, so every sink needs a
file of its own (`Stores`).
-/
namespace GlobalSurvey.Report
open GlobalSurvey.Files GlobalSurvey.Text

theorem isSingleLine_iff {line : String} : isSingleLine line = true ↔ '\n' ∉ line.toList ∧ '\r' ∉ line.toList := by
  simp [isSingleLine]

namespace Sink

/-! ## Taking records -/

/-- A sink that nothing was done with. -/
structure IsNew (s : Sink) : Prop where
  units : s.units = []
  written : s.written = []
  finalized : s.finalized = false

/-- All lines that a sink holds are single lines. -/
def IsClean (s : Sink) : Prop := ∀ line ∈ s.lines, isSingleLine line = true

theorem IsNew.lines {s : Sink} (new : s.IsNew) : s.lines = [] := by simp [Sink.lines, new.written]

theorem IsNew.clean {s : Sink} (new : s.IsNew) : s.IsClean := by simp [IsClean, new.lines]

/-- A sink takes a record if it is not finalized, holds no record of the unit, and the record is a single line. -/
theorem append_eq_ok_iff {s t : Sink} {r : Record} :
    s.append r = .ok t ↔ s.finalized = false ∧ r.unit ∉ s.units ∧ isSingleLine r.render = true ∧
      t = { s with units := r.unit :: s.units, written := r.render :: s.written } := by
  unfold append
  split
  · rename_i finalized
    simp [finalized]
  · rename_i unfinished
    split
    · rename_i held
      simp [List.contains_iff_mem.mp held]
    · rename_i new
      split
      · rename_i several
        have several : ¬ isSingleLine r.render = true := by simpa using several
        simp [several]
      · rename_i single
        have new : r.unit ∉ s.units := fun held => new (List.contains_iff_mem.mpr held)
        have single : isSingleLine r.render = true := by simpa using single
        simp [unfinished, new, single, eq_comm]

theorem lines_append {s t : Sink} {r : Record} (taken : s.append r = .ok t) : t.lines = s.lines ++ [r.render] := by
  obtain ⟨-, -, -, rfl⟩ := append_eq_ok_iff.mp taken
  simp [Sink.lines]

theorem clean_append {s t : Sink} {r : Record} (clean : s.IsClean) (taken : s.append r = .ok t) : t.IsClean := by
  intro line member
  rw [lines_append taken, List.mem_append, List.mem_singleton] at member
  rcases member with old | rfl
  · exact clean line old
  · exact (append_eq_ok_iff.mp taken).2.2.1

/-- A sink that is closed is finalized, and as it was otherwise. -/
theorem eq_of_finalize {s t : Sink} (closed : s.finalize = .ok t) : t = { s with finalized := true } := by
  unfold finalize at closed
  split at closed
  · rename_i finalized
    cases closed
    rw [← finalized]
  · split at closed
    · cases closed
    · cases closed
      rfl

/-- Closing a sink fails if it is open and closing it ends in a failure. -/
theorem finalize_eq_error_iff {s : Sink} {failure : Failure} :
    s.finalize = .error failure ↔ s.finalized = false ∧ s.closingFault = some failure := by
  unfold finalize
  split
  · rename_i finalized
    simp [finalized]
  · rename_i unfinished
    split
    · rename_i fault same
      simp [unfinished, same]
    · rename_i none
      simp [none]

/-- A sink can be closed if it is closed already, or closing it ends in no failure. -/
theorem closable_of_finalize {s t : Sink} (closed : s.finalize = .ok t) :
    (s.finalized || s.closingFault.isNone) = true := by
  unfold finalize at closed
  split at closed
  · rename_i finalized
    simp [finalized]
  · split at closed
    · cases closed
    · rename_i none
      simp [none]

theorem lines_of_finalize {s t : Sink} (closed : s.finalize = .ok t) : t.lines = s.lines := by
  rw [eq_of_finalize closed]
  rfl

/-! ## Bytes and lines -/

/-- The bytes of single lines are read as these lines. -/
theorem linesOfBytes_lineBytes {lines : List String} (single : ∀ line ∈ lines, isSingleLine line = true) :
    linesOfBytes (lineBytes lines) = .ok lines := by
  have free : ∀ part ∈ lines.map String.toList, '\n' ∉ part := by
    intro part member
    obtain ⟨line, inside, rfl⟩ := List.mem_map.mp member
    exact (isSingleLine_iff.mp (single line inside)).1
  have parts := splitAt_flatMap_terminated free
  rw [List.flatMap_map] at parts
  unfold linesOfBytes lineBytes
  rw [Codec.decodeUtf8_encode]
  simp only [parts, List.dropLast_concat, List.map_map]
  simp

end Sink

/-! ## Places of lines -/

namespace Store

/-- The place is ready for lines: a file is found under its path, and empty. -/
def IsReady (d : Disk) : Store → Prop
  | .memory => True
  | .file path location => d.Leads path location ∧ d.root.get? location = some (.file [])

/-- The places are not the same file. -/
def Apart (a b : Store) : Prop := ∀ path other location, a = .file path location → b ≠ .file other location

theorem IsReady.keeps {old new : Disk} {store : Store} (ready : store.IsReady old) (keeps : old.Keeps new)
    (same : ∀ path location, store = .file path location →
      new.root.get? location = old.root.get? location) : store.IsReady new := by
  cases store with
  | memory => trivial
  | file path location => exact ⟨ready.1.keeps keeps, (same path location rfl).trans ready.2⟩

end Store

/-- Places of lines on a disk: all of them are ready, and no two are the same file. -/
structure Stores (d : Disk) (stores : List Store) : Prop where
  ready : ∀ store ∈ stores, store.IsReady d
  apart : stores.Pairwise Store.Apart

theorem Stores.sublist {d : Disk} {some all : List Store} (stores : Stores d all) (among : some.Sublist all) :
    Stores d some :=
  ⟨fun store member => stores.ready store (among.subset member), stores.apart.sublist among⟩

namespace Sink

/-- What the lines of a sink change on the disk: nothing but its own file. -/
theorem flush_keeps {s : Sink} {d : Disk} (ready : s.store.IsReady d) :
    d.Keeps (s.flush d) ∧ ∀ location content, d.root.get? location = some (.file content) →
      (∀ path, s.store ≠ .file path location) → (s.flush d).root.get? location = some (.file content) := by
  unfold flush
  cases place : s.store with
  | memory => exact ⟨Disk.Keeps.refl d, fun _ _ file _ => file⟩
  | file path own =>
    rw [place] at ready
    simp only
    rw [Disk.overwrite_empty ready.2]
    refine ⟨Disk.keeps_put_file ready.2 _, ?_⟩
    intro location content file other
    refine Node.get?_put_file _ _ ?_ file
    rintro ⟨below, rfl⟩
    obtain rfl := Node.eq_nil_of_get?_file ready.2 file
    rw [List.append_nil] at other
    exact other path rfl

/-- The lines that reached the file of a sink are in it. -/
theorem flush_file {s : Sink} {d : Disk} {path : String} {location : Location} (place : s.store = .file path location)
    (ready : s.store.IsReady d) : (s.flush d).root.get? location = some (.file (lineBytes s.lines)) := by
  rw [place] at ready
  simp only [flush, place, Disk.overwrite_empty ready.2]
  exact Node.get?_put_present ready.2 _

/-- The disk after the lines of some sinks have reached their files. -/
def flushAll (sinks : List Sink) (d : Disk) : Disk := sinks.foldl (fun d s => s.flush d) d

/-- The other places stay ready when the lines of one sink reach their file. -/
theorem stores_flush {s : Sink} {rest : List Sink} {d : Disk} (stores : Stores d ((s :: rest).map store)) :
    Stores (s.flush d) (rest.map store) := by
  obtain ⟨ready, apart⟩ := stores
  rw [List.map_cons] at ready apart
  have own := ready s.store List.mem_cons_self
  obtain ⟨keeps, others⟩ := flush_keeps own
  refine ⟨?_, (List.pairwise_cons.mp apart).2⟩
  intro other member
  have waiting := ready other (List.mem_cons_of_mem _ member)
  refine waiting.keeps keeps ?_
  intro path location place
  rw [place] at waiting
  rw [waiting.2, others location [] waiting.2]
  intro first same
  exact (List.pairwise_cons.mp apart).1 other member first path location same place

theorem flushAll_keeps {sinks : List Sink} {d : Disk} (stores : Stores d (sinks.map store)) :
    d.Keeps (flushAll sinks d) ∧ ∀ location content, d.root.get? location = some (.file content) →
      (∀ s ∈ sinks, ∀ path, s.store ≠ .file path location) →
      (flushAll sinks d).root.get? location = some (.file content) := by
  induction sinks generalizing d with
  | nil => exact ⟨Disk.Keeps.refl d, fun _ _ file _ => file⟩
  | cons s rest ih =>
    obtain ⟨first, others⟩ := flush_keeps (stores.ready s.store (by simp))
    obtain ⟨later, more⟩ := ih (stores_flush stores)
    refine ⟨first.trans later, ?_⟩
    intro location content file other
    refine more location content (others location content file (other s List.mem_cons_self)) ?_
    exact fun t member => other t (List.mem_cons_of_mem s member)

/-- Once the lines of all sinks have reached their places, every finalized sink reads its lines back. -/
theorem readLines_flushAll {sinks : List Sink} {d : Disk} (stores : Stores d (sinks.map store)) {s : Sink}
    (member : s ∈ sinks) (clean : s.IsClean) (finalized : s.finalized = true) :
    s.readLines (flushAll sinks d) = .ok s.lines := by
  induction sinks generalizing d with
  | nil => cases member
  | cons first rest ih =>
    rcases List.mem_cons.mp member with rfl | later
    · unfold readLines
      rw [finalized]
      cases place : s.store with
      | memory => rfl
      | file path location =>
        have ready : s.store.IsReady d := stores.ready s.store (by simp)
        have file := flush_file place ready
        have leads : d.Leads path location := by
          rw [place] at ready
          exact ready.1
        obtain ⟨keeps, others⟩ := flushAll_keeps (stores_flush stores)
        have elsewhere : ∀ t ∈ rest, ∀ other, t.store ≠ .file other location := fun t inside other same =>
          (List.pairwise_cons.mp stores.apart).1 t.store (List.mem_map_of_mem inside) path other location place same
        have content := others location _ file elsewhere
        have read : (flushAll (s :: rest) d).contents path = .ok (lineBytes s.lines) :=
          Disk.contents_of_leads ((leads.keeps (flush_keeps ready).1).keeps keeps) content
        simp only [Bool.not_true, Bool.false_eq_true, if_false, read, linesOfBytes_lineBytes clean]
    · exact ih (stores_flush stores) later

end Sink

end GlobalSurvey.Report
