import GlobalSurvey.Proofs.Report.LifeCycle

/-!
# A sink in a file answers as one in memory

Sinks of one name that were just made give the same answers to the same calls, wherever they keep their lines
(`history_of_reaches`). So nobody can tell a sink in a file from one in memory by what it answers
(`file_answers_as_memory`).
-/
namespace GlobalSurvey.Report
open GlobalSurvey.Files GlobalSurvey.Text

namespace Sink

/-- The bytes of a line in a file: those of its text, and a line feed. -/
def bytesOf (line : String) : List UInt8 := Utf8.encode line.toList ++ [0x0A]

/-- Lines are written one after the other. -/
theorem lineBytes_eq_flatMap (lines : List String) : lineBytes lines = lines.flatMap bytesOf := by
  have feed : Utf8.encodeChar '\n' = [0x0A] := by decide
  simp only [lineBytes, Utf8.encode, List.flatMap_assoc, List.flatMap_append, List.flatMap_singleton, feed]
  rfl

end Sink

namespace Session

theorem history_append (s : Session) (first later : List Call) :
    s.history (first ++ later) = s.history first ++ (s.after first).history later := by
  induction first generalizing s with
  | nil => rfl
  | cons c rest ih =>
    rw [List.cons_append, history, history, ih, List.cons_append]
    rfl

/-- What one session answered is what any other session with a new sink of that name answers to the same calls. -/
theorem history_of_reaches {name : String} {place other : Store} {start now fresh : Session} {past : Past}
    (shows : Shows name place [] start) (reached : Reaches start past now) (new : Shows name other [] fresh) :
    fresh.history (past.map Prod.fst) = past := by
  induction reached with
  | start => rfl
  | @called past s reached c ih =>
    have here : Shows name place past s := shows.reaches reached
    have there : Shows name other past (fresh.after (past.map Prod.fst)) := by
      have there := new.reaches (reaches_history fresh (past.map Prod.fst))
      rwa [ih, List.nil_append] at there
    rw [List.map_append, history_append, ih, here.answer, ← there.answer]
    rfl
  | changed _ d spared ih => exact ih

/-- A sink in a new file that nobody else touches answers every call as a new sink in memory of the same name does. Once it
is closed, its file holds the lines of the records that it took, each followed by a line feed, in UTF-8; and such bytes are
read as the lines that were written, whatever else than line ends is in them. -/
theorem file_answers_as_memory {before after : Disk} {path : String} {sink : Sink} {past : Past} {now : Session}
    (made : Sink.inFile before path = .ok (after, sink)) (reached : Reaches ⟨sink, after⟩ past now) :
    (∀ d, past = (Session.mk (.inMemory (displayName path)) d).history (past.map Prod.fst)) ∧
      (.finalize ∈ past.map Prod.fst →
        now.disk.contents path = .ok (((recordsOf past).map (·.render)).flatMap Sink.bytesOf)) ∧
      ∀ lines : List String, (∀ line ∈ lines, '\n' ∉ line.toList ∧ '\r' ∉ line.toList) →
        Sink.linesOfBytes (lines.flatMap Sink.bytesOf) = .ok lines := by
  obtain ⟨location, shows⟩ := shows_inFile made
  refine ⟨fun d => (history_of_reaches shows reached (shows_inMemory _ d)).symm, ?_, ?_⟩
  · intro called
    have here : Shows (displayName path) (.file path location) past now := shows.reaches reached
    have has := here.file path location rfl
    rw [if_pos (isClosed_iff.mpr called), here.lines, Sink.lineBytes_eq_flatMap] at has
    exact has.contents
  · intro lines free
    have single : ∀ line ∈ lines, isSingleLine line = true := fun line member =>
      isSingleLine_iff.mpr (free line member)
    have read := Sink.linesOfBytes_lineBytes single
    rwa [Sink.lineBytes_eq_flatMap] at read

theorem sample_answers_as_memory :
    Sink.inFile ⟨.directory [], [], []⟩ "s.txt" = .ok (sample.disk, sample.sink) ∧
      Reaches sample (sample.history sampleCalls) (sample.after sampleCalls) ∧
      sample.history sampleCalls = (Session.mk (.inMemory "s.txt") sample.disk).history sampleCalls ∧
      (sample.after sampleCalls).disk.contents "s.txt" = .ok (["a x", ""].flatMap Sink.bytesOf) ∧
      Sink.linesOfBytes (["", "\uFEFFa", "", "b\x0Bc\u2028d"].flatMap Sink.bytesOf) =
        .ok ["", "\uFEFFa", "", "b\x0Bc\u2028d"] := by
  have reached := reaches_history sample sampleCalls
  have calls : (sample.history sampleCalls).map Prod.fst = sampleCalls := by rfl
  have name : displayName "s.txt" = "s.txt" := by decide +kernel
  obtain ⟨same, contents, read⟩ := file_answers_as_memory made_sample reached
  have same := same sample.disk
  rw [calls, name] at same
  rw [calls, lines_sample] at contents
  exact ⟨made_sample, reached, same, contents (by decide), read _ (by decide)⟩

end Session

end GlobalSurvey.Report
