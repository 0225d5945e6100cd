import GlobalSurvey.Proofs.Report.Sink
import GlobalSurvey.Report.Session

/-!
# The life of a sink

What a sink answers is said by the calls that were answered before: by the records that it took, and by whether it was
closed (`Shows.answer`). Every call keeps this (`Shows.call`), and so does every change of the disk that spares the file of
the sink; hence it holds however long a session goes on (`Shows.reaches`). The main statement is `life_of_sink`.
-/
namespace GlobalSurvey

namespace Files.Disk

/-- A path leads to a file with a content. -/
structure Has (d : Disk) (path : String) (location : Location) (content : List UInt8) : Prop where
  leads : d.Leads path location
  file : d.root.get? location = some (.file content)

theorem Has.contents {d : Disk} {path : String} {location : Location} {content : List UInt8}
    (has : d.Has path location content) : d.contents path = .ok content := contents_of_leads has.leads has.file

/-- Making another file changes no file that is there. -/
theorem Has.make {old new : Disk} {path other : String} {location made : Location} {content : List UInt8}
    (has : old.Has path location content) (make : old.make other = .ok (new, made)) : new.Has path location content :=
  ⟨has.leads.keeps (make_made make).keeps, (make_made make).others location content has.file⟩

end Files.Disk

namespace Report
open GlobalSurvey.Files GlobalSurvey.Text

/-! ## What was answered before -/

/-- The record that a sink took in a call. -/
def takenBy : Call × Answer → Option Record
  | (.append r, .done) => some r
  | _ => none

/-- The records that a sink took, in order. -/
def recordsOf (past : Past) : List Record := past.filterMap takenBy

/-- The sink was closed. -/
def isClosed (past : Past) : Bool := past.any fun entry => entry.1 = .finalize

theorem isClosed_iff {past : Past} : isClosed past = true ↔ Call.finalize ∈ past.map Prod.fst := by
  simp only [isClosed, List.any_eq_true, decide_eq_true_eq, List.mem_map]

theorem isClosed_append (past later : Past) : isClosed (past ++ later) = (isClosed past || isClosed later) :=
  List.any_append

theorem recordsOf_append (past later : Past) : recordsOf (past ++ later) = recordsOf past ++ recordsOf later :=
  List.filterMap_append

/-- What a sink with a past answers. -/
def answerOf (name : String) (past : Past) : Call → Answer
  | .append r =>
    if isClosed past then .failed (.sink (.finalized name))
    else if r.unit ∈ (recordsOf past).map (·.unit) then .failed (.sink (.repeatedUnit name r.unit))
    else if isSingleLine r.render then .done
    else .failed (.sink (.severalLines r.unit))
  | .finalize => .done
  | .read => if isClosed past then .lines ((recordsOf past).map (·.render)) else .failed (.sink (.unfinished name))
  | .isFinalized => .finalized (isClosed past)
  | .length => .length (recordsOf past).length

/-! ## Sessions among others -/

/-- A disk spares the place of lines on another one: their file is still found under its path, with the same content. -/
def Store.Spares (store : Store) (old new : Disk) : Prop :=
  ∀ path location content, store = .file path location → old.Has path location content → new.Has path location content

namespace Session

/-- What a session can get to, with the calls that were answered: it makes calls, and others change the disk but for the
file of its sink. -/
inductive Reaches (start : Session) : Past → Session → Prop
  | start : Reaches start [] start
  | called {past : Past} {s : Session} (reached : Reaches start past s) (c : Call) :
      Reaches start (past ++ [(c, (s.call c).2)]) (s.call c).1
  | changed {past : Past} {s : Session} (reached : Reaches start past s) (d : Disk)
      (spared : s.sink.store.Spares s.disk d) : Reaches start past { s with disk := d }

theorem Reaches.trans {a b c : Session} {past later : Past} (ab : Reaches a past b) (bc : Reaches b later c) :
    Reaches a (past ++ later) c := by
  induction bc with
  | start => rwa [List.append_nil]
  | called _ c ih =>
    rw [← List.append_assoc]
    exact ih.called c
  | changed _ d spared ih => exact ih.changed d spared

/-- A session gets to what comes of its calls, whatever they are. -/
theorem reaches_history (s : Session) (calls : List Call) : Reaches s (s.history calls) (s.after calls) := by
  induction calls generalizing s with
  | nil => exact .start
  | cons c rest ih => exact (Reaches.start.called c).trans (ih (s.call c).1)

/-- A session with a sink that was just made, in memory or in a new file. -/
inductive IsFresh : Session → Prop
  | memory (name : String) (d : Disk) : IsFresh ⟨.inMemory name, d⟩
  | file {before after : Disk} {path : String} {sink : Sink} (made : Sink.inFile before path = .ok (after, sink)) :
      IsFresh ⟨sink, after⟩

/-- A session is as its past says. -/
structure Shows (name : String) (store : Store) (past : Past) (s : Session) : Prop where
  named : s.sink.name = name
  placed : s.sink.store = store
  units : s.sink.units = ((recordsOf past).map (·.unit)).reverse
  lines : s.sink.lines = (recordsOf past).map (·.render)
  finalized : s.sink.finalized = isClosed past
  closable : s.sink.closingFault = none
  clean : s.sink.IsClean
  file : ∀ path location, store = .file path location →
    s.disk.Has path location (if isClosed past then Sink.lineBytes s.sink.lines else [])

theorem shows_inMemory (name : String) (d : Disk) : Shows name .memory [] ⟨.inMemory name, d⟩ :=
  ⟨rfl, rfl, rfl, rfl, rfl, rfl, by simp [Sink.IsClean, Sink.inMemory, Sink.lines], by rintro _ _ ⟨⟩⟩

theorem shows_inFile {before after : Disk} {path : String} {sink : Sink}
    (made : Sink.inFile before path = .ok (after, sink)) :
    ∃ location, Shows (displayName path) (.file path location) [] ⟨sink, after⟩ := by
  unfold Sink.inFile at made
  split at made
  · rename_i d location make
    cases made
    have file := Disk.make_made make
    refine ⟨location, rfl, rfl, rfl, rfl, rfl, rfl, by simp [Sink.IsClean, Sink.lines], ?_⟩
    rintro _ _ ⟨⟩
    exact ⟨file.leads, file.file⟩
  · cases made

/-- A fresh session has no past. -/
theorem IsFresh.shows {s : Session} (fresh : s.IsFresh) : Shows s.sink.name s.sink.store [] s := by
  cases fresh with
  | memory name d => exact shows_inMemory name d
  | file made =>
    obtain ⟨location, shows⟩ := shows_inFile made
    rwa [shows.named, shows.placed]

section
variable {name : String} {store : Store} {past : Past} {s : Session}

/-! ## Answers -/

/-- A closed sink reads back the lines of the records that it took, from its file if it has one. -/
theorem Shows.readLines (shows : Shows name store past s) (closed : isClosed past = true) :
    s.sink.readLines s.disk = .ok ((recordsOf past).map (·.render)) := by
  have finalized : s.sink.finalized = true := shows.finalized.trans closed
  rw [Sink.readLines, finalized, ← shows.lines]
  cases place : s.sink.store with
  | memory => rfl
  | file path location =>
    have has := shows.file path location (shows.placed.symm.trans place)
    rw [if_pos closed] at has
    simp only [has.contents, Sink.linesOfBytes_lineBytes shows.clean]
    rfl

theorem Shows.readLines_open (shows : Shows name store past s) (open_ : isClosed past = false) :
    s.sink.readLines s.disk = .error (.sink (.unfinished name)) := by
  have unfinished : s.sink.finalized = false := shows.finalized.trans open_
  simp [Sink.readLines, unfinished, shows.named]

theorem Shows.finalize (shows : Shows name store past s) :
    s.sink.finalize = .ok { s.sink with finalized := true } := by
  cases result : s.sink.finalize with
  | ok sink => rw [Sink.eq_of_finalize result]
  | error failure =>
    have fault := (Sink.finalize_eq_error_iff.mp result).2
    rw [shows.closable] at fault
    cases fault

/-- A sink takes a record, or refuses it, as its past says. -/
theorem Shows.append (shows : Shows name store past s) (r : Record) :
    (answerOf name past (.append r) = .done ∧
        s.sink.append r = .ok { s.sink with units := r.unit :: s.sink.units, written := r.render :: s.sink.written }) ∨
      ∃ fault, answerOf name past (.append r) = .failed (.sink fault) ∧ s.sink.append r = .error fault := by
  have held : (r.unit ∈ (recordsOf past).map (·.unit)) ↔ s.sink.units.contains r.unit = true := by
    rw [shows.units, List.contains_iff_mem, List.mem_reverse]
  simp only [answerOf, Sink.append, shows.finalized, shows.named, held]
  split
  · exact .inr ⟨_, rfl, rfl⟩
  · split
    · exact .inr ⟨_, rfl, rfl⟩
    · cases single : isSingleLine r.render with
      | true => exact .inl ⟨rfl, rfl⟩
      | false => exact .inr ⟨_, rfl, rfl⟩

/-- What a session answers is what its past says. -/
theorem Shows.answer (shows : Shows name store past s) (c : Call) : (s.call c).2 = answerOf name past c := by
  cases c with
  | append r =>
    rcases shows.append r with ⟨answer, taken⟩ | ⟨fault, answer, refused⟩
    · simp only [Session.call, taken, answer]
    · simp only [Session.call, refused, answer]
  | finalize => simp only [Session.call, shows.finalize, answerOf]
  | read =>
    cases closed : isClosed past with
    | true => simp only [Session.call, shows.readLines closed, answerOf, closed, if_true]
    | false => simp [Session.call, shows.readLines_open closed, answerOf, closed]
  | isFinalized => simp only [Session.call, shows.finalized, answerOf]
  | length =>
    simp only [Session.call, Sink.length, shows.units, answerOf, List.length_reverse, List.length_map]

/-- To read the lines changes nothing. -/
theorem call_read (s : Session) : (s.call .read).1 = s := by
  simp only [call]
  cases s.sink.readLines s.disk <;> rfl

/-- A call that fails changes nothing, if the sink can be closed. -/
theorem call_failed (closable : s.sink.closingFault = none) {c : Call} {failure : Failure}
    (failed : (s.call c).2 = .failed failure) : (s.call c).1 = s := by
  cases c with
  | append r =>
    simp only [call] at failed ⊢
    cases result : s.sink.append r with
    | ok sink => simp [result] at failed
    | error fault => rfl
  | finalize =>
    simp only [call] at failed ⊢
    cases result : s.sink.finalize with
    | ok sink => simp [result] at failed
    | error fault =>
      rw [(Sink.finalize_eq_error_iff.mp result).2] at closable
      cases closable
  | read => exact call_read s
  | isFinalized => rfl
  | length => rfl

/-! ## What calls and others keep -/

/-- A call that is not taken into account leaves a session as its past says. -/
theorem Shows.skip (shows : Shows name store past s) {entry : Call × Answer} (none_ : takenBy entry = none)
    (other : entry.1 ≠ .finalize) : Shows name store (past ++ [entry]) s := by
  have records : recordsOf (past ++ [entry]) = recordsOf past := by
    simp [recordsOf, none_]
  have closed : isClosed (past ++ [entry]) = isClosed past := by
    rw [isClosed_append]
    simp [isClosed, other]
  obtain ⟨named, placed, units, lines, finalized, closable, clean, file⟩ := shows
  exact ⟨named, placed, by rw [records, units], by rw [records, lines], by rw [closed, finalized], closable, clean,
    by rw [closed]; exact file⟩

theorem Shows.take (shows : Shows name store past s) {r : Record} {sink : Sink} (taken : s.sink.append r = .ok sink) :
    Shows name store (past ++ [(.append r, .done)]) { s with sink } := by
  have lines := Sink.lines_append taken
  have clean := Sink.clean_append shows.clean taken
  obtain ⟨unfinished, -, -, rfl⟩ := Sink.append_eq_ok_iff.mp taken
  have records : recordsOf (past ++ [(.append r, .done)]) = recordsOf past ++ [r] := by simp [recordsOf, takenBy]
  have open_ : isClosed past = false := shows.finalized.symm.trans unfinished
  have still : isClosed (past ++ [(.append r, .done)]) = false := by
    rw [isClosed_append, open_]
    rfl
  refine ⟨shows.named, shows.placed, ?_, ?_, ?_, shows.closable, clean, ?_⟩
  · rw [records, List.map_append, List.reverse_append, ← shows.units]
    rfl
  · rw [lines, records, List.map_append, shows.lines]
    rfl
  · rw [still]
    exact unfinished
  · intro path location place
    have has := shows.file path location place
    rw [open_] at has
    rw [still]
    exact has

/-- The lines reach the file when the sink is closed for the first time. -/
theorem Shows.close (shows : Shows name store past s) :
    Shows name store (past ++ [(.finalize, .done)]) (s.call .finalize).1 := by
  have records : recordsOf (past ++ [(.finalize, .done)]) = recordsOf past := by simp [recordsOf, takenBy]
  have closed : isClosed (past ++ [(.finalize, .done)]) = true := by
    rw [isClosed_append]
    exact Bool.or_true _
  simp only [call, shows.finalize]
  refine ⟨shows.named, shows.placed, by rw [records]; exact shows.units, by rw [records]; exact shows.lines, ?_,
    shows.closable, shows.clean, ?_⟩
  · rw [closed]
  · intro path location place
    have has := shows.file path location place
    rw [closed, if_pos rfl]
    cases earlier : isClosed past with
    | true =>
      rw [shows.finalized, earlier, if_pos rfl]
      rw [earlier] at has
      exact has
    | false =>
      rw [shows.finalized, earlier, if_neg Bool.false_ne_true]
      rw [earlier] at has
      have placed : s.sink.store = .file path location := shows.placed.trans place
      have ready : s.sink.store.IsReady s.disk := by
        rw [placed]
        exact ⟨has.leads, has.file⟩
      exact ⟨has.leads.keeps (Sink.flush_keeps ready).1, Sink.flush_file placed ready⟩

/-- Every call leaves a session as its past and the call say. -/
theorem Shows.called (shows : Shows name store past s) (c : Call) :
    Shows name store (past ++ [(c, (s.call c).2)]) (s.call c).1 := by
  cases c with
  | append r =>
    cases result : s.sink.append r with
    | ok sink =>
      have called : s.call (.append r) = ({ s with sink }, .done) := by simp only [call, result]
      rw [called]
      exact shows.take result
    | error fault =>
      have called : s.call (.append r) = (s, .failed (.sink fault)) := by simp only [call, result]
      rw [called]
      exact shows.skip rfl (by simp)
  | finalize =>
    rw [shows.answer]
    exact shows.close
  | read =>
    rw [call_read]
    exact shows.skip rfl (by simp)
  | isFinalized => exact shows.skip rfl (by simp)
  | length => exact shows.skip rfl (by simp)

/-- A session stays as its past says, whatever it is asked and whatever others do elsewhere. -/
theorem Shows.reaches {start : Session} {later : Past} (shows : Shows name store past start)
    (reached : Reaches start later s) : Shows name store (past ++ later) s := by
  induction reached with
  | start => rwa [List.append_nil]
  | called _ c ih =>
    rw [← List.append_assoc]
    exact ih.called c
  | changed _ d spared ih =>
    refine ⟨ih.named, ih.placed, ih.units, ih.lines, ih.finalized, ih.closable, ih.clean, ?_⟩
    intro path location place
    exact spared path location _ (ih.placed.trans place) (ih.file path location place)

/-- A closed sink takes no more records. -/
theorem Shows.recordsOf_closed {start : Session} {later : Past} (shows : Shows name store past start)
    (closed : isClosed past = true) (reached : Reaches start later s) : recordsOf later = [] := by
  induction reached with
  | start => rfl
  | @called later s reached c ih =>
    have now : isClosed (past ++ later) = true := by rw [isClosed_append, closed, Bool.true_or]
    have none_ : takenBy (c, (s.call c).2) = none := by
      rw [(shows.reaches reached).answer]
      cases c <;> simp [answerOf, now, takenBy]
    rw [recordsOf_append, ih]
    simp [recordsOf, none_]
  | changed _ d spared ih => exact ih

/-! ## The life of a sink -/

theorem Shows.append_done_iff (shows : Shows name store past s) (r : Record) :
    (s.call (.append r)).2 = .done ↔ s.sink.finalized = false ∧ (∀ other ∈ recordsOf past, other.unit ≠ r.unit) ∧
      '\n' ∉ r.render.toList ∧ '\r' ∉ r.render.toList := by
  have held : (∀ other ∈ recordsOf past, other.unit ≠ r.unit) ↔ r.unit ∉ s.sink.units := by
    rw [shows.units, List.mem_reverse, List.mem_map]
    exact ⟨fun different ⟨other, member, same⟩ => different other member same,
      fun absent other member same => absent ⟨other, member, same⟩⟩
  rw [held, ← isSingleLine_iff]
  cases result : s.sink.append r with
  | ok sink =>
    obtain ⟨unfinished, new, single, -⟩ := Sink.append_eq_ok_iff.mp result
    simp [call, result, unfinished, new, single]
  | error fault =>
    have refused : ∀ t, s.sink.append r ≠ .ok t := by simp [result]
    simp only [call, result, reduceCtorEq, false_iff]
    rintro ⟨unfinished, new, single⟩
    exact refused _ (Sink.append_eq_ok_iff.mpr ⟨unfinished, new, single, rfl⟩)

/-- A record is taken or refused. -/
theorem append_done_or_failed (s : Session) (r : Record) :
    (s.call (.append r)).2 = .done ∨ ∃ fault, (s.call (.append r)).2 = .failed (.sink fault) := by
  simp only [call]
  cases s.sink.append r with
  | ok sink => exact .inl rfl
  | error fault => exact .inr ⟨fault, rfl⟩

theorem Shows.read_closed (shows : Shows name store past s) (closed : isClosed past = true) :
    (s.call .read).2 = .lines ((recordsOf past).map (·.render)) := by
  rw [shows.answer, answerOf, if_pos closed]

theorem Shows.read_open (shows : Shows name store past s) (open_ : isClosed past = false) :
    (s.call .read).2 = .failed (.sink (.unfinished name)) := by
  rw [shows.answer, answerOf, open_, if_neg Bool.false_ne_true]

end

/-- Whatever was asked of a sink that was just made: it takes a record exactly if it is not finalized, took no record of the
unit before, and the line of the record has no line end, and refuses it otherwise; its lines are read exactly if it was
closed before, and this is refused otherwise; a call that fails changes nothing; the number of records is that of the
records that were taken, and of the lines; and once the sink is closed, the lines of these records are read, in their
order, however long the session goes on. -/
theorem life_of_sink {start now : Session} {past : Past} (fresh : start.IsFresh) (reached : Reaches start past now) :
    (∀ r, ((now.call (.append r)).2 = .done ↔ now.sink.finalized = false ∧ (∀ other ∈ recordsOf past, other.unit ≠ r.unit) ∧
          '\n' ∉ r.render.toList ∧ '\r' ∉ r.render.toList) ∧
        ((now.call (.append r)).2 = .done ∨ ∃ fault, (now.call (.append r)).2 = .failed (.sink fault))) ∧
      ((now.call .finalize).2 = .done ∧ (now.sink.finalized = true ↔ .finalize ∈ past.map Prod.fst) ∧
        (now.call .isFinalized).2 = .finalized now.sink.finalized) ∧
      (((∃ lines, (now.call .read).2 = .lines lines) ↔ .finalize ∈ past.map Prod.fst) ∧
        ((∃ lines, (now.call .read).2 = .lines lines) ∨ ∃ fault, (now.call .read).2 = .failed (.sink fault))) ∧
      (∀ c failure, (now.call c).2 = .failed failure → (now.call c).1 = now) ∧
      ((now.call .length).2 = .length (recordsOf past).length ∧ now.sink.lines.length = (recordsOf past).length) ∧
      (.finalize ∈ past.map Prod.fst → ∀ later final, Reaches now later final →
        (final.call .read).2 = .lines ((recordsOf past).map (·.render))) := by
  have shows : Shows start.sink.name start.sink.store past now := by
    have shows := fresh.shows.reaches reached
    rwa [List.nil_append] at shows
  refine ⟨fun r => ⟨shows.append_done_iff r, append_done_or_failed now r⟩, ⟨shows.answer .finalize, ?_, rfl⟩, ⟨?_, ?_⟩,
    fun c failure => call_failed shows.closable, ⟨shows.answer .length, ?_⟩, ?_⟩
  · rw [shows.finalized, isClosed_iff]
  · rw [← isClosed_iff]
    cases closed : isClosed past with
    | true => simp [shows.read_closed closed]
    | false => simp [shows.read_open closed]
  · cases closed : isClosed past with
    | true => exact .inl ⟨_, shows.read_closed closed⟩
    | false => exact .inr ⟨_, shows.read_open closed⟩
  · rw [shows.lines, List.length_map]
  · intro called later final reached
    have closed : isClosed past = true := isClosed_iff.mpr called
    have all : isClosed (past ++ later) = true := by rw [isClosed_append, closed, Bool.true_or]
    rw [(shows.reaches reached).read_closed all, recordsOf_append, shows.recordsOf_closed closed reached, List.append_nil]

/-! ## A sink in a file -/

/-- The session with a sink in a file that was made on an empty disk. -/
def sample : Session :=
  ⟨{ name := "s.txt", store := .file "s.txt" ["s.txt"] }, ⟨.directory [("s.txt", .file [])], [], []⟩⟩

/-- Two records that are taken, and in between one of the same unit, one of two lines, and an early look at the lines. -/
def sampleCalls : List Call :=
  [.append ⟨"a", "a", ["x"]⟩, .append ⟨"a", "a", []⟩, .append ⟨"b", "b\n", []⟩, .read, .append ⟨"c", "", []⟩, .finalize]

theorem made_sample : Sink.inFile ⟨.directory [], [], []⟩ "s.txt" = .ok (sample.disk, sample.sink) := by
  have steps : steps "s.txt" = ["s.txt"] := by decide
  have free : Disk.resolve ⟨.directory [], [], []⟩ false "s.txt" = .ok (.absent [] "s.txt") := by
    rw [Disk.resolve, if_neg (by decide), if_neg (by decide), if_neg (by decide), steps, follow]
    rfl
  have make : Disk.make ⟨.directory [], [], []⟩ "s.txt" = .ok (sample.disk, ["s.txt"]) := by
    refine Disk.checked_eq_ok.mpr ⟨by decide, ?_⟩
    rw [if_neg (by decide), free]
    rfl
  have name : displayName "s.txt" = "s.txt" := by decide
  rw [Sink.inFile, make]
  simp only [name]
  rfl

theorem lines_sample : (recordsOf (sample.history sampleCalls)).map (·.render) = ["a x", ""] := by
  have records : recordsOf (sample.history sampleCalls) = [⟨"a", "a", ["x"]⟩, ⟨"c", "", []⟩] := by rfl
  rw [records]
  decide

/-- The sample session goes on when its sink is closed, and while another file is made. -/
theorem life_of_sample :
    sample.IsFresh ∧ Reaches sample (sample.history sampleCalls) (sample.after sampleCalls) ∧
      ((sample.after sampleCalls).call (.append ⟨"d", "d", []⟩)).2 ≠ .done ∧
      ((sample.after sampleCalls).call .length).2 = .length 2 ∧
      ∀ d location, (sample.after sampleCalls).disk.make "t.txt" = .ok (d, location) →
        (call { sample.after sampleCalls with disk := d } .read).2 = .lines ["a x", ""] := by
  have fresh : sample.IsFresh := .file made_sample
  have reached := reaches_history sample sampleCalls
  have finalized : (sample.after sampleCalls).sink.finalized = true := by rfl
  obtain ⟨append, ⟨-, closed, -⟩, -, -, ⟨length, -⟩, reads⟩ := life_of_sink fresh reached
  refine ⟨fresh, reached, ?_, ?_, ?_⟩
  · intro done
    have unfinished := ((append ⟨"d", "d", []⟩).1.mp done).1
    rw [finalized] at unfinished
    cases unfinished
  · rw [length]
    rfl
  · intro d location made
    rw [← lines_sample]
    exact reads (closed.mp finalized) [] _ (.changed .start d fun _ _ _ _ has => has.make made)

end Session

end Report

end GlobalSurvey
