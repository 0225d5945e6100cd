import GlobalSurvey.Batch.Worker
import GlobalSurvey.Proofs.Report.Sink
import Mathlib.Data.List.TakeWhile

/-!
# What dealing with units comes to

The ledger of a worker is what it has to show for the units that it dealt with. `enterAll` enters the outcomes of one unit
after the other, until one of them stops the work; nothing in it depends on other workers. It goes on where it left off
(`enterAll_append`), every unit is accounted for once (`count_enterAll`), and for different units and outcomes that
depend on the unit alone its lines are those of the units before the first fatal one (`enterAll_different`).
-/
namespace GlobalSurvey.Batch
open GlobalSurvey.Report

/-- What a worker has to show for the units that it dealt with. -/
structure Ledger where
  /-- The sink with the records. -/
  sink : Sink
  /-- The number of records that were written. -/
  written : Nat := 0
  /-- The units that could not be analyzed, in order. -/
  failures : List UnitFailure := []
  /-- The failure that stopped the work, if one did. -/
  stopped : Option Failure := none

/-- What a worker has to show up to now. -/
def Worker.ledger (w : Worker) : Ledger := ⟨w.sink, w.written, w.failures, w.stopped⟩

namespace Ledger

/-- Enters a unit that could not be analyzed. -/
def skip (l : Ledger) (index : Int) (unit reason : String) : Ledger :=
  { l with failures := l.failures ++ [UnitFailure.mk unit index reason] }

/-- Enters a failure that stops the work. -/
def stop (l : Ledger) (failure : Failure) : Ledger := { l with stopped := some failure }

/-- Enters a record, if the sink takes it. -/
def commit (l : Ledger) (record : Record) : Ledger :=
  match l.sink.append record with
  | .ok sink => { l with sink, written := l.written + 1 }
  | .error fault => l.stop (.sink fault)

/-- Enters the outcome of the analysis of a unit. -/
def enter (l : Ledger) (index : Int) (unit : String) : Outcome → Ledger
  | .facts all =>
    if isSingleLine (Record.make unit all).render then l.commit (.make unit all) else l.skip index unit severalLinesText
  | .rejected reason => l.skip index unit reason
  | .failed failure => l.stop failure

/-- Enters the outcomes for units, one after the other, until one stops the work; `call` calls went before. -/
def enterAll (analyze : Nat → Capability) (index : Int) : (call : Nat) → Ledger → List String → Ledger
  | _, l, [] => l
  | call, l, unit :: rest =>
    if l.stopped.isSome then l
    else enterAll analyze index (call + 1) (l.enter index unit (analyze call unit).outcome) rest

section
variable {analyze : Nat → Capability} {index : Int} {call : Nat} {l : Ledger} {unit : String} {units : List String}

/-! ## One unit after the other -/

theorem enterAll_stopped (stopped : l.stopped.isSome = true) (units : List String) :
    enterAll analyze index call l units = l := by
  cases units with
  | nil => rfl
  | cons unit rest => simp [enterAll, stopped]

theorem enterAll_cons (open_ : l.stopped = none) (unit : String) (rest : List String) :
    enterAll analyze index call l (unit :: rest) =
      enterAll analyze index (call + 1) (l.enter index unit (analyze call unit).outcome) rest := by
  simp [enterAll, open_]

/-- Units that are entered later are entered into what came of the units before. -/
theorem enterAll_append (l : Ledger) (call : Nat) (first later : List String) :
    enterAll analyze index call l (first ++ later) =
      enterAll analyze index (call + first.length) (enterAll analyze index call l first) later := by
  induction first generalizing l call with
  | nil => rfl
  | cons unit rest ih =>
    cases stopped : l.stopped with
    | some failure =>
      have stopped : l.stopped.isSome = true := by simp [stopped]
      simp only [enterAll_stopped stopped]
    | none =>
      rw [List.cons_append, enterAll_cons stopped, enterAll_cons stopped, ih, List.length_cons]
      rw [Nat.add_assoc, Nat.add_comm 1]

/-- The last of some units is entered into what came of the others. -/
theorem enterAll_snoc (open_ : (enterAll analyze index call l units).stopped = none) (unit : String) :
    enterAll analyze index call l (units ++ [unit]) =
      (enterAll analyze index call l units).enter index unit (analyze (call + units.length) unit).outcome := by
  rw [enterAll_append, enterAll_cons open_]
  rfl

/-- After a stop nothing more is entered. -/
theorem enterAll_append_stopped (stopped : (enterAll analyze index call l units).stopped.isSome = true)
    (later : List String) :
    enterAll analyze index call l (units ++ later) = enterAll analyze index call l units := by
  rw [enterAll_append, enterAll_stopped stopped]

/-! ## What an entry does -/

/-- What an entry does: it writes one line, or it adds one failure, or it stops the work. -/
inductive Entered (l : Ledger) (index : Int) (unit : String) : Ledger → Prop
  | line (sink : Sink) (record : Record) (taken : l.sink.append record = .ok sink) :
      Entered l index unit { l with sink, written := l.written + 1 }
  | failure (reason : String) : Entered l index unit (l.skip index unit reason)
  | stop (failure : Failure) : Entered l index unit (l.stop failure)

theorem entered_commit (l : Ledger) (index : Int) (unit : String) (record : Record) :
    Entered l index unit (l.commit record) := by
  unfold commit
  cases taken : l.sink.append record with
  | ok sink => exact .line sink record taken
  | error fault => exact .stop _

theorem entered_enter (l : Ledger) (index : Int) (unit : String) (outcome : Outcome) :
    Entered l index unit (l.enter index unit outcome) := by
  cases outcome with
  | facts all =>
    simp only [enter]
    split
    · exact entered_commit l index unit _
    · exact .failure _
  | rejected reason => exact .failure reason
  | failed failure => exact .stop failure

/-- A relation that every entry keeps holds between a ledger and what comes of it. -/
theorem enterAll_induction (related : Ledger → Ledger → Prop) (refl : ∀ l, related l l)
    (trans : ∀ {a b c}, related a b → related b c → related a c)
    (step : ∀ {l after : Ledger} {unit : String}, l.stopped = none → Entered l index unit after → related l after)
    (l : Ledger) (call : Nat) (units : List String) : related l (enterAll analyze index call l units) := by
  induction units generalizing l call with
  | nil => exact refl l
  | cons unit rest ih =>
    cases stopped : l.stopped with
    | some failure =>
      rw [enterAll_stopped (by simp [stopped])]
      exact refl l
    | none =>
      rw [enterAll_cons stopped]
      exact trans (step stopped (entered_enter l index unit _)) (ih _ _)

/-- The same sink, but for the records that it took. -/
structure SameSink (s t : Sink) : Prop where
  name : t.name = s.name
  store : t.store = s.store
  finalized : t.finalized = s.finalized
  closingFault : t.closingFault = s.closingFault
  lines : s.lines <+: t.lines
  clean : s.IsClean → t.IsClean

theorem SameSink.refl (s : Sink) : SameSink s s := ⟨rfl, rfl, rfl, rfl, List.prefix_rfl, id⟩

theorem SameSink.trans {a b c : Sink} (ab : SameSink a b) (bc : SameSink b c) : SameSink a c :=
  ⟨bc.name.trans ab.name, bc.store.trans ab.store, bc.finalized.trans ab.finalized,
    bc.closingFault.trans ab.closingFault, ab.lines.trans bc.lines, fun clean => bc.clean (ab.clean clean)⟩

theorem sameSink_append {s t : Sink} {r : Record} (taken : s.append r = .ok t) : SameSink s t := by
  have lines : s.lines <+: t.lines := by
    rw [Sink.lines_append taken]
    exact List.prefix_append _ _
  have clean : s.IsClean → t.IsClean := fun clean => Sink.clean_append clean taken
  obtain ⟨-, -, -, rfl⟩ := Sink.append_eq_ok_iff.mp taken
  exact ⟨rfl, rfl, rfl, rfl, lines, clean⟩

theorem Entered.sameSink {after : Ledger} (entered : Entered l index unit after) : SameSink l.sink after.sink := by
  cases entered with
  | line sink record taken => exact sameSink_append taken
  | failure reason => exact .refl _
  | stop failure => exact .refl _

theorem sameSink_enterAll (analyze : Nat → Capability) (index : Int) (l : Ledger) (call : Nat) (units : List String) :
    SameSink l.sink (enterAll analyze index call l units).sink :=
  enterAll_induction (fun a b => SameSink a.sink b.sink) (fun l => .refl l.sink)
    (fun ab bc => ab.trans bc) (fun _ entered => entered.sameSink) l call units

/-! ## Every unit is accounted for -/

/-- The number of units that a ledger accounts for. -/
def count (l : Ledger) : Nat := l.written + l.failures.length + l.stopped.toList.length

theorem Entered.count {after : Ledger} (open_ : l.stopped = none) (entered : Entered l index unit after) :
    after.count = l.count + 1 := by
  cases entered with
  | line sink record taken => simp [Ledger.count, open_]; omega
  | failure reason => simp [Ledger.count, skip, open_]; omega
  | stop failure => simp [Ledger.count, Ledger.stop, open_]

/-- If the work is not stopped every unit is accounted for once. -/
theorem count_enterAll (open_ : (enterAll analyze index call l units).stopped = none) :
    (enterAll analyze index call l units).count = l.count + units.length := by
  induction units generalizing l call with
  | nil => rfl
  | cons unit rest ih =>
    cases stopped : l.stopped with
    | some failure =>
      rw [enterAll_stopped (by simp [stopped]), stopped] at open_
      cases open_
    | none =>
      rw [enterAll_cons stopped] at open_ ⊢
      rw [ih open_, (entered_enter l index unit _).count stopped, List.length_cons]
      omega

/-- No unit is accounted for twice. -/
theorem count_enterAll_le (analyze : Nat → Capability) (index : Int) (call : Nat) (l : Ledger) (units : List String) :
    (enterAll analyze index call l units).count ≤ l.count + units.length := by
  induction units generalizing l call with
  | nil => exact Nat.le_refl _
  | cons unit rest ih =>
    cases stopped : l.stopped with
    | some failure =>
      rw [enterAll_stopped (by simp [stopped])]
      omega
    | none =>
      rw [enterAll_cons stopped, List.length_cons]
      have next := (entered_enter l index unit (analyze call unit).outcome).count stopped
      have later := ih (call + 1) (l.enter index unit (analyze call unit).outcome)
      omega

theorem Entered.lines_written {after : Ledger} (entered : Entered l index unit after) :
    after.sink.lines.length + l.written = l.sink.lines.length + after.written := by
  cases entered with
  | line sink record taken =>
    simp only [Sink.lines_append taken, List.length_append, List.length_singleton]
    omega
  | failure reason => rfl
  | stop failure => rfl

/-- A line is written for each record that is counted. -/
theorem lines_written_enterAll (analyze : Nat → Capability) (index : Int) (l : Ledger) (call : Nat)
    (units : List String) :
    (enterAll analyze index call l units).sink.lines.length + l.written =
      l.sink.lines.length + (enterAll analyze index call l units).written :=
  enterAll_induction (fun a b => b.sink.lines.length + a.written = a.sink.lines.length + b.written)
    (fun _ => rfl) (fun {_ _ _} ab bc => by omega) (fun _ entered => entered.lines_written) l call units

end

end Ledger

/-! ## Different units -/

namespace Outcome

/-- The outcome stops the work on the shard. -/
def isFatal : Outcome → Bool
  | .failed _ => true
  | _ => false

/-- The line that the outcome of a unit gives the report. -/
def line? (unit : String) : Outcome → Option String
  | .facts all => if isSingleLine (Record.make unit all).render then some (Record.make unit all).render else none
  | _ => none

/-- Why the outcome of a unit gives no line, if the work goes on. -/
def complaint? (unit : String) : Outcome → Option String
  | .facts all => if isSingleLine (Record.make unit all).render then none else some severalLinesText
  | .rejected reason => some reason
  | .failed _ => none

end Outcome

/-- The units before the first one with a fatal outcome. -/
def soundUnits (outcome : String → Outcome) (units : List String) : List String :=
  units.takeWhile fun unit => !(outcome unit).isFatal

/-- One line for each unit before the first one with a fatal outcome, if the unit could be analyzed and its record is a
single line. -/
def linesOf (outcome : String → Outcome) (units : List String) : List String :=
  (soundUnits outcome units).filterMap fun unit => (outcome unit).line? unit

/-- The units before the first one with a fatal outcome that have no line, each with the reason. -/
def complaintsOf (outcome : String → Outcome) (units : List String) : List (String × String) :=
  (soundUnits outcome units).filterMap fun unit => ((outcome unit).complaint? unit).map (unit, ·)

section
variable {outcome : String → Outcome} {unit : String}

theorem linesOf_cons_fatal (fatal : (outcome unit).isFatal = true) (rest : List String) :
    linesOf outcome (unit :: rest) = [] := by
  simp [linesOf, soundUnits, fatal]

theorem linesOf_cons (harmless : (outcome unit).isFatal = false) (rest : List String) :
    linesOf outcome (unit :: rest) = ((outcome unit).line? unit).toList ++ linesOf outcome rest := by
  simp only [linesOf, soundUnits, List.takeWhile_cons, harmless, Bool.not_false, if_true, List.filterMap_cons]
  cases (outcome unit).line? unit <;> rfl

theorem complaintsOf_cons_fatal (fatal : (outcome unit).isFatal = true) (rest : List String) :
    complaintsOf outcome (unit :: rest) = [] := by
  simp [complaintsOf, soundUnits, fatal]

theorem complaintsOf_cons (harmless : (outcome unit).isFatal = false) (rest : List String) :
    complaintsOf outcome (unit :: rest) =
      (((outcome unit).complaint? unit).map (unit, ·)).toList ++ complaintsOf outcome rest := by
  simp only [complaintsOf, soundUnits, List.takeWhile_cons, harmless, Bool.not_false, if_true, List.filterMap_cons]
  cases (outcome unit).complaint? unit <;> rfl

end

theorem soundUnits_eq_self {outcome : String → Outcome} {units : List String}
    (harmless : ∀ unit ∈ units, (outcome unit).isFatal = false) : soundUnits outcome units = units := by
  rw [soundUnits, List.takeWhile_eq_self_iff]
  intro unit member
  simp [harmless unit member]

namespace Ledger

/-- The failure of a unit in the shard with an index. -/
def failureOf (index : Int) (complaint : String × String) : UnitFailure := ⟨complaint.1, index, complaint.2⟩

/-- A unit that the open sink of a ledger holds no record of. -/
structure IsNewUnit (l : Ledger) (unit : String) : Prop where
  open_ : l.stopped = none
  unfinished : l.sink.finalized = false
  new : unit ∉ l.sink.units

/-- What the outcome of a new unit adds. -/
structure Adds (l after : Ledger) (index : Int) (unit : String) (outcome : Outcome) : Prop where
  lines : after.sink.lines = l.sink.lines ++ (outcome.line? unit).toList
  failures : after.failures = l.failures ++ ((outcome.complaint? unit).map (unit, ·)).toList.map (failureOf index)
  stopped : after.stopped.isSome = outcome.isFatal
  units : ∀ other ∈ after.sink.units, other = unit ∨ other ∈ l.sink.units

theorem enter_newUnit {l : Ledger} {unit : String} (new : l.IsNewUnit unit) (index : Int) (outcome : Outcome) :
    l.Adds (l.enter index unit outcome) index unit outcome := by
  obtain ⟨open_, unfinished, new⟩ := new
  cases outcome with
  | facts all =>
    cases single : isSingleLine (Record.make unit all).render with
    | true =>
      have taken := Sink.append_eq_ok_iff.mpr ⟨unfinished, new, single, rfl⟩
      have after : l.enter index unit (.facts all) = l.commit (.make unit all) := by simp [enter, single]
      rw [after, commit, taken]
      refine ⟨?_, ?_, ?_, ?_⟩
      · simp [Sink.lines, Outcome.line?, single]
      · simp [Outcome.complaint?, single]
      · simp [Outcome.isFatal, open_]
      · intro other held
        exact List.mem_cons.mp held
    | false =>
      have after : l.enter index unit (.facts all) = l.skip index unit severalLinesText := by simp [enter, single]
      rw [after]
      refine ⟨?_, ?_, ?_, fun other held => .inr held⟩
      · simp [skip, Outcome.line?, single]
      · simp [skip, Outcome.complaint?, single, failureOf]
      · simp [skip, Outcome.isFatal, open_]
  | rejected reason =>
    refine ⟨?_, ?_, ?_, fun other held => .inr held⟩
    · simp [enter, skip, Outcome.line?]
    · simp [enter, skip, Outcome.complaint?, failureOf]
    · simp [enter, skip, Outcome.isFatal, open_]
  | failed failure =>
    refine ⟨?_, ?_, ?_, fun other held => .inr held⟩
    · simp [enter, stop, Outcome.line?]
    · simp [enter, stop, Outcome.complaint?]
    · simp [enter, stop, Outcome.isFatal]

/-- The lines and the failures of different units, whose outcomes depend on the unit alone. -/
theorem enterAll_different (capability : Capability) (index : Int) (call : Nat) {l : Ledger} {units : List String}
    (open_ : l.stopped = none) (unfinished : l.sink.finalized = false) (different : units.Nodup)
    (new : ∀ unit ∈ units, unit ∉ l.sink.units) :
    (enterAll (fun _ => capability) index call l units).sink.lines =
        l.sink.lines ++ linesOf (fun unit => (capability unit).outcome) units ∧
      (enterAll (fun _ => capability) index call l units).failures =
        l.failures ++ (complaintsOf (fun unit => (capability unit).outcome) units).map (failureOf index) ∧
      ((enterAll (fun _ => capability) index call l units).stopped = none ↔
        ∀ unit ∈ units, (capability unit).outcome.isFatal = false) := by
  induction units generalizing l call with
  | nil => simp [enterAll, linesOf, complaintsOf, soundUnits, open_]
  | cons unit rest ih =>
    obtain ⟨absent, different⟩ := List.nodup_cons.mp different
    have adds := enter_newUnit ⟨open_, unfinished, new unit List.mem_cons_self⟩ index (capability unit).outcome
    have same := (entered_enter l index unit (capability unit).outcome).sameSink
    rw [enterAll_cons open_]
    cases fatal : (capability unit).outcome.isFatal with
    | true =>
      obtain ⟨failure, outcome⟩ : ∃ failure, (capability unit).outcome = .failed failure := by
        cases outcome : (capability unit).outcome with
        | failed failure => exact ⟨failure, rfl⟩
        | facts all => rw [outcome] at fatal; cases fatal
        | rejected reason => rw [outcome] at fatal; cases fatal
      rw [linesOf_cons_fatal fatal, complaintsOf_cons_fatal fatal, outcome]
      rw [enterAll_stopped rfl]
      refine ⟨by simp [enter, stop], by simp [enter, stop], ?_⟩
      simp [enter, stop, fatal]
    | false =>
      have goesOn : (l.enter index unit (capability unit).outcome).stopped = none := by
        simpa [fatal] using adds.stopped
      have later : ∀ other ∈ rest, other ∉ (l.enter index unit (capability unit).outcome).sink.units := by
        intro other member inside
        rcases adds.units other inside with rfl | before
        · exact absent member
        · exact new other (List.mem_cons_of_mem unit member) before
      obtain ⟨lines, failures, stopped⟩ :=
        ih (call + 1) goesOn (same.finalized.trans unfinished) different later
      refine ⟨?_, ?_, ?_⟩
      · rw [lines, adds.lines, linesOf_cons fatal, List.append_assoc]
      · rw [failures, adds.failures, complaintsOf_cons fatal, List.map_append, List.append_assoc]
      · simp [stopped, fatal]

end Ledger

end GlobalSurvey.Batch
