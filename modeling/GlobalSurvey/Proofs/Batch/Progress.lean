import GlobalSurvey.Proofs.Batch.Ledger

/-!
# How far a worker is

Whatever the others do, and whenever the flag goes up, what a worker has to show is what its own calls come to: each step
keeps `Progress` (`progress_step`). A worker that nobody cancels accounts for its whole shard (`Settled.whole`).
-/
namespace GlobalSurvey.Batch
open GlobalSurvey.Report

/-- What calling some units of a shard in order comes to. -/
def ledgerOf (analyze : Nat → Capability) (shard : Shard) (sink : Sink) (units : List String) : Ledger :=
  Ledger.enterAll analyze shard.index 0 { sink } units

namespace Worker

section
variable (analyze : Nat → Capability) (shard : Shard) (sink : Sink)

/-- The worker has dealt with some units and goes on. -/
structure Open (w : Worker) (dealt : List String) : Prop where
  owner : w.shard = shard
  parted : shard.units = dealt ++ w.remaining
  ledger : w.ledger = ledgerOf analyze shard sink dealt
  stopped : w.stopped = none
  cancelled : w.cancelled = false

/-- Why a worker turns to closing its sink. -/
inductive Leaves (w : Worker) : Prop
  /-- It dealt with all units. -/
  | done (none_ : w.remaining = []) (called : w.called = shard.units) (stopped : w.stopped = none)
      (cancelled : w.cancelled = false)
  /-- It left units because of the flag. -/
  | cancelled (unit : String) (rest : List String) (next : w.remaining = unit :: rest)
      (parted : shard.units = w.called ++ unit :: rest) (stopped : w.stopped = none) (cancelled : w.cancelled = true)
  /-- A failure at the last unit that it called stopped it. -/
  | stopped (dealt : List String) (unit : String) (rest : List String) (next : w.remaining = unit :: rest)
      (parted : shard.units = dealt ++ unit :: rest) (called : w.called = dealt ++ [unit])
      (stopped : w.stopped.isSome = true) (cancelled : w.cancelled = false)

/-- The worker goes on with no unit: what it has to show is what its calls came to. -/
structure Settled (w : Worker) : Prop where
  owner : w.shard = shard
  records : w.sink = { (ledgerOf analyze shard sink w.called).sink with finalized := w.sink.finalized }
  written : w.written = (ledgerOf analyze shard sink w.called).written
  failures : w.failures = (ledgerOf analyze shard sink w.called).failures
  stopped : w.stopped = (ledgerOf analyze shard sink w.called).stopped
  leaves : Leaves shard w

/-- How a settled worker ends. -/
inductive Closed (w : Worker) : Ending → Prop
  | finished (finalized : w.sink.finalized = true) (stays : ∀ failure, w.stopped = some failure → failure.escapes = false) :
      Closed w (.finished w.result)
  /-- Closing the sink fails. -/
  | faulty (failure : Failure) (unfinished : w.sink.finalized = false) (fault : w.sink.closingFault = some failure) :
      Closed w (.crashed failure)
  /-- The failure that stopped the worker goes on. -/
  | escaped (failure : Failure) (finalized : w.sink.finalized = true) (stopped : w.stopped = some failure)
      (escapes : failure.escapes = true) : Closed w (.crashed failure)

/-- How far a worker is with a shard. -/
inductive Progress : Worker → Prop
  | queued : Progress { shard, sink }
  | checking {w : Worker} (stage : w.stage = .checking) (goesOn : Open analyze shard sink w w.called) : Progress w
  | calling {w : Worker} {unit : String} {rest : List String} (stage : w.stage = .calling)
      (next : w.remaining = unit :: rest) (goesOn : Open analyze shard sink w w.called) : Progress w
  | answering {w : Worker} {dealt : List String} {unit : String} {rest : List String} (stage : w.stage = .answering)
      (next : w.remaining = unit :: rest) (called : w.called = dealt ++ [unit])
      (goesOn : Open analyze shard sink w dealt) : Progress w
  | writing {w : Worker} {dealt : List String} {unit : String} {rest : List String} {all : List String}
      (stage : w.stage = .writing (.make unit all)) (next : w.remaining = unit :: rest)
      (called : w.called = dealt ++ [unit]) (goesOn : Open analyze shard sink w dealt)
      (outcome : (analyze dealt.length unit).outcome = .facts all)
      (single : isSingleLine (Record.make unit all).render = true) : Progress w
  | closing {w : Worker} (stage : w.stage = .closing) (settled : Settled analyze shard sink w)
      (untouched : w.sink.finalized = sink.finalized) : Progress w
  | ended {w : Worker} {ending : Ending} (stage : w.stage = .ended ending) (settled : Settled analyze shard sink w)
      (closed : Closed w ending) (closes : w.sink.finalized = (sink.finalized || sink.closingFault.isNone)) : Progress w

end

variable {analyze : Nat → Capability} {shard : Shard} {sink : Sink} {w : Worker}

/-! ## What a settled worker has to show -/

/-- A worker called units of its shard in order, from the first one on. -/
theorem Settled.called_prefix (settled : Settled analyze shard sink w) : w.called <+: shard.units := by
  cases settled.leaves with
  | done none_ called stopped cancelled => exact called ▸ List.prefix_rfl
  | cancelled unit rest next parted stopped cancelled => rw [parted]; exact List.prefix_append _ _
  | stopped dealt unit rest next parted called stopped cancelled =>
    rw [called, parted]
    exact ⟨rest, by simp⟩

/-- A worker that did not leave units because of the flag has to show what its whole shard comes to. -/
theorem Settled.whole (settled : Settled analyze shard sink w) (uncancelled : w.cancelled = false) :
    ledgerOf analyze shard sink w.called = ledgerOf analyze shard sink shard.units := by
  cases settled.leaves with
  | done none_ called stopped cancelled => rw [called]
  | cancelled unit rest next parted stopped cancelled =>
    rw [uncancelled] at cancelled
    cases cancelled
  | stopped dealt unit rest next parted called stopped cancelled =>
    obtain ⟨later, units⟩ := settled.called_prefix
    rw [settled.stopped] at stopped
    rw [← units]
    exact (Ledger.enterAll_append_stopped stopped later).symm

theorem Settled.lines (settled : Settled analyze shard sink w) :
    w.sink.lines = (ledgerOf analyze shard sink w.called).sink.lines := by
  rw [settled.records]
  rfl

/-! ## What a worker keeps -/

/-- The worker of a shard with the sink that it was given, but for the records. -/
structure Keeps (shard : Shard) (sink : Sink) (w : Worker) : Prop where
  owner : w.shard = shard
  store : w.sink.store = sink.store
  closingFault : w.sink.closingFault = sink.closingFault
  clean : sink.IsClean → w.sink.IsClean

theorem Open.keeps {dealt : List String} (goesOn : Open analyze shard sink w dealt) : Keeps shard sink w := by
  have same := Ledger.sameSink_enterAll analyze shard.index { sink } 0 dealt
  have records : w.sink = (ledgerOf analyze shard sink dealt).sink := by
    rw [← goesOn.ledger]
    rfl
  refine ⟨goesOn.owner, ?_, ?_, ?_⟩
  · rw [records]
    exact same.store
  · rw [records]
    exact same.closingFault
  · rw [records]
    exact same.clean

theorem Settled.keeps (settled : Settled analyze shard sink w) : Keeps shard sink w := by
  have same := Ledger.sameSink_enterAll analyze shard.index { sink } 0 w.called
  refine ⟨settled.owner, ?_, ?_, ?_⟩
  · rw [settled.records]
    exact same.store
  · rw [settled.records]
    exact same.closingFault
  · intro clean
    rw [Sink.IsClean, settled.lines]
    exact same.clean clean

theorem Progress.keeps (progress : Progress analyze shard sink w) : Keeps shard sink w := by
  cases progress with
  | queued => exact ⟨rfl, rfl, rfl, id⟩
  | checking _ goesOn => exact goesOn.keeps
  | calling _ _ goesOn => exact goesOn.keeps
  | answering _ _ _ goesOn => exact goesOn.keeps
  | writing _ _ _ goesOn _ _ => exact goesOn.keeps
  | closing _ settled _ => exact settled.keeps
  | ended _ settled _ _ => exact settled.keeps

/-! ## Each step keeps the progress -/

/-- What stops the work on the first units stops it on all. -/
theorem open_of_append {first later : List String}
    (open_ : (ledgerOf analyze shard sink (first ++ later)).stopped = none) :
    (ledgerOf analyze shard sink first).stopped = none := by
  cases stopped : (ledgerOf analyze shard sink first).stopped with
  | none => rfl
  | some failure =>
    unfold ledgerOf at open_ stopped
    rw [Ledger.enterAll_append_stopped (by simp [stopped]), stopped] at open_
    cases open_

/-- What the next call adds to an open ledger. -/
theorem ledgerOf_snoc {dealt : List String} (open_ : (ledgerOf analyze shard sink dealt).stopped = none)
    (unit : String) :
    ledgerOf analyze shard sink (dealt ++ [unit]) =
      (ledgerOf analyze shard sink dealt).enter shard.index unit (analyze dealt.length unit).outcome := by
  unfold ledgerOf at open_ ⊢
  rw [Ledger.enterAll_snoc open_, Nat.zero_add]

theorem Open.isOpen {dealt : List String} (goesOn : Open analyze shard sink w dealt) :
    (ledgerOf analyze shard sink dealt).stopped = none := by
  rw [← goesOn.ledger]
  exact goesOn.stopped

theorem settled_of_ledger (owner : w.shard = shard) (ledger : w.ledger = ledgerOf analyze shard sink w.called)
    (leaves : Leaves shard w) : Settled analyze shard sink w := by
  refine ⟨owner, ?_, ?_, ?_, ?_, leaves⟩
  · rw [← ledger]
    rfl
  · rw [← ledger]
    rfl
  · rw [← ledger]
    rfl
  · rw [← ledger]
    rfl

theorem untouched_of_ledger {units : List String} (ledger : w.ledger = ledgerOf analyze shard sink units) :
    w.sink.finalized = sink.finalized := by
  have same := Ledger.sameSink_enterAll analyze shard.index { sink } 0 units
  calc w.sink.finalized = w.ledger.sink.finalized := rfl
    _ = sink.finalized := by rw [ledger]; exact same.finalized

/-- A worker that is about to close its sink, with the ledger of its calls. -/
theorem progress_closing (stage : w.stage = .closing) (owner : w.shard = shard)
    (ledger : w.ledger = ledgerOf analyze shard sink w.called) (leaves : Leaves shard w) :
    Progress analyze shard sink w :=
  .closing stage (settled_of_ledger owner ledger leaves) (untouched_of_ledger ledger)

theorem progress_begin : Progress analyze shard sink (begin { shard, sink }) :=
  .checking rfl ⟨rfl, rfl, rfl, rfl, rfl⟩

theorem progress_check (goesOn : Open analyze shard sink w w.called) (cancelled : Bool) :
    Progress analyze shard sink (w.check cancelled) := by
  have parted := goesOn.parted
  unfold check
  cases next : w.remaining with
  | nil =>
    rw [next, List.append_nil] at parted
    exact progress_closing rfl goesOn.owner goesOn.ledger (.done rfl parted.symm goesOn.stopped goesOn.cancelled)
  | cons unit rest =>
    rw [next] at parted
    cases cancelled with
    | true => exact progress_closing rfl goesOn.owner goesOn.ledger (.cancelled unit rest rfl parted goesOn.stopped rfl)
    | false =>
      exact .calling rfl rfl ⟨goesOn.owner, parted, goesOn.ledger, goesOn.stopped, goesOn.cancelled⟩

theorem progress_call {unit : String} {rest : List String} (next : w.remaining = unit :: rest)
    (goesOn : Open analyze shard sink w w.called) : Progress analyze shard sink (w.call unit) :=
  .answering rfl next rfl ⟨goesOn.owner, goesOn.parted, goesOn.ledger, goesOn.stopped, goesOn.cancelled⟩

section Dealing
variable {dealt : List String} {unit : String} {rest : List String}

/-- The worker goes on after a unit that did not stop it. -/
theorem progress_next {v : Worker} (stage : v.stage = .checking) (next : v.remaining = rest)
    (called : v.called = dealt ++ [unit]) (cancelled : v.cancelled = false) (owner : v.shard = shard)
    (parted : shard.units = dealt ++ unit :: rest) (goesOn : v.stopped = none)
    (ledger : v.ledger = ledgerOf analyze shard sink (dealt ++ [unit])) : Progress analyze shard sink v := by
  refine .checking stage ⟨owner, ?_, ?_, goesOn, cancelled⟩
  · rw [called, next, parted, List.append_assoc, List.singleton_append]
  · rw [called]
    exact ledger

theorem progress_skip (next : w.remaining = unit :: rest) (called : w.called = dealt ++ [unit])
    (goesOn : Open analyze shard sink w dealt) {reason : String}
    (skips : (ledgerOf analyze shard sink dealt).enter shard.index unit (analyze dealt.length unit).outcome =
      (ledgerOf analyze shard sink dealt).skip shard.index unit reason) :
    Progress analyze shard sink (w.skip unit rest reason) := by
  have parted := goesOn.parted
  rw [next] at parted
  refine progress_next rfl rfl called goesOn.cancelled goesOn.owner parted goesOn.stopped ?_
  rw [ledgerOf_snoc goesOn.isOpen, skips, ← goesOn.ledger, ← goesOn.owner]
  rfl

theorem progress_stop (next : w.remaining = unit :: rest) (called : w.called = dealt ++ [unit])
    (goesOn : Open analyze shard sink w dealt) {failure : Failure}
    (stops : (ledgerOf analyze shard sink dealt).enter shard.index unit (analyze dealt.length unit).outcome =
      (ledgerOf analyze shard sink dealt).stop failure) :
    Progress analyze shard sink (w.stop unit failure) := by
  have parted := goesOn.parted
  rw [next] at parted
  have ledger : { w with stage := .closing, stopped := some failure : Worker }.ledger =
      ledgerOf analyze shard sink (dealt ++ [unit]) := by
    rw [ledgerOf_snoc goesOn.isOpen, stops, ← goesOn.ledger]
    rfl
  unfold stop
  simp only
  split
  · refine progress_closing rfl goesOn.owner ?_ (.stopped dealt unit rest next parted called rfl goesOn.cancelled)
    rw [ledger]
    simp only [called]
  · refine progress_closing rfl goesOn.owner ?_ (.stopped dealt unit rest next parted called rfl goesOn.cancelled)
    simp only [logging, called]
    exact ledger

theorem progress_receive (next : w.remaining = unit :: rest) (called : w.called = dealt ++ [unit])
    (goesOn : Open analyze shard sink w dealt) {outcome : Outcome}
    (answer : (analyze dealt.length unit).outcome = outcome) :
    Progress analyze shard sink (w.receive unit rest outcome) := by
  cases outcome with
  | facts all =>
    simp only [receive]
    split
    · rename_i single
      exact .writing rfl next called ⟨goesOn.owner, goesOn.parted, goesOn.ledger, goesOn.stopped, goesOn.cancelled⟩
        answer single
    · rename_i several
      exact progress_skip next called goesOn (by simp [answer, Ledger.enter, several])
  | rejected reason => exact progress_skip next called goesOn (by rw [answer]; rfl)
  | failed failure => exact progress_stop next called goesOn (by rw [answer]; rfl)

theorem progress_write (next : w.remaining = unit :: rest) (called : w.called = dealt ++ [unit])
    (goesOn : Open analyze shard sink w dealt) {all : List String}
    (outcome : (analyze dealt.length unit).outcome = .facts all)
    (single : isSingleLine (Record.make unit all).render = true) :
    Progress analyze shard sink (w.write unit rest (.make unit all)) := by
  have parted := goesOn.parted
  rw [next] at parted
  have commits : (ledgerOf analyze shard sink dealt).enter shard.index unit (analyze dealt.length unit).outcome =
      w.ledger.commit (.make unit all) := by
    rw [outcome, goesOn.ledger]
    simp [Ledger.enter, single]
  unfold write
  cases taken : w.sink.append (.make unit all) with
  | error fault =>
    refine progress_stop next called goesOn ?_
    rw [commits, Ledger.commit, ← goesOn.ledger]
    simp only [Worker.ledger, taken]
  | ok after =>
    refine progress_next rfl rfl called goesOn.cancelled goesOn.owner parted goesOn.stopped ?_
    rw [ledgerOf_snoc goesOn.isOpen, commits, Ledger.commit]
    simp only [Worker.ledger, taken]

end Dealing

/-- A settled worker stays settled when its sink is finalized. -/
theorem Settled.finalize (settled : Settled analyze shard sink w) {closed : Sink} (done : w.sink.finalize = .ok closed)
    (stage : Stage) (log : List Event) : Settled analyze shard sink { w with sink := closed, stage, log } := by
  obtain ⟨owner, records, written, failures, stopped, leaves⟩ := settled
  refine ⟨owner, ?_, written, failures, stopped, ?_⟩
  · rw [Sink.eq_of_finalize done]
    simp only
    rw [records]
  · cases leaves with
    | done none_ called stopped cancelled => exact .done none_ called stopped cancelled
    | cancelled unit rest next parted stopped cancelled => exact .cancelled unit rest next parted stopped cancelled
    | stopped dealt unit rest next parted called stopped cancelled =>
      exact .stopped dealt unit rest next parted called stopped cancelled

/-- A settled worker stays settled when it ends. -/
theorem Settled.atStage (settled : Settled analyze shard sink w) (stage : Stage) :
    Settled analyze shard sink { w with stage } := by
  obtain ⟨owner, records, written, failures, stopped, leaves⟩ := settled
  refine ⟨owner, records, written, failures, stopped, ?_⟩
  cases leaves with
  | done none_ called stopped cancelled => exact .done none_ called stopped cancelled
  | cancelled unit rest next parted stopped cancelled => exact .cancelled unit rest next parted stopped cancelled
  | stopped dealt unit rest next parted called stopped cancelled =>
    exact .stopped dealt unit rest next parted called stopped cancelled

/-! The three ways in which closing the sink ends. -/

theorem close_faulty {failure : Failure} (fault : w.sink.finalize = .error failure) :
    w.close = { w with stage := .ended (.crashed failure) } := by
  simp [close, fault]

theorem close_escaped {closed : Sink} {failure : Failure} (done : w.sink.finalize = .ok closed)
    (stopped : w.stopped = some failure) (escapes : failure.escapes = true) :
    w.close = { w with sink := closed, stage := .ended (.crashed failure) } := by
  simp [close, done, stopped, escapes]

theorem close_finished {closed : Sink} (done : w.sink.finalize = .ok closed)
    (stays : ∀ failure, w.stopped = some failure → failure.escapes = false) :
    w.close = finish { w with sink := closed } := by
  unfold close
  rw [done]
  cases stopped : w.stopped with
  | none => rfl
  | some failure => simp [stays failure stopped]

theorem progress_close (settled : Settled analyze shard sink w) (untouched : w.sink.finalized = sink.finalized) :
    Progress analyze shard sink w.close := by
  cases done : w.sink.finalize with
  | error failure =>
    obtain ⟨unfinished, fault⟩ := Sink.finalize_eq_error_iff.mp done
    rw [close_faulty done]
    refine .ended rfl (settled.atStage _) (.faulty failure unfinished fault) ?_
    simp [← untouched, ← settled.keeps.closingFault, unfinished, fault]
  | ok closed =>
    have finalized : closed.finalized = true := by rw [Sink.eq_of_finalize done]
    have closes : closed.finalized = (sink.finalized || sink.closingFault.isNone) := by
      rw [finalized, ← untouched, ← settled.keeps.closingFault, Sink.closable_of_finalize done]
    by_cases stays : ∀ failure, w.stopped = some failure → failure.escapes = false
    · rw [close_finished done stays]
      exact .ended rfl (settled.finalize done _ _) (.finished finalized stays) closes
    · obtain ⟨failure, stopped, escapes⟩ : ∃ failure, w.stopped = some failure ∧ failure.escapes = true := by
        simpa using stays
      rw [close_escaped done stopped escapes]
      exact .ended rfl (settled.finalize done _ _) (.escaped failure finalized stopped escapes) closes

/-- Each step of a worker keeps its progress, whatever the flag says. -/
theorem progress_step (progress : Progress analyze shard sink w) (cancelled released : Bool) :
    Progress analyze shard sink (w.step analyze cancelled released).1 := by
  cases progress with
  | queued => exact progress_begin
  | checking stage goesOn =>
    simp only [step, stage]
    exact progress_check goesOn cancelled
  | calling stage next goesOn =>
    simp only [step, stage, next]
    exact progress_call next goesOn
  | answering stage next called goesOn =>
    simp only [step, stage, next]
    split
    · exact .answering stage next called goesOn
    · exact progress_receive next called goesOn (by simp [called])
  | writing stage next called goesOn outcome single =>
    simp only [step, stage, next]
    exact progress_write next called goesOn outcome single
  | closing stage settled untouched =>
    simp only [step, stage]
    exact progress_close settled untouched
  | ended stage settled closed closes =>
    simp only [step, stage]
    exact .ended stage settled closed closes

end Worker

end GlobalSurvey.Batch
