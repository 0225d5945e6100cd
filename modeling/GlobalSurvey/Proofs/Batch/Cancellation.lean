import GlobalSurvey.Proofs.Batch.Gathering
import Mathlib.Data.List.Perm.Subperm

/-!
# Cancellation only cuts tails

Once the flag is up a worker only finishes what was under way (`Reaches.atMost`): at most one more analysis, and at most
one more record. What a worker has written at any time is what it writes alone for the first units of its shard
(`Progress.lines_alone_part`), and it says that it was cancelled exactly if it looked at the raised flag before a unit
(`cancelled_iff_turnsBack`). So a report of cancelled workers has no line that the whole report does not have
(`merge_subperm`).
-/
namespace GlobalSurvey.Batch
open GlobalSurvey.Files GlobalSurvey.Report

namespace Worker

section
variable {analyze : Nat → Capability} {shard : Shard} {sink : Sink} {w v : Worker}

/-! ## What is still under way when the flag goes up -/

/-- The analyses that the worker begins without another look at the flag. -/
def pendingCalls (w : Worker) : Nat :=
  match w.stage with
  | .calling => 1
  | _ => 0

/-- The records that the worker may write without another look at the flag. -/
def pendingLines (w : Worker) : Nat :=
  match w.stage with
  | .calling | .answering | .writing _ => 1
  | _ => 0

theorem pendingCalls_le (w : Worker) : w.pendingCalls ≤ 1 := by
  unfold pendingCalls
  split <;> omega

theorem pendingLines_le (w : Worker) : w.pendingLines ≤ 1 := by
  unfold pendingLines
  split <;> omega

/-- What a worker has done or is about to do, without another look at the flag. -/
structure AtMost (w v : Worker) : Prop where
  calls : v.called.length + v.pendingCalls ≤ w.called.length + w.pendingCalls
  lines : v.sink.lines.length + v.pendingLines ≤ w.sink.lines.length + w.pendingLines

theorem AtMost.refl (w : Worker) : AtMost w w := ⟨Nat.le_refl _, Nat.le_refl _⟩

theorem AtMost.trans {a b c : Worker} (ab : AtMost a b) (bc : AtMost b c) : AtMost a c :=
  ⟨bc.calls.trans ab.calls, bc.lines.trans ab.lines⟩

theorem atMost_stop (unit : String) (failure : Failure) : AtMost w (w.stop unit failure) := by
  unfold stop
  simp only
  split
  · exact ⟨by simp [pendingCalls], by simp [pendingLines]⟩
  · exact ⟨by simp [pendingCalls, logging], by simp [pendingLines, logging]⟩

theorem atMost_skip (unit : String) (rest : List String) (reason : String) : AtMost w (w.skip unit rest reason) :=
  ⟨by simp [skip, logging, pendingCalls], by simp [skip, logging, pendingLines]⟩

theorem atMost_receive (stage : w.stage = .answering) (unit : String) (rest : List String) (outcome : Outcome) :
    AtMost w (w.receive unit rest outcome) := by
  cases outcome with
  | facts all =>
    simp only [receive]
    split
    · exact ⟨by simp [pendingCalls, stage], by simp [pendingLines, stage]⟩
    · exact atMost_skip _ _ _
  | rejected reason => exact atMost_skip _ _ _
  | failed failure => exact atMost_stop _ _

theorem atMost_write {record : Record} (stage : w.stage = .writing record) (unit : String) (rest : List String) :
    AtMost w (w.write unit rest record) := by
  unfold write
  cases taken : w.sink.append record with
  | ok sink => exact ⟨by simp [pendingCalls, stage], by simp [pendingLines, stage, Sink.lines_append taken]⟩
  | error fault => exact atMost_stop _ _

theorem atMost_close : AtMost w w.close := by
  unfold close
  cases done : w.sink.finalize with
  | error failure => exact ⟨by simp [pendingCalls], by simp [pendingLines]⟩
  | ok closed =>
    have same := Sink.lines_of_finalize done
    simp only
    split
    · exact ⟨by simp [finish, logging, pendingCalls], by simp [finish, logging, pendingLines, same]⟩
    · split
      · exact ⟨by simp [pendingCalls], by simp [pendingLines, same]⟩
      · exact ⟨by simp [finish, logging, pendingCalls], by simp [finish, logging, pendingLines, same]⟩

/-- A step with the flag up begins nothing that was not under way. -/
theorem atMost_step (analyze : Nat → Capability) (w : Worker) (released : Bool) :
    AtMost w (w.step analyze true released).1 := by
  unfold step
  split
  · exact ⟨by simp [begin, logging, pendingCalls], by simp [begin, logging, pendingLines]⟩
  · unfold check
    split
    · exact ⟨by simp [pendingCalls], by simp [pendingLines]⟩
    · exact ⟨by simp [logging, pendingCalls], by simp [logging, pendingLines]⟩
  · rename_i stage next
    exact ⟨by simp [call, pendingCalls, stage], by simp [call, pendingLines, stage]⟩
  · rename_i stage next
    simp only
    split
    · exact .refl w
    · exact atMost_receive stage _ _ _
  · rename_i stage next
    exact atMost_write stage _ _
  · exact atMost_close
  · exact ⟨by simp [pendingCalls], by simp [pendingLines]⟩
  · exact ⟨by simp [pendingCalls], by simp [pendingLines]⟩
  · exact ⟨by simp [pendingCalls], by simp [pendingLines]⟩
  · exact .refl w

/-- With the flag up a worker only finishes what was under way. -/
theorem Reaches.atMost (reaches : Reaches analyze (· = true) w v) : AtMost w v := by
  refine reaches.keeps (AtMost w) ?_ (.refl w)
  rintro u cancelled released rfl before
  exact before.trans (atMost_step analyze u released)

/-! ## Lines of the first units -/

theorem enterAll_silenced (index : Int) (call : Nat) (l : Ledger) (units : List String) :
    Ledger.enterAll (silenced analyze) index call l units = Ledger.enterAll analyze index call l units := by
  induction units generalizing l call with
  | nil => rfl
  | cons unit rest ih =>
    simp only [Ledger.enterAll, ih]
    rfl

/-- The lines for the first units come first. -/
theorem lines_ledgerOf_prefix {first units : List String} (part : first <+: units) :
    (ledgerOf analyze shard sink first).sink.lines <+: (ledgerOf analyze shard sink units).sink.lines := by
  obtain ⟨later, rfl⟩ := part
  rw [ledgerOf, ledgerOf, Ledger.enterAll_append]
  exact (Ledger.sameSink_enterAll _ _ _ _ _).lines

/-- At any time a worker has written what the first units of its shard come to. -/
theorem Progress.lines_of_part (progress : Progress analyze shard sink w) :
    ∃ part, part <+: shard.units ∧ w.sink.lines = (ledgerOf analyze shard sink part).sink.lines := by
  have open_ {dealt : List String} (goesOn : Open analyze shard sink w dealt) :
      ∃ part, part <+: shard.units ∧ w.sink.lines = (ledgerOf analyze shard sink part).sink.lines := by
    refine ⟨dealt, ?_, ?_⟩
    · rw [goesOn.parted]
      exact List.prefix_append _ _
    · rw [← goesOn.ledger]
      rfl
  cases progress with
  | queued => exact ⟨[], List.nil_prefix, rfl⟩
  | checking _ goesOn => exact open_ goesOn
  | calling _ _ goesOn => exact open_ goesOn
  | answering _ _ _ goesOn => exact open_ goesOn
  | writing _ _ _ goesOn _ _ => exact open_ goesOn
  | closing _ settled _ => exact ⟨w.called, settled.called_prefix, settled.lines⟩
  | ended _ settled _ _ => exact ⟨w.called, settled.called_prefix, settled.lines⟩

/-- A worker that was cancelled left units, and reports no failure. -/
theorem Settled.of_cancelled (settled : Settled analyze shard sink w) (left : w.cancelled = true) :
    w.result.fatalError = none ∧ ∃ unit rest, shard.units = w.called ++ unit :: rest := by
  cases settled.leaves with
  | cancelled unit rest _ parted stopped _ =>
    refine ⟨?_, unit, rest, parted⟩
    simp [Worker.result, stopped]
  | done _ _ _ uncancelled =>
    rw [left] at uncancelled
    cases uncancelled
  | stopped _ _ _ _ _ _ _ uncancelled =>
    rw [left] at uncancelled
    cases uncancelled

/-- A worker with a finalized sink has a sink that can be closed. -/
theorem Progress.closable (progress : Progress analyze shard sink w) (finalized : w.sink.finalized = true) :
    (sink.finalized || sink.closingFault.isNone) = true := by
  have open_ {dealt : List String} (goesOn : Open analyze shard sink w dealt) :
      (sink.finalized || sink.closingFault.isNone) = true := by
    rw [← untouched_of_ledger goesOn.ledger, finalized, Bool.true_or]
  cases progress with
  | queued => rw [finalized, Bool.true_or]
  | checking _ goesOn => exact open_ goesOn
  | calling _ _ goesOn => exact open_ goesOn
  | answering _ _ _ goesOn => exact open_ goesOn
  | writing _ _ _ goesOn _ _ => exact open_ goesOn
  | closing _ _ untouched => rw [← untouched, finalized, Bool.true_or]
  | ended _ _ _ closes => rw [← closes, finalized]

/-- The worker that runs alone, while nothing cancels it. -/
def alone (analyze : Nat → Capability) (w : Worker) : Worker := (w.run (silenced analyze) false).1

/-- A worker that ran alone has written what its whole shard comes to. -/
theorem lines_alone (analyze : Nat → Capability) (new : w.IsNew) :
    (w.alone analyze).sink.lines = (ledgerOf analyze w.shard w.sink w.shard.units).sink.lines ∧
      (w.alone analyze).sink.finalized = w.sink.closingFault.isNone := by
  have reaches := reaches_run (isQuiet_silenced analyze) w
  obtain ⟨settled, closes⟩ := (new.progress reaches).settled (new.hasEnded_run _ false)
  have whole := settled.whole (reaches.uncancelled new.uncancelled)
  refine ⟨?_, ?_⟩
  · rw [alone, settled.lines, whole, ledgerOf, enterAll_silenced, ledgerOf]
  · rw [alone, closes, new.sink.finalized, Bool.false_or]

/-- What a worker has written at any time it would have written alone for the first units of its shard. -/
theorem Progress.lines_alone_part (progress : Progress analyze w.shard w.sink v) (new : w.IsNew) :
    ∃ part, part <+: w.shard.units ∧
      v.sink.lines = (alone analyze { shard := ⟨w.shard.index, part⟩, sink := w.sink }).sink.lines := by
  obtain ⟨part, inside, lines⟩ := progress.lines_of_part
  have fresh : IsNew { shard := ⟨w.shard.index, part⟩, sink := w.sink } := ⟨rfl, new.sink⟩
  refine ⟨part, inside, ?_⟩
  rw [lines, (lines_alone analyze fresh).1]
  rfl

/-- The lines of a worker are the first lines of the worker that ran alone. -/
theorem Progress.lines_prefix (progress : Progress analyze w.shard w.sink v) (new : w.IsNew) :
    v.sink.lines <+: (w.alone analyze).sink.lines := by
  obtain ⟨part, inside, lines⟩ := progress.lines_of_part
  rw [lines, (lines_alone analyze new).1]
  exact lines_ledgerOf_prefix inside

end

end Worker

namespace Pool

section
variable {analyze : Nat → Capability} {p : Pool} {position : Nat} {w v : Worker}

/-- From the time on when the flag is up each worker begins at most one more analysis and writes at most one more record. -/
theorem atMost_of_cancelled {before after : List Move} (up : (p.follow analyze before).cancelled = true)
    (there : (p.follow analyze before).workers[position]? = some w)
    (later : (p.follow analyze (before ++ after)).workers[position]? = some v) :
    v.called.length ≤ w.called.length + 1 ∧ v.sink.lines.length ≤ w.sink.lines.length + 1 := by
  rw [follow_append] at later
  have most := ((evolves_follow_cancelled up after).reaches there later).atMost
  have calls := w.pendingCalls_le
  have lines := w.pendingLines_le
  obtain ⟨fewCalls, fewLines⟩ := most
  omega

/-! ## Who was cancelled -/

/-- In the course of a schedule the worker at a position looks at the raised flag before a unit of its shard. -/
def TurnsBack (analyze : Nat → Capability) (p : Pool) (schedule : List Move) (position : Nat) : Prop :=
  ∃ before after w, schedule = before ++ .step position :: after ∧ (p.follow analyze before).cancelled = true ∧
    (p.follow analyze before).workers[position]? = some w ∧ w.isLooking = true

theorem turnsBack_cons {move : Move} {rest : List Move} :
    p.TurnsBack analyze (move :: rest) position ↔
      (move = .step position ∧ p.cancelled = true ∧ ∃ w, p.workers[position]? = some w ∧ w.isLooking = true) ∨
        (p.move analyze move).TurnsBack analyze rest position := by
  constructor
  · rintro ⟨before, after, w, parted, up, there, looking⟩
    cases before with
    | nil =>
      cases parted
      exact .inl ⟨rfl, up, w, there, looking⟩
    | cons first before =>
      cases parted
      exact .inr ⟨before, after, w, rfl, up, there, looking⟩
  · rintro (⟨rfl, up, w, there, looking⟩ | ⟨before, after, w, rfl, up, there, looking⟩)
    · exact ⟨[], rest, w, rfl, up, there, looking⟩
    · exact ⟨move :: before, after, w, rfl, up, there, looking⟩

theorem mayStep_of_isLooking (looking : w.isLooking = true) : p.mayStep position w = true := by
  have begun : w.hasBegun = true := by
    unfold Worker.isLooking at looking
    split at looking
    · rename_i stage _
      simp [Worker.hasBegun, stage]
    · cases looking
  simp [mayStep, begun]

/-- A step of the worker at a position cancels it if it looks at the raised flag. -/
theorem cancelled_own_step (analyze : Nat → Capability) (there : p.workers[position]? = some w) :
    ∃ u, (p.move analyze (.step position)).workers[position]? = some u ∧
      u.cancelled = (w.cancelled || (p.cancelled && w.isLooking)) := by
  cases may : p.mayStep position w with
  | true =>
    refine ⟨(w.step analyze p.cancelled p.released).1, ?_, Worker.step_cancelled analyze w _ _⟩
    have inside := (List.getElem?_eq_some_iff.mp there).1
    simp only [Pool.move, there, may, if_true]
    exact List.getElem?_set_self inside
  | false =>
    have elsewhere : w.isLooking = false := by
      cases looking : w.isLooking with
      | false => rfl
      | true =>
        rw [mayStep_of_isLooking looking] at may
        cases may
    refine ⟨w, ?_, by simp [elsewhere]⟩
    simp [Pool.move, there, may]

/-- Another move leaves the worker at a position as it is. -/
theorem Moved.worker {q : Pool} {move : Move} (moved : Moved analyze p move q) (other : move ≠ .step position) :
    q.workers[position]? = p.workers[position]? := by
  cases moved with
  | outside workers _ => rw [workers]
  | cancel => rfl
  | step there may =>
    rename_i place u
    exact List.getElem?_set_ne fun same => other (congrArg Move.step same)

/-- A worker is cancelled exactly if it looked at the raised flag before a unit of its shard. -/
theorem cancelled_iff_turnsBack (schedule : List Move) (before : p.workers[position]? = some w)
    (after : (p.follow analyze schedule).workers[position]? = some v) :
    v.cancelled = true ↔ w.cancelled = true ∨ p.TurnsBack analyze schedule position := by
  induction schedule generalizing p w with
  | nil =>
    rw [follow_nil, before] at after
    cases after
    have never : ¬ p.TurnsBack analyze [] position := by
      rintro ⟨first, rest, _, parted, -⟩
      cases first <;> cases parted
    simp [never]
  | cons move rest ih =>
    rw [turnsBack_cons, before]
    by_cases own : move = .step position
    · subst own
      obtain ⟨u, next, cancelled⟩ := cancelled_own_step analyze before
      rw [ih next after, cancelled]
      simp [or_assoc]
    · have next := ((moved_move analyze p move).worker own).trans before
      rw [ih next after]
      simp [own]

/-! ## Reports -/

/-- The workers that each ran alone, while nothing cancelled them. -/
def alone (analyze : Nat → Capability) (p : Pool) : Pool := { p with workers := p.workers.map (Worker.alone analyze) }

/-- The lines of workers are among those of the workers that ran alone. -/
theorem lines_sublist {a b : List Worker} (new : ∀ w ∈ a, w.IsNew)
    (progress : List.Forall₂ (fun w v => Worker.Progress analyze w.shard w.sink v) a b) :
    ((b.filter (·.sink.finalized)).flatMap (·.sink.lines)).Sublist
      (((a.map (Worker.alone analyze)).filter (·.sink.finalized)).flatMap (·.sink.lines)) := by
  induction progress with
  | nil => exact .slnil
  | @cons w v _ _ first _ ih =>
    have fresh := new w List.mem_cons_self
    have later := ih fun u member => new u (List.mem_cons_of_mem w member)
    have own := (first.lines_prefix fresh).sublist
    have closes := (Worker.lines_alone analyze fresh).2
    rw [List.filter_cons, List.map_cons, List.filter_cons, closes]
    cases finalized : v.sink.finalized with
    | true =>
      have closable := first.closable finalized
      rw [fresh.sink.finalized, Bool.false_or] at closable
      simp only [closable, if_true, List.flatMap_cons]
      exact own.append later
    | false =>
      simp only [Bool.false_eq_true, if_false]
      split
      · rw [List.flatMap_cons]
        exact later.trans (List.sublist_append_right _ _)
      · exact later

/-- A report of workers that may have been cancelled has no line, and none more often, than the whole report. -/
theorem merge_subperm {d : Disk} {q : Pool} (ready : p.IsReady d)
    (evolves : Evolves analyze (fun _ => True) p.workers q.workers) :
    ∃ lines whole, merge (q.flush d) (readable q.sinks) = .ok lines ∧
      merge ((p.alone analyze).flush d) (readable (p.alone analyze).sinks) = .ok whole ∧ lines.Subperm whole := by
  have far : Evolves (silenced analyze) (· = false) p.workers (p.alone analyze).workers := by
    refine List.forall₂_map_right_iff.mpr (List.forall₂_same.mpr ?_)
    exact fun w _ => Worker.reaches_run (isQuiet_silenced analyze) w
  refine ⟨_, _, merge_of_evolves ready evolves, merge_of_evolves ready far, ?_⟩
  have among : q.lines.Subperm (p.alone analyze).lines := (lines_sublist ready.new (evolves.progress ready.new)).subperm
  rw [(sortLines_perm _).subperm_right, (sortLines_perm _).subperm_left]
  exact among

/-- Workers that end while nothing cancels them are those that ran alone. -/
theorem eq_alone_of_uncancelled {d : Disk} {schedule : List Move} (ready : p.IsReady d) (down : p.cancelled = false)
    (undisturbed : Move.cancel ∉ schedule)
    (ended : ∀ v ∈ (p.follow (silenced analyze) schedule).workers, v.hasEnded = true) :
    (p.follow (silenced analyze) schedule).workers = (p.alone analyze).workers :=
  (evolves_follow_quiet (isQuiet_silenced analyze) down undisturbed).eq_alone ready.new (isQuiet_silenced analyze) ended

end

end Pool

/-- Cancellation only cuts tails, whatever the schedule is. From the time on when the flag is up each worker begins at most
one more analysis and writes at most one more record. A worker that has ended has finalized its sink, if the sink can be
closed, with the lines that it writes alone for the first units of its shard; it reports that it was cancelled exactly if it
looked at the raised flag before a unit, and then it left units and reports no failure. The report has no line, and none
more often, than the report of workers that nothing cancels. -/
theorem cancellation_cuts_tails {analyze : Nat → Capability} {p : Pool} {d : Disk} (ready : p.IsReady d)
    (schedule : List Move) :
    (∀ (before after : List Move) (position : Nat) (u v : Worker), schedule = before ++ after →
      (p.follow analyze before).cancelled = true → (p.follow analyze before).workers[position]? = some u →
      (p.follow analyze schedule).workers[position]? = some v →
      v.called.length ≤ u.called.length + 1 ∧ v.sink.lines.length ≤ u.sink.lines.length + 1) ∧
    (∀ (position : Nat) (w v : Worker), p.workers[position]? = some w →
      (p.follow analyze schedule).workers[position]? = some v → v.hasEnded = true →
      v.sink.finalized = w.sink.closingFault.isNone ∧
      (∃ part, part <+: w.shard.units ∧
        v.sink.lines = (Worker.alone analyze { shard := ⟨w.shard.index, part⟩, sink := w.sink }).sink.lines) ∧
      ∀ result, v.stage = .ended (.finished result) →
        (result.cancelled = true ↔ p.TurnsBack analyze schedule position) ∧
        (result.cancelled = true → result.fatalError = none ∧
          ∃ unit rest, w.shard.units = v.called ++ unit :: rest)) ∧
    (∃ lines whole, merge ((p.follow analyze schedule).flush d) (readable (p.follow analyze schedule).sinks) = .ok lines ∧
      merge ((p.alone analyze).flush d) (readable (p.alone analyze).sinks) = .ok whole ∧ lines.Subperm whole) ∧
    ∀ other, p.cancelled = false → Move.cancel ∉ other →
      (∀ v ∈ (p.follow (silenced analyze) other).workers, v.hasEnded = true) →
      (p.follow (silenced analyze) other).workers = (p.alone analyze).workers := by
  have evolves := Pool.evolves_follow_any analyze p schedule
  refine ⟨?_, ?_, Pool.merge_subperm ready evolves, fun other => Pool.eq_alone_of_uncancelled ready⟩
  · rintro before after position u v rfl up there later
    exact Pool.atMost_of_cancelled up there later
  · intro position w v there later ended
    have new := ready.new w (List.mem_of_getElem? there)
    have progress := new.progress (evolves.reaches there later)
    obtain ⟨settled, closes⟩ := progress.settled ended
    rw [new.sink.finalized, Bool.false_or] at closes
    refine ⟨closes, progress.lines_alone_part new, ?_⟩
    intro result stage
    obtain ⟨-, closed, -⟩ := progress.closed stage
    cases closed with
    | finished _ _ =>
      refine ⟨?_, ?_⟩
      · have turned := Pool.cancelled_iff_turnsBack schedule there later
        rw [new.uncancelled] at turned
        simpa [Worker.result] using turned
      · intro left
        exact settled.of_cancelled left

theorem tails_of_turns :
    ∃ lines whole,
      merge ((sampleLaunch.pool.follow (fun _ => sampleReply) (.step 0 :: .cancel :: sampleMoves)).flush bareDisk)
          (readable (sampleLaunch.pool.follow (fun _ => sampleReply) (.step 0 :: .cancel :: sampleMoves)).sinks) =
        .ok lines ∧
      merge ((sampleLaunch.pool.alone fun _ => sampleReply).flush bareDisk)
          (readable (sampleLaunch.pool.alone fun _ => sampleReply).sinks) = .ok whole ∧
      lines.Subperm whole := by
  have given : sampleRequest.GivesNewSinks := fun _ _ none_ => by cases none_
  have accepted : sampleRequest.check = .ok (["c", "b", "a"], 2) := rfl
  have launched : sampleRequest.launch bareDisk = some sampleLaunch := rfl
  obtain ⟨_, -, -, ready⟩ := ready_launch given accepted launched
  exact (cancellation_cuts_tails ready.pool (.step 0 :: .cancel :: sampleMoves)).2.2.1

end GlobalSurvey.Batch
