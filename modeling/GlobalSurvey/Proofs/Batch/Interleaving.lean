import GlobalSurvey.Batch.Pool
import GlobalSurvey.Proofs.Batch.Alone
import Mathlib.Data.List.Forall2

/-!
# Workers among others

What a schedule does to a pool it does to its workers one by one: each of them makes steps of its own, with the flag as
it is at that time (`evolves_follow`). The flag never comes down, and it goes up only by a call that cancels or from
outside (`Moved.uncancelled`).
-/
namespace GlobalSurvey.Batch

namespace Pool

/-- Each of some workers gets to the worker in its place. -/
abbrev Evolves (analyze : Nat → Capability) (flag : Bool → Prop) : List Worker → List Worker → Prop :=
  List.Forall₂ (Worker.Reaches analyze flag)

section
variable {analyze : Nat → Capability} {flag : Bool → Prop} {p : Pool}

theorem Evolves.refl (workers : List Worker) : Evolves analyze flag workers workers :=
  List.forall₂_same.mpr fun _ _ => .refl

theorem Evolves.trans {a b c : List Worker} (ab : Evolves analyze flag a b) (bc : Evolves analyze flag b c) :
    Evolves analyze flag a c := by
  induction ab generalizing c with
  | nil => exact bc
  | cons first _ ih =>
    cases bc with
    | cons second rest => exact .cons (first.trans second) (ih rest)

/-- A step of the worker at a position. -/
theorem evolves_set {workers : List Worker} {position : Nat} {w v : Worker} (there : workers[position]? = some w)
    (reaches : Worker.Reaches analyze flag w v) : Evolves analyze flag workers (workers.set position v) := by
  induction workers generalizing position with
  | nil => cases there
  | cons first rest ih =>
    cases position with
    | zero =>
      cases there
      exact .cons reaches (Evolves.refl rest)
    | succ position => exact .cons .refl (ih there)

theorem Evolves.reaches {a b : List Worker} (evolves : Evolves analyze flag a b) {position : Nat} {w v : Worker}
    (before : a[position]? = some w) (after : b[position]? = some v) : Worker.Reaches analyze flag w v := by
  induction evolves generalizing position with
  | nil => cases before
  | cons first _ ih =>
    cases position with
    | zero =>
      cases before
      cases after
      exact first
    | succ position => exact ih before after

/-- Where the workers of a pool come from. -/
theorem exists_start {related : Worker → Worker → Prop} {a b : List Worker} (all : List.Forall₂ related a b) {v : Worker}
    (member : v ∈ b) : ∃ w ∈ a, related w v := by
  induction all with
  | nil => cases member
  | cons first _ ih =>
    rcases List.mem_cons.mp member with rfl | later
    · exact ⟨_, List.mem_cons_self, first⟩
    · obtain ⟨w, inside, same⟩ := ih later
      exact ⟨w, List.mem_cons_of_mem _ inside, same⟩

/-! ## Moves and schedules -/

/-- What a move may do to the workers and the flag: nothing, put the flag up, or let one worker make a step. -/
inductive Moved (analyze : Nat → Capability) (p : Pool) : Move → Pool → Prop
  | outside {q : Pool} {move : Move} (workers : q.workers = p.workers) (flag : q.cancelled = p.cancelled) :
      Moved analyze p move q
  | cancel : Moved analyze p .cancel { p with cancelled := true }
  | step {position : Nat} {w : Worker} (there : p.workers[position]? = some w) (may : p.mayStep position w = true) :
      Moved analyze p (.step position)
        { p with
          workers := p.workers.set position (w.step analyze p.cancelled p.released).1
          cancelled := p.cancelled || (w.step analyze p.cancelled p.released).2 }

theorem moved_move (analyze : Nat → Capability) (p : Pool) (move : Move) : Moved analyze p move (p.move analyze move) := by
  cases move with
  | step position =>
    cases there : p.workers[position]? with
    | none =>
      simp only [Pool.move, there]
      exact .outside rfl rfl
    | some w =>
      cases may : p.mayStep position w with
      | false =>
        simp only [Pool.move, there, may, Bool.false_eq_true, if_false]
        exact .outside rfl rfl
      | true =>
        simp only [Pool.move, there, may, if_true]
        exact .step there may
  | cancel => exact .cancel
  | release => exact .outside rfl rfl
  | shut => exact .outside rfl rfl

variable {q : Pool} {move : Move}

theorem Moved.evolves (moved : Moved analyze p move q) (up : flag p.cancelled) :
    Evolves analyze flag p.workers q.workers := by
  cases moved with
  | outside workers _ =>
    rw [workers]
    exact .refl _
  | cancel => exact .refl _
  | step there may => exact evolves_set there (.single ⟨_, _, up, rfl⟩)

/-- The flag stays up. -/
theorem Moved.cancelled (moved : Moved analyze p move q) (up : p.cancelled = true) : q.cancelled = true := by
  cases moved with
  | outside _ flag => rw [flag, up]
  | cancel => rfl
  | step there may => simp [up]

/-- The flag stays down if no call cancels the batch and it is not put up from outside. -/
theorem Moved.uncancelled (moved : Moved analyze p move q) (quiet : IsQuiet analyze) (down : p.cancelled = false)
    (other : move ≠ .cancel) : q.cancelled = false := by
  cases moved with
  | outside _ flag => rw [flag, down]
  | cancel => exact absurd rfl other
  | step there may => simp [down, Worker.step_quiet quiet]

theorem follow_nil (analyze : Nat → Capability) (p : Pool) : p.follow analyze [] = p := rfl

theorem follow_append (analyze : Nat → Capability) (p : Pool) (before after : List Move) :
    p.follow analyze (before ++ after) = (p.follow analyze before).follow analyze after :=
  List.foldl_append

/-- What a schedule does to a pool it does to its workers one by one. -/
theorem evolves_follow {schedule : List Move} (up : flag p.cancelled)
    (stays : ∀ {p q : Pool}, ∀ move ∈ schedule, Moved analyze p move q → flag p.cancelled → flag q.cancelled) :
    Evolves analyze flag p.workers (p.follow analyze schedule).workers ∧ flag (p.follow analyze schedule).cancelled := by
  induction schedule generalizing p with
  | nil => exact ⟨.refl _, up⟩
  | cons move rest ih =>
    have moved := moved_move analyze p move
    have next := stays move List.mem_cons_self moved up
    obtain ⟨later, last⟩ := ih next fun other member => stays other (List.mem_cons_of_mem move member)
    exact ⟨(moved.evolves up).trans later, last⟩

theorem evolves_follow_any (analyze : Nat → Capability) (p : Pool) (schedule : List Move) :
    Evolves analyze (fun _ => True) p.workers (p.follow analyze schedule).workers :=
  (evolves_follow trivial fun _ _ _ _ => trivial).1

theorem evolves_follow_cancelled (up : p.cancelled = true) (schedule : List Move) :
    Evolves analyze (· = true) p.workers (p.follow analyze schedule).workers :=
  (evolves_follow up fun _ _ moved raised => moved.cancelled raised).1

theorem evolves_follow_quiet (quiet : IsQuiet analyze) (down : p.cancelled = false) {schedule : List Move}
    (undisturbed : Move.cancel ∉ schedule) :
    Evolves analyze (· = false) p.workers (p.follow analyze schedule).workers := by
  refine (evolves_follow down ?_).1
  intro p q move member moved lowered
  exact moved.uncancelled quiet lowered fun same => undisturbed (same ▸ member)

end

end Pool

/-! ## New workers -/

namespace Worker

/-- A worker that has not begun, with a sink that nothing was done with. -/
structure IsNew (w : Worker) : Prop where
  idle : w = { shard := w.shard, sink := w.sink }
  sink : w.sink.IsNew

section
variable {analyze : Nat → Capability} {flag : Bool → Prop} {w v : Worker}

theorem IsNew.progress (new : w.IsNew) (reaches : Reaches analyze flag w v) :
    Progress analyze w.shard w.sink v := by
  rw [new.idle] at reaches
  exact reaches.progress

theorem IsNew.uncancelled (new : w.IsNew) : w.cancelled = false := by rw [new.idle]

theorem IsNew.hasEnded_run (new : w.IsNew) (analyze : Nat → Capability) (cancelled : Bool) :
    (w.run analyze cancelled).1.hasEnded = true := by
  rw [new.idle]
  exact Worker.hasEnded_run analyze w.shard w.sink cancelled

/-- A new worker that ended while the flag was down is where it ends on its own. -/
theorem IsNew.eq_run (new : w.IsNew) (quiet : IsQuiet analyze) (reaches : Reaches analyze (· = false) w v)
    (ended : v.hasEnded = true) : v = (w.run analyze false).1 := by
  rw [new.idle] at reaches ⊢
  exact eq_run_of_ended quiet reaches ended

end

end Worker

end GlobalSurvey.Batch
