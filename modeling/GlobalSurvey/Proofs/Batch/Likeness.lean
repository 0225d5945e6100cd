import GlobalSurvey.Proofs.Batch.Determined
import GlobalSurvey.Proofs.Batch.Sources

/-!
# Batches that are alike

Units with other names may fare alike: they get the same line, and end the work or do not. Batches of as many workers whose
units fare alike, one after the other, are cut alike and come to the same lines (`Undivided.alike`). Sources with the same
bytes and the same last name fare alike (`alike_sourceOutcome`).
-/
namespace GlobalSurvey.Batch
open GlobalSurvey.Files GlobalSurvey.Report

/-- Two units get the same line, and end the work or do not. -/
structure Alike (outcome others : String → Outcome) (unit other : String) : Prop where
  line : (outcome unit).line? unit = (others other).line? other
  fatal : (outcome unit).isFatal = (others other).isFatal

section
variable {outcome others : String → Outcome} {units more : List String}

theorem linesOf_alike (alike : List.Forall₂ (Alike outcome others) units more) :
    linesOf outcome units = linesOf others more := by
  induction alike with
  | nil => rfl
  | cons first _ ih =>
    rename_i unit other rest further _
    cases fatal : (outcome unit).isFatal with
    | true => rw [linesOf_cons_fatal fatal, linesOf_cons_fatal (first.fatal ▸ fatal)]
    | false => rw [linesOf_cons fatal, linesOf_cons (first.fatal ▸ fatal), first.line, ih]

theorem full_alike (alike : List.Forall₂ (Alike outcome others) units more) :
    IsFull outcome units ↔ IsFull others more := by
  induction alike with
  | nil => exact iff_of_true (fun _ member => (List.not_mem_nil member).elim) fun _ member => (List.not_mem_nil member).elim
  | cons first _ ih =>
    unfold IsFull at ih ⊢
    rw [List.forall_mem_cons, List.forall_mem_cons, first.line, ih]

end

/-! ## Cutting -/

section
variable {R : String → String → Prop}

theorem numbered_forall {parts others : List (List String)} (all : List.Forall₂ (List.Forall₂ R) parts others)
    (index : Nat) :
    List.Forall₂ (fun s t : Shard => List.Forall₂ R s.units t.units) (numbered index parts) (numbered index others) := by
  induction all generalizing index with
  | nil => exact .nil
  | cons first _ ih => exact .cons first (ih (index + 1))

/-- Lists that go together are cut into shards that go together. -/
theorem partition_forall {units others : List String} (all : List.Forall₂ R units others) {workers : Int}
    {shards further : List Shard} (cut : partition units workers = .ok shards)
    (cut' : partition others workers = .ok further) :
    List.Forall₂ (fun s t : Shard => List.Forall₂ R s.units t.units) shards further := by
  unfold partition slices at cut cut'
  rw [all.length_eq] at cut
  cases bounds : shardBounds others.length workers with
  | error fault =>
    simp only [bounds] at cut
    cases cut
  | ok all_ =>
    simp only [bounds] at cut cut'
    cases cut
    cases cut'
    refine numbered_forall ?_ 0
    rw [List.forall₂_map_left_iff, List.forall₂_map_right_iff, List.forall₂_same]
    exact fun b _ => List.forall₂_drop _ (List.forall₂_take _ all)

end

/-! ## Reports -/

/-- Batches of as many workers whose units fare alike come to the same lines, and are all right or not. -/
theorem Undivided.alike {r other : Request} {l k : Launch} {units more : List String} {workers : Nat}
    {shards further : List Shard} {p q : Pool} {result again : PipelineResult}
    (all : Undivided r l units workers shards p result) (all' : Undivided other k more workers further q again)
    (accepted : r.check = .ok (units, workers)) (accepted' : other.check = .ok (more, workers))
    (cut : partition units workers = .ok shards) (cut' : partition more workers = .ok further)
    (closable : ∀ shard, r.sinkFault shard = none) (closable' : ∀ shard, other.sinkFault shard = none)
    (alike : List.Forall₂ (Alike (fun unit => (r.provider.analyze l.disk unit).outcome)
      fun unit => (other.provider.analyze k.disk unit).outcome) units more) :
    result.lines = again.lines ∧ (result.ok = true ↔ again.ok = true) := by
  refine ⟨?_, ?_⟩
  · rw [all.lines, all'.lines, all.lines_filed closable, all'.lines_filed closable']
    congr 1
    have together := partition_forall alike cut cut'
    clear cut cut' all all'
    induction together with
    | nil => rfl
    | cons first _ ih => rw [List.flatMap_cons, List.flatMap_cons, linesOf_alike first, ih]
  · rw [all.ok_iff accepted closable, all'.ok_iff accepted' closable']
    exact full_alike alike

/-! ## Sources -/

/-- Two pieces of work end in the same way, but for the reasons why their units are refused. -/
inductive Agree {α : Type} : Except Failure α → Except Failure α → Prop
  | same (result : Except Failure α) : Agree result result
  | refused (unit reason other why : String) : Agree (.error (.rejected unit reason)) (.error (.rejected other why))

section
variable {options : Globals.Options} {d e : Disk} {unit other : String}

/-- Reading sources with the same bytes, or both without any, ends in the same way. -/
theorem agree_readText (null : '\x00' ∈ unit.toList ↔ '\x00' ∈ other.toList)
    (bytes : ∀ content, d.contents unit = .ok content ↔ e.contents other = .ok content) :
    Agree (Globals.readText options d unit) (Globals.readText options e other) := by
  rw [← Disk.contents_eq_nullCharacter_iff (d := d), ← Disk.contents_eq_nullCharacter_iff (d := e)] at null
  unfold Globals.readText
  cases held : d.contents unit with
  | ok content =>
    rw [(bytes content).mp held]
    cases Text.Codec.ofName? options.encoding with
    | none => exact .same _
    | some codec =>
      simp only
      cases codec.decode content with
      | ok text => exact .same _
      | error fault => cases fault with
        | undecodable what => exact .refused _ _ _ _
        | unmarked => exact .same _
  | error fault => cases same : e.contents other with
    | ok content =>
      rw [(bytes content).mpr same] at held
      cases held
    | error another =>
      rw [held, same] at null
      cases fault with
      | nullCharacter =>
        cases null.mp rfl
        exact .same _
      | refused cause path => cases another with
        | nullCharacter => cases null.mpr rfl
        | refused _ _ => exact .refused _ _ _ _

theorem agree_analyze (null : '\x00' ∈ unit.toList ↔ '\x00' ∈ other.toList)
    (bytes : ∀ content, d.contents unit = .ok content ↔ e.contents other = .ok content) :
    Agree (Globals.analyze options d unit) (Globals.analyze options e other) := by
  have read : Agree (Globals.readText options d unit) (Globals.readText options e other) := agree_readText null bytes
  unfold Globals.analyze
  generalize Globals.readText options d unit = first at read ⊢
  generalize Globals.readText options e other = second at read ⊢
  cases read with
  | refused => exact .refused _ _ _ _
  | same => cases first with
    | error failure => exact .same _
    | ok text =>
      simp only
      cases Globals.extractFromText options text with
      | ok names => exact .same _
      | error fault => exact .refused _ _ _ _

/-- Sources with the same bytes, or both without any, fare alike under the same last name. -/
theorem alike_sourceOutcome (options : Globals.Options) (name : displayName unit = displayName other)
    (null : '\x00' ∈ unit.toList ↔ '\x00' ∈ other.toList)
    (bytes : ∀ content, d.contents unit = .ok content ↔ e.contents other = .ok content) :
    Alike (sourceOutcome options d) (sourceOutcome options e) unit other := by
  have agree : Agree (Globals.analyze options d unit) (Globals.analyze options e other) := agree_analyze null bytes
  have outcomes : sourceOutcome options d unit = .ofTexts (Globals.analyze options d unit) ∧
      sourceOutcome options e other = .ofTexts (Globals.analyze options e other) := ⟨rfl, rfl⟩
  generalize Globals.analyze options d unit = first at agree outcomes
  generalize Globals.analyze options e other = second at agree outcomes
  refine ⟨?_, ?_⟩ <;> rw [outcomes.1, outcomes.2]
  · cases agree with
    | refused => rfl
    | same =>
      cases Outcome.ofTexts first with
      | facts all =>
        have record : (Record.make unit all).render = (Record.make other all).render := by
          simp only [Record.make, Record.render, name]
        rw [Outcome.line?, Outcome.line?, record]
      | rejected reason => rfl
      | failed failure => rfl
  · cases agree <;> rfl

end

end GlobalSurvey.Batch
