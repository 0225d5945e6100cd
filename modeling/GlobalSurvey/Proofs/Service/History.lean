import GlobalSurvey.Proofs.Batch.Determined
import GlobalSurvey.Proofs.Batch.Memory
import GlobalSurvey.Proofs.CommandLine.Mishap
import GlobalSurvey.Service.Analyze

/-!
# The service keeps no history

What comes before the batch of a request does not depend on its workers, and ends in a response of status 400 or in a batch
that stays in memory (`prepared_analyze`). So an answer changes no file, and has one of two statuses; and since the files
stay, the settings that the service keeps are always those that it would load anew (`IsFresh`). Each of any requests gets
the answer that it would get alone (`answers_keep_no_history`).
-/
namespace GlobalSurvey.Service
open GlobalSurvey.Batch GlobalSurvey.CommandLine GlobalSurvey.Files

section
variable {a : AnalyzeRequest} {s : Settings} {provider : Provider} {environment : Settings.Environment} {d : Disk}
  {units : List String} {schedule : Pool → List Move}

/-! ## The batch of a request -/

theorem inMemory_batchOf (a : AnalyzeRequest) (s : Settings) (provider : Provider) (units : List String) :
    (batchOf a s provider units).IsInMemory := ⟨rfl, rfl, fun _ _ none_ => by cases none_⟩

theorem unlimited_batchOf (unlimited : s.joinTimeout = none) : (batchOf a s provider units).joinTimeout = none := by
  simp only [batchOf, unlimited, Option.map_none]

/-- What a request comes to before its workers begin. -/
inductive Prepared (a : AnalyzeRequest) (provider : Provider) (environment : Settings.Environment) (d : Disk) : Prop
  /-- There is something wrong with the settings, the directory or the batch. -/
  | refused (h : HttpResponse) (status : h.status = 400)
      (answer : ∀ schedule, (analyze schedule a provider environment none d).2 = ⟨some (.ok h), d⟩)
  /-- The batch is run. -/
  | batch (s : Settings) (units : List String) (workers : Nat) (loaded : Settings.load [] environment d = .ok s)
      (accepted : (batchOf a s provider units).check = .ok (units, workers))
      (answer : ∀ schedule, (analyze schedule a provider environment none d).2 =
        answerOf (Batch.runScheduled schedule (batchOf a s provider units) d))

theorem prepared_analyze (loads : Loads environment d) (a : AnalyzeRequest) (provider : Provider) :
    Prepared a provider environment d := by
  cases loaded : Settings.load [] environment d with
  | error failure =>
    obtain ⟨misfits, rfl⟩ := loads failure loaded
    refine .refused (.detail 400 ("Invalid settings: " ++ (Failure.misfits misfits).message)) rfl fun schedule => ?_
    simp only [analyze, settings, loaded, failureResponse]
  | ok s =>
    have go (schedule : Pool → List Move) :
        (analyze schedule a provider environment none d).2 = analyzeWith schedule a s provider d := by
      simp only [analyze, settings, loaded]
    cases found : foundUnits a s d with
    | error fault =>
      refine .refused (.detail 400 fault.message) rfl fun schedule => ?_
      simp only [go, analyzeWith, found, failureResponse]
    | ok others =>
      have batch (schedule : Pool → List Move) : (analyze schedule a provider environment none d).2 =
          answerOf (Batch.runScheduled schedule (batchOf a s provider (a.units ++ others)) d) := by
        simp only [go, analyzeWith, found]
      have iterable : (batchOf a s provider (a.units ++ others)).units.iterate =
          .ok ((a.units ++ others).map .str) := rfl
      rcases Request.check_of_iterate iterable with ⟨-, fault, checked⟩ | ⟨-, checked, workers, accepted⟩
      · refine .refused (.detail 400 fault.message) rfl fun schedule => ?_
        simp only [batch, Batch.runScheduled, checked, answerOf, failureResponse]
      · obtain rfl := Request.checked_texts rfl accepted
        exact .batch s _ workers loaded accepted batch

/-! ## One answer -/

/-- What the run of a batch in memory comes to. -/
theorem answerOf_batch (calm : ∀ d, IsCalm fun _ => provider.analyze d) (unlimited : s.joinTimeout = none) {workers : Nat}
    (accepted : (batchOf a s provider units).check = .ok (units, workers)) (schedule : Pool → List Move) (d : Disk) :
    (Batch.runScheduled schedule (batchOf a s provider units) d).completion = .waiting ∧
        answerOf (Batch.runScheduled schedule (batchOf a s provider units) d) = ⟨none, d⟩ ∨
      ∃ result, (Batch.runScheduled schedule (batchOf a s provider units) d).completion = .done result ∧
        answerOf (Batch.runScheduled schedule (batchOf a s provider units) d) = ⟨some (.ok (resultResponse result)), d⟩ := by
  have inMemory := inMemory_batchOf a s provider units
  have disk := inMemory.disk schedule d
  rcases inMemory.done_or_waiting (fun _ => rfl) calm (unlimited_batchOf unlimited) accepted schedule d with
    waiting | ⟨result, done⟩
  · exact .inl ⟨waiting, by simp only [answerOf, waiting, disk]⟩
  · exact .inr ⟨result, done, by simp only [answerOf, done, disk]⟩

/-- What an answer to a visit is like if nothing before the visit matters. -/
structure Untouched (environment : Settings.Environment) (d : Disk) (v : Visit) (answer : Answer) : Prop where
  /-- The files are as they were. -/
  disk : answer.disk = d
  /-- There is a response, of one of two statuses, unless workers are still running. -/
  status : ∀ response, answer.response = some response →
    ∃ h : HttpResponse, response = .ok h ∧ (h.status = 200 ∨ h.status = 400)
  /-- It is the answer that the visit gets alone. -/
  alone : answer = (analyze v.schedule v.request (.globalVariables {}) environment none d).2
  /-- It is so whatever turns the workers take. -/
  unique : IsUndisturbed v.schedule → ∀ schedule, IsUndisturbed schedule →
    answer.response ≠ none → (analyze schedule v.request (.globalVariables {}) environment none d).2.response ≠ none →
      answer = (analyze schedule v.request (.globalVariables {}) environment none d).2

theorem untouched_alone (loads : Loads environment d)
    (unlimited : ∀ s, Settings.load [] environment d = .ok s → s.joinTimeout = none) (v : Visit) :
    Untouched environment d v (analyze v.schedule v.request (.globalVariables {}) environment none d).2 := by
  cases prepared_analyze loads v.request (.globalVariables {}) with
  | refused h status answer =>
    refine ⟨?_, ?_, rfl, ?_⟩
    · rw [answer]
    · rintro response same
      rw [answer] at same
      exact ⟨h, (Option.some.inj same).symm, .inr status⟩
    · intro _ schedule _ _ _
      rw [answer, answer]
  | batch s units workers loaded accepted answer =>
    have each := answerOf_batch calm_default (unlimited s loaded) accepted
    refine ⟨?_, ?_, rfl, ?_⟩
    · rw [answer]
      rcases each v.schedule d with ⟨-, same⟩ | ⟨_, -, same⟩ <;> rw [same]
    · intro response ended
      rw [answer] at ended
      rcases each v.schedule d with ⟨-, same⟩ | ⟨result, -, same⟩
      · rw [same] at ended
        cases ended
      · rw [same] at ended
        exact ⟨_, (Option.some.inj ended).symm, .inl rfl⟩
    · intro undisturbed schedule others ended ended'
      rw [answer] at ended ended' ⊢
      rw [answer]
      rcases each v.schedule d with ⟨-, same⟩ | ⟨result, done, same⟩
      · rw [same] at ended
        exact absurd rfl ended
      · rcases each schedule d with ⟨-, same'⟩ | ⟨again, done', same'⟩
        · rw [same'] at ended'
          exact absurd rfl ended'
        · have inMemory := inMemory_batchOf v.request s (.globalVariables {}) units
          have unique := result_unique inMemory.given accepted (quiet_globalVariables {}) undisturbed others done done'
          rw [same, same', unique]

/-! ## One request after the other -/

/-- The settings that are kept are those that would be loaded. -/
def IsFresh (environment : Settings.Environment) (d : Disk) (cache : Cache) : Prop :=
  ∀ s, cache = some s → Settings.load [] environment d = .ok s

theorem settings_eq_load {cache : Cache} (fresh : IsFresh environment d cache) :
    settings environment d cache = Settings.load [] environment d := by
  cases cache with
  | none => rfl
  | some s => exact (fresh s rfl).symm

/-- The settings that are kept do not matter, and stay those that would be loaded. -/
theorem analyze_fresh {cache : Cache} (fresh : IsFresh environment d cache) (schedule : Pool → List Move)
    (a : AnalyzeRequest) (provider : Provider) :
    (analyze schedule a provider environment cache d).2 = (analyze schedule a provider environment none d).2 ∧
      IsFresh environment d (analyze schedule a provider environment cache d).1 := by
  have same := settings_eq_load fresh
  have none_ : settings environment d none = Settings.load [] environment d := rfl
  simp only [analyze, same, none_]
  cases loaded : Settings.load [] environment d with
  | error failure => exact ⟨rfl, fresh⟩
  | ok s =>
    refine ⟨rfl, ?_⟩
    intro other kept
    rw [loaded, ← Option.some.inj kept]

/-- What each answer is like if the one before leaves the files and fresh settings. -/
theorem untouched_all (loads : Loads environment d)
    (unlimited : ∀ s, Settings.load [] environment d = .ok s → s.joinTimeout = none) {cache : Cache}
    (fresh : IsFresh environment d cache) (visits : List Visit) :
    List.Forall₂ (Untouched environment d) visits (analyzeAll (.globalVariables {}) environment cache d visits) := by
  induction visits generalizing cache with
  | nil => exact .nil
  | cons v rest ih =>
    obtain ⟨alone, kept⟩ := analyze_fresh fresh v.schedule v.request (.globalVariables {})
    have first := untouched_alone loads unlimited v
    rw [← alone] at first
    have later := ih kept
    rw [analyzeAll] at later ⊢
    simp only [answerAll, first.disk]
    exact .cons first later

/-! ## The end of a request -/

/-- A request that gets no response has a batch that was accepted, and goes on as this batch does. -/
theorem accepted_of_unanswered (loads : Loads environment d)
    (unlimited : ∀ s, Settings.load [] environment d = .ok s → s.joinTimeout = none)
    (endless : (analyze schedule a (.globalVariables {}) environment none d).2.response = none) :
    ∃ s units workers, Settings.load [] environment d = .ok s ∧
      (batchOf a s (.globalVariables {}) units).check = .ok (units, workers) ∧
      ∀ other, (analyze other a (.globalVariables {}) environment none d).2.response = none →
        (Batch.runScheduled other (batchOf a s (.globalVariables {}) units) d).completion = .waiting := by
  cases prepared_analyze loads a (.globalVariables {}) with
  | refused h status answer =>
    rw [answer] at endless
    cases endless
  | batch s units workers loaded accepted answer =>
    refine ⟨s, units, workers, loaded, accepted, ?_⟩
    intro other waits
    rw [answer] at waits
    rcases answerOf_batch calm_default (unlimited s loaded) accepted other d with ⟨waiting, -⟩ | ⟨_, -, same⟩
    · exact waiting
    · rw [same] at waits
      cases waits

/-- Any requests that one process answers, one after the other, leave all files as they are. Each of them gets the answer
that it would get alone in a new process, whatever turns the workers take: a response of status 200 or 400. A response is
there once each worker has come up often enough. As everywhere, units and the names of files are texts here. -/
theorem answers_keep_no_history (loads : Loads environment d)
    (unlimited : ∀ s, Settings.load [] environment d = .ok s → s.joinTimeout = none) :
    (∀ visits, List.Forall₂ (Untouched environment d) visits
      (analyzeAll (.globalVariables {}) environment none d visits)) ∧
      (∀ (a : AnalyzeRequest) positions, (∀ s, Settings.load [] environment d = .ok s →
          Pool.IsFair (a.workers.getD s.workers).toNat positions) →
        ∃ time, (analyze (fun _ => (List.range time).map fun t => .step (positions t)) a (.globalVariables {}) environment
          none d).2.response ≠ none) ∧
      ∀ a, (analyze Pool.oneByOne a (.globalVariables {}) environment none d).2.response ≠ none := by
  have fresh : IsFresh environment d none := fun _ none_ => by cases none_
  refine ⟨untouched_all loads unlimited fresh, ?_, ?_⟩
  · intro a positions fair
    by_contra endless
    push Not at endless
    obtain ⟨s, units, workers, loaded, accepted, waits⟩ := accepted_of_unanswered loads unlimited (endless 0)
    have turns : Pool.IsFair workers positions := Request.workers_of_check rfl accepted ▸ fair s loaded
    obtain ⟨time, ends⟩ := exists_end_of_fair (d := d) (inMemory_batchOf a s _ units).given
      (unlimited_batchOf (unlimited s loaded)) (prompt_globalVariables {}) accepted turns
    exact ends (waits _ (endless time))
  · intro a endless
    obtain ⟨s, units, workers, loaded, accepted, waits⟩ := accepted_of_unanswered loads unlimited endless
    exact ends_run (inMemory_batchOf a s _ units).given (unlimited_batchOf (unlimited s loaded)) (prompt_globalVariables {})
      accepted (waits _ endless)

end

end GlobalSurvey.Service
