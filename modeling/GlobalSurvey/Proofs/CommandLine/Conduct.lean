import GlobalSurvey.CommandLine.Run
import GlobalSurvey.Proofs.Batch.Refusal

/-!
# How a command that analyzes goes

The settings are loaded, the units are collected, and their batch is checked and run; each of these may be where it ends
(`conduct_analyze`). What is said about all commands is said about each of the ways.
-/
namespace GlobalSurvey.CommandLine
open GlobalSurvey.Batch GlobalSurvey.Files GlobalSurvey.Report

section
variable {a : Analyze} {provider : Provider} {environment : Settings.Environment} {d : Disk} {s : Settings}
  {units : List String} {schedule : Pool → List Move}

/-- The settings that a command uses: those that are loaded, with what the command line overrides. -/
def Analyze.Uses (a : Analyze) (environment : Settings.Environment) (d : Disk) (s : Settings) : Prop :=
  ∃ own, Settings.load [] environment d = .ok own ∧ s = a.override own

theorem Analyze.Uses.unique {other : Settings} (uses : a.Uses environment d s) (again : a.Uses environment d other) :
    other = s := by
  obtain ⟨own, loaded, rfl⟩ := uses
  obtain ⟨_, same, rfl⟩ := again
  rw [loaded] at same
  cases same
  rfl

/-! ## Collecting the units -/

/-- A file that lists units cannot be read: the system refuses it, or its bytes are no text. -/
def IsUnreadable (d : Disk) (path : String) : Prop :=
  (∃ cause name, d.contents path = .error (.refused cause name)) ∨
    ∃ bytes what, d.contents path = .ok bytes ∧ Text.Codec.decodeUtf8 bytes = .error what

/-- Reading a list ends in units, or in a refusal if it cannot be read; a path with the character NUL is no path of a
file at all. -/
inductive Reading (d : Disk) (path : String) : Except Failure (List String) → Prop
  | units (readable : ¬ IsUnreadable d path) (units : List String) : Reading d path (.ok units)
  | refused (unreadable : IsUnreadable d path) (fault : ConfigurationFault) : Reading d path (.error (.configuration fault))
  | null (held : d.contents path = .error .nullCharacter) : Reading d path (.error (.file .nullCharacter))

theorem reading_readUnitList (d : Disk) (path : String) : Reading d path (readUnitList d path) := by
  unfold readUnitList
  cases held : d.contents path with
  | error fault => cases fault with
    | nullCharacter => exact .null held
    | refused cause name => exact .refused (.inl ⟨cause, name, held⟩) _
  | ok bytes =>
    simp only
    cases decoded : Text.Codec.decodeUtf8 bytes with
    | error what => exact .refused (.inr ⟨bytes, what, held, decoded⟩) _
    | ok text =>
      refine .units ?_ _
      rintro (⟨_, _, impossible⟩ | ⟨_, _, same, undecodable⟩)
      · rw [held] at impossible
        cases impossible
      · rw [held] at same
        cases same
        rw [decoded] at undecodable
        cases undecodable

/-- A text that is given and not empty. -/
def IsGiven (text : Option String) (value : String) : Prop := text = some value ∧ value ≠ ""

/-- Why no units can be collected. -/
inductive Analyze.IsUncollectable (a : Analyze) (d : Disk) : Prop
  /-- The file that lists units cannot be read. -/
  | list {path : String} (given : IsGiven a.list path) (unreadable : IsUnreadable d path)
  /-- The root is no directory. -/
  | root {path : String} {listed : List String} (read : a.listed d = .ok listed) (given : IsGiven a.root path)
      (none_ : d.isDirectory path = false)

/-- What collecting the units ends in. -/
inductive Collecting (a : Analyze) (d : Disk) : Except Failure (List String) → Prop
  | units (collectable : ¬ a.IsUncollectable d) (units : List String) : Collecting a d (.ok units)
  | refused (uncollectable : a.IsUncollectable d) (fault : ConfigurationFault) :
      Collecting a d (.error (.configuration fault))
  | null {path : String} (collectable : ¬ a.IsUncollectable d) (given : IsGiven a.list path)
      (held : d.contents path = .error .nullCharacter) : Collecting a d (.error (.file .nullCharacter))

theorem isGiven_of_nonempty {text : Option String} (nonempty : ¬ (text.getD "").isEmpty = true) :
    IsGiven text (text.getD "") := by
  cases text with
  | none => exact absurd (by decide) nonempty
  | some value => exact ⟨rfl, fun empty => nonempty (String.isEmpty_iff.mpr empty)⟩

theorem IsGiven.getD {text : Option String} {value : String} (given : IsGiven text value) :
    text.getD "" = value ∧ ¬ (text.getD "").isEmpty = true := by
  obtain ⟨rfl, nonempty⟩ := given
  exact ⟨rfl, fun empty => nonempty (String.isEmpty_iff.mp empty)⟩

/-- The files below the root can be found exactly if it is a directory, or not given. -/
theorem found_cases (a : Analyze) (d : Disk) (s : Settings) :
    (∃ found, a.found d s = .ok found ∧ ∀ path, IsGiven a.root path → d.isDirectory path = true) ∨
      ∃ path fault, IsGiven a.root path ∧ d.isDirectory path = false ∧ a.found d s = .error (.configuration fault) := by
  unfold Analyze.found
  by_cases empty : (a.root.getD "").isEmpty = true
  · refine .inl ⟨[], by simp [empty], ?_⟩
    intro path given
    exact absurd empty given.getD.2
  · have given := isGiven_of_nonempty empty
    simp only [if_neg empty, scan]
    cases node : d.node? (a.root.getD "") with
    | error fault => exact .inr ⟨_, _, given, by simp [Disk.isDirectory, node], rfl⟩
    | ok other => cases other with
      | directory entries =>
        refine .inl ⟨_, rfl, ?_⟩
        intro path own
        rw [← own.getD.1]
        simp [Disk.isDirectory, node, Node.isDirectory]
      | file content => exact .inr ⟨_, _, given, by simp [Disk.isDirectory, node, Node.isDirectory], rfl⟩
      | link target => exact .inr ⟨_, _, given, by simp [Disk.isDirectory, node, Node.isDirectory], rfl⟩

theorem collecting_units (a : Analyze) (d : Disk) (s : Settings) : Collecting a d (a.units d s) := by
  have goesOn {listed : List String} (read : a.listed d = .ok listed)
      (readable : ∀ path, IsGiven a.list path → ¬ IsUnreadable d path) : Collecting a d (a.units d s) := by
    unfold Analyze.units
    simp only [read]
    rcases found_cases a d s with ⟨found, same, directory⟩ | ⟨path, fault, given, none_, same⟩
    · simp only [same]
      refine .units ?_ _
      intro wrong
      cases wrong with
      | list given unreadable => exact readable _ given unreadable
      | root _ given none_ =>
        rw [directory _ given] at none_
        cases none_
    · simp only [same]
      exact .refused (.root read given none_) fault
  by_cases empty : (a.list.getD "").isEmpty = true
  · have read : a.listed d = .ok [] := by simp only [Analyze.listed, if_pos empty]
    exact goesOn read fun path given => absurd empty given.getD.2
  · have given := isGiven_of_nonempty empty
    have listed : a.listed d = readUnitList d (a.list.getD "") := by simp only [Analyze.listed, if_neg empty]
    have reading := reading_readUnitList d (a.list.getD "")
    rw [← listed] at reading
    cases read : a.listed d with
    | ok units =>
      rw [read] at reading
      cases reading with
      | units readable => exact goesOn read fun path own => own.getD.1 ▸ readable
    | error failure =>
      rw [read] at reading
      unfold Analyze.units
      simp only [read]
      cases reading with
      | refused unreadable fault => exact .refused (.list given unreadable) fault
      | null held =>
        refine .null ?_ given held
        rintro (⟨⟨own, -⟩, ⟨_, _, refused⟩ | ⟨_, _, there, -⟩⟩ | ⟨other, -, -⟩)
        · rw [own, Option.getD_some, refused] at held
          cases held
        · rw [own, Option.getD_some, there] at held
          cases held
        · rw [read] at other
          cases other

/-! ## The request -/

/-- A request that is accepted is about the units that were collected. -/
theorem check_requestOf {checked : List String} {workers : Nat}
    (accepted : (requestOf s provider units).check = .ok (checked, workers)) : checked = units :=
  Request.checked_texts rfl accepted

/-- A batch that comes as far as its workers was accepted, and is about the units that were collected. -/
theorem accepted_of_launch {l : Launch} (launched : (requestOf s provider units).launch d = some l) :
    ∃ workers, (requestOf s provider units).check = .ok (units, workers) :=
  Request.accepted_of_launch rfl launched

theorem iterate_requestOf (s : Settings) (provider : Provider) (units : List String) :
    (requestOf s provider units).units.iterate = .ok (units.map .str) := rfl

theorem new_requestOf (s : Settings) (provider : Provider) (units : List String) :
    (requestOf s provider units).GivesNewSinks := fun _ _ none_ => by cases none_

/-! ## The whole command -/

/-- How a command goes. -/
inductive Conduct (schedule : Pool → List Move) (a : Analyze) (provider : Provider) (environment : Settings.Environment)
    (d : Disk) : Outcome → Prop
  /-- The settings are not as they should be. -/
  | unset {misfits : List Misfit} (loaded : Settings.load [] environment d = .error (.misfits misfits)) (errors : String) :
      Conduct schedule a provider environment d { status := some (.ok statusRefused), errors, disk := d }
  /-- The units cannot be collected. -/
  | uncollected {s : Settings} (uses : a.Uses environment d s) (uncollectable : a.IsUncollectable d)
      (fault : ConfigurationFault) :
      Conduct schedule a provider environment d (outcomeOf s ⟨.failed (.configuration fault), [], d, []⟩)
  /-- The path of the list holds the character NUL. -/
  | null {s : Settings} {path : String} (uses : a.Uses environment d s) (collectable : ¬ a.IsUncollectable d)
      (given : IsGiven a.list path) (held : d.contents path = .error .nullCharacter) :
      Conduct schedule a provider environment d (outcomeOf s ⟨.failed (.file .nullCharacter), [], d, []⟩)
  /-- There is something wrong with the request. -/
  | refused {s : Settings} {units : List String} (uses : a.Uses environment d s) (collectable : ¬ a.IsUncollectable d)
      (collected : a.units d s = .ok units) (wrong : (requestOf s provider units).IsRefused (units.map .str))
      (fault : ConfigurationFault) :
      Conduct schedule a provider environment d (outcomeOf s ⟨.failed (.configuration fault), [], d, []⟩)
  /-- The batch is run. -/
  | ran {s : Settings} {units : List String} {workers : Nat} {shards : List Shard} {run : Run}
      (uses : a.Uses environment d s) (collectable : ¬ a.IsUncollectable d) (collected : a.units d s = .ok units)
      (right : ¬ (requestOf s provider units).IsRefused (units.map .str))
      (accepted : (requestOf s provider units).check = .ok (units, workers))
      (cut : partition units workers = .ok shards)
      (course : Course (requestOf s provider units) d schedule shards (.pipelineStarted units.length workers) run)
      (same : run = Batch.runScheduled schedule (requestOf s provider units) d) :
      Conduct schedule a provider environment d (outcomeOf s run)

/-- What a command comes to whose units are collected. -/
theorem analyze_of_collected (uses : a.Uses environment d s) (collected : a.units d s = .ok units)
    (schedule : Pool → List Move) (provider : Provider) :
    analyze schedule a provider environment d =
      outcomeOf s (Batch.runScheduled schedule (requestOf s provider units) d) := by
  obtain ⟨own, loaded, rfl⟩ := uses
  simp only [analyze, loaded, analyzeWith, collected]

/-- Loading the settings ends in settings, or in the parts that are not as they should be. -/
def Loads (environment : Settings.Environment) (d : Disk) : Prop :=
  ∀ failure, Settings.load [] environment d = .error failure → ∃ misfits, failure = .misfits misfits

/-- Every command that analyzes goes in one of these ways. -/
theorem conduct_analyze (loads : Loads environment d) (schedule : Pool → List Move) (a : Analyze) (provider : Provider) :
    Conduct schedule a provider environment d (analyze schedule a provider environment d) := by
  unfold analyze
  cases loaded : Settings.load [] environment d with
  | error failure =>
    obtain ⟨misfits, rfl⟩ := loads failure loaded
    exact .unset loaded _
  | ok own =>
    have uses : a.Uses environment d (a.override own) := ⟨own, loaded, rfl⟩
    have collecting := collecting_units a d (a.override own)
    simp only [analyzeWith]
    generalize same : a.units d (a.override own) = collected at collecting ⊢
    cases collecting with
    | refused uncollectable fault => exact .uncollected uses uncollectable fault
    | null collectable given held => exact .null uses collectable given held
    | units collectable units =>
      simp only
      rcases Request.check_of_iterate (iterate_requestOf (a.override own) provider units) with
        ⟨wrong, fault, checked⟩ | ⟨right, others, workers, accepted⟩
      · have run : Batch.runScheduled schedule (requestOf (a.override own) provider units) d =
            ⟨.failed (.configuration fault), [], d, []⟩ := by simp only [Batch.runScheduled, checked]
        rw [run]
        exact .refused uses collectable same wrong fault
      · obtain rfl := check_requestOf accepted
        obtain ⟨shards, cut, -⟩ := cut_partition others (Request.check_eq_ok accepted).2
        have given := new_requestOf (a.override own) provider others
        exact .ran uses collectable same right accepted cut (course_runScheduled given accepted cut schedule) rfl

end

end GlobalSurvey.CommandLine
