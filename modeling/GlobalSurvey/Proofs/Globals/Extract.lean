import GlobalSurvey.Globals.Extract
import GlobalSurvey.Proofs.Globals.Binding
import GlobalSurvey.Proofs.Globals.Walk

/-!
# Exactly the variables of a module

The extracted names are the names that the module's own statements bind and those that are declared `global`, less the
constants and the names with double low lines at both ends if the options say so; each of them is listed once
(`extract_exactly`).
-/
namespace GlobalSurvey.Globals
open GlobalSurvey.Source

/-! ## Each name once -/

/-- The names in the order of their first occurrences, those `seen` before left out. -/
def firstOccurrences (seen : List String) : List String → List String
  | [] => []
  | n :: rest => if n ∈ seen then firstOccurrences seen rest else n :: firstOccurrences (n :: seen) rest

theorem mem_firstOccurrences_iff {name : String} {seen names : List String} :
    name ∈ firstOccurrences seen names ↔ name ∈ names ∧ name ∉ seen := by
  fun_induction firstOccurrences seen names with
  | case1 seen => simp
  | case2 seen first rest known ih =>
    rw [ih, List.mem_cons]
    constructor
    · exact fun ⟨later, new⟩ => ⟨.inr later, new⟩
    · rintro ⟨rfl | later, new⟩
      · exact absurd known new
      · exact ⟨later, new⟩
  | case3 seen first rest unknown ih =>
    rw [List.mem_cons, ih, List.mem_cons, List.mem_cons, not_or]
    constructor
    · rintro (rfl | ⟨later, -, new⟩)
      · exact ⟨.inl rfl, unknown⟩
      · exact ⟨.inr later, new⟩
    · rintro ⟨rfl | later, new⟩
      · exact .inl rfl
      · by_cases same : name = first
        · exact .inl same
        · exact .inr ⟨later, same, new⟩

theorem nodup_firstOccurrences (seen names : List String) : (firstOccurrences seen names).Nodup := by
  fun_induction firstOccurrences seen names with
  | case1 => exact .nil
  | case2 _ _ _ _ ih => exact ih
  | case3 seen first rest _ ih =>
    refine List.nodup_cons.mpr ⟨?_, ih⟩
    intro again
    exact (mem_firstOccurrences_iff.mp again).2 List.mem_cons_self

/-- Whether a name stands decides about its first occurrence only: the others are not looked at. -/
theorem listed_eq_filter (stands : String → Bool) (seen names : List String) :
    listed stands seen names = (firstOccurrences seen names).filter stands := by
  induction names generalizing seen with
  | nil => rfl
  | cons first rest ih =>
    by_cases known : first ∈ seen
    · rw [listed, if_pos known, firstOccurrences, if_pos known, ih]
    · rw [listed, if_neg known, firstOccurrences, if_neg known, List.filter_cons, ih]

theorem extract_eq (options : Options) (m : Module) :
    extract options m = (firstOccurrences [] (mentions options m)).filter (keeps options (finalNames m)) :=
  listed_eq_filter _ _ _

theorem nodup_extract (options : Options) (m : Module) : (extract options m).Nodup := by
  rw [extract_eq]
  exact (nodup_firstOccurrences [] (mentions options m)).filter _

/-! ## What the options leave out -/

/-- The name has more than four characters and two low lines at both ends. -/
def IsDunder (name : String) : Prop :=
  4 < name.length ∧ ['_', '_'] <+: name.toList ∧ ['_', '_'] <:+ name.toList

theorem isDunder_iff {name : String} : isDunder name = true ↔ IsDunder name := by
  have opens : ['_', '_'] <+: name.toList ↔ name.toList.take 2 = ['_', '_'] :=
    List.prefix_iff_eq_take.trans eq_comm
  have closes : ['_', '_'] <:+ name.toList ↔ name.toList.drop (name.toList.length - 2) = ['_', '_'] :=
    List.suffix_iff_eq_drop.trans eq_comm
  simp only [isDunder, IsDunder, Bool.and_eq_true, decide_eq_true_eq, beq_iff_eq, and_assoc, String.length_toList,
    opens, closes]

theorem keeps_iff {options : Options} {constants : List String} {name : String} :
    keeps options constants name = true ↔
      ¬ (options.skipFinal = true ∧ name ∈ constants) ∧ ¬ (options.skipDunder = true ∧ IsDunder name) := by
  simp only [keeps, Bool.and_eq_true, Bool.not_eq_true', Bool.and_eq_false_imp, ← isDunder_iff,
    not_and, Bool.not_eq_true, List.contains_eq_mem, decide_eq_false_iff_not]

/-! ## The names of a module -/

/-- The name stands in a target of a statement that runs in the module's own scope. -/
def IsBound (m : Module) (name : String) : Prop :=
  ∃ s target, Reachable m.body s ∧ IsTargetOf target s ∧ InTarget name target

/-- A `global` statement at any depth of the tree lists the name. -/
def IsDeclaredGlobal (m : Module) (name : String) : Prop :=
  ∃ names, Within (.module m.body) (.stmt (.globalNames names)) ∧ name ∈ names

/-- A statement that runs in the module's own scope declares the name as a constant. -/
def IsConstant (m : Module) (name : String) : Prop :=
  ∃ target annotation value, Reachable m.body (.annotated target annotation value) ∧ MeansFinal annotation ∧
    InTarget name target

theorem mem_names_iff {m : Module} {name : String} : name ∈ (blockBindings m.body).map (·.name) ↔ IsBound m name := by
  constructor
  · intro listed
    obtain ⟨b, member, rfl⟩ := List.mem_map.mp listed
    obtain ⟨s, reached, binds⟩ := mem_blockBindings_iff.mp member
    obtain ⟨target, isTarget, inside⟩ := binds.target
    exact ⟨s, target, reached, isTarget, inside⟩
  · rintro ⟨s, target, reached, isTarget, inside⟩
    obtain ⟨final, binds⟩ := exists_binds isTarget inside
    exact List.mem_map.mpr ⟨⟨name, final⟩, mem_blockBindings_iff.mpr ⟨s, reached, binds⟩, rfl⟩

theorem mem_finalNames_iff {m : Module} {name : String} : name ∈ finalNames m ↔ IsConstant m name := by
  constructor
  · intro listed
    obtain ⟨b, member, rfl⟩ := List.mem_map.mp listed
    obtain ⟨member, final⟩ := List.mem_filter.mp member
    obtain ⟨s, reached, binds⟩ := mem_blockBindings_iff.mp member
    obtain ⟨means⟩ := binds.final.mp final
    obtain ⟨target, ⟨⟩, inside⟩ := binds.target
    exact ⟨_, _, _, reached, means, inside⟩
  · rintro ⟨target, annotation, value, reached, means, inside⟩
    have binds : Binds (.annotated target annotation value) ⟨name, true⟩ :=
      ⟨⟨target, .annotated, inside⟩, by simp [DeclaresConstant.annotated means]⟩
    exact List.mem_map.mpr ⟨⟨name, true⟩, List.mem_filter.mpr ⟨mem_blockBindings_iff.mpr ⟨_, reached, binds⟩, rfl⟩, rfl⟩

theorem mem_mentions_iff {options : Options} {m : Module} {name : String} :
    name ∈ mentions options m ↔
      IsBound m name ∨ options.includeGlobalDeclarations = true ∧ IsDeclaredGlobal m name := by
  rw [mentions, List.mem_append, mem_names_iff]
  split
  · rename_i included
    simp only [included, true_and, mem_globalNames_iff, IsDeclaredGlobal]
  · rename_i excluded
    simp [excluded]

/-- The variables of a text are those of its tree. They are listed once each: the names in the targets of the statements
that run in the module's own scope, and the names of `global` statements at any depth if these count, without the names
declared as constants and without the names with double low lines at both ends if these are to be left out. -/
theorem extract_exactly (options : Options) (m : Module) :
    (∀ text, parseModule text = .ok m → extractFromText options text = .ok (extract options m)) ∧
      (extract options m).Nodup ∧
      ∀ name, name ∈ extract options m ↔
        (IsBound m name ∨ options.includeGlobalDeclarations = true ∧ IsDeclaredGlobal m name) ∧
          ¬ (options.skipFinal = true ∧ IsConstant m name) ∧ ¬ (options.skipDunder = true ∧ IsDunder name) := by
  refine ⟨?_, ?_, ?_⟩
  · intro text parsed
    rw [extractFromText, parsed]
    rfl
  · exact nodup_extract options m
  · intro name
    rw [extract_eq, List.mem_filter, mem_firstOccurrences_iff, mem_mentions_iff, keeps_iff, mem_finalNames_iff]
    simp only [List.not_mem_nil, not_false_eq_true, and_true]

end GlobalSurvey.Globals
