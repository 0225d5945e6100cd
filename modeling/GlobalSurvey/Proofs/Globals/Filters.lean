import GlobalSurvey.Proofs.Globals.Extract

/-!
# The options as filters

Names are dropped where they occur first, while the occurrences are still being told apart. A name that is dropped counts
as seen, so this comes to the same as to drop names afterwards (`listed_eq_filter`): the two options that drop names filter
the list that is made without them (`extract_eq_filter`), and the names of `global` statements only come after those that
are bound (`extract_with_globals`): one list, of which the options show more or less (`options_filter`).
-/
namespace GlobalSurvey.Globals
open GlobalSurvey.Source

/-! ## First occurrences in a longer list -/

/-- Of the names seen before it only matters which they are. -/
theorem firstOccurrences_congr {seen other : List String} (same : ∀ n, n ∈ seen ↔ n ∈ other) (names : List String) :
    firstOccurrences seen names = firstOccurrences other names := by
  induction names generalizing seen other with
  | nil => rfl
  | cons first rest ih =>
    have grown : ∀ n, n ∈ first :: seen ↔ n ∈ first :: other := by
      intro n
      rw [List.mem_cons, List.mem_cons, same]
    simp only [firstOccurrences, same, ih same, ih grown]

/-- What comes after some names is taken as if these had been seen. -/
theorem firstOccurrences_append (seen names more : List String) :
    firstOccurrences seen (names ++ more) = firstOccurrences seen names ++ firstOccurrences (names ++ seen) more := by
  induction names generalizing seen with
  | nil => rfl
  | cons first rest ih =>
    by_cases known : first ∈ seen
    · have same : ∀ n, n ∈ rest ++ seen ↔ n ∈ first :: rest ++ seen := by
        intro n
        simp only [List.cons_append, List.mem_cons, List.mem_append, iff_or_self]
        rintro rfl
        exact .inr known
      simp only [List.cons_append, firstOccurrences, if_pos known, ih]
      rw [firstOccurrences_congr same, List.cons_append]
    · have same : ∀ n, n ∈ rest ++ first :: seen ↔ n ∈ first :: rest ++ seen := by
        intro n
        simp only [List.cons_append, List.mem_cons, List.mem_append, or_left_comm]
      simp only [List.cons_append, firstOccurrences, if_neg known, ih]
      rw [firstOccurrences_congr same, List.cons_append]

/-! ## The options -/

theorem keeps_all (options : Options) (constants : List String) (name : String) :
    keeps { options with skipFinal := false, skipDunder := false } constants name = true := rfl

/-- The options that leave names out filter the list that leaves none out. -/
theorem extract_eq_filter (options : Options) (m : Module) :
    extract options m =
      (extract { options with skipFinal := false, skipDunder := false } m).filter (keeps options (finalNames m)) := by
  simp only [extract_eq, List.filter_filter, keeps_all, Bool.and_true]
  rfl

/-- The names of `global` statements that are not bound come after the others, in the order of the traversal. -/
theorem extract_with_globals (options : Options) (m : Module) :
    extract { options with includeGlobalDeclarations := true } m =
      extract { options with includeGlobalDeclarations := false } m ++
        (firstOccurrences ((blockBindings m.body).map (·.name)) (globalNames m)).filter
          (keeps options (finalNames m)) := by
  simp only [extract_eq, mentions, if_true, Bool.false_eq_true, if_false, List.append_nil]
  rw [firstOccurrences_append, List.filter_append, List.append_nil]
  rfl

/-- The options are filters. The variables of a module are those it has when no name is left out, in the same order, less
exactly the constants and the names with double low lines at both ends, as far as these are to be left out; and the
variables without the names of `global` statements are the first of those with them. -/
theorem options_filter (options : Options) (m : Module) :
    (∃ stands : String → Bool,
      (∀ name, stands name = true ↔
        ¬ (options.skipFinal = true ∧ IsConstant m name) ∧ ¬ (options.skipDunder = true ∧ IsDunder name)) ∧
        extract options m = (extract { options with skipFinal := false, skipDunder := false } m).filter stands) ∧
      extract { options with includeGlobalDeclarations := false } m <+:
        extract { options with includeGlobalDeclarations := true } m := by
  constructor
  · refine ⟨keeps options (finalNames m), ?_, extract_eq_filter options m⟩
    intro name
    rw [keeps_iff, mem_finalNames_iff]
  · exact ⟨_, (extract_with_globals options m).symm⟩

end GlobalSurvey.Globals
