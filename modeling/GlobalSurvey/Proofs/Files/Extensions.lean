import GlobalSurvey.Proofs.Files.Search

/-!
# Extensions of file names

A path is split before the last point of its last component, unless nothing but points stands before that point
(`IsSplit`). There is one such split of every path, and `splitExtension` finds it (`splitExtension_eq_iff`). A file name has
one of some extensions exactly if the lower case of the part split off is that of one of them (`extension_exactly`).
-/
namespace GlobalSurvey.Files
open GlobalSurvey.Text

/-! ## The last component and its points -/

/-- A text has a last occurrence of a character, or it is the part after it. -/
theorem exists_before_last (c : Char) (text : List Char) :
    uptoLast c text = [] ∧ afterLast c text = text ∨
      ∃ before, uptoLast c text = before ++ [c] ∧ text = before ++ c :: afterLast c text := by
  have parts := uptoLast_append_afterLast c text
  rcases uptoLast_ends c text with none | ends
  · rw [none, List.nil_append] at parts
    exact .inl ⟨none, parts⟩
  · obtain ⟨before, opened⟩ := List.getLast?_eq_some_iff.mp ends
    rw [opened, List.append_assoc] at parts
    exact .inr ⟨before, opened, parts.symm⟩

/-- The component is what follows the last slash of the path, or the whole path if that has no slash. -/
def IsLastComponent (path component : List Char) : Prop :=
  '/' ∉ component ∧ (path = component ∨ ∃ front, path = front ++ '/' :: component)

theorem isLastComponent_iff {path component : List Char} :
    IsLastComponent path component ↔ component = afterLast '/' path := by
  constructor
  · rintro ⟨whole, rfl | ⟨front, rfl⟩⟩
    · exact (afterLast_of_not_mem whole).symm
    · rw [afterLast_append_cons, afterLast_of_not_mem whole]
  · rintro rfl
    refine ⟨not_mem_afterLast '/' path, ?_⟩
    rcases exists_before_last '/' path with ⟨-, whole⟩ | ⟨front, -, parts⟩
    · exact .inl whole.symm
    · exact .inr ⟨front, parts⟩

/-- Some point of the text comes after a character other than a point. -/
def HasInnerPoint (text : List Char) : Prop := ∃ before after, text = before ++ '.' :: after ∧ ∃ c ∈ before, c ≠ '.'

/-- A point comes after another character exactly if the last point does. -/
theorem hasInnerPoint_iff {text : List Char} : HasInnerPoint text ↔ ∃ c ∈ uptoLast '.' text, c ≠ '.' := by
  constructor
  · rintro ⟨before, after, rfl, c, member, other⟩
    rw [uptoLast_append_cons]
    exact ⟨c, List.mem_append_left _ member, other⟩
  · rintro ⟨c, member, other⟩
    rcases exists_before_last '.' text with ⟨none, -⟩ | ⟨before, opened, parts⟩
    · rw [none] at member
      cases member
    · rw [opened] at member
      have inside : c ∈ before := (List.mem_append.mp member).resolve_right fun point => other (List.mem_singleton.mp point)
      exact ⟨before, afterLast '.' text, parts, c, inside, other⟩

/-! ## The split -/

/-- The path is split into a root and an extension. -/
structure IsSplit (path root extension : List Char) : Prop where
  /-- Nothing is lost. -/
  joined : root ++ extension = path
  /-- An extension starts with its only point and stays within a component. -/
  form : extension = [] ∨ ∃ rest, extension = '.' :: rest ∧ '.' ∉ rest ∧ '/' ∉ rest
  /-- There is an extension if the last component has a point after a character other than a point. -/
  proper : extension ≠ [] ↔ ∃ component, IsLastComponent path component ∧ HasInnerPoint component

/-- A path is split in one way only. -/
theorem IsSplit.unique {path root extension root' extension' : List Char} (split : IsSplit path root extension)
    (split' : IsSplit path root' extension') : root = root' ∧ extension = extension' := by
  have same : extension = extension' := by
    rcases split.form with rfl | ⟨rest, rfl, single, -⟩
    · exact (not_ne_iff.mp (mt (split'.proper.trans split.proper.symm).mp (not_not.mpr rfl))).symm
    · rcases split'.form with rfl | ⟨rest', rfl, single', -⟩
      · exact absurd rfl (split'.proper.mpr (split.proper.mp (List.cons_ne_nil _ _)))
      · -- both are what follows the last point
        have last := congrArg (afterLast '.') (split.joined.trans split'.joined.symm)
        rw [afterLast_append_cons, afterLast_append_cons, afterLast_of_not_mem single, afterLast_of_not_mem single'] at last
        rw [last]
  subst same
  exact ⟨List.append_cancel_right (split.joined.trans split'.joined.symm), rfl⟩

/-- The path is split before the last point of its last component if that is an inner point, and else not at all. -/
theorem isSplit_splitExtension (path : List Char) : IsSplit path (splitExtension path).1 (splitExtension path).2 := by
  have inner : ((uptoLast '.' (afterLast '/' path)).any (· ≠ '.')) = true ↔ HasInnerPoint (afterLast '/' path) := by
    rw [hasInnerPoint_iff, List.any_eq_true]
    simp only [decide_eq_true_eq]
  have last {component : List Char} : IsLastComponent path component ↔ component = afterLast '/' path :=
    isLastComponent_iff
  unfold splitExtension
  dsimp only
  split
  · rename_i point
    have proper := inner.mp point
    rcases exists_before_last '.' (afterLast '/' path) with ⟨none, -⟩ | ⟨before, -, parts⟩
    · rw [none] at point
      cases point
    · have ends : '.' :: afterLast '.' (afterLast '/' path) <:+ path := by
        refine ⟨uptoLast '/' path ++ before, ?_⟩
        rw [List.append_assoc, ← parts, uptoLast_append_afterLast]
      refine ⟨List.suffix_iff_eq_append.mp ends, .inr ⟨_, rfl, not_mem_afterLast '.' _, ?_⟩, ?_⟩
      · intro slash
        refine not_mem_afterLast '/' path ?_
        rw [parts]
        exact List.mem_append_right _ (List.mem_cons_of_mem _ slash)
      · exact iff_of_true (List.cons_ne_nil _ _) ⟨_, last.mpr rfl, proper⟩
  · rename_i noPoint
    refine ⟨List.append_nil path, .inl rfl, iff_of_false (not_not.mpr rfl) ?_⟩
    rintro ⟨component, isLast, proper⟩
    rw [last.mp isLast] at proper
    exact noPoint (inner.mpr proper)

theorem splitExtension_eq_iff {path root extension : List Char} :
    splitExtension path = (root, extension) ↔ IsSplit path root extension := by
  constructor
  · intro split
    have found := isSplit_splitExtension path
    rwa [split] at found
  · intro split
    obtain ⟨first, second⟩ := split.unique (isSplit_splitExtension path)
    rw [first, second]

/-! ## Extensions that are looked for -/

/-- A file name has one of some extensions exactly if the extension that it is split into has the lower case of one of
them. The split is the only one into a root and an extension that give the name back, in which the extension is empty, or
starts with its only point and has no slash, and is not empty exactly if the last component of the name has a point after a
character other than a point. -/
theorem extension_exactly (filename : String) (extensions : List String) :
    (∀ root extension, splitExtension filename.toList = (root, extension) ↔
        IsSplit filename.toList root extension) ∧
      (hasExtension filename extensions = true ↔ ∃ root extension, IsSplit filename.toList root extension ∧
        ∃ e ∈ extensions, CaseMap.lower extension = CaseMap.lower e.toList) := by
  refine ⟨fun root extension => splitExtension_eq_iff, ?_⟩
  rw [hasExtension_iff]
  constructor
  · rintro ⟨e, member, same⟩
    exact ⟨_, _, isSplit_splitExtension filename.toList, e, member, same.symm⟩
  · rintro ⟨root, extension, split, e, member, same⟩
    obtain ⟨-, rfl⟩ := split.unique (isSplit_splitExtension filename.toList)
    exact ⟨e, member, same.symm⟩

/-- Points at the start of a name and points of directories begin no extension; of several points the last one does. -/
example : hasExtension "a.py/.py" [".py"] = false ∧ hasExtension "..a.tar.PY" [".txt", ".Py"] = true := by decide

end GlobalSurvey.Files
