/-!
# Cutting a list at a separator

`splitAt sep` is the inverse of joining with `sep`: `n` separators give `n + 1` parts, some of them empty.
-/
namespace GlobalSurvey.Text

/-- The parts between the occurrences of `sep`, in order. -/
def splitAt {α : Type} [DecidableEq α] (sep : α) : List α → List (List α)
  | [] => [[]]
  | c :: rest =>
    if c = sep then [] :: splitAt sep rest
    else match splitAt sep rest with
      | [] => [[c]]
      | part :: parts => (c :: part) :: parts

/-- The text before the first `sep`, and the text after it if there is one. -/
def cut {α : Type} [DecidableEq α] (sep : α) : List α → List α × Option (List α)
  | [] => ([], none)
  | c :: rest =>
    if c = sep then ([], some rest)
    else
      let (before, after) := cut sep rest
      (c :: before, after)

theorem splitAt_ne_nil {α : Type} [DecidableEq α] (sep : α) (text : List α) : splitAt sep text ≠ [] := by
  induction text with
  | nil => simp [splitAt]
  | cons c rest ih =>
    simp only [splitAt]
    split
    · simp
    · split <;> simp

/-- A part never holds the separator. -/
theorem not_mem_of_mem_splitAt {α : Type} [DecidableEq α] {sep : α} {text part : List α}
    (h : part ∈ splitAt sep text) : sep ∉ part := by
  induction text generalizing part with
  | nil =>
    have : part = [] := by simpa [splitAt] using h
    simp [this]
  | cons c rest ih =>
    simp only [splitAt] at h
    split at h
    · rcases List.mem_cons.1 h with rfl | h
      · simp
      · exact ih h
    · rename_i different
      split at h
      · have : part = [c] := by simpa using h
        simpa [this] using fun same : sep = c => different same.symm
      · rename_i first parts equal
        rcases List.mem_cons.1 h with rfl | h
        · simp only [List.mem_cons, not_or]
          exact ⟨fun same => different same.symm, ih (by simp [equal])⟩
        · exact ih (by simp [equal, h])

/-- If all parts are empty there are only separators. -/
theorem eq_of_splitAt_empty {α : Type} [DecidableEq α] {sep : α} {text : List α}
    (empty : ∀ part ∈ splitAt sep text, part = []) : ∀ c ∈ text, c = sep := by
  induction text with
  | nil => simp
  | cons c rest ih =>
    simp only [splitAt] at empty
    split at empty
    · rename_i same
      intro d member
      rcases List.mem_cons.1 member with rfl | member
      · exact same
      · exact ih (fun part inside => empty part (List.mem_cons_of_mem [] inside)) d member
    · split at empty <;> simp at empty

/-- A separator ends the part before it. -/
theorem splitAt_append_cons {α : Type} [DecidableEq α] {sep : α} {part : List α} (free : sep ∉ part)
    (rest : List α) : splitAt sep (part ++ sep :: rest) = part :: splitAt sep rest := by
  induction part with
  | nil => simp [splitAt]
  | cons c part ih =>
    rw [List.mem_cons, not_or] at free
    have different : c ≠ sep := fun same => free.1 same.symm
    simp [splitAt, different, ih free.2]

/-- The parts of two texts with a separator between them are the parts of the one and those of the other. -/
theorem splitAt_append {α : Type} [DecidableEq α] (sep : α) (first later : List α) :
    splitAt sep (first ++ sep :: later) = splitAt sep first ++ splitAt sep later := by
  induction first with
  | nil => simp [splitAt]
  | cons c rest ih =>
    obtain ⟨part, parts, equal⟩ := List.exists_cons_of_ne_nil (splitAt_ne_nil sep rest)
    rw [equal] at ih
    by_cases same : c = sep
    · simp [splitAt, same, ih, equal]
    · simp [splitAt, same, ih, equal]

/-- A text without the separator is one part. -/
theorem splitAt_of_not_mem {α : Type} [DecidableEq α] {sep : α} {part : List α} (free : sep ∉ part) :
    splitAt sep part = [part] := by
  induction part with
  | nil => rfl
  | cons c rest ih =>
    rw [List.mem_cons, not_or] at free
    have different : c ≠ sep := fun same => free.1 same.symm
    simp [splitAt, different, ih free.2]

/-- Parts that each end with a separator are read back, with one empty part after the last separator. -/
theorem splitAt_flatMap_terminated {α : Type} [DecidableEq α] {sep : α} {parts : List (List α)}
    (free : ∀ part ∈ parts, sep ∉ part) :
    splitAt sep (parts.flatMap fun part => part ++ [sep]) = parts ++ [[]] := by
  induction parts with
  | nil => rfl
  | cons part parts ih =>
    have tail := ih fun other member => free other (List.mem_cons_of_mem part member)
    simp only [List.flatMap_cons, List.append_assoc, List.cons_append, List.nil_append]
    rw [splitAt_append_cons (free part List.mem_cons_self), tail]

end GlobalSurvey.Text
