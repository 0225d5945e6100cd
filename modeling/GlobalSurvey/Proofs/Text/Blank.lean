import GlobalSurvey.Text.Blank
import Mathlib.Data.List.TakeWhile

/-!
# Trimmed texts and lines

White space before and after a text does not count when the text is trimmed (`trim_padded`). A line that holds no line end
is read as the first line of a text in which a line feed follows it (`lines_cons`).
-/
namespace GlobalSurvey.Text

variable {text line rest before after : List Char}

/-! ## Trimming -/

/-- There is nothing left of a text when its ends are trimmed if all of it is white space. -/
theorem trim_eq_nil_iff : trim text = [] ↔ ∀ c ∈ text, isBlank c = true := by
  simp only [trim, trimEnd, trimStart, List.reverse_eq_nil_iff, List.dropWhile_eq_nil_iff, List.mem_reverse]
  constructor
  · intro rest c member
    rw [← List.takeWhile_append_dropWhile (p := isBlank) (l := text), List.mem_append] at member
    rcases member with before | after
    · exact List.mem_takeWhile_imp before
    · exact rest c after
  · exact fun all c member => all c ((List.dropWhile_sublist _).mem member)

theorem trimStart_padded (blank : ∀ c ∈ before, isBlank c = true) (text : List Char) :
    trimStart (before ++ text) = trimStart text := List.dropWhile_append_of_pos blank

theorem trimEnd_padded (blank : ∀ c ∈ after, isBlank c = true) (text : List Char) :
    trimEnd (text ++ after) = trimEnd text := by
  have reversed : ∀ c ∈ after.reverse, isBlank c = true := fun c member => blank c (List.mem_reverse.mp member)
  rw [trimEnd, List.reverse_append, List.dropWhile_append_of_pos reversed, trimEnd]

/-- A text that stays as it is when it is trimmed begins as it is. -/
theorem trimStart_of_trimmed (trimmed : trim text = text) : trimStart text = text := by
  have inside : (trimStart text).Sublist text := List.dropWhile_sublist isBlank
  have outside : (trimEnd (trimStart text)).Sublist (trimStart text) := by
    simpa [trimEnd] using (List.dropWhile_sublist (l := (trimStart text).reverse) isBlank).reverse
  rw [show trimEnd (trimStart text) = text from trimmed] at outside
  exact inside.eq_of_length_le outside.length_le

theorem isBlank_of_trimmed {c : Char} (trimmed : trim (c :: rest) = c :: rest) : isBlank c = false := by
  refine Bool.eq_false_iff.mpr fun blank => ?_
  have dropped := trimStart_of_trimmed trimmed
  rw [trimStart, List.dropWhile_cons_of_pos blank] at dropped
  have shorter := (List.dropWhile_sublist (l := rest) isBlank).length_le
  rw [dropped, List.length_cons] at shorter
  omega

/-- A text without white space at its ends is what white space before it is dropped for. -/
theorem trimStart_trimmed {c : Char} (trimmed : trim (c :: rest) = c :: rest) (blank : ∀ c ∈ before, isBlank c = true)
    (after : List Char) : trimStart (before ++ (c :: rest) ++ after) = c :: rest ++ after := by
  have full : ¬ isBlank c = true := by simp [isBlank_of_trimmed trimmed]
  rw [List.append_assoc, trimStart_padded blank]
  exact List.dropWhile_cons_of_neg full

/-- White space at its ends does not count for a text that has none itself. -/
theorem trim_padded (trimmed : trim text = text) (blank : ∀ c ∈ before, isBlank c = true)
    (blank' : ∀ c ∈ after, isBlank c = true) : trim (before ++ text ++ after) = text := by
  cases text with
  | nil =>
    rw [List.append_nil, trim_eq_nil_iff]
    exact List.forall_mem_append.mpr ⟨blank, blank'⟩
  | cons c rest =>
    have ends : trimEnd (trimStart (c :: rest)) = c :: rest := trimmed
    rw [trimStart_of_trimmed trimmed] at ends
    rw [trim, trimStart_trimmed trimmed blank, trimEnd_padded blank', ends]

/-! ## Lines -/

theorem linesFrom_append (free : ∀ c ∈ line, isLineBreak c = false) (read rest : List Char) :
    linesFrom read (line ++ rest) = linesFrom (line.reverse ++ read) rest := by
  induction line generalizing read with
  | nil => rfl
  | cons c more ih =>
    obtain ⟨own, later⟩ := List.forall_mem_cons.mp free
    have kept : linesFrom read (c :: (more ++ rest)) = linesFrom (c :: read) (more ++ rest) := by
      rw [linesFrom]
      · rw [own]
        rfl
      · rintro _ rfl
        cases own
    rw [List.cons_append, kept, ih later, List.reverse_cons, List.append_assoc]
    rfl

/-- A line before a line feed is the first one. -/
theorem lines_cons (free : ∀ c ∈ line, isLineBreak c = false) (rest : List Char) :
    lines (line ++ '\n' :: rest) = line :: lines rest := by
  have ends : linesFrom (line.reverse ++ []) ('\n' :: rest) = (line.reverse ++ []).reverse :: linesFrom [] rest := rfl
  rw [lines, linesFrom_append free, ends, List.append_nil, List.reverse_reverse, lines]

theorem lines_last (free : ∀ c ∈ line, isLineBreak c = false) :
    lines line = if line.isEmpty then [] else [line] := by
  have whole := linesFrom_append free [] []
  rw [List.append_nil, List.append_nil] at whole
  rw [lines, whole, linesFrom, List.isEmpty_reverse, List.reverse_reverse]

/-- Without a carriage return in it, a text stays as it is when line ends are unified. -/
theorem unifyLineEnds_append (free : '\r' ∉ line) (rest : List Char) :
    unifyLineEnds (line ++ rest) = line ++ unifyLineEnds rest := by
  induction line with
  | nil => rfl
  | cons c more ih =>
    rw [List.mem_cons, not_or] at free
    have kept : unifyLineEnds (c :: (more ++ rest)) = c :: unifyLineEnds (more ++ rest) := by
      rw [unifyLineEnds]
      · exact fun _ same _ => free.1 same.symm
      · exact fun same => free.1 same.symm
    rw [List.cons_append, kept, ih free.2]
    rfl

end GlobalSurvey.Text
