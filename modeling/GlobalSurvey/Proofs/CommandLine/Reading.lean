import GlobalSurvey.CommandLine.Command

/-!
# Reading a command line

A command line of words, and of options with the values after them, is either refused or read as it is meant
(`command_of_texts`): the words are the units, and the values are those of the options. An integer is read from its decimal
text unless it has too many digits (`integer?_toString`).
-/
namespace GlobalSurvey.Text

theorem isDigit_bounds {c : Char} (digit : c.isDigit = true) : 48 ≤ c.toNat ∧ c.toNat ≤ 57 := by
  simp only [Char.isDigit, Bool.and_eq_true, decide_eq_true_eq] at digit
  exact ⟨UInt32.le_iff_toNat_le.mp digit.1, UInt32.le_iff_toNat_le.mp digit.2⟩

/-- A digit of ASCII stands for itself, and is no white space. -/
theorem plain_of_isDigit {c : Char} (digit : c.isDigit = true) :
    digitValue? c = some (c.toNat - 48) ∧ isBlank c = false ∧ c ≠ '_' ∧ c ≠ '-' ∧ c ≠ '+' := by
  obtain ⟨low, high⟩ := isDigit_bounds digit
  refine ⟨?_, ?_, ?_⟩
  · rw [digitValue?, if_pos (by omega), if_pos digit]
  · simp only [isBlank, Bool.or_eq_false_iff, Bool.and_eq_false_iff, decide_eq_false_iff_not, beq_eq_false_iff_ne]
    omega
  · refine ⟨?_, ?_, ?_⟩ <;> rintro rfl <;> cases digit

section
variable {digits : List Char} (all : ∀ c ∈ digits, c.isDigit = true)
include all

theorem plainDigits_digits : plainDigits digits = digits := by
  refine (List.map_congr_left fun c member => ?_).trans (List.map_id digits)
  obtain ⟨value, -⟩ := plain_of_isDigit (all c member)
  have same : 48 + (c.toNat - 48) = c.toNat := by
    have low := (isDigit_bounds (all c member)).1
    omega
  simp only [value, same, Char.ofNat_toNat, id]

theorem joinDigits_digits (before : Option Char) : joinDigits before digits = some digits := by
  induction digits generalizing before with
  | nil => rfl
  | cons c rest ih =>
    obtain ⟨-, -, other, -⟩ := plain_of_isDigit (all c List.mem_cons_self)
    rw [joinDigits, if_neg other, ih (fun d member => all d (List.mem_cons_of_mem c member))]
    rfl

theorem trimEnd_digits (front : List Char) (some_ : digits ≠ []) : trimEnd (front ++ digits) = front ++ digits := by
  obtain ⟨rest, last, rfl⟩ := List.eq_nil_or_concat digits |>.resolve_left some_
  obtain ⟨-, full, -⟩ := plain_of_isDigit (all last (by simp))
  simp [trimEnd, full]

end

end GlobalSurvey.Text

namespace GlobalSurvey.CommandLine
open GlobalSurvey.Text

/-! ## Integers -/

section
variable {text : String} {digits : List Char} (all : ∀ c ∈ digits, c.isDigit = true) (some_ : digits ≠ [])
include all some_

/-- A text of digits writes the number that the digits write. -/
theorem integer?_digits (own : text.toList = digits) :
    integer? text = if Form.lengthLimit < digits.length then none else some (Form.decimal digits : Int) := by
  obtain ⟨first, rest, rfl⟩ := List.exists_cons_of_ne_nil some_
  obtain ⟨-, full, -, noMinus, noPlus⟩ := plain_of_isDigit (all first List.mem_cons_self)
  have trimmed : trim (plainDigits text.toList) = first :: rest := by
    rw [own, plainDigits_digits all, trim, trimStart, List.dropWhile_cons_of_neg (by simp [full])]
    exact trimEnd_digits all [] some_
  have proper : (!(first :: rest).all Char.isDigit) = false := by simpa using all
  unfold integer?
  rw [trimmed]
  split
  rename_i negative digits parts
  obtain ⟨rfl, rfl⟩ : negative = false ∧ digits = first :: rest := by
    split at parts
    · rename_i same
      exact absurd (List.cons.inj same).1 noMinus
    · rename_i same
      exact absurd (List.cons.inj same).1 noPlus
    · cases parts
      exact ⟨rfl, rfl⟩
  simp only [joinDigits_digits all, List.isEmpty_cons, proper, Bool.false_or, decide_eq_true_eq, Bool.false_eq_true, if_false]

/-- A minus and digits write the negative of the number that the digits write. -/
theorem integer?_minus (own : text.toList = '-' :: digits) :
    integer? text = if Form.lengthLimit < digits.length then none else some (-(Form.decimal digits : Int)) := by
  have trimmed : trim (plainDigits text.toList) = '-' :: digits := by
    have minus : plainDigits ('-' :: digits) = '-' :: plainDigits digits := rfl
    rw [own, minus, plainDigits_digits all, trim, trimStart, List.dropWhile_cons_of_neg (by decide)]
    exact trimEnd_digits all ['-'] some_
  have nonempty : digits.isEmpty = false := by simpa using some_
  have proper : (!digits.all Char.isDigit) = false := by simpa using all
  unfold integer?
  simp only [trimmed, joinDigits_digits all, nonempty, proper, Bool.false_or, decide_eq_true_eq, if_true]

end

/-- An integer is read from its decimal text, unless this has too many digits. -/
theorem integer?_toString (n : Int) :
    integer? (toString n) =
      if Form.lengthLimit < (Nat.toDigits 10 n.natAbs).length then none else some n := by
  have all (m : Nat) : ∀ c ∈ Nat.toDigits 10 m, c.isDigit = true :=
    fun c member => Nat.isDigit_of_mem_toDigits (by decide) (by decide) member
  have value (m : Nat) : Form.decimal (Nat.toDigits 10 m) = m := Nat.ofDigitChars_ten_toDigits
  have some_ (m : Nat) : Nat.toDigits 10 m ≠ [] := Nat.toDigits_ne_nil
  rw [Int.toString_eq_repr, Int.repr_eq_if]
  split
  · rename_i whole
    rw [integer?_digits (all _) (some_ _) Nat.toList_repr, value]
    have same : n.toNat = n.natAbs := by omega
    have back : (n.natAbs : Int) = n := by omega
    rw [same, back]
  · rename_i negative
    have own : ("-" ++ (-n).toNat.repr).toList = '-' :: Nat.toDigits 10 (-n).toNat := by
      rw [String.toList_append, Nat.toList_repr]
      rfl
    rw [integer?_minus (all _) (some_ _) own, value]
    have same : (-n).toNat = n.natAbs := by omega
    have back : -(n.natAbs : Int) = n := by omega
    rw [same, back]

/-! ## Texts -/

section
variable {flags : List Flag} {text w : String} {rest : List String}

/-- A text that does not start with a minus is a word. -/
theorem classify_plain (plain : text.toList.head? ≠ some '-') : classify flags text = .ok (.word text) := by
  unfold classify
  split
  · rename_i same
    simp [same] at plain
  · rfl

theorem classify_spelled {first : Char} {others : List Char} (long : text.toList = '-' :: first :: others)
    {s : Flag × String} (spelled : spelled? flags text = some s) :
    classify flags text = .ok (.option ⟨text, some s, none⟩) := by
  simp only [classify, long, spelled]

/-- A word is the text that it was. -/
theorem word_of_classify (word : classify flags text = .ok (.word w)) : w = text := by
  unfold classify at word
  repeat' split at word
  all_goals cases word
  all_goals rfl

theorem tokens_cons (other : text ≠ "--") : tokens flags (text :: rest) =
    match classify flags text, tokens flags rest with
    | .ok t, .ok ts => .ok (t :: ts)
    | .error fault, _ => .error fault
    | .ok _, .error fault => .error fault := by
  rw [tokens]
  · cases classify flags text with
    | error fault => rfl
    | ok t => cases tokens flags rest <;> rfl
  · exact other

theorem tokens_words {words : List String} (plain : ∀ word ∈ words, word.toList.head? ≠ some '-') (rest : List String) :
    tokens flags (words ++ rest) = (tokens flags rest).map (words.map .word ++ ·) := by
  induction words with
  | nil =>
    rw [List.nil_append]
    cases tokens flags rest <;> rfl
  | cons word others ih =>
    have own := plain word List.mem_cons_self
    have other : word ≠ "--" := by
      rintro rfl
      exact own rfl
    rw [List.cons_append, tokens_cons other, classify_plain own, ih fun w member => plain w (List.mem_cons_of_mem word member)]
    cases tokens flags rest <;> rfl

/-- A text is a word, or it is none. -/
theorem tokens_word {later : List Token} (cut : tokens flags (text :: rest) = .ok (.word w :: later)) :
    w = text ∧ tokens flags rest = .ok later := by
  by_cases separates : text = "--"
  · subst separates
    rw [tokens] at cut
    cases cut
  · rw [tokens_cons separates] at cut
    cases first : classify flags text with
    | error fault => simp [first] at cut
    | ok t => cases others : tokens flags rest with
      | error fault => simp [first, others] at cut
      | ok ts =>
        simp only [first, others, Except.ok.injEq, List.cons.injEq] at cut
        obtain ⟨rfl, rfl⟩ := cut
        exact ⟨word_of_classify first, rfl⟩

end

/-! ## Tokens -/

section
variable {p q : Parsed} {run : List String} {ts : List Token}

theorem readTokens_words (words : List String) :
    readTokens p run (words.map .word ++ ts) = readTokens p (words.reverse ++ run) ts := by
  induction words generalizing run with
  | nil => rfl
  | cons word rest ih =>
    rw [List.map_cons, List.cons_append, readTokens, ih, List.reverse_cons, List.append_assoc]
    rfl

/-- An option that takes a value has it from the text after it. -/
theorem readTokens_option {f : Flag} {text spelling : String} (takes : f.takesValue = true)
    (read : readTokens p run (.option ⟨text, some (f, spelling), none⟩ :: ts) = .ok q) :
    ∃ w later, ts = .word w :: later ∧ f.refuses w = none ∧
      readTokens ((p.takeBefore run.reverse).add f w) [] later = .ok q := by
  rw [readTokens] at read
  simp only [takes, if_true] at read
  split at read
  · rename_i w later
    unfold Parsed.withValue at read
    cases refused : f.refuses w with
    | some reason => simp [refused, bind, Except.bind] at read
    | none =>
      simp only [refused, bind, Except.bind] at read
      exact ⟨w, later, rfl, refused, read⟩
  · cases read

/-- An option that takes a value, by the way in which it is written. -/
structure Flag.IsKnown (f : Flag) (flags : List Flag) (name : String) : Prop where
  long : ∃ first others, name.toList = '-' :: first :: others
  proper : name ≠ "--"
  spelled : spelled? flags name = some (f, name)
  takes : f.takesValue = true

theorem Flag.IsKnown.read {flags : List Flag} {f : Flag} {name value : String} {more : List String}
    (known : f.IsKnown flags name) (cut : tokens flags (name :: value :: more) = .ok ts)
    (read : readTokens p run ts = .ok q) :
    f.refuses value = none ∧ ∃ later, tokens flags more = .ok later ∧
      readTokens ((p.takeBefore run.reverse).add f value) [] later = .ok q := by
  obtain ⟨first, others, long⟩ := known.long
  rw [tokens_cons known.proper, classify_spelled long known.spelled] at cut
  cases rest : tokens flags (value :: more) with
  | error fault => simp [rest] at cut
  | ok us =>
    simp only [rest, Except.ok.injEq] at cut
    subst cut
    obtain ⟨w, later, rfl, fine, read⟩ := readTokens_option known.takes read
    obtain ⟨rfl, same⟩ := tokens_word rest
    exact ⟨fine, later, same, read⟩

/-- A run of no words ends the words. -/
theorem Parsed.take_nil (p : Parsed) : p.take [] = { p with words := some (p.words.getD []) } := by
  obtain ⟨options, words, extras, help⟩ := p
  cases words with
  | none => rfl
  | some all => simp [Parsed.take]

theorem Parsed.take_takeBefore (p : Parsed) (run : List String) : (p.takeBefore run).take [] = p.take run := by
  cases run with
  | nil => rfl
  | cons word rest =>
    have taken : p.takeBefore (word :: rest) = p.take (word :: rest) := rfl
    obtain ⟨options, words, extras, help⟩ := p
    rw [taken, Parsed.take_nil]
    cases words <;> rfl

/-- An option, the way in which it is written, and a value. -/
structure Choice where
  flag : Flag
  name : String
  value : String

/-- The texts of options with values. -/
def choiceTexts (choices : List Choice) : List String := choices.flatMap fun c => [c.name, c.value]

/-- Options with values after a run of words are read one after the other. -/
theorem read_choices {flags : List Flag} {choices : List Choice} (known : ∀ c ∈ choices, c.flag.IsKnown flags c.name)
    (cut : tokens flags (choiceTexts choices) = .ok ts) (read : readTokens p run ts = .ok q) :
    (∀ c ∈ choices, c.flag.refuses c.value = none) ∧
      q = (choices.foldl (fun p c => p.add c.flag c.value) (p.takeBefore run.reverse)).take [] := by
  induction choices generalizing p run ts with
  | nil =>
    cases cut
    cases read
    exact ⟨fun _ member => (List.not_mem_nil member).elim, (p.take_takeBefore run.reverse).symm⟩
  | cons c rest ih =>
    have own := known c List.mem_cons_self
    obtain ⟨fine, later, others, read⟩ := own.read cut read
    obtain ⟨all, rfl⟩ := ih (fun o member => known o (List.mem_cons_of_mem c member)) others read
    exact ⟨List.forall_mem_cons.mpr ⟨fine, all⟩, rfl⟩

end

/-! ## Command lines -/

/-- The texts of an option with a value, if there is one. -/
def optionTexts (name : String) : Option String → List String
  | none => []
  | some value => [name, value]

/-- A command line that analyzes some units, perhaps those below a root, perhaps with a number of workers. -/
def analyzeTexts (units : List String) (root : Option String) (workers : Option Int) : List String :=
  "analyze" :: (units ++ (optionTexts "--root" root ++ optionTexts "-j" (workers.map toString)))

/-- The option for a root. -/
def rootFlag : Flag := { names := ["--root"] }

/-- The option for the number of workers. -/
def workersFlag : Flag := { names := ["-j", "--workers"], refuses := integerRefusal }

theorem known_rootFlag : rootFlag.IsKnown analyzeFlags "--root" :=
  ⟨⟨'-', ['r', 'o', 'o', 't'], by decide⟩, by decide, rfl, rfl⟩

theorem known_workersFlag : workersFlag.IsKnown analyzeFlags "-j" :=
  ⟨⟨'j', [], by decide⟩, by decide, rfl, rfl⟩

/-- The options of such a command line. -/
def analyzeChoices (root : Option String) (workers : Option Int) : List Choice :=
  (root.map fun path => ⟨rootFlag, "--root", path⟩).toList ++
    (workers.map fun n => ⟨workersFlag, "-j", toString n⟩).toList

/-- The number of workers is read as it is meant. -/
theorem integer?_of_accepted {n : Int} (accepted : integerRefusal (toString n) = none) : integer? (toString n) = some n := by
  have read := integer?_toString n
  split at read
  · rw [integerRefusal, read] at accepted
    cases accepted
  · exact read

theorem takeBefore_plain {words : List String} (plain : ∀ word ∈ words, word.toList.head? ≠ some '-') :
    ({} : Parsed).takeBefore words = { words := if words.isEmpty then none else some words } := by
  have whole : words.erase "--" = words := List.erase_of_not_mem fun member => plain _ member rfl
  unfold Parsed.takeBefore
  split
  · rfl
  · rw [Parsed.take, whole]

/-- The arguments of such a command line are read as they are meant. -/
theorem parsed_of_arguments {units : List String} (plain : ∀ unit ∈ units, unit.toList.head? ≠ some '-')
    {root : Option String} {workers : Option Int} {p : Parsed}
    (read : readArguments analyzeFlags true
      (units ++ (optionTexts "--root" root ++ optionTexts "-j" (workers.map toString))) = .ok p) :
    Analyze.ofParsed p = { paths := units, root, workers } ∧ p.extras = [] ∧ p.help = false := by
  have texts : optionTexts "--root" root ++ optionTexts "-j" (workers.map toString) =
      choiceTexts (analyzeChoices root workers) := by cases root <;> cases workers <;> rfl
  have known : ∀ c ∈ analyzeChoices root workers, c.flag.IsKnown analyzeFlags c.name := by
    intro c member
    rcases List.mem_append.mp member with inside | inside
    · obtain ⟨path, -, rfl⟩ := Option.map_eq_some_iff.mp (Option.mem_toList.mp inside)
      exact known_rootFlag
    · obtain ⟨n, -, rfl⟩ := Option.map_eq_some_iff.mp (Option.mem_toList.mp inside)
      exact known_workersFlag
  unfold readArguments at read
  rw [tokens_words plain, texts] at read
  cases cut : tokens analyzeFlags (choiceTexts (analyzeChoices root workers)) with
  | error fault => simp [cut, bind, Except.bind, Except.map] at read
  | ok ts =>
    simp only [cut, bind, Except.bind, Except.map, if_true, readTokens_words, List.append_nil] at read
    obtain ⟨fine, rfl⟩ := read_choices known cut read
    have number : ∀ n, workers = some n → integer? n.repr = some n := by
      rintro n rfl
      have taken : ⟨workersFlag, "-j", toString n⟩ ∈ analyzeChoices root (some n) :=
        List.mem_append_right _ List.mem_cons_self
      have accepted := fine _ taken
      simp only [workersFlag] at accepted
      exact integer?_of_accepted accepted
    have words : (if units.isEmpty then none else some units).getD [] = units := by cases units <;> rfl
    rw [List.reverse_reverse, takeBefore_plain plain, Parsed.take_nil]
    generalize (if units.isEmpty then none else some units) = held at words
    cases root <;> cases workers <;>
      simp [analyzeChoices, Parsed.add, Analyze.ofParsed, Parsed.last?, words, number, rootFlag, workersFlag, helpName]

theorem ok_of_refusal {α : Type} {name : String} {result : Except Fault α} {a : α} (fine : refusal name result = .ok a) :
    result = .ok a := by
  cases result with
  | error fault => cases fine
  | ok b => exact congrArg Except.ok (Except.ok.inj fine)

/-- A command line that analyzes some units is refused, or read as it is meant. -/
theorem command_of_texts {units : List String} (plain : ∀ unit ∈ units, unit.toList.head? ≠ some '-')
    {root : Option String} {workers : Option Int} {c : Command}
    (read : Command.read (analyzeTexts units root workers) = .ok c) :
    c = .analyze { paths := units, root, workers } := by
  have known : commandNames.contains "analyze" = true := by decide
  have analyzes : ("analyze" == "serve") = false := by decide
  unfold Command.read analyzeTexts at read
  simp only [bind, Except.bind] at read
  split at read
  · cases read
  · rename_i ts cut
    have cut := ok_of_refusal cut
    rw [tokens_cons (by decide), classify_plain (by decide)] at cut
    split at cut
    · rename_i us word _
      cases word
      cases cut
      simp only [readProgram, known, if_true, readCommand, analyzes, bind, Except.bind, Bool.false_eq_true, if_false] at read
      split at read
      · cases read
      · rename_i p arguments
        obtain ⟨same, extras, help⟩ := parsed_of_arguments plain (ok_of_refusal arguments)
        simp only [help, extras, same] at read
        cases read
        rfl
    · cases cut
    · cases cut

end GlobalSurvey.CommandLine
