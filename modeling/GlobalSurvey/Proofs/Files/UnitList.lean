import GlobalSurvey.Files.Scan
import GlobalSurvey.Proofs.Files.Names
import GlobalSurvey.Proofs.Text.Blank
import GlobalSurvey.Proofs.Text.Utf8

/-!
# A list of units reads back whatever its layout

A text lays out units if each of them is on a line of its own, in their order, with blank lines and comments between them
as one likes, and any line end after each line (`LaysOut`). The units that are read from such a text are those that it lays
out (`unitsOfText_of_laysOut`), though a carriage return and the line feed of a blank line after it are read as one line
end. The main statement is `readUnitList_of_laysOut`.
-/
namespace GlobalSurvey.Files
open GlobalSurvey.Text

/-! ## Layouts -/

/-- Spaces and tabs. -/
def IsPadding (text : List Char) : Prop := ∀ c ∈ text, c = ' ' ∨ c = '\t'

/-- There is no line end in the text. -/
def IsSingle (text : List Char) : Prop := ∀ c ∈ text, isLineBreak c = false

/-- A unit that can be listed: it is a text without white space at its ends, does not start as a comment does, and is on
one line. -/
structure IsListable (unit : String) : Prop where
  nonempty : unit ≠ ""
  trimmed : trim unit.toList = unit.toList
  noComment : unit.toList.head? ≠ some '#'
  single : IsSingle unit.toList

/-- What a line lists: nothing if it is blank or a comment, or one unit. -/
inductive LineLists : List Char → List String → Prop
  | blank {padding : List Char} (padded : IsPadding padding) : LineLists padding []
  | comment {padding text : List Char} (padded : IsPadding padding) (single : IsSingle text) :
      LineLists (padding ++ '#' :: text) []
  | unit {before after : List Char} {unit : String} (padded : IsPadding before) (listable : IsListable unit)
      (padded' : IsPadding after) : LineLists (before ++ unit.toList ++ after) [unit]

/-- A line end in a file. -/
inductive LineEnd where
  | lineFeed
  | carriageReturn
  | both
deriving DecidableEq, Repr

/-- The characters of a line end. -/
def LineEnd.text : LineEnd → List Char
  | .lineFeed => ['\n']
  | .carriageReturn => ['\r']
  | .both => ['\r', '\n']

/-- The text lays out the units, in order, one a line. The last line may lack a line end. -/
inductive LaysOut : List Char → List String → Prop
  | last {line : List Char} {units : List String} (lists : LineLists line units) : LaysOut line units
  | line {line rest : List Char} {first others : List String} (lists : LineLists line first) (end_ : LineEnd)
      (later : LaysOut rest others) : LaysOut (line ++ end_.text ++ rest) (first ++ others)

/-! ## One line -/

theorem IsPadding.blank {padding : List Char} (padded : IsPadding padding) : ∀ c ∈ padding, isBlank c = true := by
  intro c member
  rcases padded c member with rfl | rfl <;> rfl

theorem IsPadding.single {padding : List Char} (padded : IsPadding padding) : IsSingle padding := by
  intro c member
  rcases padded c member with rfl | rfl <;> rfl

theorem LineLists.single {line : List Char} {units : List String} (lists : LineLists line units) : IsSingle line := by
  cases lists with
  | blank padded => exact padded.single
  | comment padded single =>
    exact List.forall_mem_append.mpr ⟨padded.single, List.forall_mem_cons.mpr ⟨rfl, single⟩⟩
  | unit padded listable padded' =>
    exact List.forall_mem_append.mpr
      ⟨List.forall_mem_append.mpr ⟨padded.single, listable.single⟩, padded'.single⟩

theorem listedUnits_cons (line : List Char) (lines : List (List Char)) :
    listedUnits (line :: lines) = listedUnits [line] ++ listedUnits lines := by
  simp only [listedUnits, ← List.map_append, ← List.filter_append, List.singleton_append]

/-- A line is read as what it lists. -/
theorem LineLists.read {line : List Char} {units : List String} (lists : LineLists line units) :
    listedUnits [line] = units := by
  cases lists with
  | blank padded =>
    have empty := trim_eq_nil_iff.mpr padded.blank
    simp [listedUnits, empty]
  | @comment padding text padded single =>
    have starts : trimStart (padding ++ '#' :: text) = '#' :: text := trimStart_padded padded.blank _
    simp [listedUnits, starts]
  | @unit before after unit padded listable padded' =>
    have kept := trim_padded listable.trimmed padded.blank padded'.blank
    obtain ⟨c, more, opens⟩ := List.exists_cons_of_ne_nil fun none_ => listable.nonempty (String.toList_eq_nil_iff.mp none_)
    have starts := trimStart_trimmed (opens ▸ listable.trimmed) padded.blank after
    have noComment : c ≠ '#' := by
      rintro rfl
      exact listable.noComment (by rw [opens]; rfl)
    rw [← opens] at starts
    generalize before ++ unit.toList ++ after = line at kept starts
    have first : (trimStart line).head? = some c := by rw [starts, opens]; rfl
    simp [listedUnits, kept, first, noComment, listable.nonempty]

/-! ## All lines -/

theorem IsSingle.noReturn {line : List Char} (single : IsSingle line) : '\r' ∉ line := by
  intro member
  have ends := single _ member
  cases ends

/-- A line is read apart from what follows a line end that is unified. -/
theorem unitsOfText_unified {line ending rest : List Char} (single : IsSingle line)
    (unified : unifyLineEnds ending = '\n' :: unifyLineEnds rest) :
    unitsOfText (line ++ ending) = listedUnits [line] ++ unitsOfText rest := by
  rw [unitsOfText, unifyLineEnds_append single.noReturn, unified, lines_cons single, listedUnits_cons, unitsOfText]

theorem unitsOfText_line {line : List Char} (single : IsSingle line) (end_ : LineEnd) (rest : List Char) :
    unitsOfText (line ++ end_.text ++ rest) = listedUnits [line] ++ unitsOfText rest := by
  rw [List.append_assoc]
  cases end_ with
  | lineFeed => exact unitsOfText_unified single rfl
  | both => exact unitsOfText_unified single rfl
  | carriageReturn =>
    cases rest with
    | nil => exact unitsOfText_unified single rfl
    | cons c more =>
      by_cases feed : c = '\n'
      · -- the two are one line end, and the blank line between them is not read
        subst feed
        have none_ : IsSingle [] := fun _ member => (List.not_mem_nil member).elim
        have blank : unitsOfText ('\n' :: more) = unitsOfText more := unitsOfText_unified none_ rfl
        rw [blank]
        exact unitsOfText_unified single rfl
      · refine unitsOfText_unified single ?_
        have alone : unifyLineEnds ('\r' :: c :: more) = '\n' :: unifyLineEnds (c :: more) := by
          rw [unifyLineEnds]
          rintro _ ⟨⟩
          exact feed rfl
        exact alone

theorem unitsOfText_last {line : List Char} (single : IsSingle line) : unitsOfText line = listedUnits [line] := by
  have kept := unifyLineEnds_append single.noReturn []
  rw [List.append_nil] at kept
  have same : unifyLineEnds line = line := kept.trans (List.append_nil line)
  rw [unitsOfText, same, lines_last single]
  cases line <;> rfl

/-- The units that are read from a text are those that it lays out. -/
theorem unitsOfText_of_laysOut {text : List Char} {units : List String} (layout : LaysOut text units) :
    unitsOfText text = units := by
  induction layout with
  | last lists => rw [unitsOfText_last lists.single, lists.read]
  | line lists end_ later ih => rw [unitsOfText_line lists.single, lists.read, ih]

/-- The units of a file are those that its text lays out, in their order and as often. -/
theorem readUnitList_of_laysOut {d : Disk} {path : String} {text : List Char} {units : List String}
    (layout : LaysOut text units) (held : d.contents path = .ok (Utf8.encode text)) :
    readUnitList d path = .ok units := by
  simp only [readUnitList, held, Codec.decodeUtf8_encode, unitsOfText_of_laysOut layout]

/-! ## A list with three kinds of line end -/

/-- A comment, a blank line whose line end is read together with the one before it, and a unit that is listed twice. -/
def mixedList : List Char := "\t# both\r\n  my unit\t\r\nmy unit".toList

/-- A disk with the list. -/
def mixedDisk : Disk := ⟨.directory [("units.txt", .file (Utf8.encode mixedList))], [], []⟩

theorem laysOut_mixedList : LaysOut mixedList ["my unit", "my unit"] := by
  have none_ : IsPadding [] := fun _ member => (List.not_mem_nil member).elim
  have spaces : IsPadding [' ', ' '] := by simp [IsPadding]
  have tab : IsPadding ['\t'] := by simp [IsPadding]
  have words : IsSingle " both".toList := by simp [IsSingle, isLineBreak]
  have single : IsSingle "my unit".toList := by simp [IsSingle, isLineBreak]
  have listable : IsListable "my unit" := ⟨by decide, by decide, by decide, single⟩
  have last : LaysOut "my unit".toList ["my unit"] := .last (@LineLists.unit [] [] _ none_ listable none_)
  have padded : LaysOut "  my unit\t\r\nmy unit".toList ["my unit", "my unit"] :=
    .line (@LineLists.unit [' ', ' '] ['\t'] _ spaces listable tab) .both last
  have blank : LaysOut "\n  my unit\t\r\nmy unit".toList ["my unit", "my unit"] := .line (.blank none_) .lineFeed padded
  exact .line (.comment tab words) .carriageReturn blank

theorem readUnitList_mixedList : LaysOut mixedList ["my unit", "my unit"] ∧
    mixedDisk.contents "units.txt" = .ok (Utf8.encode mixedList) ∧
      readUnitList mixedDisk "units.txt" = .ok ["my unit", "my unit"] := by
  have held : mixedDisk.contents "units.txt" = .ok (Utf8.encode mixedList) :=
    Disk.contents_of_entry ⟨by decide, by decide, by decide⟩ (by decide) (by decide) rfl rfl
  exact ⟨laysOut_mixedList, held, readUnitList_of_laysOut laysOut_mixedList held⟩

end GlobalSurvey.Files
