import GlobalSurvey.Proofs.Files.Resolution
import Mathlib.Data.List.TakeWhile

/-!
# A directory of its own

A directory that is made where a path leads to nothing (`Vacancy`) is on the disk beside all that was there before. A file
that is made in it by a plain name is new unless the directory has the name (`make_below`); what is written to a file in it
stays in it (`overwrite_below`); and when the directory is removed the disk is as it was (`discard_put`).
-/
namespace GlobalSurvey.Files

/-! ## Paths that are joined -/

/-- A component of a path that names an entry of a directory. -/
structure IsEntryName (name : String) : Prop where
  whole : '/' ∉ name.toList
  nonempty : name ≠ ""
  moves : name ≠ "." ∧ name ≠ ".."

theorem relative_of_plain {name : String} (plain : IsEntryName name) : name.toList.head? ≠ some '/' :=
  fun first => plain.whole (List.mem_of_head? first)

theorem components_empty : components "" = [] := by decide

/-- The components of two texts with a slash between them are those of the one and those of the other. -/
theorem components_slash (first later : String) :
    components (first ++ "/" ++ later) = components first ++ components later := by
  have text : (first ++ "/" ++ later).toList = first.toList ++ '/' :: later.toList := by simp
  simp only [components, text, Text.splitAt_append, List.filter_append, List.map_append]

theorem components_entry {name : String} (plain : IsEntryName name) : components name = [name] := by
  have kept : name.toList ≠ [] := fun none => plain.nonempty (String.toList_eq_nil_iff.mp none)
  simp [components, Text.splitAt_of_not_mem plain.whole, kept]

theorem components_join (path : String) {name : String} (plain : IsEntryName name) :
    components (path ++ "/" ++ name) = components path ++ [name] := by
  rw [components_slash, components_entry plain]

theorem getLast_join (path : String) {name : String} (plain : IsEntryName name) :
    (path ++ "/" ++ name).toList.getLast? ≠ some '/' := by
  have text : (path ++ "/" ++ name).toList = path.toList ++ '/' :: name.toList := by simp
  rw [text]
  intro last
  obtain ⟨c, rest, parts⟩ := List.exists_cons_of_ne_nil
    fun none => plain.nonempty (String.toList_eq_nil_iff.mp none)
  have inside : name.toList.getLast? = some '/' := by
    rw [parts] at last ⊢
    simpa using last
  exact plain.whole (List.mem_of_getLast? inside)

theorem joinPath_entry {path name : String} (nonempty : path ≠ "") (open_ : path.toList.getLast? ≠ some '/')
    (plain : IsEntryName name) : joinPath path name = path ++ "/" ++ name := by
  have relative := relative_of_plain plain
  have nonempty : ¬ path.isEmpty = true := fun empty => nonempty (String.isEmpty_iff.mp empty)
  simp [joinPath, relative, nonempty, open_]

/-- The steps of a path go on with a name that is joined to it. -/
theorem steps_join {path name : String} (open_ : path.toList.getLast? ≠ some '/') (plain : IsEntryName name) :
    steps (path ++ "/" ++ name) = steps path ++ [name] := by
  simp only [steps, components_join path plain, if_neg (getLast_join path plain), if_neg open_, List.append_nil]

/-- A joined path ends as the path that was joined to the other one. -/
theorem getLast_joinPath (a : String) {b : String} {last : Char} (ends : b.toList.getLast? = some last) :
    (joinPath a b).toList.getLast? = some last := by
  unfold joinPath
  split
  · exact ends
  · split <;> simp [List.getLast?_append, List.getLast?_cons, ends]

/-! ## The part of a path after its last slash -/

/-- A text is the part up to the last occurrence of a character and the part after it. -/
theorem uptoLast_append_afterLast (c : Char) (text : List Char) : uptoLast c text ++ afterLast c text = text := by
  rw [uptoLast, afterLast, ← List.reverse_append, List.takeWhile_append_dropWhile, List.reverse_reverse]

theorem not_mem_afterLast (c : Char) (text : List Char) : c ∉ afterLast c text := by
  intro member
  have other := List.all_eq_true.mp List.all_takeWhile c (List.mem_reverse.mp member)
  simp at other

theorem uptoLast_ends (c : Char) (text : List Char) : uptoLast c text = [] ∨ (uptoLast c text).getLast? = some c := by
  rw [uptoLast, List.getLast?_reverse, List.reverse_eq_nil_iff]
  cases left : text.reverse.dropWhile (· ≠ c) with
  | nil => exact .inl rfl
  | cons first rest =>
    have stopped := List.head?_dropWhile_not (· ≠ c) text.reverse
    rw [left] at stopped
    exact .inr (by simpa using stopped)

theorem afterLast_of_not_mem {c : Char} {text : List Char} (free : c ∉ text) : afterLast c text = text := by
  have all : ∀ other ∈ text.reverse, decide (other ≠ c) = true := by
    intro other member
    exact decide_eq_true fun same => free (same ▸ List.mem_reverse.mp member)
  rw [afterLast, List.takeWhile_eq_self_iff.mpr all, List.reverse_reverse]

/-- What stands before an occurrence has no part in what follows the last one. -/
theorem afterLast_append_cons (c : Char) (front text : List Char) :
    afterLast c (front ++ c :: text) = afterLast c text := by
  simp only [afterLast, List.reverse_append, List.reverse_cons, List.append_assoc, List.takeWhile_append]
  split
  · rename_i whole
    rw [(List.takeWhile_prefix _).eq_of_length whole]
    simp
  · rfl

theorem uptoLast_append_cons (c : Char) (front text : List Char) :
    uptoLast c (front ++ c :: text) = front ++ c :: uptoLast c text := by
  have same := uptoLast_append_afterLast c (front ++ c :: text)
  rw [afterLast_append_cons] at same
  refine (List.append_left_inj (afterLast c text)).mp ?_
  rw [same, List.append_assoc, List.cons_append, uptoLast_append_afterLast]

/-- The part of a path before the slash at its end has the same components. -/
theorem exists_components {path : String} (ends : path.toList.getLast? = some '/') :
    ∃ front, path = front ++ "/" ∧ components path = components front := by
  obtain ⟨front, text⟩ := List.getLast?_eq_some_iff.mp ends
  have slash : path = String.ofList front ++ "/" := by
    apply String.toList_inj.mp
    rw [text, String.toList_append, String.toList_ofList]
    rfl
  have alone := components_slash (String.ofList front) ""
  rw [String.append_empty, components_empty, List.append_nil] at alone
  exact ⟨String.ofList front, slash, by rw [slash, alone]⟩

/-- A name after a slash is a component of its own. -/
theorem components_append {path name : String} (ends : path.toList.getLast? = some '/') (plain : IsEntryName name) :
    components (path ++ name) = components path ++ [name] := by
  obtain ⟨front, slash, same⟩ := exists_components ends
  rw [same, slash]
  exact components_join front plain

theorem getLast_append_entry (path : String) {name : String} (plain : IsEntryName name) :
    (path ++ name).toList.getLast? ≠ some '/' := by
  intro last
  have proper : name.toList ≠ [] := fun none => plain.nonempty (String.toList_eq_nil_iff.mp none)
  rw [String.toList_append, List.getLast?_append, List.getLast?_eq_some_getLast proper, Option.some_or] at last
  exact plain.whole (List.mem_of_getLast? ((List.getLast?_eq_some_getLast proper).trans last))

/-- Joining a path with a slash in it is joining its part up to the last slash, with the name at the end. -/
theorem joinPath_append {path head name : String} (nonempty : path ≠ "") (open_ : path.toList.getLast? ≠ some '/')
    (heads : head = "" ∨ head.toList.getLast? = some '/') (plain : IsEntryName name) :
    joinPath path (head ++ name) = joinPath path head ++ name ∧ (joinPath path head).toList.getLast? = some '/' := by
  have proper : ¬ path.isEmpty = true := fun empty => nonempty (String.isEmpty_iff.mp empty)
  rcases heads with rfl | ends
  · have joined : joinPath path "" = path ++ "/" := by simp [joinPath, proper, open_]
    rw [String.empty_append, joined, joinPath_entry nonempty open_ plain]
    exact ⟨rfl, by simp⟩
  · have first : (head ++ name).toList.head? = head.toList.head? := by
      cases text : head.toList with
      | nil => simp [text] at ends
      | cons c rest => simp [text]
    refine ⟨?_, getLast_joinPath path ends⟩
    simp only [joinPath, first, proper, open_]
    split
    · rfl
    · simp [String.append_assoc]

namespace Disk

/-- What is written to a file in the directory stays in the directory. -/
theorem overwrite_below (base : Disk) (home : Location) (entries : List (String × Node)) (name : String)
    (bytes : List UInt8) :
    ∃ after, (base.put home (.directory entries)).overwrite (home ++ [name]) bytes =
      base.put home (.directory after) := by
  unfold overwrite
  split
  · rename_i old file
    obtain ⟨after, put, -⟩ := Node.put_directory entries (.file (bytes ++ old.drop bytes.length)) name []
    exact ⟨after, by simp only [Disk.put, Node.put_put_below, put]⟩
  · exact ⟨entries, rfl⟩

/-- What is written to an empty file in a directory. -/
theorem overwrite_entry {base : Disk} {home : Location} {entries : List (String × Node)} {name : String}
    (there : (base.put home (.directory entries)).root.get? home = some (.directory entries))
    (empty : entry? name entries = some (.file [])) (bytes : List UInt8) :
    (base.put home (.directory entries)).overwrite (home ++ [name]) bytes =
      base.put home (.directory (setEntry name (.file bytes) entries)) := by
  have file : (base.put home (.directory entries)).root.get? (home ++ [name]) = some (.file []) := by
    rw [Node.get?_snoc there, empty]
  rw [overwrite_empty file]
  simp only [Disk.put, Node.put_put_below, Node.put_present empty, Node.put]

/-- There is nothing under a path that leads to a free name. -/
theorem pathExists_of_absent {d : Disk} {path name : String} {parent : Location}
    (absent : d.resolve true path = .ok (.absent parent name)) : d.pathExists path = false := by
  have refused : ∃ fault, d.node? path = .error fault := by
    unfold node? checked
    rw [absent]
    split
    · exact ⟨_, rfl⟩
    · exact ⟨_, rfl⟩
  obtain ⟨fault, refused⟩ := refused
  rw [pathExists, refused]

/-- A path that leads to a free name leads there by the directory that the part up to its last slash leads to. -/
theorem resolve_parent {d : Disk} {path name : String} (ends : path.toList.getLast? = some '/')
    (plain : IsEntryName name) {directory : Location} {last : String}
    (free : d.resolve false (path ++ name) = .ok (.absent directory last)) :
    last = name ∧ d.resolve true path = .ok (.present directory) := by
  have nonempty : ¬ path.isEmpty = true := by
    intro empty
    rw [String.isEmpty_iff.mp empty] at ends
    cases ends
  have first : (path ++ name).toList.head? = path.toList.head? := by
    cases text : path.toList with
    | nil => simp [text] at ends
    | cons c rest => simp [text]
  have longer : path.utf8ByteSize ≤ (path ++ name).utf8ByteSize := by
    rw [String.utf8ByteSize_append]
    exact Nat.le_add_right _ _
  unfold resolve at free ⊢
  split at free
  · cases free
  · split at free
    · cases free
    · rename_i short
      rw [if_neg nonempty, if_neg fun long => short (Nat.le_trans long longer)]
      rw [first, steps, if_neg (getLast_append_entry path plain), List.append_nil, components_append ends plain] at free
      rw [steps, if_pos ends]
      exact follow_parent plain.moves free

/-- A path by which a directory can be made: it leads to a free name, at the location `home`. -/
structure Vacancy (d : Disk) (path : String) (home : Location) : Prop where
  plain : path.toList.contains '\x00' = false
  open_ : path.toList.getLast? ≠ some '/'
  free : ∃ parent name, home = parent ++ [name] ∧ d.resolve false path = .ok (.absent parent name)

namespace Vacancy

variable {base : Disk} {path : String} {home : Location}

theorem nonempty (vacancy : base.Vacancy path home) : path ≠ "" := by
  rintro rfl
  obtain ⟨parent, name, -, free⟩ := vacancy.free
  cases free

/-- There is nothing at the location, and the disk keeps all nodes when a directory is put there. -/
theorem keeps (vacancy : base.Vacancy path home) (new : Node) :
    base.root.get? home = none ∧ base.Keeps (base.put home new) ∧ (base.put home new).root.get? home = some new := by
  obtain ⟨parent, name, rfl, free⟩ := vacancy.free
  obtain ⟨entries, here, absent⟩ := resolve_free free
  exact ⟨(Node.get?_snoc here name).trans absent, keeps_put_free here absent new, Node.get?_put_self here name new⟩

/-- Files keep their bytes when a directory is put where nothing was. -/
theorem contents (vacancy : base.Vacancy path home) (new : Node) {file : String} {content : List UInt8}
    (held : base.contents file = .ok content) : (base.put home new).contents file = .ok content := by
  obtain ⟨nothing, keeps, -⟩ := vacancy.keeps new
  obtain ⟨location, leads, there⟩ := leads_of_contents held
  refine contents_of_leads (leads.keeps keeps) (Node.get?_put_file base.root new ?_ there)
  rintro ⟨below, rfl⟩
  rw [Node.get?_append, nothing] at there
  cases there

/-- The directory is found under its path. -/
theorem resolve_home (vacancy : base.Vacancy path home) (followLast : Bool) (entries : List (String × Node)) :
    (base.put home (.directory entries)).resolve followLast path = .ok (.present home) := by
  obtain ⟨-, keeps, there⟩ := vacancy.keeps (.directory entries)
  obtain ⟨parent, name, rfl, free⟩ := vacancy.free
  exact resolve_made keeps (by simp) there (by simp) free

/-- There is nothing under the path of the directory before it is made. -/
theorem pathExists_before (vacancy : base.Vacancy path home) : base.pathExists path = false := by
  have nothing := (vacancy.keeps (.directory [])).1
  obtain ⟨parent, name, rfl, free⟩ := vacancy.free
  exact pathExists_of_absent (resolve_stillFree (.refl base) (by simp) nothing free)

/-- The directory is there under its path. -/
theorem pathExists_put (vacancy : base.Vacancy path home) (entries : List (String × Node)) :
    (base.put home (.directory entries)).pathExists path = true := by
  have there := (vacancy.keeps (.directory entries)).2.2
  rw [pathExists, node?_of_leads ⟨vacancy.plain, vacancy.resolve_home true entries⟩ there]

/-! ## Files in the directory -/

/-- Where a path to an entry of the directory leads. -/
theorem resolve_below (vacancy : base.Vacancy path home) (entries : List (String × Node)) {name : String}
    (plain : IsEntryName name) :
    (base.put home (.directory entries)).resolve false (joinPath path name) =
      if pathLimit ≤ (joinPath path name).utf8ByteSize ∨ nameLimit < name.utf8ByteSize then .error .nameTooLong
      else match entry? name entries with
        | none => .ok (.absent home name)
        | some _ => .ok (.present (home ++ [name])) := by
  have found := vacancy.resolve_home false entries
  have there := (vacancy.keeps (.directory entries)).2.2
  rw [joinPath_entry vacancy.nonempty vacancy.open_ plain]
  have nonempty : ¬ (path ++ "/" ++ name).isEmpty = true := by simp [String.isEmpty_iff]
  have starts : (path ++ "/" ++ name).toList.head? = path.toList.head? := by
    obtain ⟨c, rest, parts⟩ := List.exists_cons_of_ne_nil
      fun none => vacancy.nonempty (String.toList_eq_nil_iff.mp none)
    simp [parts]
  unfold resolve at found ⊢
  split at found
  · cases found
  · split at found
    · cases found
    · rw [if_neg nonempty]
      by_cases long : pathLimit ≤ (path ++ "/" ++ name).utf8ByteSize
      · rw [if_pos long, if_pos (.inl long)]
      · obtain ⟨left, goesOn⟩ := follow_append there found [name]
        rw [if_neg long, starts, steps_join vacancy.open_ plain, goesOn]
        by_cases wide : nameLimit < name.utf8ByteSize
        · rw [follow]
          simp [there, plain.moves.1, plain.moves.2, wide]
        · have named : IsName name := ⟨plain.moves.1, plain.moves.2, wide⟩
          simp only [long, wide, or_self, if_false]
          cases present : entry? name entries with
          | none => exact follow_absent there named present rfl
          | some node => cases node with
            | link target => exact follow_lastLink there named present
            | file content => rw [follow_node there named present (by simp), follow_nil]
            | directory inside => rw [follow_node there named present (by simp), follow_nil]

/-- Making a file in the directory by a new name: the file is made there, unless the system refuses the name as such. -/
theorem make_below (vacancy : base.Vacancy path home) {entries : List (String × Node)} {name : String}
    (plain : IsEntryName name) (free : entry? name entries = none) :
    (base.put home (.directory entries)).make (joinPath path name) =
      if (joinPath path name).toList.contains '\x00' then .error .nullCharacter
      else if pathLimit ≤ (joinPath path name).utf8ByteSize ∨ nameLimit < name.utf8ByteSize then
        .error (.refused .nameTooLong (joinPath path name))
      else .ok (base.put home (.directory (setEntry name (.file []) entries)), home ++ [name]) := by
  have leads := vacancy.resolve_below entries plain
  have open_ : ¬ (joinPath path name).toList.getLast? = some '/' := by
    rw [joinPath_entry vacancy.nonempty vacancy.open_ plain]
    exact getLast_join path plain
  have put : (base.put home (.directory entries)).put (home ++ [name]) (.file []) =
      base.put home (.directory (setEntry name (.file []) entries)) := by
    simp only [Disk.put, Node.put_put_below, Node.put_absent free]
  simp only [make, if_neg open_, leads, free, bind, Except.bind, checked]
  by_cases long : pathLimit ≤ (joinPath path name).utf8ByteSize ∨ nameLimit < name.utf8ByteSize
  · simp only [if_pos long]
  · simp only [if_neg long, put]

/-- A new name in the directory is where another directory can be made. -/
theorem below (vacancy : base.Vacancy path home) {entries : List (String × Node)} {name : String} (plain : IsEntryName name)
    (free : entry? name entries = none) (clear : (joinPath path name).toList.contains '\x00' = false)
    (short : ¬ (pathLimit ≤ (joinPath path name).utf8ByteSize ∨ nameLimit < name.utf8ByteSize)) :
    (base.put home (.directory entries)).Vacancy (joinPath path name) (home ++ [name]) := by
  refine ⟨clear, ?_, home, name, rfl, ?_⟩
  · rw [joinPath_entry vacancy.nonempty vacancy.open_ plain]
    exact getLast_join path plain
  · rw [vacancy.resolve_below entries plain, if_neg short]
    simp only [free]

/-- Nothing is written to a file in a directory that is not there. -/
theorem overwrite_gone (vacancy : base.Vacancy path home) (name : String) (bytes : List UInt8) :
    base.overwrite (home ++ [name]) bytes = base := by
  have nothing : base.root.get? (home ++ [name]) = none := by
    rw [Node.get?_append, (vacancy.keeps (.directory [])).1]
    rfl
  simp [overwrite, nothing]

/-- When the directory is removed the disk is as it was before. -/
theorem discard_put (vacancy : base.Vacancy path home) (entries : List (String × Node)) :
    (base.put home (.directory entries)).discard path = base := by
  have there := (vacancy.keeps (.directory entries)).2.2
  have gone : (base.root.put (.directory entries) home).remove home = base.root := by
    obtain ⟨parent, name, rfl, free⟩ := vacancy.free
    obtain ⟨above, here, absent⟩ := resolve_free free
    exact Node.remove_put here absent _
  unfold discard
  rw [vacancy.resolve_home false entries]
  simp only [there, remove]
  simp only [Disk.put, gone]

end Vacancy

/-! ## Making the directory -/

/-- A directory that is made is put where its path, without slashes at the end, leads to nothing. -/
theorem makeDirectory_eq_ok {old new : Disk} {path : String} (made : old.makeDirectory path = .ok new) :
    path.toList.contains '\x00' = false ∧ ∃ parent name,
      old.resolve false (withoutEndSlashes path) = .ok (.absent parent name) ∧
        new = old.put (parent ++ [name]) (.directory []) := by
  obtain ⟨plain, act⟩ := checked_eq_ok.mp made
  refine ⟨plain, ?_⟩
  simp only at act
  split at act
  · cases above : old.resolve true (directoryOf (withoutEndSlashes path)) with
    | error cause => simp [above, bind, Except.bind] at act
    | ok place => simp [above, bind, Except.bind] at act
  · cases resolved : old.resolve false (withoutEndSlashes path) with
    | error cause => simp [resolved, bind, Except.bind] at act
    | ok place => cases place with
      | present there => simp [resolved, bind, Except.bind] at act
      | absent parent name =>
        simp only [resolved, bind, Except.bind, Except.ok.injEq] at act
        exact ⟨parent, name, rfl, act.symm⟩

theorem withoutEndSlashes_open {path : String} (open_ : path.toList.getLast? ≠ some '/') :
    withoutEndSlashes path = path := by
  have whole : path.toList.reverse.dropWhile (· = '/') = path.toList.reverse := by
    rw [List.getLast?_eq_head?_reverse] at open_
    cases reversed : path.toList.reverse with
    | nil => rfl
    | cons last rest =>
      rw [reversed, List.head?_cons] at open_
      have other : last ≠ '/' := fun same => open_ (congrArg some same)
      simp [other]
  unfold withoutEndSlashes
  simp only [whole, List.reverse_reverse]
  split
  · rfl
  · exact String.ofList_toList

/-- A directory is made where it can be made, by a path that ends in a name. -/
theorem Vacancy.makeDirectory {base : Disk} {path : String} {home : Location} (vacancy : base.Vacancy path home)
    (named : endsInName path = true) : base.makeDirectory path = .ok (base.put home (.directory [])) := by
  obtain ⟨parent, name, rfl, free⟩ := vacancy.free
  refine checked_eq_ok.mpr ⟨vacancy.plain, ?_⟩
  simp [withoutEndSlashes_open vacancy.open_, named, free, bind, Except.bind]

/-- A fresh directory gets the first candidate for its name that is free. -/
theorem Vacancy.makeFresh {base : Disk} {directory stem : String} {n : Nat} {home : Location}
    (vacancy : base.Vacancy (joinPath directory (stem ++ freshName n)) home)
    (named : endsInName (joinPath directory (stem ++ freshName n)) = true) (tries : Nat) :
    base.makeFresh directory stem tries n =
      .ok (base.put home (.directory []), joinPath directory (stem ++ freshName n)) := by
  cases tries <;> simp only [Disk.makeFresh, vacancy.makeDirectory named]

/-- A directory that is made by a path without slashes at its end is one of its own. -/
theorem vacancy_of_makeDirectory {base new : Disk} {path : String} (open_ : path.toList.getLast? ≠ some '/')
    (made : base.makeDirectory path = .ok new) :
    ∃ home, base.Vacancy path home ∧ new = base.put home (.directory []) := by
  obtain ⟨plain, parent, name, free, rfl⟩ := makeDirectory_eq_ok made
  rw [withoutEndSlashes_open open_] at free
  exact ⟨parent ++ [name], ⟨plain, open_, parent, name, rfl, free⟩, rfl⟩

theorem freshPath_open (directory stem : String) (n : Nat) :
    (joinPath directory (stem ++ freshName n)).toList.getLast? ≠ some '/' := by
  have digit : ∀ n : Fin 36, freshDigit n ≠ '/' := by decide
  have ends : (stem ++ freshName n).toList.getLast? = some (freshDigit (n % 36)) := by
    simp [freshName, freshDigits]
  rw [getLast_joinPath directory ends]
  intro same
  exact digit ⟨n % 36, Nat.mod_lt n (by decide)⟩ (Option.some.inj same)

/-- A fresh directory is one of its own. -/
theorem vacancy_of_makeFresh {base new : Disk} {directory stem path : String} {tries n : Nat}
    (made : base.makeFresh directory stem tries n = .ok (new, path)) :
    ∃ home, base.Vacancy path home ∧ new = base.put home (.directory []) := by
  induction tries generalizing n with
  | zero =>
    simp only [makeFresh] at made
    split at made
    · rename_i after first
      cases made
      exact vacancy_of_makeDirectory (freshPath_open directory stem n) first
    · cases made
  | succ tries ih =>
    simp only [makeFresh] at made
    split at made
    · rename_i after first
      cases made
      exact vacancy_of_makeDirectory (freshPath_open directory stem n) first
    · exact ih made
    · cases made

/-- The root directory need not be made. -/
theorem makePath_root {d : Disk} (entries : List (String × Node)) (root : d.root = .directory entries) :
    d.makePath "/" = (d, none) := by
  have found := resolve_root root
  have node := node?_of_leads ⟨by decide, found⟩ (by rw [root]; rfl : d.root.get? [] = some (.directory entries))
  have there : d.isDirectory "/" = true := by simp [isDirectory, node, Node.isDirectory]
  have made : ∃ name, d.makeDirectory "/" = .error (.refused .alreadyExists name) := by
    have plain : withoutEndSlashes "/" = "/" := by decide
    have moves : endsInName "/" = false := by decide
    have above : directoryOf "/" = "/" := by decide
    refine ⟨"/", ?_⟩
    unfold makeDirectory checked
    simp only [plain, moves, above, found]
    rfl
  obtain ⟨name, made⟩ := made
  have parts : splitPath "/" = ("/", "") := by decide
  have depth : "/".length = 1 := by decide
  simp only [makePath, depth, makeDirectories, parts]
  simp [ensureDirectory, made, there]

end Disk

end GlobalSurvey.Files
