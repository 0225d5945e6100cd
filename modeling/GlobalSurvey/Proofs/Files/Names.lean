import GlobalSurvey.Proofs.Files.Room

/-!
# The names in a path

A step that stays in place matters only at the end of a path (`follow_thinned`): before further steps, the names of a path
and its steps up lead to where all its steps lead (`follow_names`). The names in the absolute form of a path that does not
go up are those of the path, after those of the working directory (`namesOf_absolutePath`).
-/
namespace GlobalSurvey.Files

/-! ## Steps that stay in place -/

/-- A way without some of the steps that stay in place; a last step of this kind is kept. -/
inductive Thinned : List String → List String → Prop
  | same (way : List String) : Thinned way way
  | go (name : String) {way thin : List String} (rest : Thinned way thin) : Thinned (name :: way) (name :: thin)
  | stay {way thin : List String} (goesOn : thin ≠ []) (rest : Thinned way thin) : Thinned ("." :: way) thin

namespace Thinned

variable {way thin : List String} {name : String}

theorem of_cons (thinned : Thinned (name :: way) thin) :
    (∃ rest, thin = name :: rest ∧ Thinned way rest) ∨ (name = "." ∧ thin ≠ [] ∧ Thinned way thin) := by
  generalize whole : name :: way = full at thinned
  cases thinned with
  | same =>
    subst whole
    exact .inl ⟨way, rfl, .same way⟩
  | go other rest =>
    cases whole
    exact .inl ⟨_, rfl, rest⟩
  | stay goesOn rest =>
    cases whole
    exact .inr ⟨rfl, goesOn, rest⟩

theorem of_name (moves : name ≠ ".") (thinned : Thinned (name :: way) thin) :
    ∃ rest, thin = name :: rest ∧ Thinned way rest := by
  rcases thinned.of_cons with found | ⟨stays, -⟩
  · exact found
  · exact absurd stays moves

theorem isEmpty (thinned : Thinned way thin) : way.isEmpty = thin.isEmpty := by
  cases thinned with
  | same => rfl
  | go => rfl
  | stay goesOn rest => simp [goesOn]

theorem append_left (first : List String) (thinned : Thinned way thin) : Thinned (first ++ way) (first ++ thin) := by
  induction first with
  | nil => exact thinned
  | cons name rest ih => exact .go name ih

end Thinned

theorem thinned_filter (way : List String) {last : List String} (goesOn : last ≠ []) :
    Thinned (way ++ last) (way.filter (· ≠ ".") ++ last) := by
  induction way with
  | nil => exact .same last
  | cons name rest ih =>
    by_cases stays : name = "."
    · subst stays
      exact .stay (by simp [goesOn]) ih
    · rw [List.filter_cons_of_pos (by simpa using stays)]
      exact .go name ih

/-- There is no step from what is no directory. -/
theorem follow_stuck {root : Node} {location : Location}
    (noDirectory : ∀ entries, root.get? location ≠ some (.directory entries)) {followLast : Bool} {links : Nat}
    {way : List String} (goesOn : way ≠ []) :
    follow root followLast links location way = .error .notDirectory := by
  cases way with
  | nil => exact absurd rfl goesOn
  | cons name rest =>
    rw [follow]
    split
    · rename_i entries here
      exact absurd here (noDirectory entries)
    · rfl

/-- A way leads to where it leads without steps that stay in place. -/
theorem follow_thinned {root : Node} {followLast : Bool} {links : Nat} {location : Location} {way thin : List String}
    (thinned : Thinned way thin) :
    follow root followLast links location way = follow root followLast links location thin := by
  fun_induction follow root followLast links location way generalizing thin with
  | case1 =>
    obtain rfl := List.isEmpty_iff.mp thinned.isEmpty.symm
    rw [follow_nil]
  | case2 links location rest entries here ih =>
    rcases thinned.of_cons with ⟨more, rfl, inner⟩ | ⟨-, -, inner⟩
    · rw [follow_stay here]
      exact ih inner
    · exact ih inner
  | case3 links location rest entries here stay ih =>
    obtain ⟨more, rfl, inner⟩ := thinned.of_name stay
    rw [follow_up here]
    exact ih inner
  | case4 links location name rest entries here stay up long =>
    obtain ⟨more, rfl, inner⟩ := thinned.of_name stay
    rw [follow]
    simp [here, stay, up, long]
  | case5 links location name rest entries here stay up long absent end_ =>
    obtain ⟨more, rfl, inner⟩ := thinned.of_name stay
    rw [follow_absent here ⟨stay, up, long⟩ absent (inner.isEmpty ▸ end_)]
  | case6 links location name rest entries here stay up long absent goesOn =>
    obtain ⟨more, rfl, inner⟩ := thinned.of_name stay
    rw [inner.isEmpty] at goesOn
    rw [follow_lost here ⟨stay, up, long⟩ absent goesOn]
  | case7 links location name rest entries here stay up long target link last =>
    obtain ⟨more, rfl, inner⟩ := thinned.of_name stay
    rw [inner.isEmpty] at last
    rw [follow_name here ⟨stay, up, long⟩, link]
    simp only [if_pos last]
  | case8 location name rest entries here stay up long target link goesOn =>
    obtain ⟨more, rfl, inner⟩ := thinned.of_name stay
    rw [inner.isEmpty] at goesOn
    rw [follow_name here ⟨stay, up, long⟩, link]
    simp only [if_neg goesOn]
  | case9 location name rest entries here stay up long target link goesOn links leads =>
    obtain ⟨more, rfl, inner⟩ := thinned.of_name stay
    rw [inner.isEmpty] at goesOn
    rw [follow_name here ⟨stay, up, long⟩, link]
    simp only [if_neg goesOn, leads, if_true]
  | case10 location name rest entries here stay up long target link goesOn links leads ih =>
    obtain ⟨more, rfl, inner⟩ := thinned.of_name stay
    rw [inner.isEmpty] at goesOn
    rw [follow_link here ⟨stay, up, long⟩ link goesOn leads]
    exact ih (inner.append_left _)
  | case11 links location name rest entries here stay up long node noLink present ih =>
    obtain ⟨more, rfl, inner⟩ := thinned.of_name stay
    rw [follow_node here ⟨stay, up, long⟩ present fun target link => noLink target link]
    exact ih inner
  | case12 links location name rest noDirectory =>
    rw [follow_stuck noDirectory]
    rintro rfl
    cases thinned.isEmpty

/-! ## Steps along directories -/

/-- A node below a directory is in one of its entries. -/
theorem Node.exists_entry {root node : Node} {location more : Location} {name : String}
    (there : root.get? (location ++ name :: more) = some node) :
    ∃ entries child, root.get? location = some (.directory entries) ∧ entry? name entries = some child ∧
      child.get? more = some node := by
  rw [Node.get?_append] at there
  obtain ⟨above, here, below⟩ := Option.bind_eq_some_iff.mp there
  rw [Node.get?_cons] at below
  obtain ⟨child, present, inside⟩ := Option.bind_eq_some_iff.mp below
  cases above with
  | directory entries => exact ⟨entries, child, here, present, inside⟩
  | file _ => cases present
  | link _ => cases present

/-- Steps along directories lead to where their names say. -/
theorem follow_through {root : Node} {location names : Location} {entries : List (String × Node)}
    (named : ∀ name ∈ names, IsName name) (there : root.get? (location ++ names) = some (.directory entries))
    (followLast : Bool) (links : Nat) (rest : List String) :
    follow root followLast links location (names ++ rest) = follow root followLast links (location ++ names) rest := by
  induction names generalizing location with
  | nil => rw [List.nil_append, List.append_nil]
  | cons name more ih =>
    obtain ⟨above, child, here, present, inside⟩ := Node.exists_entry there
    have noLink (target : String) : child ≠ .link target := by
      rintro rfl
      cases more with
      | nil => cases inside
      | cons next more => cases inside
    have onward : location ++ name :: more = location ++ [name] ++ more := by simp
    rw [onward] at there ⊢
    rw [List.cons_append, follow_node here (named name List.mem_cons_self) present noLink]
    exact ih (fun other member => named other (List.mem_cons_of_mem name member)) there

/-! ## The names in a path -/

/-- The components of a path that do not stay in place. -/
def namesOf (path : String) : List String := (components path).filter (· ≠ ".")

theorem filter_steps (path : String) : (steps path).filter (· ≠ ".") = namesOf path := by
  rw [steps, List.filter_append, namesOf]
  split <;> simp

/-- With further steps behind them, only the names of a path count. -/
theorem follow_names (root : Node) (followLast : Bool) (links : Nat) (location : Location) (path : String)
    {more : List String} (goesOn : more ≠ []) :
    follow root followLast links location (steps path ++ more) =
      follow root followLast links location (namesOf path ++ more) := by
  rw [← filter_steps]
  exact follow_thinned (thinned_filter (steps path) goesOn)

/-- A component is a text without a slash that is not empty. -/
theorem of_mem_components {path part : String} (member : part ∈ components path) : '/' ∉ part.toList ∧ part ≠ "" := by
  obtain ⟨text, kept, rfl⟩ := List.mem_map.mp member
  obtain ⟨inside, nonempty⟩ := List.mem_filter.mp kept
  refine ⟨?_, ?_⟩
  · rw [String.toList_ofList]
    exact Text.not_mem_of_mem_splitAt inside
  · intro empty
    have none_ : text = [] := by
      rw [← String.toList_ofList (l := text), empty]
      rfl
    simp [none_] at nonempty

theorem components_intercalate {names : List String} (plain : ∀ name ∈ names, IsEntryName name) :
    components ("/".intercalate names) = names := by
  induction names with
  | nil => exact components_empty
  | cons name rest ih =>
    have first := components_entry (plain name List.mem_cons_self)
    have later := ih fun other member => plain other (List.mem_cons_of_mem name member)
    cases rest with
    | nil => rw [String.intercalate_singleton, first]
    | cons next rest => rw [String.intercalate_cons_cons, components_slash, first, later, List.singleton_append]

/-- The components of a relative path that is joined to another one follow those of the other one. -/
theorem components_joinPath (first : String) {later : String} (relative : later.toList.head? ≠ some '/') :
    components (joinPath first later) = components first ++ components later := by
  unfold joinPath
  rw [if_neg relative]
  split
  · rename_i open_
    rcases open_ with empty | ends
    · rw [String.isEmpty_iff.mp empty, components_empty, String.empty_append, List.nil_append]
    · obtain ⟨front, slash, same⟩ := exists_components ends
      rw [same, slash, components_slash]
  · exact components_slash first later

/-! ## Names that are joined -/

theorem components_joinPath_entry (path : String) {name : String} (plain : IsEntryName name) :
    components (joinPath path name) = components path ++ [name] := by
  rw [components_joinPath path (relative_of_plain plain), components_entry plain]

theorem joinPath_eq (path : String) {name : String} (relative : name.toList.head? ≠ some '/') :
    joinPath path name = joinPath path "" ++ name := by
  have empty : "".toList.head? ≠ some '/' := by simp
  by_cases open_ : path.isEmpty ∨ path.toList.getLast? = some '/'
  · simp only [joinPath, if_neg relative, if_neg empty, if_pos open_, String.append_empty]
  · simp only [joinPath, if_neg relative, if_neg empty, if_neg open_, String.append_empty]

/-- What a name is joined to ends with a slash. -/
theorem exists_front {path : String} (nonempty : path ≠ "") : ∃ front, joinPath path "" = front ++ "/" := by
  have proper : ¬ path.isEmpty = true := fun empty => nonempty (String.isEmpty_iff.mp empty)
  unfold joinPath
  rw [if_neg (by simp)]
  split
  · rename_i open_
    rcases open_ with empty | ends
    · exact absurd empty proper
    · obtain ⟨front, slash, -⟩ := exists_components ends
      exact ⟨front, by rw [String.append_empty, slash]⟩
  · exact ⟨path, by rw [String.append_empty]⟩

theorem mem_joinPath (path : String) {name : String} (plain : IsEntryName name) {c : Char} (other : c ≠ '/') :
    c ∈ (joinPath path name).toList ↔ c ∈ path.toList ∨ c ∈ name.toList := by
  unfold joinPath
  rw [if_neg (relative_of_plain plain)]
  split <;> simp [other]

theorem head_joinPath {path name : String} (nonempty : path ≠ "") (plain : IsEntryName name) :
    (joinPath path name).toList.head? = path.toList.head? := by
  obtain ⟨c, rest, text⟩ := List.exists_cons_of_ne_nil fun none_ => nonempty (String.toList_eq_nil_iff.mp none_)
  unfold joinPath
  rw [if_neg (relative_of_plain plain)]
  split <;> simp [text]

theorem displayName_joinPath {path name : String} (nonempty : path ≠ "") (plain : IsEntryName name) :
    displayName (joinPath path name) = name := by
  obtain ⟨front, opened⟩ := exists_front nonempty
  have last : afterLast '/' (front ++ "/" ++ name).toList = name.toList := by
    have text : (front ++ "/" ++ name).toList = front.toList ++ '/' :: name.toList := by simp
    rw [text, afterLast_append_cons, afterLast_of_not_mem plain.whole]
  rw [joinPath_eq path (relative_of_plain plain), opened, displayName, last, String.ofList_toList]

theorem namesOf_joinPath (path : String) {name : String} (plain : IsEntryName name) :
    namesOf (joinPath path name) = namesOf path ++ [name] := by
  rw [namesOf, components_joinPath_entry path plain, List.filter_append, namesOf]
  simp [plain.moves.1]

/-- A joined name is the last step. -/
theorem steps_joinPath {path name : String} (nonempty : path ≠ "") (plain : IsEntryName name) :
    steps (joinPath path name) = components path ++ [name] := by
  obtain ⟨front, opened⟩ := exists_front nonempty
  have closed : (joinPath path name).toList.getLast? ≠ some '/' := by
    rw [joinPath_eq path (relative_of_plain plain), opened]
    exact getLast_join front plain
  rw [steps, if_neg closed, List.append_nil, components_joinPath_entry path plain]

/-- A slash after a joined name. -/
theorem joinPath_joinPath {path name : String} (nonempty : path ≠ "") (plain : IsEntryName name) :
    joinPath (joinPath path name) "" = joinPath path "" ++ (name ++ "/") := by
  obtain ⟨front, opened⟩ := exists_front nonempty
  have joined : joinPath path name = front ++ "/" ++ name := by
    rw [joinPath_eq path (relative_of_plain plain), opened]
  have proper : ¬ (front ++ "/" ++ name).isEmpty = true := by simp
  have closed := getLast_join front plain
  have empty : "".toList.head? ≠ some '/' := by simp
  rw [joined, opened, joinPath, if_neg empty, if_neg (not_or.mpr ⟨proper, closed⟩), String.append_empty,
    String.append_assoc]

/-! ## Absolute paths -/

theorem collapse_eq (kept : List String) {parts : List String} (noUp : ".." ∉ parts) :
    collapse kept parts = kept.reverse ++ parts.filter (· ≠ ".") := by
  induction parts generalizing kept with
  | nil => simp [collapse]
  | cons part rest ih =>
    rw [List.mem_cons, not_or] at noUp
    unfold collapse
    by_cases stays : part = "."
    · simp [stays, ih kept noUp.2]
    · simp [stays, Ne.symm noUp.1, ih (part :: kept) noUp.2]

theorem components_pathOf {location : Location} (named : ∀ name ∈ location, IsEntryName name) :
    components (pathOf location) = location := by
  have slash := components_slash "" ("/".intercalate location)
  rw [String.empty_append, components_empty, List.nil_append, components_intercalate named] at slash
  exact slash

/-- The names in the absolute form of a path without steps that go up. -/
theorem namesOf_absolutePath {location : Location} (named : ∀ name ∈ location, IsEntryName name) {path : String}
    (noUp : ".." ∉ components path) :
    namesOf (absolutePath (pathOf location) path) =
      (if path.toList.head? = some '/' then [] else location) ++ namesOf path := by
  have whole : components (joinPath (pathOf location) path) =
      (if path.toList.head? = some '/' then [] else location) ++ components path := by
    split
    · rename_i absolute
      rw [joinPath, if_pos absolute, List.nil_append]
    · rename_i relative
      rw [components_joinPath _ relative, components_pathOf named]
  have base : ∀ name ∈ (if path.toList.head? = some '/' then [] else location), IsEntryName name := by
    split
    · exact fun name member => (List.not_mem_nil member).elim
    · exact named
  generalize (if path.toList.head? = some '/' then [] else location) = start at whole base
  have noUps : ".." ∉ components (joinPath (pathOf location) path) := by
    rw [whole, List.mem_append, not_or]
    exact ⟨fun member => (base _ member).moves.2 rfl, noUp⟩
  have collapsed : collapse [] (components (joinPath (pathOf location) path)) = start ++ namesOf path := by
    rw [collapse_eq [] noUps, whole, List.filter_append, namesOf, List.reverse_nil, List.nil_append]
    congr 1
    exact List.filter_eq_self.mpr fun name member => by simpa using (base name member).moves.1
  have plain : ∀ name ∈ start ++ namesOf path, IsEntryName name := by
    intro name member
    rcases List.mem_append.mp member with before | after
    · exact base name before
    · obtain ⟨inside, stays⟩ := List.mem_filter.mp after
      obtain ⟨whole, nonempty⟩ := of_mem_components inside
      exact ⟨whole, nonempty, by simpa using stays, fun up => noUp (up ▸ inside)⟩
  have slash (text : String) : components ("/" ++ text) = components text := by
    have parted := components_slash "" text
    rwa [String.empty_append, components_empty, List.nil_append] at parted
  have slashes : "//" = "/" ++ "/" := rfl
  have same : components (absolutePath (pathOf location) path) = start ++ namesOf path := by
    simp only [absolutePath, collapsed]
    split
    · rw [slashes, String.append_assoc, slash, slash, components_intercalate plain]
    · rw [slash, components_intercalate plain]
  have noDots : (start ++ namesOf path).filter (· ≠ ".") = start ++ namesOf path :=
    List.filter_eq_self.mpr fun name member => by simpa using (plain name member).moves.1
  rw [namesOf, same, noDots]

theorem head_absolutePath (working path : String) : (absolutePath working path).toList.head? = some '/' := by
  simp only [absolutePath]
  split <;> simp

/-! ## Entries of the working directory -/

/-- A file in the working directory is found by its name. -/
theorem Disk.contents_of_entry {d : Disk} {name : String} {entries : List (String × Node)} {content : List UInt8}
    (plain : IsEntryName name) (short : ¬ nameLimit < name.utf8ByteSize) (noNull : '\x00' ∉ name.toList)
    (here : d.root.get? d.working = some (.directory entries)) (present : entry? name entries = some (.file content)) :
    d.contents name = .ok content := by
  have closed : name.toList.getLast? ≠ some '/' := fun slash => plain.whole (List.mem_of_getLast? slash)
  have step : steps name = [name] := by rw [steps, if_neg closed, components_entry plain, List.append_nil]
  have reached : d.resolve true name = .ok (.present (d.working ++ [name])) := by
    have nonempty : ¬ name.isEmpty = true := by simpa using plain.nonempty
    have inside : ¬ pathLimit ≤ name.utf8ByteSize := fun long =>
      short (Nat.lt_of_lt_of_le (by decide) long)
    rw [Disk.resolve, if_neg nonempty, if_neg inside, if_neg (relative_of_plain plain), step]
    exact (follow_node here ⟨plain.moves.1, plain.moves.2, short⟩ present (by rintro _ ⟨⟩)).trans follow_nil
  exact Disk.contents_of_leads ⟨by simpa using noNull, reached⟩ ((Node.get?_snoc here name).trans present)

end GlobalSurvey.Files
