import GlobalSurvey.Files.Node

/-!
# Nodes at locations

What is at a location after a node was put at another one. A node that is put somewhere changes nothing outside of its
location but the entries of the directories above it (`get?_put_elsewhere`). So no node changes its kind, by which paths
are resolved (`keeps_put`), and no other file its content.
-/
namespace GlobalSurvey.Files

/-! ## Entries by their names -/

theorem entry?_cons (name other : String) (node : Node) (rest : List (String × Node)) :
    entry? name ((other, node) :: rest) = if other = name then some node else entry? name rest := rfl

/-- Entries that lack a name are passed over when it is looked up. -/
theorem entry?_append {name : String} {before : List (String × Node)} (absent : entry? name before = none)
    (after : List (String × Node)) : entry? name (before ++ after) = entry? name after := by
  induction before with
  | nil => rfl
  | cons entry rest ih =>
    obtain ⟨other, node⟩ := entry
    by_cases same : other = name
    · simp [entry?_cons, same] at absent
    · simp only [entry?_cons, if_neg same] at absent
      rw [List.cons_append, entry?_cons, if_neg same, ih absent]

@[simp] theorem lookup_setEntry_self (name : String) (node : Node) (entries : List (String × Node)) :
    entry? name (setEntry name node entries) = some node := by
  induction entries with
  | nil => simp [setEntry, entry?]
  | cons entry rest ih =>
    obtain ⟨other, old⟩ := entry
    by_cases same : other = name
    · simp [setEntry, entry?, same]
    · simp [setEntry, entry?, same, ih]

theorem lookup_setEntry_of_ne {name other : String} (different : other ≠ name) (node : Node)
    (entries : List (String × Node)) : entry? other (setEntry name node entries) = entry? other entries := by
  induction entries with
  | nil => simp [setEntry, entry?, different.symm]
  | cons entry rest ih =>
    obtain ⟨third, old⟩ := entry
    by_cases same : third = name
    · subst same
      simp [setEntry, entry?, different.symm]
    · simp only [setEntry, if_neg same, entry?, ih]

/-- Only the last node that is set at a name counts. -/
theorem setEntry_setEntry (name : String) (first last : Node) (entries : List (String × Node)) :
    setEntry name last (setEntry name first entries) = setEntry name last entries := by
  induction entries with
  | nil => simp [setEntry]
  | cons entry rest ih =>
    obtain ⟨other, old⟩ := entry
    by_cases same : other = name
    · simp [setEntry, same]
    · simp [setEntry, same, ih]

/-- To set the node that is there changes nothing. -/
theorem setEntry_same {name : String} {node : Node} {entries : List (String × Node)}
    (present : entry? name entries = some node) : setEntry name node entries = entries := by
  induction entries with
  | nil => cases present
  | cons entry rest ih =>
    obtain ⟨other, old⟩ := entry
    by_cases same : other = name
    · simp only [entry?_cons, same, if_true, Option.some.injEq] at present
      simp [setEntry, same, present]
    · simp only [entry?_cons, if_neg same] at present
      simp [setEntry, same, ih present]

/-- A new entry comes after the others. -/
theorem setEntry_absent {name : String} {entries : List (String × Node)} (absent : entry? name entries = none)
    (node : Node) : setEntry name node entries = entries ++ [(name, node)] := by
  induction entries with
  | nil => rfl
  | cons entry rest ih =>
    obtain ⟨other, old⟩ := entry
    by_cases same : other = name
    · simp [entry?_cons, same] at absent
    · simp only [entry?_cons, if_neg same] at absent
      simp [setEntry, same, ih absent]

/-- An entry that is set keeps its place. -/
theorem setEntry_append {name : String} {before : List (String × Node)} (absent : entry? name before = none)
    (old new : Node) (after : List (String × Node)) :
    setEntry name new (before ++ (name, old) :: after) = before ++ (name, new) :: after := by
  induction before with
  | nil => simp [setEntry]
  | cons entry rest ih =>
    obtain ⟨other, node⟩ := entry
    by_cases same : other = name
    · simp [entry?_cons, same] at absent
    · simp only [entry?_cons, if_neg same] at absent
      simp [setEntry, same, ih absent]

/-- A new entry that is removed again leaves the other entries as they were. -/
theorem dropEntry_setEntry {name : String} {entries : List (String × Node)} (absent : entry? name entries = none)
    (node : Node) : dropEntry name (setEntry name node entries) = entries := by
  induction entries with
  | nil => simp [setEntry, dropEntry]
  | cons entry rest ih =>
    obtain ⟨other, old⟩ := entry
    by_cases same : other = name
    · simp [entry?_cons, same] at absent
    · simp only [entry?_cons, if_neg same] at absent
      simp [setEntry, dropEntry, same, ih absent]

/-- What a node is, apart from the bytes of a file and the entries of a directory. -/
inductive Kind where
  | file
  | link (target : String)
  | directory
deriving DecidableEq

namespace Node

/-- The kind of a node. -/
def kind : Node → Kind
  | .file _ => .file
  | .link target => .link target
  | .directory _ => .directory

theorem eq_directory_of_kind {node : Node} (same : node.kind = .directory) : ∃ entries, node = .directory entries := by
  cases node with
  | directory entries => exact ⟨entries, rfl⟩
  | file _ => cases same
  | link _ => cases same

@[simp] theorem get?_nil (root : Node) : root.get? [] = some root := rfl

theorem get?_cons (root : Node) (name : String) (rest : Location) :
    root.get? (name :: rest) = (root.entries |> entry? name).bind (·.get? rest) := by
  simp only [get?]
  cases entry? name root.entries <;> rfl

theorem get?_append (root : Node) (a b : Location) : root.get? (a ++ b) = (root.get? a).bind (·.get? b) := by
  induction a generalizing root with
  | nil => rfl
  | cons name rest ih =>
    rw [List.cons_append, get?_cons, get?_cons]
    cases entry? name root.entries with
    | none => rfl
    | some child => exact ih child

/-- An entry of the directory at a location. -/
theorem get?_snoc {root : Node} {location : Location} {entries : List (String × Node)}
    (found : root.get? location = some (.directory entries)) (name : String) :
    root.get? (location ++ [name]) = entry? name entries := by
  rw [get?_append, found, Option.bind_some, get?_cons]
  simp [Node.entries]

/-- There is nothing below a file. -/
theorem eq_nil_of_get?_file {root node : Node} {location below : Location} {content : List UInt8}
    (file : root.get? location = some (.file content)) (found : root.get? (location ++ below) = some node) :
    below = [] := by
  cases below with
  | nil => rfl
  | cons name rest =>
    rw [get?_append, file, Option.bind_some, get?_cons] at found
    simp [Node.entries, entry?] at found

/-! ## After a node was put somewhere -/

/-- What putting a node into a directory does, by the entry with the first name. -/
theorem put_cons (entries : List (String × Node)) (new : Node) (name : String) (rest : Location) :
    (directory entries).put new (name :: rest) =
      match entry? name entries, rest with
      | some child, rest => .directory (setEntry name (child.put new rest) entries)
      | none, [] => .directory (setEntry name new entries)
      | none, _ :: _ => .directory entries := by
  cases present : entry? name entries with
  | some child => simp [put, present]
  | none => cases rest <;> simp [put, present]

theorem put_present {entries : List (String × Node)} {name : String} {child : Node}
    (present : entry? name entries = some child) (new : Node) (rest : Location) :
    (directory entries).put new (name :: rest) = .directory (setEntry name (child.put new rest) entries) := by
  rw [put_cons, present]

theorem put_absent {entries : List (String × Node)} {name : String} (absent : entry? name entries = none)
    (new : Node) : (directory entries).put new [name] = .directory (setEntry name new entries) := by
  rw [put_cons, absent]

theorem put_astray {entries : List (String × Node)} {name : String} (absent : entry? name entries = none)
    (new : Node) (next : String) (rest : Location) :
    (directory entries).put new (name :: next :: rest) = .directory entries := by
  rw [put_cons, absent]

/-- A directory in which something is put at a name stays a directory, with the same entries at other names. -/
theorem put_directory (entries : List (String × Node)) (new : Node) (name : String) (rest : Location) :
    ∃ after, (directory entries).put new (name :: rest) = .directory after ∧
      ∀ other, other ≠ name → entry? other after = entry? other entries := by
  cases present : entry? name entries with
  | some child => exact ⟨_, put_present present new rest, fun _ different => lookup_setEntry_of_ne different _ _⟩
  | none => cases rest with
    | nil => exact ⟨_, put_absent present new, fun _ different => lookup_setEntry_of_ne different _ _⟩
    | cons next rest => exact ⟨_, put_astray present new next rest, fun _ _ => rfl⟩

/-- A node is there after it was put into a directory. -/
theorem get?_put_self {root : Node} {directory : Location} {entries : List (String × Node)}
    (found : root.get? directory = some (.directory entries)) (name : String) (new : Node) :
    (root.put new (directory ++ [name])).get? (directory ++ [name]) = some new := by
  induction directory generalizing root with
  | nil =>
    cases found
    rw [List.nil_append]
    cases present : entry? name entries with
    | none => simp [put_absent present, get?_cons, Node.entries]
    | some child => simp [put_present present, put, get?_cons, Node.entries]
  | cons first rest ih =>
    rw [get?_cons] at found
    obtain ⟨child, present, below⟩ := Option.bind_eq_some_iff.mp found
    cases root with
    | directory all =>
      rw [Node.entries] at present
      rw [List.cons_append, put_present present, get?_cons]
      simp only [Node.entries, lookup_setEntry_self, Option.bind_some]
      exact ih below
    | file _ => simp [Node.entries, entry?] at present
    | link _ => simp [Node.entries, entry?] at present

/-- A node is there after it was put in the place of another one. -/
theorem get?_put_present {root old : Node} {location : Location} (found : root.get? location = some old) (new : Node) :
    (root.put new location).get? location = some new := by
  induction location generalizing root with
  | nil => simp [put]
  | cons first rest ih =>
    rw [get?_cons] at found
    obtain ⟨child, present, below⟩ := Option.bind_eq_some_iff.mp found
    cases root with
    | directory all =>
      rw [Node.entries] at present
      rw [put_present present, get?_cons]
      simp only [Node.entries, lookup_setEntry_self, Option.bind_some]
      exact ih below
    | file _ => simp [Node.entries, entry?] at present
    | link _ => simp [Node.entries, entry?] at present

/-- A node that is put somewhere changes nothing elsewhere but the entries of directories. -/
theorem get?_put_elsewhere (root new : Node) {target location : Location} (apart : ¬ target <+: location) :
    (root.put new target).get? location = root.get? location ∨
      ∃ before after, root.get? location = some (.directory before) ∧
        (root.put new target).get? location = some (.directory after) := by
  induction target generalizing root location with
  | nil => exact absurd List.nil_prefix apart
  | cons name rest ih =>
    cases root with
    | file _ => exact .inl rfl
    | link _ => exact .inl rfl
    | directory entries =>
      obtain ⟨after, put, others⟩ := put_directory entries new name rest
      cases location with
      | nil => exact .inr ⟨entries, after, rfl, by rw [put, get?_nil]⟩
      | cons first below =>
        by_cases same : first = name
        · subst same
          have apart : ¬ rest <+: below := fun inside => apart (List.cons_prefix_cons.mpr ⟨rfl, inside⟩)
          cases present : entry? first entries with
          | some child =>
            rw [put_present present, get?_cons, get?_cons]
            simpa [Node.entries, present] using ih child apart
          | none => cases rest with
            | nil => exact absurd List.nil_prefix apart
            | cons next rest => exact .inl (by rw [put_astray present])
        · refine .inl ?_
          rw [put, get?_cons, get?_cons]
          simp only [Node.entries, others first same]

/-- A file elsewhere keeps its content. -/
theorem get?_put_file (root new : Node) {target location : Location} {content : List UInt8}
    (apart : ¬ target <+: location) (file : root.get? location = some (.file content)) :
    (root.put new target).get? location = some (.file content) := by
  rcases get?_put_elsewhere root new apart with same | ⟨before, after, directory, -⟩
  · rw [same, file]
  · rw [file] at directory
    cases directory

/-! ## Below a node that was put somewhere -/

/-- To put a node below another one that was put somewhere is to put the other one there with the node below it. -/
theorem put_put_below (root a b : Node) (target below : Location) :
    (root.put a target).put b (target ++ below) = root.put (a.put b below) target := by
  induction target generalizing root with
  | nil => rfl
  | cons name rest ih =>
    cases root with
    | file _ => rfl
    | link _ => rfl
    | directory entries =>
      rw [List.cons_append]
      cases present : entry? name entries with
      | some child =>
        rw [put_present present, put_present present, put_present (lookup_setEntry_self _ _ _), setEntry_setEntry, ih]
      | none => cases rest with
        | nil =>
          rw [put_absent present, put_absent present, put_present (lookup_setEntry_self _ _ _), setEntry_setEntry]
          rfl
        | cons next rest =>
          rw [put_astray present, put_astray present, List.cons_append, put_astray present]

theorem remove_present {entries : List (String × Node)} {name next : String} {child : Node} {rest : Location}
    (present : entry? name entries = some child) :
    (directory entries).remove (name :: next :: rest) =
      .directory (setEntry name (child.remove (next :: rest)) entries) := by
  simp [remove, present]

/-- A node that was put where nothing was and is removed again leaves the tree as it was. -/
theorem remove_put {root : Node} {directory : Location} {entries : List (String × Node)}
    (found : root.get? directory = some (.directory entries)) {name : String} (free : entry? name entries = none)
    (new : Node) : (root.put new (directory ++ [name])).remove (directory ++ [name]) = root := by
  induction directory generalizing root with
  | nil =>
    cases found
    rw [List.nil_append, put_absent free]
    simp [remove, dropEntry_setEntry free]
  | cons first rest ih =>
    rw [get?_cons] at found
    obtain ⟨child, present, below⟩ := Option.bind_eq_some_iff.mp found
    cases root with
    | directory all =>
      rw [Node.entries] at present
      rw [List.cons_append, put_present present]
      obtain ⟨next, others, parted⟩ : ∃ next others, rest ++ [name] = next :: others := by
        cases rest with
        | nil => exact ⟨name, [], rfl⟩
        | cons next others => exact ⟨next, others ++ [name], rfl⟩
      rw [parted, remove_present (lookup_setEntry_self _ _ _), setEntry_setEntry, ← parted, ih below,
        setEntry_same present]
    | file _ => simp [Node.entries, entry?] at present
    | link _ => simp [Node.entries, entry?] at present

/-- Every node of the one tree is in the other one too, as a node of the same kind. -/
def Keeps (old new : Node) : Prop :=
  ∀ location node, old.get? location = some node → (new.get? location).map kind = some node.kind

theorem Keeps.refl (root : Node) : root.Keeps root := by
  intro location node found
  rw [found]
  rfl

theorem Keeps.trans {a b c : Node} (ab : a.Keeps b) (bc : b.Keeps c) : a.Keeps c := by
  intro location node found
  obtain ⟨other, there, same⟩ := Option.map_eq_some_iff.mp (ab location node found)
  rw [bc location other there, same]

theorem Keeps.directory {old new : Node} (keeps : old.Keeps new) {location : Location}
    {entries : List (String × Node)} (found : old.get? location = some (.directory entries)) :
    ∃ others, new.get? location = some (.directory others) := by
  obtain ⟨node, there, same⟩ := Option.map_eq_some_iff.mp (keeps location _ found)
  obtain ⟨others, rfl⟩ := eq_directory_of_kind same
  exact ⟨others, there⟩

/-- A node put where nothing was, or in the place of a node of its kind, leaves all kinds as they are. -/
theorem keeps_put {root new : Node} {target : Location}
    (inPlace : ∀ node, root.get? target = some node →
      ((root.put new target).get? target).map kind = some node.kind)
    (leaf : ∀ below node, root.get? (target ++ below) = some node → below = []) : root.Keeps (root.put new target) := by
  intro location node found
  by_cases inside : target <+: location
  · obtain ⟨below, rfl⟩ := inside
    obtain rfl := leaf below node found
    rw [List.append_nil] at found ⊢
    exact inPlace node found
  · rcases get?_put_elsewhere root new inside with same | ⟨before, after, was, is⟩
    · rw [same, found]
      rfl
    · rw [found] at was
      cases was
      rw [is]
      rfl

end Node

end GlobalSurvey.Files
