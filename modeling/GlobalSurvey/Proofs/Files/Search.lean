import GlobalSurvey.Files.Scan
import GlobalSurvey.Proofs.Files.Trees

/-!
# Directories that are searched

A search below a directory goes into the directories among its entries, and on into those among theirs, except for ignored
ones (`Enters`). The files that are listed are the entries with a wanted extension, other than directories and links to
directories, of the directories that it goes into and whose paths are short enough to be opened (`mem_filesIn`).
-/
namespace GlobalSurvey.Files
open GlobalSurvey.Text

/-! ## The directories that a search goes into -/

/-- The directories that a search below a directory goes into, with the names on the way to them: that directory, and
those among the entries of such a directory that are not ignored. A link is no directory. -/
inductive Enters (entries : List (String × Node)) : List String → List (String × Node) → Prop
  | top : Enters entries [] entries
  | into {way : List String} {name : String} {inside below : List (String × Node)} (above : Enters entries way inside)
      (member : (name, .directory below) ∈ inside) (searched : name ∉ ignoredDirectories) :
      Enters entries (way ++ [name]) below

/-- The path along names from a directory. -/
def walkPath (top : String) (way : List String) : String := way.foldl joinPath top

theorem walkPath_snoc (top : String) (way : List String) (name : String) :
    walkPath top (way ++ [name]) = joinPath (walkPath top way) name := List.foldl_append

theorem components_walkPath (top : String) {way : List String} (plain : ∀ name ∈ way, IsEntryName name) :
    components (walkPath top way) = components top ++ way := by
  induction way generalizing top with
  | nil => exact (List.append_nil _).symm
  | cons name rest ih =>
    obtain ⟨first, later⟩ := List.forall_mem_cons.mp plain
    have joined := ih (joinPath top name) later
    rw [components_joinPath_entry top first, List.append_assoc] at joined
    exact joined

theorem walkPath_inj {top : String} {way other : List String} (plain : ∀ name ∈ way, IsEntryName name)
    (plain' : ∀ name ∈ other, IsEntryName name) (same : walkPath top way = walkPath top other) : way = other := by
  have parts := congrArg components same
  rw [components_walkPath top plain, components_walkPath top plain'] at parts
  exact List.append_cancel_left parts

section
variable {name : String} {way : List String} {entries inside below : List (String × Node)} {node : Node}

/-- What is entered below an entry is entered below the directory of the entry. -/
theorem Enters.down (member : (name, .directory below) ∈ entries) (searched : name ∉ ignoredDirectories)
    (enters : Enters below way inside) : Enters entries (name :: way) inside := by
  induction enters with
  | top => exact .into .top member searched
  | into _ inner outer ih => exact .into ih inner outer

/-- With more entries there is no less to enter. -/
theorem Enters.mono {more : List (String × Node)} (kept : entries ⊆ more) (enters : Enters entries way inside) :
    way = [] ∧ inside = entries ∨ Enters more way inside := by
  induction enters with
  | top => exact .inl ⟨rfl, rfl⟩
  | into _ member searched ih =>
    rcases ih with ⟨rfl, rfl⟩ | enters
    · exact .inr (.into .top (kept member) searched)
    · exact .inr (.into enters member searched)

theorem Enters.named (enters : Enters entries way inside) (named : AreNamed entries) : AreNamed inside := by
  induction enters with
  | top => exact named
  | into _ member _ ih => exact (ih.of_mem member).2

/-- A directory that is entered is where the names on the way lead. -/
theorem Enters.get? (enters : Enters entries way inside) (tree : (Node.directory entries).IsTree) :
    (Node.directory entries).get? way = some (.directory inside) := by
  induction enters with
  | top => rfl
  | into _ member _ ih => exact tree.get?_entry ih member

/-- One path is that of one entry only. -/
theorem Enters.unique {top name' : String} {way' : List String} {inside' : List (String × Node)} {node' : Node}
    (tree : (Node.directory entries).IsTree) (enters : Enters entries way inside) (enters' : Enters entries way' inside')
    (member : (name, node) ∈ inside) (member' : (name', node') ∈ inside')
    (same : joinPath (walkPath top way) name = joinPath (walkPath top way') name') :
    way = way' ∧ name = name' ∧ node = node' := by
  have entry := tree.get?_entry (enters.get? tree) member
  have entry' := tree.get?_entry (enters'.get? tree) member'
  have plain {node : Node} {way : List String} (there : (Node.directory entries).get? way = some node) (name : String)
      (member : name ∈ way) : IsEntryName name := ((tree.named.below there).1 name member).toIsEntryName
  rw [← walkPath_snoc, ← walkPath_snoc] at same
  have joined := walkPath_inj (plain entry) (plain entry') same
  rw [joined, entry'] at entry
  obtain ⟨rfl, rfl⟩ := List.append_singleton_inj.mp joined
  cases entry
  exact ⟨rfl, rfl, rfl⟩

end

/-! ## The files that are listed -/

/-- The name has one of the extensions, upper and lower case being one. -/
def HasOneOf (extensions : List String) (name : String) : Prop :=
  ∃ e ∈ extensions, CaseMap.lower e.toList = CaseMap.lower (splitExtension name.toList).2

theorem hasExtension_iff {name : String} {extensions : List String} :
    hasExtension name extensions = true ↔ HasOneOf extensions name := by
  rw [hasExtension, List.contains_iff_mem, List.mem_map, HasOneOf]

/-- An entry that is listed under its path: a file, or a link that does not lead to a directory, with one of the
extensions. -/
structure IsWanted (leadsToDirectory : String → Bool) (extensions : List String) (path name : String) (node : Node) :
    Prop where
  noDirectory : ∀ entries, node ≠ .directory entries
  noLink : ∀ target, node = .link target → leadsToDirectory path = false
  extension : HasOneOf extensions name

/-- The path is that of an entry that is listed, in a directory that a search enters and that can be opened. -/
def IsListed (leadsToDirectory : String → Bool) (extensions : List String) (top : String) (entries : List (String × Node))
    (unit : String) : Prop :=
  ∃ way inside name node, Enters entries way inside ∧ (walkPath top way).utf8ByteSize < pathLimit ∧
    (name, node) ∈ inside ∧ IsWanted leadsToDirectory extensions (joinPath (walkPath top way) name) name node ∧
      unit = joinPath (walkPath top way) name

section
variable {leadsToDirectory : String → Bool} {extensions : List String} {top path name unit : String} {way : List String}
  {entries inside below : List (String × Node)} {node : Node}

theorem IsListed.mono {more : List (String × Node)} (kept : entries ⊆ more)
    (listed : IsListed leadsToDirectory extensions top entries unit) :
    IsListed leadsToDirectory extensions top more unit := by
  obtain ⟨way, inside, name, node, enters, short, member, wanted, rfl⟩ := listed
  rcases enters.mono kept with ⟨rfl, rfl⟩ | enters
  · exact ⟨[], more, name, node, .top, short, kept member, wanted, rfl⟩
  · exact ⟨way, inside, name, node, enters, short, member, wanted, rfl⟩

/-- Whether the path of an entry is listed is decided by that entry alone. -/
theorem isListed_iff (tree : (Node.directory entries).IsTree) (enters : Enters entries way inside)
    (member : (name, node) ∈ inside) :
    IsListed leadsToDirectory extensions top entries (joinPath (walkPath top way) name) ↔
      (walkPath top way).utf8ByteSize < pathLimit ∧
        IsWanted leadsToDirectory extensions (joinPath (walkPath top way) name) name node := by
  constructor
  · rintro ⟨way', inside', name', node', enters', short, member', wanted, same⟩
    obtain ⟨rfl, rfl, rfl⟩ := enters.unique tree enters' member member' same
    exact ⟨short, wanted⟩
  · rintro ⟨short, wanted⟩
    exact ⟨way, inside, name, node, enters, short, member, wanted, rfl⟩

/-- The files of a directory are those of its entries. -/
theorem filesIn_eq_flatMap : filesIn leadsToDirectory extensions path entries =
    entries.flatMap fun entry => filesOf leadsToDirectory extensions (joinPath path entry.1) entry.1 entry.2 := by
  induction entries with
  | nil => rfl
  | cons entry rest ih => rw [filesIn, ih, List.flatMap_cons]

theorem exists_entry_of_mem_filesIn (found : unit ∈ filesIn leadsToDirectory extensions path entries) :
    ∃ entry ∈ entries, unit ∈ filesOf leadsToDirectory extensions (joinPath path entry.1) entry.1 entry.2 := by
  rw [filesIn_eq_flatMap] at found
  exact List.mem_flatMap.mp found

theorem mem_filesIn_of_entry (member : (name, node) ∈ entries)
    (found : unit ∈ filesOf leadsToDirectory extensions (joinPath path name) name node) :
    unit ∈ filesIn leadsToDirectory extensions path entries := by
  rw [filesIn_eq_flatMap]
  exact List.mem_flatMap.mpr ⟨(name, node), member, found⟩

/-- An entry other than a directory is listed by itself, if it is wanted. -/
theorem mem_filesOf_entry (noDirectory : ∀ entries, node ≠ .directory entries) :
    unit ∈ filesOf leadsToDirectory extensions path name node ↔
      IsWanted leadsToDirectory extensions path name node ∧ unit = path := by
  cases node with
  | directory entries => exact absurd rfl (noDirectory entries)
  | file content =>
    have wanted : IsWanted leadsToDirectory extensions path name (.file content) ↔ HasOneOf extensions name :=
      ⟨fun wanted => wanted.extension, fun fits => ⟨noDirectory, by rintro _ ⟨⟩, fits⟩⟩
    rw [filesOf, wanted, ← hasExtension_iff]
    split <;> simp [*]
  | link target =>
    have wanted : IsWanted leadsToDirectory extensions path name (.link target) ↔
        leadsToDirectory path = false ∧ HasOneOf extensions name :=
      ⟨fun wanted => ⟨wanted.noLink target rfl, wanted.extension⟩,
        fun ⟨leads, fits⟩ => ⟨noDirectory, fun _ _ => leads, fits⟩⟩
    rw [filesOf, wanted, ← hasExtension_iff]
    split <;> simp_all

/-- A directory is opened if it is not ignored and its path is short enough. -/
theorem filesOf_opened (searched : name ∉ ignoredDirectories) (short : path.utf8ByteSize < pathLimit) :
    filesOf leadsToDirectory extensions path name (.directory below) =
      filesIn leadsToDirectory extensions path below := by
  simp only [filesOf, List.contains_iff_mem]
  exact if_neg (not_or.mpr ⟨searched, Nat.not_le.mpr short⟩)

theorem filesOf_closed (closed : name ∈ ignoredDirectories ∨ pathLimit ≤ path.utf8ByteSize) :
    filesOf leadsToDirectory extensions path name (.directory below) = [] := by
  simp only [filesOf, List.contains_iff_mem]
  exact if_pos closed

theorem mem_filesOf_directory : unit ∈ filesOf leadsToDirectory extensions path name (.directory below) ↔
    name ∉ ignoredDirectories ∧ path.utf8ByteSize < pathLimit ∧ unit ∈ filesIn leadsToDirectory extensions path below := by
  by_cases closed : name ∈ ignoredDirectories ∨ pathLimit ≤ path.utf8ByteSize
  · rw [filesOf_closed closed]
    refine iff_of_false List.not_mem_nil ?_
    rintro ⟨searched, short, -⟩
    exact closed.elim searched (Nat.not_le.mpr short)
  · obtain ⟨searched, long⟩ := not_or.mp closed
    have short := Nat.not_le.mp long
    rw [filesOf_opened searched short]
    exact ⟨fun found => ⟨searched, short, found⟩, fun ⟨_, _, found⟩ => found⟩

/-- What is found is an entry of a directory that is entered. -/
theorem isListed_of_mem_filesOf (short : top.utf8ByteSize < pathLimit)
    (found : unit ∈ filesOf leadsToDirectory extensions (joinPath top name) name node) :
    IsListed leadsToDirectory extensions top [(name, node)] unit := by
  induction node using Node.induct generalizing top name with
  | file content =>
    obtain ⟨wanted, rfl⟩ := (mem_filesOf_entry (by simp)).mp found
    exact ⟨[], _, name, .file content, .top, short, List.mem_singleton_self _, wanted, rfl⟩
  | link target =>
    obtain ⟨wanted, rfl⟩ := (mem_filesOf_entry (by simp)).mp found
    exact ⟨[], _, name, .link target, .top, short, List.mem_singleton_self _, wanted, rfl⟩
  | directory below ih =>
    obtain ⟨searched, short', found⟩ := mem_filesOf_directory.mp found
    obtain ⟨entry, member, found⟩ := exists_entry_of_mem_filesIn found
    obtain ⟨way, inside, other, node, enters, rest⟩ :=
      (ih entry member short' found).mono (List.cons_subset.mpr ⟨member, List.nil_subset _⟩)
    exact ⟨name :: way, inside, other, node, enters.down (List.mem_singleton_self _) searched, rest⟩

theorem size_le_joinPath (path : String) (plain : IsEntryName name) :
    path.utf8ByteSize ≤ (joinPath path name).utf8ByteSize := by
  unfold joinPath
  rw [if_neg (relative_of_plain plain)]
  split <;> simp [String.utf8ByteSize_append, Nat.add_assoc]

/-- All that is found in a directory that is entered and can be opened is found. -/
theorem Enters.filesIn_subset (named : AreNamed entries) (enters : Enters entries way inside)
    (short : (walkPath top way).utf8ByteSize < pathLimit) :
    filesIn leadsToDirectory extensions (walkPath top way) inside ⊆ filesIn leadsToDirectory extensions top entries := by
  induction enters with
  | top => exact List.Subset.refl _
  | @into way name inside below above member searched ih =>
    obtain ⟨proper, -⟩ := (above.named named).of_mem member
    rw [walkPath_snoc] at short ⊢
    intro unit found
    refine ih (Nat.lt_of_le_of_lt (size_le_joinPath _ proper.toIsEntryName) short) ?_
    exact mem_filesIn_of_entry member (mem_filesOf_directory.mpr ⟨searched, short, found⟩)

/-- The files that are found below a directory are those that are listed. -/
theorem mem_filesIn (named : AreNamed entries) (short : top.utf8ByteSize < pathLimit) :
    unit ∈ filesIn leadsToDirectory extensions top entries ↔
      IsListed leadsToDirectory extensions top entries unit := by
  constructor
  · intro found
    obtain ⟨entry, member, found⟩ := exists_entry_of_mem_filesIn found
    exact (isListed_of_mem_filesOf short found).mono (List.cons_subset.mpr ⟨member, List.nil_subset _⟩)
  · rintro ⟨way, inside, name, node, enters, short, member, wanted, rfl⟩
    refine enters.filesIn_subset named short ?_
    exact mem_filesIn_of_entry member ((mem_filesOf_entry wanted.noDirectory).mpr ⟨wanted, rfl⟩)

/-! ## Each file once -/

/-- What is found below an entry has the components of its path in front. -/
theorem components_of_mem_filesOf (named : node.IsNamed)
    (found : unit ∈ filesOf leadsToDirectory extensions path name node) :
    ∃ more, components unit = components path ++ more := by
  induction node using Node.induct generalizing path name with
  | file content =>
    obtain ⟨-, rfl⟩ := (mem_filesOf_entry (by simp)).mp found
    exact ⟨[], (List.append_nil _).symm⟩
  | link target =>
    obtain ⟨-, rfl⟩ := (mem_filesOf_entry (by simp)).mp found
    exact ⟨[], (List.append_nil _).symm⟩
  | directory below ih =>
    obtain ⟨-, -, found⟩ := mem_filesOf_directory.mp found
    obtain ⟨entry, member, found⟩ := exists_entry_of_mem_filesIn found
    obtain ⟨proper, named⟩ := AreNamed.of_mem named member
    obtain ⟨more, ends⟩ := ih entry member named found
    refine ⟨entry.1 :: more, ?_⟩
    rw [ends, components_joinPath_entry path proper.toIsEntryName, List.append_assoc]
    rfl

/-- Different entries of a directory have no files in common. -/
theorem disjoint_filesOf {a b : String × Node} (proper : IsFileName a.1 ∧ a.2.IsNamed)
    (proper' : IsFileName b.1 ∧ b.2.IsNamed) (different : a.1 ≠ b.1) :
    List.Disjoint (filesOf leadsToDirectory extensions (joinPath path a.1) a.1 a.2)
      (filesOf leadsToDirectory extensions (joinPath path b.1) b.1 b.2) := by
  intro unit found found'
  obtain ⟨more, ends⟩ := components_of_mem_filesOf proper.2 found
  obtain ⟨more', ends'⟩ := components_of_mem_filesOf proper'.2 found'
  rw [components_joinPath_entry path proper.1.toIsEntryName, List.append_assoc] at ends
  rw [components_joinPath_entry path proper'.1.toIsEntryName, List.append_assoc] at ends'
  have next := List.append_cancel_left (ends.symm.trans ends')
  exact different (List.head_eq_of_cons_eq next)

theorem nodup_filesIn_of (tree : (Node.directory entries).IsTree)
    (each : ∀ entry ∈ entries, (filesOf leadsToDirectory extensions (joinPath path entry.1) entry.1 entry.2).Nodup) :
    (filesIn leadsToDirectory extensions path entries).Nodup := by
  rw [filesIn_eq_flatMap, List.nodup_flatMap]
  refine ⟨each, (List.pairwise_map.mp (tree.different [] entries rfl)).imp_of_mem ?_⟩
  intro a b member member' different
  exact disjoint_filesOf (AreNamed.of_mem tree.named member) (AreNamed.of_mem tree.named member') different

theorem nodup_filesOf (tree : node.IsTree) : (filesOf leadsToDirectory extensions path name node).Nodup := by
  induction node using Node.induct generalizing path name with
  | file content =>
    rw [filesOf]
    split <;> simp
  | link target =>
    rw [filesOf]
    split <;> simp
  | directory below ih =>
    rw [filesOf]
    split
    · exact List.nodup_nil
    · exact nodup_filesIn_of tree fun entry member => ih entry member (tree.of_mem member).2

/-- No file is found twice. -/
theorem nodup_filesIn (tree : (Node.directory entries).IsTree) :
    (filesIn leadsToDirectory extensions path entries).Nodup :=
  nodup_filesIn_of tree fun _ member => nodup_filesOf (tree.of_mem member).2

end

end GlobalSurvey.Files
