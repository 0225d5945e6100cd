import GlobalSurvey.Proofs.Batch.Units
import GlobalSurvey.Proofs.Files.Parallel
import GlobalSurvey.Proofs.Text.Order

/-!
# The units below a directory

A scan finds the wanted entries of the directories that are searched, each once and in ascending order, and what it finds
is accepted as the units of a batch (`scan_exactly`). Slashes at the end of a root make the paths below it longer but lead
to the same place. So the limit for paths can be seen: directories beyond it are passed over without a word
(`long_root_hides_source`).
-/
namespace GlobalSurvey.Batch
open GlobalSurvey.Files

/-! ## Found paths as units -/

/-- A path in a directory is no blank text. -/
theorem isIdentifier_joinPath {path name : String} (nonempty : path ≠ "") (plain : IsEntryName name) :
    isIdentifier (joinPath path name) = true := by
  obtain ⟨front, opened⟩ := exists_front nonempty
  rw [isIdentifier_iff, joinPath_eq path (relative_of_plain plain), opened]
  exact ⟨'/', by simp, rfl⟩

theorem walkPath_ne_empty {top : String} (nonempty : top ≠ "") {way : List String}
    (plain : ∀ name ∈ way, IsEntryName name) : walkPath top way ≠ "" := by
  induction way generalizing top with
  | nil => exact nonempty
  | cons name rest ih =>
    obtain ⟨first, later⟩ := List.forall_mem_cons.mp plain
    refine ih ?_ later
    intro empty
    have named := isIdentifier_joinPath nonempty first
    rw [empty] at named
    cases named

/-- A path that is listed is no blank text. -/
theorem isIdentifier_of_isListed {leadsToDirectory : String → Bool} {extensions : List String} {top unit : String}
    {entries : List (String × Node)} (tree : (Node.directory entries).IsTree) (nonempty : top ≠ "")
    (listed : IsListed leadsToDirectory extensions top entries unit) : isIdentifier unit = true := by
  obtain ⟨way, inside, name, node, enters, -, member, -, rfl⟩ := listed
  obtain ⟨plain, -⟩ := tree.named.below (tree.get?_entry (enters.get? tree) member)
  obtain ⟨above, last⟩ := List.forall_mem_append.mp plain
  exact isIdentifier_joinPath (walkPath_ne_empty nonempty fun name member => (above name member).toIsEntryName)
    (last name List.mem_cons_self).toIsEntryName

/-! ## What a scan finds -/

/-- The units are exactly the wanted entries of the directories below `root` that are searched and can be opened. -/
structure IsScan (d : Disk) (root : String) (extensions : List String) (entries : List (String × Node))
    (units : List String) : Prop where
  /-- The units ascend by the numbers of their characters, so no unit occurs twice. -/
  ascending : units.Pairwise fun a b => List.Lex (· < ·) (Text.codes a.toList) (Text.codes b.toList)
  /-- Each unit is the path of an entry. -/
  entry : ∀ unit ∈ units, ∃ way inside name node, Enters entries way inside ∧ (name, node) ∈ inside ∧
    unit = joinPath (walkPath root way) name
  /-- An entry is listed if its directory can be opened, and if it is wanted. -/
  listed : ∀ way inside name node, Enters entries way inside → (name, node) ∈ inside →
    (joinPath (walkPath root way) name ∈ units ↔ (walkPath root way).utf8ByteSize < pathLimit ∧
      IsWanted d.isDirectory extensions (joinPath (walkPath root way) name) name node)
  /-- The units make a batch. -/
  accepted : validateUnits (.list (units.map .str)) = .ok units

/-- Below every directory of every tree, for all extensions, a scan finds exactly the wanted entries. -/
theorem scan_exactly {d : Disk} (tree : d.root.IsTree) {root : String} {entries : List (String × Node)}
    (found : d.node? root = .ok (.directory entries)) (extensions : List String) :
    ∃ units, scan d root extensions = .ok units ∧ IsScan d root extensions entries units := by
  obtain ⟨nonempty, -, location, there, -⟩ := Disk.directory_of_node found
  have below : (Node.directory entries).IsTree := tree.below there
  have directory : d.isDirectory root = true := by simp [Disk.isDirectory, found, Node.isDirectory]
  have short := Disk.short_of_isDirectory directory
  have mem {unit : String} : unit ∈ Text.sortTexts (filesIn d.isDirectory extensions root entries) ↔
      IsListed d.isDirectory extensions root entries unit := by
    rw [Text.sortTexts, List.mem_mergeSort]
    exact mem_filesIn below.named short
  have once : (filesIn d.isDirectory extensions root entries).Nodup := nodup_filesIn below
  refine ⟨_, by rw [scan, found], Text.ascending_sortTexts once, ?_, ?_, ?_⟩
  · intro unit member
    obtain ⟨way, inside, name, node, enters, -, here, -, rfl⟩ := mem.mp member
    exact ⟨way, inside, name, node, enters, here, rfl⟩
  · intro way inside name node enters member
    rw [mem]
    exact isListed_iff below enters member
  · refine validateUnits_texts.mpr ⟨rfl, ?_, (List.mergeSort_perm _ _).nodup_iff.mpr once⟩
    exact fun unit member => isIdentifier_of_isListed below nonempty (mem.mp member)

/-! ## Slashes at the end of a root -/

/-- So many slashes. -/
def slashes : Nat → String
  | 0 => ""
  | n + 1 => slashes n ++ "/"

theorem toList_slashes (n : Nat) : (slashes n).toList = List.replicate n '/' := by
  induction n with
  | zero => rfl
  | succ n ih => rw [slashes, String.toList_append, ih, List.replicate_succ']; rfl

theorem utf8ByteSize_slashes (n : Nat) : (slashes n).utf8ByteSize = n := by
  induction n with
  | zero => rfl
  | succ n ih => rw [slashes, String.utf8ByteSize_append, ih]; rfl

theorem components_slashes (path : String) (n : Nat) : components (path ++ slashes n) = components path := by
  induction n with
  | zero => rw [slashes, String.append_empty]
  | succ n ih =>
    have ends := components_slash (path ++ slashes n) ""
    rw [String.append_empty, components_empty, List.append_nil, ih] at ends
    rw [slashes, ← String.append_assoc, ends]

theorem joinPath_slashes (path : String) (n : Nat) {name : String} (plain : IsEntryName name) :
    joinPath (path ++ slashes (n + 1)) name = path ++ slashes (n + 1) ++ name := by
  have ends : (path ++ slashes (n + 1)).toList.getLast? = some '/' := by simp [slashes]
  rw [joinPath, if_neg (relative_of_plain plain), if_pos (.inr ends)]

/-- A source in a directory, beside a link to the directory above. -/
def nested : List (String × Node) := [("sub", .directory [("x.py", .file [])]), ("y.py", .link ".")]

/-- A disk with these in a directory below the working directory. -/
def nestedDisk : Disk := ⟨.directory [("d", .directory nested)], [], []⟩

theorem named_nested {name : String} (member : name ∈ ["d", "sub", "x.py", "y.py"]) : IsFileName name := by
  simp only [List.mem_cons, List.not_mem_nil, or_false] at member
  rcases member with rfl | rfl | rfl | rfl <;> exact ⟨⟨by decide, by decide, by decide⟩, by decide⟩

theorem tree_nested : nestedDisk.root.IsTree := by
  have source : (Node.directory [("x.py", .file [])]).IsTree :=
    .directory (by decide) (List.forall_mem_singleton.mpr ⟨named_nested (by decide), .file []⟩)
  have below : (Node.directory nested).IsTree := by
    refine .directory (by decide) (List.forall_mem_cons.mpr ⟨⟨named_nested (by decide), source⟩, ?_⟩)
    exact List.forall_mem_singleton.mpr ⟨named_nested (by decide), .link "."⟩
  exact .directory (by decide) (List.forall_mem_singleton.mpr ⟨named_nested (by decide), below⟩)

/-- Slashes at the end change nothing, up to the limit. -/
theorem node_nested {n : Nat} (short : n < 4095) : nestedDisk.node? ("d" ++ slashes n) = .ok (.directory nested) := by
  have name : IsName "d" := (named_nested (by decide)).isName
  have size : ("d" ++ slashes n).utf8ByteSize = 1 + n := by
    rw [String.utf8ByteSize_append, utf8ByteSize_slashes]
    rfl
  have resolved : nestedDisk.resolve true ("d" ++ slashes n) = .ok (.present ["d"]) := by
    have proper : ¬ ("d" ++ slashes n).isEmpty = true := by simp
    have fits : ¬ pathLimit ≤ ("d" ++ slashes n).utf8ByteSize := by
      rw [size, pathLimit]
      omega
    have one : components "d" = ["d"] := by decide
    rw [Disk.resolve, if_neg proper, if_neg fits, if_neg (by simp), steps, components_slashes, one]
    refine (follow_node rfl name rfl (by rintro _ ⟨⟩)).trans ?_
    split
    · exact (follow_stay rfl).trans follow_nil
    · exact follow_nil
  have plain : ("d" ++ slashes n).toList.contains '\x00' = false := by
    simp [toList_slashes, List.mem_replicate]
  exact Disk.node?_of_leads ⟨plain, resolved⟩ rfl

theorem isDirectory_link : nestedDisk.isDirectory "d/y.py" = true := by
  have above : IsName "d" := (named_nested (by decide)).isName
  have name : IsName "y.py" := (named_nested (by decide)).isName
  have way : steps "d/y.py" = ["d", "y.py"] := by decide
  have stays : steps "." ++ [] = ["."] := by decide
  have resolved : nestedDisk.resolve true "d/y.py" = .ok (.present ["d"]) := by
    rw [Disk.resolve, if_neg (by decide), if_neg (by decide), way]
    refine (follow_node rfl above rfl (by rintro _ ⟨⟩)).trans ?_
    refine (follow_link rfl name rfl (by simp) (by decide)).trans ?_
    rw [stays]
    exact (follow_stay rfl).trans follow_nil
  have found : nestedDisk.node? "d/y.py" = .ok (.directory nested) := Disk.node?_of_leads ⟨by decide, resolved⟩ rfl
  simp [Disk.isDirectory, found, Node.isDirectory]

/-- Below the directory there is one source. -/
theorem scan_of_nested : ∃ units, scan nestedDisk "d" [".py"] = .ok units ∧ "d/sub/x.py" ∈ units ∧ "d/y.py" ∉ units := by
  have found : nestedDisk.node? "d" = .ok (.directory nested) := node_nested (n := 0) (by decide)
  obtain ⟨units, scanned, exact_⟩ := scan_exactly tree_nested found [".py"]
  have enters : Enters nested ["sub"] [("x.py", .file [])] := .into .top List.mem_cons_self (by decide)
  have source := exact_.listed ["sub"] _ "x.py" (.file []) enters List.mem_cons_self
  have link := exact_.listed [] nested "y.py" (.link ".") .top (List.mem_cons_of_mem _ List.mem_cons_self)
  have path : joinPath (walkPath "d" ["sub"]) "x.py" = "d/sub/x.py" := by decide
  have path' : joinPath (walkPath "d" []) "y.py" = "d/y.py" := by decide
  rw [path] at source
  rw [path'] at link
  refine ⟨units, scanned, source.mpr ⟨by decide, ?_⟩, ?_⟩
  · exact ⟨by rintro _ ⟨⟩, by rintro _ ⟨⟩, hasExtension_iff.mp (by decide)⟩
  · intro member
    have leads := (link.mp member).2.noLink "." rfl
    rw [isDirectory_link] at leads
    cases leads

/-- If the paths below a root are too long, the directory is passed over and the link is listed as if it led to no
directory. -/
theorem scan_tooLong {root : String} (found : nestedDisk.node? root = .ok (.directory nested))
    (long : ∀ name, IsEntryName name → 2 ≤ name.utf8ByteSize → pathLimit ≤ (joinPath root name).utf8ByteSize) :
    scan nestedDisk root [".py"] = .ok [joinPath root "y.py"] := by
  have fits : hasExtension "y.py" [".py"] = true := by decide
  have closed : filesOf nestedDisk.isDirectory [".py"] (joinPath root "sub") "sub" (.directory [("x.py", .file [])]) = [] :=
    filesOf_closed (.inr (long "sub" (named_nested (by decide)).toIsEntryName (by decide)))
  have astray : nestedDisk.isDirectory (joinPath root "y.py") = false := by
    rw [Bool.eq_false_iff]
    intro leads
    have short := Disk.short_of_isDirectory leads
    exact absurd short (Nat.not_lt.mpr (long "y.py" (named_nested (by decide)).toIsEntryName (by decide)))
  have listed : filesOf nestedDisk.isDirectory [".py"] (joinPath root "y.py") "y.py" (.link ".") =
      [joinPath root "y.py"] := by
    simp [filesOf, astray, fits]
  simp only [scan, found, nested, filesIn, closed, listed, List.nil_append, List.append_nil]
  simp [Text.sortTexts]

theorem source_ne_link (root : String) : joinPath (walkPath root ["sub"]) "x.py" ≠ joinPath root "y.py" := by
  intro same
  have ways : ["sub", "x.py"] = ["y.py"] := by
    refine walkPath_inj (fun name member => ?_) (fun name member => ?_) same
    · exact (named_nested (List.mem_cons_of_mem "d" (List.mem_append_left ["y.py"] member))).toIsEntryName
    · exact (named_nested (List.mem_append_right ["d", "sub", "x.py"] member)).toIsEntryName
  simp at ways

/-- The directory by a path of almost as many slashes as the limit allows. -/
def longRoot : String := "d" ++ slashes 4093

theorem size_longRoot (name : String) (plain : IsEntryName name) (longer : 2 ≤ name.utf8ByteSize) :
    pathLimit ≤ (joinPath longRoot name).utf8ByteSize := by
  have one : "d".utf8ByteSize = 1 := by decide
  rw [longRoot, joinPath_slashes "d" 4092 plain, String.utf8ByteSize_append, String.utf8ByteSize_append,
    utf8ByteSize_slashes, one, pathLimit]
  omega

/-- Below the long root the source is not found, and the link is, although it leads to a directory. -/
theorem long_root_hides_source : nestedDisk.node? longRoot = .ok (.directory nested) ∧
    Enters nested ["sub"] [("x.py", .file [])] ∧ HasOneOf [".py"] "x.py" ∧ nestedDisk.isDirectory "d/y.py" = true ∧
      ∃ units, scan nestedDisk longRoot [".py"] = .ok units ∧
        joinPath (walkPath longRoot ["sub"]) "x.py" ∉ units ∧ joinPath longRoot "y.py" ∈ units := by
  have found : nestedDisk.node? longRoot = .ok (.directory nested) := node_nested (by decide)
  refine ⟨found, .into .top List.mem_cons_self (by decide), hasExtension_iff.mp (by decide), isDirectory_link, _,
    scan_tooLong found size_longRoot, ?_, List.mem_singleton_self _⟩
  rw [List.mem_singleton]
  exact source_ne_link longRoot

end GlobalSurvey.Batch
