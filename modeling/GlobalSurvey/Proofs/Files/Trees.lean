import GlobalSurvey.Proofs.Files.Names
import Mathlib.Data.List.Nodup

/-!
# Trees as a system has them

The names of entries are proper ones (`Node.IsNamed`), and a directory has one entry of a name (`Node.IsTree`). So a node
is where its names lead, and each entry of a directory is below it under its own name (`Node.IsTree.get?_entry`).
-/
namespace GlobalSurvey.Files

/-! ## Names of entries -/

/-- A text that names an entry of a directory on a disk. -/
structure IsFileName (name : String) : Prop extends IsEntryName name where
  short : ¬ nameLimit < name.utf8ByteSize

theorem IsFileName.isName {name : String} (proper : IsFileName name) : IsName name :=
  ⟨proper.moves.1, proper.moves.2, proper.short⟩

mutual
/-- All entries of the directories in a tree have proper names. -/
def Node.IsNamed : Node → Prop
  | .directory entries => AreNamed entries
  | _ => True
/-- All entries, and those of the directories among them, have proper names. -/
def AreNamed : List (String × Node) → Prop
  | [] => True
  | (name, node) :: rest => IsFileName name ∧ node.IsNamed ∧ AreNamed rest
end

theorem areNamed_iff {entries : List (String × Node)} :
    AreNamed entries ↔ ∀ entry ∈ entries, IsFileName entry.1 ∧ entry.2.IsNamed := by
  induction entries with
  | nil => exact ⟨fun _ _ none_ => (List.not_mem_nil none_).elim, fun _ => trivial⟩
  | cons entry rest ih =>
    rw [List.forall_mem_cons, ← ih]
    exact and_assoc.symm

theorem AreNamed.of_mem {entries : List (String × Node)} (named : AreNamed entries) {name : String} {node : Node}
    (member : (name, node) ∈ entries) : IsFileName name ∧ node.IsNamed :=
  areNamed_iff.mp named (name, node) member

theorem mem_of_entry_eq_some {entries : List (String × Node)} {name : String} {node : Node}
    (present : entry? name entries = some node) : (name, node) ∈ entries := by
  induction entries with
  | nil => cases present
  | cons entry rest ih =>
    rw [entry?_cons] at present
    split at present
    · rename_i same
      cases present
      exact same ▸ List.mem_cons_self
    · exact List.mem_cons_of_mem _ (ih present)

/-- The names on the way to a node are proper, and so are those below it. -/
theorem Node.IsNamed.below {root node : Node} (named : root.IsNamed) {location : Location}
    (there : root.get? location = some node) : (∀ name ∈ location, IsFileName name) ∧ node.IsNamed := by
  induction location generalizing root with
  | nil =>
    cases there
    exact ⟨fun name member => (List.not_mem_nil member).elim, named⟩
  | cons first rest ih =>
    have there : root.get? ([] ++ first :: rest) = some node := there
    obtain ⟨entries, child, here, present, inside⟩ := Node.exists_entry there
    cases here
    obtain ⟨proper, below⟩ := AreNamed.of_mem named (mem_of_entry_eq_some present)
    obtain ⟨later, node⟩ := ih below inside
    exact ⟨List.forall_mem_cons.mpr ⟨proper, later⟩, node⟩

/-! ## One entry of a name -/

/-- Among entries with different names, each is the one with its name. -/
theorem entry?_of_mem {entries : List (String × Node)} (different : (entries.map Prod.fst).Nodup) {name : String}
    {node : Node} (member : (name, node) ∈ entries) : entry? name entries = some node := by
  induction entries with
  | nil => cases member
  | cons entry rest ih =>
    obtain ⟨new, different⟩ := List.nodup_cons.mp different
    rcases List.mem_cons.mp member with rfl | later
    · exact if_pos rfl
    · have other : entry.1 ≠ name := fun same => new (same ▸ List.mem_map_of_mem later)
      rw [entry?_cons, if_neg other]
      exact ih different later

/-- A tree as a system has it: entries have proper names, and those of one directory have different ones. -/
structure Node.IsTree (root : Node) : Prop where
  named : root.IsNamed
  different : ∀ location entries, root.get? location = some (.directory entries) → (entries.map Prod.fst).Nodup

namespace Node.IsTree
variable {root node : Node} {location : Location} {name : String} {entries : List (String × Node)}

theorem below (tree : root.IsTree) (there : root.get? location = some node) : node.IsTree where
  named := (tree.named.below there).2
  different more entries found := by
    refine tree.different (location ++ more) entries ?_
    rw [Node.get?_append, there]
    exact found

theorem get?_entry (tree : root.IsTree) (there : root.get? location = some (.directory entries))
    (member : (name, node) ∈ entries) : root.get? (location ++ [name]) = some node := by
  rw [Node.get?_snoc there, entry?_of_mem (tree.different location entries there) member]

theorem of_mem (tree : (Node.directory entries).IsTree) (member : (name, node) ∈ entries) :
    IsFileName name ∧ node.IsTree :=
  ⟨(AreNamed.of_mem tree.named member).1, tree.below (tree.get?_entry (Node.get?_nil _) member)⟩

theorem file (content : List UInt8) : (Node.file content).IsTree where
  named := trivial
  different location entries found := by cases location <;> cases found

theorem link (target : String) : (Node.link target).IsTree where
  named := trivial
  different location entries found := by cases location <;> cases found

theorem directory (different : (entries.map Prod.fst).Nodup)
    (each : ∀ entry ∈ entries, IsFileName entry.1 ∧ entry.2.IsTree) : (Node.directory entries).IsTree where
  named := areNamed_iff.mpr fun entry member => ⟨(each entry member).1, (each entry member).2.named⟩
  different location inside found := by
    cases location with
    | nil =>
      cases found
      exact different
    | cons first rest =>
      rw [Node.get?_cons] at found
      obtain ⟨child, present, found⟩ := Option.bind_eq_some_iff.mp found
      exact (each (first, child) (mem_of_entry_eq_some present)).2.different rest inside found

end Node.IsTree

/-! ## Induction on trees -/

mutual
/-- What holds of files and links, and of a directory if it holds of its entries, holds of every node. -/
theorem Node.induct {motive : Node → Prop} (file : ∀ content, motive (.file content))
    (link : ∀ target, motive (.link target))
    (directory : ∀ entries, (∀ entry ∈ entries, motive entry.2) → motive (.directory entries)) (node : Node) :
    motive node := by
  cases node with
  | file content => exact file content
  | link target => exact link target
  | directory entries => exact directory entries (Node.induct_entries file link directory entries)
theorem Node.induct_entries {motive : Node → Prop} (file : ∀ content, motive (.file content))
    (link : ∀ target, motive (.link target))
    (directory : ∀ entries, (∀ entry ∈ entries, motive entry.2) → motive (.directory entries))
    (entries : List (String × Node)) : ∀ entry ∈ entries, motive entry.2 := by
  cases entries with
  | nil => exact fun _ none_ => (List.not_mem_nil none_).elim
  | cons entry rest =>
    obtain ⟨name, node⟩ := entry
    exact List.forall_mem_cons.mpr
      ⟨Node.induct file link directory node, Node.induct_entries file link directory rest⟩
end

end GlobalSurvey.Files
