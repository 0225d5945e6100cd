import GlobalSurvey.Proofs.Files.Search
import GlobalSurvey.Proofs.Text.Order
import Mathlib.Data.List.Forall2

/-!
# Parallel directories

Two paths are parallel if the same names below them lead to the same places. A path that does not go up and its absolute
form are parallel (`parallel_absolutePath`), and stay so when the same name is joined to both (`Parallel.join`). So a scan
below the one finds, file by file and in the same order, what a scan below the other finds (`twins_scan`).
-/
namespace GlobalSurvey.Files

namespace Disk

/-! ## Disks as a system has them -/

/-- A disk as a system has it: entries have proper names, and the working directory is there. -/
structure IsProper (d : Disk) : Prop where
  named : d.root.IsNamed
  working : ∃ entries, d.root.get? d.working = some (.directory entries)

/-! ## Parallel paths -/

/-- Where the steps of a path start. -/
def startOf (d : Disk) (path : String) : Location := if path.toList.head? = some '/' then [] else d.working

/-- Two paths are parallel if the same names below them lead to the same places. -/
structure Parallel (d : Disk) (a b : String) : Prop where
  proper : a ≠ "" ∧ b ≠ ""
  null : '\x00' ∈ a.toList ↔ '\x00' ∈ b.toList
  below : ∀ more, more ≠ [] → follow d.root true linkLimit (d.startOf a) (namesOf a ++ more) =
    follow d.root true linkLimit (d.startOf b) (namesOf b ++ more)

/-- Two paths to the same place, with the same last name. -/
structure Twins (d : Disk) (a b : String) : Prop where
  name : displayName a = displayName b
  null : '\x00' ∈ a.toList ↔ '\x00' ∈ b.toList
  place : d.resolve true a = d.resolve true b

theorem Twins.refl (d : Disk) (path : String) : d.Twins path path := ⟨rfl, Iff.rfl, rfl⟩

theorem Twins.contains {d : Disk} {a b : String} (twins : d.Twins a b) :
    a.toList.contains '\x00' = b.toList.contains '\x00' := by
  rw [Bool.eq_iff_iff, List.contains_iff_mem, List.contains_iff_mem]
  exact twins.null

/-- Twins lead to the same node. -/
theorem Twins.node {d : Disk} {a b : String} (twins : d.Twins a b) (node : Node) :
    d.node? a = .ok node ↔ d.node? b = .ok node := by
  unfold node?
  rw [checked_eq_ok, checked_eq_ok, twins.contains, twins.place]

theorem Twins.isDirectory {d : Disk} {a b : String} (twins : d.Twins a b) : d.isDirectory a = d.isDirectory b := by
  unfold Disk.isDirectory
  cases first : d.node? a with
  | ok node => rw [(twins.node node).mp first]
  | error fault => cases second : d.node? b with
    | ok node =>
      rw [(twins.node node).mpr second] at first
      cases first
    | error _ => rfl

/-- Twins hold the same bytes. -/
theorem Twins.contents {d : Disk} {a b : String} (twins : d.Twins a b) (bytes : List UInt8) :
    d.contents a = .ok bytes ↔ d.contents b = .ok bytes := by
  constructor
  · intro held
    obtain ⟨location, leads, file⟩ := leads_of_contents held
    exact contents_of_leads ⟨twins.contains ▸ leads.plain, twins.place ▸ leads.resolved⟩ file
  · intro held
    obtain ⟨location, leads, file⟩ := leads_of_contents held
    exact contents_of_leads ⟨twins.contains ▸ leads.plain, twins.place ▸ leads.resolved⟩ file

variable {d : Disk} {a b name : String}

/-- Parallel paths stay parallel if the same name is joined to both. -/
theorem Parallel.join (parallel : d.Parallel a b) (plain : IsEntryName name) :
    d.Parallel (joinPath a name) (joinPath b name) where
  proper := by
    refine ⟨?_, ?_⟩
    · intro empty
      have same := displayName_joinPath parallel.proper.1 plain
      rw [empty] at same
      exact plain.nonempty (same.symm.trans rfl)
    · intro empty
      have same := displayName_joinPath parallel.proper.2 plain
      rw [empty] at same
      exact plain.nonempty (same.symm.trans rfl)
  null := by
    rw [mem_joinPath a plain (by decide), mem_joinPath b plain (by decide), parallel.null]
  below more goesOn := by
    have further := parallel.below ([name] ++ more) (by simp)
    rw [startOf, startOf, head_joinPath parallel.proper.1 plain, head_joinPath parallel.proper.2 plain,
      namesOf_joinPath a plain, namesOf_joinPath b plain, List.append_assoc, List.append_assoc]
    exact further

theorem resolve_joinPath (nonempty : a ≠ "") (plain : IsEntryName name)
    (short : (joinPath a name).utf8ByteSize < pathLimit) :
    d.resolve true (joinPath a name) = follow d.root true linkLimit (d.startOf a) (namesOf a ++ [name]) := by
  have proper : ¬ (joinPath a name).isEmpty = true := by
    intro empty
    have same := displayName_joinPath nonempty plain
    rw [String.isEmpty_iff.mp empty] at same
    exact plain.nonempty (same.symm.trans rfl)
  rw [resolve, if_neg proper, if_neg (Nat.not_le.mpr short), head_joinPath nonempty plain,
    steps_joinPath nonempty plain]
  exact follow_thinned (thinned_filter (components a) (by simp))

/-- The same name below parallel paths makes twins, if both paths are short enough. -/
theorem Parallel.twins (parallel : d.Parallel a b) (plain : IsEntryName name)
    (short : (joinPath a name).utf8ByteSize < pathLimit) (short' : (joinPath b name).utf8ByteSize < pathLimit) :
    d.Twins (joinPath a name) (joinPath b name) where
  name := by rw [displayName_joinPath parallel.proper.1 plain, displayName_joinPath parallel.proper.2 plain]
  null := (parallel.join plain).null
  place := by
    rw [resolve_joinPath parallel.proper.1 plain short, resolve_joinPath parallel.proper.2 plain short']
    exact parallel.below [name] (by simp)

/-! ## The absolute form of a path -/

/-- A path to a directory leads there by its names as well. -/
theorem directory_of_node {path : String} {entries : List (String × Node)}
    (found : d.node? path = .ok (.directory entries)) :
    path ≠ "" ∧ '\x00' ∉ path.toList ∧ ∃ location, d.root.get? location = some (.directory entries) ∧
      ∀ more, more ≠ [] → ∃ left, follow d.root true linkLimit (d.startOf path) (namesOf path ++ more) =
        follow d.root true left location more := by
  obtain ⟨plain, act⟩ := checked_eq_ok.mp found
  cases resolved : d.resolve true path with
  | error cause => simp [resolved, bind, Except.bind] at act
  | ok place => cases place with
    | absent parent name => simp [resolved, bind, Except.bind] at act
    | present location =>
      cases there : d.root.get? location with
      | none => simp [resolved, there, bind, Except.bind] at act
      | some node =>
        simp only [resolved, there, bind, Except.bind, Except.ok.injEq] at act
        subst act
        unfold resolve at resolved
        split at resolved
        · cases resolved
        · rename_i nonempty
          split at resolved
          · cases resolved
          · refine ⟨fun empty => nonempty (String.isEmpty_iff.mpr empty), ?_, location, there, ?_⟩
            · intro null
              rw [List.contains_iff_mem.mpr null] at plain
              cases plain
            · intro more goesOn
              obtain ⟨left, further⟩ := follow_append there resolved more
              exact ⟨left, by rw [← follow_names _ _ _ _ _ goesOn]; exact further⟩

/-- A path without steps that go up is parallel to its absolute form, if both lead to a directory; and the directories are
one. -/
theorem parallel_absolutePath (proper : d.IsProper) {path : String} (noUp : ".." ∉ components path)
    {entries others : List (String × Node)} (found : d.node? path = .ok (.directory entries))
    (found' : d.node? (absolutePath (pathOf d.working) path) = .ok (.directory others)) :
    d.Parallel path (absolutePath (pathOf d.working) path) ∧ entries = others := by
  obtain ⟨nonempty, plain, location, here, leads⟩ := directory_of_node found
  obtain ⟨nonempty', plain', location', here', leads'⟩ := directory_of_node found'
  obtain ⟨inside, working⟩ := proper.working
  obtain ⟨named, -⟩ := proper.named.below working
  have names := namesOf_absolutePath (fun name member => (named name member).toIsEntryName) noUp
  have below (more : List String) (goesOn : more ≠ []) :
      follow d.root true linkLimit (d.startOf path) (namesOf path ++ more) =
        follow d.root true linkLimit (d.startOf (absolutePath (pathOf d.working) path))
          (namesOf (absolutePath (pathOf d.working) path) ++ more) := by
    have fromRoot : d.startOf (absolutePath (pathOf d.working) path) = [] := if_pos (head_absolutePath _ _)
    rw [names, fromRoot, startOf]
    split
    · rw [List.nil_append]
    · rw [List.append_assoc]
      symm
      exact follow_through (fun name member => (named name member).isName) working true linkLimit _
  refine ⟨⟨⟨nonempty, nonempty'⟩, iff_of_false plain plain', below⟩, ?_⟩
  obtain ⟨left, first⟩ := leads ["."] (by simp)
  obtain ⟨left', second⟩ := leads' ["."] (by simp)
  rw [below ["."] (by simp), second, follow_stay here, follow_stay here', follow_nil, follow_nil] at first
  cases first
  rw [here] at here'
  cases here'
  rfl

/-! ## The files below -/

/-- The paths are short enough for the system. -/
def AreShort (paths : List String) : Prop := ∀ path ∈ paths, path.utf8ByteSize < pathLimit

/-- The paths of two lists end alike, one after the other, and lead to the same places. -/
def Match (d : Disk) (a b : String) (paths others : List String) : Prop :=
  ∃ ends : List String, paths = ends.map (a ++ ·) ∧ others = ends.map (b ++ ·) ∧
    ∀ last ∈ ends, d.Twins (a ++ last) (b ++ last)

theorem Match.nil : d.Match a b [] [] := ⟨[], rfl, rfl, fun _ member => (List.not_mem_nil member).elim⟩

theorem Match.append {paths others more further : List String} (first : d.Match a b paths others)
    (later : d.Match a b more further) : d.Match a b (paths ++ more) (others ++ further) := by
  obtain ⟨ends, rfl, rfl, twins⟩ := first
  obtain ⟨rest, rfl, rfl, twins'⟩ := later
  refine ⟨ends ++ rest, List.map_append.symm, List.map_append.symm, ?_⟩
  intro last member
  rcases List.mem_append.mp member with before | after
  · exact twins last before
  · exact twins' last after

theorem Match.sort {paths others : List String} (all : d.Match a b paths others) :
    d.Match a b (Text.sortTexts paths) (Text.sortTexts others) := by
  obtain ⟨ends, rfl, rfl, twins⟩ := all
  refine ⟨Text.sortTexts ends, Text.sortTexts_map a ends, Text.sortTexts_map b ends, ?_⟩
  exact fun last member => twins last (List.mem_mergeSort.mp member)

theorem Match.twins {paths others : List String} (all : d.Match a b paths others) : List.Forall₂ d.Twins paths others := by
  obtain ⟨ends, rfl, rfl, twins⟩ := all
  rw [List.forall₂_map_left_iff, List.forall₂_map_right_iff, List.forall₂_same]
  exact twins

/-- What matches below an entry matches below the directory of the entry. -/
theorem Match.up {paths others : List String} (proper : a ≠ "" ∧ b ≠ "") (plain : IsEntryName name)
    (all : d.Match (joinPath (joinPath a name) "") (joinPath (joinPath b name) "") paths others) :
    d.Match (joinPath a "") (joinPath b "") paths others := by
  obtain ⟨ends, rfl, rfl, twins⟩ := all
  rw [joinPath_joinPath proper.1 plain, joinPath_joinPath proper.2 plain] at twins ⊢
  refine ⟨ends.map (name ++ "/" ++ ·), ?_, ?_, ?_⟩
  · rw [List.map_map]
    exact List.map_congr_left fun last _ => String.append_assoc
  · rw [List.map_map]
    exact List.map_congr_left fun last _ => String.append_assoc
  · intro longer member
    obtain ⟨last, inside, rfl⟩ := List.mem_map.mp member
    simpa only [String.append_assoc] using twins last inside

/-- A path that leads to a directory is short enough. -/
theorem short_of_isDirectory {path : String} (directory : d.isDirectory path = true) : path.utf8ByteSize < pathLimit := by
  by_contra long
  have refused : d.resolve true path = .error .nameTooLong ∨ d.resolve true path = .error .notFound := by
    unfold resolve
    split
    · exact .inr rfl
    · exact .inl (if_pos (Nat.not_lt.mp long))
  have fails (node : Node) : d.node? path ≠ .ok node := by
    intro found
    obtain ⟨-, act⟩ := checked_eq_ok.mp found
    rcases refused with same | same <;> simp [same, bind, Except.bind] at act
  unfold isDirectory at directory
  split at directory
  · rename_i node found
    exact fails node found
  · cases directory

theorem match_single (parallel : d.Parallel a b) (plain : IsEntryName name) (short : AreShort [joinPath a name])
    (short' : AreShort [joinPath b name]) : d.Match (joinPath a "") (joinPath b "") [joinPath a name] [joinPath b name] := by
  have twins := parallel.twins plain (short _ List.mem_cons_self) (short' _ List.mem_cons_self)
  rw [joinPath_eq a (relative_of_plain plain), joinPath_eq b (relative_of_plain plain)] at twins ⊢
  exact ⟨[name], rfl, rfl, fun last member => List.mem_singleton.mp member ▸ twins⟩

variable (extensions : List String)

/-- The path of a link to what is searched for is short: it leads to a directory, or is among the files that are found. -/
theorem short_of_link {path target : String} (fits : hasExtension name extensions = true)
    (short : AreShort (filesOf d.isDirectory extensions path name (.link target))) : path.utf8ByteSize < pathLimit := by
  cases leads : d.isDirectory path with
  | true => exact short_of_isDirectory leads
  | false =>
    refine short path ?_
    simp [filesOf, leads, fits]

/-- The directories that a search enters have paths short enough for the system. -/
def EntersShort (top : String) (entries : List (String × Node)) : Prop :=
  ∀ way inside, Enters entries way inside → (walkPath top way).utf8ByteSize < pathLimit

section
variable {top : String} {entries below : List (String × Node)}

theorem EntersShort.of_subset {more : List (String × Node)} (short : EntersShort top more) (kept : entries ⊆ more) :
    EntersShort top entries := by
  intro way inside enters
  rcases enters.mono kept with ⟨rfl, -⟩ | enters
  · exact short [] more .top
  · exact short way inside enters

theorem EntersShort.first {entry : String × Node} (short : EntersShort top (entry :: entries)) :
    EntersShort top [entry] :=
  short.of_subset (List.cons_subset_cons entry (List.nil_subset entries))

theorem EntersShort.rest {entry : String × Node} (short : EntersShort top (entry :: entries)) :
    EntersShort top entries :=
  short.of_subset (List.subset_cons_self entry entries)

theorem EntersShort.down (short : EntersShort top [(name, .directory below)]) (searched : name ∉ ignoredDirectories) :
    EntersShort (joinPath top name) below :=
  fun way inside enters => short (name :: way) inside (enters.down (List.mem_singleton_self _) searched)

end

mutual
theorem match_filesOf {a b name : String} (parallel : d.Parallel a b) (plain : IsEntryName name) (node : Node)
    (named : node.IsNamed) (open_ : EntersShort a [(name, node)]) (open' : EntersShort b [(name, node)])
    (short : AreShort (filesOf d.isDirectory extensions (joinPath a name) name node))
    (short' : AreShort (filesOf d.isDirectory extensions (joinPath b name) name node)) :
    d.Match (joinPath a "") (joinPath b "") (filesOf d.isDirectory extensions (joinPath a name) name node)
      (filesOf d.isDirectory extensions (joinPath b name) name node) := by
  cases node with
  | file content =>
    simp only [filesOf] at short short' ⊢
    split
    · rename_i fits
      rw [if_pos fits] at short short'
      exact match_single parallel plain short short'
    · exact .nil
  | link target =>
    by_cases fits : hasExtension name extensions = true
    · have own := short_of_link extensions fits short
      have own' := short_of_link extensions fits short'
      have twins := parallel.twins plain own own'
      have one := match_single parallel plain (List.forall_mem_singleton.mpr own) (List.forall_mem_singleton.mpr own')
      simp only [filesOf, fits, twins.isDirectory]
      split
      · exact one
      · exact .nil
    · simp only [filesOf, fits, Bool.and_false]
      exact .nil
  | directory entries =>
    by_cases searched : name ∈ ignoredDirectories
    · rw [filesOf_closed (.inl searched), filesOf_closed (.inl searched)]
      exact .nil
    · have within := open_.down searched
      have within' := open'.down searched
      have own : (joinPath a name).utf8ByteSize < pathLimit := within [] entries .top
      have own' : (joinPath b name).utf8ByteSize < pathLimit := within' [] entries .top
      rw [filesOf_opened searched own] at short ⊢
      rw [filesOf_opened searched own'] at short' ⊢
      exact .up parallel.proper plain (match_filesIn (parallel.join plain) entries named within within' short short')
theorem match_filesIn {a b : String} (parallel : d.Parallel a b) (entries : List (String × Node)) (named : AreNamed entries)
    (open_ : EntersShort a entries) (open' : EntersShort b entries)
    (short : AreShort (filesIn d.isDirectory extensions a entries))
    (short' : AreShort (filesIn d.isDirectory extensions b entries)) :
    d.Match (joinPath a "") (joinPath b "") (filesIn d.isDirectory extensions a entries)
      (filesIn d.isDirectory extensions b entries) := by
  cases entries with
  | nil => exact .nil
  | cons entry rest =>
    obtain ⟨name, node⟩ := entry
    obtain ⟨proper, below, others⟩ := named
    obtain ⟨first, later⟩ := List.forall_mem_append.mp short
    obtain ⟨first', later'⟩ := List.forall_mem_append.mp short'
    exact .append (match_filesOf parallel proper.toIsEntryName node below open_.first open'.first first first')
      (match_filesIn parallel rest others open_.rest open'.rest later later')
end

/-- The directories and the files below a directory have paths short enough for the system. -/
structure HasShortPaths (d : Disk) (root : String) (extensions : List String) : Prop where
  directories : ∀ entries, d.node? root = .ok (.directory entries) → EntersShort root entries
  files : ∀ paths, scan d root extensions = .ok paths → AreShort paths

/-- Below a path without steps that go up and below its absolute form the same files are found. -/
theorem twins_scan (proper : d.IsProper) {root : String} (noUp : ".." ∉ components root) {paths others : List String}
    (found : scan d root extensions = .ok paths)
    (found' : scan d (absolutePath (pathOf d.working) root) extensions = .ok others)
    (short : d.HasShortPaths root extensions)
    (short' : d.HasShortPaths (absolutePath (pathOf d.working) root) extensions) : List.Forall₂ d.Twins paths others := by
  have files := short.files paths found
  have files' := short'.files others found'
  unfold scan at found found'
  split at found
  · rename_i entries node
    split at found'
    · rename_i inside node'
      obtain ⟨parallel, rfl⟩ := parallel_absolutePath proper noUp node node'
      cases found
      cases found'
      obtain ⟨-, -, location, there, -⟩ := directory_of_node node
      obtain ⟨-, named⟩ := proper.named.below there
      have unsorted {files : List String} (each : AreShort (Text.sortTexts files)) : AreShort files :=
        fun path member => each path (List.mem_mergeSort.mpr member)
      exact (match_filesIn extensions parallel entries named (short.directories entries node)
        (short'.directories entries node') (unsorted files) (unsorted files')).sort.twins
    · cases found'
  · cases found

end Disk

end GlobalSurvey.Files
