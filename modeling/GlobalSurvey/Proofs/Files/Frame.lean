import GlobalSurvey.Proofs.Files.Room
import Mathlib.Logic.Relation

/-!
# What operations on paths change

The face of a node is all of it but the entries of a directory. What an operation leaves alone has the same face before and
after (`Changes`): making a path adds directories to which the path leads, or one above it (`changes_makePath`), and
storing a file changes the place to which its path leads (`changes_store`).
-/
namespace GlobalSurvey.Files

/-- What a node is, apart from the entries of a directory. -/
inductive Face where
  | file (content : List UInt8)
  | link (target : String)
  | directory
deriving DecidableEq

/-- The face of a node. -/
def Node.face : Node → Face
  | .file content => .file content
  | .link target => .link target
  | .directory _ => .directory

/-- There is nothing below a node without entries. -/
theorem Node.get?_bare {node : Node} (bare : node.entries = []) {below : Location} (inside : below ≠ []) :
    node.get? below = none := by
  cases below with
  | nil => exact absurd rfl inside
  | cons name rest =>
    rw [Node.get?_cons, bare]
    rfl

/-- The path itself, or a path above it. -/
def IsHead (path head : String) : Prop := Relation.ReflTransGen (fun below above => above = directoryOf below) path head

theorem isHead_directoryOf (path : String) : IsHead path (directoryOf path) := .single rfl

namespace Disk

/-- The face of the node at a location. -/
def face? (d : Disk) (location : Location) : Option Face := (d.root.get? location).map Node.face

theorem face?_eq_none {d : Disk} {location : Location} : d.face? location = none ↔ d.root.get? location = none := by
  simp [face?]

theorem face?_file {d : Disk} {location : Location} {content : List UInt8} :
    d.face? location = some (.file content) ↔ d.root.get? location = some (.file content) := by
  unfold face?
  constructor
  · intro same
    obtain ⟨node, there, face⟩ := Option.map_eq_some_iff.mp same
    cases node <;> cases face
    exact there
  · intro there
    rw [there]
    rfl

/-- A node that is put somewhere shows nowhere else. -/
theorem face?_put_elsewhere (d : Disk) (new : Node) {target location : Location} (apart : ¬ target <+: location) :
    (d.put target new).face? location = d.face? location := by
  rcases Node.get?_put_elsewhere d.root new apart with same | ⟨entries, others, was, is⟩
  · simp only [face?, Disk.put, same]
  · simp only [face?, Disk.put, was, is]
    rfl

/-- A node without entries that is put in the place of nothing, or of such a node, shows at its own location only. -/
theorem face?_put {d : Disk} {target location : Location} {new : Node} (bare : new.entries = [])
    (before : ∀ old, d.root.get? target = some old → old.entries = [])
    (there : (d.put target new).root.get? target = some new) (other : location ≠ target) :
    (d.put target new).face? location = d.face? location := by
  by_cases inside : target <+: location
  · obtain ⟨below, rfl⟩ := inside
    have proper : below ≠ [] := fun none => other (by simp [none])
    have after : (d.put target new).root.get? (target ++ below) = none := by
      rw [Node.get?_append, there, Option.bind_some, Node.get?_bare bare proper]
    have nothing : d.root.get? (target ++ below) = none := by
      rw [Node.get?_append]
      cases was : d.root.get? target with
      | none => rfl
      | some old => rw [Option.bind_some, Node.get?_bare (before old was) proper]
    rw [face?, face?, after, nothing]
  · exact face?_put_elsewhere d new inside

/-! ## Changes -/

/-- All that changes from a disk to another one, outside of the places that are left open: there are new directories to
which some paths lead. -/
structure Changes (directories : String → Prop) (open_ : Location → Prop) (old new : Disk) : Prop where
  keeps : old.Keeps new
  others : ∀ location, ¬ open_ location → new.face? location = old.face? location ∨
    old.face? location = none ∧ new.face? location = some .directory ∧
      ∃ path, directories path ∧ new.resolve true path = .ok (.present location)

namespace Changes

variable {directories : String → Prop} {open_ : Location → Prop} {a b c : Disk}

theorem refl (d : Disk) : Changes directories open_ d d := ⟨.refl d, fun _ _ => .inl rfl⟩

theorem trans (ab : Changes directories open_ a b) (bc : Changes directories open_ b c) :
    Changes directories open_ a c := by
  refine ⟨ab.keeps.trans bc.keeps, ?_⟩
  intro location closed
  rcases ab.others location closed with same | ⟨nothing, directory, path, leads, there⟩
  · rw [← same]
    exact bc.others location closed
  · rcases bc.others location closed with same | ⟨gone, -⟩
    · exact .inr ⟨nothing, same.trans directory, path, leads, resolve_keeps bc.keeps there⟩
    · rw [gone] at directory
      cases directory

/-- More paths, and more open places. -/
theorem mono {more : String → Prop} {wider : Location → Prop} (changes : Changes directories open_ a b)
    (paths : ∀ path, directories path → more path) (places : ∀ location, open_ location → wider location) :
    Changes more wider a b := by
  refine ⟨changes.keeps, ?_⟩
  intro location closed
  rcases changes.others location fun inside => closed (places location inside) with same | ⟨was, is, path, made, leads⟩
  · exact .inl same
  · exact .inr ⟨was, is, path, paths path made, leads⟩

/-- The content under a path stays, unless the path leads to a place that is left open. -/
theorem contents (changes : Changes directories open_ a b) {path : String} {content : List UInt8}
    (held : a.contents path = .ok content)
    (closed : ∀ location, a.resolve true path = .ok (.present location) → ¬ open_ location) :
    b.contents path = .ok content := by
  obtain ⟨location, leads, file⟩ := leads_of_contents held
  have shown := face?_file.mpr file
  refine contents_of_leads (leads.keeps changes.keeps) (face?_file.mp ?_)
  rcases changes.others location (closed location leads.resolved) with same | ⟨nothing, -⟩
  · rw [same, shown]
  · rw [nothing] at shown
    cases shown

/-- Where nothing is left open no file is made, changed or removed. -/
theorem files (changes : Changes directories open_ a b) {location : Location} (closed : ¬ open_ location)
    (content : List UInt8) :
    b.root.get? location = some (.file content) ↔ a.root.get? location = some (.file content) := by
  rw [← face?_file, ← face?_file]
  rcases changes.others location closed with same | ⟨nothing, directory, -⟩
  · rw [same]
  · rw [nothing, directory]
    simp

end Changes

/-! ## Making directories -/

theorem changes_makeDirectory {old new : Disk} {path : String} (open_ : Location → Prop)
    (made : old.makeDirectory path = .ok new) : Changes (· = withoutEndSlashes path) open_ old new := by
  obtain ⟨-, parent, name, free, rfl⟩ := makeDirectory_eq_ok made
  obtain ⟨entries, here, absent⟩ := resolve_free free
  have nothing : old.root.get? (parent ++ [name]) = none := (Node.get?_snoc here name).trans absent
  have keeps := keeps_put_free here absent (.directory [])
  have there := Node.get?_put_self here name (.directory [])
  refine ⟨keeps, ?_⟩
  intro location _
  by_cases own : location = parent ++ [name]
  · subst own
    refine .inr ⟨face?_eq_none.mpr nothing, ?_, _, rfl, resolve_made keeps (by simp) there (by simp) free⟩
    simp only [face?, Disk.put, there]
    rfl
  · refine .inl (face?_put rfl ?_ there own)
    intro old was
    rw [nothing] at was
    cases was

/-- Slashes at the end of a path are taken off, or what is above it is meant. -/
theorem isHead_withoutEndSlashes (path : String) : IsHead path (withoutEndSlashes path) := by
  by_cases ends : path.toList.getLast? = some '/'
  · have whole : path.toList.reverse.dropWhile (· ≠ '/') = path.toList.reverse := by
      rw [List.getLast?_eq_head?_reverse] at ends
      cases reversed : path.toList.reverse with
      | nil => rfl
      | cons last rest =>
        rw [reversed, List.head?_cons, Option.some.injEq] at ends
        simp [ends]
    have same : withoutEndSlashes path = directoryOf path := by
      simp only [withoutEndSlashes, directoryOf, splitPath, uptoLast, whole, List.reverse_reverse]
      split
      · exact String.ofList_toList.symm
      · rfl
    rw [same]
    exact isHead_directoryOf path
  · rw [withoutEndSlashes_open ends]
    exact .refl

theorem changes_ensureDirectory (d : Disk) (path : String) (open_ : Location → Prop) :
    Changes (IsHead path) open_ d (d.ensureDirectory path).1 := by
  unfold ensureDirectory
  split
  · rename_i new made
    refine (changes_makeDirectory open_ made).mono ?_ fun _ inside => inside
    rintro _ rfl
    exact isHead_withoutEndSlashes path
  · exact .refl d
  · split
    · exact .refl d
    · exact .refl d

theorem changes_makeDirectories (d : Disk) (path : String) (depth : Nat) (open_ : Location → Prop) :
    Changes (IsHead path) open_ d (d.makeDirectories path depth).1 := by
  induction depth generalizing path with
  | zero => exact changes_ensureDirectory d path open_
  | succ depth ih =>
    have isHead : IsHead path
        (if (splitPath path).2.isEmpty then splitPath (splitPath path).1 else ((splitPath path).1, (splitPath path).2)).1 := by
      split
      · exact (isHead_directoryOf path).trans (isHead_directoryOf _)
      · exact isHead_directoryOf path
    simp only [makeDirectories]
    generalize (if (splitPath path).2.isEmpty then splitPath (splitPath path).1
      else ((splitPath path).1, (splitPath path).2)) = parts at isHead ⊢
    obtain ⟨above, tail⟩ := parts
    have first : Changes (IsHead path) open_ d (d.makeDirectories above depth).1 :=
      (ih above).mono (fun _ higher => isHead.trans higher) fun _ inside => inside
    split
    · rcases made : d.makeDirectories above depth with ⟨between, outcome⟩
      rw [made] at first
      have goesOn : Changes (IsHead path) open_ d
          (if tail = "." then (between, none) else between.ensureDirectory path).1 := by
        split
        · exact first
        · exact first.trans (changes_ensureDirectory between path open_)
      cases outcome with
      | none => exact goesOn
      | some fault =>
        simp only
        split
        · rename_i same
          cases same
        · rename_i same
          cases same
          exact goesOn
        · rename_i same
          cases same
          exact first
    · exact changes_ensureDirectory d path open_

/-- Making a path adds directories only, to which the path leads or one above it. -/
theorem changes_makePath (d : Disk) (path : String) (open_ : Location → Prop) :
    Changes (IsHead path) open_ d (d.makePath path).1 := changes_makeDirectories d path path.length open_

/-! ## Making a file -/

/-- Making a file changes its own place. -/
theorem changes_make {old new : Disk} {path : String} {location : Location} (directories : String → Prop)
    (made : old.make path = .ok (new, location)) : Changes directories (· = location) old new := by
  have own := make_made made
  obtain ⟨-, directory, name, free, rfl, rfl⟩ := make_eq_ok made
  refine ⟨own.keeps, fun location closed => .inl (face?_put rfl ?_ own.file closed)⟩
  intro node was
  rw [own.fresh] at was
  cases was

/-! ## Storing a file -/

/-- Storing a file changes the place to which its path leads. -/
theorem changes_store {old new : Disk} {path : String} {content : List UInt8} (directories : String → Prop)
    (stored : old.store path content = .ok new) :
    Changes directories (fun location => new.resolve true path = .ok (.present location)) old new := by
  obtain ⟨-, act⟩ := checked_eq_ok.mp stored
  split at act
  · cases above : old.resolve true (directoryOf (withoutEndSlashes path)) with
    | error cause => simp [above, bind, Except.bind] at act
    | ok place => simp [above, bind, Except.bind] at act
  · cases resolved : old.resolve true path with
    | error cause => simp [resolved, bind, Except.bind] at act
    | ok place => cases place with
      | absent parent name =>
        simp only [resolved, bind, Except.bind, Except.ok.injEq] at act
        subst act
        obtain ⟨entries, here, absent⟩ := resolve_free resolved
        have nothing : old.root.get? (parent ++ [name]) = none := (Node.get?_snoc here name).trans absent
        have keeps := keeps_put_free here absent (.file content)
        have there := Node.get?_put_self here name (.file content)
        refine ⟨keeps, fun location closed => .inl (face?_put rfl ?_ there ?_)⟩
        · intro node was
          rw [nothing] at was
          cases was
        · rintro rfl
          exact closed (resolve_made keeps (by simp) there (by simp) resolved)
      | present target =>
        obtain ⟨node, found, noLink⟩ := resolve_exists resolved
        cases node with
        | directory entries => simp [resolved, bind, Except.bind, found] at act
        | link other => exact absurd rfl (noLink other)
        | file before =>
          simp only [resolved, bind, Except.bind, found, Except.ok.injEq] at act
          subst act
          have keeps := keeps_put_file found content
          refine ⟨keeps, fun location closed => .inl (face?_put rfl ?_ (Node.get?_put_present found _) ?_)⟩
          · intro node was
            rw [found] at was
            cases was
            rfl
          · rintro rfl
            exact closed (resolve_keeps keeps resolved)

/-- Where nothing was before a file was stored below new directories nothing is afterwards, unless the path of the file, or
one above it, leads there. -/
theorem Changes.vacant {base after : Disk} {file path : String} {home : Location}
    (changes : base.Changes (IsHead (directoryOf file)) (fun location => after.resolve true file = .ok (.present location))
      after) (vacancy : base.Vacancy path home) :
    after.pathExists path = false ∨ ∃ head, IsHead file head ∧ after.resolve true head = .ok (.present home) ∧
      after.resolve true path = .ok (.present home) := by
  have nothing := (vacancy.keeps (.directory [])).1
  obtain ⟨parent, name, rfl, free⟩ := vacancy.free
  cases found : after.root.get? (parent ++ [name]) with
  | none => exact .inl (pathExists_of_absent (resolve_stillFree changes.keeps (by simp) found free))
  | some node =>
    obtain ⟨head, isHead, leads⟩ :
        ∃ head, IsHead file head ∧ after.resolve true head = .ok (.present (parent ++ [name])) := by
      by_cases reached : after.resolve true file = .ok (.present (parent ++ [name]))
      · exact ⟨file, .refl, reached⟩
      · rcases changes.others _ reached with same | ⟨-, -, head, above, leads⟩
        · rw [face?_eq_none.mpr nothing, face?_eq_none, found] at same
          cases same
        · exact ⟨head, (isHead_directoryOf file).trans above, leads⟩
    obtain ⟨present, there, noLink⟩ := resolve_exists leads
    exact .inr ⟨head, isHead, leads, resolve_made changes.keeps (by simp) there noLink free⟩

end Disk

end GlobalSurvey.Files
