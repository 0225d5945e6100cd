import GlobalSurvey.Files.Disk
import GlobalSurvey.Proofs.Files.Location

/-!
# Where paths lead after a change

The ways in which steps lead to a place are the rules of `Follows` (`follow_eq_ok_iff`), and what is said of the places goes
by induction on them. A path leads to the same place in every tree that keeps the nodes of the tree before
(`resolve_keeps`). So a file that was made is found under the path by which it was made, whatever else is made or written
(`resolve_made`), and a file that was written is read back (`contents_store`).
-/
namespace GlobalSurvey.Files

/-! ## One step of a path -/

section Step
variable {root : Node} {followLast : Bool} {links : Nat} {location : Location} {entries : List (String × Node)}
  {name : String} {rest : List String}

theorem follow_nil : follow root followLast links location [] = .ok (.present location) := by rw [follow]

theorem follow_stay (here : root.get? location = some (.directory entries)) :
    follow root followLast links location ("." :: rest) = follow root followLast links location rest := by
  rw [follow]
  simp [here]

theorem follow_up (here : root.get? location = some (.directory entries)) :
    follow root followLast links location (".." :: rest) = follow root followLast links location.dropLast rest := by
  rw [follow]
  simp [here]

/-- The step leads to an entry by its name. -/
def IsName (name : String) : Prop := name ≠ "." ∧ name ≠ ".." ∧ ¬ nameLimit < name.utf8ByteSize

/-- A step by a name leads on by the entry with that name. -/
theorem follow_name (here : root.get? location = some (.directory entries)) (plain : IsName name) :
    follow root followLast links location (name :: rest) =
      match entry? name entries with
      | none => if rest.isEmpty then .ok (.absent location name) else .error .notFound
      | some (.link target) =>
        if rest.isEmpty ∧ !followLast then .ok (.present (location ++ [name]))
        else match links with
          | 0 => .error .tooManyLinks
          | links + 1 =>
            if target.isEmpty then .error .notFound
            else follow root followLast links (if target.toList.head? = some '/' then [] else location)
              (steps target ++ rest)
      | some _ => follow root followLast links (location ++ [name]) rest := by
  rw [follow]
  rcases present : entry? name entries with _ | content | target | below <;> cases links <;>
    simp only [here, if_neg plain.1, if_neg plain.2.1, if_neg plain.2.2, present]

theorem follow_lastLink (here : root.get? location = some (.directory entries)) (plain : IsName name) {target : String}
    (link : entry? name entries = some (.link target)) :
    follow root false links location [name] = .ok (.present (location ++ [name])) := by
  rw [follow_name here plain, link]
  rfl

theorem follow_link (here : root.get? location = some (.directory entries)) (plain : IsName name) {target : String}
    (link : entry? name entries = some (.link target)) (goesOn : ¬ (rest.isEmpty = true ∧ (!followLast) = true))
    (leads : ¬ target.isEmpty = true) :
    follow root followLast (links + 1) location (name :: rest) =
      follow root followLast links (if target.toList.head? = some '/' then [] else location) (steps target ++ rest) := by
  rw [follow_name here plain, link]
  simp only [if_neg goesOn, if_neg leads]

theorem follow_absent (here : root.get? location = some (.directory entries)) (plain : IsName name)
    (absent : entry? name entries = none) (end_ : rest.isEmpty = true) :
    follow root followLast links location (name :: rest) = .ok (.absent location name) := by
  rw [follow_name here plain, absent]
  exact if_pos end_

theorem follow_lost (here : root.get? location = some (.directory entries)) (plain : IsName name)
    (absent : entry? name entries = none) (goesOn : ¬ rest.isEmpty = true) :
    follow root followLast links location (name :: rest) = .error .notFound := by
  rw [follow_name here plain, absent]
  exact if_neg goesOn

theorem follow_node (here : root.get? location = some (.directory entries)) (plain : IsName name) {node : Node}
    (present : entry? name entries = some node) (noLink : ∀ target, node ≠ .link target) :
    follow root followLast links location (name :: rest) =
      follow root followLast links (location ++ [name]) rest := by
  rw [follow_name here plain, present]
  cases node with
  | link target => exact absurd rfl (noLink target)
  | file content => rfl
  | directory below => rfl

/-- The steps that are taken from a location lead to a place, in these ways. -/
inductive Follows (root : Node) (followLast : Bool) (place : Place) : Nat → Location → List String → Prop
  /-- No step is left. -/
  | arrived {links : Nat} {location : Location} (there : place = .present location) :
      Follows root followLast place links location []
  | stay {links : Nat} {location : Location} {entries : List (String × Node)} {rest : List String}
      (here : root.get? location = some (.directory entries)) (further : Follows root followLast place links location rest) :
      Follows root followLast place links location ("." :: rest)
  | up {links : Nat} {location : Location} {entries : List (String × Node)} {rest : List String}
      (here : root.get? location = some (.directory entries))
      (further : Follows root followLast place links location.dropLast rest) :
      Follows root followLast place links location (".." :: rest)
  /-- The last step is a name that the directory does not have. -/
  | absent {links : Nat} {location : Location} {entries : List (String × Node)} {name : String}
      (here : root.get? location = some (.directory entries)) (plain : IsName name)
      (absent : entry? name entries = none) (there : place = .absent location name) :
      Follows root followLast place links location [name]
  /-- The last step is the name of a link that is not followed. -/
  | lastLink {links : Nat} {location : Location} {entries : List (String × Node)} {name target : String}
      (here : root.get? location = some (.directory entries)) (plain : IsName name)
      (link : entry? name entries = some (.link target)) (last : followLast = false)
      (there : place = .present (location ++ [name])) : Follows root followLast place links location [name]
  | link {links : Nat} {location : Location} {entries : List (String × Node)} {name target : String} {rest : List String}
      (here : root.get? location = some (.directory entries)) (plain : IsName name)
      (link : entry? name entries = some (.link target)) (goesOn : ¬ (rest.isEmpty = true ∧ (!followLast) = true))
      (leads : ¬ target.isEmpty = true)
      (further : Follows root followLast place links (if target.toList.head? = some '/' then [] else location)
        (steps target ++ rest)) :
      Follows root followLast place (links + 1) location (name :: rest)
  /-- The step is the name of a file or a directory. -/
  | node {links : Nat} {location : Location} {entries : List (String × Node)} {name : String} {node : Node}
      {rest : List String} (here : root.get? location = some (.directory entries)) (plain : IsName name)
      (present : entry? name entries = some node) (noLink : ∀ target, node ≠ .link target)
      (further : Follows root followLast place links (location ++ [name]) rest) :
      Follows root followLast place links location (name :: rest)

/-- The steps lead to a place exactly if they do so in one of these ways. -/
theorem follow_eq_ok_iff {place : Place} {pending : List String} :
    follow root followLast links location pending = .ok place ↔ Follows root followLast place links location pending := by
  constructor
  · intro found
    fun_induction follow root followLast links location pending with
    | case1 => cases found; exact .arrived rfl
    | case2 _ _ _ _ here ih => exact .stay here (ih found)
    | case3 _ _ _ _ here _ ih => exact .up here (ih found)
    | case4 => cases found
    | case5 links location name rest entries here stay up long absent last =>
      cases found
      obtain rfl := List.isEmpty_iff.mp last
      exact .absent here ⟨stay, up, long⟩ absent rfl
    | case6 => cases found
    | case7 links location name rest entries here stay up long target link last =>
      cases found
      obtain ⟨empty, last⟩ := last
      obtain rfl := List.isEmpty_iff.mp empty
      exact .lastLink here ⟨stay, up, long⟩ link (by simpa using last) rfl
    | case8 => cases found
    | case9 => cases found
    | case10 location name rest entries here stay up long target link goesOn links leads ih =>
      exact .link here ⟨stay, up, long⟩ link goesOn leads (ih found)
    | case11 links location name rest entries here stay up long node noLink present ih =>
      exact .node here ⟨stay, up, long⟩ present (fun target link => noLink target link) (ih found)
    | case12 => cases found
  · intro follows
    induction follows with
    | arrived there => rw [follow_nil, there]
    | stay here _ ih => rw [follow_stay here, ih]
    | up here _ ih => rw [follow_up here, ih]
    | absent here plain absent there => rw [follow_absent here plain absent rfl, there]
    | lastLink here plain link last there =>
      subst last
      rw [follow_lastLink here plain link, there]
    | link here plain link goesOn leads _ ih => rw [follow_link here plain link goesOn leads, ih]
    | node here plain present noLink _ ih => rw [follow_node here plain present noLink, ih]

end Step

namespace Node

/-- An entry of a directory that is kept is an entry of its kind. -/
theorem Keeps.entry {old new : Node} (keeps : old.Keeps new) {location : Location} {before after : List (String × Node)}
    {name : String} {node : Node} (was : old.get? location = some (.directory before))
    (is : new.get? location = some (.directory after)) (present : entry? name before = some node) :
    ∃ other, entry? name after = some other ∧ other.kind = node.kind := by
  rw [← get?_snoc was] at present
  have kept := keeps (location ++ [name]) node present
  rw [get?_snoc is] at kept
  exact Option.map_eq_some_iff.mp kept

theorem eq_link_of_kind {node : Node} {target : String} (same : node.kind = .link target) : node = .link target := by
  cases node with
  | link _ => cases same; rfl
  | file _ => cases same
  | directory _ => cases same

theorem ne_link_of_kind {node other : Node} (same : other.kind = node.kind) (noLink : ∀ target, node ≠ .link target)
    (target : String) : other ≠ .link target := by
  intro link
  subst link
  exact noLink target (eq_link_of_kind same.symm)

end Node

/-! ## A whole path -/

/-- A path leads to the same node in a tree that keeps all nodes. -/
theorem follow_keeps {old new : Node} (keeps : old.Keeps new) {followLast : Bool} {links : Nat} {location : Location}
    {pending : List String} {target : Location}
    (found : follow old followLast links location pending = .ok (.present target)) :
    follow new followLast links location pending = .ok (.present target) := by
  rw [follow_eq_ok_iff] at found ⊢
  induction found with
  | arrived there => exact .arrived there
  | stay was _ ih =>
    obtain ⟨after, is⟩ := keeps.directory was
    exact .stay is ih
  | up was _ ih =>
    obtain ⟨after, is⟩ := keeps.directory was
    exact .up is ih
  | absent _ _ _ there => cases there
  | lastLink was plain link last there =>
    obtain ⟨after, is⟩ := keeps.directory was
    obtain ⟨other, present, same⟩ := keeps.entry was is link
    obtain rfl := Node.eq_link_of_kind same
    exact .lastLink is plain present last there
  | link was plain link goesOn leads _ ih =>
    obtain ⟨after, is⟩ := keeps.directory was
    obtain ⟨other, present, same⟩ := keeps.entry was is link
    obtain rfl := Node.eq_link_of_kind same
    exact .link is plain present goesOn leads ih
  | node was plain present noLink _ ih =>
    obtain ⟨after, is⟩ := keeps.directory was
    obtain ⟨other, present, same⟩ := keeps.entry was is present
    exact .node is plain present (Node.ne_link_of_kind same noLink) ih

/-- A link that is not the last step is followed in any case. -/
theorem goesOn_of_asks {first last : Bool} {rest : List String} (asks : first = true → last = true)
    (goesOn : ¬ (rest.isEmpty = true ∧ (!first) = true)) : ¬ (rest.isEmpty = true ∧ (!last) = true) := by
  cases first with
  | true => simp [asks rfl]
  | false =>
    rintro ⟨empty, -⟩
    exact goesOn ⟨empty, rfl⟩

/-- Steps that lead nowhere lead to where the last of them does, in every tree that keeps the other nodes. -/
theorem follows_of_absent {old new : Node} (keeps : old.Keeps new) {first last : Bool} (asks : first = true → last = true)
    {links : Nat} {location : Location} {pending : List String} {directory : Location} {name : String} {place : Place}
    (ends : ∀ links entries, new.get? directory = some (.directory entries) → IsName name →
      Follows new last place links directory [name])
    (free : Follows old first (.absent directory name) links location pending) :
    Follows new last place links location pending := by
  induction free with
  | arrived there => cases there
  | stay was _ ih =>
    obtain ⟨after, is⟩ := keeps.directory was
    exact .stay is ih
  | up was _ ih =>
    obtain ⟨after, is⟩ := keeps.directory was
    exact .up is ih
  | absent was plain _ there =>
    cases there
    obtain ⟨after, is⟩ := keeps.directory was
    exact ends _ after is plain
  | lastLink _ _ _ _ there => cases there
  | link was plain link goesOn leads _ ih =>
    obtain ⟨after, is⟩ := keeps.directory was
    obtain ⟨other, present, same⟩ := keeps.entry was is link
    obtain rfl := Node.eq_link_of_kind same
    exact .link is plain present (goesOn_of_asks asks goesOn) leads ih
  | node was plain present noLink _ ih =>
    obtain ⟨after, is⟩ := keeps.directory was
    obtain ⟨other, present, same⟩ := keeps.entry was is present
    exact .node is plain present (Node.ne_link_of_kind same noLink) ih

/-- A path that leads nowhere leads to the node that is made there, in every tree that keeps the other nodes. -/
theorem follow_made {old new : Node} (keeps : old.Keeps new) {first last : Bool} (asks : first = true → last = true)
    {links : Nat} {location : Location} {pending : List String} {directory : Location} {name : String} {node : Node}
    (made : new.get? (directory ++ [name]) = some node) (noLink : ∀ target, node ≠ .link target)
    (free : follow old first links location pending = .ok (.absent directory name)) :
    follow new last links location pending = .ok (.present (directory ++ [name])) := by
  rw [follow_eq_ok_iff] at free ⊢
  refine follows_of_absent keeps asks ?_ free
  intro links entries is plain
  rw [Node.get?_snoc is] at made
  exact .node is plain made noLink (.arrived rfl)

/-- A path that leads nowhere leads nowhere in every tree that keeps the other nodes and has nothing there either. -/
theorem follow_stillFree {old new : Node} (keeps : old.Keeps new) {first last : Bool} (asks : first = true → last = true)
    {links : Nat} {location : Location} {pending : List String} {directory : Location} {name : String}
    (nothing : new.get? (directory ++ [name]) = none)
    (free : follow old first links location pending = .ok (.absent directory name)) :
    follow new last links location pending = .ok (.absent directory name) := by
  rw [follow_eq_ok_iff] at free ⊢
  refine follows_of_absent keeps asks ?_ free
  intro links entries is plain
  rw [Node.get?_snoc is] at nothing
  exact .absent is plain nothing rfl

/-- Further steps after a path that leads to a directory start from that directory. -/
theorem follow_append {root : Node} {followLast : Bool} {links : Nat} {location : Location} {pending : List String}
    {target : Location} {inside : List (String × Node)} (there : root.get? target = some (.directory inside))
    (found : follow root followLast links location pending = .ok (.present target)) (more : List String) :
    ∃ left, follow root followLast links location (pending ++ more) = follow root followLast left target more := by
  rw [follow_eq_ok_iff] at found
  induction found with
  | @arrived links _ ends =>
    cases ends
    exact ⟨links, rfl⟩
  | stay here _ ih =>
    rw [List.cons_append, follow_stay here]
    exact ih
  | up here _ ih =>
    rw [List.cons_append, follow_up here]
    exact ih
  | absent _ _ _ ends => cases ends
  | lastLink here _ link _ ends =>
    cases ends
    rw [Node.get?_snoc here, link] at there
    cases there
  | @link _ _ _ _ _ rest here plain link goesOn leads _ ih =>
    have further : ¬ ((rest ++ more).isEmpty = true ∧ (!followLast) = true) := by
      rintro ⟨empty, last⟩
      have nothing := (List.append_eq_nil_iff.mp (List.isEmpty_iff.mp empty)).1
      exact goesOn ⟨List.isEmpty_iff.mpr nothing, last⟩
    rw [List.cons_append, follow_link here plain link further leads, ← List.append_assoc]
    exact ih
  | node here plain present noLink _ ih =>
    rw [List.cons_append, follow_node here plain present noLink]
    exact ih

/-- A name that a path does not lead to is a free name in a directory. -/
theorem follow_free {root : Node} {followLast : Bool} {links : Nat} {location : Location} {pending : List String}
    {directory : Location} {name : String}
    (free : follow root followLast links location pending = .ok (.absent directory name)) :
    ∃ entries, root.get? directory = some (.directory entries) ∧ entry? name entries = none := by
  rw [follow_eq_ok_iff] at free
  induction free with
  | arrived there => cases there
  | stay _ _ ih => exact ih
  | up _ _ ih => exact ih
  | absent here _ absent there =>
    cases there
    exact ⟨_, here, absent⟩
  | lastLink _ _ _ _ there => cases there
  | link _ _ _ _ _ _ ih => exact ih
  | node _ _ _ _ _ ih => exact ih

/-- A path that leads to a free name by its last step leads to the directory of that name without the step. -/
theorem follow_parent {root : Node} {links : Nat} {location : Location} {way : List String} {last : String}
    (moves : last ≠ "." ∧ last ≠ "..") {directory : Location} {name : String}
    (free : follow root false links location (way ++ [last]) = .ok (.absent directory name)) :
    name = last ∧ follow root true links location (way ++ ["."]) = .ok (.present directory) := by
  rw [follow_eq_ok_iff] at free ⊢
  generalize whole : way ++ [last] = pending at free
  induction free generalizing way with
  | arrived there => cases there
  | stay here _ ih =>
    cases way with
    | nil => exact absurd (List.cons.inj whole).1 moves.1
    | cons step way =>
      obtain ⟨rfl, same⟩ := List.cons.inj whole
      obtain ⟨named, further⟩ := ih same
      exact ⟨named, .stay here further⟩
  | up here _ ih =>
    cases way with
    | nil => exact absurd (List.cons.inj whole).1 moves.2
    | cons step way =>
      obtain ⟨rfl, same⟩ := List.cons.inj whole
      obtain ⟨named, further⟩ := ih same
      exact ⟨named, .up here further⟩
  | absent here _ _ there =>
    cases there
    cases way with
    | nil => exact ⟨(List.cons.inj whole).1.symm, .stay here (.arrived rfl)⟩
    | cons step way => simp at whole
  | lastLink _ _ _ _ there => cases there
  | @link links location _ _ target rest here plain link goesOn leads _ ih =>
    cases way with
    | nil =>
      obtain ⟨-, rfl⟩ := List.cons.inj whole
      exact absurd ⟨rfl, rfl⟩ goesOn
    | cons step way =>
      obtain ⟨rfl, same⟩ := List.cons.inj whole
      obtain ⟨named, further⟩ := ih ((List.append_assoc _ _ _).trans (congrArg (steps target ++ ·) same))
      rw [List.append_assoc] at further
      exact ⟨named, .link here plain link (by simp) leads further⟩
  | node here plain present noLink further ih =>
    cases way with
    | nil =>
      obtain ⟨-, rfl⟩ := List.cons.inj whole
      cases further with
      | arrived there => cases there
    | cons step way =>
      obtain ⟨rfl, same⟩ := List.cons.inj whole
      obtain ⟨named, further⟩ := ih same
      exact ⟨named, .node here plain present noLink further⟩

theorem steps_ne_nil {path : String} (nonempty : path ≠ "") : steps path ≠ [] := by
  intro none
  obtain ⟨parts, last⟩ := List.append_eq_nil_iff.mp none
  have empty : ∀ part ∈ Text.splitAt '/' path.toList, part = [] := by
    intro part member
    by_cases full : part = []
    · exact full
    · have kept : String.ofList part ∈ components path :=
        List.mem_map.mpr ⟨part, List.mem_filter.mpr ⟨member, by simpa using full⟩, rfl⟩
      rw [parts] at kept
      cases kept
  have slashes := Text.eq_of_splitAt_empty empty
  have text : path.toList ≠ [] := fun none => nonempty (String.toList_eq_nil_iff.mp none)
  have slash := slashes _ (List.getLast_mem text)
  rw [List.getLast?_eq_some_getLast text, slash] at last
  simp at last

/-- A path with a step leads to a node, and to no link if the last link is followed. -/
theorem follow_node_exists {root : Node} {links : Nat} {location : Location} {pending : List String} {target : Location}
    (start : pending = [] → ∃ node, root.get? location = some node ∧ ∀ path, node ≠ .link path)
    (found : follow root true links location pending = .ok (.present target)) :
    ∃ node, root.get? target = some node ∧ ∀ path, node ≠ .link path := by
  rw [follow_eq_ok_iff] at found
  induction found with
  | arrived there => cases there; exact start rfl
  | stay here _ ih => exact ih fun _ => ⟨_, here, by rintro _ ⟨⟩⟩
  | @up links location _ _ here _ ih =>
    refine ih fun _ => ?_
    rcases List.eq_nil_or_concat location with rfl | ⟨above, name, rfl⟩
    · exact ⟨_, here, by rintro _ ⟨⟩⟩
    · rw [List.concat_eq_append] at here ⊢
      rw [List.dropLast_concat]
      rw [Node.get?_append] at here
      obtain ⟨node, there, below⟩ := Option.bind_eq_some_iff.mp here
      refine ⟨node, there, ?_⟩
      rintro path rfl
      simp [Node.get?_cons, Node.entries, entry?] at below
  | absent _ _ _ there => cases there
  | lastLink _ _ _ last => cases last
  | @link _ _ _ _ target _ _ _ _ _ leads _ ih =>
    refine ih fun none => ?_
    have leads : target ≠ "" := fun empty => leads (by simp [empty])
    exact absurd (List.append_eq_nil_iff.mp none).1 (steps_ne_nil leads)
  | node here _ present noLink _ ih => exact ih fun _ => ⟨_, (Node.get?_snoc here _).trans present, noLink⟩

namespace Disk

theorem checked_eq_ok {α : Type} {path : String} {act : Except Cause α} {a : α} :
    checked path act = .ok a ↔ path.toList.contains '\x00' = false ∧ act = .ok a := by
  unfold checked
  cases path.toList.contains '\x00' with
  | true => simp
  | false => cases act with
    | ok b => simp
    | error cause => simp

/-- A disk that has all the nodes of another one, each of its kind, and the same working directory. -/
structure Keeps (old new : Disk) : Prop where
  working : new.working = old.working
  root : old.root.Keeps new.root

theorem Keeps.refl (d : Disk) : d.Keeps d := ⟨rfl, Node.Keeps.refl d.root⟩

theorem Keeps.trans {a b c : Disk} (ab : a.Keeps b) (bc : b.Keeps c) : a.Keeps c :=
  ⟨bc.working.trans ab.working, ab.root.trans bc.root⟩

theorem resolve_keeps {old new : Disk} (keeps : old.Keeps new) {followLast : Bool} {path : String} {target : Location}
    (found : old.resolve followLast path = .ok (.present target)) :
    new.resolve followLast path = .ok (.present target) := by
  unfold resolve at found ⊢
  split at found
  · cases found
  · rename_i nonempty
    split at found
    · cases found
    · rename_i short
      rw [if_neg nonempty, if_neg short, keeps.working]
      exact follow_keeps keeps.root found

theorem resolve_made {old new : Disk} (keeps : old.Keeps new) {first last : Bool} (asks : first = true → last = true)
    {path : String} {directory : Location} {name : String} {node : Node}
    (made : new.root.get? (directory ++ [name]) = some node) (noLink : ∀ target, node ≠ .link target)
    (free : old.resolve first path = .ok (.absent directory name)) :
    new.resolve last path = .ok (.present (directory ++ [name])) := by
  unfold resolve at free ⊢
  split at free
  · cases free
  · rename_i nonempty
    split at free
    · cases free
    · rename_i short
      rw [if_neg nonempty, if_neg short, keeps.working]
      exact follow_made keeps.root asks made noLink free

theorem resolve_stillFree {old new : Disk} (keeps : old.Keeps new) {first last : Bool}
    (asks : first = true → last = true) {path : String} {directory : Location} {name : String}
    (nothing : new.root.get? (directory ++ [name]) = none)
    (free : old.resolve first path = .ok (.absent directory name)) :
    new.resolve last path = .ok (.absent directory name) := by
  unfold resolve at free ⊢
  split at free
  · cases free
  · rename_i nonempty
    split at free
    · cases free
    · rename_i short
      rw [if_neg nonempty, if_neg short, keeps.working]
      exact follow_stillFree keeps.root asks nothing free

theorem resolve_free {d : Disk} {followLast : Bool} {path : String} {directory : Location} {name : String}
    (free : d.resolve followLast path = .ok (.absent directory name)) :
    ∃ entries, d.root.get? directory = some (.directory entries) ∧ entry? name entries = none := by
  unfold resolve at free
  split at free
  · cases free
  · split at free
    · cases free
    · exact follow_free free

theorem resolve_exists {d : Disk} {path : String} {target : Location}
    (found : d.resolve true path = .ok (.present target)) :
    ∃ node, d.root.get? target = some node ∧ ∀ other, node ≠ .link other := by
  unfold resolve at found
  split at found
  · cases found
  · rename_i nonempty
    split at found
    · cases found
    · have nonempty : path ≠ "" := fun empty => nonempty (by simp [empty])
      exact follow_node_exists (fun none => absurd none (steps_ne_nil nonempty)) found

/-- The path of the root directory leads to it. -/
theorem resolve_root {d : Disk} {entries : List (String × Node)} (root : d.root = .directory entries) :
    d.resolve true "/" = .ok (.present []) := by
  have way : steps "/" = ["."] := by decide
  rw [Disk.resolve, if_neg (by decide), if_neg (by decide), if_pos (by decide), way,
    follow_stay (by rw [root]; rfl : d.root.get? [] = some (.directory entries)), follow_nil]

/-! ## Files that a path leads to -/

/-- A path leads to a file at a location. -/
structure Leads (d : Disk) (path : String) (location : Location) : Prop where
  plain : path.toList.contains '\x00' = false
  resolved : d.resolve true path = .ok (.present location)

theorem Leads.keeps {old new : Disk} {path : String} {location : Location} (leads : old.Leads path location)
    (keeps : old.Keeps new) : new.Leads path location :=
  ⟨leads.plain, resolve_keeps keeps leads.resolved⟩

theorem node?_of_leads {d : Disk} {path : String} {location : Location} {node : Node} (leads : d.Leads path location)
    (there : d.root.get? location = some node) : d.node? path = .ok node := by
  refine checked_eq_ok.mpr ⟨leads.plain, ?_⟩
  rw [leads.resolved]
  simp only [bind, Except.bind, there]

theorem contents_of_leads {d : Disk} {path : String} {location : Location} {content : List UInt8}
    (leads : d.Leads path location) (file : d.root.get? location = some (.file content)) :
    d.contents path = .ok content := by
  unfold contents
  rw [node?_of_leads leads file]
  rfl

/-- A path under which there is content leads to a file. -/
theorem leads_of_contents {d : Disk} {path : String} {content : List UInt8} (held : d.contents path = .ok content) :
    ∃ location, d.Leads path location ∧ d.root.get? location = some (.file content) := by
  have node : d.node? path = .ok (.file content) := by
    unfold contents at held
    cases found : d.node? path with
    | error fault => simp [found, bind, Except.bind] at held
    | ok node => cases node <;> simp_all [bind, Except.bind]
  obtain ⟨plain, act⟩ := checked_eq_ok.mp node
  cases resolved : d.resolve true path with
  | error cause => simp [resolved, bind, Except.bind] at act
  | ok place => cases place with
    | absent parent name => simp [resolved, bind, Except.bind] at act
    | present location =>
      cases there : d.root.get? location with
      | none => simp [resolved, there, bind, Except.bind] at act
      | some other =>
        simp only [resolved, there, bind, Except.bind, Except.ok.injEq] at act
        exact ⟨location, ⟨plain, resolved⟩, by rw [← act]; exact there⟩

/-- Putting a file where a name is free keeps all nodes. -/
theorem keeps_put_free {d : Disk} {directory : Location} {name : String} {entries : List (String × Node)}
    (here : d.root.get? directory = some (.directory entries)) (free : entry? name entries = none)
    (new : Node) : d.Keeps (d.put (directory ++ [name]) new) := by
  have nothing : d.root.get? (directory ++ [name]) = none := (Node.get?_snoc here name).trans free
  refine ⟨rfl, Node.keeps_put ?_ ?_⟩
  · intro node found
    rw [nothing] at found
    cases found
  · intro below node found
    rw [Node.get?_append, nothing] at found
    cases found

/-- Putting a file in the place of a file keeps all nodes. -/
theorem keeps_put_file {d : Disk} {location : Location} {old : List UInt8}
    (file : d.root.get? location = some (.file old)) (new : List UInt8) :
    d.Keeps (d.put location (.file new)) := by
  refine ⟨rfl, Node.keeps_put ?_ ?_⟩
  · intro node found
    rw [file] at found
    cases found
    rw [Node.get?_put_present file]
    rfl
  · intro below node found
    exact Node.eq_nil_of_get?_file file found

/-- What making a file does: the file is new, empty, and found under its path. -/
structure Made (old : Disk) (path : String) (new : Disk) (location : Location) : Prop where
  keeps : old.Keeps new
  fresh : old.root.get? location = none
  file : new.root.get? location = some (.file [])
  leads : new.Leads path location
  others : ∀ other content, old.root.get? other = some (.file content) → new.root.get? other = some (.file content)

/-- A file that is made is put where its path leads to nothing. -/
theorem make_eq_ok {old new : Disk} {path : String} {location : Location} (made : old.make path = .ok (new, location)) :
    path.toList.contains '\x00' = false ∧ ∃ directory name,
      old.resolve false path = .ok (.absent directory name) ∧ location = directory ++ [name] ∧
        new = old.put location (.file []) := by
  obtain ⟨plain, act⟩ := checked_eq_ok.mp made
  refine ⟨plain, ?_⟩
  split at act
  · cases resolved : old.resolve true (directoryOf (withoutEndSlashes path)) with
    | error cause => simp [resolved, bind, Except.bind] at act
    | ok place => simp [resolved, bind, Except.bind] at act
  · cases resolved : old.resolve false path with
    | error cause => simp [resolved, bind, Except.bind] at act
    | ok place => cases place with
      | present there => simp [resolved, bind, Except.bind] at act
      | absent directory name =>
        simp only [resolved, bind, Except.bind, Except.ok.injEq, Prod.mk.injEq] at act
        obtain ⟨rfl, rfl⟩ := act
        exact ⟨directory, name, rfl, rfl, rfl⟩

theorem make_made {old new : Disk} {path : String} {location : Location} (made : old.make path = .ok (new, location)) :
    old.Made path new location := by
  obtain ⟨plain, directory, name, resolved, rfl, rfl⟩ := make_eq_ok made
  obtain ⟨entries, here, free⟩ := resolve_free resolved
  have keeps := keeps_put_free here free (.file [])
  have file := Node.get?_put_self here name (.file [])
  have fresh : old.root.get? (directory ++ [name]) = none := (Node.get?_snoc here name).trans free
  refine ⟨keeps, fresh, file, ⟨plain, resolve_made keeps (by simp) file (by simp) resolved⟩, ?_⟩
  intro other content found
  refine Node.get?_put_file _ _ ?_ found
  rintro ⟨below, rfl⟩
  rw [Node.get?_append, fresh] at found
  cases found

/-- A file that was written is read back. -/
theorem contents_store {old new : Disk} {path : String} {content : List UInt8}
    (stored : old.store path content = .ok new) : new.contents path = .ok content := by
  obtain ⟨plain, act⟩ := checked_eq_ok.mp stored
  split at act
  · cases resolved : old.resolve true (directoryOf (withoutEndSlashes path)) with
    | error cause => simp [resolved, bind, Except.bind] at act
    | ok place => simp [resolved, bind, Except.bind] at act
  · cases resolved : old.resolve true path with
    | error cause => simp [resolved, bind, Except.bind] at act
    | ok place => cases place with
      | absent directory name =>
        simp only [resolved, bind, Except.bind, Except.ok.injEq] at act
        subst act
        obtain ⟨entries, here, free⟩ := resolve_free resolved
        have keeps := keeps_put_free here free (.file content)
        have file := Node.get?_put_self here name (.file content)
        exact contents_of_leads ⟨plain, resolve_made keeps (by simp) file (by simp) resolved⟩ file
      | present location =>
        obtain ⟨node, found, noLink⟩ := resolve_exists resolved
        cases node with
        | directory entries => simp [resolved, bind, Except.bind, found] at act
        | link target => exact absurd rfl (noLink target)
        | file before =>
          simp only [resolved, bind, Except.bind, found, Except.ok.injEq] at act
          subst act
          have keeps := keeps_put_file found content
          exact contents_of_leads ⟨plain, resolve_keeps keeps resolved⟩ (Node.get?_put_present found _)

/-- What writing over an empty file does. -/
theorem overwrite_empty {d : Disk} {location : Location} (empty : d.root.get? location = some (.file []))
    (bytes : List UInt8) : d.overwrite location bytes = d.put location (.file bytes) := by
  simp [overwrite, empty]

end Disk

end GlobalSurvey.Files
