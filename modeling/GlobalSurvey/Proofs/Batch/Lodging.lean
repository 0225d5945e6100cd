import GlobalSurvey.Proofs.Batch.Launch
import GlobalSurvey.Proofs.Files.Frame

/-!
# The directory of the sinks

While a batch has a directory for its sinks, this directory is all that the batch has changed on the disk, but for the
directories above it (`Lodged`). The files of the sinks are in it, each under a name of its own, and so are the lines that
reach them (`Lodged.flush`); so the disk is as it was as soon as the directory is removed (`Lodged.close`).
-/
namespace GlobalSurvey.Report

/-! ## Names of sinks -/

theorem repr_whole (n : Nat) : '/' ∉ n.repr.toList := by
  intro member
  rw [Nat.toList_repr] at member
  have digit := Nat.isDigit_of_mem_toDigits (by decide) (by decide) member
  exact absurd digit (by decide)

theorem toString_whole (i : Int) : '/' ∉ (toString i).toList := by
  rw [Int.toString_eq_repr, Int.repr_eq_if]
  split
  · exact repr_whole _
  · rw [String.toList_append]
    exact fun member => (List.mem_append.mp member).elim (by decide) (repr_whole _)

/-- The name of a sink is a plain name if there is no slash in the text that all names start with. -/
theorem isEntryName_sinkName {stem : String} (whole : '/' ∉ stem.toList) (shard : Int) :
    Files.IsEntryName (sinkName stem shard) := by
  have text : (sinkName stem shard).toList = (stem.toList ++ (toString shard).toList) ++ ".txt".toList := by
    simp only [sinkName, String.toList_append]
  have long : 4 ≤ (sinkName stem shard).toList.length := by
    rw [text, List.length_append]
    exact Nat.le_add_left 4 _
  have other {short : String} (less : short.toList.length < 4) : sinkName stem shard ≠ short := by
    rintro rfl
    omega
  refine ⟨?_, other (by decide), other (by decide), other (by decide)⟩
  have own := toString_whole shard
  rw [text, List.mem_append, List.mem_append, not_or, not_or]
  exact ⟨⟨whole, own⟩, by decide⟩

/-- Different shards have sinks with different names. -/
theorem sinkName_inj {stem : String} {i j : Int} (hi : 0 ≤ i) (hj : 0 ≤ j) (same : sinkName stem i = sinkName stem j) :
    i = j := by
  unfold sinkName at same
  rw [String.append_left_inj, String.append_right_inj, Int.toString_eq_repr, Int.toString_eq_repr, Int.repr_eq_if,
    Int.repr_eq_if, if_pos hi, if_pos hj] at same
  have digits : Nat.toDigits 10 i.toNat = Nat.toDigits 10 j.toNat := by
    rw [← Nat.toList_repr, ← Nat.toList_repr, same]
  have number := congrArg (Nat.ofDigitChars 10 · 0) digits
  simp only [Nat.ofDigitChars_ten_toDigits] at number
  omega

/-- The lines are in memory, or in a file of the directory at a location. -/
def Store.IsIn (home : Files.Location) : Store → Prop
  | .memory => True
  | .file _ location => ∃ name, location = home ++ [name]

end GlobalSurvey.Report

namespace GlobalSurvey.Batch
open GlobalSurvey.Files GlobalSurvey.Report

/-! ## Opening the directory -/

namespace Request

/-- A path to the directory that is asked for, or one above it. -/
def IsAbove (r : Request) (head : String) : Prop :=
  ∃ directory, r.shardDirectory = some directory ∧ directory ≠ "" ∧ IsHead directory head

/-- What opening the directory of the sinks comes to, on a disk with the directories above it. -/
inductive Opened (base : Disk) : Disk × Except FileFault (Option String) → Prop
  | memory : Opened base (base, .ok none)
  | directory {path : String} {home : Location} (vacancy : base.Vacancy path home) :
      Opened base (base.put home (.directory []), .ok (some path))
  | fault (fault : FileFault) : Opened base (base, .error fault)

/-- The last step of opening the directory: a fresh directory is made, or the system refuses it. -/
theorem opened_of_fresh (base : Disk) (parent : String) {result : Disk × Except FileFault (Option String)}
    (done : ∀ after path, base.makeFreshDirectory parent directoryStem = .ok (after, path) →
      result = (after, .ok (some path)))
    (failed : ∀ fault, base.makeFreshDirectory parent directoryStem = .error fault → result = (base, .error fault)) :
    Opened base result := by
  cases made : base.makeFreshDirectory parent directoryStem with
  | ok own =>
    obtain ⟨home, vacancy, same⟩ := Disk.vacancy_of_makeFresh made
    rw [done own.1 own.2 made, same]
    exact .directory vacancy
  | error fault =>
    rw [failed fault made]
    exact .fault fault

theorem opened_openDirectory (r : Request) (d : Disk) (open_ : Location → Prop) :
    ∃ base, d.Changes r.IsAbove open_ base ∧ Opened base (r.openDirectory d) := by
  unfold openDirectory
  cases r.inMemorySinks with
  | true => exact ⟨d, .refl d, .memory⟩
  | false =>
    simp only [Bool.false_eq_true, if_false]
    by_cases own : (r.shardDirectory.getD "").isEmpty = true
    · simp only [own, if_true]
      refine ⟨d, .refl d, opened_of_fresh d (r.shardDirectory.getD (pathOf d.temporary)) ?_ ?_⟩
      · intro after path made
        simp only [made]
      · intro fault made
        simp only [made]
    · obtain ⟨directory, asked⟩ : ∃ directory, r.shardDirectory = some directory := by
        cases asked : r.shardDirectory with
        | none => simp [asked] at own
        | some directory => exact ⟨directory, rfl⟩
      rw [asked, Option.getD_some] at own ⊢
      have above : d.Changes r.IsAbove open_ (d.makePath directory).1 := by
        refine (Disk.changes_makePath d directory open_).mono ?_ fun _ inside => inside
        exact fun head inside => ⟨directory, asked, fun empty => own (by simp [empty]), inside⟩
      simp only [if_neg own, Option.getD_some]
      rcases made : d.makePath directory with ⟨base, outcome⟩
      rw [made] at above
      refine ⟨base, above, ?_⟩
      cases outcome with
      | none =>
        refine opened_of_fresh base directory ?_ ?_
        · intro after path made
          simp only [made]
        · intro fault made
          simp only [made]
      | some fault => exact .fault fault

end Request

/-! ## The files of the sinks -/

section
variable {r : Request} {base : Disk} {path : String} {home : Location}

/-- A sink is made in the directory under a name that the system takes. -/
theorem Request.newSink_entry (vacancy : base.Vacancy path home) {entries : List (String × Node)} {shard : Shard}
    {name : String} (own : sinkName r.shardStem shard.index = name) (new : r.givenSink shard = none)
    (plain : IsEntryName name) (free : entry? name entries = none)
    (clear : (joinPath path name).toList.contains '\x00' = false)
    (short : ¬ (pathLimit ≤ (joinPath path name).utf8ByteSize ∨ nameLimit < name.utf8ByteSize)) :
    r.newSink (some path) (base.put home (.directory entries)) shard =
      .ok (base.put home (.directory (setEntry name (.file []) entries)),
        { name := displayName (joinPath path name), store := .file (joinPath path name) (home ++ [name])
          closingFault := r.closingFault shard }) := by
  have made := vacancy.make_below plain free
  rw [clear, if_neg Bool.false_ne_true, if_neg short] at made
  unfold newSink Sink.inFile
  simp only [own, new, made]

/-- A sink with a new name is made in the directory, which keeps its other entries, unless the system refuses the name. -/
theorem Request.newSink_below (given : r.GivesNewSinks) (whole : '/' ∉ r.shardStem.toList)
    (vacancy : base.Vacancy path home) {entries : List (String × Node)} {shard : Shard}
    (free : entry? (sinkName r.shardStem shard.index) entries = none) :
    (∃ others sink, r.newSink (some path) (base.put home (.directory entries)) shard =
        .ok (base.put home (.directory others), sink) ∧ sink.store.IsIn home ∧
        ∀ name, name ≠ sinkName r.shardStem shard.index → entry? name others = entry? name entries) ∨
      ∃ fault, r.newSink (some path) (base.put home (.directory entries)) shard = .error fault ∧
        ∀ name, fault ≠ .refused .alreadyExists name := by
  unfold newSink
  cases own : r.givenSink shard with
  | some sink =>
    refine .inl ⟨entries, sink, rfl, ?_, fun _ _ => rfl⟩
    rw [(given shard sink own).2]
    trivial
  | none =>
    simp only [Sink.inFile, vacancy.make_below (isEntryName_sinkName whole shard.index) free]
    by_cases null : (joinPath path (sinkName r.shardStem shard.index)).toList.contains '\x00' = true
    · simp only [if_pos null]
      exact .inr ⟨_, rfl, by simp⟩
    · by_cases long : pathLimit ≤ (joinPath path (sinkName r.shardStem shard.index)).utf8ByteSize ∨
          nameLimit < (sinkName r.shardStem shard.index).utf8ByteSize
      · simp only [if_neg null, if_pos long]
        exact .inr ⟨_, rfl, by simp⟩
      · simp only [if_neg null, if_neg long]
        exact .inl ⟨_, _, rfl, ⟨_, rfl⟩, fun name different => lookup_setEntry_of_ne different _ _⟩

/-- What making sinks in the directory comes to: all of it is in the directory, and no name was taken. -/
inductive Request.Furnished (base : Disk) (home : Location) : Disk × Except FileFault (List Sink) → Prop
  | sinks (entries : List (String × Node)) {sinks : List Sink} (inside : ∀ s ∈ sinks, s.store.IsIn home) :
      Furnished base home (base.put home (.directory entries), .ok sinks)
  | fault (entries : List (String × Node)) {fault : FileFault}
      (free : ∀ name, fault ≠ .refused .alreadyExists name) :
      Furnished base home (base.put home (.directory entries), .error fault)

/-- Sinks of different shards are made in the directory under names of their own. -/
theorem Request.furnished_newSinks (given : r.GivesNewSinks) (whole : '/' ∉ r.shardStem.toList)
    (vacancy : base.Vacancy path home) {entries : List (String × Node)} {shards : List Shard}
    (different : (shards.map (·.index)).Nodup) (counted : ∀ shard ∈ shards, 0 ≤ shard.index)
    (free : ∀ shard ∈ shards, entry? (sinkName r.shardStem shard.index) entries = none) :
    Furnished base home (r.newSinks (some path) (base.put home (.directory entries)) shards) := by
  induction shards generalizing entries with
  | nil => exact .sinks entries fun s member => by cases member
  | cons shard rest ih =>
    rw [List.map_cons, List.nodup_cons] at different
    have rest_counted := fun s member => counted s (List.mem_cons_of_mem shard member)
    rcases newSink_below given whole vacancy (free shard List.mem_cons_self) with
      ⟨others, sink, first, own, same⟩ | ⟨fault, first, other⟩
    · have still : ∀ s ∈ rest, entry? (sinkName r.shardStem s.index) others = none := by
        intro s member
        rw [same, free s (List.mem_cons_of_mem shard member)]
        intro name
        have index := sinkName_inj (rest_counted s member) (counted shard List.mem_cons_self) name
        exact different.1 (index ▸ List.mem_map_of_mem member)
      have later := ih different.2 rest_counted still
      simp only [newSinks, first]
      generalize r.newSinks (some path) (base.put home (.directory others)) rest = made at later ⊢
      cases later with
      | sinks entries inside =>
        refine .sinks entries ?_
        intro s member
        rcases List.mem_cons.mp member with rfl | before
        · exact own
        · exact inside s before
      | fault entries free => exact .fault entries free
    · simp only [newSinks, first]
      exact .fault entries other

/-- Sinks in memory change nothing. -/
theorem Request.newSinks_memory (given : r.GivesNewSinks) (d : Disk) (shards : List Shard) :
    ∃ sinks, r.newSinks none d shards = (d, .ok sinks) ∧ ∀ s ∈ sinks, s.store = .memory := by
  induction shards with
  | nil => exact ⟨[], rfl, fun s member => by cases member⟩
  | cons shard rest ih =>
    obtain ⟨sinks, made, memory⟩ := ih
    obtain ⟨sink, first, own⟩ : ∃ sink, r.newSink none d shard = .ok (d, sink) ∧ sink.store = .memory := by
      unfold newSink
      cases place : r.givenSink shard with
      | some sink => exact ⟨sink, rfl, (given shard sink place).2⟩
      | none => exact ⟨_, rfl, rfl⟩
    refine ⟨sink :: sinks, by simp only [newSinks, first, made], ?_⟩
    intro s member
    rcases List.mem_cons.mp member with rfl | later
    · exact own
    · exact memory s later

/-! ## The disk while the directory is there -/

/-- A disk with places for the lines of sinks: nothing but the directory of the sinks is there besides what was there. -/
inductive Lodged (base : Disk) : Option String → List Store → Disk → Prop
  | memory {stores : List Store} (all : ∀ store ∈ stores, store = .memory) : Lodged base none stores base
  | directory {path : String} {home : Location} {stores : List Store} (entries : List (String × Node))
      (vacancy : base.Vacancy path home) (inside : ∀ store ∈ stores, store.IsIn home) :
      Lodged base (some path) stores (base.put home (.directory entries))

namespace Lodged

variable {directory : Option String} {stores : List Store} {d : Disk}

/-- The content under a path stays while the directory is there. -/
theorem contents (lodged : Lodged base directory stores d) {path : String} {content : List UInt8}
    (held : base.contents path = .ok content) : d.contents path = .ok content := by
  cases lodged with
  | memory all => exact held
  | directory entries vacancy inside =>
    rename_i home
    obtain ⟨nothing, keeps, -⟩ := vacancy.keeps (.directory entries)
    obtain ⟨location, leads, file⟩ := Disk.leads_of_contents held
    have apart : ¬ home <+: location := by
      rintro ⟨below, rfl⟩
      rw [Node.get?_append, nothing] at file
      cases file
    have same := base.face?_put_elsewhere (.directory entries) apart
    exact Disk.contents_of_leads (leads.keeps keeps) (Disk.face?_file.mp (same.trans (Disk.face?_file.mpr file)))

/-- Lines that reach their places stay in the directory. -/
theorem flushSink (lodged : Lodged base directory stores d) {s : Sink} (member : s.store ∈ stores) :
    Lodged base directory stores (s.flush d) := by
  unfold Sink.flush
  cases place : s.store with
  | memory => exact lodged
  | file path location =>
    rw [place] at member
    cases lodged with
    | memory all => cases all _ member
    | directory entries vacancy inside =>
      obtain ⟨name, rfl⟩ := inside _ member
      obtain ⟨after, written⟩ := Disk.overwrite_below base _ entries name (Sink.lineBytes s.lines)
      simp only
      rw [written]
      exact .directory after vacancy inside

/-- Lines do not reach their places when the directory is gone. -/
theorem flushSink_gone (lodged : Lodged base directory stores d) {s : Sink} (member : s.store ∈ stores) :
    s.flush base = base := by
  unfold Sink.flush
  cases place : s.store with
  | memory => rfl
  | file path location =>
    rw [place] at member
    cases lodged with
    | memory all => cases all _ member
    | directory entries vacancy inside =>
      obtain ⟨name, rfl⟩ := inside _ member
      exact vacancy.overwrite_gone name _

theorem flush {p : Pool} (lodged : Lodged base directory (p.workers.map (·.sink.store)) d) :
    Lodged base directory (p.workers.map (·.sink.store)) (p.flush d) := by
  have each {workers : List Worker} (among : ∀ w ∈ workers, w ∈ p.workers) {d : Disk}
      (lodged : Lodged base directory (p.workers.map (·.sink.store)) d) :
      Lodged base directory (p.workers.map (·.sink.store))
        (workers.foldl (fun d w => if w.hasClosed then w.sink.flush d else d) d) := by
    induction workers generalizing d with
    | nil => exact lodged
    | cons w rest ih =>
      refine ih (fun v member => among v (List.mem_cons_of_mem w member)) ?_
      dsimp only
      split
      · exact lodged.flushSink (List.mem_map.mpr ⟨w, among w List.mem_cons_self, rfl⟩)
      · exact lodged
  exact each (fun _ member => member) lodged

theorem flush_gone {p : Pool} (lodged : Lodged base directory (p.workers.map (·.sink.store)) d) : p.flush base = base := by
  have each {workers : List Worker} (among : ∀ w ∈ workers, w ∈ p.workers) :
      workers.foldl (fun d w => if w.hasClosed then w.sink.flush d else d) base = base := by
    induction workers with
    | nil => rfl
    | cons w rest ih =>
      rw [List.foldl_cons, lodged.flushSink_gone (List.mem_map.mpr ⟨w, among w List.mem_cons_self, rfl⟩), ite_self]
      exact ih fun v member => among v (List.mem_cons_of_mem w member)
  exact each fun _ member => member

/-- Once the directory is closed the disk is as it was, or the directory is kept as it is. -/
theorem close (lodged : Lodged base directory stores d) :
    (r.closeDirectory directory d).1 = if r.keepShards then d else base := by
  cases lodged with
  | memory all => simp [Request.closeDirectory]
  | directory entries vacancy inside =>
    cases keeps : r.keepShards with
    | true => simp [Request.closeDirectory, keeps]
    | false => simp [Request.closeDirectory, keeps, vacancy.discard_put]

end Lodged

/-! ## From a request to its workers -/

variable {d between after : Disk} {directory : Option String} {units : List String} {workers : Nat}
  {shards : List Shard}

/-- The sinks of the shards of a batch are made in its directory, or the system refuses the name of one of them. None of
the names was taken. -/
theorem lodged_newSinks (given : r.GivesNewSinks) (whole : '/' ∉ r.shardStem.toList) (cut : IsCut units workers shards)
    (opened : Request.Opened base (between, .ok directory)) {outcome : Except FileFault (List Sink)}
    (made : r.newSinks directory between shards = (after, outcome)) :
    (∃ sinks, outcome = .ok sinks ∧ Lodged base directory (sinks.map (·.store)) after) ∨
      ∃ fault, outcome = .error fault ∧ (∀ name, fault ≠ .refused .alreadyExists name) ∧
        Lodged base directory [] after := by
  cases opened with
  | memory =>
    obtain ⟨sinks, same, memory⟩ := Request.newSinks_memory given base shards
    rw [made] at same
    cases same
    refine .inl ⟨sinks, rfl, .memory ?_⟩
    intro store member
    obtain ⟨s, inside, rfl⟩ := List.mem_map.mp member
    exact memory s inside
  | directory vacancy =>
    have free : ∀ shard ∈ shards, entry? (sinkName r.shardStem shard.index) [] = none := fun _ _ => rfl
    have furnished :=
      Request.furnished_newSinks given whole vacancy cut.different_indices cut.index_nonneg free
    rw [made] at furnished
    cases furnished with
    | sinks entries inside =>
      refine .inl ⟨_, rfl, .directory entries vacancy ?_⟩
      intro store member
      obtain ⟨s, there, rfl⟩ := List.mem_map.mp member
      exact inside s there
    | fault entries free =>
      exact .inr ⟨_, rfl, free, .directory entries vacancy fun _ member => (List.not_mem_nil member).elim⟩

/-- A batch that comes as far as its workers has changed nothing but the directory of its sinks and those above it. -/
theorem lodged_launch {l : Launch} (given : r.GivesNewSinks) (whole : '/' ∉ r.shardStem.toList)
    (accepted : r.check = .ok (units, workers)) (launched : r.launch d = some l) (open_ : Location → Prop) :
    ∃ base, d.Changes r.IsAbove open_ base ∧
      Lodged base l.directory (l.pool.workers.map (·.sink.store)) l.disk := by
  obtain ⟨shards, cut, slices⟩ := cut_partition units (Request.check_eq_ok accepted).2
  obtain ⟨between, sinks, opened, made, pool⟩ := exists_sinks accepted cut launched
  obtain ⟨base, changes, own⟩ := Request.opened_openDirectory r d open_
  rw [opened] at own
  obtain ⟨-, fresh⟩ := Request.newSinks_made given made
  obtain ⟨-, their, -⟩ := newWorkers fresh
  rcases lodged_newSinks given whole slices own made with ⟨_, same, lodged⟩ | ⟨fault, refused, -⟩
  · cases same
    refine ⟨base, changes, ?_⟩
    rw [pool]
    rw [← their, List.map_map] at lodged
    exact lodged
  · cases refused

/-- What can be read before a batch makes its directory and its sinks can be read afterwards. -/
theorem contents_launch {l : Launch} (given : r.GivesNewSinks) (accepted : r.check = .ok (units, workers))
    (launched : r.launch d = some l) {path : String} {content : List UInt8} (held : d.contents path = .ok content) :
    l.disk.contents path = .ok content := by
  obtain ⟨shards, cut, -⟩ := cut_partition units (Request.check_eq_ok accepted).2
  obtain ⟨between, sinks, opened, made, -⟩ := exists_sinks accepted cut launched
  obtain ⟨base, changes, own⟩ := Request.opened_openDirectory r d fun _ => False
  have before := changes.contents held fun _ _ => id
  refine (Request.newSinks_made given made).1.contents ?_
  rw [opened] at own
  generalize l.directory = directory at own
  cases own with
  | memory => exact before
  | directory vacancy => exact vacancy.contents (.directory []) before

end

end GlobalSurvey.Batch
