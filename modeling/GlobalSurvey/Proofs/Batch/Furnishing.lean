import GlobalSurvey.Proofs.Batch.GivingUp
import GlobalSurvey.Settings

/-!
# Where the files of the sinks are

The files of the sinks are all in one directory, each under a name of its own (`sinks_have_files`). It is the directory to
which the text leads that all names start with, from the fresh directory of the batch, as far as its last slash: the fresh
directory itself if there is no slash in the text, and then all that was made is in it and is gone with it.
-/
namespace GlobalSurvey.Report
open GlobalSurvey.Files

/-- The path of the directory with the files of sinks, from the path of the directory that is made for them and the text
that their names start with. -/
def sinksPath (path stem : String) : String := joinPath path (String.ofList (uptoLast '/' stem.toList))

/-- The name of a sink with a text in front, as far as its last slash and from there on. -/
theorem sinkName_parts (stem : String) (shard : Int) :
    sinkName stem shard = String.ofList (uptoLast '/' stem.toList) ++ sinkName (displayName stem) shard := by
  apply String.toList_inj.mp
  simp only [sinkName, displayName, String.toList_append, String.toList_ofList]
  rw [← List.append_assoc, ← List.append_assoc, uptoLast_append_afterLast]

theorem isEntryName_lastPart (stem : String) (shard : Int) : IsEntryName (sinkName (displayName stem) shard) := by
  refine isEntryName_sinkName ?_ shard
  rw [displayName, String.toList_ofList]
  exact not_mem_afterLast '/' stem.toList

/-- Where a path that is made of the names leads to, if there is nothing. -/
theorem resolve_sinksPath {d : Disk} {path stem : String} (nonempty : path ≠ "") (open_ : path.toList.getLast? ≠ some '/')
    {shard : Int} {directory : Location} {name : String}
    (free : d.resolve false (joinPath path (sinkName stem shard)) = .ok (.absent directory name)) :
    name = sinkName (displayName stem) shard ∧ d.resolve true (sinksPath path stem) = .ok (.present directory) := by
  have heads : String.ofList (uptoLast '/' stem.toList) = "" ∨
      (String.ofList (uptoLast '/' stem.toList)).toList.getLast? = some '/' := by
    rcases uptoLast_ends '/' stem.toList with none | ends
    · exact .inl (by rw [none])
    · exact .inr (by rw [String.toList_ofList, ends])
  have plain := isEntryName_lastPart stem shard
  obtain ⟨joined, ends⟩ := joinPath_append nonempty open_ heads plain
  rw [sinkName_parts stem shard, joined] at free
  exact Disk.resolve_parent ends plain free

end GlobalSurvey.Report

namespace GlobalSurvey.Batch
open GlobalSurvey.Files GlobalSurvey.Report

section
variable {r : Request} {base d after : Disk} {path : String} {home parent : Location} {shards : List Shard}
  {sinks : List Sink}

/-- The file of a shard, by the path under which it is made and its location. -/
def Request.sinkFile (r : Request) (path : String) (parent : Location) (shard : Shard) : Store :=
  .file (joinPath path (sinkName r.shardStem shard.index)) (parent ++ [sinkName (displayName r.shardStem) shard.index])

/-- A sink that is made in a file is made in the directory for such files. -/
theorem Request.newSink_file (new : ∀ shard, r.givenSink shard = none) (nonempty : path ≠ "")
    (open_ : path.toList.getLast? ≠ some '/') {shard : Shard} {sink : Sink}
    (made : r.newSink (some path) d shard = .ok (after, sink)) :
    ∃ parent, d.resolve true (sinksPath path r.shardStem) = .ok (.present parent) ∧
      sink.store = r.sinkFile path parent shard ∧
      d.make (joinPath path (sinkName r.shardStem shard.index)) =
        .ok (after, parent ++ [sinkName (displayName r.shardStem) shard.index]) := by
  unfold newSink at made
  simp only [new shard] at made
  unfold Sink.inFile at made
  cases file : d.make (joinPath path (sinkName r.shardStem shard.index)) with
  | error fault => simp [file] at made
  | ok result =>
    obtain ⟨between, location⟩ := result
    simp only [file, Except.ok.injEq, Prod.mk.injEq] at made
    obtain ⟨rfl, rfl⟩ := made
    obtain ⟨-, parent, name, free, rfl, -⟩ := Disk.make_eq_ok file
    obtain ⟨rfl, leads⟩ := resolve_sinksPath nonempty open_ free
    exact ⟨parent, leads, rfl, rfl⟩

/-- Sinks that are made in files are made in one directory, and nothing else is changed. -/
theorem Request.newSinks_files (new : ∀ shard, r.givenSink shard = none) (nonempty : path ≠ "")
    (open_ : path.toList.getLast? ≠ some '/') (leads : d.resolve true (sinksPath path r.shardStem) = .ok (.present parent))
    (made : r.newSinks (some path) d shards = (after, .ok sinks)) :
    sinks.map (·.store) = shards.map (r.sinkFile path parent) ∧
      d.Changes (fun _ => False) (fun location => ∃ file, Store.file file location ∈ sinks.map (·.store)) after := by
  induction shards generalizing d sinks with
  | nil =>
    cases made
    exact ⟨rfl, .refl _⟩
  | cons shard rest ih =>
    simp only [newSinks] at made
    split at made
    · cases made
    · rename_i between sink first
      split at made
      · rename_i others later
        cases made
        obtain ⟨own, there, store, file⟩ := newSink_file new nonempty open_ first
        rw [leads] at there
        cases there
        obtain ⟨stores, changes⟩ := ih (Disk.resolve_keeps (Disk.make_made file).keeps leads) later
        refine ⟨by rw [List.map_cons, List.map_cons, store, stores], ?_⟩
        refine ((Disk.changes_make _ file).mono (fun _ => id) ?_).trans (changes.mono (fun _ => id) ?_)
        · rintro _ rfl
          exact ⟨_, by rw [List.map_cons, store]; exact List.mem_cons_self⟩
        · rintro location ⟨name, member⟩
          exact ⟨name, List.mem_cons_of_mem _ member⟩
      · cases made

/-- The directory of the files is there if a file was made. -/
theorem Request.exists_sinksPath (new : ∀ shard, r.givenSink shard = none) (nonempty : path ≠ "")
    (open_ : path.toList.getLast? ≠ some '/') (some_ : shards ≠ [])
    (made : r.newSinks (some path) d shards = (after, .ok sinks)) :
    ∃ parent, d.resolve true (sinksPath path r.shardStem) = .ok (.present parent) := by
  obtain ⟨shard, rest, rfl⟩ := List.exists_cons_of_ne_nil some_
  simp only [newSinks] at made
  split at made
  · cases made
  · rename_i between sink first
    obtain ⟨parent, leads, -⟩ := newSink_file new nonempty open_ first
    exact ⟨parent, leads⟩

/-- A sink with a plain name is made in the fresh directory, under its name. -/
theorem Request.newSink_home (new : ∀ shard, r.givenSink shard = none) (whole : '/' ∉ r.shardStem.toList)
    (vacancy : base.Vacancy path home) {entries : List (String × Node)} {shard : Shard} {sink : Sink}
    (free : entry? (sinkName r.shardStem shard.index) entries = none)
    (made : r.newSink (some path) (base.put home (.directory entries)) shard = .ok (after, sink)) :
    after = base.put home (.directory (entries ++ [(sinkName r.shardStem shard.index, Node.file [])])) ∧
      sink.store = .file (joinPath path (sinkName r.shardStem shard.index)) (home ++ [sinkName r.shardStem shard.index]) := by
  obtain ⟨parent, -, store, file⟩ := newSink_file new vacancy.nonempty vacancy.open_ made
  rw [vacancy.make_below (isEntryName_sinkName whole shard.index) free] at file
  split at file
  · cases file
  · split at file
    · cases file
    · obtain ⟨disk, location⟩ := Prod.mk.inj (Except.ok.inj file)
      rw [← disk, setEntry_absent free, store, sinkFile, ← location]
      exact ⟨rfl, rfl⟩

/-- Sinks with plain names are made in the fresh directory one after the other. -/
theorem Request.newSinks_home (new : ∀ shard, r.givenSink shard = none) (whole : '/' ∉ r.shardStem.toList)
    (vacancy : base.Vacancy path home) {entries : List (String × Node)} (different : (shards.map (·.index)).Nodup)
    (counted : ∀ shard ∈ shards, 0 ≤ shard.index)
    (free : ∀ shard ∈ shards, entry? (sinkName r.shardStem shard.index) entries = none)
    (made : r.newSinks (some path) (base.put home (.directory entries)) shards = (after, .ok sinks)) :
    after = base.put home (.directory (entries ++ shards.map fun s => (sinkName r.shardStem s.index, .file []))) ∧
      sinks.map (·.store) = shards.map fun s =>
        .file (joinPath path (sinkName r.shardStem s.index)) (home ++ [sinkName r.shardStem s.index]) := by
  induction shards generalizing entries sinks with
  | nil =>
    cases made
    rw [List.map_nil, List.append_nil]
    exact ⟨rfl, rfl⟩
  | cons shard rest ih =>
    rw [List.map_cons, List.nodup_cons] at different
    have absent := free shard List.mem_cons_self
    simp only [newSinks] at made
    split at made
    · cases made
    · rename_i between sink first
      split at made
      · rename_i others later
        cases made
        obtain ⟨rfl, store⟩ := newSink_home new whole vacancy absent first
        have still : ∀ s ∈ rest, entry? (sinkName r.shardStem s.index)
            (entries ++ [(sinkName r.shardStem shard.index, Node.file [])]) = none := by
          intro s member
          rw [← setEntry_absent absent, lookup_setEntry_of_ne ?_, free s (List.mem_cons_of_mem shard member)]
          intro name
          have index := sinkName_inj (counted s (List.mem_cons_of_mem shard member))
            (counted shard List.mem_cons_self) name
          exact different.1 (index ▸ List.mem_map_of_mem member)
        obtain ⟨disk, stores⟩ :=
          ih different.2 (fun s member => counted s (List.mem_cons_of_mem shard member)) still later
        rw [disk, List.map_cons, List.map_cons, List.map_cons, stores, store, List.append_assoc, List.singleton_append]
        exact ⟨rfl, rfl⟩
      · cases made

/-- The sinks of the shards of a batch, when all of them were made in files, each have a file of their own, which is new
and empty, and nothing else was changed. The files are all in the directory to which the text that their names start with
leads from the fresh directory, as far as its last slash. So they are in the fresh directory exactly if the text leads back
to it. If there is no slash in the text they are, by the names of the shards and besides nothing else; then the disk is as
it was before as soon as the fresh directory is removed. -/
theorem sinks_have_files {units : List String} {workers : Int} (new : ∀ shard, r.givenSink shard = none)
    (vacancy : base.Vacancy path home) (cut : partition units workers = .ok shards)
    (made : r.newSinks (some path) (base.put home (.directory [])) shards = (after, .ok sinks)) :
    (sinks.length : Int) = workers ∧ MadeStores (base.put home (.directory [])) after (sinks.map (·.store)) ∧
      (base.put home (.directory [])).Changes (fun _ => False)
        (fun location => ∃ file, Store.file file location ∈ sinks.map (·.store)) after ∧
      (∃ parent, (base.put home (.directory [])).resolve true (sinksPath path r.shardStem) = .ok (.present parent) ∧
        sinks.map (·.store) = shards.map (r.sinkFile path parent) ∧
        ((∀ sink ∈ sinks, sink.store.IsIn home) ↔ parent = home)) ∧
      ('/' ∉ r.shardStem.toList → (∀ sink ∈ sinks, sink.store.IsIn home) ∧
        after = base.put home (.directory (shards.map fun s => (sinkName r.shardStem s.index, .file []))) ∧
        after.discard path = base) := by
  obtain ⟨count, positive, rfl, whole⟩ := cut_of_partition cut
  have given : r.GivesNewSinks := fun shard sink own => by rw [new shard] at own; cases own
  obtain ⟨places, fresh⟩ := Request.newSinks_made given made
  have several : 0 < shards.length := by rw [whole.length]; exact positive
  obtain ⟨parent, leads⟩ := Request.exists_sinksPath new vacancy.nonempty vacancy.open_
    (List.ne_nil_of_length_pos several) made
  obtain ⟨stores, changes⟩ := Request.newSinks_files new vacancy.nonempty vacancy.open_ leads made
  refine ⟨?_, places, changes, ⟨parent, leads, stores, ?_⟩, ?_⟩
  · rw [← fresh.length_eq, whole.length]
  · constructor
    · intro inside
      obtain ⟨shard, rest, rfl⟩ := List.exists_cons_of_length_pos several
      obtain ⟨sink, others, rfl⟩ := List.exists_cons_of_length_pos (by rw [← fresh.length_eq]; exact several)
      have own : sink.store = r.sinkFile path parent shard := (List.cons.inj stores).1
      have there := inside sink List.mem_cons_self
      rw [own] at there
      obtain ⟨name, same⟩ := there
      exact (List.append_inj' same rfl).1
    · rintro rfl sink member
      have listed := List.mem_map_of_mem (f := Sink.store) member
      rw [stores] at listed
      obtain ⟨shard, -, same⟩ := List.mem_map.mp listed
      rw [← same]
      exact ⟨_, rfl⟩
  · intro plain
    obtain ⟨disk, files⟩ := Request.newSinks_home new plain vacancy whole.different_indices whole.index_nonneg
      (fun _ _ => rfl) made
    rw [List.nil_append] at disk
    refine ⟨?_, disk, by rw [disk, vacancy.discard_put]⟩
    intro sink member
    have listed := List.mem_map_of_mem (f := Sink.store) member
    rw [files] at listed
    obtain ⟨shard, -, same⟩ := List.mem_map.mp listed
    rw [← same]
    exact ⟨_, rfl⟩

end

theorem filed_sinks_have_files :
    partition ["c", "b", "a"] 2 = .ok [⟨0, ["c"]⟩, ⟨1, ["b", "a"]⟩] ∧ '/' ∉ filedRequest.shardStem.toList ∧
      bareDisk.Vacancy filedPath filedHome ∧
      ∃ sinks, filedRequest.newSinks (some filedPath) (filedDisk []) [⟨0, ["c"]⟩, ⟨1, ["b", "a"]⟩] =
          (filedLaunch.disk, .ok sinks) ∧
        (sinks.length : Int) = 2 ∧ (∀ sink ∈ sinks, sink.store.IsIn filedHome) ∧
        filedLaunch.disk.discard filedPath = bareDisk := by
  have accepted : filedRequest.check = .ok (["c", "b", "a"], 2) := rfl
  have cut : partition ["c", "b", "a"] (2 : Nat) = .ok [⟨0, ["c"]⟩, ⟨1, ["b", "a"]⟩] := rfl
  have whole : '/' ∉ filedRequest.shardStem.toList := by decide +kernel
  obtain ⟨between, sinks, opened, made, -⟩ := exists_sinks accepted cut launch_filed
  rw [openDirectory_bare rfl rfl] at opened
  cases opened
  obtain ⟨count, -, -, -, inside⟩ := sinks_have_files (fun _ => rfl) vacancy_filed cut made
  obtain ⟨all, -, gone⟩ := inside whole
  exact ⟨cut, whole, vacancy_filed, sinks, made, count, all, gone⟩

/-- Any text may be what the names of the sinks start with. A text with a slash can lead out of the fresh directory: the
file of the one sink of a batch is made beside the fresh directory, and it stays when that is removed. -/
theorem stray_sink_outside :
    Settings.ofEntries [("shard_prefix", .str strayRequest.shardStem)] = .ok { shardStem := strayRequest.shardStem } ∧
      bareDisk.Vacancy filedPath filedHome ∧ partition ["a"] 1 = .ok [⟨0, ["a"]⟩] ∧
      ∃ sink, strayRequest.newSinks (some filedPath) (bareDisk.put filedHome (.directory [])) [⟨0, ["a"]⟩] =
          (strayLaunch.disk, .ok [sink]) ∧
        ¬ sink.store.IsIn filedHome ∧ bareDisk.root.get? ["report0.txt"] = none ∧
        (strayLaunch.disk.discard filedPath).root.get? ["report0.txt"] = some (.file []) := by
  have accepted : strayRequest.check = .ok (["a"], 1) := rfl
  have cut : partition ["a"] (1 : Nat) = .ok [⟨0, ["a"]⟩] := rfl
  obtain ⟨between, sinks, opened, made, pool⟩ := exists_sinks accepted cut launch_stray
  rw [openDirectory_bare rfl rfl] at opened
  cases opened
  obtain ⟨sink, rfl⟩ : ∃ sink, sinks = [sink] := by
    have fresh := (Request.newSinks_made (fun _ _ none_ => by cases none_) made).2
    exact List.length_eq_one_iff.mp fresh.length_eq.symm
  have store : sink.store = .file "/globscan-00000000/../report0.txt" ["report0.txt"] := by
    have own := congrArg (fun p => p.workers.map (·.sink.store)) pool
    exact (List.cons.inj own).1.symm
  refine ⟨rfl, vacancy_filed, cut, sink, made, ?_, rfl, ?_⟩
  · rw [store]
    rintro ⟨name, same⟩
    simp [filedHome] at same
  · rw [discard_stray]
    rfl

end GlobalSurvey.Batch
