import GlobalSurvey.Batch.Pipeline
import GlobalSurvey.Proofs.Batch.Units

/-!
# Shards cover the batch

The units of an accepted batch are different from each other (`check_eq_ok`), and its shards, one for each worker and
numbered from zero on, hold all of them in order (`cut_partition`).
-/
namespace GlobalSurvey.Batch

/-! ## Accepted batches -/

theorem exists_of_bind {α β : Type} {act : Except Failure α} {next : α → Except Failure β} {b : β}
    (ok : (act >>= next) = .ok b) : ∃ a, act = .ok a ∧ next a = .ok b := by
  cases act with
  | error failure => cases ok
  | ok a => exact ⟨a, rfl, ok⟩

/-- The units and the number of workers of an accepted batch are those that were checked. -/
theorem Request.parts_of_check {r : Request} {units : List String} {workers : Nat}
    (accepted : r.check = .ok (units, workers)) :
    validateUnits r.units = .ok units ∧ validateWorkers r.workers = .ok workers := by
  unfold check at accepted
  obtain ⟨all, items, accepted⟩ := exists_of_bind accepted
  obtain ⟨count, number, accepted⟩ := exists_of_bind accepted
  have number : validateWorkers r.workers = .ok count := by
    cases checked : validateWorkers r.workers with
    | error fault =>
      rw [checked] at number
      cases number
    | ok other =>
      rw [checked] at number
      cases number
      rfl
  have same : all = units ∧ count = workers := by
    simp only at accepted
    split at accepted
    · split at accepted
      · cases accepted
      · split at accepted
        · cases accepted
        · cases accepted
          exact ⟨rfl, rfl⟩
    · split at accepted
      · cases accepted
      · cases accepted
        exact ⟨rfl, rfl⟩
  obtain ⟨rfl, rfl⟩ := same
  exact ⟨items, number⟩

/-- The units of an accepted batch are different from each other, and there is at least one worker. -/
theorem Request.check_eq_ok {r : Request} {units : List String} {workers : Nat} (accepted : r.check = .ok (units, workers)) :
    units.Nodup ∧ 0 < workers := by
  obtain ⟨items, number⟩ := parts_of_check accepted
  obtain ⟨n, -, positive, rfl⟩ := validateWorkers_eq_ok.mp number
  exact ⟨(of_validateUnits items).2.2, by omega⟩

/-! ## Slices -/

section
variable {α : Type} {items : List α} {workers index : Nat}

theorem slice_boundsOf (items : List α) (workers index : Nat) :
    slice items (boundsOf items.length workers index) =
      (items.take (if index + 1 = workers then items.length else (index + 1) * (items.length / workers))).drop
        (index * (items.length / workers)) := by
  have width : (items.length : Int).fdiv workers = ((items.length / workers : Nat) : Int) :=
    (Int.ofNat_fdiv items.length workers).symm
  have first : ((index : Int) * (items.length / workers : Nat)).toNat = index * (items.length / workers) := by
    rw [← Int.natCast_mul, Int.toNat_natCast]
  have next : (((index : Int) + 1) * (items.length / workers : Nat)).toNat =
      (index + 1) * (items.length / workers) := by
    rw [← Int.natCast_one, ← Int.natCast_add, ← Int.natCast_mul, Int.toNat_natCast]
  unfold slice boundsOf
  simp only [width, first]
  by_cases last : index + 1 = workers
  · have same : (index : Int) = workers - 1 := by omega
    simp [last, same]
  · have other : ¬ (index : Int) = workers - 1 := by omega
    simp only [last, other, if_false, next]

/-- The first slices hold the first units. -/
theorem flatten_slices_take (count : Nat) (fewer : count < workers) :
    ((List.range count).map fun i : Nat => slice items (boundsOf items.length workers i)).flatten =
      items.take (count * (items.length / workers)) := by
  induction count with
  | zero => simp
  | succ count ih =>
    have other : ¬ count + 1 = workers := by omega
    have grows : count * (items.length / workers) ≤ (count + 1) * (items.length / workers) :=
      Nat.mul_le_mul_right _ (Nat.le_succ count)
    rw [List.range_succ, List.map_append, List.flatten_append, ih (by omega)]
    simp only [List.map_cons, List.map_nil, List.flatten_cons, List.flatten_nil, List.append_nil, slice_boundsOf, other,
      if_false]
    calc
      items.take (count * (items.length / workers)) ++
            (items.take ((count + 1) * (items.length / workers))).drop (count * (items.length / workers))
          = (items.take ((count + 1) * (items.length / workers))).take (count * (items.length / workers)) ++
            (items.take ((count + 1) * (items.length / workers))).drop (count * (items.length / workers)) := by
              rw [List.take_take, Nat.min_eq_left grows]
      _ = items.take ((count + 1) * (items.length / workers)) := List.take_append_drop _ _

/-- The slices hold all items, in order. -/
theorem flatten_slices (items : List α) (positive : 0 < workers) :
    ((List.range workers).map fun i : Nat => slice items (boundsOf items.length workers i)).flatten = items := by
  obtain ⟨others, rfl⟩ : ∃ others, workers = others + 1 := ⟨workers - 1, by omega⟩
  rw [List.range_succ, List.map_append, List.flatten_append, flatten_slices_take others (Nat.lt_succ_self others)]
  simp only [List.map_cons, List.map_nil, List.flatten_cons, List.flatten_nil, List.append_nil, slice_boundsOf, if_true,
    List.take_length]
  exact List.take_append_drop _ _

end

/-! ## Shards -/

theorem numbered_units (index : Nat) (parts : List (List String)) : (numbered index parts).map (·.units) = parts := by
  induction parts generalizing index with
  | nil => rfl
  | cons part rest ih => simp [numbered, ih]

theorem numbered_indices (index : Nat) (parts : List (List String)) :
    (numbered index parts).map (·.index) = (List.range' index parts.length).map fun i : Nat => (i : Int) := by
  induction parts generalizing index with
  | nil => rfl
  | cons part rest ih => simp [numbered, ih, List.range'_succ]

/-- The shards of a batch: one for each worker, numbered from zero on, with all units in order. -/
structure IsCut (units : List String) (workers : Nat) (shards : List Shard) : Prop where
  indices : shards.map (·.index) = (List.range workers).map fun i : Nat => (i : Int)
  whole : shards.flatMap (·.units) = units

theorem cut_partition (units : List String) {workers : Nat} (positive : 0 < workers) :
    ∃ shards, partition units workers = .ok shards ∧ IsCut units workers shards := by
  have enough : ¬ (workers : Int) < 1 := by omega
  have cut := flatten_slices units positive
  simp only [partition, slices, shardBounds, enough, if_false, Int.toNat_natCast, List.map_map]
  refine ⟨_, rfl, ?_, ?_⟩
  · rw [numbered_indices, List.length_map, List.length_range, List.range_eq_range']
  · rw [List.flatMap_def, numbered_units]
    exact cut

/-- A batch that is cut has a positive number of workers. -/
theorem cut_of_partition {units : List String} {workers : Int} {shards : List Shard}
    (cut : partition units workers = .ok shards) :
    ∃ count : Nat, 0 < count ∧ workers = count ∧ IsCut units count shards := by
  have enough : ¬ workers < 1 := by
    intro few
    simp [partition, slices, shardBounds, few] at cut
  obtain ⟨count, rfl⟩ := Int.eq_ofNat_of_zero_le (by omega : 0 ≤ workers)
  have positive : 0 < count := by omega
  obtain ⟨_, same, whole⟩ := cut_partition units positive
  rw [cut] at same
  cases same
  exact ⟨count, positive, rfl, whole⟩

namespace IsCut

variable {units : List String} {workers : Nat} {shards : List Shard}

theorem length (cut : IsCut units workers shards) : shards.length = workers := by
  have same := congrArg List.length cut.indices
  simpa using same

/-- The units of each shard are different from each other. -/
theorem different (cut : IsCut units workers shards) (different : units.Nodup) : ∀ s ∈ shards, s.units.Nodup := by
  intro s member
  rw [← cut.whole] at different
  exact different.sublist (List.sublist_flatten_of_mem (List.mem_map_of_mem member))

/-- The shards are in the order of their indices. -/
theorem ordered (cut : IsCut units workers shards) : (shards.map (·.index)).Pairwise (· ≤ ·) := by
  rw [cut.indices, List.pairwise_map]
  refine List.Pairwise.imp ?_ List.pairwise_lt_range
  intro a b before
  omega

theorem index_nonneg (cut : IsCut units workers shards) : ∀ s ∈ shards, 0 ≤ s.index := by
  intro s member
  have inside : s.index ∈ shards.map (·.index) := List.mem_map_of_mem member
  rw [cut.indices] at inside
  obtain ⟨i, -, same⟩ := List.mem_map.mp inside
  omega

theorem different_indices (cut : IsCut units workers shards) : (shards.map (·.index)).Nodup := by
  rw [cut.indices, List.Nodup, List.pairwise_map]
  exact List.nodup_range.imp fun different same => different (Int.ofNat_inj.mp same)

end IsCut

end GlobalSurvey.Batch
