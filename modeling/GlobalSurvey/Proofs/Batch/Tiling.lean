import GlobalSurvey.Proofs.Batch.Partition
import Mathlib.Data.Rat.Floor
import Mathlib.Tactic.Linarith
import Mathlib.Tactic.Ring

/-!
# Shards tile the batch

The bounds of the shards run from zero to the number of units, each beginning where the one before it ends, and are of one
width but for the last, which takes what is left (`tiles_shardBounds`). So every position of a batch is in exactly one
shard. The main statement is `partition_tiles`.
-/
namespace GlobalSurvey.Batch

/-- How many positions there are between two bounds. Bounds that run backwards have a negative width. -/
def Bounds.width (b : Bounds) : Int := b.last - b.first

/-- The position is between the bounds. -/
def Bounds.Holds (b : Bounds) (position : Int) : Prop := b.first ≤ position ∧ position < b.last

/-- The bounds begin at one position, go on where the ones before them end, and end at another position. -/
def Joined (start : Int) : List Bounds → Int → Prop
  | [], stop => start = stop
  | b :: rest, stop => b.first = start ∧ Joined b.last rest stop

/-! ## Bounds that are joined -/

section
variable {start stop position : Int} {bounds : List Bounds}

theorem Joined.start_le (joined : Joined start bounds stop) (forward : ∀ b ∈ bounds, b.first ≤ b.last) :
    start ≤ stop := by
  induction bounds generalizing start with
  | nil => exact le_of_eq joined
  | cons b rest ih =>
    obtain ⟨rfl, later⟩ := joined
    obtain ⟨own, others⟩ := List.forall_mem_cons.mp forward
    exact own.trans (ih later others)

theorem Joined.within (joined : Joined start bounds stop) (forward : ∀ b ∈ bounds, b.first ≤ b.last) :
    ∀ b ∈ bounds, start ≤ b.first ∧ b.last ≤ stop := by
  induction bounds generalizing start with
  | nil => simp
  | cons b rest ih =>
    obtain ⟨rfl, later⟩ := joined
    obtain ⟨own, others⟩ := List.forall_mem_cons.mp forward
    refine List.forall_mem_cons.mpr ⟨⟨le_rfl, later.start_le others⟩, ?_⟩
    intro other member
    obtain ⟨after, before⟩ := ih later others other member
    exact ⟨own.trans after, before⟩

/-- Every position from the start on and before the end is between exactly one pair of the bounds. -/
theorem Joined.exists_unique (joined : Joined start bounds stop) (forward : ∀ b ∈ bounds, b.first ≤ b.last)
    (after : start ≤ position) (before : position < stop) :
    ∃! i : Nat, ∃ b, bounds[i]? = some b ∧ b.Holds position := by
  induction bounds generalizing start with
  | nil =>
    obtain rfl : start = stop := joined
    omega
  | cons b rest ih =>
    obtain ⟨rfl, later⟩ := joined
    obtain ⟨own, others⟩ := List.forall_mem_cons.mp forward
    by_cases held : position < b.last
    · refine ⟨0, ⟨b, rfl, after, held⟩, ?_⟩
      rintro (_ | i) ⟨other, there, inside⟩
      · rfl
      · -- what comes later begins after the position
        have beyond := (later.within others other (List.mem_of_getElem? there)).1
        have := inside.1
        omega
    · obtain ⟨i, ⟨other, there, inside⟩, only⟩ := ih later others (not_lt.mp held)
      refine ⟨i + 1, ⟨other, there, inside⟩, ?_⟩
      rintro (_ | j) ⟨another, found, holds⟩
      · cases found
        exact absurd holds.2 held
      · rw [only j ⟨another, found, holds⟩]

end

/-! ## The bounds of the shards -/

theorem fdiv_eq_floor (total : Int) {workers : Int} (positive : 0 ≤ workers) :
    total.fdiv workers = ⌊(total : ℚ) / workers⌋ := by
  obtain ⟨count, rfl⟩ := Int.eq_ofNat_of_zero_le positive
  have quotient := Rat.floor_intCast_div_natCast total count
  rw [Int.cast_natCast, quotient, Int.fdiv_eq_ediv_of_nonneg total positive]

theorem width_boundsOf {total workers index : Int} (other : index ≠ workers - 1) :
    (boundsOf total workers index).width = total.fdiv workers := by
  simp only [boundsOf, Bounds.width, if_neg other]
  ring

/-- The last shard takes what is left over when the others have their width. -/
theorem width_boundsOf_last (total workers : Int) :
    (boundsOf total workers (workers - 1)).width = total.fdiv workers + total.fmod workers := by
  have parts := Int.mul_fdiv_add_fmod total workers
  simp only [boundsOf, Bounds.width, if_true]
  linarith

theorem joined_boundsOf (total : Int) (count from_ : Nat) :
    Joined (from_ * total.fdiv (from_ + count + 1 : Nat))
      ((List.range' from_ (count + 1)).map fun i : Nat => boundsOf total (from_ + count + 1 : Nat) i) total := by
  induction count generalizing from_ with
  | zero =>
    refine ⟨rfl, ?_⟩
    have last : (from_ : Int) = (from_ + 0 + 1 : Nat) - 1 := by omega
    simp only [boundsOf, if_pos last]
    rfl
  | succ count ih =>
    have other : ¬ (from_ : Int) = (from_ + (count + 1) + 1 : Nat) - 1 := by omega
    have shifted : from_ + 1 + count + 1 = from_ + (count + 1) + 1 := by omega
    have later := ih (from_ + 1)
    rw [shifted] at later
    rw [List.range'_succ, List.map_cons]
    refine ⟨rfl, ?_⟩
    simp only [boundsOf, if_neg other]
    exact_mod_cast later

/-- Bounds for a number of workers: they run from zero to the total, all but the last have the width that is the quotient
rounded down, and the last one is wider by less than the number of workers. -/
structure Tiles (total workers : Int) (bounds : List Bounds) : Prop where
  count : (bounds.length : Int) = workers
  joined : Joined 0 bounds total
  width : ∀ b ∈ bounds.dropLast, b.width = ⌊(total : ℚ) / workers⌋
  lastWidth : ∃ b, bounds.getLast? = some b ∧ ⌊(total : ℚ) / workers⌋ ≤ b.width ∧
    b.width < ⌊(total : ℚ) / workers⌋ + workers

theorem tiles_shardBounds (total : Int) {workers : Int} (positive : 1 ≤ workers) :
    ∃ bounds, shardBounds total workers = .ok bounds ∧ Tiles total workers bounds := by
  obtain ⟨count, rfl⟩ : ∃ count : Nat, workers = (count + 1 : Nat) := ⟨(workers - 1).toNat, by omega⟩
  have enough : ¬ ((count + 1 : Nat) : Int) < 1 := by omega
  have joined := joined_boundsOf total count 0
  simp only [Nat.zero_add, Nat.cast_zero, zero_mul, ← List.range_eq_range'] at joined
  have last : (count : Int) = (count + 1 : Nat) - 1 := by omega
  rw [shardBounds, if_neg enough, Int.toNat_natCast]
  refine ⟨_, rfl, by simp, joined, ?_, ?_⟩
  · intro b member
    rw [List.range_succ, List.map_append, List.map_singleton, List.dropLast_concat] at member
    obtain ⟨i, inside, rfl⟩ := List.mem_map.mp member
    have early := List.mem_range.mp inside
    rw [width_boundsOf (by omega), fdiv_eq_floor total (by omega)]
  · refine ⟨boundsOf total (count + 1 : Nat) count, by simp [List.range_succ], ?_⟩
    rw [last, width_boundsOf_last, fdiv_eq_floor total (by omega)]
    have nonneg := Int.fmod_nonneg_of_pos total (by omega : (0 : Int) < (count + 1 : Nat))
    have small := Int.fmod_lt_of_pos total (by omega : (0 : Int) < (count + 1 : Nat))
    constructor <;> linarith

/-- No bounds run backwards unless the total is negative. -/
theorem Tiles.forward {total workers : Int} {bounds : List Bounds} (tiles : Tiles total workers bounds)
    (nonneg : 0 ≤ total) (positive : 1 ≤ workers) : ∀ b ∈ bounds, b.first ≤ b.last := by
  have even : 0 ≤ ⌊(total : ℚ) / workers⌋ := by
    rw [← fdiv_eq_floor total (by omega)]
    exact Int.fdiv_nonneg nonneg (by omega)
  obtain ⟨last, ends, wide, -⟩ := tiles.lastWidth
  intro b member
  have width : 0 ≤ b.width := by
    rw [← List.dropLast_append_getLast? last ends] at member
    rcases List.mem_append.mp member with early | final
    · rw [tiles.width b early]
      exact even
    · rw [List.mem_singleton.mp final]
      exact even.trans wide
  simpa [Bounds.width] using width

/-! ## The shards -/

theorem length_slice {α : Type} {items : List α} {b : Bounds} (first : 0 ≤ b.first) (forward : b.first ≤ b.last)
    (last : b.last ≤ items.length) : ((slice items b).length : Int) = b.width := by
  simp only [slice, List.length_drop, List.length_take, Bounds.width]
  omega

/-- The shards of a batch: each has the units between its bounds, and all units are in them in order. -/
structure Covers (units : List String) (bounds : List Bounds) (shards : List Shard) : Prop where
  indices : shards.map (·.index) = (List.range bounds.length).map fun i : Nat => (i : Int)
  parts : shards.map (·.units) = bounds.map (slice units)
  widths : (shards.map fun s => (s.units.length : Int)) = bounds.map Bounds.width
  whole : shards.flatMap (·.units) = units
  once : ∀ position : Nat, position < units.length → ∃! i : Nat, ∃ b, bounds[i]? = some b ∧ b.Holds position

theorem covers_partition (units : List String) {workers : Int} (positive : 1 ≤ workers) {bounds : List Bounds}
    (cut : shardBounds units.length workers = .ok bounds) (tiles : Tiles units.length workers bounds) :
    ∃ shards, partition units workers = .ok shards ∧ Covers units bounds shards := by
  have forward := tiles.forward (Int.natCast_nonneg _) positive
  have within := tiles.joined.within forward
  have shards : partition units workers = .ok (numbered 0 (bounds.map (slice units))) := by
    simp only [partition, slices, cut]
  have parts := numbered_units 0 (bounds.map (slice units))
  obtain ⟨count, -, rfl, covers⟩ := cut_of_partition shards
  refine ⟨_, shards, ?_, parts, ?_, covers.whole, ?_⟩
  · rw [numbered_indices, List.length_map, List.range_eq_range']
  · have lengths (shards : List Shard) : (shards.map fun s => (s.units.length : Int)) =
        (shards.map (·.units)).map fun units => (units.length : Int) := by rw [List.map_map]; rfl
    rw [lengths, parts, List.map_map]
    refine List.map_congr_left fun b member => ?_
    exact length_slice (within b member).1 (forward b member) (within b member).2
  · intro position inside
    exact tiles.joined.exists_unique forward (Int.natCast_nonneg _) (by omega)

/-- For every total, a negative one too, the bounds of the shards tile what is between zero and the total; and every batch
is cut into shards that cover it, within the bounds for the number of its units. -/
theorem partition_tiles (total : Int) (units : List String) {workers : Int} (positive : 1 ≤ workers) :
    (∃ bounds, shardBounds total workers = .ok bounds ∧ Tiles total workers bounds) ∧
      ∃ bounds shards, shardBounds units.length workers = .ok bounds ∧ Tiles units.length workers bounds ∧
        partition units workers = .ok shards ∧ Covers units bounds shards := by
  obtain ⟨bounds, cut, tiles⟩ := tiles_shardBounds units.length positive
  obtain ⟨shards, made, covers⟩ := covers_partition units positive cut tiles
  exact ⟨tiles_shardBounds total positive, bounds, shards, cut, tiles, made, covers⟩

/-- A negative total with a remainder, and a batch of fewer units than workers. -/
theorem tiles_of_three_workers : Tiles (-7) 3 [⟨0, -3⟩, ⟨-3, -6⟩, ⟨-6, -7⟩] ∧
    partition ["a", "b"] 3 = .ok [⟨0, []⟩, ⟨1, []⟩, ⟨2, ["a", "b"]⟩] ∧
      Covers ["a", "b"] [⟨0, 0⟩, ⟨0, 0⟩, ⟨0, 2⟩] [⟨0, []⟩, ⟨1, []⟩, ⟨2, ["a", "b"]⟩] := by
  obtain ⟨⟨bounds, cut, tiles⟩, between, shards, cut', -, made, covers⟩ :=
    partition_tiles (-7) ["a", "b"] (show (1 : Int) ≤ 3 by decide)
  cases cut
  cases cut'
  cases made
  exact ⟨tiles, rfl, covers⟩

end GlobalSurvey.Batch
