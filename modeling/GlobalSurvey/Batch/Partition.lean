import GlobalSurvey.Value.Form

/-!
# Shards

A batch is cut into as many shards as there are workers. All shards but the last have the same length; the last one takes
what is left over.
-/
namespace GlobalSurvey.Batch

/-- The begin and the end of a shard. -/
structure Bounds where
  first : Int
  /-- The position after the last unit. -/
  last : Int
deriving DecidableEq, Repr

def boundsOf (total workers index : Int) : Bounds :=
  let width := total.fdiv workers
  ⟨index * width, if index = workers - 1 then total else (index + 1) * width⟩

def shardBounds (total workers : Int) : Except ConfigurationFault (List Bounds) :=
  if workers < 1 then .error (.tooFewWorkers workers)
  else .ok ((List.range workers.toNat).map fun i : Nat => boundsOf total workers i)

def slice {α : Type} (items : List α) (b : Bounds) : List α :=
  (items.take b.last.toNat).drop b.first.toNat

/-- A list cut into as many slices as there are workers. -/
def slices {α : Type} (items : List α) (workers : Int) : Except ConfigurationFault (List (List α)) :=
  match shardBounds items.length workers with
  | .ok bounds => .ok (bounds.map (slice items))
  | .error fault => .error fault

structure Shard where
  index : Int
  units : List String
deriving DecidableEq, Repr

/-- Shards with the indices from a number on. -/
def numbered (index : Nat) : List (List String) → List Shard
  | [] => []
  | units :: rest => ⟨index, units⟩ :: numbered (index + 1) rest

def partition (units : List String) (workers : Int) : Except ConfigurationFault (List Shard) :=
  match slices units workers with
  | .ok parts => .ok (numbered 0 parts)
  | .error fault => .error fault

def Shard.ofValues (index units : Value) : Checked Shard :=
  .apply (.apply (.ok Shard.mk) (.below (.field "index") (Form.integer index)))
    (.below (.field "units") (Form.listOf Form.text units))

/-- Shards of values that may be no texts: the first shard with such values tells where they are. -/
def numberedValues (index : Nat) : List (List Value) → Except Failure (List Shard)
  | [] => .ok []
  | values :: rest =>
    match Shard.ofValues (.int index) (.list values) with
    | .error misfits => .error (.misfits misfits)
    | .ok shard =>
      match numberedValues (index + 1) rest with
      | .ok shards => .ok (shard :: shards)
      | .error failure => .error failure

def partitionValues (values : List Value) (workers : Int) : Except Failure (List Shard) :=
  match slices values workers with
  | .ok parts => numberedValues 0 parts
  | .error fault => .error (.configuration fault)

end GlobalSurvey.Batch
