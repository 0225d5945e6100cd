import GlobalSurvey.Proofs.Globals.Filters
import Mathlib.Data.List.Shortlex

/-!
# The traversal goes level by level

A queue ends after as many steps as there are nodes in it and below, and the nodes taken are those of the traversal
(`iterate_step`). They come level after level (`breadthFirst_levels`). A position says which child to go down to at every
level: each position of the tree is taken once, the shorter ones first, and those of one length from left to right
(`isLevelOrder_breadthFirst`). So the names of `global` statements are added level by level (`globals_level_by_level`).
-/
namespace GlobalSurvey

namespace Source.Node

/-! ## Positions -/

/-- The node at a position below a node; the numbers say which child to go down to. -/
def at? (n : Node) : List Nat → Option Node
  | [] => some n
  | i :: rest => n.children[i]?.bind (·.at? rest)

theorem at?_concat (n : Node) (position : List Nat) (i : Nat) :
    n.at? (position ++ [i]) = (n.at? position).bind (·.children[i]?) := by
  induction position generalizing n with
  | nil => simp [at?]
  | cons j rest ih => simp only [List.cons_append, at?, Option.bind_assoc, ih]

/-- The nodes at a depth below a node, from left to right. -/
def level (root : Node) : Nat → List Node
  | 0 => [root]
  | depth + 1 => (root.level depth).flatMap children

/-- The children of a node, each with its position. -/
def placedChildren (placed : List Nat × Node) : List (List Nat × Node) :=
  placed.2.children.zipIdx.map fun child => (placed.1 ++ [child.2], child.1)

/-- The nodes at a depth, each with its position. -/
def placedLevel (root : Node) : Nat → List (List Nat × Node)
  | 0 => [([], root)]
  | depth + 1 => (root.placedLevel depth).flatMap placedChildren

theorem mem_placedChildren_iff {above : List Nat × Node} {position : List Nat} {node : Node} :
    (position, node) ∈ placedChildren above ↔ ∃ i, position = above.1 ++ [i] ∧ above.2.children[i]? = some node := by
  simp only [placedChildren, List.mem_map, Prod.exists, Prod.mk.injEq, List.mem_zipIdx_iff_getElem?]
  constructor
  · rintro ⟨child, i, here, rfl, rfl⟩
    exact ⟨i, rfl, here⟩
  · rintro ⟨i, rfl, here⟩
    exact ⟨node, i, here, rfl, rfl⟩

/-- The positions of a level are as long as it is deep. -/
theorem mem_placedLevel_iff {root node : Node} {depth : Nat} {position : List Nat} :
    (position, node) ∈ root.placedLevel depth ↔ position.length = depth ∧ root.at? position = some node := by
  induction depth generalizing position node with
  | zero =>
    simp only [placedLevel, List.mem_singleton, Prod.mk.injEq, List.length_eq_zero_iff]
    constructor
    · rintro ⟨rfl, rfl⟩
      exact ⟨rfl, rfl⟩
    · rintro ⟨rfl, here⟩
      cases here
      exact ⟨rfl, rfl⟩
  | succ depth ih =>
    simp only [placedLevel, List.mem_flatMap, mem_placedChildren_iff, Prod.exists, ih]
    constructor
    · rintro ⟨above, parent, ⟨long, there⟩, i, rfl, child⟩
      refine ⟨by simp [long], ?_⟩
      rw [at?_concat, there]
      exact child
    · rintro ⟨long, here⟩
      rcases List.eq_nil_or_concat' position with rfl | ⟨above, i, rfl⟩
      · cases long
      · rw [at?_concat] at here
        obtain ⟨parent, there, child⟩ := Option.bind_eq_some_iff.mp here
        exact ⟨above, parent, ⟨by simpa using long, there⟩, i, rfl, child⟩

theorem nodes_placedLevel (root : Node) (depth : Nat) : (root.placedLevel depth).map Prod.snd = root.level depth := by
  have below (placed : List Nat × Node) : (placedChildren placed).map Prod.snd = placed.2.children := by
    simp [placedChildren, Function.comp_def, List.zipIdx_map_fst]
  induction depth with
  | zero => rfl
  | succ depth ih => simp only [placedLevel, level, ← ih, List.map_flatMap, List.flatMap_map, below]

/-! ## From left to right -/

/-- Where two positions of one length part, what follows does not matter. -/
theorem lex_append {a b : List Nat} (less : List.Lex (· < ·) a b) (same : a.length = b.length) (more other : List Nat) :
    List.Lex (· < ·) (a ++ more) (b ++ other) := by
  induction less with
  | nil => cases same
  | cons _ ih => exact .cons (ih (by simpa using same))
  | rel less => exact .rel less

theorem pairwise_placedChildren (placed : List Nat × Node) :
    (placedChildren placed).Pairwise fun a b => List.Lex (· < ·) a.1 b.1 := by
  have ascending : (placed.2.children.zipIdx.map Prod.snd).Pairwise (· < ·) := by
    rw [List.zipIdx_map_snd]
    exact List.pairwise_lt_range'
  rw [List.pairwise_map] at ascending
  refine List.pairwise_map.mpr (ascending.imp ?_)
  intro a b less
  exact List.Lex.append_left _ (.rel less) placed.1

/-- The positions of a level come from left to right. -/
theorem pairwise_placedLevel (root : Node) (depth : Nat) :
    (root.placedLevel depth).Pairwise fun a b => List.Lex (· < ·) a.1 b.1 := by
  induction depth with
  | zero => exact List.pairwise_singleton _ _
  | succ depth ih =>
    refine List.pairwise_flatMap.mpr ⟨fun placed _ => pairwise_placedChildren placed, ?_⟩
    refine ih.imp_of_mem ?_
    rintro ⟨left, a⟩ ⟨right, b⟩ isLeft isRight less ⟨position, x⟩ below ⟨other, y⟩ belowOther
    obtain ⟨i, rfl, -⟩ := mem_placedChildren_iff.mp below
    obtain ⟨j, rfl, -⟩ := mem_placedChildren_iff.mp belowOther
    have same : left.length = right.length :=
      (mem_placedLevel_iff.mp isLeft).1.trans (mem_placedLevel_iff.mp isRight).1.symm
    exact lex_append less same [i] [j]

end Source.Node

namespace Globals
open GlobalSurvey.Source

/-! ## Levels -/

theorem nodesSize_eq_zero_iff {nodes : List Node} : nodesSize nodes = 0 ↔ nodes = [] := by
  cases nodes with
  | nil => simp
  | cons n rest =>
    have := nodesSize_children n
    simp only [nodesSize_cons, reduceCtorEq, iff_false]
    omega

theorem nodesSize_flatMap_children (nodes : List Node) :
    nodesSize (nodes.flatMap Node.children) + nodes.length = nodesSize nodes := by
  induction nodes with
  | nil => rfl
  | cons n rest ih =>
    have := nodesSize_children n
    simp only [List.flatMap_cons, nodesSize_append, List.length_cons, nodesSize_cons]
    omega

theorem nodesSize_level (root : Node) (depth : Nat) : nodesSize (root.level depth) ≤ nodeSize root - depth := by
  induction depth with
  | zero => simp [Node.level]
  | succ depth ih =>
    have step := nodesSize_flatMap_children (root.level depth)
    by_cases empty : root.level depth = []
    · simp [Node.level, empty]
    · have := List.length_pos_of_ne_nil empty
      simp only [Node.level]
      omega

/-- There are no more levels than nodes. -/
theorem level_eq_nil {root : Node} {depth : Nat} (deep : nodeSize root ≤ depth) : root.level depth = [] := by
  have := nodesSize_level root depth
  exact nodesSize_eq_zero_iff.mp (by omega)

/-! ## Steps of the traversal -/

/-- A traversal on its way. -/
structure Traversal where
  /-- The nodes that were taken, in order. -/
  taken : List Node
  /-- The nodes that wait in the queue. -/
  queue : List Node

namespace Traversal

/-- The traversal of a module, before its first step. -/
def start (m : Module) : Traversal := ⟨[], [.module m.body]⟩

/-- Takes the first node of the queue, and puts its children at the end. -/
def step (t : Traversal) : Traversal :=
  match t.queue with
  | [] => t
  | n :: rest => ⟨t.taken ++ [n], rest ++ n.children⟩

theorem iterate_step_ended (steps : Nat) (taken : List Node) : step^[steps] ⟨taken, []⟩ = ⟨taken, []⟩ :=
  Function.iterate_fixed rfl steps

/-- The nodes at the head of a queue are taken first, and their children come after the rest of the queue. -/
theorem iterate_step_append (taken front back : List Node) :
    step^[front.length] ⟨taken, front ++ back⟩ = ⟨taken ++ front, back ++ front.flatMap Node.children⟩ := by
  induction front generalizing taken back with
  | nil => simp
  | cons n rest ih =>
    have taking : step ⟨taken, n :: rest ++ back⟩ = ⟨taken ++ [n], rest ++ (back ++ n.children)⟩ := by simp [step]
    rw [List.length_cons, Function.iterate_succ_apply, taking, ih]
    simp

/-- After as many steps as there are nodes in a queue and below, all of them are taken. -/
theorem iterate_step (taken front back : List Node) :
    step^[nodesSize front + nodesSize back] ⟨taken, front ++ back.reverse⟩ = ⟨taken ++ breadthFirst front back, []⟩ := by
  fun_induction breadthFirst front back generalizing taken with
  | case1 => simp
  | case2 n back ih =>
    -- the back of the queue is turned round, which is no step
    have turned := ih taken
    rw [nodesSize_reverse, nodesSize_nil, Nat.add_zero, List.reverse_nil, List.append_nil] at turned
    rw [nodesSize_nil, Nat.zero_add, List.nil_append, turned]
  | case3 n front back ih =>
    have size : nodesSize (n :: front) + nodesSize back =
        nodesSize front + nodesSize (n.children.reverse ++ back) + 1 := by
      have := nodesSize_children n
      simp only [nodesSize_cons, nodesSize_append, nodesSize_reverse]
      omega
    have taking : step ⟨taken, n :: front ++ back.reverse⟩ =
        ⟨taken ++ [n], front ++ (n.children.reverse ++ back).reverse⟩ := by simp [step]
    rw [size, Function.iterate_succ_apply, taking, ih, List.append_assoc, List.singleton_append]

theorem nodesSize_step (t : Traversal) : nodesSize t.step.queue = nodesSize t.queue - 1 := by
  obtain ⟨taken, queue⟩ := t
  cases queue with
  | nil => rfl
  | cons n rest =>
    have := nodesSize_children n
    simp only [step, nodesSize_append, nodesSize_cons]
    omega

theorem nodesSize_iterate_step (t : Traversal) (steps : Nat) :
    nodesSize (step^[steps] t).queue = nodesSize t.queue - steps := by
  induction steps with
  | zero => rfl
  | succ steps ih =>
    rw [Function.iterate_succ_apply', nodesSize_step, ih]
    omega

/-- A traversal ends in one way only. -/
theorem taken_unique {t : Traversal} {steps others : Nat} {nodes again : List Node}
    (ends : step^[steps] t = ⟨nodes, []⟩) (endsAgain : step^[others] t = ⟨again, []⟩) : nodes = again := by
  have first : step^[others + steps] t = ⟨nodes, []⟩ := by
    rw [Function.iterate_add_apply, ends, iterate_step_ended]
  have second : step^[others + steps] t = ⟨again, []⟩ := by
    rw [Nat.add_comm, Function.iterate_add_apply, endsAgain, iterate_step_ended]
  cases first.symm.trans second
  rfl

/-- Whole levels are taken one after the other. -/
theorem exists_steps_levels (root : Node) (depth : Nat) :
    ∃ steps, step^[steps] ⟨[], [root]⟩ = ⟨(List.range depth).flatMap root.level, root.level depth⟩ := by
  induction depth with
  | zero => exact ⟨0, rfl⟩
  | succ depth ih =>
    obtain ⟨steps, above⟩ := ih
    refine ⟨(root.level depth).length + steps, ?_⟩
    have next := iterate_step_append ((List.range depth).flatMap root.level) (root.level depth) []
    rw [List.append_nil, List.nil_append] at next
    rw [Function.iterate_add_apply, above, next, List.range_succ, List.flatMap_append, List.flatMap_singleton]
    rfl

end Traversal

/-- The nodes of a tree, breadth first, are those of its levels. -/
theorem breadthFirst_levels (root : Node) :
    breadthFirst [root] [] = (List.range (nodeSize root)).flatMap root.level := by
  obtain ⟨steps, levels⟩ := Traversal.exists_steps_levels root (nodeSize root)
  rw [level_eq_nil (Nat.le_refl _)] at levels
  exact Traversal.taken_unique (Traversal.iterate_step [] [root] []) levels

/-- A tree is not deeper than it has nodes. -/
theorem length_lt_of_at? {root node : Node} {position : List Nat} (here : root.at? position = some node) :
    position.length < nodeSize root := by
  by_contra deep
  have listed : node ∈ root.level position.length := by
    rw [← Node.nodes_placedLevel]
    exact List.mem_map.mpr ⟨(position, node), Node.mem_placedLevel_iff.mpr ⟨rfl, here⟩, rfl⟩
  rw [level_eq_nil (Nat.le_of_not_lt deep)] at listed
  cases listed

/-- The positions of a tree, in the order in which its nodes are taken. -/
def positions (root : Node) : List (List Nat) :=
  (List.range (nodeSize root)).flatMap fun depth => (root.placedLevel depth).map Prod.fst

theorem mem_positions_iff {root : Node} {position : List Nat} :
    position ∈ positions root ↔ (root.at? position).isSome = true := by
  simp only [positions, List.mem_flatMap, List.mem_range, List.mem_map, Prod.exists, exists_and_right, exists_eq_right,
    Node.mem_placedLevel_iff, Option.isSome_iff_exists]
  constructor
  · rintro ⟨depth, -, node, -, here⟩
    exact ⟨node, here⟩
  · rintro ⟨node, here⟩
    exact ⟨position.length, length_lt_of_at? here, node, rfl, here⟩

/-- The shorter positions come first, and those of one length come from left to right. -/
theorem pairwise_positions (root : Node) : (positions root).Pairwise (List.Shortlex (· < ·)) := by
  refine List.pairwise_flatMap.mpr ⟨?_, List.pairwise_lt_range.imp ?_⟩
  · intro depth _
    refine List.pairwise_map.mpr ((Node.pairwise_placedLevel root depth).imp_of_mem ?_)
    rintro ⟨position, node⟩ ⟨other, otherNode⟩ here there less
    exact .of_lex ((Node.mem_placedLevel_iff.mp here).1.trans (Node.mem_placedLevel_iff.mp there).1.symm) less
  · intro depth deeper less position isPosition other isOther
    obtain ⟨⟨position, node⟩, here, rfl⟩ := List.mem_map.mp isPosition
    obtain ⟨⟨other, otherNode⟩, there, rfl⟩ := List.mem_map.mp isOther
    refine .of_length_lt ?_
    rwa [(Node.mem_placedLevel_iff.mp here).1, (Node.mem_placedLevel_iff.mp there).1]

theorem nodes_positions (root : Node) : (positions root).map root.at? = (breadthFirst [root] []).map some := by
  have each (depth : Nat) :
      ((root.placedLevel depth).map Prod.fst).map root.at? = (root.level depth).map some := by
    rw [← Node.nodes_placedLevel, List.map_map, List.map_map]
    refine List.map_congr_left ?_
    rintro ⟨position, node⟩ here
    exact (Node.mem_placedLevel_iff.mp here).2
  rw [breadthFirst_levels, positions, List.map_flatMap, List.map_flatMap]
  simp only [each]

/-- Every node of a tree stands in a list once: the nodes are those at the positions of the tree, shorter positions first,
and positions of one length from left to right. -/
structure IsLevelOrder (root : Node) (nodes : List Node) (positions : List (List Nat)) : Prop where
  once : positions.Nodup
  ascending : positions.Pairwise (List.Shortlex (· < ·))
  all : ∀ position, position ∈ positions ↔ (root.at? position).isSome = true
  nodes : positions.map root.at? = nodes.map some

theorem isLevelOrder_breadthFirst (root : Node) : IsLevelOrder root (breadthFirst [root] []) (positions root) where
  once := by
    refine (pairwise_positions root).imp ?_
    rintro position other less rfl
    exact irrefl _ less
  ascending := pairwise_positions root
  all _ := mem_positions_iff
  nodes := nodes_positions root

/-! ## Names -/

/-- A name stands at a place of a list, was not seen before the list, and does not stand at an earlier place of it. -/
structure IsFirst (seen names : List String) (place : Nat) (name : String) : Prop where
  here : names[place]? = some name
  new : name ∉ seen
  first : name ∉ names.take place

theorem isFirst_zero {seen rest : List String} {head name : String} :
    IsFirst seen (head :: rest) 0 name ↔ head = name ∧ name ∉ seen := by
  constructor
  · rintro ⟨here, new, -⟩
    exact ⟨Option.some.inj here, new⟩
  · rintro ⟨rfl, new⟩
    exact ⟨rfl, new, List.not_mem_nil⟩

theorem isFirst_succ {seen rest : List String} {head name : String} {place : Nat} :
    IsFirst seen (head :: rest) (place + 1) name ↔ IsFirst (head :: seen) rest place name := by
  constructor
  · rintro ⟨here, new, first⟩
    rw [List.take_succ_cons, List.mem_cons, not_or] at first
    exact ⟨here, by simp [first.1, new], first.2⟩
  · rintro ⟨here, new, first⟩
    rw [List.mem_cons, not_or] at new
    exact ⟨here, new.2, by simp [new.1, first]⟩

/-- The names that are kept of a list are those at the places where a name stands for the first time. -/
theorem exists_places_firstOccurrences (seen names : List String) :
    ∃ places : List Nat, places.Pairwise (· < ·) ∧ (∀ place, place ∈ places ↔ ∃ name, IsFirst seen names place name) ∧
      (firstOccurrences seen names).map some = places.map (names[·]?) := by
  induction names generalizing seen with
  | nil =>
    refine ⟨[], .nil, ?_, rfl⟩
    intro place
    simp only [List.not_mem_nil, false_iff, not_exists]
    rintro name ⟨⟨⟩⟩
  | cons head rest ih =>
    obtain ⟨places, ascending, kept, found⟩ := ih (head :: seen)
    have shifted : (places.map (· + 1)).Pairwise (· < ·) := List.pairwise_map.mpr (ascending.imp Nat.succ_lt_succ)
    have later (place : Nat) : place + 1 ∈ places.map (· + 1) ↔ ∃ name, IsFirst seen (head :: rest) (place + 1) name := by
      simp only [List.mem_map, Nat.add_right_cancel_iff, exists_eq_right, kept, isFirst_succ]
    have values : (firstOccurrences (head :: seen) rest).map some = (places.map (· + 1)).map ((head :: rest)[·]?) := by
      rw [found, List.map_map]
      rfl
    by_cases known : head ∈ seen
    · have same : firstOccurrences seen rest = firstOccurrences (head :: seen) rest :=
        firstOccurrences_congr (fun n => by simpa using fun equal => equal ▸ known) rest
      refine ⟨places.map (· + 1), shifted, ?_, ?_⟩
      · intro place
        cases place with
        | zero => simp [isFirst_zero, known]
        | succ place => exact later place
      · rw [firstOccurrences, if_pos known, same, values]
    · refine ⟨0 :: places.map (· + 1), List.pairwise_cons.mpr ⟨by simp, shifted⟩, ?_, ?_⟩
      · intro place
        cases place with
        | zero => simp [isFirst_zero, known]
        | succ place => simpa using later place
      · rw [firstOccurrences, if_neg known, List.map_cons, values]
        rfl

/-- The names of the `global` statements of a module, one level of the tree after the other. -/
def levelNames (m : Module) : List String :=
  (List.range (nodeSize (.module m.body))).flatMap fun depth =>
    ((Node.module m.body).level depth).flatMap declaredGlobal

theorem globalNames_eq_levelNames (m : Module) : globalNames m = levelNames m := by
  rw [globalNames, walk, breadthFirst_levels, List.flatMap_assoc, levelNames]

-- what a function declares comes after what the statements beside it declare
example : levelNames ⟨[.function false "f" (.tuple []) [.globalNames ["a"]] [] none, .globalNames ["b"]]⟩ = ["b", "a"] := by
  decide

/-- A name among those of the `global` statements is added to the variables at its place: it is not bound in the module,
was not declared before, and the options let it stand. -/
structure IsAdded (options : Options) (m : Module) (place : Nat) (name : String) : Prop where
  declared : (levelNames m)[place]? = some name
  unbound : ¬ IsBound m name
  first : name ∉ (levelNames m).take place
  changes : ¬ (options.skipFinal = true ∧ IsConstant m name)
  plain : ¬ (options.skipDunder = true ∧ IsDunder name)

theorem exists_places_added (options : Options) (m : Module) :
    ∃ places : List Nat, places.Pairwise (· < ·) ∧
      (∀ place, place ∈ places ↔ ∃ name, IsAdded options m place name) ∧
      (extract { options with includeGlobalDeclarations := true } m).map some =
        (extract { options with includeGlobalDeclarations := false } m).map some ++
          places.map ((levelNames m)[·]?) := by
  obtain ⟨places, ascending, kept, found⟩ :=
    exists_places_firstOccurrences ((blockBindings m.body).map (·.name)) (levelNames m)
  refine ⟨places.filter fun place => (levelNames m)[place]?.any (keeps options (finalNames m)),
    ascending.filter _, ?_, ?_⟩
  · intro place
    rw [List.mem_filter, kept, Option.any_eq_true]
    constructor
    · rintro ⟨⟨name, here, unbound, first⟩, other, there, stands⟩
      obtain rfl : name = other := Option.some.inj (here.symm.trans there)
      rw [keeps_iff, mem_finalNames_iff] at stands
      exact ⟨name, here, mt mem_names_iff.mpr unbound, first, stands.1, stands.2⟩
    · rintro ⟨name, here, unbound, first, changes, plain⟩
      refine ⟨⟨name, here, mt mem_names_iff.mp unbound, first⟩, name, here, ?_⟩
      rw [keeps_iff, mem_finalNames_iff]
      exact ⟨changes, plain⟩
  · rw [extract_with_globals, List.map_append, globalNames_eq_levelNames]
    have filtered (names : List String) : (names.filter (keeps options (finalNames m))).map some =
        (names.map some).filter (Option.any (keeps options (finalNames m))) := by
      rw [List.filter_map]
      rfl
    rw [filtered, found, List.filter_map]
    rfl

/-- The traversal ends after as many steps as there are nodes. It takes every node of the tree once: the nodes in the order
of their depth, and those of one depth from left to right. So the names that `global` statements add to the variables of a
module stand in the order of the levels of the tree, and of the statements of each level: these names are, of the names of
all `global` statements taken level by level, those that are not bound or declared before and that the options let stand. -/
theorem globals_level_by_level (options : Options) (m : Module) :
    (∀ steps, (Traversal.step^[steps] (.start m)).queue = [] ↔ nodeSize (.module m.body) ≤ steps) ∧
      (Traversal.step^[nodeSize (.module m.body)] (.start m)).taken = walk m ∧
      (∃ positions, IsLevelOrder (.module m.body) (walk m) positions) ∧
      ∃ places : List Nat, places.Pairwise (· < ·) ∧
        (∀ place, place ∈ places ↔ ∃ name, IsAdded options m place name) ∧
        (extract { options with includeGlobalDeclarations := true } m).map some =
          (extract { options with includeGlobalDeclarations := false } m).map some ++
            places.map ((levelNames m)[·]?) := by
  refine ⟨?_, ?_, ⟨_, isLevelOrder_breadthFirst _⟩, exists_places_added options m⟩
  · intro steps
    rw [← nodesSize_eq_zero_iff, Traversal.nodesSize_iterate_step]
    simp only [Traversal.start, nodesSize_cons, nodesSize_nil]
    omega
  · have ends := Traversal.iterate_step [] [.module m.body] []
    exact congrArg Traversal.taken ends

end Globals

end GlobalSurvey
