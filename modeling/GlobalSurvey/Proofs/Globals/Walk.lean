import GlobalSurvey.Globals.Walk
import Mathlib.Logic.Relation

/-!
# The traversal finds the whole tree

A queue of trees gives all their nodes, at any depth, and nothing else (`mem_breadthFirst_iff`). So the names of `global`
statements are found wherever such a statement stands (`mem_globalNames_iff`).
-/
namespace GlobalSurvey.Globals
open GlobalSurvey.Source

/-- The node stands in the tree, at any depth. -/
abbrev Within (root node : Node) : Prop := Relation.ReflTransGen (fun above below => below ∈ above.children) root node

/-- A node in a tree is its root, or stands in one of the trees below the root. -/
theorem within_iff {root node : Node} : Within root node ↔ node = root ∨ ∃ child ∈ root.children, Within child node := by
  rw [Within, Relation.ReflTransGen.cases_head_iff, eq_comm]

/-- The nodes of the trees in a queue are those that stand in one of them. -/
theorem mem_breadthFirst_iff {node : Node} {front back : List Node} :
    node ∈ breadthFirst front back ↔ ∃ root, (root ∈ front ∨ root ∈ back) ∧ Within root node := by
  fun_induction breadthFirst front back with
  | case1 => simp
  | case2 n back ih =>
    -- the queue is turned round, with the same trees in it
    rw [ih]
    simp [or_comm]
  | case3 n front back ih =>
    rw [List.mem_cons, ih]
    constructor
    · rintro (rfl | ⟨root, waiting, within⟩)
      · exact ⟨node, .inl List.mem_cons_self, .refl⟩
      · rcases waiting with inFront | inBack
        · exact ⟨root, .inl (List.mem_cons_of_mem n inFront), within⟩
        · rcases List.mem_append.mp inBack with isChild | inBack
          · exact ⟨n, .inl List.mem_cons_self, within_iff.mpr (.inr ⟨root, List.mem_reverse.mp isChild, within⟩)⟩
          · exact ⟨root, .inr inBack, within⟩
    · rintro ⟨root, waiting, within⟩
      rcases waiting with inFront | inBack
      · rcases List.mem_cons.mp inFront with rfl | inFront
        · rcases within_iff.mp within with rfl | ⟨child, isChild, within⟩
          · exact .inl rfl
          · exact .inr ⟨child, .inr (List.mem_append_left _ (List.mem_reverse.mpr isChild)), within⟩
        · exact .inr ⟨root, .inl inFront, within⟩
      · exact .inr ⟨root, .inr (List.mem_append_right _ inBack), within⟩

theorem mem_walk_iff {m : Module} {node : Node} : node ∈ walk m ↔ Within (.module m.body) node := by
  simp [walk, mem_breadthFirst_iff]

theorem mem_declaredGlobal_iff {name : String} {node : Node} :
    name ∈ declaredGlobal node ↔ ∃ names, node = .stmt (.globalNames names) ∧ name ∈ names := by
  unfold declaredGlobal
  split
  · simp
  · rename_i other
    simp only [List.not_mem_nil, false_iff, not_exists, not_and]
    rintro names rfl
    exact absurd rfl (other names)

/-- A name is declared as global if a `global` statement at any depth of the tree lists it. -/
theorem mem_globalNames_iff {m : Module} {name : String} :
    name ∈ globalNames m ↔ ∃ names, Within (.module m.body) (.stmt (.globalNames names)) ∧ name ∈ names := by
  rw [globalNames, List.mem_flatMap]
  constructor
  · rintro ⟨node, walked, listed⟩
    obtain ⟨names, rfl, listed⟩ := mem_declaredGlobal_iff.mp listed
    exact ⟨names, mem_walk_iff.mp walked, listed⟩
  · rintro ⟨names, within, listed⟩
    exact ⟨.stmt (.globalNames names), mem_walk_iff.mpr within, mem_declaredGlobal_iff.mpr ⟨names, rfl, listed⟩⟩

end GlobalSurvey.Globals
