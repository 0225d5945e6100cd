import GlobalSurvey.Globals.Binding
import GlobalSurvey.Globals.Walk

/-!
# Which names the statements of a block bind

`InTarget`, `IsTargetOf` and `Reachable` say in terms of the grammar which names are bound where a block stands, and
`MeansFinal` which of them are declared as constants. The collected bindings are these and no others
(`mem_blockBindings_iff`).
-/
namespace GlobalSurvey.Globals
open GlobalSurvey.Source

/-! ## Names in a target -/

/-- The name stands in the target, through any nesting of tuples, lists and stars. -/
inductive InTarget (name : String) : Expr → Prop
  | name : InTarget name (.name name)
  | tuple {elements : List Expr} {element : Expr} (member : element ∈ elements) (inside : InTarget name element) :
      InTarget name (.tuple elements)
  | list {elements : List Expr} {element : Expr} (member : element ∈ elements) (inside : InTarget name element) :
      InTarget name (.list elements)
  | starred {value : Expr} (inside : InTarget name value) : InTarget name (.starred value)

theorem mem_targetNamesOfAll {name : String} {targets : List Expr} :
    name ∈ targetNamesOfAll targets ↔ ∃ target ∈ targets, name ∈ targetNames target := by
  induction targets with
  | nil => simp [targetNamesOfAll]
  | cons target rest ih => simp [targetNamesOfAll, ih]

theorem inTarget_of_mem {name : String} : ∀ {target : Expr}, name ∈ targetNames target → InTarget name target
  | .name id, member => by
    obtain rfl : name = id := by simpa [targetNames] using member
    exact .name
  | .tuple elements, member => by
    rw [targetNames] at member
    obtain ⟨element, inside, named⟩ := mem_targetNamesOfAll.mp member
    exact .tuple inside (inTarget_of_mem named)
  | .list elements, member => by
    rw [targetNames] at member
    obtain ⟨element, inside, named⟩ := mem_targetNamesOfAll.mp member
    exact .list inside (inTarget_of_mem named)
  | .starred value, member => by
    rw [targetNames] at member
    exact .starred (inTarget_of_mem member)
  | .attribute _ _, member => by simp [targetNames] at member
  | .subscript _ _, member => by simp [targetNames] at member
  | .other _ _, member => by simp [targetNames] at member

/-- The names collected from a target are those that stand in it. -/
theorem mem_targetNames_iff {name : String} {target : Expr} : name ∈ targetNames target ↔ InTarget name target := by
  refine ⟨inTarget_of_mem, ?_⟩
  intro inside
  induction inside with
  | name => simp [targetNames]
  | tuple member _ ih =>
    rw [targetNames]
    exact mem_targetNamesOfAll.mpr ⟨_, member, ih⟩
  | list member _ ih =>
    rw [targetNames]
    exact mem_targetNamesOfAll.mpr ⟨_, member, ih⟩
  | starred _ ih =>
    rw [targetNames]
    exact ih

theorem mem_targetNamesOfAll_iff {name : String} {targets : List Expr} :
    name ∈ targetNamesOfAll targets ↔ ∃ target ∈ targets, InTarget name target := by
  simp only [mem_targetNamesOfAll, mem_targetNames_iff]

/-! ## Constants -/

/-- The expression is the name `Final`, or a member of that name of anything. -/
inductive NamesFinal : Expr → Prop
  | name : NamesFinal (.name "Final")
  | member {value : Expr} : NamesFinal (.attribute value "Final")

/-- The annotation is `Final`, `x.Final`, or one subscript of those. -/
inductive MeansFinal : Expr → Prop
  | plain {hint : Expr} (final : NamesFinal hint) : MeansFinal hint
  | subscript {hint index : Expr} (final : NamesFinal hint) : MeansFinal (.subscript hint index)

theorem namesFinal_iff {e : Expr} : namesFinal e = true ↔ NamesFinal e := by
  constructor
  · intro final
    unfold namesFinal at final
    split at final
    · obtain rfl := beq_iff_eq.mp final
      exact .name
    · obtain rfl := beq_iff_eq.mp final
      exact .member
    · cases final
  · rintro (_ | _) <;> rfl

theorem isFinal_iff {hint : Expr} : isFinal hint = true ↔ MeansFinal hint := by
  constructor
  · intro final
    unfold isFinal at final
    split at final
    · exact .subscript (namesFinal_iff.mp final)
    · exact .plain (namesFinal_iff.mp final)
  · rintro (final | final)
    · cases final <;> rfl
    · exact namesFinal_iff.mpr final

/-! ## What a statement binds itself -/

/-- The expression is a target of the statement. -/
inductive IsTargetOf : Expr → Stmt → Prop
  | assign {targets : List Expr} {target value : Expr} (member : target ∈ targets) :
      IsTargetOf target (.assign targets value)
  | annotated {target annotation : Expr} {value : Option Expr} : IsTargetOf target (.annotated target annotation value)
  | augmented {target value : Expr} : IsTargetOf target (.augmented target value)
  | forLoop {isAsync : Bool} {target source : Expr} {body orelse : List Stmt} :
      IsTargetOf target (.forLoop isAsync target source body orelse)
  | withItem {isAsync : Bool} {items : List WithItem} {body : List Stmt} {item : WithItem} {target : Expr}
      (member : item ∈ items) (named : item.target = some target) : IsTargetOf target (.withItems isAsync items body)

/-- The statement declares its target as a constant. -/
inductive DeclaresConstant : Stmt → Prop
  | annotated {target annotation : Expr} {value : Option Expr} (final : MeansFinal annotation) :
      DeclaresConstant (.annotated target annotation value)

/-- The statement itself binds the name of the binding, as a constant exactly if the binding says so. -/
structure Binds (s : Stmt) (b : Binding) : Prop where
  target : ∃ target, IsTargetOf target s ∧ InTarget b.name target
  final : b.final = true ↔ DeclaresConstant s

/-- A statement binds all the names in its targets. -/
theorem exists_binds {s : Stmt} {target : Expr} {name : String} (isTarget : IsTargetOf target s)
    (inside : InTarget name target) : ∃ final, Binds s ⟨name, final⟩ := by
  by_cases constant : DeclaresConstant s
  · exact ⟨true, ⟨target, isTarget, inside⟩, by simp [constant]⟩
  · exact ⟨false, ⟨target, isTarget, inside⟩, by simp [constant]⟩

theorem mem_plain {b : Binding} {names : List String} : b ∈ plain names ↔ b.name ∈ names ∧ b.final = false := by
  cases b with
  | mk name final =>
    constructor
    · intro member
      obtain ⟨n, inside, same⟩ := List.mem_map.mp member
      cases same
      exact ⟨inside, rfl⟩
    · rintro ⟨inside, rfl⟩
      exact List.mem_map_of_mem inside

/-! ## Blocks -/

/-- The block is one of those that the statement runs in the scope in which it stands. -/
inductive IsOwnBlock : List Stmt → Stmt → Prop
  | forBody {isAsync : Bool} {target source : Expr} {body orelse : List Stmt} :
      IsOwnBlock body (.forLoop isAsync target source body orelse)
  | forElse {isAsync : Bool} {target source : Expr} {body orelse : List Stmt} :
      IsOwnBlock orelse (.forLoop isAsync target source body orelse)
  | whileBody {test : Expr} {body orelse : List Stmt} : IsOwnBlock body (.whileLoop test body orelse)
  | whileElse {test : Expr} {body orelse : List Stmt} : IsOwnBlock orelse (.whileLoop test body orelse)
  | ifBody {test : Expr} {body orelse : List Stmt} : IsOwnBlock body (.ifElse test body orelse)
  | ifElse {test : Expr} {body orelse : List Stmt} : IsOwnBlock orelse (.ifElse test body orelse)
  | withBody {isAsync : Bool} {items : List WithItem} {body : List Stmt} :
      IsOwnBlock body (.withItems isAsync items body)
  | tryBody {grouped : Bool} {body orelse final : List Stmt} {handlers : List Handler} :
      IsOwnBlock body (.tryBlock grouped body handlers orelse final)
  | tryElse {grouped : Bool} {body orelse final : List Stmt} {handlers : List Handler} :
      IsOwnBlock orelse (.tryBlock grouped body handlers orelse final)
  | tryFinal {grouped : Bool} {body orelse final : List Stmt} {handlers : List Handler} :
      IsOwnBlock final (.tryBlock grouped body handlers orelse final)
  | handler {grouped : Bool} {body orelse final block : List Stmt} {handlers : List Handler} {exception : Option Expr}
      {name : Option String} (member : .mk exception name block ∈ handlers) :
      IsOwnBlock block (.tryBlock grouped body handlers orelse final)

/-- The statement is reached from the block through such blocks only. -/
inductive Reachable (body : List Stmt) : Stmt → Prop
  | here {s : Stmt} (member : s ∈ body) : Reachable body s
  | inner {s outer : Stmt} {block : List Stmt} (reached : Reachable body outer) (own : IsOwnBlock block outer)
      (member : s ∈ block) : Reachable body s

theorem mem_blockBindings {b : Binding} {body : List Stmt} :
    b ∈ blockBindings body ↔ ∃ s ∈ body, b ∈ stmtBindings s := by
  induction body with
  | nil => simp [blockBindings]
  | cons s rest ih => simp [blockBindings, ih]

theorem mem_handlerBindings {b : Binding} {handlers : List Handler} :
    b ∈ handlerBindings handlers ↔
      ∃ exception name body, .mk exception name body ∈ handlers ∧ b ∈ blockBindings body := by
  induction handlers with
  | nil => simp [handlerBindings]
  | cons h rest ih =>
    cases h with
    | mk exception name body =>
      rw [handlerBindings, List.mem_append, ih]
      constructor
      · rintro (own | ⟨exception', name', body', member, own⟩)
        · exact ⟨exception, name, body, List.mem_cons_self, own⟩
        · exact ⟨exception', name', body', List.mem_cons_of_mem _ member, own⟩
      · rintro ⟨exception', name', body', member, own⟩
        rcases List.mem_cons.mp member with same | later
        · cases same
          exact .inl own
        · exact .inr ⟨exception', name', body', later, own⟩

/-! ## The bindings of a statement -/

theorem mem_stmtBindings_of_binds {s : Stmt} {b : Binding} (binds : Binds s b) : b ∈ stmtBindings s := by
  obtain ⟨⟨target, isTarget, inside⟩, final⟩ := binds
  have open_ : ¬ DeclaresConstant s → b.final = false := fun open_ => by
    cases flag : b.final with
    | false => rfl
    | true => exact absurd (final.mp flag) open_
  cases isTarget with
  | assign member =>
    rw [stmtBindings]
    exact mem_plain.mpr ⟨mem_targetNamesOfAll_iff.mpr ⟨target, member, inside⟩, open_ (by rintro ⟨⟩)⟩
  | @annotated _ hint value =>
    rw [stmtBindings]
    refine List.mem_map.mpr ⟨b.name, mem_targetNames_iff.mpr inside, ?_⟩
    have same : isFinal hint = b.final := by
      rw [Bool.eq_iff_iff, isFinal_iff, final]
      exact ⟨.annotated, fun ⟨means⟩ => means⟩
    rw [same]
  | augmented =>
    rw [stmtBindings]
    exact mem_plain.mpr ⟨mem_targetNames_iff.mpr inside, open_ (by rintro ⟨⟩)⟩
  | forLoop =>
    rw [stmtBindings]
    have own := mem_plain.mpr ⟨mem_targetNames_iff.mpr inside, open_ (by rintro ⟨⟩)⟩
    exact List.mem_append_left _ (List.mem_append_left _ own)
  | withItem member named =>
    rw [stmtBindings]
    have listed := mem_targetNamesOfAll_iff.mpr ⟨target, List.mem_filterMap.mpr ⟨_, member, named⟩, inside⟩
    exact List.mem_append_left _ (mem_plain.mpr ⟨listed, open_ (by rintro ⟨⟩)⟩)

theorem mem_stmtBindings_of_ownBlock {s : Stmt} {b : Binding} {block : List Stmt} (own : IsOwnBlock block s)
    (member : b ∈ blockBindings block) : b ∈ stmtBindings s := by
  cases own with
  | handler clause =>
    rw [stmtBindings]
    exact List.mem_append_right _ (mem_handlerBindings.mpr ⟨_, _, block, clause, member⟩)
  | _ => simp [stmtBindings, member]

/-- A plain binding is one of the statement itself, if the name is in a target and no constant is declared. -/
theorem binds_of_plain {s : Stmt} {b : Binding} {names : List String} (variable_ : ¬ DeclaresConstant s)
    (targets : ∀ name ∈ names, ∃ target, IsTargetOf target s ∧ InTarget name target) (member : b ∈ plain names) :
    Binds s b := by
  obtain ⟨named, final⟩ := mem_plain.mp member
  exact ⟨targets b.name named, by simp [final, variable_]⟩

/-- The bindings of a statement are its own and those of the blocks that it runs. -/
theorem mem_stmtBindings_iff {s : Stmt} {b : Binding} :
    b ∈ stmtBindings s ↔ Binds s b ∨ ∃ block, IsOwnBlock block s ∧ b ∈ blockBindings block := by
  constructor
  · intro member
    cases s with
    | assign targets value =>
      rw [stmtBindings] at member
      refine .inl (binds_of_plain (by rintro ⟨⟩) ?_ member)
      intro name named
      obtain ⟨target, inside, named⟩ := mem_targetNamesOfAll_iff.mp named
      exact ⟨target, .assign inside, named⟩
    | annotated target annotation value =>
      rw [stmtBindings] at member
      obtain ⟨name, named, rfl⟩ := List.mem_map.mp member
      refine .inl ⟨⟨target, .annotated, mem_targetNames_iff.mp named⟩, ?_⟩
      exact isFinal_iff.trans ⟨.annotated, fun ⟨means⟩ => means⟩
    | augmented target value =>
      rw [stmtBindings] at member
      refine .inl (binds_of_plain (by rintro ⟨⟩) ?_ member)
      exact fun name named => ⟨target, .augmented, mem_targetNames_iff.mp named⟩
    | forLoop isAsync target source body orelse =>
      rw [stmtBindings, List.mem_append, List.mem_append] at member
      rcases member with (own | inBody) | inElse
      · refine .inl (binds_of_plain (by rintro ⟨⟩) ?_ own)
        exact fun name named => ⟨target, .forLoop, mem_targetNames_iff.mp named⟩
      · exact .inr ⟨body, .forBody, inBody⟩
      · exact .inr ⟨orelse, .forElse, inElse⟩
    | whileLoop test body orelse =>
      rw [stmtBindings, List.mem_append] at member
      rcases member with inBody | inElse
      · exact .inr ⟨body, .whileBody, inBody⟩
      · exact .inr ⟨orelse, .whileElse, inElse⟩
    | ifElse test body orelse =>
      rw [stmtBindings, List.mem_append] at member
      rcases member with inBody | inElse
      · exact .inr ⟨body, .ifBody, inBody⟩
      · exact .inr ⟨orelse, .ifElse, inElse⟩
    | withItems isAsync items body =>
      rw [stmtBindings, List.mem_append] at member
      rcases member with own | inBody
      · refine .inl (binds_of_plain (by rintro ⟨⟩) ?_ own)
        intro name named
        obtain ⟨target, listed, named⟩ := mem_targetNamesOfAll_iff.mp named
        obtain ⟨item, inside, same⟩ := List.mem_filterMap.mp listed
        exact ⟨target, .withItem inside same, named⟩
      · exact .inr ⟨body, .withBody, inBody⟩
    | tryBlock grouped body handlers orelse final =>
      rw [stmtBindings, List.mem_append, List.mem_append, List.mem_append] at member
      rcases member with ((inBody | inElse) | inFinal) | inHandler
      · exact .inr ⟨body, .tryBody, inBody⟩
      · exact .inr ⟨orelse, .tryElse, inElse⟩
      · exact .inr ⟨final, .tryFinal, inFinal⟩
      · obtain ⟨exception, name, block, clause, inside⟩ := mem_handlerBindings.mp inHandler
        exact .inr ⟨block, .handler clause, inside⟩
    | _ => simp [stmtBindings] at member
  · rintro (binds | ⟨block, own, member⟩)
    · exact mem_stmtBindings_of_binds binds
    · exact mem_stmtBindings_of_ownBlock own member

/-! ## The bindings of a block -/

theorem stmtSize_le_of_mem {s : Stmt} {body : List Stmt} (member : s ∈ body) : stmtSize s ≤ blockSize body := by
  induction body with
  | nil => cases member
  | cons first rest ih =>
    rw [blockSize]
    rcases List.mem_cons.mp member with rfl | later
    · omega
    · have := ih later
      omega

theorem blockSize_lt_of_mem {handlers : List Handler} {exception : Option Expr} {name : Option String}
    {body : List Stmt} (member : .mk exception name body ∈ handlers) : blockSize body < handlersSize handlers := by
  induction handlers with
  | nil => cases member
  | cons first rest ih =>
    cases first with
    | mk exception' name' body' =>
      rw [handlersSize]
      rcases List.mem_cons.mp member with same | later
      · cases same
        omega
      · have := ih later
        omega

/-- A block that a statement runs is smaller than the statement. -/
theorem blockSize_lt_of_ownBlock {block : List Stmt} {s : Stmt} (own : IsOwnBlock block s) :
    blockSize block < stmtSize s := by
  cases own with
  | handler clause =>
    have := blockSize_lt_of_mem clause
    rw [stmtSize]
    omega
  | _ => simp only [stmtSize]; omega

/-- What is collected from a statement that is reached is bound by some statement that is reached. -/
theorem exists_binds_of_mem {body : List Stmt} {s : Stmt} {b : Binding} (reached : Reachable body s)
    (member : b ∈ stmtBindings s) : ∃ t, Reachable body t ∧ Binds t b := by
  rcases mem_stmtBindings_iff.mp member with binds | ⟨block, own, inside⟩
  · exact ⟨s, reached, binds⟩
  · obtain ⟨t, listed, collected⟩ := mem_blockBindings.mp inside
    have smaller : stmtSize t < stmtSize s :=
      Nat.lt_of_le_of_lt (stmtSize_le_of_mem listed) (blockSize_lt_of_ownBlock own)
    exact exists_binds_of_mem (.inner reached own listed) collected
termination_by stmtSize s

/-- What a statement that is reached collects is collected from the whole block. -/
theorem Reachable.mem_blockBindings {body : List Stmt} {s : Stmt} {b : Binding} (reached : Reachable body s)
    (member : b ∈ stmtBindings s) : b ∈ blockBindings body := by
  induction reached with
  | here inside => exact Globals.mem_blockBindings.mpr ⟨_, inside, member⟩
  | inner _ own inside ih =>
    exact ih (mem_stmtBindings_of_ownBlock own (Globals.mem_blockBindings.mpr ⟨_, inside, member⟩))

/-- The bindings collected from a block are those of the statements that are reached from it. -/
theorem mem_blockBindings_iff {body : List Stmt} {b : Binding} :
    b ∈ blockBindings body ↔ ∃ s, Reachable body s ∧ Binds s b := by
  constructor
  · intro member
    obtain ⟨s, listed, collected⟩ := mem_blockBindings.mp member
    exact exists_binds_of_mem (.here listed) collected
  · rintro ⟨s, reached, binds⟩
    exact reached.mem_blockBindings (mem_stmtBindings_of_binds binds)

end GlobalSurvey.Globals
