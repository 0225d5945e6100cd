import GlobalSurvey.Proofs.Globals.Extract
import GlobalSurvey.Proofs.Report.Facts

/-!
# The statements of a module in another order

Two modules of the same statements, in any order and with any repetition, bind the same names, declare the same names as
global and the same names as constants. The traversals may find them in quite different orders, but the variables of the
one are those of the other (`extract_perm`), so the line of the report is the same (`render_rearranged`).
-/
namespace GlobalSurvey.Globals
open GlobalSurvey.Source GlobalSurvey.Report

/-- More statements in a block reach more statements. -/
theorem Reachable.mono {body other : List Stmt} (sub : ∀ s ∈ body, s ∈ other) {s : Stmt} (reached : Reachable body s) :
    Reachable other s := by
  induction reached with
  | here member => exact .here (sub _ member)
  | inner _ own member ih => exact .inner ih own member

section
variable {a b : Module} (same : ∀ s, s ∈ a.body ↔ s ∈ b.body)
include same

theorem reachable_congr {s : Stmt} : Reachable a.body s ↔ Reachable b.body s :=
  ⟨.mono fun s => (same s).mp, .mono fun s => (same s).mpr⟩

/-- Below their roots the trees of both modules hold the same nodes. -/
theorem within_congr {node : Node} (below : ∀ body, node ≠ .module body) :
    Within (.module a.body) node ↔ Within (.module b.body) node := by
  have children : ∀ child, child ∈ (Node.module a.body).children ↔ child ∈ (Node.module b.body).children := by
    intro child
    simp only [Node.children, List.mem_map, same]
  rw [within_iff, within_iff]
  simp only [below, false_or, children]

theorem isBound_congr {name : String} : IsBound a name ↔ IsBound b name := by
  simp only [IsBound, reachable_congr same]

theorem isConstant_congr {name : String} : IsConstant a name ↔ IsConstant b name := by
  simp only [IsConstant, reachable_congr same]

theorem isDeclaredGlobal_congr {name : String} : IsDeclaredGlobal a name ↔ IsDeclaredGlobal b name := by
  have found (names : List String) : Within (.module a.body) (.stmt (.globalNames names)) ↔
      Within (.module b.body) (.stmt (.globalNames names)) := within_congr same (by simp)
  simp only [IsDeclaredGlobal, found]

/-- The variables of both modules are the same, if not in the same order. -/
theorem extract_perm (options : Options) : (extract options a).Perm (extract options b) := by
  refine (List.perm_ext_iff_of_nodup (nodup_extract options a) (nodup_extract options b)).mpr ?_
  intro name
  simp only [extract_eq, List.mem_filter, mem_firstOccurrences_iff, mem_mentions_iff, keeps_iff, mem_finalNames_iff,
    isBound_congr same, isConstant_congr same, isDeclaredGlobal_congr same]

/-- The line of a unit is the same for any two modules of the same statements, in whatever order they stand and however
often they are repeated. -/
theorem render_rearranged (options : Options) (unit : String) :
    (Record.make unit (extract options a)).render = (Record.make unit (extract options b)).render := by
  have facts : sortFacts (extract options a) = sortFacts (extract options b) :=
    sortFacts_eq_iff_perm.mpr (extract_perm same options)
  simp only [Record.make, facts]

end

/-- A module that assigns two variables, declares a third in a function, and declares a constant. -/
def sampleModule : Module where
  body :=
    [.assign [.name "b"] (.name "x"), .assign [.name "a"] (.name "x"),
      .function false "f" (.tuple []) [.globalNames ["c", "a"]] [] none,
      .annotated (.name "K") (.name "Final") none]

/-- The same statements from the last to the first, and all of them once more. -/
def rearrangedModule : Module := ⟨sampleModule.body.reverse ++ sampleModule.body⟩

/-- The variables of the two modules are listed in different orders, and reported alike. -/
theorem render_of_rearrangedModule :
    (∀ s, s ∈ sampleModule.body ↔ s ∈ rearrangedModule.body) ∧
      extract {} sampleModule = ["b", "a", "c"] ∧ extract {} rearrangedModule = ["a", "b", "c"] ∧
      (Record.make "m.py" (extract {} sampleModule)).render = (Record.make "m.py" (extract {} rearrangedModule)).render := by
  have same : ∀ s, s ∈ sampleModule.body ↔ s ∈ rearrangedModule.body := by
    intro s
    simp [rearrangedModule]
  have listed : extract {} sampleModule = ["b", "a", "c"] ∧ extract {} rearrangedModule = ["a", "b", "c"] := by
    simp [extract, mentions, finalNames, keeps, isDunder, listed, rearrangedModule, sampleModule,
      blockBindings, stmtBindings, targetNames, targetNamesOfAll, plain, isFinal, namesFinal, globalNames, walk,
      breadthFirst, Node.children, Expr.parts, declaredGlobal]
  exact ⟨same, listed.1, listed.2, render_rearranged same {} "m.py"⟩

end GlobalSurvey.Globals
