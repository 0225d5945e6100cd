import GlobalSurvey.Source.Tree

/-!
# The variables that a module's own statements bind

Only assignments, loops and `with` statements bind variables here, and only those that run in the module's own scope:
the blocks of `if`, `while`, `for`, `with` and `try` statements are entered, those of functions, classes and `match`
statements are not.
-/
namespace GlobalSurvey.Globals
open GlobalSurvey.Source

mutual
/-- The names in a target, through tuples, lists and stars. Members and subscripts bind no variable. -/
def targetNames : Expr → List String
  | .name id => [id]
  | .tuple elements => targetNamesOfAll elements
  | .list elements => targetNamesOfAll elements
  | .starred value => targetNames value
  | _ => []
/-- The names in several targets, in order. -/
def targetNamesOfAll : List Expr → List String
  | [] => []
  | target :: rest => targetNames target ++ targetNamesOfAll rest
end

/-- The expression is the name `Final`, or a member of that name. -/
def namesFinal : Expr → Bool
  | .name id => id == "Final"
  | .attribute _ member => member == "Final"
  | _ => false

/-- The annotation declares a constant: `Final`, `x.Final`, or one subscript of those. -/
def isFinal : Expr → Bool
  | .subscript value _ => namesFinal value
  | annotation => namesFinal annotation

/-- A name that a statement binds. -/
structure Binding where
  name : String
  /-- The statement declares the name as a constant. -/
  final : Bool
deriving DecidableEq, Repr

def plain (names : List String) : List Binding := names.map fun n => ⟨n, false⟩

mutual
/-- The names that a statement binds in the scope it stands in. The handlers of a `try` statement come last. -/
def stmtBindings : Stmt → List Binding
  | .assign targets _ => plain (targetNamesOfAll targets)
  | .annotated target annotation _ => (targetNames target).map fun n => ⟨n, isFinal annotation⟩
  | .augmented target _ => plain (targetNames target)
  | .forLoop _ target _ body orelse => plain (targetNames target) ++ blockBindings body ++ blockBindings orelse
  | .whileLoop _ body orelse => blockBindings body ++ blockBindings orelse
  | .ifElse _ body orelse => blockBindings body ++ blockBindings orelse
  | .withItems _ items body => plain (targetNamesOfAll (items.filterMap (·.target))) ++ blockBindings body
  | .tryBlock _ body handlers orelse final =>
    blockBindings body ++ blockBindings orelse ++ blockBindings final ++ handlerBindings handlers
  | _ => []
/-- The names that the statements of a block bind, in order. -/
def blockBindings : List Stmt → List Binding
  | [] => []
  | s :: rest => stmtBindings s ++ blockBindings rest
/-- The names that the blocks of handlers bind, in order. -/
def handlerBindings : List Handler → List Binding
  | [] => []
  | .mk _ _ body :: rest => blockBindings body ++ handlerBindings rest
end

end GlobalSurvey.Globals
