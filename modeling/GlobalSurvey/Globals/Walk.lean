import GlobalSurvey.Source.Tree

/-!
# Breadth-first traversal of a syntax tree

The traversal keeps a queue: it takes the first node and puts that node's children at the end. The queue is kept in two
parts, its front in order and its back in reverse, and the back is turned round when the front is used up. The number of
nodes in the trees that wait in the queue falls by one with every node taken, so the traversal ends.
-/
namespace GlobalSurvey.Globals
open GlobalSurvey.Source

/-! ## The number of nodes -/

mutual
/-- The number of nodes of an expression. -/
def exprSize : Expr → Nat
  | .name _ => 1
  | .attribute value _ => exprSize value + 1
  | .subscript value index => exprSize value + exprSize index + 1
  | .starred value => exprSize value + 1
  | .tuple elements => exprsSize elements + 1
  | .list elements => exprsSize elements + 1
  | .other _ parts => exprsSize parts + 1
/-- The number of nodes of several expressions. -/
def exprsSize : List Expr → Nat
  | [] => 0
  | e :: rest => exprSize e + exprsSize rest
end

/-- The number of nodes of an expression that may be missing. -/
def optionSize (e : Option Expr) : Nat := exprsSize e.toList

/-- The number of nodes of items of a `with` statement. -/
def itemsSize : List WithItem → Nat
  | [] => 0
  | w :: rest => exprSize w.context + optionSize w.target + 1 + itemsSize rest

mutual
/-- The number of nodes of a statement. -/
def stmtSize : Stmt → Nat
  | .assign targets value => exprsSize targets + exprSize value + 1
  | .annotated target annotation value => exprSize target + exprSize annotation + optionSize value + 1
  | .augmented target value => exprSize target + exprSize value + 1
  | .forLoop _ target source body orelse =>
    exprSize target + exprSize source + blockSize body + blockSize orelse + 1
  | .whileLoop test body orelse => exprSize test + blockSize body + blockSize orelse + 1
  | .ifElse test body orelse => exprSize test + blockSize body + blockSize orelse + 1
  | .withItems _ items body => itemsSize items + blockSize body + 1
  | .tryBlock _ body handlers orelse final =>
    blockSize body + handlersSize handlers + blockSize orelse + blockSize final + 1
  | .matchCases subject cases => exprSize subject + casesSize cases + 1
  | .function _ _ parameters body decorators returns =>
    exprSize parameters + blockSize body + exprsSize decorators + optionSize returns + 1
  | .classDef _ bases body decorators => exprsSize bases + blockSize body + exprsSize decorators + 1
  | .globalNames _ => 1
  | .nonlocalNames _ => 1
  | .simple _ parts => exprsSize parts + 1
/-- The number of nodes of a block. -/
def blockSize : List Stmt → Nat
  | [] => 0
  | s :: rest => stmtSize s + blockSize rest
/-- The number of nodes of handlers. -/
def handlersSize : List Handler → Nat
  | [] => 0
  | .mk exception _ body :: rest => optionSize exception + blockSize body + 1 + handlersSize rest
/-- The number of nodes of cases. -/
def casesSize : List Case → Nat
  | [] => 0
  | .mk pattern guard body :: rest => exprSize pattern + optionSize guard + blockSize body + 1 + casesSize rest
end

/-- The number of nodes of a tree. -/
def nodeSize : Node → Nat
  | .module body => blockSize body + 1
  | .stmt s => stmtSize s
  | .handler h => handlersSize [h]
  | .case c => casesSize [c]
  | .item w => itemsSize [w]
  | .expr e => exprSize e

/-- The number of nodes of several trees. -/
def nodesSize : List Node → Nat
  | [] => 0
  | n :: rest => nodeSize n + nodesSize rest

@[simp] theorem nodesSize_nil : nodesSize [] = 0 := rfl
@[simp] theorem nodesSize_cons (n : Node) (rest : List Node) :
    nodesSize (n :: rest) = nodeSize n + nodesSize rest := rfl
@[simp] theorem nodesSize_append (a b : List Node) : nodesSize (a ++ b) = nodesSize a + nodesSize b := by
  induction a with
  | nil => simp
  | cons n rest ih => simp [ih, Nat.add_assoc]

@[simp] theorem nodesSize_reverse (nodes : List Node) : nodesSize nodes.reverse = nodesSize nodes := by
  induction nodes with
  | nil => rfl
  | cons n rest ih => simp [ih, Nat.add_comm]

@[simp] theorem nodesSize_exprs (es : List Expr) : nodesSize (es.map .expr) = exprsSize es := by
  induction es with
  | nil => simp [exprsSize]
  | cons e rest ih => simp [exprsSize, nodeSize, ih]
@[simp] theorem nodesSize_block (body : List Stmt) : nodesSize (body.map .stmt) = blockSize body := by
  induction body with
  | nil => simp [blockSize]
  | cons s rest ih => simp [blockSize, nodeSize, ih]
@[simp] theorem nodesSize_handlers (hs : List Handler) : nodesSize (hs.map .handler) = handlersSize hs := by
  induction hs with
  | nil => simp [handlersSize]
  | cons h rest ih => cases h; simp [handlersSize, nodeSize, ih]
@[simp] theorem nodesSize_cases (cs : List Case) : nodesSize (cs.map .case) = casesSize cs := by
  induction cs with
  | nil => simp [casesSize]
  | cons c rest ih => cases c; simp [casesSize, nodeSize, ih]
@[simp] theorem nodesSize_items (ws : List WithItem) : nodesSize (ws.map .item) = itemsSize ws := by
  induction ws with
  | nil => simp [itemsSize]
  | cons w rest ih => simpa [itemsSize, nodeSize] using ih

/-- A tree has one node more than its children together. -/
theorem nodesSize_children (n : Node) : nodesSize n.children + 1 = nodeSize n := by
  cases n with
  | module body => simp [Node.children, nodeSize]
  | stmt s => cases s <;> simp [Node.children, nodeSize, stmtSize, optionSize] <;> omega
  | handler h => cases h; simp [Node.children, nodeSize, handlersSize, optionSize]
  | case c => cases c; simp [Node.children, nodeSize, casesSize, optionSize]; omega
  | item w => simp [Node.children, nodeSize, itemsSize, optionSize]
  | expr e => cases e <;> simp [Node.children, Expr.parts, nodeSize, exprSize]

/-! ## The traversal -/

/-- The nodes of the trees in a queue, breadth first. -/
def breadthFirst : (front back : List Node) → List Node
  | [], [] => []
  | [], n :: back => breadthFirst (n :: back).reverse []
  | n :: front, back => n :: breadthFirst front (n.children.reverse ++ back)
termination_by front back => (nodesSize front + nodesSize back, back.length)
decreasing_by
  · simp [Prod.lex_def]; omega
  · have := nodesSize_children n
    simp [Prod.lex_def]; omega

/-- The nodes of a module's tree, breadth first. -/
def walk (m : Module) : List Node := breadthFirst [.module m.body] []

def declaredGlobal : Node → List String
  | .stmt (.globalNames names) => names
  | _ => []

/-- The names of all `global` statements of a module, in the order of the traversal. -/
def globalNames (m : Module) : List String := (walk m).flatMap declaredGlobal

end GlobalSurvey.Globals
