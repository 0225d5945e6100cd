/-!
# The syntax tree of a module

The binding forms (names, tuples, lists, stars, attributes and subscripts) have constructors of their own; every other
expression, and every pattern, is a node of some form with its parts in the order of the grammar. Statements keep the
blocks that they own apart. `Node` is the view of the tree as a plain tree: any node has its `children` in order.
-/
namespace GlobalSurvey.Source

/-- The forms of expression that bind no name where they stand, their helper nodes, and the forms of pattern. -/
inductive Form where
  | constant | joinedText | replacement
  | boolean | walrus | binary | unary | lambda | conditional | dict | set
  | listOf | setOf | dictOf | generator | await | yield | yieldFrom | comparison | call | slice
  | comprehension | parameters | parameter | keyword | alias
  | valuePattern | singletonPattern | sequencePattern | mappingPattern | classPattern | starPattern | asPattern
  | orPattern
deriving DecidableEq, Repr

/-- An expression, or one of the helper nodes below an expression. -/
inductive Expr where
  | name (id : String)
  | attribute (value : Expr) (member : String)
  | subscript (value index : Expr)
  | starred (value : Expr)
  | tuple (elements : List Expr)
  | list (elements : List Expr)
  | other (form : Form) (parts : List Expr)
deriving Repr

instance : Inhabited Expr := ⟨.tuple []⟩

/-- The simple statements that bind no variable of the module. -/
inductive SimpleForm where
  | expression | ret | delete | raise | assert | pass | brk | cont | importNames | importFrom
deriving DecidableEq, Repr

/-- One `context as target` of a `with` statement. -/
structure WithItem where
  context : Expr
  /-- The target after `as`. -/
  target : Option Expr
deriving Repr

mutual
inductive Stmt where
  | assign (targets : List Expr) (value : Expr)
  | annotated (target annotation : Expr) (value : Option Expr)
  | augmented (target value : Expr)
  | forLoop (isAsync : Bool) (target source : Expr) (body orelse : List Stmt)
  | whileLoop (test : Expr) (body orelse : List Stmt)
  | ifElse (test : Expr) (body orelse : List Stmt)
  | withItems (isAsync : Bool) (items : List WithItem) (body : List Stmt)
  | tryBlock (grouped : Bool) (body : List Stmt) (handlers : List Handler) (orelse final : List Stmt)
  | matchCases (subject : Expr) (cases : List Case)
  | function (isAsync : Bool) (name : String) (parameters : Expr) (body : List Stmt) (decorators : List Expr)
      (returns : Option Expr)
  | classDef (name : String) (bases : List Expr) (body : List Stmt) (decorators : List Expr)
  | globalNames (names : List String)
  | nonlocalNames (names : List String)
  | simple (form : SimpleForm) (parts : List Expr)
/-- An `except` clause. -/
inductive Handler where
  | mk (exception : Option Expr) (name : Option String) (body : List Stmt)
inductive Case where
  | mk (pattern : Expr) (guard : Option Expr) (body : List Stmt)
end

instance : Inhabited Stmt := ⟨.simple .pass []⟩

structure Module where
  body : List Stmt

/-- Any node of a module's tree. -/
inductive Node where
  | module (body : List Stmt)
  | stmt (s : Stmt)
  | handler (h : Handler)
  | case (c : Case)
  | item (w : WithItem)
  | expr (e : Expr)

/-- The parts of an expression, in order. -/
def Expr.parts : Expr → List Expr
  | .name _ => []
  | .attribute value _ => [value]
  | .subscript value index => [value, index]
  | .starred value => [value]
  | .tuple elements => elements
  | .list elements => elements
  | .other _ parts => parts

/-- The children of a node, in the order of its fields. -/
def Node.children : Node → List Node
  | .module body => body.map .stmt
  | .stmt (.assign targets value) => targets.map .expr ++ [.expr value]
  | .stmt (.annotated target annotation value) => .expr target :: .expr annotation :: value.toList.map .expr
  | .stmt (.augmented target value) => [.expr target, .expr value]
  | .stmt (.forLoop _ target source body orelse) =>
    .expr target :: .expr source :: (body.map .stmt ++ orelse.map .stmt)
  | .stmt (.whileLoop test body orelse) => .expr test :: (body.map .stmt ++ orelse.map .stmt)
  | .stmt (.ifElse test body orelse) => .expr test :: (body.map .stmt ++ orelse.map .stmt)
  | .stmt (.withItems _ items body) => items.map .item ++ body.map .stmt
  | .stmt (.tryBlock _ body handlers orelse final) =>
    body.map .stmt ++ handlers.map .handler ++ orelse.map .stmt ++ final.map .stmt
  | .stmt (.matchCases subject cases) => .expr subject :: cases.map .case
  | .stmt (.function _ _ parameters body decorators returns) =>
    .expr parameters :: (body.map .stmt ++ decorators.map .expr ++ returns.toList.map .expr)
  | .stmt (.classDef _ bases body decorators) => bases.map .expr ++ body.map .stmt ++ decorators.map .expr
  | .stmt (.globalNames _) => []
  | .stmt (.nonlocalNames _) => []
  | .stmt (.simple _ parts) => parts.map .expr
  | .handler (.mk exception _ body) => exception.toList.map .expr ++ body.map .stmt
  | .case (.mk pattern guard body) => .expr pattern :: (guard.toList.map .expr ++ body.map .stmt)
  | .item w => .expr w.context :: w.target.toList.map .expr
  | .expr e => e.parts.map .expr

end GlobalSurvey.Source
