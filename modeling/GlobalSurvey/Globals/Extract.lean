import GlobalSurvey.Globals.Binding
import GlobalSurvey.Globals.Walk
import GlobalSurvey.Source.Parser

/-!
# The global variables of a module

The names that the module's own statements bind come first, then those that `global` statements declare at any depth.
Each name is listed once, at its first occurrence. Names declared as constants and names with double low lines at both
ends are left out as the options say.
-/
namespace GlobalSurvey.Globals
open GlobalSurvey.Source

/-- What counts as a global variable, and how sources are encoded. -/
structure Options where
  skipFinal : Bool := true
  /-- Leave out the names with double low lines at both ends. -/
  skipDunder : Bool := true
  /-- Count the names of `global` statements. -/
  includeGlobalDeclarations : Bool := true
  encoding : String := "utf-8"
deriving DecidableEq, Repr

/-- A name of more than four characters with two low lines at both ends. -/
def isDunder (name : String) : Bool :=
  let cs := name.toList
  4 < cs.length && cs.take 2 == ['_', '_'] && cs.drop (cs.length - 2) == ['_', '_']

/-- Every mention of a global variable, in the order of collection. -/
def mentions (options : Options) (m : Module) : List String :=
  (blockBindings m.body).map (·.name) ++ (if options.includeGlobalDeclarations then globalNames m else [])

/-- The names that the module declares as constants. -/
def finalNames (m : Module) : List String := ((blockBindings m.body).filter (·.final)).map (·.name)

/-- The options let a name stand, where some names are those of constants. -/
def keeps (options : Options) (constants : List String) (name : String) : Bool :=
  !(options.skipFinal && constants.contains name) && !(options.skipDunder && isDunder name)

/-- The names that stand, at their first occurrences, those `seen` before left out. A name is seen even if it does not
stand. -/
def listed (stands : String → Bool) (seen : List String) : List String → List String
  | [] => []
  | n :: rest =>
    if n ∈ seen then listed stands seen rest
    else if stands n then n :: listed stands (n :: seen) rest
    else listed stands (n :: seen) rest

def extract (options : Options) (m : Module) : List String :=
  listed (keeps options (finalNames m)) [] (mentions options m)

def extractFromText (options : Options) (text : List Char) : Except SyntaxFault (List String) := do
  let m ← parseModule text
  .ok (extract options m)

end GlobalSurvey.Globals
