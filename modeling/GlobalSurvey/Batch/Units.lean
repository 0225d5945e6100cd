import GlobalSurvey.Failure
import GlobalSurvey.Text.Blank

/-!
# The units of a batch

A batch needs units that are texts, none of them blank and no two of them equal, and a positive number of workers.
-/
namespace GlobalSurvey.Batch

/-- A unit that names something. -/
def isIdentifier (unit : String) : Bool := !(Text.trim unit.toList).isEmpty

/-- Checks units from a position on, after those `seen` before. -/
def checkUnits (position : Nat) (seen : List String) : List Value → Except ConfigurationFault (List String)
  | [] => .ok []
  | .str unit :: rest =>
    if !isIdentifier unit then .error (.invalidUnit position (.str unit))
    else if unit ∈ seen then .error (.repeatedUnit unit)
    else match checkUnits (position + 1) (unit :: seen) rest with
      | .ok units => .ok (unit :: units)
      | .error fault => .error fault
  | other :: _ => .error (.invalidUnit position other)

/-- The units of a batch, if they are as they should be. -/
def validateUnits : Value → Except Failure (List String)
  | .str _ => .error (.configuration .unitsAreText)
  | .bytes _ => .error (.configuration .unitsAreText)
  | units =>
    match units.iterate with
    | .error failure => .error failure
    | .ok items =>
      match checkUnits 0 [] items with
      | .ok units => .ok units
      | .error fault => .error (.configuration fault)

/-- The number of workers, if it is a positive integer. -/
def validateWorkers : Value → Except ConfigurationFault Nat
  | .int n => if n < 1 then .error (.invalidWorkers (.int n)) else .ok n.toNat
  | other => .error (.invalidWorkers other)

end GlobalSurvey.Batch
