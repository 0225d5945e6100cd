import GlobalSurvey.Failure
import GlobalSurvey.Log
import GlobalSurvey.Text.CaseMap

/-!
# Which log entries are kept

A logger keeps the entries whose level has at least a certain rank. The rank is given by a name, in upper or lower case:
names are one if their upper cases are.
-/
namespace GlobalSurvey

def rankNames : List (String × Nat) :=
  [("critical", 50), ("fatal", 50), ("error", 40), ("warning", 30), ("warn", 30), ("info", 20), ("debug", 10),
   ("notset", 0)]

def rankOfName (name : String) : Except Failure Nat :=
  let name := String.ofList (Text.CaseMap.lower (Text.CaseMap.upper name.toList))
  match rankNames.find? (·.1 = name) with
  | some (_, rank) => .ok rank
  | none => .error (.missingKey ("level " ++ name))

/-- The level of entries that are made under a name. -/
def levelOfMethod? (name : String) : Option Level :=
  if name = "debug" then some .debug
  else if name = "info" ∨ name = "msg" then some .info
  else if name = "warning" ∨ name = "warn" then some .warning
  else if name = "error" ∨ name = "exception" then some .error
  else if name = "critical" ∨ name = "fatal" then some .critical
  else none

def loggedAt (rank : Nat) (entries : List Entry) : List Entry := entries.filter fun e => rank ≤ e.level.rank

end GlobalSurvey
