import GlobalSurvey.CommandLine.Argument
import GlobalSurvey.Settings
import GlobalSurvey.Value.Form

/-!
# Commands

The program has two commands: one analyzes source files, the other serves requests.
-/
namespace GlobalSurvey.CommandLine
open GlobalSurvey.Text

/-! ## Numbers in arguments -/

/-- The integer that an argument writes. -/
def integer? (text : String) : Option Int :=
  let (negative, digits) := match trim (plainDigits text.toList) with
    | '-' :: rest => (true, rest)
    | '+' :: rest => (false, rest)
    | rest => (false, rest)
  match joinDigits none digits with
  | none => none
  | some digits =>
    if digits.isEmpty || !digits.all Char.isDigit || Form.lengthLimit < digits.length then none
    else some (if negative then -(Form.decimal digits : Int) else Form.decimal digits)

/-- The float that an argument writes. -/
def float? (text : String) : Option Float :=
  (joinDigits none (trim (plainDigits text.toList))).bind Form.plainFloat

/-- What is wrong with a value that should be of some type. -/
def invalidValue (type value : String) : String := "invalid " ++ type ++ " value: " ++ quotedString value

/-- What is wrong with a value that should be an integer. -/
def integerRefusal (value : String) : Option String :=
  if (integer? value).isSome then none else some (invalidValue "int" value)

/-- What is wrong with a value that should be a float. -/
def floatRefusal (value : String) : Option String :=
  if (float? value).isSome then none else some (invalidValue "float" value)

/-- What is wrong with a value that should be one of some words. -/
def choiceRefusal (choices : List String) (value : String) : Option String :=
  if choices.contains value then none else some (invalidChoice choices value)

/-! ## The commands -/

def helpFlag : Flag := { names := [helpName, "--help"], takesValue := false }

/-- The words for the layouts of log entries, in the order in which they are offered. -/
def formatChoices : List String := ["console", "json"]

def analyzeFlags : List Flag :=
  [helpFlag, { names := ["--root"] }, { names := ["--list"] }, { names := ["--ext"] },
   { names := ["-j", "--workers"], refuses := integerRefusal }, { names := ["-o", "--output"] },
   { names := ["--shard-dir"] }, { names := ["--keep-shards"], takesValue := false },
   { names := ["--join-timeout"], refuses := floatRefusal },
   { names := ["--log-level"], refuses := choiceRefusal (Settings.levelWords.map (·.1)) },
   { names := ["--log-format"], refuses := choiceRefusal formatChoices }]

def serveFlags : List Flag :=
  [helpFlag, { names := ["--host"] }, { names := ["--port"], refuses := integerRefusal },
   { names := ["--reload"], takesValue := false }]

/-- What is to be analyzed, and which settings are overridden. -/
structure Analyze where
  paths : List String := []
  root : Option String := none
  list : Option String := none
  extensions : List String := []
  workers : Option Int := none
  output : Option String := none
  shardDirectory : Option String := none
  keepShards : Bool := false
  joinTimeout : Option Float := none
  logLevel : Option Level := none
  logFormat : Option LogFormat := none

structure Serve where
  host : String := "127.0.0.1"
  port : Int := 8000
  /-- The server starts again when its sources change. -/
  reload : Bool := false
deriving DecidableEq, Repr

inductive Command where
  | analyze (a : Analyze)
  | serve (s : Serve)
  | help

def Parsed.last? (p : Parsed) (name : String) : Option String := (p.options.reverse.find? (·.1 = name)).map (·.2)

/-- The path `-` stands for an empty one: the report goes to the standard output. -/
def outputOf (path : String) : String := if path = "-" then "" else path

def Analyze.ofParsed (p : Parsed) : Analyze where
  paths := p.words.getD []
  root := p.last? "--root"
  list := p.last? "--list"
  extensions := (p.options.filter (·.1 = "--ext")).map (·.2)
  workers := (p.last? "-j").bind integer?
  output := (p.last? "-o").map outputOf
  shardDirectory := p.last? "--shard-dir"
  keepShards := (p.last? "--keep-shards").isSome
  joinTimeout := (p.last? "--join-timeout").bind float?
  logLevel := (p.last? "--log-level").bind fun w => (Settings.levelWords.find? (·.1 = w)).map (·.2)
  logFormat := (p.last? "--log-format").bind fun w => (Settings.formatWords.find? (·.1 = w)).map (·.2)

def Serve.ofParsed (p : Parsed) : Serve where
  host := (p.last? "--host").getD "127.0.0.1"
  port := ((p.last? "--port").bind integer?).getD 8000
  reload := (p.last? "--reload").isSome

def programName : String := "globscan"

def commandNames : List String := ["analyze", "serve"]

/-- Why a command line is refused, with the name of the command that refuses it. -/
structure Refusal where
  /-- The program, perhaps with the command. -/
  speaker : String
  fault : Fault
deriving DecidableEq, Repr

def Refusal.message (r : Refusal) : String := r.speaker ++ ": error: " ++ r.fault.message ++ "\n"

def refusal {α : Type} (name : String) : Except Fault α → Except Refusal α
  | .ok a => .ok a
  | .error fault => .error ⟨name, fault⟩

/-- Reads the arguments of a command, after texts that the program did not recognize. -/
def readCommand (extras : List String) (name : String) (texts : List String) : Except Refusal Command := do
  let serves := name == "serve"
  let flags := if serves then serveFlags else analyzeFlags
  let p ← refusal (programName ++ " " ++ name) (readArguments flags (!serves) texts)
  if p.help then .ok .help
  else if !(extras ++ p.extras).isEmpty then .error ⟨programName, .unrecognized (extras ++ p.extras)⟩
  else .ok (if serves then .serve (.ofParsed p) else .analyze (.ofParsed p))

/-- Reads the texts of a command line up to the name of the command. -/
def readProgram (extras : List String) : List Token → List String → Except Refusal Command
  | .option use :: ts, _ :: texts =>
    match use.flag, use.value with
    | none, _ => readProgram (extras ++ [use.text]) ts texts
    | some (f, _), some value => .error ⟨programName, .superfluous f.label value⟩
    | some _, none => .ok .help
  | .word name :: _, _ :: texts =>
    if commandNames.contains name then readCommand extras name texts
    else .error ⟨programName, .refused "cmd" (invalidChoice commandNames name)⟩
  | .separator :: _ :: _, _ => .error ⟨programName, .refused "cmd" (invalidChoice commandNames "--")⟩
  | _, _ => .error ⟨programName, .missing "cmd"⟩

def Command.read (texts : List String) : Except Refusal Command := do
  let ts ← refusal programName (tokens [helpFlag] texts)
  readProgram [] ts texts

end GlobalSurvey.CommandLine
