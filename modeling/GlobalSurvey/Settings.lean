import GlobalSurvey.Files.Disk
import GlobalSurvey.Log.Layout
import GlobalSurvey.Settings.Dotenv
import GlobalSurvey.Value.Form

/-!
# Settings

A setting is taken from the first of these that has it: what is given directly, the environment, the file `.env`, the
default. Names in the environment and in the file start with `GLOBSCAN_`; upper and lower case are one there.
-/
namespace GlobalSurvey

structure Settings where
  workers : Int := 4
  outputPath : Option String := some "output.txt"
  shardDirectory : Option String := none
  shardStem : String := "threaded_output_"
  keepShards : Bool := false
  inMemorySinks : Bool := false
  joinTimeout : Option Float := none
  /-- The extensions of source files, with commas between them. -/
  extensions : String := ".py"
  logLevel : Level := .info
  logFormat : LogFormat := .console

namespace Settings

def levelWords : List (String × Level) :=
  [("DEBUG", .debug), ("INFO", .info), ("WARNING", .warning), ("ERROR", .error)]

def formatWords : List (String × LogFormat) := [("json", .json), ("console", .console)]

/-- The word for a value. -/
def wordFor {α : Type} [DecidableEq α] (words : List (String × α)) (a : α) : String :=
  ((words.find? (·.2 = a)).map (·.1)).getD ""

def splitExtensions (list : String) : List String :=
  (((Text.splitAt ',' list.toList).map Text.trim).filter (· ≠ [])).map String.ofList

def extensionList (s : Settings) : List String := splitExtensions s.extensions

/-- The settings as values, by their names. -/
def entries (s : Settings) : List (String × Value) :=
  let optional (text : Option String) : Value := match text with
    | some t => .str t
    | none => .null
  [("workers", .int s.workers), ("output_path", optional s.outputPath), ("shard_dir", optional s.shardDirectory),
   ("shard_prefix", .str s.shardStem), ("keep_shards", .bool s.keepShards), ("in_memory_sinks", .bool s.inMemorySinks),
   ("join_timeout", match s.joinTimeout with
     | some limit => .float limit
     | none => .null),
   ("extensions", .str s.extensions), ("log_level", .str (wordFor levelWords s.logLevel)),
   ("log_format", .str (wordFor formatWords s.logFormat))]

/-- The settings that values give, by their names; the others have their defaults. -/
def ofEntries (values : List (String × Value)) : Checked Settings :=
  let default : Settings := {}
  .apply (.apply (.apply (.apply (.apply (.apply (.apply (.apply (.apply (.apply (.ok Settings.mk)
    (Form.withDefault "workers" Form.positive default.workers values))
    (Form.withDefault "output_path" (Form.optional Form.text) default.outputPath values))
    (Form.withDefault "shard_dir" (Form.optional Form.text) default.shardDirectory values))
    (Form.withDefault "shard_prefix" Form.text default.shardStem values))
    (Form.withDefault "keep_shards" Form.switch default.keepShards values))
    (Form.withDefault "in_memory_sinks" Form.switch default.inMemorySinks values))
    (Form.withDefault "join_timeout" (Form.optional Form.positiveFloat) default.joinTimeout values))
    (Form.withDefault "extensions" Form.text default.extensions values))
    (Form.withDefault "log_level" (Form.oneOf levelWords) default.logLevel values))
    (Form.withDefault "log_format" (Form.oneOf formatWords) default.logFormat values)

/-! ## Sources -/

def names : List String := ({} : Settings).entries.map (·.1)

/-- What the names in the environment and in the file start with. -/
def variableStem : String := "globscan_"

/-- The value of a variable, upper and lower case of names being one: the last one counts. -/
def variableNamed? (bindings : List Dotenv.Binding) (name : String) : Option String :=
  match bindings.reverse.find? fun v => Text.CaseMap.lowerString v.name = variableStem ++ name with
  | some v => v.value
  | none => none

abbrev Environment := List (String × String)

def filePath : String := ".env"

def fileVariables (environment : Environment) (d : Files.Disk) : Except Failure (List Dotenv.Binding) :=
  match d.node? filePath with
  | .ok (.file bytes) =>
    match Text.Codec.decodeUtf8 bytes with
    | .error what => .error (.undecodable what)
    | .ok text =>
      .ok (Dotenv.read environment (Text.unifyLineEnds text))
  | _ => .ok []

def gather (given : List (String × Value)) (environment : Environment) (file : List Dotenv.Binding) :
    List (String × Value) :=
  names.filterMap fun name =>
    match given.reverse.find? fun g => Text.CaseMap.lowerString g.1 = name with
    | some g => some (name, g.2)
    | none =>
      match variableNamed? (environment.map fun v => ⟨v.1, some v.2⟩) name with
      | some v => some (name, .str v)
      | none => (variableNamed? file name).map fun v => (name, .str v)

def load (given : List (String × Value)) (environment : Environment) (d : Files.Disk) : Except Failure Settings :=
  match fileVariables environment d with
  | .error failure => .error failure
  | .ok file =>
    match ofEntries (gather given environment file) with
    | .ok s => .ok s
    | .error misfits => .error (.misfits misfits)

end Settings

end GlobalSurvey
