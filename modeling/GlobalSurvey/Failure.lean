import GlobalSurvey.Decimal.Number
import GlobalSurvey.Files.Fault
import GlobalSurvey.Text.Codec
import GlobalSurvey.Value.Text

/-!
# Failures

Everything that can go wrong is one of these causes. `kind` is the word for the class of a failure and `message` the text
about it. A failure that `escapes` is not meant to be handled by a worker: it asks the whole program to stop.
-/
namespace GlobalSurvey
open GlobalSurvey.Text (quotedString)

/-! ## Configuration -/

/-- Why a batch is refused before any work starts. -/
inductive ConfigurationFault where
  /-- The units are one text, or bytes, instead of a list. -/
  | unitsAreText
  | invalidUnit (position : Nat) (unit : Value)
  | repeatedUnit (unit : String)
  /-- The number of workers is no positive integer. -/
  | invalidWorkers (workers : Value)
  | tooFewWorkers (workers : Int)
  | invalidTimeout (timeout : Number)
  | noAnalyzer (value : Value)
  | invalidRoot (path : String)
  | unreadableList (path reason : String)

def ConfigurationFault.message : ConfigurationFault → String
  | .unitsAreText => "Unit list must be a sequence of identifiers, not a single string"
  | .invalidUnit position unit => "Unit #" ++ toString position ++ " is not a valid identifier: " ++ unit.text
  | .repeatedUnit unit => "Unit listed twice: " ++ unit
  | .invalidWorkers workers => "Worker count must be a positive integer, got " ++ workers.text
  | .tooFewWorkers workers => "Worker count must be at least 1, got " ++ toString workers
  | .invalidTimeout timeout => "Join timeout must be positive, got " ++ timeout.text
  | .noAnalyzer value => value.text ++ " does not provide analyze(unit)"
  | .invalidRoot path => "Invalid root path: " ++ path
  | .unreadableList path reason => "Cannot read unit list " ++ path ++ ": " ++ reason

/-! ## Sinks -/

inductive SinkFault where
  | finalized (sink : String)
  | repeatedUnit (sink unit : String)
  | severalLines (unit : String)
  | unfinished (sink : String)
  | unfinishedMerge (sinks : List String)
deriving DecidableEq, Repr

def SinkFault.message : SinkFault → String
  | .finalized sink => "Sink " ++ sink ++ " is finalized"
  | .repeatedUnit sink unit => "Sink " ++ sink ++ " already holds a record for " ++ unit
  | .severalLines unit => "Record for " ++ unit ++ " spans several lines"
  | .unfinished sink => "Sink " ++ sink ++ " read before it was finalized"
  | .unfinishedMerge sinks => "Cannot merge unfinalized sinks: " ++ ", ".intercalate sinks

/-! ## Values of the wrong form -/

/-- A step from a value to one of its parts. -/
inductive Step where
  | field (name : String)
  | item (position : Nat)
deriving DecidableEq, Repr

/-- A part of a value that does not have the form that is asked for. -/
structure Misfit where
  /-- The way from the value to the part. -/
  place : List Step
  /-- The word for what is wrong. -/
  reason : String
deriving DecidableEq, Repr

def Misfit.below (step : Step) (m : Misfit) : Misfit := { m with place := step :: m.place }

/-! ## All failures -/

inductive Failure where
  | configuration (fault : ConfigurationFault)
  | rejected (unit reason : String)
  | sink (fault : SinkFault)
  | joinTimeout (timeout : Number) (pending : Nat)
  | file (fault : Files.FileFault)
  | undecodable (what : Text.Codec.Undecodable)
  /-- UTF-16 does not tell its byte order. -/
  | unmarked
  | unknownEncoding (name : String)
  | notIterable (value : Value)
  | lacks (value : Value) (operation : String)
  | missingKey (key : String)
  | misfits (all : List Misfit)
  /-- The source text is refused. -/
  | nullInSource
  /-- Any other failure of an analysis or of the system. -/
  | raised (kind message : String)

namespace Failure

/-- The words for failures that stop the whole program. -/
def stopWords : List String := ["SystemExit", "KeyboardInterrupt", "GeneratorExit", "BaseException"]

/-- The failure is not meant to be handled by a worker. -/
def escapes : Failure → Bool
  | .raised kind _ => stopWords.contains kind
  | _ => false

def causeKind : Files.Cause → String
  | .notFound => "FileNotFoundError"
  | .alreadyExists => "FileExistsError"
  | .notDirectory => "NotADirectoryError"
  | .isDirectory => "IsADirectoryError"
  | .nameTooLong => "OSError"
  | .tooManyLinks => "OSError"

def kind : Failure → String
  | .configuration _ => "ConfigurationError"
  | .rejected _ _ => "UnitAnalysisError"
  | .sink _ => "SinkStateError"
  | .joinTimeout _ _ => "JoinTimeoutError"
  | .file (.refused cause _) => causeKind cause
  | .file .nullCharacter => "ValueError"
  | .undecodable _ => "UnicodeDecodeError"
  | .unmarked => "UnicodeError"
  | .unknownEncoding _ => "LookupError"
  | .notIterable _ => "TypeError"
  | .lacks _ _ => "AttributeError"
  | .missingKey _ => "KeyError"
  | .misfits _ => "ValidationError"
  | .nullInSource => "ValueError"
  | .raised kind _ => kind

/-- The message about workers that are still running. -/
def timeoutMessage (timeout : Number) (pending : Int) : String :=
  toString pending ++ " worker(s) still running after " ++ timeout.general ++ "s"

/-- The message about workers that are still running, if the time can be written. -/
def timeoutMessage? (timeout : Number) (pending : Int) : Except Failure String :=
  if timeout.isBeyondFloats then .error (.raised "OverflowError" "int too large to convert to float")
  else .ok (timeoutMessage timeout pending)

def message : Failure → String
  | .configuration fault => fault.message
  | .rejected unit reason => unit ++ ": " ++ reason
  | .sink fault => fault.message
  | .joinTimeout timeout pending => timeoutMessage timeout pending
  | .file fault => fault.message
  | .undecodable what => what.message
  | .unmarked => "UTF-16 stream does not start with BOM"
  | .unknownEncoding name => "unknown encoding: " ++ name
  | .notIterable value => "'" ++ value.typeName ++ "' object is not iterable"
  | .lacks value operation => "'" ++ value.typeName ++ "' object has no attribute '" ++ operation ++ "'"
  | .missingKey key => quotedString key
  | .misfits all => toString all.length ++ " invalid values"
  | .nullInSource => "source code string cannot contain null bytes"
  | .raised _ message => message

/-- The class and the message of a failure in one text. -/
def text (f : Failure) : String := f.kind ++ ": " ++ f.message

end Failure

/-- The items of a value: of a list, the characters of a text, the numbers of bytes, or the keys of a dict. -/
def Value.iterate : Value → Except Failure (List Value)
  | .str s => .ok (s.toList.map fun c => .str c.toString)
  | .bytes content => .ok (content.map fun byte => .int byte.toNat)
  | .list items => .ok items
  | .dict entries => .ok (entries.map fun e => .str e.1)
  | other => .error (.notIterable other)

end GlobalSurvey
