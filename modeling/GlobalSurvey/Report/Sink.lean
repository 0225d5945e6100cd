import GlobalSurvey.Files.Disk
import GlobalSurvey.Report.Record
import GlobalSurvey.Text.Codec

/-!
# Sinks

A sink takes the records of one worker, one record a unit. It has to be finalized before its lines are read, and takes no
record after that. The lines are kept in memory or in a file; the file has them from the time when the sink is closed.
-/
namespace GlobalSurvey.Report
open GlobalSurvey.Files GlobalSurvey.Text

/-- Where a sink keeps its lines. -/
inductive Store where
  | memory
  /-- A file that the sink made, by its path and its location. -/
  | file (path : String) (location : Location)
deriving DecidableEq, Repr

structure Sink where
  name : String
  store : Store
  /-- The units that the sink holds a record of, the last one first. -/
  units : List String := []
  /-- The lines that were written, the last one first. -/
  written : List String := []
  finalized : Bool := false
  /-- The failure that closing the sink ends in, if it does. -/
  closingFault : Option Failure := none

namespace Sink

def inMemory (name : String) : Sink := { name, store := .memory }

/-- A new sink in a new file. -/
def inFile (d : Disk) (path : String) : Except FileFault (Disk × Sink) :=
  match d.make path with
  | .ok (d, location) => .ok (d, { name := displayName path, store := .file path location })
  | .error fault => .error fault

def length (s : Sink) : Nat := s.units.length

/-- The lines, in the order in which they were written. -/
def lines (s : Sink) : List String := s.written.reverse

def append (s : Sink) (r : Record) : Except SinkFault Sink :=
  if s.finalized then .error (.finalized s.name)
  else if s.units.contains r.unit then .error (.repeatedUnit s.name r.unit)
  else if !isSingleLine r.render then .error (.severalLines r.unit)
  else .ok { s with units := r.unit :: s.units, written := r.render :: s.written }

/-- Closes the sink for records. To finalize a sink again changes nothing. -/
def finalize (s : Sink) : Except Failure Sink :=
  if s.finalized then .ok s
  else match s.closingFault with
    | some failure => .error failure
    | none => .ok { s with finalized := true }

/-- The bytes of lines in a file: each is followed by a line feed. -/
def lineBytes (lines : List String) : List UInt8 := Utf8.encode (lines.flatMap fun line => line.toList ++ ['\n'])

def linesOfBytes (bytes : List UInt8) : Except Codec.Undecodable (List String) :=
  match Codec.decodeUtf8 bytes with
  | .ok text => .ok ((splitAt '\n' text).dropLast.map String.ofList)
  | .error what => .error what

/-- The disk after the lines of a sink have reached its file. To close a file begins with this, also if it fails then. -/
def flush (s : Sink) (d : Disk) : Disk :=
  match s.store with
  | .memory => d
  | .file _ location => d.overwrite location (lineBytes s.lines)

/-- Reads the lines of a finalized sink back. -/
def readLines (s : Sink) (d : Disk) : Except Failure (List String) :=
  if !s.finalized then .error (.sink (.unfinished s.name))
  else match s.store with
    | .memory => .ok s.lines
    | .file path _ =>
      match d.contents path with
      | .error fault => .error (.file fault)
      | .ok bytes =>
        match linesOfBytes bytes with
        | .ok lines => .ok lines
        | .error what => .error (.undecodable what)

end Sink

def sinkName (stem : String) (shard : Int) : String := stem ++ toString shard ++ ".txt"

end GlobalSurvey.Report
