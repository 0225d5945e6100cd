import GlobalSurvey.Report.Sink

/-!
# Sessions

A session is the use of one sink on a disk, call by call. A call that fails changes nothing, and the session goes on.
-/
namespace GlobalSurvey.Report
open GlobalSurvey.Files

/-- What is asked of a sink. -/
inductive Call where
  | append (r : Record)
  | finalize
  | read
  | isFinalized
  | length
deriving DecidableEq, Repr

/-- What a call comes to. -/
inductive Answer where
  | done
  | lines (all : List String)
  | finalized (flag : Bool)
  | length (count : Nat)
  | failed (failure : Failure)

/-- Calls with their answers, in order. -/
abbrev Past := List (Call × Answer)

/-- A sink and the disk that it is on. -/
structure Session where
  sink : Sink
  disk : Disk

namespace Session

/-- Makes a call. The lines of a sink reach its file when it is to be closed, whether that succeeds or not. -/
def call (s : Session) : Call → Session × Answer
  | .append r =>
    match s.sink.append r with
    | .ok sink => ({ s with sink }, .done)
    | .error fault => (s, .failed (.sink fault))
  | .finalize =>
    let disk := if s.sink.finalized then s.disk else s.sink.flush s.disk
    match s.sink.finalize with
    | .ok sink => ({ sink, disk }, .done)
    | .error failure => ({ s with disk }, .failed failure)
  | .read =>
    match s.sink.readLines s.disk with
    | .ok lines => (s, .lines lines)
    | .error failure => (s, .failed failure)
  | .isFinalized => (s, .finalized s.sink.finalized)
  | .length => (s, .length s.sink.length)

def after (s : Session) (calls : List Call) : Session := calls.foldl (fun s c => (s.call c).1) s

/-- Some calls with their answers. -/
def history (s : Session) : List Call → Past
  | [] => []
  | c :: rest => (c, (s.call c).2) :: history (s.call c).1 rest

end Session

end GlobalSurvey.Report
