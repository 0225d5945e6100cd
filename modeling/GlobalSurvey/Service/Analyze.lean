import GlobalSurvey.Batch.Pipeline
import GlobalSurvey.Files.Scan
import GlobalSurvey.Service.Http
import GlobalSurvey.Settings
import GlobalSurvey.Value.Json

/-!
# The analysis service

`POST /analyze` analyzes units and answers with the report; `GET /health` tells that the service is there. The service
keeps its sinks in memory and writes no report, so it changes no file. Settings are loaded once: later requests use those
of the first request that could load them.
-/
namespace GlobalSurvey.Service
open GlobalSurvey.Batch GlobalSurvey.Files

/-! ## The body of a request -/

structure AnalyzeRequest where
  units : List String
  root : Option String
  workers : Option Int
deriving DecidableEq, Repr

def AnalyzeRequest.form : Form AnalyzeRequest
  | .dict entries =>
    .apply (.apply (.apply (.ok AnalyzeRequest.mk)
      (Form.withDefault "units" (Form.listOf Form.text) [] entries))
      (Form.withDefault "root_path" (Form.optional Form.text) none entries))
      (Form.withDefault "workers" (Form.optional Form.positive) none entries)
  | _ => .misfit "model_attributes_type"

/-- The response to a request whose body does not fit. -/
def misfitResponse (misfits : List Misfit) : HttpResponse :=
  let step : Step → Value
    | .field name => .str name
    | .item position => .int position
  ⟨422, .value (.dict [("detail", .list (misfits.map fun m =>
    .dict [("loc", .list (m.place.map step)), ("type", .str m.reason)]))])⟩

/-- The text of a JSON body without a byte order mark. -/
def unmarked (body : List Char) : List Char :=
  match body with
  | '\ufeff' :: rest => rest
  | rest => rest

/-- The value in the body of a request. A body that is not JSON is a value of no use. -/
def bodyValue (r : HttpRequest) : Except HttpResponse Value :=
  if r.body.isEmpty then .error (misfitResponse [⟨[.field "body"], "missing"⟩])
  else if !r.tellsJson then .ok (.str r.body)
  else match Json.parse (unmarked r.body.toList) with
    | .ok v => .ok v
    | .error (.invalid position) =>
      .error (misfitResponse [⟨[.field "body", .item position], "json_invalid"⟩])
    | .error .longInteger => .error (.detail 400 "There was an error parsing the body")

def readBody (r : HttpRequest) : Except HttpResponse AnalyzeRequest :=
  match bodyValue r with
  | .error response => .error response
  | .ok v =>
    match Checked.below (.field "body") (AnalyzeRequest.form v) with
    | .ok a => .ok a
    | .error misfits => .error (misfitResponse misfits)

/-! ## Analyzing -/

abbrev Cache := Option Settings

/-- The settings of the cache, or freshly loaded ones. -/
def settings (environment : Settings.Environment) (d : Disk) (cache : Cache) : Except Failure Settings :=
  match cache with
  | some s => .ok s
  | none => Settings.load [] environment d

/-- The units below the directory that is asked for. -/
def foundUnits (a : AnalyzeRequest) (s : Settings) (d : Disk) : Except ConfigurationFault (List String) :=
  let root := a.root.getD ""
  if root.isEmpty then .ok [] else scan d (absolutePath (pathOf d.working) root) s.extensionList

def batchOf (a : AnalyzeRequest) (s : Settings) (provider : Provider) (units : List String) : Request where
  units := .list (units.map .str)
  workers := .int (a.workers.getD s.workers)
  provider := provider
  shardStem := s.shardStem
  keepShards := s.keepShards
  inMemorySinks := true
  joinTimeout := s.joinTimeout.map .float

def failureValue (f : UnitFailure) : Value :=
  .dict [("unit", .str f.unit), ("shard", .int f.shard), ("message", .str f.message)]

def resultResponse (r : PipelineResult) : HttpResponse :=
  ⟨200, .value (.dict
    [("ok", .bool r.ok), ("lines", .list (r.lines.map .str)),
     ("failed_units", .list (r.failedUnits.map failureValue)),
     ("fatal_shards", .list (r.fatalShards.map .int))])⟩

/-- The response to a failure, if there is one for it. -/
def failureResponse : Failure → Except Failure HttpResponse
  | .configuration fault => .ok (.detail 400 fault.message)
  | .misfits misfits => .ok (.detail 400 ("Invalid settings: " ++ (Failure.misfits misfits).message))
  | .joinTimeout limit pending => .ok (.detail 504 (Failure.joinTimeout limit pending).message)
  | failure => .error failure

structure Answer where
  /-- The response, or the failure that nobody handles; nothing if the request waits without end. -/
  response : Option (Except Failure HttpResponse)
  disk : Disk

def answerOf (run : Run) : Answer :=
  match run.completion with
  | .done result => ⟨some (.ok (resultResponse result)), run.disk⟩
  | .failed failure => ⟨some (failureResponse failure), run.disk⟩
  | .waiting => ⟨none, run.disk⟩

/-- Analyzes what is asked for, with settings that are loaded; the workers follow a schedule. -/
def analyzeWith (schedule : Pool → List Move) (a : AnalyzeRequest) (s : Settings) (provider : Provider) (d : Disk) :
    Answer :=
  match foundUnits a s d with
  | .error fault => ⟨some (failureResponse (.configuration fault)), d⟩
  | .ok found => answerOf (Batch.runScheduled schedule (batchOf a s provider (a.units ++ found)) d)

/-- Analyzes what is asked for; the workers follow a schedule. Gives the settings that are loaded now. -/
def analyze (schedule : Pool → List Move) (a : AnalyzeRequest) (provider : Provider) (environment : Settings.Environment)
    (cache : Cache) (d : Disk) : Cache × Answer :=
  match settings environment d cache with
  | .error failure => (cache, ⟨some (failureResponse failure), d⟩)
  | .ok s => (some s, analyzeWith schedule a s provider d)

/-! ## One request after the other -/

/-- Answers requests one after the other. Each of them finds the settings and the files as the one before left them. -/
def answerAll {α : Type} (answer : Cache → Disk → α → Cache × Answer) (cache : Cache) (d : Disk) : List α → List Answer
  | [] => []
  | request :: rest =>
    let (cache, first) := answer cache d request
    first :: answerAll answer cache first.disk rest

/-- A request, and the schedule that the workers of its batch follow. -/
structure Visit where
  request : AnalyzeRequest
  schedule : Pool → List Move

/-- Analyzes what is asked for in one visit after the other. -/
def analyzeAll (provider : Provider) (environment : Settings.Environment) (cache : Cache) (d : Disk)
    (visits : List Visit) : List Answer :=
  answerAll (fun cache d v => analyze v.schedule v.request provider environment cache d) cache d visits

/-! ## Routes -/

def withoutSlash (path : String) : String := String.ofList (path.toList.reverse.dropWhile (· = '/')).reverse

def methodOf? (route : String) : Option String :=
  if route = "/analyze" then some "POST" else if route = "/health" then some "GET" else none

/-- A response without its body, if the request asks for no body. -/
def bare (r : HttpRequest) (response : HttpResponse) : HttpResponse :=
  if r.method = "HEAD" then ⟨response.status, .text ""⟩ else response

/-- Answers a request; its workers go as far as they get, one after the other. -/
def handle (provider : Provider) (environment : Settings.Environment) (cache : Cache) (d : Disk) (r : HttpRequest) :
    Cache × Answer :=
  let plain (response : HttpResponse) : Cache × Answer := (cache, ⟨some (.ok (bare r response)), d⟩)
  let route := if (methodOf? r.route).isSome then r.route else withoutSlash r.route
  match methodOf? route with
  | none => plain (.detail 404 "Not Found")
  | some method =>
    if r.method ≠ method then plain (.detail 405 "Method Not Allowed")
    else if route = "/health" then plain ⟨200, .value (.dict [("status", .str "ok")])⟩
    else match readBody r with
      | .error response => plain response
      | .ok a => analyze Pool.oneByOne a provider environment cache d

/-- Answers HTTP requests one after the other. -/
def handleAll (provider : Provider) (environment : Settings.Environment) (cache : Cache) (d : Disk)
    (requests : List HttpRequest) : List Answer :=
  answerAll (handle provider environment) cache d requests

end GlobalSurvey.Service
