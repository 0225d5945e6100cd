import GlobalSurvey.Value

/-!
# Requests and responses

A request has a method, a path, and perhaps a body with its type. A response has a status and a body, which is a value
or a text.
-/
namespace GlobalSurvey.Service

structure HttpRequest where
  method : String := "POST"
  /-- The path, perhaps with a query after it. -/
  path : String := "/analyze"
  /-- The type of the body; empty if it is not told. -/
  contentType : String := "application/json"
  body : String := ""
deriving DecidableEq, Repr

inductive Body where
  | value (v : Value)
  | text (s : String)

structure HttpResponse where
  status : Nat
  body : Body

/-- A response about something that went wrong. -/
def HttpResponse.detail (status : Nat) (message : String) : HttpResponse :=
  ⟨status, .value (.dict [("detail", .str message)])⟩

def HttpRequest.route (r : HttpRequest) : String := String.ofList (r.path.toList.takeWhile fun c => c != '?' && c != '#')

/-- The kind of the body: the type without its parameters, in lower case. -/
def HttpRequest.kind (r : HttpRequest) : List Char :=
  (r.contentType.toList.takeWhile (· ≠ ';')).filter (· ≠ ' ') |>.map Char.toLower

/-- The body is said to be JSON, or its type is not told. -/
def HttpRequest.tellsJson (r : HttpRequest) : Bool :=
  let kind := r.kind
  kind.isEmpty || kind == "application/json".toList ||
    ("application/".toList.isPrefixOf kind && "+json".toList.isSuffixOf kind)

end GlobalSurvey.Service
