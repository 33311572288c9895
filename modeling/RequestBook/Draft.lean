import RequestBook.Json.Reader
import RequestBook.Scope
import RequestBook.Settings
import RequestBook.Template

/-!
Drafts: requests ready to be sent. A draft has the default headers overlaid by the visible ones, the
path behind the host unless the path is an absolute URL, and every variable replaced. A body that
looks like JSON is declared so, and one that is declared so must be JSON. Which paths are absolute
URLs is left to a test.
-/

namespace RequestBook

structure Draft where
  method : Method
  url : String
  headers : Table String
  body : Option String
  deriving DecidableEq

inductive BuildError
  | resolve : ResolveError → BuildError
  | content : String → Json.ReadError → BuildError
  deriving DecidableEq

def BuildError.message : BuildError → String
  | .resolve e => e.message
  | .content contentType e =>
    "Request body declared as " ++ contentType ++ " failed to parse: " ++ e.message

namespace Draft

/-- The default headers by their lower-case names; of two that share one the later counts. -/
def foldedDefaults (settings : Settings) : Table String :=
  Table.ofList (settings.defaultHeaders.entries.map fun e => (Text.foldCase e.1, e.2))

def ownHeaders (scope : Scope) : Table String :=
  (scope.headers.filter fun name _ => name != hostHeader).map fun _ d => d.text

def rawHeaders (settings : Settings) (scope : Scope) : Table String :=
  (foldedDefaults settings).overlay (ownHeaders scope)

def expandedHeaders (settings : Settings) (scope : Scope) : Table String :=
  (rawHeaders settings scope).map fun _ text => Template.interpolate scope.vars .plain text

def joinHost (host path : String) : String :=
  if host.toList.getLast? == some '/' || path.toList.head? == some '/' then host ++ path
  else host ++ "/" ++ path

def rawUrl (isAbsolute : String → Bool) (path : String) (host : Option Definition) :
    Except ResolveError String :=
  if isAbsolute path then .ok path
  else
    match host with
    | some d => .ok (joinHost d.text path)
    | none => .error .noHost

def looksLikeJson (body : String) : Bool :=
  (Text.trimStart body.toList).head?.any fun c => c == '\x7b' || c == '['

def isInferredJson (body : String) : Bool :=
  looksLikeJson body && (Json.parse (String.ofList (Text.trimStart body.toList))).isOk

def declare (headers : Table String) (body : String) : Except BuildError (Table String) :=
  match headers.get? contentTypeHeader with
  | some value =>
    if isJsonContentType value then
      match Json.parse body with
      | .ok _ => .ok headers
      | .error e => .error (.content value e)
    else .ok headers
  | none =>
    .ok (if isInferredJson body then headers.insert contentTypeHeader jsonContentType else headers)

def buildWith (isAbsolute : String → Bool) (settings : Settings) (scope : Scope) :
    Except BuildError Draft := do
  let request ← scope.theRequest.mapError .resolve
  let url ← (rawUrl isAbsolute request.path (scope.headers.get? hostHeader)).mapError .resolve
  let body := request.body.map (Template.interpolate scope.vars .plain)
  let fields := expandedHeaders settings scope
  let fields ←
    match body with
    | some text => declare fields text
    | none => .ok fields
  .ok ⟨request.method, Template.interpolate scope.vars .percent url, fields, body⟩

def header? (draft : Draft) (name : String) : Option String :=
  draft.headers.field? name

def contentType? (draft : Draft) : Option String :=
  draft.header? contentTypeHeader

def toJson (draft : Draft) : Json :=
  .object [("method", .string draft.method.name), ("url", .string draft.url),
    ("headers", Json.ofTexts draft.headers),
    ("body", match draft.body with
      | some text => .string text
      | none => .null)]

end Draft

end RequestBook
