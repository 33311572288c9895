import RequestBook.Header
import RequestBook.Json.Value

/-!
Settings: default headers and options of the output. A section of a settings file is laid over the
defaults; names of headers are compared without regard to letter case.
-/

namespace RequestBook

structure Settings where
  defaultHeaders : Table String
  color : Bool
  headers : Bool
  raw : Bool
  deriving DecidableEq

def userAgent : String := "pie/0.2.0"

namespace Settings

def defaultFields : Table String :=
  Table.empty.insert "User-Agent" userAgent

def default : Settings :=
  ⟨defaultFields, true, true, false⟩

inductive Error
  | invalidHeaderName : String → Error
  deriving DecidableEq

def Error.message : Error → String
  | .invalidHeaderName name => "defaultHeaders contains invalid header name '" ++ name ++ "'"

def error? (settings : Settings) : Option Error :=
  (settings.defaultHeaders.names.find? fun name => !isHeaderName name).map .invalidHeaderName

def isValid (settings : Settings) : Bool :=
  settings.error?.isNone

def replaceHeader (headers : Table String) (name value : String) : Table String :=
  (headers.filter fun k _ => !Text.sameName k name).insert name value

theorem get?_replaceHeader (headers : Table String) (name value k : String) :
    (replaceHeader headers name value).get? k =
      if k = name then some value
      else if Text.sameName k name then none
      else headers.get? k := by
  by_cases hk : k = name
  · simp [replaceHeader, hk]
  · cases hs : Text.sameName k name <;> cases hg : headers.get? k <;>
      simp [replaceHeader, hk, hs, hg, Option.filter]

def merge (base upper : Settings) : Settings :=
  { upper with
    defaultHeaders :=
      upper.defaultHeaders.entries.foldl (fun t e => replaceHeader t e.1 e.2) base.defaultHeaders }

def bool? : Json → Option Bool
  | .bool b => some b
  | _ => none

def text? : String × Json → Option (String × String)
  | (name, .string s) => some (name, s)
  | _ => none

def texts? : Json → Option (Table String)
  | .object members => (members.mapM text?).map Table.ofList
  | _ => none

def fieldOr {α : Type} (absent : α) (read : Json → Option α) : Option Json → Option α
  | none => some absent
  | some value => read value

def ofFields? (headers color showHeaders raw : Option Json) : Option Settings := do
  let headers ← fieldOr default.defaultHeaders texts? headers
  let color ← fieldOr default.color bool? color
  let showHeaders ← fieldOr default.headers bool? showHeaders
  let raw ← fieldOr default.raw bool? raw
  some ⟨headers, color, showHeaders, raw⟩

/-- Settings from an object of fields, or from a list of their values in order. Absent fields have
their default values. -/
def ofJson? : Json → Option Settings
  | .object members =>
    ofFields? (members.lookup "defaultHeaders") (members.lookup "color")
      (members.lookup "headers") (members.lookup "raw")
  | .array items =>
    if items.length ≤ 4 then ofFields? items[0]? items[1]? items[2]? items[3]? else none
  | _ => none

def sectionName : String := "pie"

/-- The settings of a settings file: its section laid over the defaults. A section of the wrong
shape counts as absent. -/
def ofFile (file : Option Json) : Settings :=
  match (file.bind fun f => f.member? sectionName).bind ofJson? with
  | some own => default.merge own
  | none => default

def loadMessage (e : Error) : String :=
  "Invalid configuration: " ++ e.message

def load (file : Option Json) : Except Error Settings :=
  match (ofFile file).error? with
  | none => .ok (ofFile file)
  | some e => .error e

/-- Settings after a change; a change to settings that are not allowed leaves the defaults. -/
def update (change : Settings → Settings) (settings : Settings) : Settings :=
  if (change settings).isValid then change settings else default

end Settings

end RequestBook
