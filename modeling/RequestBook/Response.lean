import RequestBook.Header
import RequestBook.Json.Reader

namespace RequestBook

structure Response where
  status : Nat
  statusText : String
  version : String
  headers : Table String
  body : List UInt8
  deriving DecidableEq

namespace Response

def ofStatus (status : Nat) (statusText : String) : Response :=
  ⟨status, statusText, "1.1", .empty, []⟩

def contentType? (r : Response) : Option String :=
  r.headers.field? contentTypeHeader

def json? (r : Response) : Option Json :=
  match r.contentType? with
  | some value => if isJsonContentType value then Json.ofBytes? r.body else none
  | none => none

end Response

end RequestBook
