import RequestBook.Table
import RequestBook.Text.Trim

namespace RequestBook

/-- The value of the first field of a name, in any case; fields are in the order of their names. -/
def Table.field? (headers : Table String) (name : String) : Option String :=
  (headers.entries.find? fun e => Text.sameName e.1 name).map (·.2)

def isTokenChar (c : Char) : Bool :=
  c.isAlphanum || "!#$%&'*+-.^_`|~".toList.contains c

def isHeaderName (name : String) : Bool :=
  !name.isEmpty && name.toList.all isTokenChar

def contentTypeHeader : String := "content-type"

def hostHeader : String := "host"

def jsonContentType : String := "application/json"

def isJsonContentType (value : String) : Bool :=
  jsonContentType.toList.isPrefixOf ((Text.trim value.toList).map Char.toLower)

end RequestBook
