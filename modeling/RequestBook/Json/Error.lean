import RequestBook.Text.Trim

namespace RequestBook.Json

inductive Reason
  | endInList : Reason
  | endInObject : Reason
  | endInString : Reason
  | endInValue : Reason
  | expectedColon : Reason
  | expectedListCommaOrEnd : Reason
  | expectedObjectCommaOrEnd : Reason
  | expectedIdent : Reason
  | expectedValue : Reason
  | invalidEscape : Reason
  | invalidNumber : Reason
  | numberOutOfRange : Reason
  | controlCharacter : Reason
  | keyNotString : Reason
  | loneSurrogate : Reason
  | endOfHexEscape : Reason
  | trailingComma : Reason
  | trailingCharacters : Reason
  | tooDeep : Reason
  deriving DecidableEq

def Reason.message : Reason → String
  | .endInList => "EOF while parsing a list"
  | .endInObject => "EOF while parsing an object"
  | .endInString => "EOF while parsing a string"
  | .endInValue => "EOF while parsing a value"
  | .expectedColon => "expected `:`"
  | .expectedListCommaOrEnd => "expected `,` or `]`"
  | .expectedObjectCommaOrEnd => "expected `,` or `\x7d`"
  | .expectedIdent => "expected ident"
  | .expectedValue => "expected value"
  | .invalidEscape => "invalid escape"
  | .invalidNumber => "invalid number"
  | .numberOutOfRange => "number out of range"
  | .controlCharacter => "control character (\\u0000-\\u001F) found while parsing a string"
  | .keyNotString => "key must be a string"
  | .loneSurrogate => "lone leading surrogate in hex escape"
  | .endOfHexEscape => "unexpected end of hex escape"
  | .trailingComma => "trailing comma"
  | .trailingCharacters => "trailing characters"
  | .tooDeep => "recursion limit exceeded"

/-- A reason with the bytes of the text that are left after the point of failure. -/
structure Failure where
  reason : Reason
  left : Nat
  deriving DecidableEq

def failBefore {α : Type} (reason : Reason) (rest : List Char) : Except Failure α :=
  .error ⟨reason, Text.width rest⟩

/-- Fails just past the first byte of `rest`, or at the end of the text. -/
def failOn {α : Type} (reason : Reason) (rest : List Char) : Except Failure α :=
  .error ⟨reason, Text.width rest - 1⟩

def placeOf (line column bytes : Nat) : List Char → Nat × Nat
  | [] => (line, column)
  | c :: rest =>
    if bytes = 0 then (line, column)
    else if c = '\n' then placeOf (line + 1) 0 (bytes - 1) rest
    else
      let size := min c.utf8Size bytes
      placeOf line (column + size) (bytes - size) rest

structure ReadError where
  reason : Reason
  line : Nat
  column : Nat
  deriving DecidableEq

def ReadError.message (e : ReadError) : String :=
  e.reason.message ++ " at line " ++ toString e.line ++ " column " ++ toString e.column

def Failure.locate (f : Failure) (text : List Char) : ReadError :=
  let place := placeOf 1 0 (Text.width text - f.left) text
  ⟨f.reason, place.1, place.2⟩

end RequestBook.Json
