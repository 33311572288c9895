import RequestBook.Method
import RequestBook.Source.Position

namespace RequestBook

inductive Expectation
  | entry : Expectation
  | variableName : Expectation
  | equalsSign : Expectation
  | environmentName : Expectation
  | colon : Expectation
  | indentedDefinition : Expectation
  | requestPath : Expectation
  | processorName : Expectation
  | fence : Expectation
  | value : Expectation
  | digit : Expectation
  | endOfLine : Expectation
  deriving DecidableEq

def Expectation.description : Expectation → String
  | .entry => "a variable, header, environment, request or processor definition"
  | .variableName => "a variable name"
  | .equalsSign => "\"=\""
  | .environmentName => "an environment name"
  | .colon => "\":\""
  | .indentedDefinition => "an indented header or variable definition"
  | .requestPath => "a request path"
  | .processorName => "a processor name"
  | .fence => "\"```\""
  | .value => "a number or a string literal"
  | .digit => "a digit"
  | .endOfLine => "end of line"

inductive SyntaxCause
  | expected : Expectation → SyntaxCause
  | invalidEscape : Char → SyntaxCause
  | unterminatedString : SyntaxCause
  | unterminatedProcessor : SyntaxCause
  | unknownMethod : String → SyntaxCause
  | integerOutOfRange : String → SyntaxCause
  deriving DecidableEq

def SyntaxCause.message : SyntaxCause → String
  | .expected what => "expected " ++ what.description
  | .invalidEscape c => "unsupported escape sequence \"\\" ++ c.toString ++ "\""
  | .unterminatedString => "unterminated string literal, expected a closing quote"
  | .unterminatedProcessor => "unterminated processor body, expected \"```\""
  | .unknownMethod word =>
    "unknown HTTP method '" ++ word ++ "', expected one of: " ++
      ", ".intercalate (Method.all.map Method.name)
  | .integerOutOfRange literal => "integer literal " ++ literal ++ " is out of range"

structure Fault where
  cause : SyntaxCause
  offset : Nat
  deriving DecidableEq

structure SyntaxError where
  cause : SyntaxCause
  position : Position
  offset : Nat
  deriving DecidableEq

def SyntaxError.message (e : SyntaxError) : String :=
  "Line " ++ toString e.position.line ++ ", col " ++ toString e.position.column ++ ": " ++
    e.cause.message

def Fault.locate (fault : Fault) (lines : Lines) : SyntaxError :=
  ⟨fault.cause, lines.position fault.offset, fault.offset⟩

end RequestBook
