import RequestBook.Lint.Diagnostic
import RequestBook.Scope
import RequestBook.Template

/-!
References to undefined variables. The visible headers, the body and the path of a request are read
for references; each one to a name without a variable gives a warning, placed where the reference
first stands in the lines of the construct that holds the text.
-/

namespace RequestBook.Lint

open RequestBook.Text

structure Passage where
  text : String
  owner : Span
  deriving DecidableEq

/-- The texts of a scope that may refer to variables: header values in the order of the headers'
lower-case names, then the body and the path of the request. -/
def passages (scope : Scope) : List Passage :=
  let headers := scope.headers.values.map fun d => Passage.mk d.text d.span
  let own := scope.request.toList.flatMap fun r =>
    (r.body.toList.map fun body => Passage.mk body r.span) ++ [Passage.mk r.path r.span]
  headers ++ own

def findToken (token : List Char) : List Char → Option Nat
  | [] => none
  | c :: rest =>
    if token.isPrefixOf (c :: rest) && !((c :: rest).drop token.length).head?.any isNameChar then
      some 0
    else (findToken token rest).map (· + 1)

def undefinedMessage (token : List Char) : String :=
  "Reference to undefined var " ++ String.ofList token

def findLine (token : List Char) (number : Nat) : List Line → Option Position
  | [] => none
  | line :: rest =>
    match findToken token line.text with
    | some before => some ⟨number, before + 1⟩
    | none => findLine token (number + 1) rest

/-- The warning for a reference that a construct holds. One that stands on no line of the construct
is placed at the start of its first line. -/
def locate (lines : Lines) (name : List Char) (owner : Span) : Diagnostic :=
  let token := '$' :: name
  let range := lines.lineRange owner
  let owned := (lines.drop (range.1 - 1)).take (range.2 + 1 - range.1)
  match findLine token range.1 owned with
  | some p =>
    (Diagnostic.warning p.line p.column (undefinedMessage token)).upTo (p.column + token.length)
  | none => .warning range.1 1 (undefinedMessage token)

def undefinedReferences (scope : Scope) : List Diagnostic :=
  (passages scope).flatMap fun passage =>
    ((Template.references passage.text.toList).filter fun name =>
        (scope.var? (String.ofList name)).isNone).map
      fun name => locate scope.lines name passage.owner

end RequestBook.Lint
