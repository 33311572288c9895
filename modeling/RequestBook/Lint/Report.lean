import RequestBook.Grammar.Reading
import RequestBook.Lint.Undefined

namespace RequestBook.Lint

def ofRequest (book : Book) (r : Request) : List Diagnostic :=
  let line := book.lines.lineOf r.span.start
  match Scope.resolve book line with
  | .ok scope => undefinedReferences scope
  | .error e => [.error line 1 e.message]

def report (source : String) : List Diagnostic :=
  match Book.parse source with
  | .error e => [.ofSyntaxError e]
  | .ok book => Diagnostic.dedupe (book.requests.flatMap (ofRequest book))

end RequestBook.Lint
