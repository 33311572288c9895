import RequestBook.Book
import RequestBook.Table
import RequestBook.Text.Trim

/-!
Scopes: what the request at a line of a book can see. Definitions count in the order of the book, up
to the request; those of an environment count only while it is active, and those of the request's
own header list come last. A later definition of a name replaces an earlier one.
-/

namespace RequestBook

inductive ResolveError
  | noRequest : Nat → ResolveError
  | noHost : ResolveError
  | missingProcessor : String → ResolveError
  deriving DecidableEq

def ResolveError.message : ResolveError → String
  | .noRequest line => "No request found at line " ++ toString line
  | .noHost => "No host provided"
  | .missingProcessor name => "Request uses non-existent Processor " ++ name

def environmentVariable : String := "ENV"

/-- The names of the active environments: the parts of the first top-level `$ENV` between commas,
without the blanks around them; parts of blanks alone do not count. -/
def Book.activeEnvironments (book : Book) : List String :=
  match book.definition? .variable environmentVariable with
  | none => []
  | some d =>
    ((List.splitOn ',' d.text.toList).map Text.trim).filter (fun name => !name.isEmpty)
      |>.map String.ofList

def Request.covers (lines : Lines) (line : Nat) (r : Request) : Bool :=
  let range := lines.lineRange r.span
  decide (range.1 ≤ line) && decide (line ≤ range.2)

/-- What is visible at a line. Variables are keyed by name, headers by their lower-case names. -/
structure Scope where
  vars : Table Definition
  headers : Table Definition
  environments : List String
  request : Option Request
  processor : Option Processor
  lines : Lines
  line : Nat
  deriving DecidableEq

namespace Scope

def assign (scope : Scope) (d : Definition) : Scope :=
  match d.kind with
  | .variable => { scope with vars := scope.vars.insert d.name d }
  | .header => { scope with headers := scope.headers.insert (Text.foldCase d.name) d }

def initial (book : Book) (line : Nat) : Scope :=
  { vars := .empty
    headers := .empty
    environments := (Table.ofList (book.activeEnvironments.map fun name => (name, ()))).names
    request := none
    processor := none
    lines := book.lines
    line := line }

/-- Reads entries in order. Top-level definitions and those of active environments become visible;
the first request that covers the line adds its headers and ends the reading. -/
def replay (scope : Scope) : List Entry → Scope
  | [] => scope
  | .definition d :: rest => (scope.assign d).replay rest
  | .environment e :: rest =>
    if e.name ∈ scope.environments then (e.definitions.foldl assign scope).replay rest
    else scope.replay rest
  | .request r :: rest =>
    if r.covers scope.lines scope.line then
      { r.headers.foldl assign scope with request := some r }
    else scope.replay rest
  | .processor _ :: rest => scope.replay rest

def bindProcessor (book : Book) (scope : Scope) : Except ResolveError Scope :=
  match scope.request.bind Request.processor with
  | none => .ok scope
  | some name =>
    match book.processor? name with
    | some p => .ok { scope with processor := some p }
    | none => .error (.missingProcessor name)

/-- The scope at a line. A line outside every request has a scope without a request; the one failure
is a request that names a processor the book does not define. -/
def resolve (book : Book) (line : Nat) : Except ResolveError Scope :=
  ((initial book line).replay book.entries).bindProcessor book

def var? (scope : Scope) (name : String) : Option Definition :=
  scope.vars.get? name

def header? (scope : Scope) (name : String) : Option Definition :=
  scope.headers.get? (Text.foldCase name)

@[simp] theorem environments_assign (scope : Scope) (d : Definition) :
    (scope.assign d).environments = scope.environments := by
  cases h : d.kind <;> simp [assign, h]

@[simp] theorem request_assign (scope : Scope) (d : Definition) :
    (scope.assign d).request = scope.request := by
  cases h : d.kind <;> simp [assign, h]

@[simp] theorem processor_assign (scope : Scope) (d : Definition) :
    (scope.assign d).processor = scope.processor := by
  cases h : d.kind <;> simp [assign, h]

@[simp] theorem lines_assign (scope : Scope) (d : Definition) :
    (scope.assign d).lines = scope.lines := by
  cases h : d.kind <;> simp [assign, h]

@[simp] theorem line_assign (scope : Scope) (d : Definition) :
    (scope.assign d).line = scope.line := by
  cases h : d.kind <;> simp [assign, h]

def theRequest (scope : Scope) : Except ResolveError Request :=
  match scope.request with
  | some r => .ok r
  | none => .error (.noRequest scope.line)

end Scope

end RequestBook
