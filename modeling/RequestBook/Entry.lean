import RequestBook.Definition
import RequestBook.Method

namespace RequestBook

structure Environment where
  name : String
  definitions : List Definition
  span : Span
  deriving DecidableEq

structure Request where
  method : Method
  path : String
  body : Option String
  processor : Option String
  headers : List Definition
  span : Span
  deriving DecidableEq

structure Processor where
  name : String
  script : String
  span : Span
  deriving DecidableEq

inductive Entry
  | definition : Definition → Entry
  | environment : Environment → Entry
  | request : Request → Entry
  | processor : Processor → Entry
  deriving DecidableEq

namespace Entry

def span : Entry → Span
  | .definition d => d.span
  | .environment e => e.span
  | .request r => r.span
  | .processor p => p.span

def shift (by' : Nat) : Entry → Entry
  | .definition d => .definition (d.shift by')
  | .environment e =>
    .environment ⟨e.name, e.definitions.map (·.shift by'), e.span.shift by'⟩
  | .request r =>
    .request { r with headers := r.headers.map (·.shift by'), span := r.span.shift by' }
  | .processor p => .processor { p with span := p.span.shift by' }

@[simp] theorem span_shift (by' : Nat) (e : Entry) : (e.shift by').span = e.span.shift by' := by
  cases e <;> rfl

end Entry

end RequestBook
