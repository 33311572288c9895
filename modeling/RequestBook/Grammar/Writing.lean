import RequestBook.Book
import RequestBook.Grammar.Form

namespace RequestBook

open RequestBook.Text

def Value.written : Value → List Char
  | .text s => '"' :: Grammar.escapeQuoted s.toList ++ ['"']
  | .integer n => (toString n).toList

def Definition.written (d : Definition) : List Char :=
  match d.kind with
  | .variable => '$' :: d.name.toList ++ " = ".toList ++ d.value.written
  | .header => d.name.toList ++ ": ".toList ++ d.text.toList

def Environment.written (e : Environment) : List Char :=
  ['\n'].intercalate
    (('@' :: e.name.toList ++ [':']) :: e.definitions.map fun d => "    ".toList ++ d.written)

def Request.binding (r : Request) : List Char :=
  match r.processor with
  | none => []
  | some name => " | ".toList ++ name.toList

def Request.opening (r : Request) : List Char :=
  r.method.name.toList ++ ' ' :: r.path.toList ++ r.binding

def Request.bodyLines (r : Request) : List (List Char) :=
  match r.body with
  | none => []
  | some body => List.splitOn '\n' body.toList

def Request.written (r : Request) : List Char :=
  ['\n'].intercalate (r.opening :: r.headers.map Definition.written ++ r.bodyLines)

def Processor.opening (p : Processor) : List Char :=
  Grammar.processorKeyword ++ ' ' :: p.name.toList ++ ' ' :: Grammar.fence

def Processor.written (p : Processor) : List Char :=
  p.opening ++ '\n' :: p.script.toList ++ '\n' :: Grammar.fence

def Entry.written : Entry → List Char
  | .definition d => d.written
  | .environment e => e.written
  | .request r => r.written
  | .processor p => p.written

def Book.write (moreBlankLines : Nat) (entries : List Entry) : String :=
  String.ofList ((List.replicate (moreBlankLines + 2) '\n').intercalate (entries.map Entry.written))

def IsName (name : String) : Prop :=
  name ≠ "" ∧ ∀ c ∈ name.toList, isNameChar c = true

instance (name : String) : Decidable (IsName name) :=
  decidable_of_iff (name ≠ "" ∧ name.toList.all isNameChar = true)
    (and_congr_right fun _ => List.all_eq_true)

def OneLine (s : List Char) : Prop :=
  '\n' ∉ s ∧ '\r' ∉ s

instance (s : List Char) : Decidable (OneLine s) :=
  inferInstanceAs (Decidable ('\n' ∉ s ∧ '\r' ∉ s))

def Value.Writable : Value → Prop
  | .text s => OneLine s.toList
  | .integer n => -9223372036854775808 ≤ n ∧ n ≤ 9223372036854775807

structure IsHeaderText (s : List Char) : Prop where
  oneLine : OneLine s
  start : ∀ c, s.head? = some c → c ≠ ' ' ∧ c ≠ '\t'
  stop : ∀ c, s.getLast? = some c → isBlank c = false

def Definition.Writable (d : Definition) : Prop :=
  IsName d.name ∧
    match d.kind with
    | .variable => d.value.Writable
    | .header => ∃ s, d.value = .text s ∧ IsHeaderText s.toList

structure Environment.Writable (e : Environment) : Prop where
  name : IsName e.name
  nonempty : e.definitions ≠ []
  definitions : ∀ d ∈ e.definitions, d.Writable

structure IsBody (s : List Char) : Prop where
  nonempty : s ≠ []
  start : ∀ c, s.head? = some c → isBlank c = false
  stop : ∀ c, s.getLast? = some c → isBlank c = false
  no_return : '\r' ∉ s
  no_blank_line : ∀ line ∈ List.splitOn '\n' s, ∃ c ∈ line, isBlank c = false
  no_comment : s.head? ≠ some '#'
  no_header : ∀ name rest, name ≠ [] → (∀ c ∈ name, isNameChar c = true) → s ≠ name ++ ':' :: rest

structure Request.Writable (r : Request) : Prop where
  path_nonempty : r.path ≠ ""
  path : ∀ c ∈ r.path.toList, isBlank c = false
  processor : ∀ name, r.processor = some name → IsName name
  headers : ∀ d ∈ r.headers, d.kind = .header ∧ d.Writable
  body : ∀ body, r.body = some body → IsBody body.toList

structure Processor.Writable (p : Processor) : Prop where
  name : IsName p.name
  start : ∀ c, p.script.toList.head? = some c → isBlank c = false
  stop : ∀ c, p.script.toList.getLast? = some c → isBlank c = false
  no_fence : ¬Grammar.fence <:+: p.script.toList

def Entry.Writable : Entry → Prop
  | .definition d => d.Writable
  | .environment e => e.Writable
  | .request r => r.Writable
  | .processor p => p.Writable

def Definition.bare (d : Definition) : Definition :=
  { d with span := ⟨0, 0⟩ }

def Entry.bare : Entry → Entry
  | .definition d => .definition d.bare
  | .environment e => .environment ⟨e.name, e.definitions.map Definition.bare, ⟨0, 0⟩⟩
  | .request r => .request { r with headers := r.headers.map Definition.bare, span := ⟨0, 0⟩ }
  | .processor p => .processor { p with span := ⟨0, 0⟩ }

theorem Entry.bare_shift (by' : Nat) (e : Entry) : (e.shift by').bare = e.bare := by
  cases e <;> simp [Entry.shift, Entry.bare, Definition.bare, Definition.shift]

end RequestBook
