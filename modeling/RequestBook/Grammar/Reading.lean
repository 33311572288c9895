import RequestBook.Book
import RequestBook.Grammar.Form

/-!
Reading a request book, line by line. The state between two lines is the list of finished entries
and the construct that is still open, so what a line means depends only on the lines before it.
-/

namespace RequestBook.Grammar

open RequestBook.Text

/-- A construct that later lines can still add to. -/
inductive Pending
  | nothing : Pending
  /-- an environment, with where it began and its definitions so far -/
  | environment : String → Nat → List Definition → Pending
  /-- a request whose headers may follow -/
  | request : Request → Pending
  /-- a request whose body has begun, with the lines of the body so far -/
  | body : Request → List (List Char) → Pending
  /-- a processor, with where it began and its script so far -/
  | processor : String → Nat → List Char → Pending
  deriving DecidableEq

structure Reading where
  entries : List Entry
  pending : Pending
  deriving DecidableEq

def atLine {α : Type} (line : Line) (r : Except Stop α) : Except Fault α :=
  r.mapError fun stop => ⟨stop.cause, line.start + (width line.text - stop.left)⟩

def readIndented (line : Line) : Except Fault Definition :=
  let s := skipInline line.text
  if s.head? == some '$' then atLine line (readVariable line s)
  else
    match readHeader? line s with
    | some header => .ok header
    | none => atLine line (expected .indentedDefinition s)

def joinBody (lines : List (List Char)) : String :=
  String.ofList (trim (['\n'].intercalate lines))

def Pending.entry? : Pending → Option Entry
  | .nothing => none
  | .environment name start definitions =>
    definitions.getLast?.map fun last =>
      .environment ⟨name, definitions, ⟨start, last.span.stop⟩⟩
  | .request r => some (.request r)
  | .body r lines => some (.request { r with body := some (joinBody lines) })
  | .processor _ _ _ => none

namespace Reading

def empty : Reading := ⟨[], .nothing⟩

def push (reading : Reading) (entry : Entry) : Reading :=
  ⟨reading.entries ++ [entry], .nothing⟩

def close (reading : Reading) : Reading :=
  ⟨reading.entries ++ reading.pending.entry?.toList, .nothing⟩

/-- Goes on with a script on a line of which `rest` is unread: up to the fence, after which only a
comment may stand, or through the end of the line. -/
def continueScript (reading : Reading) (name : String) (start : Nat) (script : List Char)
    (line : Line) (rest : List Char) : Except Fault Reading :=
  match splitFence? rest with
  | some (before, after) => do
    atLine line (endLine after)
    .ok (reading.push (.processor
      ⟨name, String.ofList (trim (script ++ before)), ⟨start, line.offsetOf after⟩⟩))
  | none =>
    .ok { reading with
      pending := .processor name start (script ++ rest ++ line.ending.chars) }

def begin (reading : Reading) (line : Line) : Except Fault Reading :=
  if line.isBlank || line.isComment then .ok reading
  else
    let s := skipInline line.text
    let start := line.offsetOf s
    if s.head? == some '$' then
      (atLine line (readVariable line s)).map fun d => reading.push (.definition d)
    else if s.head? == some '@' then
      (atLine line (readEnvironment s)).map fun name =>
        { reading with pending := .environment name start [] }
    else
      match readHeader? line s with
      | some header => .ok (reading.push (.definition header))
      | none =>
        if opensProcessor s then do
          let (name, rest) ← atLine line (readProcessor s)
          reading.continueScript name start [] line rest
        else if s.head?.any Char.isUpper then
          (atLine line (readRequest line s)).map fun r => { reading with pending := .request r }
        else atLine line (expected .entry s)

def trimmedStop (line : Line) : Nat :=
  line.start + width (trimEnd line.text)

def extendBody (reading : Reading) (r : Request) (lines : List (List Char)) (line : Line) :
    Reading :=
  { reading with
    pending :=
      .body { r with span := ⟨r.span.start, trimmedStop line⟩ } (lines ++ [line.text]) }

def step (reading : Reading) (line : Line) : Except Fault Reading :=
  match reading.pending with
  | .nothing => reading.begin line
  | .environment name start definitions =>
    if line.isBlank || line.isComment then .ok reading
    else if line.isIndented then
      (readIndented line).map fun d =>
        { reading with pending := .environment name start (definitions ++ [d]) }
    else if definitions.isEmpty then .error ⟨.expected .indentedDefinition, line.start⟩
    else reading.close.begin line
  | .request r =>
    if line.isBlank then .ok reading.close
    else if line.isComment then .ok reading
    else
      match readHeader? line (skipInline line.text) with
      | some header =>
        .ok { reading with
          pending := .request { r with
            headers := r.headers ++ [header]
            span := ⟨r.span.start, header.span.stop⟩ } }
      | none => .ok (reading.extendBody r [] line)
  | .body r lines =>
    if line.isBlank then .ok reading.close else .ok (reading.extendBody r lines line)
  | .processor name start script => reading.continueScript name start script line line.text

def finish (total : Nat) (reading : Reading) : Except Fault (List Entry) :=
  match reading.pending with
  | .environment _ _ [] => .error ⟨.expected .indentedDefinition, total⟩
  | .processor _ _ _ => .error ⟨.unterminatedProcessor, total⟩
  | _ => .ok reading.close.entries

end Reading

def readLines (total : Nat) (lines : List Line) : Except Fault (List Entry) := do
  let reading ← lines.foldlM Reading.step Reading.empty
  reading.finish total

end RequestBook.Grammar

namespace RequestBook

/-- Reads a request book. A text that is none has exactly one syntax error, the first. -/
def Book.parse (source : String) : Except SyntaxError Book :=
  let lines := Line.split source.toList
  match Grammar.readLines (Text.width source.toList) lines with
  | .ok entries => .ok ⟨source, entries⟩
  | .error fault => .error (fault.locate lines)

end RequestBook
