import RequestBook.Entry
import RequestBook.Grammar.Literal

namespace RequestBook.Grammar

open RequestBook.Text

def readVariable (line : Line) (s : List Char) : Except Stop Definition := do
  let (name, rest) ← readName .variableName (s.drop 1)
  let rest ← readChar '=' .equalsSign (skipInline rest)
  let (value, rest) ← readValue (skipInline rest)
  endLine rest
  .ok ⟨.variable, name, value, ⟨line.offsetOf s, line.offsetOf rest⟩⟩

def headerName? (s : List Char) : Option (List Char × List Char) :=
  match s.takeWhile isNameChar, s.dropWhile isNameChar with
  | [], _ => none
  | name, ':' :: rest => some (name, rest)
  | _, _ => none

/-- `Name: value`, the value running to the end of the line. A header without a value ends at its
colon. -/
def readHeader? (line : Line) (s : List Char) : Option Definition :=
  (headerName? s).map fun (name, rest) =>
    let value := trimEnd (skipInline rest)
    let stop :=
      if value.isEmpty then line.offsetOf rest else line.offsetOf (skipInline rest) + width value
    ⟨.header, String.ofList name, .text (String.ofList value), ⟨line.offsetOf s, stop⟩⟩

def readEnvironment (s : List Char) : Except Stop String := do
  let (name, rest) ← readName .environmentName (s.drop 1)
  let rest ← readChar ':' .colon rest
  endLine rest
  .ok name

def readPath (s : List Char) : Except Stop (String × List Char) :=
  match s.takeWhile (fun c => !isBlank c) with
  | [] => expected .requestPath s
  | path => .ok (String.ofList path, s.dropWhile fun c => !isBlank c)

def readBinding (rest : List Char) : Except Stop (Option String × List Char) :=
  match skipInline rest with
  | '|' :: bound => (readName .processorName (skipInline bound)).map fun (name, left) =>
      (some name, left)
  | _ => .ok (none, rest)

/-- `METHOD path` or `METHOD path | processor`, then perhaps a comment. The span ends with the path
or the processor's name. -/
def readRequest (line : Line) (s : List Char) : Except Stop Request := do
  let word := String.ofList (s.takeWhile Char.isAlphanum)
  let rest := s.dropWhile Char.isAlphanum
  match Method.ofName? word with
  | none => stopAt (.unknownMethod word) s
  | some method =>
    if rest.head?.any isInline then
      let (path, rest) ← readPath (skipInline rest)
      let (processor, rest) ← readBinding rest
      endLine rest
      .ok ⟨method, path, none, processor, [], ⟨line.offsetOf s, line.offsetOf rest⟩⟩
    else expected .requestPath rest

def processorKeyword : List Char :=
  "PROCESSOR".toList

def opensProcessor (s : List Char) : Bool :=
  processorKeyword.isPrefixOf s && (s.drop processorKeyword.length).head?.any isInline

def fence : List Char :=
  "```".toList

/-- `PROCESSOR name` and a fence; gives the name and what follows the fence. -/
def readProcessor (s : List Char) : Except Stop (String × List Char) := do
  let (name, rest) ← readName .processorName (skipInline (s.drop processorKeyword.length))
  let rest := skipInline rest
  if fence.isPrefixOf rest then .ok (name, rest.drop fence.length) else expected .fence rest

def splitFence? : List Char → Option (List Char × List Char)
  | '`' :: '`' :: '`' :: rest => some ([], rest)
  | c :: rest => (splitFence? rest).map fun (before, after) => (c :: before, after)
  | [] => none

end RequestBook.Grammar
