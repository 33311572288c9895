import RequestBook.Grammar.Reading
import RequestBook.Source.LineCache

/-!
Reading a request book with a cursor, an offset into the bytes of its text. Where the text is cut at an
offset that is no boundary, where a round of a loop does not move the cursor on within the text, where
a span would end before it starts, and where an error has no position, reading is stuck.
-/

namespace RequestBook.Cursor

open RequestBook.Text RequestBook.Grammar

/-- Why reading ends early: at a syntax error, whose offset is a boundary, or because it is stuck. -/
inductive Failure (s : List Char)
  | refused : (e : SyntaxError) → isBoundary e.offset s = true → Failure s
  | stuck : Failure s

inductive Round (β α : Type)
  | again : β → Nat → Round β α
  | done : α → Nat → Round β α

variable (s : List Char)

abbrev Outcome (α : Type) :=
  Except (Failure s) α

def loop {β α : Type} (round : β → Nat → Outcome s (Round β α)) (state : β) (pos : Nat) :
    Outcome s (α × Nat) :=
  match round state pos with
  | .error e => .error e
  | .ok (.done a pos') => .ok (a, pos')
  | .ok (.again state' pos') =>
    if pos < pos' ∧ pos' ≤ width s then loop round state' pos' else .error .stuck
termination_by width s - pos

section

variable {s} {β α : Type} {round : β → Nat → Outcome s (Round β α)} {state state' : β} {a : α}
  {pos pos' : Nat}

theorem loop_error {e : Failure s} (h : round state pos = .error e) :
    loop s round state pos = .error e := by
  rw [loop, h]

theorem loop_done (h : round state pos = .ok (.done a pos')) :
    loop s round state pos = .ok (a, pos') := by
  rw [loop, h]

theorem loop_again (h : round state pos = .ok (.again state' pos')) (hlt : pos < pos')
    (hle : pos' ≤ width s) : loop s round state pos = loop s round state' pos' := by
  rw [loop, h]
  exact if_pos ⟨hlt, hle⟩

end

def fail {α : Type} (cause : SyntaxCause) (offset : Nat) : Outcome s α :=
  match (LineCache.ofText s).position? offset with
  | some (position, _) =>
    if h : isBoundary offset s = true then .error (.refused ⟨cause, position, offset⟩ h)
    else .error .stuck
  | none => .error .stuck

def missing {α : Type} (what : Expectation) (pos : Nat) : Outcome s α :=
  fail s (.expected what) pos

def span (start stop : Nat) : Outcome s Span :=
  if start ≤ stop then .ok ⟨start, stop⟩ else .error .stuck

def rest (pos : Nat) : Outcome s (List Char) :=
  match cut? pos s with
  | some (_, rest) => .ok rest
  | none => .error .stuck

def slice (start stop : Nat) : Outcome s (List Char) :=
  match slice? start stop s with
  | some part => .ok part
  | none => .error .stuck

def atEnd (pos : Nat) : Bool :=
  decide (width s ≤ pos)

def peek (pos : Nat) : Outcome s (Option Char) := do
  let rest ← rest s pos
  .ok rest.head?

def countBytes (p : Char → Bool) (rest : List Char) : Nat :=
  ((bytes rest).takeWhile fun b => p (Char.ofNat b.toNat)).length

def skipInline (pos : Nat) : Outcome s Nat := do
  let rest ← rest s pos
  .ok (pos + countBytes isInline rest)

def restOfLine (rest : List Char) : List Char :=
  rest.takeWhile fun c => !isLineEnd c

def skipToLineEnd (pos : Nat) : Outcome s Nat := do
  let rest ← rest s pos
  .ok (pos + width (restOfLine rest))

def passLineEnd (pos : Nat) : Outcome s Nat := do
  match ← rest s pos with
  | '\r' :: '\n' :: _ => .ok (pos + 2)
  | '\n' :: _ => .ok (pos + 1)
  | '\r' :: _ => .ok (pos + 1)
  | _ => .ok pos

def skipLine (pos : Nat) : Outcome s Nat := do
  let pos ← skipToLineEnd s pos
  passLineEnd s pos

def lineContent (pos : Nat) : Outcome s (List Char) := do
  let rest ← rest s pos
  .ok (Text.skipInline (restOfLine rest))

def lineIsBlank (pos : Nat) : Outcome s Bool := do
  let content ← lineContent s pos
  .ok (trimEnd content).isEmpty

def lineIsComment (pos : Nat) : Outcome s Bool := do
  let content ← lineContent s pos
  .ok (content.head? == some '#')

def atGap (pos : Nat) : Outcome s Bool :=
  if atEnd s pos then .ok true else lineIsBlank s pos

def skipBlankLines (pos : Nat) : Outcome s Nat := do
  let (_, pos) ← loop s round () pos
  .ok pos
where
  round (_ : Unit) (pos : Nat) : Outcome s (Round Unit Unit) := do
    if atEnd s pos then .ok (.done () pos)
    else if (← lineIsBlank s pos) || (← lineIsComment s pos) then
      let pos ← skipLine s pos
      .ok (.again () pos)
    else .ok (.done () pos)

def nameAt (pos : Nat) : Outcome s (List Char × Nat) := do
  let rest ← rest s pos
  let stop := pos + countBytes isNameChar rest
  let name ← slice s pos stop
  .ok (name, stop)

def identifier (what : Expectation) (pos : Nat) : Outcome s (String × Nat) := do
  let (name, stop) ← nameAt s pos
  if stop = pos then missing s what pos else .ok (String.ofList name, stop)

def expectChar (c : Char) (what : Expectation) (pos : Nat) : Outcome s Nat := do
  if (← peek s pos) = some c then .ok (pos + c.utf8Size) else missing s what pos

def skipTrailing (pos : Nat) : Outcome s Nat := do
  let pos ← skipInline s pos
  let pos ← if (← peek s pos) = some '#' then skipToLineEnd s pos else .ok pos
  if (← peek s pos).all isLineEnd then passLineEnd s pos else missing s .endOfLine pos

def quotedRound (value : List Char) (pos : Nat) : Outcome s (Round (List Char) (List Char)) := do
  match ← peek s pos with
  | none => fail s .unterminatedString pos
  | some c =>
    if isLineEnd c then fail s .unterminatedString pos
    else if c = '"' then .ok (.done value (pos + 1))
    else if c = '\\' then
      match ← peek s (pos + 1) with
      | none => fail s .unterminatedString (pos + 1)
      | some d =>
        if d = '"' ∨ d = '\\' then .ok (.again (value ++ [d]) (pos + 1 + 1))
        else if isLineEnd d then fail s .unterminatedString (pos + 1)
        else fail s (.invalidEscape d) pos
    else .ok (.again (value ++ [c]) (pos + c.utf8Size))

def integer? (literal : List Char) : Option Int :=
  let (negative, digits) := readSign literal
  let n : Int := if negative then -digitsValue digits else digitsValue digits
  if inRange n then some n else none

def numberLiteral (start : Nat) : Outcome s (Int × Nat) := do
  let pos := if (← peek s start) = some '-' then start + 1 else start
  let digits := countBytes Char.isDigit (← rest s pos)
  if digits = 0 then missing s .digit pos
  else
    let literal ← slice s start (pos + digits)
    match integer? literal with
    | some n => .ok (n, pos + digits)
    | none => fail s (.integerOutOfRange (String.ofList literal)) start

def value (pos : Nat) : Outcome s (Value × Nat) := do
  match ← peek s pos with
  | some c =>
    if c = '"' then do
      let (value, pos) ← loop s (quotedRound s) [] (pos + 1)
      .ok (.text (String.ofList value), pos)
    else if c = '-' ∨ c.isDigit then do
      let (n, pos) ← numberLiteral s pos
      .ok (.integer n, pos)
    else missing s .value pos
  | none => missing s .value pos

def atHeader (pos : Nat) : Outcome s Bool := do
  let bytes := bytes (← rest s pos)
  let count := (bytes.takeWhile fun b => isNameChar (Char.ofNat b.toNat)).length
  .ok (decide (0 < count) && bytes[count]? == some 58)

def atKeyword (pos : Nat) : Outcome s Bool := do
  .ok (opensProcessor (← rest s pos))

def variableAt (start : Nat) : Outcome s (Definition × Nat) := do
  let (name, pos) ← identifier s .variableName (start + 1)
  let pos ← skipInline s pos
  let pos ← expectChar s '=' .equalsSign pos
  let pos ← skipInline s pos
  let (value, stop) ← value s pos
  let pos ← skipTrailing s stop
  .ok (⟨.variable, name, value, ← span s start stop⟩, pos)

def headerAt (start : Nat) : Outcome s (Definition × Nat) := do
  let (name, pos) ← nameAt s start
  if (← peek s pos) = some ':' then
    let colon := pos + 1
    let first ← skipInline s colon
    let last ← skipToLineEnd s first
    let value := trimEnd (← slice s first last)
    let stop := if value.isEmpty then colon else first + width value
    let pos ← passLineEnd s last
    .ok (⟨.header, String.ofList name, .text (String.ofList value), ← span s start stop⟩, pos)
  else .error .stuck

def indentedAt (pos : Nat) : Outcome s (Definition × Nat) := do
  let pos ← skipInline s pos
  if (← peek s pos) = some '$' then variableAt s pos
  else if ← atHeader s pos then headerAt s pos
  else missing s .indentedDefinition pos

def environmentRound (definitions : List Definition) (resume : Nat) :
    Outcome s (Round (List Definition) (List Definition)) := do
  let pos ← skipBlankLines s resume
  if (← peek s pos).any isInline then
    let (d, pos) ← indentedAt s pos
    .ok (.again (definitions ++ [d]) pos)
  else if definitions.isEmpty then missing s .indentedDefinition pos
  else .ok (.done definitions resume)

def environmentLine (start : Nat) : Outcome s (String × Nat) := do
  let (name, pos) ← identifier s .environmentName (start + 1)
  let pos ← expectChar s ':' .colon pos
  let pos ← skipTrailing s pos
  .ok (name, pos)

def environmentAt (start : Nat) : Outcome s (Environment × Nat) := do
  let (name, pos) ← environmentLine s start
  let (definitions, pos) ← loop s (environmentRound s) [] pos
  let stop := (definitions.getLast?.map fun d => d.span.stop).getD start
  .ok (⟨name, definitions, ← span s start stop⟩, pos)

def pathRound (_ : Unit) (pos : Nat) : Outcome s (Round Unit Unit) := do
  match ← peek s pos with
  | some c => if isBlank c then .ok (.done () pos) else .ok (.again () (pos + c.utf8Size))
  | none => .ok (.done () pos)

def pathAt (start : Nat) : Outcome s (String × Nat) := do
  let (_, stop) ← loop s (pathRound s) () start
  if stop = start then missing s .requestPath stop
  else .ok (String.ofList (← slice s start stop), stop)

def bindingAt (stop : Nat) : Outcome s (Option String × Nat × Nat) := do
  let pos ← skipInline s stop
  if (← peek s pos) = some '|' then
    let pos ← skipInline s (pos + 1)
    let (name, pos) ← identifier s .processorName pos
    .ok (some name, pos, pos)
  else .ok (none, stop, pos)

def requestLine (start : Nat) : Outcome s (Request × Nat) := do
  let count := countBytes Char.isAlphanum (← rest s start)
  let word := String.ofList (← slice s start (start + count))
  match Method.ofName? word with
  | none => fail s (.unknownMethod word) start
  | some method =>
    if (← peek s (start + count)).any isInline then
      let pos ← skipInline s (start + count)
      let (path, stop) ← pathAt s pos
      let (processor, stop, pos) ← bindingAt s stop
      let pos ← skipTrailing s pos
      .ok (⟨method, path, none, processor, [], ⟨start, stop⟩⟩, pos)
    else missing s .requestPath (start + count)

def headersRound (state : List Definition × Nat) (pos : Nat) :
    Outcome s (Round (List Definition × Nat) (List Definition × Nat)) := do
  if ← atGap s pos then .ok (.done state pos)
  else if ← lineIsComment s pos then
    let pos ← skipLine s pos
    .ok (.again state pos)
  else
    let first ← skipInline s pos
    if ← atHeader s first then
      let (d, pos) ← headerAt s first
      .ok (.again (state.1 ++ [d], d.span.stop) pos)
    else .ok (.done state pos)

def bodyRound (state : List (List Char) × Nat) (pos : Nat) :
    Outcome s (Round (List (List Char) × Nat) (List (List Char) × Nat)) := do
  if ← atGap s pos then .ok (.done state pos)
  else
    let last ← skipToLineEnd s pos
    let line ← slice s pos last
    let next ← passLineEnd s last
    .ok (.again (state.1 ++ [line], pos + width (trimEnd line)) next)

def requestAt (start : Nat) : Outcome s (Request × Nat) := do
  let (r, pos) ← requestLine s start
  let ((headers, stop), pos) ← loop s (headersRound s) ([], r.span.stop) pos
  if ← atGap s pos then
    .ok ({ r with headers, span := ← span s start stop }, pos)
  else
    let ((lines, stop), pos) ← loop s (bodyRound s) ([], stop) pos
    .ok ({ r with headers, body := some (joinBody lines), span := ← span s start stop }, pos)

def processorLine (start : Nat) : Outcome s (String × Nat) := do
  let pos ← skipInline s (start + width processorKeyword)
  let (name, pos) ← identifier s .processorName pos
  let pos ← skipInline s pos
  if fence.isPrefixOf (← rest s pos) then .ok (name, pos + width fence) else missing s .fence pos

def processorAt (start : Nat) : Outcome s (Processor × Nat) := do
  let (name, first) ← processorLine s start
  match splitFence? (← rest s first) with
  | none => fail s .unterminatedProcessor (width s)
  | some (before, _) =>
    let script ← slice s first (first + width before)
    let stop := first + width before + width fence
    let pos ← skipTrailing s stop
    .ok (⟨name, String.ofList (trim script), ← span s start stop⟩, pos)

def entryAt (pos : Nat) : Outcome s (Entry × Nat) := do
  let first ← peek s pos
  if first = some '$' then
    let (d, pos) ← variableAt s pos
    .ok (.definition d, pos)
  else if first = some '@' then
    let (e, pos) ← environmentAt s pos
    .ok (.environment e, pos)
  else if ← atHeader s pos then
    let (d, pos) ← headerAt s pos
    .ok (.definition d, pos)
  else if ← atKeyword s pos then
    let (p, pos) ← processorAt s pos
    .ok (.processor p, pos)
  else if first.any Char.isUpper then
    let (r, pos) ← requestAt s pos
    .ok (.request r, pos)
  else missing s .entry pos

def entriesRound (entries : List Entry) (pos : Nat) : Outcome s (Round (List Entry) (List Entry)) := do
  let pos ← skipBlankLines s pos
  if atEnd s pos then .ok (.done entries pos)
  else
    let pos ← skipInline s pos
    let (entry, pos) ← entryAt s pos
    .ok (.again (entries ++ [entry]) pos)

def parse : Outcome s (List Entry) := do
  let (entries, _) ← loop s (entriesRound s) [] 0
  .ok entries

end RequestBook.Cursor
