import RequestBook.Source.Query
import RequestBook.Text.Bytes

/-!
A cache of line starts that reads the bytes of a text only as far as the questions so far needed.
Each question first reads on where it must, then answers from the starts found. A question has no
answer where it would index past the starts or cut the text inside a character.
-/

namespace RequestBook

open RequestBook.Text

/-- The starts of the lines found so far, in order, and the bytes of the text not read yet. -/
structure LineCache where
  source : List Char
  starts : List Nat
  scanned : Nat
  unread : List UInt8
  deriving DecidableEq

namespace LineCache

def ofText (source : List Char) : LineCache :=
  ⟨source, [0], 0, bytes source⟩

/-- Whether a line ends after `b` when `rest` follows; the pair `\r\n` ends one only at its `\n`. -/
def endsLine (b : UInt8) (rest : List UInt8) : Bool :=
  b == 10 || (b == 13 && rest.head? != some 10)

def read (cache : LineCache) (b : UInt8) (rest : List UInt8) : LineCache :=
  { cache with
    starts :=
      if endsLine b rest then cache.starts ++ [cache.scanned + 1] else cache.starts
    scanned := cache.scanned + 1
    unread := rest }

def readTo (target : Nat) (cache : LineCache) : LineCache :=
  go cache cache.unread
where
  go (cache : LineCache) : List UInt8 → LineCache
    | [] => cache
    | b :: rest => if cache.scanned < target then go (cache.read b rest) rest else cache

def breakAfter (offset : Nat) : List UInt8 → Nat
  | [] => offset
  | b :: rest => if endsLine b rest then offset + 1 else breakAfter (offset + 1) rest

theorem lt_breakAfter (offset : Nat) {unread : List UInt8} (h : unread ≠ []) :
    offset < breakAfter offset unread := by
  fun_induction breakAfter offset unread with
  | case1 => exact absurd rfl h
  | case2 offset b rest hends => exact Nat.lt_succ_self offset
  | case3 offset b rest hends ih =>
    cases rest with
    | nil => exact Nat.lt_succ_self offset
    | cons b' rest => exact Nat.lt_of_succ_lt (ih (List.cons_ne_nil _ _))

theorem length_unread_go_le (target : Nat) (cache : LineCache) (unread : List UInt8)
    (h : cache.unread = unread) : (readTo.go target cache unread).unread.length ≤ unread.length := by
  induction unread generalizing cache with
  | nil => exact Nat.le_of_eq (congrArg List.length h)
  | cons b rest ih =>
    rw [readTo.go]
    split
    · exact Nat.le_succ_of_le (ih (cache.read b rest) rfl)
    · exact Nat.le_of_eq (congrArg List.length h)

theorem length_unread_readTo_lt {target : Nat} {cache : LineCache} (h : cache.unread ≠ [])
    (hlt : cache.scanned < target) : (cache.readTo target).unread.length < cache.unread.length := by
  cases hunread : cache.unread with
  | nil => exact absurd hunread h
  | cons b rest =>
    rw [readTo, hunread, readTo.go, if_pos hlt]
    exact Nat.lt_succ_of_le (length_unread_go_le target (cache.read b rest) rest rfl)

def readPast (number : Nat) (cache : LineCache) : LineCache :=
  if cache.starts.length ≤ number ∧ cache.unread ≠ [] then
    (cache.readTo (breakAfter cache.scanned cache.unread)).readPast number
  else cache
termination_by cache.unread.length
decreasing_by
  rename_i h
  exact length_unread_readTo_lt h.2 (lt_breakAfter cache.scanned h.2)

/-- How many numbers at the head of a list satisfy a property that none after them does, found by
halving. -/
def partitionPoint (p : Nat → Bool) (xs : List Nat) : Nat :=
  go 0 xs.length
where
  go (low high : Nat) : Nat :=
    if low < high then
      match xs[low + (high - low) / 2]? with
      | some x =>
        if p x then go (low + (high - low) / 2 + 1) high else go low (low + (high - low) / 2)
      | none => low
    else low
  termination_by high - low

def dropBreak (line : List Char) : List Char :=
  match line.reverse with
  | '\n' :: '\r' :: text => text.reverse
  | '\n' :: text => text.reverse
  | '\r' :: text => text.reverse
  | _ => line

def lineOf (offset : Nat) (cache : LineCache) : Nat × LineCache :=
  let offset := min offset (width cache.source)
  let cache := cache.readTo offset
  (partitionPoint (fun start => decide (start ≤ offset)) cache.starts, cache)

def lineRange (span : Span) (cache : LineCache) : (Nat × Nat) × LineCache :=
  let (first, cache) := cache.lineOf span.start
  let (last, cache) :=
    cache.lineOf (if span.start < span.stop then span.stop - 1 else span.start)
  ((first, last), cache)

def position? (offset : Nat) (cache : LineCache) : Option (Position × LineCache) :=
  let offset := floorBoundary cache.source (min offset (width cache.source))
  let (number, cache) := cache.lineOf offset
  match number with
  | 0 => none
  | index + 1 => do
    let start ← cache.starts[index]?
    let passed ← slice? start offset cache.source
    some (⟨index + 1, passed.length + 1⟩, cache)

def text? (number : Nat) (cache : LineCache) : Option (Option (List Char) × LineCache) :=
  match number with
  | 0 => some (none, cache)
  | index + 1 =>
    let cache := cache.readPast (index + 1)
    match cache.starts[index]? with
    | none => some (none, cache)
    | some start => do
      let stop := cache.starts[index + 1]?.getD (width cache.source)
      let line ← slice? start stop cache.source
      some (some (dropBreak line), cache)

def ask? (query : LineQuery) (cache : LineCache) : Option (LineAnswer × LineCache) :=
  match query with
  | .lineOf offset => some ((cache.lineOf offset).map .line id)
  | .lineRange span => some ((cache.lineRange span).map (fun r => .range r.1 r.2) id)
  | .position offset => (cache.position? offset).map fun r => r.map .position id
  | .text number => (cache.text? number).map fun r => r.map .text id

def askAll? (cache : LineCache) : List LineQuery → Option (List LineAnswer)
  | [] => some []
  | query :: more => do
    let (answer, cache) ← cache.ask? query
    let answers ← cache.askAll? more
    some (answer :: answers)

def askAll (cache : LineCache) (queries : List LineQuery) : List LineAnswer :=
  (cache.askAll? queries).getD []

end LineCache

end RequestBook
