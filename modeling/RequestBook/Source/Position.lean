import RequestBook.Source.Line

namespace RequestBook

structure Span where
  start : Nat
  stop : Nat
  deriving DecidableEq

def Span.shift (by' : Nat) (span : Span) : Span :=
  ⟨span.start + by', span.stop + by'⟩

structure Position where
  line : Nat
  column : Nat
  deriving DecidableEq

abbrev Lines := List Line

namespace Lines

/-- The number of the line that holds an offset; past the end that is the last line. -/
def lineOf (lines : Lines) (offset : Nat) : Nat :=
  lines.countP fun line => decide (line.start ≤ offset)

/-- The first and the last line of a span; a span without bytes has the line of its start. -/
def lineRange (lines : Lines) (span : Span) : Nat × Nat :=
  (lines.lineOf span.start,
    lines.lineOf (if span.start < span.stop then span.stop - 1 else span.start))

theorem lineOf_mono (lines : Lines) {a b : Nat} (h : a ≤ b) : lines.lineOf a ≤ lines.lineOf b :=
  List.countP_mono_left fun line _ hline => by
    simp only [decide_eq_true_eq] at hline ⊢
    exact Nat.le_trans hline h

theorem lineRange_fst_le_snd (lines : Lines) (span : Span) :
    (lines.lineRange span).1 ≤ (lines.lineRange span).2 := by
  apply lineOf_mono
  split
  · exact Nat.le_sub_one_of_lt (by assumption)
  · exact Nat.le_refl _

def charsWithin (bytes : Nat) : List Char → Nat
  | [] => 0
  | c :: rest => if c.utf8Size ≤ bytes then 1 + charsWithin (bytes - c.utf8Size) rest else 0

/-- The position of an offset. An offset inside a character stands for the character's first byte,
one past the end for the end. -/
def position (lines : Lines) (offset : Nat) : Position :=
  let number := lines.lineOf offset
  match lines[number - 1]? with
  | some line => ⟨number, 1 + charsWithin (offset - line.start) line.contents⟩
  | none => ⟨number, 1⟩

def text? (lines : Lines) (number : Nat) : Option (List Char) :=
  if number = 0 then none else lines[number - 1]?.map Line.text

end Lines

end RequestBook
