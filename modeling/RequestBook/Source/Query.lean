import RequestBook.Source.Position

namespace RequestBook

inductive LineQuery
  | lineOf : Nat → LineQuery
  | lineRange : Span → LineQuery
  | position : Nat → LineQuery
  | text : Nat → LineQuery
  deriving DecidableEq

inductive LineAnswer
  | line : Nat → LineAnswer
  | range : Nat → Nat → LineAnswer
  | position : Position → LineAnswer
  | text : Option (List Char) → LineAnswer
  deriving DecidableEq

def Lines.answer (lines : Lines) : LineQuery → LineAnswer
  | .lineOf offset => .line (lines.lineOf offset)
  | .lineRange span => .range (lines.lineRange span).1 (lines.lineRange span).2
  | .position offset => .position (lines.position offset)
  | .text number => .text (lines.text? number)

end RequestBook
