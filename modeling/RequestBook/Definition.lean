import RequestBook.Source.Position

namespace RequestBook

inductive Kind
  | header : Kind
  | variable : Kind
  deriving DecidableEq

inductive Value
  | text : String → Value
  | integer : Int → Value
  deriving DecidableEq

def Value.toText : Value → String
  | .text s => s
  | .integer n => toString n

structure Definition where
  kind : Kind
  name : String
  value : Value
  span : Span
  deriving DecidableEq

def Definition.text (d : Definition) : String :=
  d.value.toText

def Definition.shift (by' : Nat) (d : Definition) : Definition :=
  { d with span := d.span.shift by' }

end RequestBook
