import RequestBook.Entry

namespace RequestBook

structure Book where
  source : String
  entries : List Entry
  deriving DecidableEq

namespace Book

def lines (book : Book) : Lines :=
  Line.split book.source.toList

def requests (book : Book) : List Request :=
  book.entries.filterMap fun
    | .request r => some r
    | _ => none

def definition? (book : Book) (kind : Kind) (name : String) : Option Definition :=
  book.entries.findSome? fun
    | .definition d => if d.kind = kind ∧ d.name = name then some d else none
    | _ => none

def processor? (book : Book) (name : String) : Option Processor :=
  book.entries.findSome? fun
    | .processor p => if p.name = name then some p else none
    | _ => none

end Book

end RequestBook
