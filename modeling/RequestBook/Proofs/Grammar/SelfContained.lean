import RequestBook.Proofs.Grammar.Slice

namespace RequestBook

open RequestBook.Text

namespace Book

/-- The text of an entry's span, which neither begins nor ends with a blank, is a book of one entry,
and this is the entry moved to the start of that text. -/
def SelfContained (source : String) (e : Entry) : Prop :=
  ∃ s e', slice? e.span.start e.span.stop source.toList = some s ∧ Trimmed s ∧
    parse (String.ofList s) = .ok ⟨String.ofList s, [e']⟩ ∧ e'.shift e.span.start = e

theorem selfContained_of_construct {source : String} {before init after : List Line} {last : Line}
    {e : Entry} (hlines : Line.split source.toList = before ++ (init ++ [last] ++ after))
    (h : Grammar.Construct init last e) : SelfContained source e := by
  obtain ⟨passed, indent, text, trail, more, hsource, hslice⟩ := h.exists_slice_of_split hlines
  obtain ⟨e', hread, hshift⟩ := hslice.reads
  refine ⟨text, e', ?_, hslice.starts.trimmed hslice.ends, ?_, hshift⟩
  · rw [hsource, hslice.span, ← width_append]
    exact slice?_append _ _ _
  · rw [parse_eq, String.toList_ofList, hread]
    rfl

/-- Every entry of a book is what the text of its span alone is read as, and so is every definition
of an environment and every header of a request. -/
theorem selfContained_of_parse {source : String} {book : Book} (h : parse source = .ok book) :
    ∀ e ∈ book.entries, SelfContained source e ∧
      ∀ d ∈ e.inner, SelfContained source (.definition d) := by
  intro e he
  obtain ⟨hlines, hread⟩ := lines_of_parse h
  rw [hlines] at hread
  have harranged := Grammar.arranged_of_readLines hread
  constructor
  · obtain ⟨before, init, last, after, hsplit, hconstruct⟩ := harranged.exists_construct he
    exact selfContained_of_construct hsplit hconstruct
  · intro d hd
    obtain ⟨before, line, after, hsplit, hconstruct⟩ := harranged.exists_construct_inner he hd
    exact selfContained_of_construct hsplit hconstruct

def trailing : String :=
  "\t@e: # é\n\n A: é \u3000\n# c\n  $x = -1#\nGET /p|q #\n# c\nB:\r\n\x7b\n \x7d\u3000\n"

theorem selfContained_trailing : ∃ book, parse trailing = .ok book ∧
    book.entries.map Entry.span = [⟨1, 35⟩, ⟨37, 60⟩] ∧
      ∀ e ∈ book.entries, SelfContained trailing e ∧
        ∀ d ∈ e.inner, SelfContained trailing (.definition d) :=
  ⟨_, rfl, rfl, selfContained_of_parse rfl⟩

end Book

end RequestBook
