import Mathlib.Data.List.Forall2
import RequestBook.Proofs.Lint.Warnings

namespace RequestBook

open RequestBook.Text

namespace Template

def nameAt (text : List Char) (i : Nat) : Option (List Char) :=
  let run := (text.drop (i + 1)).takeWhile isNameChar
  if text[i]? = some '$' ∧ run ≠ [] then some run else none

theorem references_cons (c : Char) (text : List Char) :
    references (c :: text) = (nameAt (c :: text) 0).toList ++ references text := by
  rw [references, nameAt]
  simp only [List.getElem?_cons_zero, List.drop_succ_cons, List.drop_zero, Option.some.injEq]
  split <;> rfl

theorem references_eq_filterMap (text : List Char) :
    references text = (List.range text.length).filterMap (nameAt text) := by
  induction text with
  | nil => rfl
  | cons c text ih =>
    rw [references_cons, ih, List.length_cons, List.range_succ_eq_map, List.filterMap_cons,
      List.filterMap_map]
    cases nameAt (c :: text) 0 <;> rfl

end Template

namespace Scope

variable {book : Book} {line : Nat} {scope : Scope}

theorem pairwise_headers (hscope : resolve book line = .ok scope) :
    scope.headers.values.Pairwise fun a b => foldCase a.name < foldCase b.name := by
  rw [Table.values, List.pairwise_map]
  refine scope.headers.ordered.imp_of_mem fun {a b} ha hb hlt => ?_
  rw [(key_of_get?_headers hscope (Table.get?_eq_some_iff.mpr ha)).2,
    (key_of_get?_headers hscope (Table.get?_eq_some_iff.mpr hb)).2]
  exact hlt

end Scope

namespace Lint

structure Mention where
  owner : Span
  name : List Char

/-- The references to names that are not visible, in the order of the texts and of the dollar signs in
each. -/
def mentions (scope : Scope) : List Mention :=
  (passages scope).flatMap fun passage =>
    let names := (List.range passage.text.toList.length).filterMap
      (Template.nameAt passage.text.toList)
    (names.filter fun name => (scope.var? (String.ofList name)).isNone).map (Mention.mk passage.owner)

/-- The texts in the order in which they are read: the values of the visible headers by their
lower-case names, the body of the request, and its path. -/
structure ReadInOrder (scope : Scope) (headers : List Definition) : Prop where
  mem_iff : ∀ d, d ∈ headers ↔ scope.header? d.name = some d
  ordered : headers.Pairwise fun a b => foldCase a.name < foldCase b.name
  of_no_request : scope.request = none →
    passages scope = headers.map fun d => ⟨d.text, d.span⟩
  of_request : ∀ r, scope.request = some r →
    passages scope = (headers.map fun d => ⟨d.text, d.span⟩) ++
      (r.body.toList.map (⟨·, r.span⟩) ++ [⟨r.path, r.span⟩])

/-- The warning stands where the token of the reference first stands on the lines of its construct,
and ends on the same line where the token ends. -/
structure Located (scope : Scope) (m : Mention) (w : Diagnostic) : Prop where
  severity : w.severity = .warning
  message : w.message = undefinedMessage ('$' :: m.name)
  endLine : w.endLine = some w.line
  endColumn : w.endColumn = some (w.column + (m.name.length + 1))
  first : IsFirst scope.lines (scope.lines.lineRange m.owner) ('$' :: m.name) ⟨w.line, w.column⟩

variable {source : String} {book : Book} {line : Nat} {scope : Scope} {passage : Passage}
  {name : List Char}

theorem undefinedReferences_eq (scope : Scope) : undefinedReferences scope =
    (mentions scope).map fun m => locate scope.lines m.name m.owner := by
  simp only [undefinedReferences, mentions, List.map_flatMap, List.map_map,
    Template.references_eq_filterMap]
  rfl

theorem readInOrder_of_resolve (hscope : Scope.resolve book line = .ok scope) :
    ReadInOrder scope scope.headers.values := by
  refine ⟨fun d => Scope.mem_headers_iff hscope, Scope.pairwise_headers hscope, ?_, ?_⟩
  · intro hr
    rw [passages, hr]
    simp
  · intro r hr
    rw [passages, hr]
    simp

theorem located_of_reference (h : Book.parse source = .ok book)
    (hscope : Scope.resolve book line = .ok scope) (hpassage : passage ∈ passages scope)
    (hname : name ∈ Template.references passage.text.toList) :
    Located scope ⟨passage.owner, name⟩ (locate scope.lines name passage.owner) := by
  obtain ⟨-, hchars, before, hbefore⟩ := occurs_of_mem_references hname
  have hlocate : ∃ p, locate scope.lines name passage.owner = warningAt p ('$' :: name) ∧
      IsFirst scope.lines (scope.lines.lineRange passage.owner) ('$' :: name) p := by
    rcases passages_cases hpassage with
      ⟨d, hd, rfl⟩ | ⟨r, text, hr, hbody, rfl⟩ | ⟨r, hr, rfl⟩
    · obtain ⟨hvisible, passed, l, after, hat⟩ := Scope.exists_headerAt h hscope hd
      obtain ⟨p, heq, hp, -⟩ := locate_header hchars hvisible hat hbefore
      exact ⟨p, heq, hp⟩
    · obtain ⟨passed, first, heads, rows, after, hat⟩ := Scope.exists_requestAt h hscope hr
      obtain ⟨p, heq, hp, -⟩ := locate_body hchars hat hbody hbefore
      exact ⟨p, heq, hp⟩
    · obtain ⟨passed, first, heads, rows, after, hat⟩ := Scope.exists_requestAt h hscope hr
      obtain ⟨p, heq, hp, -⟩ := locate_path hchars hat hbefore
      exact ⟨p, heq, hp⟩
  obtain ⟨p, heq, hp⟩ := hlocate
  rw [heq]
  exact ⟨rfl, rfl, rfl, rfl, hp⟩

theorem located_of_mention {m : Mention} (h : Book.parse source = .ok book)
    (hscope : Scope.resolve book line = .ok scope) (hm : m ∈ mentions scope) :
    Located scope m (locate scope.lines m.name m.owner) := by
  obtain ⟨passage, hpassage, hm⟩ := List.mem_flatMap.mp hm
  obtain ⟨name, hname, rfl⟩ := List.mem_map.mp hm
  refine located_of_reference h hscope hpassage ?_
  rw [Template.references_eq_filterMap]
  exact List.mem_of_mem_filter hname

/-- There is one warning for each reference to a name that is not visible, in the order in which the
texts are read, and each stands on the lines of its construct. -/
theorem located_of_parse (h : Book.parse source = .ok book)
    (hscope : Scope.resolve book line = .ok scope) :
    (∃ headers, ReadInOrder scope headers) ∧
      List.Forall₂ (Located scope) (mentions scope) (undefinedReferences scope) := by
  refine ⟨⟨_, readInOrder_of_resolve hscope⟩, ?_⟩
  rw [undefinedReferences_eq, List.forall₂_map_right_iff, List.forall₂_same]
  exact fun m hm => located_of_mention h hscope hm

def scattered : String :=
  "B: $b\nA: $a$a\nPOST /$p\n$c"

def scatteredBook : Book :=
  ⟨scattered, [.definition ⟨.header, "B", .text "$b", ⟨0, 5⟩⟩,
    .definition ⟨.header, "A", .text "$a$a", ⟨6, 13⟩⟩,
    .request ⟨.post, "/$p", some "$c", none, [], ⟨14, 25⟩⟩]⟩

theorem located_of_parse_scattered : Book.parse scattered = .ok scatteredBook ∧
    ∃ scope, Scope.resolve scatteredBook 3 = .ok scope ∧
      undefinedReferences scope =
        [warningAt ⟨2, 4⟩ ['$', 'a'], warningAt ⟨2, 4⟩ ['$', 'a'], warningAt ⟨1, 4⟩ ['$', 'b'],
          warningAt ⟨4, 1⟩ ['$', 'c'], warningAt ⟨3, 7⟩ ['$', 'p']] ∧
      List.Forall₂ (Located scope) (mentions scope) (undefinedReferences scope) := by
  have hparse : Book.parse scattered = .ok scatteredBook := rfl
  obtain ⟨scope, hscope, hwarnings⟩ : ∃ scope, Scope.resolve scatteredBook 3 = .ok scope ∧
      undefinedReferences scope =
        [warningAt ⟨2, 4⟩ ['$', 'a'], warningAt ⟨2, 4⟩ ['$', 'a'], warningAt ⟨1, 4⟩ ['$', 'b'],
          warningAt ⟨4, 1⟩ ['$', 'c'], warningAt ⟨3, 7⟩ ['$', 'p']] := ⟨_, rfl, rfl⟩
  exact ⟨hparse, scope, hscope, hwarnings, (located_of_parse hparse hscope).2⟩

end Lint

end RequestBook
