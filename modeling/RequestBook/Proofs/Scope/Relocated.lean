import RequestBook.Draft
import RequestBook.Lint.Report
import RequestBook.Proofs.Grammar.Relocated
import RequestBook.Proofs.Scope.Resolution

namespace RequestBook

theorem Table.map_insert {α β : Type} (f : α → β) (t : Table α) (name : String) (value : α) :
    (t.insert name value).map (fun _ a => f a) = (t.map fun _ a => f a).insert name (f value) := by
  apply ext_get?
  intro k
  rw [get?_map, get?_insert, get?_insert, get?_map]
  split <;> rfl

theorem Table.values_map {α β : Type} (f : α → β) (t : Table α) :
    (t.map fun _ a => f a).values = t.values.map f := by
  simp [values, map]

variable {ρ : Relocation} {book book' : Book} {lines : Lines}

structure Book.Relocates (ρ : Relocation) (book book' : Book) : Prop where
  entries : book'.entries = book.entries.map (·.relocate ρ)
  lineOf : ∀ offset, book'.lines.lineOf (ρ.offset offset) = book.lines.lineOf offset
  lineRange : ∀ span : Span, book'.lines.lineRange (span.relocate ρ) = book.lines.lineRange span
  texts : book'.lines.map Line.text = book.lines.map Line.text

namespace Book

theorem definition?_relocate (h : book'.entries = book.entries.map (·.relocate ρ)) (kind : Kind)
    (name : String) :
    book'.definition? kind name = (book.definition? kind name).map (·.relocate ρ) := by
  rw [definition?, h, List.findSome?_map, definition?, List.map_findSome?]
  congr 1
  funext e
  cases e with
  | definition d =>
    simp only [Function.comp, Entry.relocate, Definition.relocate]
    split <;> rfl
  | environment | request | processor => rfl

theorem processor?_relocate (h : book'.entries = book.entries.map (·.relocate ρ))
    (name : String) : book'.processor? name = (book.processor? name).map (·.relocate ρ) := by
  rw [processor?, h, List.findSome?_map, processor?, List.map_findSome?]
  congr 1
  funext e
  cases e with
  | processor p =>
    simp only [Function.comp, Entry.relocate, Processor.relocate]
    split <;> rfl
  | definition | environment | request => rfl

theorem activeEnvironments_relocate (h : book'.entries = book.entries.map (·.relocate ρ)) :
    book'.activeEnvironments = book.activeEnvironments := by
  rw [activeEnvironments, definition?_relocate h, activeEnvironments]
  cases book.definition? .variable environmentVariable <;> rfl

theorem requests_relocate (h : book'.entries = book.entries.map (·.relocate ρ)) :
    book'.requests = book.requests.map (·.relocate ρ) := by
  rw [requests, h, List.filterMap_map, requests, List.map_filterMap]
  congr 1
  funext e
  cases e <;> rfl

end Book

namespace Scope

variable (ρ) in
def relocate (lines : Lines) (scope : Scope) : Scope :=
  { scope with
    vars := scope.vars.map fun _ d => d.relocate ρ
    headers := scope.headers.map fun _ d => d.relocate ρ
    request := scope.request.map (·.relocate ρ)
    processor := scope.processor.map (·.relocate ρ)
    lines := lines }

theorem assign_relocate (scope : Scope) (d : Definition) :
    (scope.relocate ρ lines).assign (d.relocate ρ) = (scope.assign d).relocate ρ lines := by
  have hkind : (d.relocate ρ).kind = d.kind := rfl
  rw [assign, hkind, assign]
  cases d.kind <;> simp only [relocate, Table.map_insert] <;> rfl

theorem foldl_assign_relocate (scope : Scope) (ds : List Definition) :
    (ds.map (·.relocate ρ)).foldl assign (scope.relocate ρ lines) =
      (ds.foldl assign scope).relocate ρ lines := by
  induction ds generalizing scope with
  | nil => rfl
  | cons d ds ih => rw [List.map_cons, List.foldl_cons, List.foldl_cons, assign_relocate, ih]

theorem replay_relocate (scope : Scope) (entries : List Entry)
    (h : ∀ span : Span, lines.lineRange (span.relocate ρ) = scope.lines.lineRange span) :
    (scope.relocate ρ lines).replay (entries.map (·.relocate ρ)) =
      (scope.replay entries).relocate ρ lines := by
  induction entries generalizing scope with
  | nil => rfl
  | cons e rest ih =>
    cases e with
    | definition d =>
      have hrest := ih (scope.assign d) (by simpa using h)
      rw [← assign_relocate] at hrest
      exact hrest
    | environment e =>
      have hrest := ih (e.definitions.foldl assign scope) (by simpa using h)
      rw [← foldl_assign_relocate] at hrest
      simp only [List.map_cons, Entry.relocate, replay]
      rw [apply_ite (relocate ρ lines), ← hrest, ← ih scope h]
      rfl
    | request r =>
      have hcovers : Request.covers lines scope.line (r.relocate ρ) =
          Request.covers scope.lines scope.line r := by
        rw [Request.covers, Request.covers, Request.relocate, h]
      simp only [List.map_cons, Entry.relocate, replay]
      rw [apply_ite (relocate ρ lines), ← ih scope h, ← hcovers]
      congr 1
      exact congrArg (fun scope : Scope => { scope with request := some (r.relocate ρ) })
        (foldl_assign_relocate scope r.headers)
    | processor p => exact ih scope h

theorem resolve_relocate (h : book.Relocates ρ book') (line : Nat) :
    resolve book' line = (resolve book line).map (relocate ρ book'.lines) := by
  have hinitial : initial book' line = (initial book line).relocate ρ book'.lines := by
    rw [initial, Book.activeEnvironments_relocate h.entries]
    rfl
  rw [resolve, hinitial, h.entries, replay_relocate _ _ h.lineRange, resolve, bindProcessor,
    bindProcessor]
  generalize (initial book line).replay book.entries = scope
  have hname : (scope.relocate ρ book'.lines).request.bind Request.processor =
      scope.request.bind Request.processor := by
    rw [relocate]
    cases scope.request <;> rfl
  rw [hname]
  cases scope.request.bind Request.processor with
  | none => rfl
  | some name =>
    dsimp only
    rw [Book.processor?_relocate h.entries]
    cases book.processor? name <;> rfl

theorem lines_of_resolve {line : Nat} {scope : Scope} (h : resolve book line = .ok scope) :
    scope.lines = book.lines := by
  obtain ⟨chosen, before, hselects⟩ := exists_selects book.lines line book.entries
  have hlines : (ofChosen book line chosen before).lines = book.lines :=
    lines_foldl_assign (initial book line) (book.definitionsFor chosen before)
  rw [resolve_of_selects hselects, bindProcessor] at h
  split at h
  · cases h
    exact hlines
  · split at h
    · cases h
      exact hlines
    · cases h

end Scope

namespace Lint

theorem findLine_of_texts {token : List Char} {number : Nat} {lines' : Lines}
    (h : lines'.map Line.text = lines.map Line.text) :
    findLine token number lines' = findLine token number lines := by
  induction lines generalizing number lines' with
  | nil => rw [List.map_eq_nil_iff.mp h]
  | cons line lines ih =>
    obtain _ | ⟨line', lines'⟩ := lines'
    · cases h
    · obtain ⟨htext, hrest⟩ := List.cons.inj h
      rw [findLine, htext, ih hrest, findLine]

theorem locate_relocate {lines' : Lines}
    (hrange : ∀ span : Span, lines'.lineRange (span.relocate ρ) = lines.lineRange span)
    (htexts : lines'.map Line.text = lines.map Line.text) (name : List Char) (owner : Span) :
    locate lines' name (owner.relocate ρ) = locate lines name owner := by
  have htaken (m n : Nat) : ((lines'.drop m).take n).map Line.text =
      ((lines.drop m).take n).map Line.text := by
    rw [List.map_take, List.map_drop, htexts, ← List.map_drop, ← List.map_take]
  simp only [locate, hrange, findLine_of_texts (htaken _ _)]

def Passage.relocate (ρ : Relocation) (passage : Passage) : Passage :=
  { passage with owner := passage.owner.relocate ρ }

theorem passages_relocate (scope : Scope) :
    passages (scope.relocate ρ lines) = (passages scope).map (Passage.relocate ρ) := by
  rw [passages, passages, Scope.relocate, Table.values_map]
  simp only [List.map_append, List.map_map]
  congr 1
  cases scope.request with
  | none => rfl
  | some r =>
    cases hbody : r.body <;> simp [Request.relocate, Passage.relocate, hbody]

theorem undefinedReferences_relocate {scope : Scope}
    (hrange : ∀ span : Span, lines.lineRange (span.relocate ρ) = scope.lines.lineRange span)
    (htexts : lines.map Line.text = scope.lines.map Line.text) :
    undefinedReferences (scope.relocate ρ lines) = undefinedReferences scope := by
  have hvar (name : String) :
      ((scope.relocate ρ lines).var? name).isNone = (scope.var? name).isNone := by
    rw [Scope.var?, Scope.relocate, Table.get?_map, Option.isNone_map]
    rfl
  rw [undefinedReferences, passages_relocate, List.flatMap_map, undefinedReferences]
  simp only [hvar, Passage.relocate]
  have hlocate := locate_relocate hrange htexts
  simp only [Scope.relocate, hlocate]

theorem ofRequest_relocate (h : book.Relocates ρ book') (r : Request) :
    ofRequest book' (r.relocate ρ) = ofRequest book r := by
  have hline : book'.lines.lineOf (r.relocate ρ).span.start = book.lines.lineOf r.span.start :=
    h.lineOf r.span.start
  rw [ofRequest, hline, Scope.resolve_relocate h, ofRequest]
  cases hresolve : Scope.resolve book (book.lines.lineOf r.span.start) with
  | ok scope =>
    have hlines := Scope.lines_of_resolve hresolve
    exact undefinedReferences_relocate (hlines ▸ h.lineRange) (hlines ▸ h.texts)
  | error e => rfl

end Lint

namespace Draft

theorem interpolate_relocate (vars : Table Definition) :
    Template.interpolate (vars.map fun _ d => d.relocate ρ) = Template.interpolate vars := by
  funext encoding text
  simp only [Template.interpolate, Table.get?_map, Option.map_map]
  rfl

theorem expandedHeaders_relocate (settings : Settings) (scope : Scope) :
    expandedHeaders settings (scope.relocate ρ lines) = expandedHeaders settings scope := by
  have hown : ownHeaders (scope.relocate ρ lines) = ownHeaders scope := by
    apply Table.ext_get?
    intro name
    simp only [ownHeaders, Scope.relocate, Table.get?_map, Table.get?_filter]
    cases scope.headers.get? name with
    | none => rfl
    | some d => simp only [Option.map_some, Option.filter_some]; split <;> rfl
  rw [expandedHeaders, rawHeaders, hown, expandedHeaders, rawHeaders]
  simp only [Scope.relocate, interpolate_relocate]

theorem rawUrl_relocate (isAbsolute : String → Bool) (path : String) (host : Option Definition) :
    rawUrl isAbsolute path (host.map (·.relocate ρ)) = rawUrl isAbsolute path host := by
  cases host <;> rfl

theorem theRequest_relocate (scope : Scope) :
    (scope.relocate ρ lines).theRequest = scope.theRequest.map (·.relocate ρ) := by
  rw [Scope.theRequest, Scope.theRequest, Scope.relocate]
  cases scope.request <;> rfl

theorem build_relocate (isAbsolute : String → Bool) (settings : Settings) (scope : Scope) :
    buildWith isAbsolute settings (scope.relocate ρ lines) =
      buildWith isAbsolute settings scope := by
  rw [buildWith, buildWith, theRequest_relocate]
  cases scope.theRequest with
  | error e => rfl
  | ok r =>
    have hhost : (scope.relocate ρ lines).headers.get? hostHeader =
        (scope.headers.get? hostHeader).map (·.relocate ρ) :=
      Table.get?_map _ _ _
    have hinterpolate : Template.interpolate (scope.relocate ρ lines).vars =
        Template.interpolate scope.vars :=
      interpolate_relocate scope.vars
    simp only [hhost, rawUrl_relocate, expandedHeaders_relocate, hinterpolate]
    rfl

end Draft

end RequestBook
