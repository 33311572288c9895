import RequestBook.Proofs.Draft.Texts
import RequestBook.Proofs.Lint.Errors
import RequestBook.Url.Absolute

namespace RequestBook

namespace Diagnostic

theorem dedupe_eq_nil_iff {ds : List Diagnostic} : dedupe ds = [] ↔ ds = [] := by
  cases ds with
  | nil => simp [dedupe, dedupeAfter]
  | cons d rest => simp [dedupe, dedupeAfter]

end Diagnostic

namespace Scope

def Defines (scope : Scope) (text : String) : Prop :=
  Template.Defined scope.var? text.toList

/-- Every name after a dollar sign of a text is a visible variable to its last character, and the
text is expanded by putting the values of those variables in the places of the names. -/
structure Completes (scope : Scope) (text : String) : Prop where
  defined : ∀ before after, text.toList = before ++ '$' :: after →
    after.takeWhile Text.isNameChar ≠ [] →
      ∃ d, scope.var? (String.ofList (after.takeWhile Text.isNameChar)) = some d
  filled : ∀ encoding : Template.Encoding,
    Template.Fills (fun name => (scope.var? name).map fun d => encoding.apply d.text) text.toList
      (Template.interpolate scope.vars encoding text).toList

theorem Defines.completes {scope : Scope} {text : String} (h : scope.Defines text) :
    scope.Completes text where
  defined := by
    intro before after hsplit hne
    have hmem := Template.mem_references_iff.mpr ⟨hne, before, after, hsplit, rfl⟩
    exact Option.isSome_iff_exists.mp (h _ hmem)
  filled := by
    intro encoding
    rw [Template.interpolate, String.toList_ofList]
    apply Template.fills_expand
    intro name hname
    rw [Option.isSome_map]
    exact h name hname

theorem defines_of_notMem {scope : Scope} {text : String} (h : '$' ∉ text.toList) :
    scope.Defines text := by
  intro name hname
  rw [Template.references_of_notMem h] at hname
  cases hname

inductive Reads (scope : Scope) : String → Prop
  | header {name d} : scope.headers.get? name = some d → Reads scope d.text
  | path {r} : scope.request = some r → Reads scope r.path
  | body {r text} : scope.request = some r → r.body = some text → Reads scope text

end Scope

namespace Lint

theorem exists_passage_of_reads {scope : Scope} {text : String} (h : scope.Reads text) :
    ∃ passage ∈ passages scope, passage.text = text := by
  cases h with
  | header hd =>
    have hmem := List.mem_map_of_mem (f := fun d : Definition => Passage.mk d.text d.span)
      (Table.mem_values_of_get? hd)
    exact ⟨_, List.mem_append_left _ hmem, rfl⟩
  | @path r hr =>
    refine ⟨⟨r.path, r.span⟩, List.mem_append_right _ ?_, rfl⟩
    rw [hr, Option.toList_some, List.flatMap_singleton]
    exact List.mem_append_right _ List.mem_cons_self
  | @body r text hr hbody =>
    refine ⟨⟨text, r.span⟩, List.mem_append_right _ ?_, rfl⟩
    rw [hr, Option.toList_some, List.flatMap_singleton, hbody]
    exact List.mem_append_left _ List.mem_cons_self

theorem defines_of_undefinedReferences {scope : Scope} {text : String}
    (hnil : undefinedReferences scope = []) (h : scope.Reads text) : scope.Defines text := by
  obtain ⟨passage, hpassage, rfl⟩ := exists_passage_of_reads h
  intro name hname
  have hwarnings := List.flatMap_eq_nil_iff.mp hnil passage hpassage
  rw [List.map_eq_nil_iff, List.filter_eq_nil_iff] at hwarnings
  have hdefined := hwarnings name hname
  rwa [Bool.not_eq_true, Option.isNone_eq_false_iff] at hdefined

theorem exists_book_of_report {source : String} (h : report source = []) :
    ∃ book, Book.parse source = .ok book ∧ ∀ r ∈ book.requests, ofRequest book r = [] := by
  rw [report] at h
  split at h
  · cases h
  · rename_i book hbook
    rw [Diagnostic.dedupe_eq_nil_iff, List.flatMap_eq_nil_iff] at h
    exact ⟨book, hbook, h⟩

theorem exists_scope_of_ofRequest {book : Book} {r : Request} (h : ofRequest book r = []) :
    ∃ scope, Scope.resolve book (book.lines.lineOf r.span.start) = .ok scope ∧
      undefinedReferences scope = [] := by
  rw [ofRequest] at h
  split at h
  · rename_i scope hscope
    exact ⟨scope, hscope, h⟩
  · cases h

theorem undefinedReferences_atLine (scope : Scope) (line : Nat) :
    undefinedReferences (scope.atLine line) = undefinedReferences scope :=
  rfl

theorem exists_scope_of_report {source : String} (h : report source = []) :
    ∃ book, Book.parse source = .ok book ∧ ∀ r, .request r ∈ book.entries → ∀ line,
      Entry.Covers book.lines line (.request r) → ∃ scope, Scope.resolve book line = .ok scope ∧
        scope.request = some r ∧ undefinedReferences scope = [] := by
  obtain ⟨book, hbook, hrequests⟩ := exists_book_of_report h
  refine ⟨book, hbook, ?_⟩
  intro r hr line hcovers
  have hapart := Book.isApart_of_parse hbook
  obtain ⟨scope, hscope, hnil⟩ := exists_scope_of_ofRequest (hrequests r (Book.mem_requests.mpr hr))
  have hline := hapart.resolve_of_covers hr (Book.covers_first book r) hcovers
  rw [hscope] at hline
  refine ⟨scope.atLine line, hline, ?_, ?_⟩
  · rw [Scope.request_of_resolve hline]
    exact (hapart.chosen?_eq_some_iff hr).mpr hcovers
  · rw [undefinedReferences_atLine, hnil]

end Lint

namespace Draft

variable {isAbsolute : String → Bool} {settings : Settings} {scope : Scope} {r : Request}

inductive Expands (isAbsolute : String → Bool) (settings : Settings) (scope : Scope) (r : Request) :
    String → Prop
  | url {url} : rawUrl isAbsolute r.path (scope.headers.get? hostHeader) = .ok url →
      Expands isAbsolute settings scope r url
  | header {name text} : (rawHeaders settings scope).get? name = some text →
      Expands isAbsolute settings scope r text
  | body {text} : r.body = some text → Expands isAbsolute settings scope r text

theorem defines_of_expands {text : String} (h : ∀ text, scope.Reads text → scope.Defines text)
    (hr : scope.request = some r)
    (hdefaults : ∀ value ∈ settings.defaultHeaders.values, '$' ∉ value.toList)
    (htext : Expands isAbsolute settings scope r text) : scope.Defines text := by
  cases htext with
  | url hurl =>
    intro name hname
    rcases mem_references_rawUrl hurl hname with ⟨d, hd, hhost⟩ | hpath
    · exact h d.text (.header hd) name hhost
    · exact h r.path (.path hr) name hpath
  | header hget =>
    rcases text_of_rawHeaders hget with ⟨d, hd, rfl⟩ | hdefault
    · exact h d.text (.header hd)
    · exact Scope.defines_of_notMem (hdefaults text hdefault)
  | body hbody => exact h text (.body hr hbody)

end Draft

namespace Lint

/-- What an empty report promises for every line of every request. -/
theorem completes_of_report {source : String} {isAbsolute : String → Bool} {settings : Settings}
    (h : report source = [])
    (hdefaults : ∀ value ∈ settings.defaultHeaders.values, '$' ∉ value.toList) :
    ∃ book, Book.parse source = .ok book ∧ ∀ r, .request r ∈ book.entries → ∀ line,
      Entry.Covers book.lines line (.request r) → ∃ scope, Scope.resolve book line = .ok scope ∧
        scope.request = some r ∧
        (∀ text, scope.Reads text → scope.Completes text) ∧
        (∀ text, Draft.Expands isAbsolute settings scope r text → scope.Completes text) ∧
        ∀ e, Draft.buildWith isAbsolute settings scope = .error e →
          e = .resolve .noHost ∨ ∃ contentType cause, e = .content contentType cause := by
  obtain ⟨book, hbook, hscopes⟩ := exists_scope_of_report h
  refine ⟨book, hbook, ?_⟩
  intro r hr line hcovers
  obtain ⟨scope, hscope, hrequest, hnil⟩ := hscopes r hr line hcovers
  have hdefines : ∀ text, scope.Reads text → scope.Defines text :=
    fun text htext => defines_of_undefinedReferences hnil htext
  refine ⟨scope, hscope, hrequest, ?_, ?_, ?_⟩
  · intro text htext
    exact (hdefines text htext).completes
  · intro text htext
    exact (Draft.defines_of_expands hdefines hrequest hdefaults htext).completes
  · intro e he
    exact Draft.error_of_build hrequest he

theorem completes_of_two_variables :
    report "$x = 1\n$xy = \"b c\"\n\nPUT /$x/$xy\n[$x]" = [] ∧
      ∃ book scope, Book.parse "$x = 1\n$xy = \"b c\"\n\nPUT /$x/$xy\n[$x]" = .ok book ∧
        Scope.resolve book 5 = .ok scope ∧ scope.Completes "/$x/$xy" ∧ scope.Completes "[$x]" := by
  have hparse : Book.parse "$x = 1\n$xy = \"b c\"\n\nPUT /$x/$xy\n[$x]" =
      .ok ⟨"$x = 1\n$xy = \"b c\"\n\nPUT /$x/$xy\n[$x]",
        [.definition ⟨.variable, "x", .integer 1, ⟨0, 6⟩⟩,
          .definition ⟨.variable, "xy", .text "b c", ⟨7, 18⟩⟩,
          .request ⟨.put, "/$x/$xy", some "[$x]", none, [], ⟨20, 36⟩⟩]⟩ := rfl
  have hreport : report "$x = 1\n$xy = \"b c\"\n\nPUT /$x/$xy\n[$x]" = [] := rfl
  have hdefaults : ∀ value ∈ Settings.default.defaultHeaders.values, '$' ∉ value.toList := by
    decide
  obtain ⟨book, hbook, hscopes⟩ := @completes_of_report _ Url.isAbsolute _ hreport hdefaults
  rw [hparse] at hbook
  cases hbook
  obtain ⟨scope, hscope, hrequest, hreads, -⟩ :=
    hscopes ⟨.put, "/$x/$xy", some "[$x]", none, [], ⟨20, 36⟩⟩ (by simp) 5 ⟨by decide, by decide⟩
  exact ⟨hreport, _, scope, hparse, hscope, hreads _ (.path hrequest),
    hreads _ (.body hrequest rfl)⟩

end Lint

end RequestBook
