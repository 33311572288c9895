import RequestBook.Lint.Report
import RequestBook.Proofs.Scope.LineSelection

namespace RequestBook

namespace Diagnostic

variable {p : Diagnostic → Bool} {ds : List Diagnostic} {seen : List (Nat × String)}

theorem filter_dedupeAfter (hds : ds.Pairwise fun a b => p b = true → a.key ≠ b.key)
    (hseen : ∀ d ∈ ds, p d = true → d.key ∉ seen) :
    (dedupeAfter seen ds).filter p = ds.filter p := by
  induction ds generalizing seen with
  | nil => rfl
  | cons d rest ih =>
    rw [List.pairwise_cons] at hds
    have hrest : ∀ e ∈ rest, p e = true → e.key ∉ seen :=
      fun e he => hseen e (List.mem_cons_of_mem _ he)
    rw [dedupeAfter]
    split
    · rename_i hmem
      have hnot : p d ≠ true := fun hp => hseen d List.mem_cons_self hp hmem
      rw [ih hds.2 hrest, List.filter_cons_of_neg hnot]
    · have hcons : ∀ e ∈ rest, p e = true → e.key ∉ d.key :: seen := by
        intro e he hp hmem
        rcases List.mem_cons.mp hmem with heq | hmem
        · exact hds.1 e he hp heq.symm
        · exact hrest e he hp hmem
      rw [List.filter_cons, List.filter_cons, ih hds.2 hcons]

theorem filter_dedupe (hds : ds.Pairwise fun a b => p b = true → a.key ≠ b.key) :
    (dedupe ds).filter p = ds.filter p :=
  filter_dedupeAfter hds fun _ _ _ hmem => nomatch hmem

def isError (d : Diagnostic) : Bool :=
  decide (d.severity = .error)

end Diagnostic

namespace Lint

def missingProcessor (book : Book) (r : Request) (name : String) : Diagnostic :=
  .error (book.lines.lineOf r.span.start) 1 (ResolveError.missingProcessor name).message

def missingProcessor? (book : Book) (r : Request) : Option Diagnostic :=
  (r.processor.filter fun name => (book.processor? name).isNone).map (missingProcessor book r)

def IsWarning (d : Diagnostic) : Prop :=
  d.severity = .warning ∧ ∃ token, d.message = undefinedMessage token

theorem isWarning_locate (lines : Lines) (name : List Char) (owner : Span) :
    IsWarning (locate lines name owner) := by
  rw [locate]
  split
  · exact ⟨rfl, _, rfl⟩
  · exact ⟨rfl, _, rfl⟩

theorem isWarning_of_mem {scope : Scope} {d : Diagnostic} (h : d ∈ undefinedReferences scope) :
    IsWarning d := by
  obtain ⟨passage, -, hd⟩ := List.mem_flatMap.mp h
  obtain ⟨name, -, rfl⟩ := List.mem_map.mp hd
  exact isWarning_locate scope.lines name passage.owner

theorem undefinedMessage_ne_message (token : List Char) (name : String) :
    undefinedMessage token ≠ (ResolveError.missingProcessor name).message := by
  intro h
  have hlist : "Reference to undefined var ".toList ++ (String.ofList token).toList =
      "Request uses non-existent Processor ".toList ++ name.toList := by
    rw [← String.toList_append, ← String.toList_append]
    exact congrArg String.toList h
  have hthree := congrArg (List.take 3) hlist
  rw [List.take_append_of_le_length (by decide), List.take_append_of_le_length (by decide)] at hthree
  exact absurd hthree (by decide)

theorem filter_isError_of_isWarning {ds : List Diagnostic} (h : ∀ d ∈ ds, IsWarning d) :
    ds.filter Diagnostic.isError = [] := by
  apply List.filter_eq_nil_iff.mpr
  intro d hd
  rw [Diagnostic.isError, (h d hd).1]
  decide

theorem ofRequest_eq_cases {book : Book} {r : Request}
    (h : Scope.chosen? book (book.lines.lineOf r.span.start) = some r) :
    (∃ scope, Scope.resolve book (book.lines.lineOf r.span.start) = .ok scope ∧
        scope.request = some r ∧ ofRequest book r = undefinedReferences scope) ∨
      ∃ name, r.processor = some name ∧ book.processor? name = none ∧
        ofRequest book r = [missingProcessor book r name] := by
  rw [ofRequest]
  cases hresolve : Scope.resolve book (book.lines.lineOf r.span.start) with
  | ok scope => exact .inl ⟨scope, rfl, (Scope.request_of_resolve hresolve).trans h, rfl⟩
  | error e =>
    obtain ⟨r', name, hchosen, hname, hmissing, rfl⟩ := Scope.resolve_eq_error_iff.mp hresolve
    rw [h] at hchosen
    cases hchosen
    exact .inr ⟨name, hname, hmissing, rfl⟩

theorem ofRequest_cases {book : Book} {r : Request}
    (h : Scope.chosen? book (book.lines.lineOf r.span.start) = some r) :
    (∀ d ∈ ofRequest book r, IsWarning d) ∧ missingProcessor? book r = none ∨
      ∃ name, ofRequest book r = [missingProcessor book r name] ∧
        missingProcessor? book r = some (missingProcessor book r name) := by
  rcases ofRequest_eq_cases h with ⟨scope, hscope, -, heq⟩ | ⟨name, hname, hmissing, heq⟩
  · refine .inl ⟨fun d hd => isWarning_of_mem (heq ▸ hd), ?_⟩
    rw [missingProcessor?, Option.map_eq_none_iff, Option.filter_eq_none_iff]
    intro name hname hmissing
    have herror := Scope.resolve_eq_error_iff.mpr
      ⟨r, name, h, hname, Option.isNone_iff_eq_none.mp hmissing, rfl⟩
    rw [hscope] at herror
    cases herror
  · refine .inr ⟨name, heq, ?_⟩
    rw [missingProcessor?, hname, Option.filter_some, hmissing]
    rfl

theorem filter_isError_ofRequest {book : Book} {r : Request}
    (h : Scope.chosen? book (book.lines.lineOf r.span.start) = some r) :
    (ofRequest book r).filter Diagnostic.isError = (missingProcessor? book r).toList := by
  rcases ofRequest_cases h with ⟨hwarnings, hnone⟩ | ⟨name, heq, hsome⟩
  · rw [hnone, filter_isError_of_isWarning hwarnings]
    rfl
  · rw [heq, hsome]
    rfl

theorem filter_isError_flatMap {book : Book} {rs : List Request}
    (h : ∀ r ∈ rs, Scope.chosen? book (book.lines.lineOf r.span.start) = some r) :
    (rs.flatMap (ofRequest book)).filter Diagnostic.isError =
      rs.filterMap (missingProcessor? book) := by
  induction rs with
  | nil => rfl
  | cons r rs ih =>
    have hrest := ih fun r' hr' => h r' (List.mem_cons_of_mem _ hr')
    rw [List.flatMap_cons, List.filter_append, filter_isError_ofRequest (h r List.mem_cons_self),
      hrest, List.filterMap_cons]
    cases missingProcessor? book r <;> rfl

theorem pairwise_key_ofRequest {book : Book} {r : Request}
    (h : Scope.chosen? book (book.lines.lineOf r.span.start) = some r) :
    (ofRequest book r).Pairwise fun a b => b.isError = true → a.key ≠ b.key := by
  rcases ofRequest_cases h with ⟨hwarnings, -⟩ | ⟨name, heq, -⟩
  · have hnil := filter_isError_of_isWarning hwarnings
    apply List.pairwise_of_forall_mem_list
    intro a _ b hb herror
    exact absurd herror (List.filter_eq_nil_iff.mp hnil b hb)
  · rw [heq]
    exact List.pairwise_singleton _ _

theorem key_ne_of_lineOf_lt {book : Book} {r r' : Request} {a b : Diagnostic}
    (hr : Scope.chosen? book (book.lines.lineOf r.span.start) = some r)
    (hr' : Scope.chosen? book (book.lines.lineOf r'.span.start) = some r')
    (hlt : book.lines.lineOf r.span.start < book.lines.lineOf r'.span.start)
    (ha : a ∈ ofRequest book r) (hb : b ∈ ofRequest book r') (herror : b.isError = true) :
    a.key ≠ b.key := by
  intro hkey
  rcases ofRequest_cases hr' with ⟨hwarnings, -⟩ | ⟨name', heq', -⟩
  · have hnil := filter_isError_of_isWarning hwarnings
    exact List.filter_eq_nil_iff.mp hnil b hb herror
  · rw [heq', List.mem_singleton] at hb
    subst hb
    rcases ofRequest_cases hr with ⟨hwarnings, -⟩ | ⟨name, heq, -⟩
    · obtain ⟨-, token, hmessage⟩ := hwarnings a ha
      apply undefinedMessage_ne_message token name'
      rw [← hmessage]
      exact congrArg Prod.snd hkey
    · rw [heq, List.mem_singleton] at ha
      subst ha
      exact Nat.ne_of_lt hlt (congrArg Prod.fst hkey)

end Lint

namespace Book

theorem mem_requests {book : Book} {r : Request} : r ∈ book.requests ↔ .request r ∈ book.entries := by
  rw [requests, List.mem_filterMap]
  constructor
  · rintro ⟨e, he, hr⟩
    cases e with
    | request r' =>
      cases hr
      exact he
    | definition | environment | processor => cases hr
  · intro h
    exact ⟨.request r, h, rfl⟩

theorem IsApart.pairwise_requests {book : Book} (h : book.IsApart) :
    book.requests.Pairwise fun a b =>
      book.lines.lineOf a.span.start < book.lines.lineOf b.span.start := by
  rw [requests, List.pairwise_filterMap]
  apply h.imp
  intro a b hlt r hr r' hr'
  cases a with
  | request a =>
    cases hr
    cases b with
    | request b =>
      cases hr'
      exact Nat.lt_of_le_of_lt (Lines.lineRange_fst_le_snd book.lines r.span) hlt
    | definition | environment | processor => cases hr'
  | definition | environment | processor => cases hr

theorem IsApart.chosen?_first {book : Book} (h : book.IsApart) {r : Request}
    (hr : .request r ∈ book.entries) :
    Scope.chosen? book (book.lines.lineOf r.span.start) = some r :=
  (h.chosen?_eq_some_iff hr).mpr (covers_first book r)

theorem IsApart.filter_isError_dedupe {book : Book} (h : book.IsApart) :
    (Diagnostic.dedupe (book.requests.flatMap (Lint.ofRequest book))).filter Diagnostic.isError =
      book.requests.filterMap (Lint.missingProcessor? book) := by
  have hfirst : ∀ r ∈ book.requests,
      Scope.chosen? book (book.lines.lineOf r.span.start) = some r :=
    fun r hr => h.chosen?_first (mem_requests.mp hr)
  rw [Diagnostic.filter_dedupe, Lint.filter_isError_flatMap hfirst]
  refine List.pairwise_flatMap.mpr ⟨fun r hr => Lint.pairwise_key_ofRequest (hfirst r hr), ?_⟩
  apply h.pairwise_requests.imp_of_mem
  intro r r' hr hr' hlt a ha b hb
  exact Lint.key_ne_of_lineOf_lt (hfirst r hr) (hfirst r' hr') hlt ha hb

/-- The lines of a book choose its requests: each line the one whose lines it is among. -/
structure LinesChoose (book : Book) : Prop where
  apart : book.entries.Pairwise fun a b =>
    (book.lines.lineRange a.span).2 < (book.lines.lineRange b.span).1
  range_le : ∀ e ∈ book.entries, (book.lines.lineRange e.span).1 ≤ (book.lines.lineRange e.span).2
  nodup : book.entries.Nodup
  chosen : ∀ r, .request r ∈ book.entries → ∀ line, Scope.chosen? book line = some r ↔
    (book.lines.lineRange r.span).1 ≤ line ∧ line ≤ (book.lines.lineRange r.span).2
  resolved : ∀ line scope, Scope.resolve book line = .ok scope →
    scope.request = Scope.chosen? book line
  failed : ∀ line e, Scope.resolve book line = .error e ↔
    ∃ r name, Scope.chosen? book line = some r ∧ r.processor = some name ∧
      book.processor? name = none ∧ e = .missingProcessor name
  within : ∀ r, .request r ∈ book.entries → ∀ m n,
    Entry.Covers book.lines m (.request r) → Entry.Covers book.lines n (.request r) →
      Scope.resolve book n = (Scope.resolve book m).map fun scope => scope.atLine n
  outside : ∀ m n, (∀ e ∈ book.entries, ¬e.Covers book.lines m) →
    (∀ e ∈ book.entries, ¬e.Covers book.lines n) →
      ∃ scope, Scope.resolve book m = .ok scope ∧ scope.request = none ∧
        scope.processor = none ∧ Scope.resolve book n = .ok (scope.atLine n)

theorem IsApart.linesChoose {book : Book} (h : book.IsApart) : book.LinesChoose where
  apart := h
  range_le := fun e _ => Lines.lineRange_fst_le_snd book.lines e.span
  nodup := h.nodup
  chosen := fun _ hr _ => h.chosen?_eq_some_iff hr
  resolved := fun _ _ => Scope.request_of_resolve
  failed := fun _ _ => Scope.resolve_eq_error_iff
  within := fun _ hr _ _ => h.resolve_of_covers hr
  outside := fun _ _ => Scope.resolve_of_not_covers

/-- In a book that was read each line chooses the request it is among the lines of, the first line
of a request that request, and so the errors reported are those of the missing processors. -/
theorem linesChoose_of_parse {source : String} {book : Book} (h : parse source = .ok book) :
    book.LinesChoose ∧
      (∀ r, .request r ∈ book.entries →
        Scope.chosen? book (book.lines.lineOf r.span.start) = some r) ∧
      (Lint.report source).filter Diagnostic.isError =
        book.requests.filterMap (Lint.missingProcessor? book) := by
  have hapart := isApart_of_parse h
  refine ⟨hapart.linesChoose, fun r hr => hapart.chosen?_first hr, ?_⟩
  rw [Lint.report, h]
  exact hapart.filter_isError_dedupe

theorem linesChoose_of_two_requests :
    ∃ book, parse "GET /a | p\n\n$x = 1\nPOST /b" = .ok book ∧ book.LinesChoose ∧
      book.entries.map (fun e => book.lines.lineRange e.span) = [(1, 1), (3, 3), (4, 4)] ∧
      (Lint.report "GET /a | p\n\n$x = 1\nPOST /b").filter Diagnostic.isError =
        [.error 1 1 "Request uses non-existent Processor p"] := by
  have h : parse "GET /a | p\n\n$x = 1\nPOST /b" = .ok ⟨"GET /a | p\n\n$x = 1\nPOST /b",
      [.request ⟨.get, "/a", none, some "p", [], ⟨0, 10⟩⟩,
        .definition ⟨.variable, "x", .integer 1, ⟨12, 18⟩⟩,
        .request ⟨.post, "/b", none, none, [], ⟨19, 26⟩⟩]⟩ := rfl
  obtain ⟨hlines, -, herrors⟩ := linesChoose_of_parse h
  exact ⟨_, h, hlines, rfl, herrors⟩

end Book

end RequestBook
