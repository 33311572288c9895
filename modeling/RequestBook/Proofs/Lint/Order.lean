import RequestBook.Proofs.Lint.Located
import RequestBook.Proofs.Lint.Repeated

/-!
The order of the report. The requests are gone through as they stand in the book, and of what is found
more than once the first counts; but a request finds what the visible headers hold, in the order of
their names, before what its body and its path hold. Main statement, for every text: which lines and
messages the report has, in which order, when this is the order of the lines, and what two of them are
that stand the other way round.
-/

namespace RequestBook

namespace Diagnostic

theorem map_key_dedupeAfter (seen : List (Nat × String)) (ds : List Diagnostic) :
    (dedupeAfter seen ds).map key = ((ds.map key).filter (· ∉ seen)).eraseDups := by
  induction ds generalizing seen with
  | nil => rfl
  | cons d rest ih =>
    rw [dedupeAfter, List.map_cons]
    by_cases hseen : d.key ∈ seen
    · rw [if_pos hseen, ih, List.filter_cons_of_neg (by simpa using hseen)]
    · rw [if_neg hseen, List.map_cons, ih, List.filter_cons_of_pos (by simpa using hseen),
        List.eraseDups_cons, List.filter_filter]
      congr 3
      funext key
      by_cases hkey : key = d.key <;> simp [hkey]

theorem map_key_dedupe (ds : List Diagnostic) : (dedupe ds).map key = (ds.map key).eraseDups := by
  rw [dedupe, map_key_dedupeAfter]
  congr 1
  exact List.filter_eq_self.mpr fun _ _ => by simp

end Diagnostic

namespace Scope

variable {source : String} {book : Book} {line : Nat} {scope : Scope} {r : Request} {d : Definition}

theorem line_le_of_header (h : Book.parse source = .ok book)
    (hscope : resolve book line = .ok scope) (hr : scope.request = some r)
    (hd : d ∈ scope.headers.values) :
    (book.lines.lineRange d.span).1 ≤ (book.lines.lineRange r.span).2 := by
  have hle := Lines.lineRange_fst_le_snd book.lines d.span
  have hmem := request_mem_of_resolve hscope hr
  obtain ⟨before, hselects, ⟨e, he, hentry⟩ | ⟨r', hr', hinner⟩⟩ := exists_selects_of_header hscope hd
  · have hbook : e ∈ book.entries := (mem_of_selects hselects).1 e he
    have hwithin : (book.lines.lineRange d.span).2 ≤ (book.lines.lineRange e.span).2 := by
      rcases hentry with rfl | hinner
      · exact Nat.le_refl _
      · exact (Book.lineRange_inner h hbook hinner).2
    rw [hr] at hselects
    cases hselects with
    | request hfirst =>
      obtain ⟨after, hsplit⟩ := hfirst.split
      have hapart := Book.isApart_of_parse h
      rw [Book.IsApart, hsplit, List.pairwise_append] at hapart
      have hlt : (book.lines.lineRange e.span).2 < (book.lines.lineRange r.span).1 :=
        hapart.2.2 e he _ List.mem_cons_self
      have hrange := Lines.lineRange_fst_le_snd book.lines r.span
      omega
  · obtain rfl : r = r' := Option.some.inj (hr.symm.trans hr')
    exact Nat.le_trans hle (Book.lineRange_inner h hmem hinner).2

end Scope

namespace Lint

def InFileOrder (source : String) : Prop :=
  (report source).Pairwise fun a b => a.line ≤ b.line

/-- The line and the message of the warning for a reference: the line is the first of its construct on
which the token stands. -/
structure Finding (scope : Scope) (m : Mention) (key : Nat × String) : Prop where
  message : key.2 = undefinedMessage ('$' :: m.name)
  first : ∃ column, IsFirst scope.lines (scope.lines.lineRange m.owner) ('$' :: m.name) ⟨key.1, column⟩

/-- What a request finds, in the order in which it is found: that its processor is missing, or the
references of its scope to names that are not visible. -/
inductive Finds (book : Book) (r : Request) : List (Nat × String) → Prop
  | missing {name} : r.processor = some name → book.processor? name = none →
      Finds book r [((book.lines.lineRange r.span).1, (ResolveError.missingProcessor name).message)]
  | references {scope found} :
      Scope.resolve book (book.lines.lineRange r.span).1 = .ok scope → scope.request = some r →
      List.Forall₂ (Finding scope) (mentions scope) found → Finds book r found

def Late (found : List (Nat × String)) (key : Nat × String) : Prop :=
  ∃ earlier later, found = earlier ++ key :: later ∧ key ∉ earlier ∧ ∃ other ∈ earlier, key.1 < other.1

/-- How a diagnostic comes to stand behind one on a later line: it warns of a header above the request
that sees it, or both are warnings on the lines of one request. -/
inductive OutOfTurn (book : Book) (a b : Diagnostic) : Prop
  | above {r scope d} : .request r ∈ book.entries →
      Scope.resolve book (book.lines.lineRange r.span).1 = .ok scope →
      b ∈ undefinedReferences scope → scope.header? d.name = some d →
      b.line = (book.lines.lineRange d.span).1 → b.line < (book.lines.lineRange r.span).1 →
      OutOfTurn book a b
  | within {r scope} : .request r ∈ book.entries →
      Scope.resolve book (book.lines.lineRange r.span).1 = .ok scope →
      [a, b].Sublist (undefinedReferences scope) → (book.lines.lineRange r.span).1 ≤ b.line →
      a.line ≤ (book.lines.lineRange r.span).2 → OutOfTurn book a b

variable {source : String} {book : Book} {line : Nat} {scope : Scope} {r r' : Request}
  {a b w : Diagnostic}

theorem line_of_warning (h : Book.parse source = .ok book)
    (hscope : Scope.resolve book line = .ok scope) (hr : scope.request = some r)
    (hw : w ∈ undefinedReferences scope) :
    w.line ≤ (book.lines.lineRange r.span).2 ∧ (w.line < (book.lines.lineRange r.span).1 →
      ∃ d, scope.header? d.name = some d ∧ w.line = (book.lines.lineRange d.span).1) := by
  obtain ⟨passage, -, name, -, -, heq⟩ := mem_undefinedReferences_iff.mp hw
  have hmessage : w.message = undefinedMessage ('$' :: name) := by
    rw [heq, message_locate]
  rw [← Scope.lines_of_resolve hscope]
  rcases exists_first_of_mem h hscope hw hmessage with ⟨d, hd, hline⟩ | ⟨r', p, hr', hline, hp⟩
  · have hle := Scope.line_le_of_header h hscope hr hd
    rw [← Scope.lines_of_resolve hscope] at hle
    exact ⟨hline ▸ hle, fun _ => ⟨d, (Scope.mem_headers_iff hscope).mp hd, hline⟩⟩
  · obtain rfl : r = r' := Option.some.inj (hr.symm.trans hr')
    obtain ⟨hfirst, hlast⟩ := hp.within
    rw [hline]
    exact ⟨hlast, fun hlt => absurd hfirst (Nat.not_le_of_lt hlt)⟩

theorem finds_ofRequest (h : Book.parse source = .ok book) (hr : .request r ∈ book.entries) :
    Finds book r ((ofRequest book r).map Diagnostic.key) := by
  rcases ofRequest_eq_cases ((Book.isApart_of_parse h).chosen?_first hr) with
    ⟨scope, hscope, hrequest, heq⟩ | ⟨name, hname, hmissing, heq⟩
  · refine .references hscope hrequest ?_
    rw [heq, undefinedReferences_eq, List.map_map, List.forall₂_map_right_iff, List.forall₂_same]
    intro m hm
    have hlocated := located_of_mention h hscope hm
    exact ⟨hlocated.message, _, hlocated.first⟩
  · rw [heq]
    exact .missing hname hmissing

theorem line_of_ofRequest (h : Book.parse source = .ok book) (hr : .request r ∈ book.entries)
    (hw : w ∈ ofRequest book r) : w.line ≤ (book.lines.lineRange r.span).2 ∧
      ∀ a : Diagnostic, w.line < (book.lines.lineRange r.span).1 → OutOfTurn book a w := by
  rcases ofRequest_eq_cases ((Book.isApart_of_parse h).chosen?_first hr) with
    ⟨scope, hscope, hrequest, heq⟩ | ⟨name, -, -, heq⟩
  · rw [heq] at hw
    obtain ⟨hle, habove⟩ := line_of_warning h hscope hrequest hw
    refine ⟨hle, fun a hlt => ?_⟩
    obtain ⟨d, hd, hline⟩ := habove hlt
    exact .above hr hscope hw hd hline hlt
  · rw [heq, List.mem_singleton] at hw
    subst hw
    exact ⟨Lines.lineRange_fst_le_snd book.lines r.span, fun a hlt => absurd hlt (Nat.lt_irrefl _)⟩

theorem outOfTurn_of_request (h : Book.parse source = .ok book) (hr : .request r ∈ book.entries) :
    (ofRequest book r).Pairwise fun a b => b.line < a.line → OutOfTurn book a b := by
  rcases ofRequest_eq_cases ((Book.isApart_of_parse h).chosen?_first hr) with
    ⟨scope, hscope, -, heq⟩ | ⟨name, -, -, heq⟩
  · refine List.pairwise_iff_forall_sublist.mpr fun {a b} hsublist hlt => ?_
    have ha : a ∈ ofRequest book r := hsublist.mem List.mem_cons_self
    have hb : b ∈ ofRequest book r := hsublist.mem (List.mem_cons_of_mem a List.mem_cons_self)
    have hlast := (line_of_ofRequest h hr ha).1
    rcases Nat.lt_or_ge b.line (book.lines.lineRange r.span).1 with hfirst | hfirst
    · exact (line_of_ofRequest h hr hb).2 a hfirst
    · exact .within hr hscope (heq ▸ hsublist) hfirst hlast
  · rw [heq]
    exact List.pairwise_singleton _ _

theorem outOfTurn_of_requests (h : Book.parse source = .ok book) (hr : .request r ∈ book.entries)
    (hr' : .request r' ∈ book.entries)
    (hstart : book.lines.lineOf r.span.start < book.lines.lineOf r'.span.start)
    (ha : a ∈ ofRequest book r) (hb : b ∈ ofRequest book r') (hlt : b.line < a.line) :
    OutOfTurn book a b := by
  have hlast := (line_of_ofRequest h hr ha).1
  refine (line_of_ofRequest h hr' hb).2 a ?_
  rcases (Book.isApart_of_parse h).eq_or_lt hr hr' with heq | hbefore | hafter
  · cases heq
    exact absurd hstart (Nat.lt_irrefl _)
  · exact Nat.lt_trans (Nat.lt_of_lt_of_le hlt hlast) hbefore
  · have hrange := Lines.lineRange_fst_le_snd book.lines r'.span
    exact absurd (Nat.lt_of_le_of_lt hrange hafter) (Nat.not_lt_of_lt hstart)

theorem pairwise_outOfTurn (h : Book.parse source = .ok book) :
    (report source).Pairwise fun a b => b.line < a.line → OutOfTurn book a b := by
  have hmem {r : Request} : r ∈ book.requests → .request r ∈ book.entries := Book.mem_requests.mp
  rw [report, h]
  -- leaving some out keeps the others in their order
  refine List.Pairwise.sublist (Diagnostic.dedupeAfter_sublist _ _) (List.pairwise_flatMap.mpr ⟨?_, ?_⟩)
  · exact fun r hr => outOfTurn_of_request h (hmem hr)
  · refine (Book.isApart_of_parse h).pairwise_requests.imp_of_mem fun hr hr' hstart a ha b hb => ?_
    exact outOfTurn_of_requests h (hmem hr) (hmem hr') hstart ha hb

theorem inFileOrder_iff {found : List (Nat × String)}
    (h : (report source).map Diagnostic.key = found.eraseDups) :
    InFileOrder source ↔ ∀ key, ¬Late found key := by
  have hkeys : InFileOrder source ↔ found.eraseDups.Pairwise fun a b => a.1 ≤ b.1 := by
    rw [← h, List.pairwise_map]
    rfl
  rw [hkeys, pairwise_eraseDups_iff]
  constructor
  · rintro hle key ⟨earlier, later, hsplit, hnew, other, hother, hlt⟩
    exact absurd (hle earlier key later hsplit hnew other hother) (Nat.not_le_of_lt hlt)
  · intro hlate earlier key later hsplit hnew other hother
    exact Nat.le_of_not_lt fun hlt => hlate key ⟨earlier, later, hsplit, hnew, other, hother, hlt⟩

/-- The report has no line and message twice. A text that is no book has one error; the report on a
book has what the requests find, one after the other, each line and message where it is first found.
This is in the order of the lines unless some are found late, and diagnostics that stand the other way
round warn of headers above a request or of the lines of one request. -/
theorem report_order (source : String) :
    ((report source).Pairwise fun a b => a.key ≠ b.key) ∧
      ((∃ e, Book.parse source = .error e ∧ report source = [.ofSyntaxError e]) ∨
        ∃ book found, Book.parse source = .ok book ∧ List.Forall₂ (Finds book) book.requests found ∧
          (report source).map Diagnostic.key = found.flatten.eraseDups ∧
          (InFileOrder source ↔ ∀ key, ¬Late found.flatten key) ∧
          (report source).Pairwise fun a b => b.line < a.line → OutOfTurn book a b) := by
  cases h : Book.parse source with
  | error e =>
    have hreport : report source = [.ofSyntaxError e] := by rw [report, h]
    refine ⟨?_, .inl ⟨e, rfl, hreport⟩⟩
    rw [hreport]
    exact List.pairwise_singleton _ _
  | ok book =>
    have hreport : report source = Diagnostic.dedupe (book.requests.flatMap (ofRequest book)) := by
      rw [report, h]
    have hkeys : (report source).map Diagnostic.key =
        (book.requests.map fun r => (ofRequest book r).map Diagnostic.key).flatten.eraseDups := by
      rw [hreport, Diagnostic.map_key_dedupe, List.map_flatMap, List.flatMap_def]
    refine ⟨hreport ▸ Diagnostic.pairwise_key_dedupe _,
      .inr ⟨book, _, rfl, ?_, hkeys, inFileOrder_iff hkeys, pairwise_outOfTurn h⟩⟩
    rw [List.forall₂_map_right_iff, List.forall₂_same]
    exact fun r hr => finds_ofRequest h (Book.mem_requests.mp hr)

def overtaking : String :=
  "POST /$x\n$y"

/-- The warning for the body stands before the one for the path, which is on the line above. -/
theorem not_inFileOrder_overtaking :
    report overtaking = [warningAt ⟨2, 1⟩ ['$', 'y'], warningAt ⟨1, 7⟩ ['$', 'x']] ∧
      ¬InFileOrder overtaking := by
  have hreport : report overtaking = [warningAt ⟨2, 1⟩ ['$', 'y'], warningAt ⟨1, 7⟩ ['$', 'x']] := rfl
  refine ⟨hreport, fun h => ?_⟩
  rw [InFileOrder, hreport, List.pairwise_cons] at h
  exact absurd (h.1 _ List.mem_cons_self) (by decide)

end Lint

end RequestBook
