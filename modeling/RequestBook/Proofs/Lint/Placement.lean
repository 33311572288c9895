import RequestBook.Proofs.Grammar.Anatomy
import RequestBook.Proofs.Lint.Token
import RequestBook.Proofs.Scope.Precedence
import RequestBook.Proofs.Scope.Relocated

/-!
The places of references on the lines of a scope. The texts that are read for references are the
values of the visible headers, the path and the body; the lines that are searched for them also hold
comments and headers that others replace. Main statement: a reference on a line of the request is in
one of the texts or astray, and never both.
-/

namespace RequestBook

open RequestBook.Text

theorem Grammar.EntryOn.exists_definedOn {lines : List Line} {e : Entry} {d : Definition}
    (h : EntryOn lines e) (hd : e = .definition d ∨ d ∈ e.inner) :
    ∃ line ∈ lines, DefinedOn line d := by
  cases h with
  | definition hline hdefined =>
    rcases hd with heq | hd
    · cases heq
      exact ⟨_, hline, hdefined⟩
    · cases hd
  | environment hdefinitions => exact hdefinitions d (hd.resolve_left fun heq => nomatch heq)
  | request hsplit hr =>
    obtain ⟨l, hl, hread⟩ := hr.headers d (hd.resolve_left fun heq => nomatch heq)
    exact ⟨l, by rw [hsplit]; simp [hl], .header hread⟩
  | processor =>
    rcases hd with heq | hd
    · cases heq
    · cases hd

structure HeaderAt (lines : Lines) (passed : List Line) (line : Line) (after : List Line)
    (d : Definition) : Prop where
  split : lines = passed ++ line :: after
  reads : Grammar.ReadsHeader line (skipInline line.text) d
  range : lines.lineRange d.span = (passed.length + 1, passed.length + 1)

theorem headerAt_of_reads {lines : Lines} {passed after : List Line} {line : Line} {d : Definition}
    (hlines : ∃ s, lines = Line.split s) (hsplit : lines = passed ++ line :: after)
    (hread : Grammar.ReadsHeader line (skipInline line.text) d) :
    HeaderAt lines passed line after d := by
  obtain ⟨s, rfl⟩ := hlines
  exact ⟨hsplit, hread, (Grammar.DefinedOn.header hread).lineRange hsplit⟩

/-- The request of a scope stands on the lines after `passed`, its headers on some of `heads`. -/
structure RequestAt (scope : Scope) (passed : List Line) (first : Line) (heads rows after : List Line)
    (r : Request) : Prop where
  request : scope.request = some r
  lines : ∃ s, scope.lines = Line.split s
  split : scope.lines = passed ++ (first :: (heads ++ rows) ++ after)
  on : Grammar.RequestOn first heads rows r

namespace RequestAt

variable {scope : Scope} {passed heads rows after : List Line} {first : Line} {r : Request}

theorem range (h : RequestAt scope passed first heads rows after r) :
    scope.lines.lineRange r.span =
      (passed.length + 1, passed.length + (first :: (heads ++ rows)).length) := by
  obtain ⟨s, hs⟩ := h.lines
  rw [hs]
  exact h.on.lineRange (hs.symm.trans h.split)

theorem text?_first (h : RequestAt scope passed first heads rows after r) :
    scope.lines.text? (passed.length + 1) = some first.text :=
  Lint.text?_of_split (h.split.trans (by rw [List.cons_append]))

theorem no_break (h : RequestAt scope passed first heads rows after r) :
    ∀ l ∈ rows, '\n' ∉ l.text := by
  obtain ⟨s, hs⟩ := h.lines
  intro l hl hmem
  have hl : l ∈ Line.split s := by
    rw [← hs, h.split]
    simp [hl]
  exact absurd (Line.isLineEnd_of_mem_split hl _ hmem) (by decide)

theorem exists_headerAt (h : RequestAt scope passed first heads rows after r) {d : Definition}
    (hd : d ∈ r.headers) : ∃ above line below, heads = above ++ line :: below ∧
      HeaderAt scope.lines (passed ++ first :: above) line (below ++ (rows ++ after)) d := by
  obtain ⟨line, hline, hread⟩ := h.on.headers d hd
  obtain ⟨above, below, rfl⟩ := List.append_of_mem hline
  refine ⟨above, line, below, rfl, headerAt_of_reads h.lines ?_ hread⟩
  rw [h.split]
  simp

end RequestAt

namespace Scope

variable {source : String} {book : Book} {line : Nat} {scope : Scope}

theorem lines_eq_split (h : Book.parse source = .ok book) (hscope : resolve book line = .ok scope) :
    scope.lines = Line.split source.toList := by
  rw [lines_of_resolve hscope, (Book.lines_of_parse h).1]

theorem entryOn_lines (h : Book.parse source = .ok book) (hscope : resolve book line = .ok scope) :
    ∀ e ∈ book.entries, Grammar.EntryOn scope.lines e := by
  rw [lines_of_resolve hscope]
  exact Grammar.entryOn_of_readLines (Book.lines_of_parse h).2

theorem exists_selects_of_header {d : Definition} (hscope : resolve book line = .ok scope)
    (hd : d ∈ scope.headers.values) :
    ∃ before, Selects book.lines line book.entries scope.request before ∧
      ((∃ e ∈ before, e = .definition d ∨ d ∈ e.inner) ∨
        ∃ r, scope.request = some r ∧ d ∈ r.headers) := by
  obtain ⟨key, hget⟩ := Table.exists_get?_of_mem_values hd
  obtain ⟨before, hselects⟩ := exists_selects_of_resolve hscope
  have hlast := get?_of_selects hscope hselects .header key
  refine ⟨before, hselects, ?_⟩
  rcases List.mem_append.mp (mem_of_lastOf (hlast.symm.trans hget)).1 with hmem | hmem
  · obtain ⟨e, he, hd⟩ := List.mem_flatMap.mp hmem
    refine .inl ⟨e, he, ?_⟩
    cases e with
    | definition d' => exact .inl (congrArg _ (List.mem_singleton.mp hd).symm)
    | environment e =>
      rw [Entry.definitions] at hd
      split at hd
      · exact .inr hd
      · cases hd
    | request | processor => cases hd
  · cases hrequest : scope.request with
    | none =>
      rw [hrequest] at hmem
      cases hmem
    | some r =>
      rw [hrequest] at hmem
      exact .inr ⟨r, rfl, hmem⟩

theorem exists_entry_of_header {d : Definition} (hscope : resolve book line = .ok scope)
    (hd : d ∈ scope.headers.values) : ∃ e ∈ book.entries, e = .definition d ∨ d ∈ e.inner := by
  obtain ⟨before, hselects, ⟨e, he, hentry⟩ | ⟨r, hr, hinner⟩⟩ := exists_selects_of_header hscope hd
  · exact ⟨e, (mem_of_selects hselects).1 e he, hentry⟩
  · exact ⟨.request r, (mem_of_selects hselects).2 r hr, .inr hinner⟩

theorem exists_headerAt {d : Definition} (h : Book.parse source = .ok book)
    (hscope : resolve book line = .ok scope) (hd : d ∈ scope.headers.values) :
    scope.header? d.name = some d ∧ ∃ passed l after, HeaderAt scope.lines passed l after d := by
  have hvisible := (mem_headers_iff hscope).mp hd
  obtain ⟨hkind, -⟩ := key_of_get?_headers hscope hvisible
  obtain ⟨e, he, hentry⟩ := exists_entry_of_header hscope hd
  obtain ⟨l, hl, hdefined⟩ := (entryOn_lines h hscope e he).exists_definedOn hentry
  obtain ⟨passed, after, hsplit⟩ := List.append_of_mem hl
  exact ⟨hvisible, passed, l, after, headerAt_of_reads ⟨_, lines_eq_split h hscope⟩ hsplit
    (hdefined.readsHeader hkind)⟩

theorem exists_requestAt {r : Request} (h : Book.parse source = .ok book)
    (hscope : resolve book line = .ok scope) (hr : scope.request = some r) :
    ∃ passed first heads rows after, RequestAt scope passed first heads rows after r := by
  cases entryOn_lines h hscope _ (request_mem_of_resolve hscope hr) with
  | request hsplit hon =>
    exact ⟨_, _, _, _, _, hr, ⟨_, lines_eq_split h hscope⟩, hsplit, hon⟩

end Scope

namespace Lint

def StandsIn (lines : Lines) (token lead part rest : List Char) (p : Position) : Prop :=
  lines.text? p.line = some (lead ++ (part ++ rest)) ∧
    ∃ before, Occurs token part before ∧ p.column = (lead ++ before).length + 1

/-- The token stands at the position in the value of a visible header, in the path or in the body. -/
inductive Live (scope : Scope) (token : List Char) (p : Position) : Prop
  | header {d lead rest} : scope.header? d.name = some d →
      p.line = (scope.lines.lineRange d.span).1 → d.Leads lead →
      (∀ c ∈ rest, isBlank c = true) →
      StandsIn scope.lines token lead d.text.toList rest p → Live scope token p
  | path {r lead rest} : scope.request = some r →
      p.line = (scope.lines.lineRange r.span).1 → r.Leads lead →
      Stops (fun c => !isBlank c) rest →
      StandsIn scope.lines token lead r.path.toList rest p → Live scope token p
  | body {r text above part below lead rest} : scope.request = some r → r.body = some text →
      List.splitOn '\n' text.toList = above ++ part :: below →
      p.line + below.length = (scope.lines.lineRange r.span).2 →
      (∀ c ∈ lead, isBlank c = true) → (∀ c ∈ rest, isBlank c = true) →
      StandsIn scope.lines token lead part rest p → Live scope token p

/-- The token stands at the position above the body of the request, in the comment on its opening
line, in a comment below that, or in a header of its own that another replaces. -/
inductive Astray (scope : Scope) (token : List Char) (p : Position) : Prop
  | trailing {r lead between comment} : scope.request = some r →
      p.line = (scope.lines.lineRange r.span).1 → r.Leads lead →
      Stops (fun c => !isBlank c) (between ++ ['#']) → '#' ∉ between →
      StandsIn scope.lines token (lead ++ (r.path.toList ++ (between ++ ['#']))) comment [] p →
      Astray scope token p
  | comment {r indent comment} : scope.request = some r →
      (scope.lines.lineRange r.span).1 < p.line →
      (∀ text, r.body = some text →
        p.line + (List.splitOn '\n' text.toList).length ≤ (scope.lines.lineRange r.span).2) →
      (∀ c ∈ indent, isInline c = true) →
      StandsIn scope.lines token (indent ++ ['#']) comment [] p → Astray scope token p
  | replaced {r d lead rest} : scope.request = some r → d ∈ r.headers →
      scope.header? d.name ≠ some d → p.line = (scope.lines.lineRange d.span).1 → d.Leads lead →
      (∀ c ∈ rest, isBlank c = true) →
      StandsIn scope.lines token lead d.text.toList rest p → Astray scope token p

section

variable {name before : List Char} {line first : Line} {heads rows : List Line} {d : Definition}
  {r : Request}

theorem occurs_header (hname : ∀ c ∈ name, isNameChar c = true)
    (hread : Grammar.ReadsHeader line (skipInline line.text) d)
    (h : Occurs ('$' :: name) line.text before) :
    ∃ lead rest x, line.text = lead ++ (d.text.toList ++ rest) ∧ d.Leads lead ∧
      (∀ c ∈ rest, isBlank c = true) ∧ before = lead ++ x ∧
        Occurs ('$' :: name) d.text.toList x := by
  obtain ⟨lead, rest, htext, hlead, hrest⟩ := Grammar.exists_parts_of_readsHeader hread
  rw [htext] at h
  rcases h.cases_of_append hname hlead.no_dollar (stops_of_blank hrest) with
    ⟨x, rfl, hx⟩ | ⟨x, -, hx⟩
  · exact ⟨lead, rest, x, htext, hlead, hrest, rfl, hx⟩
  · exact absurd hx (not_occurs_of_blank hrest)

theorem occurs_comment (hname : ∀ c ∈ name, isNameChar c = true) (hcomment : line.isComment = true)
    (h : Occurs ('$' :: name) line.text before) :
    ∃ indent comment x, line.text = indent ++ ['#'] ++ (comment ++ []) ∧
      (∀ c ∈ indent, isInline c = true) ∧ before = indent ++ ['#'] ++ x ∧
        Occurs ('$' :: name) comment x := by
  obtain ⟨indent, htext, hindent⟩ := exists_skipInline line.text
  obtain ⟨comment, hskip⟩ : ∃ comment, skipInline line.text = '#' :: comment :=
    List.head?_eq_some_iff.mp (by simpa [Line.isComment] using hcomment)
  have htext : line.text = indent ++ ['#'] ++ (comment ++ []) := by
    rw [htext, hskip]
    simp
  have hdollar : '$' ∉ indent ++ ['#'] := by
    intro hmem
    have hmem : '$' ∈ indent := by simpa using hmem
    exact ne_dollar_of_isInline (hindent _ hmem) rfl
  rw [htext] at h
  rcases h.cases_of_append hname hdollar stops_nil with ⟨x, rfl, hx⟩ | ⟨x, -, hx⟩
  · exact ⟨indent, comment, x, htext, hindent, rfl, hx⟩
  · exact absurd hx (not_occurs_of_blank (List.forall_mem_nil _))

theorem occurs_opening (hname : ∀ c ∈ name, isNameChar c = true)
    (hr : Grammar.RequestOn first heads rows r) (h : Occurs ('$' :: name) first.text before) :
    (∃ lead rest x, first.text = lead ++ (r.path.toList ++ rest) ∧ r.Leads lead ∧
      Stops (fun c => !isBlank c) rest ∧ before = lead ++ x ∧
        Occurs ('$' :: name) r.path.toList x) ∨
      ∃ lead between comment x, first.text =
          lead ++ (r.path.toList ++ (between ++ ['#'])) ++ (comment ++ []) ∧ r.Leads lead ∧
        Stops (fun c => !isBlank c) (between ++ ['#']) ∧ '#' ∉ between ∧
          before = lead ++ (r.path.toList ++ (between ++ ['#'])) ++ x ∧
            Occurs ('$' :: name) comment x := by
  obtain ⟨lead, between, comment, htext, hlead, hstops, hbetween, hcomment⟩ := hr.exists_opening
  rw [htext] at h
  rcases h.cases_of_append hname hlead.no_dollar hstops with ⟨x, rfl, hx⟩ | ⟨x, rfl, hx⟩
  · exact .inl ⟨lead, _, x, htext, hlead, hstops, rfl, hx⟩
  cases comment with
  | nil =>
    rw [List.append_nil] at hx
    exact absurd rfl (hbetween '$' hx.dollar_mem).1
  | cons c comment =>
    obtain rfl : c = '#' := by simpa using stops_cons.mp hcomment
    have hdollar : '$' ∉ between ++ ['#'] := by
      intro hmem
      have hmem : '$' ∈ between := by simpa using hmem
      exact (hbetween '$' hmem).1 rfl
    have hx : Occurs ('$' :: name) (between ++ ['#'] ++ (comment ++ [])) x := by simpa using hx
    rcases hx.cases_of_append hname hdollar stops_nil with ⟨y, rfl, hy⟩ | ⟨y, -, hy⟩
    · refine .inr ⟨lead, between, comment, y, by simp [htext], hlead, ?_,
        fun hmem => (hbetween '#' hmem).2 rfl, by simp, hy⟩
      have hsplit : between ++ '#' :: comment = between ++ ['#'] ++ comment := by simp
      rw [hsplit] at hstops
      exact hstops.left
    · exact absurd hy (not_occurs_of_blank (List.forall_mem_nil _))

theorem exists_occurs_of_body {text : String} (hname : ∀ c ∈ name, isNameChar c = true)
    (hr : Grammar.RequestOn first heads rows r) (hbody : r.body = some text)
    (h : Occurs ('$' :: name) text.toList before) :
    ∃ l ∈ rows, ∃ x, Occurs ('$' :: name) l.text x := by
  rw [(hr.text_of_body hbody).2] at h
  obtain ⟨y, hy⟩ := h.of_pads ((pads_trimEnd _).trans (pads_trimStart _))
  obtain ⟨t, ht, x, hx⟩ := hy.exists_of_intercalate hname
  obtain ⟨l, hl, rfl⟩ := List.mem_map.mp ht
  exact ⟨l, hl, x, hx⟩

variable {lines : Lines} {scope : Scope} {p : Position} {passed after : List Line}

theorem exists_standsIn_header (hname : ∀ c ∈ name, isNameChar c = true)
    (hat : HeaderAt lines passed line after d) (h : Occurs ('$' :: name) line.text before)
    (hline : p.line = passed.length + 1) (hcolumn : p.column = before.length + 1) :
    ∃ lead rest, p.line = (lines.lineRange d.span).1 ∧ d.Leads lead ∧
      (∀ c ∈ rest, isBlank c = true) ∧
        StandsIn lines ('$' :: name) lead d.text.toList rest p := by
  obtain ⟨lead, rest, x, htext, hlead, hrest, rfl, hx⟩ := occurs_header hname hat.reads h
  refine ⟨lead, rest, ?_, hlead, hrest, ?_, x, hx, hcolumn⟩
  · rw [hat.range, hline]
  · rw [hline, text?_of_split hat.split, htext]

theorem live_or_astray_of_opening (hname : ∀ c ∈ name, isNameChar c = true)
    (hat : RequestAt scope passed first heads rows after r)
    (h : Occurs ('$' :: name) first.text before) (hline : p.line = passed.length + 1)
    (hcolumn : p.column = before.length + 1) :
    Live scope ('$' :: name) p ∨ Astray scope ('$' :: name) p := by
  have hfirst : p.line = (scope.lines.lineRange r.span).1 := by rw [hat.range, hline]
  have htext? := hat.text?_first
  rw [← hline] at htext?
  rcases occurs_opening hname hat.on h with
    ⟨lead, rest, x, htext, hlead, hrest, rfl, hx⟩ |
      ⟨lead, between, comment, x, htext, hlead, hstops, hbetween, rfl, hx⟩
  · exact .inl (.path hat.request hfirst hlead hrest
      ⟨htext? ▸ congrArg some htext, x, hx, hcolumn⟩)
  · exact .inr (.trailing hat.request hfirst hlead hstops hbetween
      ⟨htext? ▸ congrArg some htext, x, hx, hcolumn⟩)

theorem live_or_astray_of_beneath {above below : List Line}
    (hname : ∀ c ∈ name, isNameChar c = true)
    (hat : RequestAt scope passed first heads rows after r) (hheads : heads = above ++ line :: below)
    (h : Occurs ('$' :: name) line.text before)
    (hline : p.line = (passed ++ first :: above).length + 1) (hcolumn : p.column = before.length + 1) :
    Live scope ('$' :: name) p ∨ Astray scope ('$' :: name) p := by
  have hsplit : scope.lines = (passed ++ first :: above) ++ line :: (below ++ (rows ++ after)) := by
    rw [hat.split, hheads]
    simp
  rcases hat.on.beneath line (hheads ▸ List.mem_append_right above List.mem_cons_self) with
    hcomment | ⟨d, hd, hread⟩
  · obtain ⟨indent, comment, x, htext, hindent, rfl, hx⟩ := occurs_comment hname hcomment h
    have htext? : scope.lines.text? p.line = some line.text := by rw [hline, text?_of_split hsplit]
    refine .inr (.comment hat.request ?_ ?_ hindent ⟨htext? ▸ congrArg some htext, x, hx, hcolumn⟩)
    · rw [hat.range, hline]
      simp
    · intro text hbody
      rw [hat.range, hline, hat.on.length_splitOn hbody hat.no_break, hheads]
      simp only [List.length_append, List.length_cons]
      omega
  · obtain ⟨lead, rest, hnumber, hlead, hrest, hstands⟩ :=
      exists_standsIn_header hname (headerAt_of_reads hat.lines hsplit hread) h hline hcolumn
    by_cases hvisible : scope.header? d.name = some d
    · exact .inl (.header hvisible hnumber hlead hrest hstands)
    · exact .inr (.replaced hat.request hd hvisible hnumber hlead hrest hstands)

theorem live_of_row {text : String} {above below : List Line}
    (hname : ∀ c ∈ name, isNameChar c = true)
    (hat : RequestAt scope passed first heads rows after r) (hbody : r.body = some text)
    (hrows : rows = above ++ line :: below) (h : Occurs ('$' :: name) line.text before)
    (hline : p.line = (passed ++ first :: (heads ++ above)).length + 1)
    (hcolumn : p.column = before.length + 1) : Live scope ('$' :: name) p := by
  have hsplit : scope.lines = (passed ++ first :: (heads ++ above)) ++ line :: (below ++ after) := by
    rw [hat.split, hrows]
    simp
  have htext? : scope.lines.text? p.line = some line.text := by rw [hline, text?_of_split hsplit]
  have hon := hat.on
  have hbreak := hat.no_break
  rw [hrows] at hon hbreak
  obtain ⟨parts, part, parts', hparts, -, hlength, hpads⟩ := hon.exists_part hbody hbreak
  obtain ⟨lead, rest, x, htext, hlead, hrest, rfl, hx⟩ := h.exists_of_pads hname hpads
  refine .body hat.request hbody hparts ?_ hlead hrest ⟨htext? ▸ congrArg some htext, x, hx, hcolumn⟩
  rw [hat.range, hline, hrows]
  simp only [List.length_append, List.length_cons, hlength]
  omega

theorem live_or_astray {text : String} {above below : List Line}
    (hname : ∀ c ∈ name, isNameChar c = true)
    (hat : RequestAt scope passed first heads rows after r) (hbody : r.body = some text)
    (hblock : first :: (heads ++ rows) = above ++ line :: below)
    (h : Occurs ('$' :: name) line.text before) (hline : p.line = (passed ++ above).length + 1)
    (hcolumn : p.column = before.length + 1) :
    Live scope ('$' :: name) p ∨ Astray scope ('$' :: name) p := by
  cases above with
  | nil =>
    obtain ⟨rfl, -⟩ := List.cons.inj hblock
    rw [List.append_nil] at hline
    exact live_or_astray_of_opening hname hat h hline hcolumn
  | cons l above =>
    obtain ⟨rfl, hbeneath⟩ := List.cons.inj hblock
    rcases append_eq_append_cons hbeneath with ⟨more, hheads⟩ | ⟨rowsAbove, rfl, hrows⟩
    · rw [List.append_assoc] at hheads
      exact live_or_astray_of_beneath hname hat hheads h hline hcolumn
    · exact .inl (live_of_row hname hat hbody hrows h hline hcolumn)

theorem live_of_path (hname : ∀ c ∈ name, isNameChar c = true)
    (hat : RequestAt scope passed first heads rows after r)
    (hpath : Occurs ('$' :: name) r.path.toList before)
    (hp : IsFirst scope.lines (scope.lines.lineRange r.span) ('$' :: name) p) :
    Live scope ('$' :: name) p := by
  obtain ⟨lead, between, comment, htext, hlead, hstops, -⟩ := hat.on.exists_opening
  have hrange : (scope.lines.lineRange r.span).1 = passed.length + 1 := by rw [hat.range]
  have hwhole : Occurs ('$' :: name) first.text (lead ++ before) :=
    htext ▸ hpath.within (stops_isNameChar hstops) lead
  have hline : p.line = passed.length + 1 ∧ p.column ≤ (lead ++ before).length + 1 := by
    have hfirst := hp.first ⟨passed.length + 1, (lead ++ before).length + 1⟩ (Nat.le_of_eq hrange)
      ⟨_, _, hat.text?_first, hwhole, rfl⟩
    rcases hfirst with hlt | hfirst
    · exact absurd hp.within.1 (Nat.not_le_of_lt (hrange ▸ hlt))
    · exact hfirst
  obtain ⟨text', before', htext', hbefore', hcolumn⟩ := hp.stands
  rw [hline.1, hat.text?_first, Option.some.injEq] at htext'
  rw [← htext', htext] at hbefore'
  rcases hbefore'.cases_of_append hname hlead.no_dollar hstops with ⟨x, rfl, hx⟩ | ⟨x, rfl, -⟩
  · refine .path hat.request (hline.1.trans hrange.symm) hlead hstops ⟨?_, x, hx, hcolumn⟩
    rw [hline.1, hat.text?_first, htext]
  · -- the place in the path is before this one
    have hlt := hpath.length_lt
    have hle := hline.2
    simp only [List.length_append] at hcolumn hle
    omega

end

end Lint

end RequestBook
