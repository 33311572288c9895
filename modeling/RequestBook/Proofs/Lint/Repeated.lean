import RequestBook.Proofs.Lint.Errors
import RequestBook.Proofs.Lint.Warnings

namespace RequestBook

open RequestBook.Text

namespace Diagnostic

theorem exists_of_dedupeAfter {seen : List (Nat × String)} {ds : List Diagnostic} {d : Diagnostic}
    (h : d ∈ ds) : d.key ∈ seen ∨ ∃ e ∈ dedupeAfter seen ds, e.key = d.key := by
  induction ds generalizing seen with
  | nil => cases h
  | cons first rest ih =>
    rw [dedupeAfter]
    by_cases hseen : first.key ∈ seen
    · rw [if_pos hseen]
      rcases List.mem_cons.mp h with rfl | h
      · exact .inl hseen
      · exact ih h
    · rw [if_neg hseen]
      rcases List.mem_cons.mp h with rfl | h
      · exact .inr ⟨d, List.mem_cons_self, rfl⟩
      · rcases @ih (first.key :: seen) h with hmem | ⟨e, he, hkey⟩
        · rcases List.mem_cons.mp hmem with heq | hmem
          · exact .inr ⟨first, List.mem_cons_self, heq.symm⟩
          · exact .inl hmem
        · exact .inr ⟨e, List.mem_cons_of_mem _ he, hkey⟩

theorem exists_of_dedupe {ds : List Diagnostic} {d : Diagnostic} (h : d ∈ ds) :
    ∃ e ∈ dedupe ds, e.key = d.key :=
  (exists_of_dedupeAfter h).resolve_left (List.not_mem_nil)

end Diagnostic

namespace Book

variable {source : String} {book : Book}

theorem IsApart.eq_or_lt (h : book.IsApart) {a b : Entry} (ha : a ∈ book.entries)
    (hb : b ∈ book.entries) : a = b ∨
      (book.lines.lineRange a.span).2 < (book.lines.lineRange b.span).1 ∨
        (book.lines.lineRange b.span).2 < (book.lines.lineRange a.span).1 := by
  obtain ⟨earlier, later, hsplit⟩ := List.append_of_mem hb
  rw [IsApart, hsplit, List.pairwise_append, List.pairwise_cons] at h
  rw [hsplit] at ha
  rcases List.mem_append.mp ha with ha | ha
  · exact .inr (.inl (h.2.2 a ha b List.mem_cons_self))
  · rcases List.mem_cons.mp ha with rfl | ha
    · exact .inl rfl
    · exact .inr (.inr (h.2.1.1 a ha))

theorem lineRange_inner (h : parse source = .ok book) {e : Entry} (he : e ∈ book.entries)
    {d : Definition} (hd : d ∈ e.inner) :
    (book.lines.lineRange e.span).1 ≤ (book.lines.lineRange d.span).1 ∧
      (book.lines.lineRange d.span).2 ≤ (book.lines.lineRange e.span).2 := by
  obtain ⟨_, _, _, hsplit, hown⟩ := (arranged_of_parse h).exists_construct_inner he hd
  obtain ⟨_, _, hconstruct, hblock⟩ := exists_block_of_parse h he
  obtain ⟨hstart, hstop⟩ := hconstruct.inner_within hblock d hd
  have hfits : d.span.Fits source.toList := hown.fits hsplit
  have hpos := hfits.start_lt_stop
  refine ⟨Lines.lineOf_mono _ hstart, ?_⟩
  rw [Lines.lineRange, if_pos hpos, Lines.lineRange, if_pos (by omega)]
  exact Lines.lineOf_mono _ (by omega)

end Book

def Request.InBody (lines : Lines) (r : Request) (n : Nat) : Prop :=
  ∃ text, r.body = some text ∧
    (lines.lineRange r.span).2 < n + (List.splitOn '\n' text.toList).length ∧
      n ≤ (lines.lineRange r.span).2

namespace RequestAt

variable {scope : Scope} {passed heads rows after : List Line} {first : Line} {r : Request} {n : Nat}

theorem stop_eq {text : String} (h : RequestAt scope passed first heads rows after r)
    (hbody : r.body = some text) : (scope.lines.lineRange r.span).2 =
      passed.length + 1 + heads.length + (List.splitOn '\n' text.toList).length := by
  rw [h.range, h.on.length_splitOn hbody h.no_break]
  simp only [List.length_append, List.length_cons]
  omega

theorem lt_of_inBody (h : RequestAt scope passed first heads rows after r)
    (hn : r.InBody scope.lines n) : passed.length + 1 + heads.length < n := by
  obtain ⟨text, hbody, hlt, -⟩ := hn
  rw [h.stop_eq hbody] at hlt
  omega

end RequestAt

namespace Scope

variable {source : String} {book : Book} {line line' : Nat} {scope scope' : Scope} {r : Request}
  {d : Definition}

theorem not_inBody_of_header (h : Book.parse source = .ok book)
    (hscope : resolve book line = .ok scope) (hr : scope.request = some r)
    (hscope' : resolve book line' = .ok scope') (hd : d ∈ scope'.headers.values) :
    ¬r.InBody book.lines (book.lines.lineRange d.span).1 := by
  intro hn
  obtain ⟨passed, first, heads, rows, after, hat⟩ := exists_requestAt h hscope hr
  have hrange := hat.range
  have hlt : passed.length + 1 + heads.length < (book.lines.lineRange d.span).1 := by
    rw [← lines_of_resolve hscope] at hn ⊢
    exact hat.lt_of_inBody hn
  rw [lines_of_resolve hscope] at hrange
  obtain ⟨-, -, -, hstop⟩ := hn
  obtain ⟨e, he, hentry⟩ := exists_entry_of_header hscope' hd
  have hwithin : (book.lines.lineRange e.span).1 ≤ (book.lines.lineRange d.span).1 ∧
      (book.lines.lineRange d.span).2 ≤ (book.lines.lineRange e.span).2 := by
    rcases hentry with rfl | hinner
    · exact ⟨Nat.le_refl _, Nat.le_refl _⟩
    · exact Book.lineRange_inner h he hinner
  have hle := Lines.lineRange_fst_le_snd book.lines d.span
  rcases (Book.isApart_of_parse h).eq_or_lt he (request_mem_of_resolve hscope hr) with
    rfl | hbefore | hafter
  · -- the header is one of the request itself
    have hinner : d ∈ r.headers := hentry.resolve_left (fun heq => nomatch heq)
    obtain ⟨above, l, below, rfl, hheader⟩ := hat.exists_headerAt hinner
    have hline := hheader.range
    rw [lines_of_resolve hscope] at hline
    rw [hline] at hlt
    simp only [List.length_append, List.length_cons] at hlt
    omega
  · rw [Entry.span, hrange] at hbefore
    omega
  · rw [Entry.span] at hafter
    omega

end Scope

namespace Lint

variable {source : String} {book : Book} {line : Nat} {scope : Scope} {token name : List Char}
  {n : Nat}

inductive RefersOn (scope : Scope) (token : List Char) : Nat → Prop
  | header {d before} : scope.header? d.name = some d → Occurs token d.text.toList before →
      RefersOn scope token (scope.lines.lineRange d.span).1
  | path {r before} : scope.request = some r → Occurs token r.path.toList before →
      RefersOn scope token (scope.lines.lineRange r.span).1
  | body {r text above part below before n} : scope.request = some r → r.body = some text →
      List.splitOn '\n' text.toList = above ++ part :: below → Occurs token part before →
      n + below.length = (scope.lines.lineRange r.span).2 → RefersOn scope token n

/-- The line belongs to the body, and the token also stands on an earlier line of the request. -/
def Repeats (scope : Scope) (token : List Char) (n : Nat) : Prop :=
  ∃ r q, scope.request = some r ∧ r.InBody scope.lines n ∧
    ((scope.lines.lineRange r.span).1 ≤ q.line ∧ q.line < n) ∧ StandsAt scope.lines token q

def Reports (source : String) (name : List Char) (n : Nat) : Prop :=
  ∃ w ∈ report source, w.severity = .warning ∧ w.line = n ∧
    w.message = undefinedMessage ('$' :: name)

theorem mem_references_of_occurs {text before : List Char} (hne : name ≠ [])
    (hname : ∀ c ∈ name, isNameChar c = true) (h : Occurs ('$' :: name) text before) :
    name ∈ Template.references text := by
  obtain ⟨after, rfl, hstops⟩ := h
  exact Template.mem_references_iff.mpr
    ⟨hne, before, name ++ after, rfl, takeWhile_append_of_stops hname hstops⟩

theorem Occurs.intercalate {part before : List Char} {parts : List (List Char)}
    (h : Occurs token part before) (hpart : part ∈ parts) :
    ∃ x, Occurs token (['\n'].intercalate parts) x := by
  induction parts with
  | nil => cases hpart
  | cons next parts ih =>
    cases parts with
    | nil =>
      rw [List.mem_singleton] at hpart
      rw [List.intercalate_singleton, ← hpart]
      exact ⟨before, h⟩
    | cons next' parts =>
      rw [List.intercalate_cons_cons, List.append_assoc, List.singleton_append]
      rcases List.mem_cons.mp hpart with rfl | hpart
      · exact ⟨before, h.within (stops_cons.mpr rfl) []⟩
      · obtain ⟨x, hx⟩ := ih hpart
        have hwhole := hx.within stops_nil (next ++ ['\n'])
        exact ⟨next ++ ['\n'] ++ x, by simpa using hwhole⟩

theorem StandsIn.standsAt {lines : Lines} {lead part rest : List Char} {p : Position}
    (h : StandsIn lines token lead part rest p) (hrest : Stops isNameChar rest) :
    StandsAt lines token p := by
  obtain ⟨htext, before, hbefore, hcolumn⟩ := h
  exact ⟨_, lead ++ before, htext, hbefore.within hrest lead, hcolumn⟩

theorem Live.standsAt {p : Position} (h : Live scope token p) : StandsAt scope.lines token p := by
  cases h with
  | header _ _ _ hrest hstands => exact hstands.standsAt (stops_isNameChar (stops_of_blank hrest))
  | path _ _ _ hrest hstands => exact hstands.standsAt (stops_isNameChar hrest)
  | body _ _ _ _ _ hrest hstands => exact hstands.standsAt (stops_isNameChar (stops_of_blank hrest))

section

variable {passed heads rows after : List Line} {first : Line} {r : Request} {before : List Char}

theorem exists_live_of_path (hat : RequestAt scope passed first heads rows after r)
    (h : Occurs token r.path.toList before) :
    ∃ column, Live scope token ⟨(scope.lines.lineRange r.span).1, column⟩ := by
  obtain ⟨lead, between, comment, htext, hlead, hstops, -⟩ := hat.on.exists_opening
  refine ⟨(lead ++ before).length + 1, .path hat.request rfl hlead hstops ⟨?_, before, h, rfl⟩⟩
  rw [hat.range, hat.text?_first, htext]

theorem exists_live_of_part {text : String} {part : List Char} {above below : List (List Char)}
    (hat : RequestAt scope passed first heads rows after r) (hbody : r.body = some text)
    (hparts : List.splitOn '\n' text.toList = above ++ part :: below) (h : Occurs token part before)
    (hline : n + below.length = (scope.lines.lineRange r.span).2) :
    ∃ column, Live scope token ⟨n, column⟩ := by
  have hlength := hat.on.length_splitOn hbody hat.no_break
  rw [hparts, List.length_append, List.length_cons] at hlength
  have hlt : above.length < rows.length := by omega
  obtain ⟨rowsAbove, l, rowsBelow, rfl, hrows⟩ := exists_append_cons_of_lt hlt
  obtain ⟨above', part', below', hparts', habove, -, hpads⟩ := hat.on.exists_part hbody hat.no_break
  -- both divide the body before the same part
  obtain ⟨rfl, hrest⟩ := List.append_inj (hparts'.symm.trans hparts) (habove.trans hrows)
  obtain ⟨rfl, rfl⟩ := List.cons.inj hrest
  obtain ⟨lead, rest, htext, hlead, hrest⟩ := hpads
  have hnumber : n = (passed ++ first :: (heads ++ rowsAbove)).length + 1 := by
    rw [hat.range] at hline
    simp only [List.length_append, List.length_cons] at hline hlength ⊢
    omega
  have hsplit : scope.lines =
      (passed ++ first :: (heads ++ rowsAbove)) ++ l :: (rowsBelow ++ after) := by
    rw [hat.split]
    simp
  refine ⟨(lead ++ before).length + 1,
    .body hat.request hbody hparts hline hlead hrest ⟨?_, before, h, rfl⟩⟩
  rw [hnumber, text?_of_split hsplit, htext]

theorem mem_passages_path (hr : scope.request = some r) : ⟨r.path, r.span⟩ ∈ passages scope := by
  refine List.mem_append_right _ ?_
  rw [hr, Option.toList_some, List.flatMap_singleton]
  exact List.mem_append_right _ List.mem_cons_self

theorem mem_passages_body {text : String} (hr : scope.request = some r)
    (hbody : r.body = some text) : ⟨text, r.span⟩ ∈ passages scope := by
  refine List.mem_append_right _ ?_
  rw [hr, Option.toList_some, List.flatMap_singleton, hbody]
  exact List.mem_append_left _ List.mem_cons_self

theorem IsFirst.line_le {p q : Position} {range : Nat × Nat} {lines : Lines}
    (hp : IsFirst lines range token p) (hq : StandsAt lines token q) (hrange : range.1 ≤ q.line) :
    p.line ≤ q.line := by
  rcases hp.first q hrange hq with hlt | heq
  · exact Nat.le_of_lt hlt
  · exact Nat.le_of_eq heq.1

theorem line_of_header {lines : Lines} {l : Line} {d : Definition} {p : Position}
    (hat : HeaderAt lines passed l after d) (hp : IsFirst lines (lines.lineRange d.span) token p) :
    p.line = (lines.lineRange d.span).1 := by
  have hwithin := hp.within
  rw [hat.range] at hwithin ⊢
  exact Nat.le_antisymm hwithin.2 hwithin.1

theorem RefersOn.exists_warning (h : RefersOn scope ('$' :: name) n)
    (hparse : Book.parse source = .ok book) (hscope : Scope.resolve book line = .ok scope)
    (hne : name ≠ []) (hname : ∀ c ∈ name, isNameChar c = true)
    (hundefined : scope.var? (String.ofList name) = none) :
    (∃ column, Live scope ('$' :: name) ⟨n, column⟩) ∧
      ∃ p, warningAt p ('$' :: name) ∈ undefinedReferences scope ∧
        (p.line = n ∨ Repeats scope ('$' :: name) n) := by
  have hwarning {passage : Passage} {x : List Char} {p : Position}
      (hpassage : passage ∈ passages scope) (hx : Occurs ('$' :: name) passage.text.toList x)
      (hp : locate scope.lines name passage.owner = warningAt p ('$' :: name)) :
      warningAt p ('$' :: name) ∈ undefinedReferences scope :=
    mem_undefinedReferences_iff.mpr
      ⟨passage, hpassage, name, mem_references_of_occurs hne hname hx, hundefined, hp.symm⟩
  cases h with
  | @header d before hvisible hoccurs =>
    have hvalues : d ∈ scope.headers.values := Table.mem_values_of_get? hvisible
    obtain ⟨-, passed, l, after, hat⟩ := Scope.exists_headerAt hparse hscope hvalues
    obtain ⟨p, hp, hfirst, hlive⟩ := locate_header hname hvisible hat hoccurs
    have hline := line_of_header hat hfirst
    have hpassage : Passage.mk d.text d.span ∈ passages scope :=
      List.mem_append_left _ (List.mem_map_of_mem hvalues)
    exact ⟨⟨p.column, hline ▸ hlive⟩, p, hwarning hpassage hoccurs hp, .inl hline⟩
  | @path r before hr hoccurs =>
    obtain ⟨passed, first, heads, rows, after, hat⟩ := Scope.exists_requestAt hparse hscope hr
    obtain ⟨column, hlive⟩ := exists_live_of_path hat hoccurs
    obtain ⟨p, hp, hfirst, -⟩ := locate_path hname hat hoccurs
    have hle := hfirst.line_le hlive.standsAt (Nat.le_refl _)
    refine ⟨⟨column, hlive⟩, p, hwarning (mem_passages_path hr) hoccurs hp, .inl ?_⟩
    exact Nat.le_antisymm hle hfirst.within.1
  | @body r text above part below before n hr hbody hparts hoccurs hline =>
    obtain ⟨passed, first, heads, rows, after, hat⟩ := Scope.exists_requestAt hparse hscope hr
    obtain ⟨column, hlive⟩ := exists_live_of_part hat hbody hparts hoccurs hline
    have hmem : part ∈ List.splitOn '\n' text.toList := by
      rw [hparts]
      exact List.mem_append_right above List.mem_cons_self
    obtain ⟨x, hx⟩ := hoccurs.intercalate hmem
    rw [List.intercalate_splitOn] at hx
    obtain ⟨p, hp, hfirst, -⟩ := locate_body hname hat hbody hx
    have hn : r.InBody scope.lines n := by
      refine ⟨text, hbody, ?_, hline ▸ Nat.le_add_right n below.length⟩
      rw [hparts, List.length_append, List.length_cons]
      omega
    have hrange : (scope.lines.lineRange r.span).1 ≤ n := by
      have hlt := hat.lt_of_inBody hn
      rw [hat.range]
      omega
    refine ⟨⟨column, hlive⟩, p, hwarning (mem_passages_body hr hbody) hx hp, ?_⟩
    rcases Nat.lt_or_eq_of_le (hfirst.line_le hlive.standsAt hrange) with hlt | heq
    · exact .inr ⟨r, p, hr, hn, ⟨hfirst.within.1, hlt⟩, hfirst.stands⟩
    · exact .inl heq

end

theorem warning_of_message {r : Request} {w : Diagnostic}
    (hr : Scope.chosen? book (book.lines.lineOf r.span.start) = some r) (hw : w ∈ ofRequest book r)
    (hmessage : w.message = undefinedMessage token) : w.severity = .warning := by
  rcases ofRequest_cases hr with ⟨hwarnings, -⟩ | ⟨missing, heq, -⟩
  · exact (hwarnings w hw).1
  · rw [heq, List.mem_singleton] at hw
    subst hw
    exact absurd hmessage.symm (undefinedMessage_ne_message token missing)

theorem mem_report {w : Diagnostic} (h : Book.parse source = .ok book) (hw : w ∈ report source) :
    ∃ r, .request r ∈ book.entries ∧ w ∈ ofRequest book r := by
  rw [report, h] at hw
  obtain ⟨r, hr, hw⟩ := List.mem_flatMap.mp ((Diagnostic.dedupeAfter_sublist _ _).mem hw)
  exact ⟨r, Book.mem_requests.mp hr, hw⟩

theorem reports_of_warning {p : Position} (h : Book.parse source = .ok book)
    (hscope : Scope.resolve book line = .ok scope) {r : Request} (hr : scope.request = some r)
    (hw : warningAt p ('$' :: name) ∈ undefinedReferences scope) : Reports source name p.line := by
  have hapart := Book.isApart_of_parse h
  have hchosen : Scope.chosen? book line = some r := (Scope.request_of_resolve hscope) ▸ hr
  have hentry : .request r ∈ book.entries := Scope.request_mem_of_resolve hscope hr
  have hfirst := hapart.resolve_of_covers hentry (Scope.covers_of_chosen? hchosen)
    (Book.covers_first book r)
  rw [hscope] at hfirst
  have hmem : warningAt p ('$' :: name) ∈ ofRequest book r := by
    rw [ofRequest, hfirst]
    exact hw
  have hall := List.mem_flatMap.mpr ⟨r, Book.mem_requests.mpr hentry, hmem⟩
  obtain ⟨w, hw, hkey⟩ := Diagnostic.exists_of_dedupe hall
  obtain ⟨hline, hmessage⟩ := Prod.mk.inj hkey
  have hreport : w ∈ report source := by
    rw [report, h]
    exact hw
  obtain ⟨r', hr', hw'⟩ := mem_report h hreport
  exact ⟨w, hreport, warning_of_message (hapart.chosen?_first hr') hw' hmessage, hline, hmessage⟩

theorem exists_first_of_mem {w : Diagnostic} (h : Book.parse source = .ok book)
    (hscope : Scope.resolve book line = .ok scope) (hw : w ∈ undefinedReferences scope)
    (hmessage : w.message = undefinedMessage ('$' :: name)) :
    (∃ d ∈ scope.headers.values, w.line = (scope.lines.lineRange d.span).1) ∨
      ∃ r p, scope.request = some r ∧ w.line = p.line ∧
        IsFirst scope.lines (scope.lines.lineRange r.span) ('$' :: name) p := by
  obtain ⟨passage, hpassage, name', hname', -, rfl⟩ := mem_undefinedReferences_iff.mp hw
  rw [message_locate, undefinedMessage_inj, List.cons.injEq] at hmessage
  obtain ⟨-, rfl⟩ := hmessage
  obtain ⟨-, hchars, before, hbefore⟩ := occurs_of_mem_references hname'
  rcases passages_cases hpassage with
    ⟨d, hd, rfl⟩ | ⟨r, text, hr, hbody, rfl⟩ | ⟨r, hr, rfl⟩
  · obtain ⟨hvisible, passed, l, after, hat⟩ := Scope.exists_headerAt h hscope hd
    obtain ⟨p, heq, hp, -⟩ := locate_header hchars hvisible hat hbefore
    exact .inl ⟨d, hd, heq ▸ line_of_header hat hp⟩
  · obtain ⟨passed, first, heads, rows, after, hat⟩ := Scope.exists_requestAt h hscope hr
    obtain ⟨p, heq, hp, -⟩ := locate_body hchars hat hbody hbefore
    exact .inr ⟨r, p, hr, congrArg Diagnostic.line heq, hp⟩
  · obtain ⟨passed, first, heads, rows, after, hat⟩ := Scope.exists_requestAt h hscope hr
    obtain ⟨p, heq, hp, -⟩ := locate_path hchars hat hbefore
    exact .inr ⟨r, p, hr, congrArg Diagnostic.line heq, hp⟩

theorem exists_scope_of_warning {w : Diagnostic} (h : Book.parse source = .ok book)
    (hw : w ∈ report source) (hseverity : w.severity = .warning) :
    ∃ line scope, Scope.resolve book line = .ok scope ∧ w ∈ undefinedReferences scope := by
  obtain ⟨r, -, hw⟩ := mem_report h hw
  rw [ofRequest] at hw
  split at hw
  · rename_i scope hscope
    exact ⟨_, scope, hscope, hw⟩
  · rw [List.mem_singleton] at hw
    rw [hw] at hseverity
    cases hseverity

/-- No warning is given for a reference that repeats, whichever request a warning would be for. -/
theorem not_reports_of_repeats (h : Book.parse source = .ok book)
    (hscope : Scope.resolve book line = .ok scope) (hrepeats : Repeats scope ('$' :: name) n) :
    ¬Reports source name n := by
  rintro ⟨w, hw, hseverity, rfl, hmessage⟩
  obtain ⟨r, q, hr, hn, hq, hstands⟩ := hrepeats
  obtain ⟨line', scope', hscope', hw⟩ := exists_scope_of_warning h hw hseverity
  rw [Scope.lines_of_resolve hscope] at hn hq hstands
  rcases exists_first_of_mem h hscope' hw hmessage with ⟨d, hd, hline⟩ | ⟨r', p, hr', hline, hp⟩
  · rw [Scope.lines_of_resolve hscope'] at hline
    rw [hline] at hn
    exact Scope.not_inBody_of_header h hscope hr hscope' hd hn
  · rw [Scope.lines_of_resolve hscope'] at hp
    obtain ⟨-, -, -, hstop⟩ := hn
    -- the line belongs to one request only
    have hchosen := ((Book.isApart_of_parse h).chosen?_eq_some_iff
      (Scope.request_mem_of_resolve hscope hr)).mpr
        ⟨Nat.le_of_lt (Nat.lt_of_le_of_lt hq.1 hq.2), hstop⟩
    have hchosen' := ((Book.isApart_of_parse h).chosen?_eq_some_iff
      (Scope.request_mem_of_resolve hscope' hr')).mpr hp.within
    rw [← hline, hchosen, Option.some.injEq] at hchosen'
    subst hchosen'
    have hle := hp.line_le hstands hq.1
    omega

/-- A reference to an undefined variable stands on its line in one of the texts that are read, and the
line is reported unless the reference repeats. -/
theorem reports_iff_of_parse {r : Request} (h : Book.parse source = .ok book)
    (hscope : Scope.resolve book line = .ok scope) (hr : scope.request = some r) (hne : name ≠ [])
    (hname : ∀ c ∈ name, isNameChar c = true)
    (hundefined : scope.var? (String.ofList name) = none)
    (hrefers : RefersOn scope ('$' :: name) n) :
    (∃ column, Live scope ('$' :: name) ⟨n, column⟩) ∧
      (Reports source name n ↔ ¬Repeats scope ('$' :: name) n) := by
  obtain ⟨hlive, p, hw, hline⟩ := hrefers.exists_warning h hscope hne hname hundefined
  refine ⟨hlive, fun hreports hrepeats => not_reports_of_repeats h hscope hrepeats hreports, ?_⟩
  intro hnot
  have hreports := reports_of_warning h hscope hr hw
  rwa [hline.resolve_right hnot] at hreports

def repeated : String :=
  "POST /\n$x\n$x"

def repeatedRequest : Request :=
  ⟨.post, "/", some "$x\n$x", none, [], ⟨0, 12⟩⟩

def repeatedBook : Book :=
  ⟨repeated, [.request repeatedRequest]⟩

theorem exists_repeated_scope : ∃ scope, Scope.resolve repeatedBook 3 = .ok scope ∧
    scope.request = some repeatedRequest ∧ scope.var? (String.ofList ['x']) = none ∧
      RefersOn scope ['$', 'x'] 2 ∧ RefersOn scope ['$', 'x'] 3 := by
  have hfirst : List.splitOn '\n' "$x\n$x".toList = [] ++ ['$', 'x'] :: [['$', 'x']] := rfl
  have hsecond : List.splitOn '\n' "$x\n$x".toList = [['$', 'x']] ++ ['$', 'x'] :: [] := rfl
  have hoccurs : Occurs ['$', 'x'] ['$', 'x'] [] := ⟨[], rfl, stops_nil⟩
  exact ⟨_, rfl, rfl, rfl, .body rfl rfl hfirst hoccurs rfl, .body rfl rfl hsecond hoccurs rfl⟩

theorem reports_iff_of_parse_repeated : Book.parse repeated = .ok repeatedBook ∧
    ∃ scope, Scope.resolve repeatedBook 3 = .ok scope ∧ Reports repeated ['x'] 2 ∧
      Repeats scope ['$', 'x'] 3 ∧ ¬Reports repeated ['x'] 3 := by
  obtain ⟨scope, hscope, hr, hundefined, hfirst, hsecond⟩ := exists_repeated_scope
  have hparse : Book.parse repeated = .ok repeatedBook := rfl
  have hreports {n : Nat} (hrefers : RefersOn scope ['$', 'x'] n) :=
    (reports_iff_of_parse hparse hscope hr (List.cons_ne_nil 'x' []) (forall_mem_of_all rfl)
      hundefined hrefers).2
  have hlines : scope.lines = repeatedBook.lines := Scope.lines_of_resolve hscope
  have hrange : scope.lines.lineRange repeatedRequest.span = (1, 3) := by
    rw [hlines]
    decide
  have hrepeats : Repeats scope ['$', 'x'] 3 := by
    refine ⟨repeatedRequest, ⟨2, 1⟩, hr, ⟨_, rfl, ?_⟩, ?_, ?_⟩
    · rw [hrange]
      decide
    · rw [hrange]
      decide
    · rw [hlines]
      exact ⟨['$', 'x'], [], rfl, ⟨[], rfl, stops_nil⟩, rfl⟩
  have hnot : ¬Repeats scope ['$', 'x'] 2 := by
    rintro ⟨r, q, hr', -, hq, text, before, htext, hbefore, -⟩
    obtain rfl : repeatedRequest = r := Option.some.inj (hr.symm.trans hr')
    rw [hrange] at hq
    have hline : q.line = 1 := Nat.le_antisymm (Nat.le_of_lt_succ hq.2) hq.1
    rw [hline, hlines] at htext
    obtain rfl : "POST /".toList = text := Option.some.inj htext
    exact absurd hbefore.dollar_mem (by decide)
  exact ⟨hparse, scope, hscope, (hreports hfirst).mpr hnot, hrepeats,
    fun h => (hreports hsecond).mp h hrepeats⟩

def ReportsAll (source : String) (scope : Scope) : Prop :=
  ∀ name n, name ≠ [] → (∀ c ∈ name, isNameChar c = true) →
    scope.var? (String.ofList name) = none → RefersOn scope ('$' :: name) n → Reports source name n

theorem not_reportsAll_repeated : Book.parse repeated = .ok repeatedBook ∧
    ∃ scope, Scope.resolve repeatedBook 3 = .ok scope ∧ scope.request = some repeatedRequest ∧
      ¬ReportsAll repeated scope := by
  obtain ⟨scope, hscope, hr, hundefined, -, hrefers⟩ := exists_repeated_scope
  refine ⟨rfl, scope, hscope, hr, fun h => ?_⟩
  have hreport : report repeated = [warningAt ⟨2, 1⟩ ['$', 'x']] := rfl
  obtain ⟨w, hw, -, hline, -⟩ :=
    h ['x'] 3 (List.cons_ne_nil 'x' []) (forall_mem_of_all rfl) hundefined hrefers
  rw [hreport, List.mem_singleton] at hw
  rw [hw] at hline
  cases hline

end Lint

end RequestBook
