import RequestBook.Proofs.Grammar.Layout
import RequestBook.Proofs.Grammar.Origin

namespace RequestBook

open RequestBook.Text

def Definition.Leads (d : Definition) (lead : List Char) : Prop :=
  IsName d.name ∧ ∃ indent gap, lead = indent ++ (d.name.toList ++ ':' :: gap) ∧
    (∀ c ∈ indent, isInline c = true) ∧ ∀ c ∈ gap, isInline c = true

def Request.Leads (r : Request) (lead : List Char) : Prop :=
  ∃ indent gap, lead = indent ++ (r.method.name.toList ++ gap) ∧ gap ≠ [] ∧
    (∀ c ∈ indent, isInline c = true) ∧ ∀ c ∈ gap, isInline c = true

theorem ne_dollar_of_isInline {c : Char} (h : isInline c = true) : c ≠ '$' := by
  rintro rfl
  cases h

theorem ne_dollar_of_isNameChar {c : Char} (h : isNameChar c = true) : c ≠ '$' := by
  rintro rfl
  cases h

theorem Definition.Leads.no_dollar {d : Definition} {lead : List Char} (h : d.Leads lead) :
    '$' ∉ lead := by
  obtain ⟨hname, indent, gap, rfl, hindent, hgap⟩ := h
  intro hmem
  have hparts : '$' ∈ indent ∨ '$' ∈ d.name.toList ∨ '$' ∈ gap := by simpa using hmem
  rcases hparts with hmem | hmem | hmem
  · exact ne_dollar_of_isInline (hindent _ hmem) rfl
  · exact ne_dollar_of_isNameChar (hname.2 _ hmem) rfl
  · exact ne_dollar_of_isInline (hgap _ hmem) rfl

theorem Request.Leads.no_dollar {r : Request} {lead : List Char} (h : r.Leads lead) :
    '$' ∉ lead := by
  obtain ⟨indent, gap, rfl, -, hindent, hgap⟩ := h
  intro hmem
  have hparts : '$' ∈ indent ∨ '$' ∈ r.method.name.toList ∨ '$' ∈ gap := by simpa using hmem
  rcases hparts with hmem | hmem | hmem
  · exact ne_dollar_of_isInline (hindent _ hmem) rfl
  · exact ne_dollar_of_isNameChar (Method.mem_name hmem).2 rfl
  · exact ne_dollar_of_isInline (hgap _ hmem) rfl

theorem lineRange_split_within {s : List Char} {before after : List Line} {line : Line} {span : Span}
    (h : Line.split s = before ++ line :: after) (hstart : line.start ≤ span.start)
    (hstart' : span.start ≤ line.stop) (hstop : line.Reaches span.stop) :
    Lines.lineRange (Line.split s) span = (before.length + 1, before.length + 1) := by
  have hfirst := lineOf_split_within h hstart hstart'
  rw [Lines.lineRange, hfirst]
  split
  · obtain ⟨hlt, hle⟩ := hstop
    rw [lineOf_split_within h (Nat.le_sub_one_of_lt hlt) (Nat.le_trans (Nat.sub_le _ _) hle)]
  · rw [hfirst]

namespace Grammar

variable {line first : Line} {heads rows : List Line} {d : Definition} {r : Request}

theorem exists_parts_of_readsHeader (h : ReadsHeader line (skipInline line.text) d) :
    ∃ lead rest, line.text = lead ++ (d.text.toList ++ rest) ∧ d.Leads lead ∧
      ∀ c ∈ rest, isBlank c = true := by
  obtain ⟨⟨name, rest⟩, hheader, rfl⟩ := Option.map_eq_some_iff.mp h
  obtain ⟨hskip, hne, hname⟩ := headerName?_eq_some_iff.mp hheader
  obtain ⟨indent, htext, hindent⟩ := exists_skipInline line.text
  obtain ⟨gap, hrest, hgap⟩ := exists_skipInline rest
  obtain ⟨blanks, hvalue, hblanks⟩ := trimEnd_append_blanks (skipInline rest)
  refine ⟨indent ++ (name ++ ':' :: gap), blanks, ?_, ⟨⟨?_, ?_⟩, indent, gap, ?_, hindent, hgap⟩,
    hblanks⟩
  · rw [Definition.text, Value.toText, String.toList_ofList, ← hvalue, htext, hskip,
      List.append_assoc, List.append_assoc, List.cons_append, ← hrest]
  · simpa using hne
  · simpa using hname
  · simp

theorem exists_parts_of_readsRequest (h : ReadsRequest line (skipInline line.text) r) :
    ∃ lead between comment, line.text = lead ++ (r.path.toList ++ (between ++ comment)) ∧
      r.Leads lead ∧ Stops (fun c => !isBlank c) (between ++ comment) ∧
      (∀ c ∈ between, c ≠ '$' ∧ c ≠ '#') ∧ Stops (· != '#') comment := by
  obtain ⟨c, after, afterPath, left, hs, hc, hpath, hbinding, hend, -⟩ := exists_of_readRequest h
  obtain ⟨hgap, -, -, hstops⟩ := readPath_eq_ok_iff.mp hpath
  obtain ⟨indent, htext, hindent⟩ := exists_skipInline line.text
  obtain ⟨gap, hafter, hinline⟩ := exists_skipInline (c :: after)
  obtain ⟨blanks, comment, rfl, hblanks, hcomment⟩ := trails_of_endLine hend
  have hgapNe : gap ≠ [] := by
    rintro rfl
    have hstart : Stops isInline (skipInline (c :: after)) := stops_dropWhile _ _
    rw [← List.nil_append (skipInline (c :: after)), ← hafter] at hstart
    rw [stops_cons.mp hstart] at hc
    cases hc
  have hbetween : ∃ between, afterPath = between ++ comment ∧ ∀ c ∈ between, c ≠ '$' ∧ c ≠ '#' := by
    have hclean {c : Char} (hc : isBlank c = true ∨ isNameChar c = true ∨ c = '|') :
        c ≠ '$' ∧ c ≠ '#' := by
      constructor <;> rintro rfl <;> exact absurd hc (by decide)
    rcases exists_of_readBinding hbinding with
      ⟨-, rfl⟩ | ⟨before, before', name, -, hname, rfl, hbefore, hbefore'⟩
    · exact ⟨blanks, rfl, fun c hc => hclean (.inl (hblanks c hc))⟩
    · refine ⟨before ++ '|' :: before' ++ name.toList ++ blanks, by simp, fun c hc => hclean ?_⟩
      have hparts : c ∈ before ∨ c = '|' ∨ c ∈ before' ∨ c ∈ name.toList ∨ c ∈ blanks := by
        simpa [or_assoc] using hc
      rcases hparts with hc | hc | hc | hc | hc
      · exact .inl (isBlank_of_isInline (hbefore c hc))
      · exact .inr (.inr hc)
      · exact .inl (isBlank_of_isInline (hbefore' c hc))
      · exact .inr (.inl (hname.2 c hc))
      · exact .inl (hblanks c hc)
  obtain ⟨between, rfl, hbetween⟩ := hbetween
  refine ⟨indent ++ (r.method.name.toList ++ gap), between, comment, ?_,
    ⟨indent, gap, rfl, hgapNe, hindent, hinline⟩, hstops, hbetween, hcomment⟩
  rw [htext, hs, hafter, hgap]
  simp

theorem DefinedOn.lineRange {s : List Char} {before after : List Line} (h : DefinedOn line d)
    (hlines : Line.split s = before ++ line :: after) :
    Lines.lineRange (Line.split s) d.span = (before.length + 1, before.length + 1) := by
  refine lineRange_split_within hlines h.start_le ?_ h.reaches_stop
  rw [h.start_eq]
  exact line.offsetOf_le_stop _

theorem DefinedOn.readsHeader (h : DefinedOn line d) (hkind : d.kind = .header) :
    ReadsHeader line (skipInline line.text) d := by
  cases h with
  | header hread => exact hread
  | dollar _ hread =>
    obtain ⟨⟨name, rest⟩, -, hread⟩ := bind_eq_ok_iff.mp hread
    obtain ⟨rest', -, hread⟩ := bind_eq_ok_iff.mp hread
    obtain ⟨⟨value, rest''⟩, -, hread⟩ := bind_eq_ok_iff.mp hread
    obtain ⟨_, -, hread⟩ := bind_eq_ok_iff.mp hread
    cases hread
    cases hkind

namespace RequestOn

theorem exists_opening (h : RequestOn first heads rows r) :
    ∃ lead between comment, first.text = lead ++ (r.path.toList ++ (between ++ comment)) ∧
      r.Leads lead ∧ Stops (fun c => !isBlank c) (between ++ comment) ∧
      (∀ c ∈ between, c ≠ '$' ∧ c ≠ '#') ∧ Stops (· != '#') comment := by
  obtain ⟨r₀, hread, hmethod, hpath, -⟩ := h.opens
  obtain ⟨lead, between, comment, htext, hlead, hrest⟩ := exists_parts_of_readsRequest hread
  rw [hpath] at htext
  rw [Request.Leads, hmethod] at hlead
  exact ⟨lead, between, comment, htext, hlead, hrest⟩

theorem text_of_body {text : String} (h : RequestOn first heads rows r) (hbody : r.body = some text) :
    rows ≠ [] ∧ text.toList = trim (['\n'].intercalate (rows.map Line.text)) := by
  have hjoin := h.body_eq.symm.trans hbody
  rw [bodyOf] at hjoin
  split at hjoin
  · cases hjoin
  · rename_i hempty
    cases hjoin
    exact ⟨by simpa using hempty, by rw [joinBody, String.toList_ofList]⟩

theorem lineRange {s : List Char} {before after : List Line} (h : RequestOn first heads rows r)
    (hlines : Line.split s = before ++ (first :: (heads ++ rows) ++ after)) :
    Lines.lineRange (Line.split s) r.span =
      (before.length + 1, before.length + (first :: (heads ++ rows)).length) := by
  obtain ⟨r₀, hread, -, -, hstart⟩ := h.opens
  have hfirst : Line.split s = before ++ first :: (heads ++ rows ++ after) := by
    rw [hlines, List.cons_append]
  rw [(span_of_readRequest hread).1] at hstart
  have hstart_le := first.start_le_offsetOf (skipInline first.text)
  have hle_stop := first.offsetOf_le_stop (skipInline first.text)
  rw [hstart] at hstart_le hle_stop
  obtain ⟨init, last, hlast, hlt, hle⟩ := h.stop
  have hsplit : Line.split s = (before ++ init) ++ last :: after := by
    rw [hlines, hlast]
    simp
  -- the span ends behind its start, on the same line or on a later one
  have hpos : r.span.start < r.span.stop := by
    by_cases hmore : heads ++ rows = []
    · exact h.start_lt_stop hmore
    · obtain ⟨init', rfl⟩ : ∃ init', init = first :: init' := by
        cases init with
        | nil => exact absurd (List.cons.inj hlast).2 hmore
        | cons l init => exact ⟨init, by rw [(List.cons.inj hlast).1]⟩
      have hordered := Line.pairwise_stop_split s
      rw [hsplit, List.append_assoc] at hordered
      obtain ⟨-, hordered, -⟩ := List.pairwise_append.mp hordered
      have hapart : first.stop < last.start :=
        (List.pairwise_cons.mp hordered).1 last (by simp)
      omega
  have hcount : (before ++ init).length + 1 = before.length + (first :: (heads ++ rows)).length := by
    rw [hlast]
    simp [Nat.add_assoc]
  rw [Lines.lineRange, if_pos hpos, lineOf_split_within hfirst hstart_le hle_stop,
    lineOf_split_within hsplit (Nat.le_sub_one_of_lt hlt) (Nat.le_trans (Nat.sub_le _ _) hle), hcount]

theorem exists_part {text : String} {above below : List Line} {line : Line}
    (h : RequestOn first heads (above ++ line :: below) r) (hbody : r.body = some text)
    (hbreak : ∀ l ∈ above ++ line :: below, '\n' ∉ l.text) :
    ∃ above' part below', List.splitOn '\n' text.toList = above' ++ part :: below' ∧
      above'.length = above.length ∧ below'.length = below.length ∧ Pads part line.text := by
  have hrows : ∀ s ∈ above.map Line.text ++ line.text :: below.map Line.text, IsRow s := by
    intro s hs
    have hs : s ∈ (above ++ line :: below).map Line.text := by simpa using hs
    obtain ⟨l, hl, rfl⟩ := List.mem_map.mp hs
    refine ⟨hbreak l hl, ?_⟩
    have hblank := h.notBlank l hl
    rw [Line.isBlank, List.all_eq_false] at hblank
    simpa using hblank
  obtain ⟨above', part, below', hsplit, habove, hbelow, hpads⟩ := splitOn_trim_intercalate hrows
  refine ⟨above', part, below', ?_, by simpa using habove, by simpa using hbelow, hpads⟩
  rw [(h.text_of_body hbody).2, List.map_append, List.map_cons, hsplit]

theorem length_splitOn {text : String} (h : RequestOn first heads rows r) (hbody : r.body = some text)
    (hbreak : ∀ l ∈ rows, '\n' ∉ l.text) : (List.splitOn '\n' text.toList).length = rows.length := by
  obtain ⟨row, more, hrows⟩ := List.exists_cons_of_ne_nil (h.text_of_body hbody).1
  rw [← List.nil_append (row :: more)] at hrows
  subst hrows
  obtain ⟨parts, part, parts', hsplit, hlength, hlength', -⟩ := h.exists_part hbody hbreak
  simp [hsplit, hlength, hlength']

end RequestOn

end Grammar

end RequestBook
