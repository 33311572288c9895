import RequestBook.Proofs.Grammar.Slice

/-!
The layout of a text as entries and gaps. Entries follow one another, the definitions inside an entry
do so within it, and a gap holds only blanks and comments. Main statement: a book that has been read
is laid out like this from its first character to its last.
-/

namespace RequestBook

open RequestBook.Text

def EndsLine (s : List Char) : Prop :=
  ∀ c, s.head? = some c → isLineEnd c = true

/-- Blanks and comments, each of which runs from its sign to the end of its line. What follows the
gap decides whether a line ends with it. -/
inductive Gap (rest : List Char) : List Char → Prop
  | nil : Gap rest []
  | blank {c g} : isBlank c = true → Gap rest g → Gap rest (c :: g)
  | comment {text g} : (∀ c ∈ text, isLineEnd c = false) → EndsLine (g ++ rest) → Gap rest g →
      Gap rest ('#' :: (text ++ g))

namespace Gap

variable {rest g text : List Char}

theorem blanks (h : ∀ c ∈ text, isBlank c = true) (hg : Gap rest g) : Gap rest (text ++ g) := by
  induction text with
  | nil => exact hg
  | cons c text ih =>
    exact .blank (h c List.mem_cons_self) (ih fun d hd => h d (List.mem_cons_of_mem _ hd))

theorem of_blank (h : ∀ c ∈ text, isBlank c = true) : Gap rest text := by
  simpa using blanks h .nil

theorem trail (htrails : Grammar.Trails text) (hline : ∀ c ∈ text, isLineEnd c = false)
    (hends : EndsLine (g ++ rest)) (hg : Gap rest g) : Gap rest (text ++ g) := by
  obtain ⟨blanks, comment, rfl, hblanks, hstops⟩ := htrails
  rw [List.append_assoc]
  refine .blanks hblanks ?_
  cases comment with
  | nil => exact hg
  | cons c comment =>
    obtain rfl : c = '#' := by simpa using stops_cons.mp hstops
    refine .comment (fun d hd => hline d ?_) hends hg
    exact List.mem_append_right _ (List.mem_cons_of_mem _ hd)

theorem exists_sign (h : Gap rest g) {before after : List Char} {c : Char}
    (hg : g = before ++ c :: after) (hc : isBlank c = false) : ∃ earlier text,
      before ++ [c] = earlier ++ '#' :: text ∧ ∀ d ∈ text, isLineEnd d = false := by
  induction h generalizing before with
  | nil => simp at hg
  | @blank b g hb _ ih =>
    cases before with
    | nil =>
      cases hg
      rw [hc] at hb
      cases hb
    | cons b' before =>
      cases hg
      obtain ⟨earlier, text, heq, htext⟩ := ih rfl
      exact ⟨b :: earlier, text, congrArg (b :: ·) heq, htext⟩
  | @comment text g htext _ _ ih =>
    rw [← List.cons_append] at hg
    rcases append_eq_append_cons hg with ⟨more, hmore⟩ | ⟨more, rfl, rfl⟩
    · obtain ⟨hnil, -⟩ | ⟨text', htext', rfl⟩ := List.cons_eq_append_iff.mp hmore
      · simp at hnil
      · exact ⟨[], text', htext', fun d hd => htext d (List.mem_append_left more hd)⟩
    · obtain ⟨earlier, text', heq, htext'⟩ := ih rfl
      exact ⟨'#' :: text ++ earlier, text', by rw [List.append_assoc, heq, List.append_assoc],
        htext'⟩

end Gap

/-- The span has at least one character, and the text can be cut at both of its ends. -/
structure Span.Fits (s : List Char) (span : Span) : Prop where
  start_lt_stop : span.start < span.stop
  stop_le : span.stop ≤ width s
  start : isBoundary span.start s = true
  stop : isBoundary span.stop s = true

theorem Span.fits_append {before text : List Char} (htext : text ≠ []) (after : List Char) :
    Span.Fits (before ++ (text ++ after)) ⟨width before, width (before ++ text)⟩ where
  start_lt_stop := by
    have hpos : width text ≠ 0 := mt width_eq_zero_iff.mp htext
    rw [width_append]
    exact Nat.lt_add_of_pos_right (Nat.pos_of_ne_zero hpos)
  stop_le := by
    simp only [width_append]
    omega
  start := isBoundary_iff.mpr ⟨before, text ++ after, rfl, rfl⟩
  stop := isBoundary_iff.mpr ⟨before ++ text, after, by simp, rfl⟩

def Span.Precedes (a b : Span) : Prop :=
  a.stop ≤ b.start

/-- The stretches before, between and after spans of a text of `total` bytes, from `start` on. -/
def Span.gaps (start total : Nat) : List Span → List Span
  | [] => [⟨start, total⟩]
  | span :: more => ⟨start, span.start⟩ :: gaps span.stop total more

def GapAt (s : List Char) (gap : Span) : Prop :=
  ∃ before g rest, s = before ++ (g ++ rest) ∧ gap = ⟨width before, width (before ++ g)⟩ ∧ Gap rest g

def InEntry (entries : List Entry) (before : List Char) (c : Char) : Prop :=
  ∃ e ∈ entries, e.span.start ≤ width before ∧ width (before ++ [c]) ≤ e.span.stop

/-- The character that follows `before` has the sign of a comment before it on its line, or is one,
and no entry has a part of the comment up to there. -/
def InComment (entries : List Entry) (before : List Char) (c : Char) : Prop :=
  ∃ earlier text, before ++ [c] = earlier ++ '#' :: text ∧ (∀ d ∈ text, isLineEnd d = false) ∧
    ∀ e ∈ entries, e.span.stop ≤ width earlier ∨ width (before ++ [c]) ≤ e.span.start

inductive Layout : List Char → List Char → List Entry → Prop
  | last {passed g} : Gap [] g → Layout passed g []
  | entry {passed g text more e entries} : Gap (text ++ more) g → text ≠ [] →
      e.span = ⟨width (passed ++ g), width (passed ++ g ++ text)⟩ →
      Layout (passed ++ g ++ text) more entries → Layout passed (g ++ (text ++ more)) (e :: entries)

namespace Layout

variable {passed s : List Char} {entries : List Entry}

theorem fits (h : Layout passed s entries) : ∀ e ∈ entries, e.span.Fits (passed ++ s) := by
  induction h with
  | last => exact fun e he => nomatch he
  | @entry passed g text more e entries _ htext hspan _ ih =>
    rw [← List.append_assoc, List.forall_mem_cons, hspan]
    refine ⟨Span.fits_append htext more, ?_⟩
    rwa [← List.append_assoc]

theorem width_le_start (h : Layout passed s entries) :
    ∀ e ∈ entries, width passed ≤ e.span.start := by
  induction h with
  | last => exact fun e he => nomatch he
  | @entry passed g text more e entries _ _ hspan _ ih =>
    simp only [width_append] at hspan ih
    rw [List.forall_mem_cons, hspan]
    refine ⟨Nat.le_add_right _ _, fun e' he' => ?_⟩
    have := ih e' he'
    omega

theorem pairwise (h : Layout passed s entries) :
    (entries.map Entry.span).Pairwise Span.Precedes := by
  induction h with
  | last => exact .nil
  | @entry passed g text more e entries _ _ hspan hmore ih =>
    refine .cons (fun span hmem => ?_) ih
    obtain ⟨e', he', rfl⟩ := List.mem_map.mp hmem
    rw [hspan]
    exact hmore.width_le_start e' he'

theorem gaps (h : Layout passed s entries) :
    ∀ gap ∈ Span.gaps (width passed) (width (passed ++ s)) (entries.map Entry.span),
      GapAt (passed ++ s) gap := by
  induction h with
  | @last passed g hg =>
    rw [List.map_nil, Span.gaps, List.forall_mem_singleton]
    exact ⟨passed, g, [], by simp, rfl, hg⟩
  | @entry passed g text more e entries hg _ hspan _ ih =>
    rw [List.map_cons, Span.gaps, List.forall_mem_cons, hspan]
    refine ⟨⟨passed, g, text ++ more, rfl, rfl, hg⟩, ?_⟩
    simpa only [List.append_assoc] using ih

theorem covered (h : Layout passed s entries) {before after : List Char} {c : Char}
    (hs : s = before ++ c :: after) (hc : isBlank c = false) :
    InEntry entries (passed ++ before) c ∨ ∃ earlier text,
      before ++ [c] = earlier ++ '#' :: text ∧ (∀ d ∈ text, isLineEnd d = false) ∧
        ∀ e ∈ entries, e.span.stop ≤ width (passed ++ earlier) ∨
          width (passed ++ before ++ [c]) ≤ e.span.start := by
  induction h generalizing before with
  | @last passed g hg =>
    obtain ⟨earlier, text, heq, htext⟩ := hg.exists_sign hs hc
    exact .inr ⟨earlier, text, heq, htext, fun e he => nomatch he⟩
  | @entry passed g text more e entries hg _ hspan hmore ih =>
    have hstart := congrArg Span.start hspan
    have hstop := congrArg Span.stop hspan
    have hlater := hmore.width_le_start
    simp only [width_append] at hstart hstop hlater
    rcases append_eq_append_cons hs with ⟨rest, rfl⟩ | ⟨inner, rfl, hinner⟩
    · -- in the gap, before this entry and all later ones
      obtain ⟨earlier, sign, heq, hsign⟩ := hg.exists_sign (List.append_assoc ..) hc
      refine .inr ⟨earlier, sign, heq, hsign, fun e' he' => .inr ?_⟩
      simp only [width_append] at hstart hlater ⊢
      rcases List.mem_cons.mp he' with rfl | he'
      · omega
      · have hle := hlater e' he'
        omega
    rcases append_eq_append_cons hinner with ⟨rest, rfl⟩ | ⟨later, rfl, rfl⟩
    · refine .inl ⟨e, List.mem_cons_self, ?_⟩
      simp only [width_append] at hstop ⊢
      omega
    rcases ih rfl with ⟨e', he', hin⟩ | ⟨earlier, sign, heq, hsign, hapart⟩
    · refine .inl ⟨e', List.mem_cons_of_mem _ he', ?_⟩
      simpa only [List.append_assoc] using hin
    · refine .inr ⟨g ++ text ++ earlier, sign, by simp [heq], hsign, ?_⟩
      rw [List.forall_mem_cons]
      constructor
      · left
        simp only [width_append]
        omega
      · simpa only [List.append_assoc] using hapart

theorem prepend {p : List Char} (hp : ∀ g rest, s = g ++ rest → Gap rest g → Gap rest (p ++ g))
    (h : Layout (passed ++ p) s entries) : Layout passed (p ++ s) entries := by
  cases h with
  | last hg => exact .last (hp s [] (List.append_nil s).symm hg)
  | @entry _ g text more e entries hg htext hspan hmore =>
    rw [← List.append_assoc]
    refine .entry (hp g (text ++ more) rfl hg) htext ?_ ?_
    · rw [hspan]
      simp only [List.append_assoc]
    · simpa only [List.append_assoc] using hmore

theorem trail {text : List Char} {ending : LineBreak} (htrails : Grammar.Trails text)
    (hline : ∀ c ∈ text, isLineEnd c = false) (hending : ending = .none → s = [])
    (h : Layout (passed ++ (text ++ ending.chars)) s entries) :
    Layout passed (text ++ ending.chars ++ s) entries := by
  refine h.prepend fun g rest hs hg => ?_
  rw [List.append_assoc]
  have hblank : ∀ c ∈ ending.chars, isBlank c = true :=
    forall_mem_of_all (by cases ending <;> rfl)
  refine .trail htrails hline ?_ (.blanks hblank hg)
  rw [List.append_assoc, ← hs]
  intro c hc
  cases ending with
  | none =>
    rw [hending rfl] at hc
    cases hc
  | lf | cr | crlf =>
    cases hc
    rfl

end Layout

theorem Line.IsPassed.trails {line : Line} (h : line.IsPassed) : Grammar.Trails line.text := by
  rcases Bool.or_eq_true_iff.mp h with hblank | hcomment
  · exact Grammar.trails_of_blank (List.all_eq_true.mp hblank)
  · rw [Line.isComment, beq_iff_eq] at hcomment
    refine Grammar.trails_of_skipInline fun c hc => ?_
    rw [hcomment] at hc
    cases hc
    rfl

namespace Grammar

variable {block init : List Line} {line last : Line} {d : Definition} {e : Entry}

theorem Construct.layout {entries : List Entry} {passed : List Char}
    {ls after : List (List Char × LineBreak)} (h : Construct init last e)
    (hlines : init ++ [last] = Line.place (width passed) ls) (hdivided : Line.Divided (ls ++ after))
    (hmore : Layout (passed ++ Line.textOf ls) (Line.textOf after) entries) :
    Layout passed (Line.textOf (ls ++ after)) (e :: entries) := by
  obtain ⟨indent, text, trail, htext, hsuffix, hslice⟩ := h.exists_slice hlines hdivided
  obtain ⟨before, rfl, -, -⟩ := Line.exists_of_place_eq_concat hlines.symm
  have hlast : Line.Divided ((last.text, last.ending) :: after) := by
    rw [List.append_assoc] at hdivided
    exact hdivided.of_append (List.cons_ne_nil _ _)
  have hwhole : Line.textOf (before ++ [(last.text, last.ending)] ++ after) =
      indent ++ (text ++ (trail ++ last.ending.chars ++ Line.textOf after)) := by
    rw [Line.textOf_append, htext]
    simp
  have hblank : ∀ c ∈ indent, isBlank c = true :=
    fun c hc => isBlank_of_isInline (hslice.isInline c hc)
  have hspan : e.span = ⟨width (passed ++ indent), width (passed ++ indent ++ text)⟩ := by
    rw [hslice.span, width_append, width_append, width_append]
  rw [hwhole]
  refine .entry (.of_blank hblank) hslice.starts.ne_nil hspan (.trail hslice.trails
    (fun c hc => hlast.isLineEnd_of_mem c (hsuffix.subset hc)) hlast.textOf_eq_nil ?_)
  rw [htext] at hmore
  simpa only [List.append_assoc] using hmore

theorem Arranged.layout {lines : List Line} {entries : List Entry} {passed : List Char}
    {ls : List (List Char × LineBreak)} (h : Arranged lines entries)
    (hlines : lines = Line.place (width passed) ls) (hdivided : ls ≠ [] → Line.Divided ls) :
    Layout passed (Line.textOf ls) entries := by
  induction h generalizing passed ls with
  | nil =>
    cases ls with
    | nil => exact .last .nil
    | cons => cases hlines
  | passed hpassed _ ih =>
    obtain _ | ⟨⟨text, ending⟩, ls⟩ := ls
    · cases hlines
    obtain ⟨rfl, rfl⟩ := List.cons.inj hlines
    have hdivided := hdivided (List.cons_ne_nil _ _)
    refine .trail hpassed.trails hdivided.isLineEnd_of_mem hdivided.textOf_eq_nil (ih ?_ ?_)
    · rw [width_append, width_append, Nat.add_assoc]
    · exact fun hne => (hdivided.tail hne).2.2
  | construct hconstruct _ ih =>
    rw [List.append_cons] at hlines
    obtain ⟨ls₁, ls₂, rfl, hblock, hrest⟩ := Line.exists_of_place_eq_append hlines.symm
    have hne : ls₁ ++ ls₂ ≠ [] := by
      obtain ⟨before, rfl, -, -⟩ := Line.exists_of_place_eq_concat hblock.symm
      simp
    refine hconstruct.layout hblock (hdivided hne) (ih ?_ (hdivided hne).of_append)
    rw [hrest, width_append]

theorem StandOn.pairwise {definitions : List Definition} (h : StandOn block definitions)
    (hblock : block.Pairwise fun a b => a.stop < b.start) :
    (definitions.map Definition.span).Pairwise Span.Precedes := by
  obtain ⟨placed, rfl, hsublist, hplaced⟩ := h
  rw [List.map_map, List.pairwise_map]
  refine (List.pairwise_map.mp (hblock.sublist hsublist)).imp_of_mem ?_
  intro p q hp hq hlt
  have hstop := (hplaced p hp).stop_le
  have hstart := (hplaced q hq).start_le
  exact Nat.le_trans hstop (Nat.le_trans (Nat.le_of_lt hlt) hstart)

theorem Construct.inner_within (h : Construct init last e)
    (hlines : (init ++ [last]).Pairwise fun a b => a.stop < b.start) :
    ∀ d ∈ e.inner, e.span.start ≤ d.span.start ∧ d.span.stop ≤ e.span.stop := by
  intro d hd
  constructor
  · obtain ⟨line, hline, hdefined⟩ := h.standOn.exists_definedOn hd
    obtain ⟨first, rest, hfirst, -, hstart⟩ := h.begins
    rw [hfirst] at hline hlines
    rcases List.mem_cons.mp hline with rfl | hline
    · exact Nat.le_of_eq (hstart.trans hdefined.start_eq.symm)
    · have hlt := (List.pairwise_cons.mp hlines).1 line hline
      have hle := first.offsetOf_le_stop (skipInline first.text)
      have := hdefined.start_le
      omega
  · obtain ⟨_, _, kept, _, _, _, _, hstop, _⟩ := h.reads
    -- a definition before the last line ends before that line begins
    have hearlier {definitions : List Definition} (hstand : StandOn init definitions)
        (hd : d ∈ definitions) : d.span.stop ≤ e.span.stop := by
      obtain ⟨line, hline, hdefined⟩ := hstand.exists_definedOn hd
      have hlt := (List.pairwise_append.mp hlines).2.2 line hline last List.mem_cons_self
      have := hdefined.stop_le
      omega
    rcases h.inner with hinner | ⟨before, final, heq, hbefore, -, hfinal⟩
    · exact hearlier hinner hd
    · rw [heq] at hd
      rcases List.mem_append.mp hd with hd | hd
      · exact hearlier hbefore hd
      · rw [List.mem_singleton.mp hd]
        exact Nat.le_of_eq hfinal.symm

theorem Construct.fits {s : List Char} {before after : List Line} (h : Construct init last e)
    (hlines : Line.split s = before ++ (init ++ [last] ++ after)) : e.span.Fits s := by
  obtain ⟨passed, indent, text, trail, more, rfl, hslice⟩ := h.exists_slice_of_split hlines
  rw [hslice.span, ← width_append, ← width_append]
  exact Span.fits_append hslice.starts.ne_nil more

end Grammar

namespace Book

/-- The entries, with the definitions inside them, in a text all of which they account for. -/
structure LaidOut (s : List Char) (entries : List Entry) : Prop where
  fits : ∀ e ∈ entries, e.span.Fits s
  ordered : (entries.map Entry.span).Pairwise Span.Precedes
  inner_fits : ∀ e ∈ entries, ∀ d ∈ e.inner, d.span.Fits s
  inner_within : ∀ e ∈ entries, ∀ d ∈ e.inner,
    e.span.start ≤ d.span.start ∧ d.span.stop ≤ e.span.stop
  inner_ordered : ∀ e ∈ entries, (e.inner.map Definition.span).Pairwise Span.Precedes
  gaps : ∀ gap ∈ Span.gaps 0 (width s) (entries.map Entry.span), GapAt s gap
  covered : ∀ before c after, s = before ++ c :: after → isBlank c = false →
    InEntry entries before c ∨ InComment entries before c

variable {source : String} {book : Book}

theorem arranged_of_parse (h : parse source = .ok book) :
    Grammar.Arranged (Line.split source.toList) book.entries := by
  obtain ⟨hlines, hread⟩ := lines_of_parse h
  rw [hlines] at hread
  exact Grammar.arranged_of_readLines hread

theorem layout_of_parse (h : parse source = .ok book) : Layout [] source.toList book.entries := by
  rw [← Line.textOf_divide source.toList]
  exact (arranged_of_parse h).layout rfl fun _ => Line.divided_divide _

theorem exists_block_of_parse (h : parse source = .ok book) {e : Entry} (he : e ∈ book.entries) :
    ∃ init last, Grammar.Construct init last e ∧
      (init ++ [last]).Pairwise fun a b => a.stop < b.start := by
  obtain ⟨before, init, last, after, hsplit, hconstruct⟩ := (arranged_of_parse h).exists_construct he
  refine ⟨init, last, hconstruct, (Line.pairwise_stop_split source.toList).sublist ?_⟩
  rw [hsplit]
  exact (List.sublist_append_left _ after).trans (List.sublist_append_right before _)

/-- A book is made of its entries, in order, and of blanks and comments before, between and after
them. -/
theorem laidOut_of_parse {source : String} {book : Book} (h : parse source = .ok book) :
    LaidOut source.toList book.entries := by
  have hlayout := layout_of_parse h
  refine ⟨hlayout.fits, hlayout.pairwise, ?_, ?_, ?_, hlayout.gaps, ?_⟩
  · intro e he d hd
    obtain ⟨before, line, after, hsplit, hconstruct⟩ :=
      (arranged_of_parse h).exists_construct_inner he hd
    exact hconstruct.fits hsplit
  · intro e he
    obtain ⟨init, last, hconstruct, hpairwise⟩ := exists_block_of_parse h he
    exact hconstruct.inner_within hpairwise
  · intro e he
    obtain ⟨init, last, hconstruct, hpairwise⟩ := exists_block_of_parse h he
    exact hconstruct.standOn.pairwise hpairwise
  · intro before c after hs hc
    exact hlayout.covered hs hc

def commented : String :=
  "#é\n\t$x = 1 # c\n@e:\n# d\n A: b\u3000\r\n\n #"

theorem laidOut_commented : ∃ book, parse commented = .ok book ∧
    book.entries.map Entry.span = [⟨5, 11⟩, ⟨16, 29⟩] ∧ LaidOut commented.toList book.entries :=
  ⟨_, rfl, rfl, laidOut_of_parse rfl⟩

example : Span.gaps 0 (width commented.toList) [⟨5, 11⟩, ⟨16, 29⟩] =
    [⟨0, 5⟩, ⟨11, 16⟩, ⟨29, 37⟩] := by
  decide

end Book

end RequestBook
