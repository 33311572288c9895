import RequestBook.Proofs.Grammar.Block
import RequestBook.Proofs.Source.Divided

namespace RequestBook

open RequestBook.Text

namespace Grammar

variable {offset : Nat} {indent text kept dropped : List Char} {ending : LineBreak}
  {ls after : List (List Char × LineBreak)} {e : Entry}

def ReadsOne (lines : List Line) (e : Entry) : Prop :=
  ∀ total, readLines total lines = .ok [e]

theorem ReadsOne.unindented (hindent : ∀ c ∈ indent, isInline c = true) (hstarts : Starts text)
    (h : ReadsOne (Line.place offset ((indent ++ text, ending) :: ls)) e) :
    ReadsOne (Line.place (offset + width indent) ((text, ending) :: ls)) e := by
  intro total
  obtain ⟨reading, hread, hfinish⟩ := bind_eq_ok_iff.mp (h total)
  obtain ⟨next, hstep, hread⟩ := bind_eq_ok_iff.mp hread
  have hskip : skipInline (indent ++ text) = text := by
    rw [skipInline_append hindent, hstarts.skipInline]
  have hfirst : (⟨offset, indent ++ text, ending⟩ : Line).unindented =
      ⟨offset + width indent, text, ending⟩ := by
    simp only [Line.unindented, Line.offsetOf, hskip, width_append, Nat.add_sub_cancel]
  have hline : Starts (skipInline (⟨offset, indent ++ text, ending⟩ : Line).text) :=
    hskip.symm ▸ hstarts
  have hopens := (Reading.opens_of_begin hstep hline.not_passed).unindented
  rw [hfirst] at hopens
  refine bind_eq_ok_iff.mpr ⟨reading, ?_, hfinish⟩
  refine bind_eq_ok_iff.mpr ⟨next, hopens.begin_eq, ?_⟩
  rwa [width_append, ← Nat.add_assoc] at hread

theorem ReadsOne.exists_shift (hdivided : Line.Divided ls) (h : ReadsOne (Line.place offset ls) e) :
    ∃ e', readLines (width (Line.textOf ls)) (Line.split (Line.textOf ls)) = .ok [e'] ∧
      e'.shift offset = e := by
  have hsplit : Line.split (Line.textOf ls) = Line.place 0 ls :=
    congrArg (Line.place 0) hdivided.divide_textOf
  have hread := h (width (Line.textOf ls) + offset)
  rw [Line.place_eq_map_shift, readLines_moved] at hread
  obtain ⟨entries, hentries, hmap⟩ := map_eq_ok_iff.mp (mapError_eq_ok_iff.mp hread)
  obtain ⟨e', rfl, he'⟩ := List.map_eq_singleton_iff.mp hmap
  exact ⟨e', hsplit ▸ hentries, he'⟩

/-- The part of the text that the entry's span covers, with what stands before and after it on its
lines. -/
structure Slice (offset : Nat) (e : Entry) (indent text trail : List Char) : Prop where
  isInline : ∀ c ∈ indent, isInline c = true
  starts : Starts text
  ends : Ends text
  trails : Trails trail
  span : e.span = ⟨offset + width indent, offset + width indent + width text⟩
  reads : ∃ e', readLines (width text) (Line.split text) = .ok [e'] ∧ e'.shift e.span.start = e

section

variable {init : List Line} {last : Line}

theorem Construct.exists_cut (h : Construct init last e)
    (hlines : init ++ [last] = Line.place offset ls) : ∃ before kept dropped,
      ls = before ++ [(kept ++ dropped, last.ending)] ∧ last.text = kept ++ dropped ∧
        Ends kept ∧ Trails dropped ∧
        e.span.stop = offset + width (Line.textOf before) + width kept ∧
        init ++ [last.cut kept .none] = Line.place offset (before ++ [(kept, .none)]) ∧
        ReadsOne (Line.place offset (before ++ [(kept, .none)])) e := by
  obtain ⟨reading, hread, kept, dropped, htext, hends, htrails, hstop, hfinish⟩ := h.reads
  obtain ⟨before, rfl, rfl, hlast⟩ := Line.exists_of_place_eq_concat hlines.symm
  have hcut : Line.place offset before ++ [last.cut kept .none] =
      Line.place offset (before ++ [(kept, .none)]) := by
    rw [Line.place_append, ← hlast]
    rfl
  refine ⟨before, kept, dropped, ?_, htext, hends, htrails, ?_, hcut, fun total => ?_⟩
  · rw [htext]
  · rw [hstop, hlast]
  · obtain ⟨next, hstep, hfinish⟩ := bind_eq_ok_iff.mp (hfinish .none total)
    refine bind_eq_ok_iff.mpr ⟨next, ?_, hfinish⟩
    rw [← hcut, List.foldlM_append, hread]
    exact foldlM_cons_of_ok hstep []

theorem Construct.exists_indent (h : Construct init last e) (htext : last.text = kept ++ dropped)
    (hkept : Ends kept) (hcut : init ++ [last.cut kept .none] = Line.place offset ls) :
    ∃ indent text ending more, ls = (indent ++ text, ending) :: more ∧
      (∀ c ∈ indent, isInline c = true) ∧ Starts text ∧
        e.span.start = offset + width indent := by
  obtain ⟨first, rest, hfirst, hstarts, hstart⟩ : ∃ first rest,
      init ++ [last.cut kept .none] = first :: rest ∧ Starts (skipInline first.text) ∧
        e.span.start = first.offsetOf (skipInline first.text) := by
    obtain ⟨first, rest, hfirst, hstarts, hstart⟩ := h.begins
    cases init with
    | cons first init =>
      cases hfirst
      exact ⟨first, _, rfl, hstarts, hstart⟩
    | nil =>
      cases hfirst
      have hskip := skipInline_append_of_ne_nil hkept.skipInline_ne_nil dropped
      rw [htext, hskip] at hstarts hstart
      refine ⟨_, [], rfl, hstarts.of_append hkept.skipInline_ne_nil, ?_⟩
      rw [hstart, ← Line.offsetOf_cut htext .none (width_skipInline_le kept)]
      rfl
  rw [hfirst] at hcut
  obtain _ | ⟨⟨opening, ending⟩, more⟩ := ls
  · cases hcut
  obtain ⟨rfl, -⟩ := List.cons.inj hcut
  obtain ⟨indent, hopening, hindent⟩ := exists_skipInline opening
  dsimp only at hstarts hstart
  generalize skipInline opening = text at hopening hstarts hstart
  subst hopening
  refine ⟨indent, text, ending, more, rfl, hindent, hstarts, ?_⟩
  rw [hstart, Line.offsetOf, width_append, Nat.add_sub_cancel]

theorem Construct.exists_slice (h : Construct init last e)
    (hlines : init ++ [last] = Line.place offset ls) (hdivided : Line.Divided (ls ++ after)) :
    ∃ indent text trail, Line.textOf ls = indent ++ (text ++ (trail ++ last.ending.chars)) ∧
      trail <:+ last.text ∧ Slice offset e indent text trail := by
  obtain ⟨before, kept, dropped, rfl, htext, hends, htrails, hstop, hcut, hreads⟩ :=
    h.exists_cut hlines
  obtain ⟨indent, text, ending, more, hls, hindent, hstarts, hstart⟩ :=
    h.exists_indent htext hends hcut
  rw [List.append_assoc] at hdivided
  have hdivided := hdivided.cut
  rw [hls] at hreads hdivided
  have hread := hreads.unindented hindent hstarts
  have hslice : Line.textOf before ++ kept = indent ++ Line.textOf ((text, ending) :: more) := by
    simpa using congrArg Line.textOf hls
  have hwidth := congrArg width hslice
  rw [width_append, width_append] at hwidth
  have hstarts : Starts (Line.textOf ((text, ending) :: more)) := by
    rw [Line.textOf_cons, List.append_assoc]
    exact hstarts.append _
  refine ⟨indent, Line.textOf ((text, ending) :: more), dropped, ?_, htext ▸ List.suffix_append _ _,
    hindent, hstarts, ?_, htrails, ?_, ?_⟩
  · rw [Line.textOf_append, ← List.append_assoc indent, ← hslice]
    simp
  · exact (hslice ▸ hends.append (Line.textOf before)).of_append hstarts.ne_nil
  · rw [Nat.add_assoc, ← hwidth, ← Nat.add_assoc, ← hstop, ← hstart]
  · rw [hstart]
    exact hread.exists_shift hdivided.drop_text

theorem Construct.exists_slice_of_split {s : List Char} {passed later : List Line}
    (h : Construct init last e) (hlines : Line.split s = passed ++ (init ++ [last] ++ later)) :
    ∃ before indent text trail more, s = before ++ indent ++ (text ++ more) ∧
      Slice (width before) e indent text trail := by
  obtain ⟨ls₁, ls, hls, rfl, hrest⟩ := Line.exists_of_place_eq_append hlines
  obtain ⟨ls₂, ls₃, rfl, hblock, -⟩ := Line.exists_of_place_eq_append hrest.symm
  have hne : ls₂ ++ ls₃ ≠ [] := by
    intro hnil
    rw [hnil] at hrest
    simp [Line.place] at hrest
  have hdivided := (hls ▸ Line.divided_divide s).of_append hne
  obtain ⟨indent, text, trail, htext, -, hslice⟩ := h.exists_slice hblock hdivided
  rw [Nat.zero_add] at hslice
  refine ⟨Line.textOf ls₁, indent, text, trail, trail ++ last.ending.chars ++ Line.textOf ls₃, ?_,
    hslice⟩
  rw [← Line.textOf_divide s, hls, Line.textOf_append, Line.textOf_append, htext]
  simp

end

end Grammar

end RequestBook
