import RequestBook.Proofs.Source.Divided
import RequestBook.Proofs.Source.Recount

namespace RequestBook

open RequestBook.Text

def LineBreak.reend (ending : LineBreak) : LineBreak → LineBreak
  | .none => .none
  | .lf | .cr | .crlf => ending

def Text.reend (ending : LineBreak) (s : List Char) : List Char :=
  s.flatMap fun c => if c = '\n' then ending.chars else [c]

namespace Text

variable {ending : LineBreak} {s t : List Char}

theorem reend_append : reend ending (s ++ t) = reend ending s ++ reend ending t :=
  List.flatMap_append

theorem reend_of_oneLine (ending : LineBreak) (h : ∀ c ∈ s, isLineEnd c = false) :
    reend ending s = s := by
  induction s with
  | nil => rfl
  | cons c s ih =>
    have hc : c ≠ '\n' := by
      rintro rfl
      exact absurd (h '\n' List.mem_cons_self) (by decide)
    rw [reend, List.flatMap_cons, if_neg hc]
    exact congrArg (c :: ·) (ih fun d hd => h d (List.mem_cons_of_mem _ hd))

theorem reend_chars {e : LineBreak} (h : '\r' ∉ e.chars) :
    reend ending e.chars = (ending.reend e).chars := by
  cases e with
  | none => rfl
  | lf => exact List.append_nil _
  | cr | crlf => exact absurd List.mem_cons_self h

end Text

namespace Lines

theorem lineOf_map {φ : Nat → Nat} {f : Line → Line} {lines : Lines}
    (hφ : ∀ a b, φ a ≤ φ b ↔ a ≤ b) (hf : ∀ line ∈ lines, (f line).start = φ line.start)
    (offset : Nat) : lineOf (lines.map f) (φ offset) = lineOf lines offset := by
  rw [lineOf, lineOf, List.countP_map]
  apply List.countP_congr
  intro line hline
  simp only [Function.comp, hf line hline, hφ]

theorem lineRange_map {φ : Nat → Nat} {f : Line → Line} {lines : Lines}
    (hφ : ∀ a b, φ a ≤ φ b ↔ a ≤ b) (hf : ∀ line ∈ lines, (f line).start = φ line.start)
    (span : Span) : lineRange (lines.map f) ⟨φ span.start, φ span.stop⟩ = lineRange lines span := by
  have hlt {a b : Nat} : φ a < φ b ↔ a < b := by
    rw [← Nat.not_le, ← Nat.not_le, hφ]
  simp only [lineRange, lineOf_map hφ hf, hlt, Prod.mk.injEq, true_and]
  split
  · rename_i hspan
    -- the byte before the end may lie in a line end, which need not move as one piece
    rw [lineOf, lineOf, List.countP_map]
    apply List.countP_congr
    intro line hline
    have hstop := hlt (a := line.start) (b := span.stop)
    have hpos := hlt.mpr hspan
    simp only [Function.comp, hf line hline, decide_eq_true_eq]
    omega
  · exact lineOf_map hφ hf span.start

/-- Where an offset goes when every line end before it is replaced by `ending`. -/
def spread (lines : Lines) (ending : LineBreak) (offset : Nat) : Nat :=
  offset + (lines.lineOf offset - 1) * (width ending.chars - 1)

theorem spread_le_iff (lines : Lines) (ending : LineBreak) (a b : Nat) :
    lines.spread ending a ≤ lines.spread ending b ↔ a ≤ b := by
  have hmono {a b : Nat} (h : a ≤ b) :
      (lines.lineOf a - 1) * (width ending.chars - 1) ≤
        (lines.lineOf b - 1) * (width ending.chars - 1) :=
    Nat.mul_le_mul_right _ (Nat.sub_le_sub_right (lineOf_mono lines h) 1)
  rw [spread, spread]
  rcases Nat.lt_or_ge b a with h | h
  · have := hmono (Nat.le_of_lt h)
    omega
  · have := hmono h
    omega

theorem spread_of_lineOf {lines : Lines} {ending : LineBreak} {a b : Nat}
    (h : lines.lineOf b = lines.lineOf a) (hle : a ≤ b) :
    lines.spread ending b = lines.spread ending a + (b - a) := by
  rw [spread, spread, h]
  omega

end Lines

namespace Line

def reend (lines : Lines) (ending : LineBreak) (line : Line) : Line :=
  ⟨lines.spread ending line.start, line.text, ending.reend line.ending⟩

section Divide

variable {ending : LineBreak} {ls : List (List Char × LineBreak)} {s : List Char}

def reendAll (ending : LineBreak) (ls : List (List Char × LineBreak)) :
    List (List Char × LineBreak) :=
  ls.map fun l => (l.1, ending.reend l.2)

theorem Divided.reend_textOf (h : Divided ls) (hcr : '\r' ∉ textOf ls) (ending : LineBreak) :
    textOf (reendAll ending ls) = Text.reend ending (textOf ls) := by
  induction h with
  | @last text htext =>
    have htext := reend_of_oneLine ending htext
    simpa [reendAll, LineBreak.reend] using htext.symm
  | @cons text e ls htext _ _ _ ih =>
    rw [textOf_cons, List.mem_append, not_or, List.mem_append, not_or] at hcr
    rw [textOf_cons, reend_append, reend_append, reend_of_oneLine ending htext, reend_chars hcr.1.2,
      ← ih hcr.2]
    rfl

theorem Divided.reend (h : Divided ls) (hending : ending ≠ .none) :
    Divided (reendAll ending ls) := by
  induction h with
  | last htext => exact .last htext
  | @cons text e ls htext he _ hls ih =>
    have hne : ending.reend e = ending := by
      cases e with
      | none => exact absurd rfl he
      | lf | cr | crlf => rfl
    refine .cons htext (by rwa [hne]) ?_ ih
    rw [hne]
    rintro rfl hhead
    cases hls with
    | last _ => cases hhead
    | @cons text' e' _ _ he' _ _ =>
      cases e' with
      | none => exact he' rfl
      | lf | cr | crlf => cases hhead

theorem divide_reend (hending : ending ≠ .none) (hcr : '\r' ∉ s) :
    divide (Text.reend ending s) = reendAll ending (divide s) := by
  have hs := divided_divide s
  have htext := hs.reend_textOf (by rwa [textOf_divide]) ending
  rw [textOf_divide] at htext
  rw [← htext, (hs.reend hending).divide_textOf]

end Divide

section Place

variable {ending : LineBreak} {ls : List (List Char × LineBreak)} {first line : Line} {rest : Lines}

theorem spread_first (ending : LineBreak) (h : ∀ line ∈ rest, first.start < line.start) :
    Lines.spread (first :: rest) ending first.start = first.start := by
  have hrest : rest.countP (fun line => decide (line.start ≤ first.start)) = 0 :=
    List.countP_eq_zero.mpr fun line hline => by simpa using h line hline
  rw [Lines.spread, Lines.lineOf, List.countP_cons, hrest]
  simp

theorem spread_later (ending : LineBreak) (hle : first.start ≤ line.start) (hline : line ∈ rest) :
    Lines.spread (first :: rest) ending line.start =
      Lines.spread rest ending line.start + (width ending.chars - 1) := by
  have hpos : 0 < Lines.lineOf rest line.start :=
    List.countP_pos_iff.mpr ⟨line, hline, by simp⟩
  have hcount : Lines.lineOf (first :: rest) line.start =
      Lines.lineOf rest line.start - 1 + 1 + 1 := by
    rw [Nat.sub_add_cancel hpos]
    simp [Lines.lineOf, hle]
  rw [Lines.spread, Lines.spread, hcount, Nat.add_sub_cancel, Nat.add_mul, Nat.one_mul]
  omega

theorem place_reendAll (hending : ending ≠ .none) (h : ls.Pairwise fun l _ => l.2 = .lf)
    (start : Nat) : place start (reendAll ending ls) =
      (place start ls).map (Line.reend (place start ls) ending) := by
  induction ls generalizing start with
  | nil => rfl
  | cons l ls ih =>
    obtain ⟨text, e⟩ := l
    have hne : ((text, e) :: ls).Pairwise fun l _ => l.2 ≠ .none :=
      h.imp fun hlf => by rw [hlf]; exact LineBreak.noConfusion
    have hlater := (List.pairwise_cons.mp (pairwise_stop_place start hne)).1
    rw [List.pairwise_cons] at h
    have hlt {line : Line} (hline : line ∈ place (start + width text + width e.chars) ls) :
        start < line.start :=
      Nat.lt_of_le_of_lt (Nat.le_add_right start (width text)) (hlater line hline)
    have hrest : place (start + width text + width (ending.reend e).chars) (reendAll ending ls) =
        (place (start + width text + width e.chars) ls).map
          (Line.reend (place start ((text, e) :: ls)) ending) := by
      cases ls with
      | nil => rfl
      | cons m ls =>
        obtain rfl : e = .lf := h.1 m List.mem_cons_self
        -- the line end before them is longer, so the later lines are shifted once more
        have hwidth : width (ending.reend .lf).chars = width LineBreak.lf.chars +
            (width ending.chars - 1) := by
          cases ending with
          | none => exact absurd rfl hending
          | lf | cr | crlf => rfl
        rw [hwidth, ← Nat.add_assoc, place_add, ih h.2, List.map_map]
        apply List.map_congr_left
        intro line hline
        have hle : (⟨start, text, .lf⟩ : Line).start ≤ line.start := Nat.le_of_lt (hlt hline)
        have hspread := spread_later ending hle hline
        simp only [Function.comp, Line.reend, Line.shift, place, Line.mk.injEq, and_true] at hspread ⊢
        exact hspread.symm
    have hfirst : Lines.spread (place start ((text, e) :: ls)) ending start = start :=
      spread_first ending fun (line : Line) hline =>
        (hlt hline : (⟨start, text, e⟩ : Line).start < line.start)
    calc place start (reendAll ending ((text, e) :: ls))
      _ = ⟨start, text, ending.reend e⟩ ::
          place (start + width text + width (ending.reend e).chars) (reendAll ending ls) := rfl
      _ = Line.reend (place start ((text, e) :: ls)) ending ⟨start, text, e⟩ ::
          (place (start + width text + width e.chars) ls).map
            (Line.reend (place start ((text, e) :: ls)) ending) := by
        rw [hrest, Line.reend, hfirst]
      _ = _ := rfl

end Place

section Split

variable {ending : LineBreak} {s : List Char}

theorem pairwise_lf_divide (hcr : '\r' ∉ s) : (divide s).Pairwise fun l _ => l.2 = .lf := by
  apply (pairwise_ending_divide s).imp_of_mem
  intro l _ hl _ hne
  have hchars : '\r' ∉ l.2.chars := by
    intro hmem
    apply hcr
    rw [← flatMap_divide s]
    exact List.mem_flatMap.mpr ⟨l, hl, List.mem_append_right _ hmem⟩
  cases hl2 : l.2 with
  | none => exact absurd hl2 hne
  | lf => rfl
  | cr | crlf =>
    rw [hl2] at hchars
    exact absurd List.mem_cons_self hchars

theorem pairwise_lf_split (hcr : '\r' ∉ s) :
    (split s).Pairwise fun line _ => line.ending = .lf := by
  have hpairwise := pairwise_lf_divide hcr
  rw [← map_place 0 (divide s), List.pairwise_map] at hpairwise
  exact hpairwise

theorem split_reend (hending : ending ≠ .none) (hcr : '\r' ∉ s) :
    split (Text.reend ending s) = (split s).map (Line.reend (split s) ending) := by
  rw [split, divide_reend hending hcr]
  exact place_reendAll hending (pairwise_lf_divide hcr) 0

theorem ending_of_split_concat {init : List Line} {last : Line} (h : split s = init ++ [last]) :
    last.ending = .none := by
  obtain ⟨start, text, ending⟩ := last
  obtain ⟨before, hls, -⟩ := exists_of_place_eq_concat h
  have hlast := (hls ▸ divided_divide s).of_append (List.cons_ne_nil _ [])
  cases hlast with
  | last _ => rfl
  | cons _ _ _ hnil => exact absurd rfl hnil.ne_nil

theorem spread_within {line : Line} {n : Nat} (h : line ∈ split s) (hn : n ≤ width line.text) :
    Lines.spread (split s) ending (line.start + n) =
      (line.reend (split s) ending).start + n := by
  obtain ⟨before, after, hsplit⟩ := List.append_of_mem h
  have hstart := lineOf_split_within hsplit (Nat.le_refl _) (Nat.le_add_right _ _)
  rw [← lineOf_split_within hsplit (Nat.le_add_right _ n) (Nat.add_le_add_left hn _)] at hstart
  rw [Lines.spread_of_lineOf hstart.symm (Nat.le_add_right _ _), Nat.add_sub_cancel_left, Line.reend]

theorem width_reend (hending : ending ≠ .none) (hcr : '\r' ∉ s) :
    width (Text.reend ending s) = Lines.spread (split s) ending (width s) := by
  have hne : split s ≠ [] := by
    intro hnil
    have hpos := lineOf_split_pos s 0
    rw [hnil] at hpos
    cases hpos
  have hlines := (List.dropLast_concat_getLast hne).symm
  generalize (split s).dropLast = init at hlines
  generalize (split s).getLast hne = last at hlines
  have hlines' := split_reend hending hcr
  rw [hlines, List.map_append] at hlines'
  -- the texts end with their last lines, which have no line end
  have hstop {t : List Char} {init : List Line} {last : Line} (h : split t = init ++ [last]) :
      width t = last.start + width last.text := by
    have hstop := stop_of_split h
    rw [contents, ending_of_split_concat h, ← start_of_split h] at hstop
    simpa using hstop
  have hmem : last ∈ split s := by
    rw [hlines]
    exact List.mem_append_right init List.mem_cons_self
  rw [hstop hlines', hstop hlines, spread_within hmem (Nat.le_refl _), hlines]
  rfl

theorem charsWithin_append {t : List Char} {n : Nat} (h : n ≤ width s) :
    Lines.charsWithin n (s ++ t) = Lines.charsWithin n s := by
  rw [← Recount.length_passed, ← Recount.length_passed]
  rcases Nat.lt_or_eq_of_le h with h | rfl
  · rw [Recount.passed_append_of_lt h]
  · rw [Recount.passed_width_append, Recount.passed_of_width_le (Nat.le_refl _)]

theorem charsWithin_reend (hcr : '\r' ∉ s) {before after : List Line} {line : Line} {offset : Nat}
    (h : split s = before ++ line :: after) (hle : line.start ≤ offset)
    (hnext : ∀ next, after.head? = some next → offset < next.start) :
    Lines.charsWithin (offset - line.start) (line.reend (split s) ending).contents =
      Lines.charsWithin (offset - line.start) line.contents := by
  cases after with
  | nil =>
    rw [contents, contents, Line.reend, ending_of_split_concat h]
    rfl
  | cons next later =>
    have hpairwise := h ▸ pairwise_lf_split hcr
    have hlf : line.ending = .lf :=
      (List.pairwise_cons.mp (List.pairwise_append.mp hpairwise).2.1).1 next List.mem_cons_self
    have hstop := stop_of_split h
    rw [← start_of_split h, contents, hlf, width_append] at hstop
    change next.start = line.start + (width line.text + 1) at hstop
    have hlt := hnext next rfl
    have hwithin : offset - line.start ≤ width line.text := by omega
    rw [contents, contents, charsWithin_append hwithin]
    exact charsWithin_append hwithin

theorem position_reend (hending : ending ≠ .none) (hcr : '\r' ∉ s) (offset : Nat) :
    Lines.position (split (Text.reend ending s)) (Lines.spread (split s) ending offset) =
      Lines.position (split s) offset := by
  obtain ⟨index, line, hnumber, hline, hstart, hnext⟩ := Recount.exists_line_split s offset
  have hle : line.start ≤ offset := by
    rw [hstart]
    exact Recount.lineStart_le s offset
  have hsplit := split_eq_append hline
  have hlength : ((split s).take index).length = index := by
    have hlt := (List.getElem?_eq_some_iff.mp hline).1
    rw [List.length_take]
    omega
  have hfirst := lineOf_split_within hsplit (Nat.le_refl _) (Nat.le_add_right _ _)
  rw [hlength, ← hnumber, ← Recount.lineOf_split] at hfirst
  have hspread : Lines.spread (split s) ending offset - (line.reend (split s) ending).start =
      offset - line.start := by
    rw [Lines.spread_of_lineOf hfirst.symm hle, Line.reend, Nat.add_sub_cancel_left]
  have hchars : Lines.charsWithin (offset - line.start) (line.reend (split s) ending).contents =
      Lines.charsWithin (offset - line.start) line.contents :=
    charsWithin_reend hcr hsplit hle fun next hhead => hnext next (by rwa [← List.head?_drop])
  have hlines := split_reend hending hcr
  have hnumber' : Lines.lineOf (split (Text.reend ending s))
      (Lines.spread (split s) ending offset) = index + 1 := by
    rw [hlines, Lines.lineOf_map (Lines.spread_le_iff (split s) ending) (fun _ _ => rfl),
      Recount.lineOf_split, hnumber]
  have hline' : (split (Text.reend ending s))[index]? = some (line.reend (split s) ending) := by
    rw [hlines, List.getElem?_map, hline]
    rfl
  rw [Lines.position, Lines.position, hnumber', Recount.lineOf_split, hnumber, Nat.add_sub_cancel,
    hline', hline]
  simp only [hspread, hchars]

end Split

end Line

end RequestBook
