import RequestBook.Proofs.Source.LineEnds

/-!
Answers to line questions recounted from the text for each question alone. Main statement: the lines
of the text give the same answers.
-/

namespace RequestBook

open RequestBook.Text

namespace Recount

/-- One more than the line ends at or before an offset; an offset past the end counts as the end. -/
def lineOf (s : List Char) (offset : Nat) : Nat :=
  1 + (lineEnds 0 s).countP fun e => decide (e ≤ min offset (width s))

def lineRange (s : List Char) (span : Span) : Nat × Nat :=
  (lineOf s span.start,
    if span.start < span.stop then lineOf s (span.stop - 1) else lineOf s span.start)

def lineStart (s : List Char) (offset : Nat) : Nat :=
  ((lineEnds 0 s).filter fun e => decide (e ≤ offset)).getLastD 0

def passed (s : List Char) (offset : Nat) : List Char :=
  s.take (Lines.charsWithin offset s)

/-- The line of the boundary at or before an offset, and one more than the characters between the
start of that line and the boundary. -/
def position (s : List Char) (offset : Nat) : Position :=
  let before := passed s (min offset (width s))
  ⟨lineOf s (width before),
    1 + (before.length - (passed s (lineStart s (width before))).length)⟩

def text? (s : List Char) (number : Nat) : Option (List Char) :=
  if number = 0 then none else (Line.divide s)[number - 1]?.map Prod.fst

def answer (s : List Char) : LineQuery → LineAnswer
  | .lineOf offset => .line (lineOf s offset)
  | .lineRange span => .range (lineRange s span).1 (lineRange s span).2
  | .position offset => .position (position s offset)
  | .text number => .text (text? s number)

theorem lineOf_mono (s : List Char) {a b : Nat} (h : a ≤ b) : lineOf s a ≤ lineOf s b := by
  apply Nat.add_le_add_left
  apply List.countP_mono_left
  intro e _ he
  simp only [decide_eq_true_eq] at he ⊢
  omega

theorem lineRange_fst_le_snd (s : List Char) (span : Span) :
    (lineRange s span).1 ≤ (lineRange s span).2 := by
  rw [lineRange]
  split
  · apply lineOf_mono
    omega
  · exact Nat.le_refl _

theorem lineOf_eq_length_startsUpTo (s : List Char) (offset : Nat) :
    lineOf s offset = (startsUpTo s (min offset (width s))).length := by
  rw [startsUpTo_eq_cons, List.length_cons, ← List.countP_eq_length_filter, lineOf, Nat.add_comm]

theorem getLast?_startsUpTo (s : List Char) (offset : Nat) :
    (startsUpTo s offset).getLast? = some (lineStart s offset) := by
  rw [startsUpTo_eq_cons, List.getLast?_cons, lineStart, List.getLastD_eq_getLast?]

theorem passed_cons (c : Char) (s : List Char) (offset : Nat) :
    passed (c :: s) offset =
      if c.utf8Size ≤ offset then c :: passed s (offset - c.utf8Size) else [] := by
  simp only [passed, Lines.charsWithin]
  split
  · rw [Nat.add_comm, List.take_succ_cons]
  · rfl

@[simp] theorem passed_zero (s : List Char) : passed s 0 = [] := by
  cases s with
  | nil => rfl
  | cons c s => rw [passed_cons, if_neg (Nat.not_le.mpr c.utf8Size_pos)]

theorem width_passed_le (s : List Char) (offset : Nat) : width (passed s offset) ≤ offset := by
  induction s generalizing offset with
  | nil => exact Nat.zero_le _
  | cons c s ih =>
    rw [passed_cons]
    split
    · have := ih (offset - c.utf8Size)
      rw [width_cons]
      omega
    · exact Nat.zero_le _

theorem passed_append {before : List Char} {offset : Nat} (h : width before ≤ offset)
    (after : List Char) :
    passed (before ++ after) offset = before ++ passed after (offset - width before) := by
  induction before generalizing offset with
  | nil => rfl
  | cons c before ih =>
    rw [width_cons] at h
    rw [List.cons_append, passed_cons, if_pos (by omega), ih (by omega), width_cons,
      Nat.sub_add_eq, List.cons_append]

theorem passed_width_append (before after : List Char) :
    passed (before ++ after) (width before) = before := by
  rw [passed_append (Nat.le_refl _), Nat.sub_self, passed_zero, List.append_nil]

theorem passed_of_width_le {s : List Char} {offset : Nat} (h : width s ≤ offset) :
    passed s offset = s := by
  have hnil : passed [] (offset - width s) = [] := List.take_nil
  rw [← List.append_nil s, passed_append h, hnil]

theorem exists_append_passed (s : List Char) (offset : Nat) :
    ∃ after, s = passed s offset ++ after :=
  ⟨_, (List.take_append_drop _ s).symm⟩

theorem isBoundary_width_passed (s : List Char) (offset : Nat) :
    isBoundary (width (passed s offset)) s = true := by
  obtain ⟨after, h⟩ := exists_append_passed s offset
  exact isBoundary_iff.mpr ⟨_, after, h, rfl⟩

theorem le_width_passed {s : List Char} {m offset : Nat} (hm : isBoundary m s = true)
    (h : m ≤ offset) : m ≤ width (passed s offset) := by
  obtain ⟨before, after, rfl, rfl⟩ := isBoundary_iff.mp hm
  rw [passed_append h, width_append]
  exact Nat.le_add_right _ _

theorem floorBoundary_eq_width_passed (s : List Char) (offset : Nat) :
    floorBoundary s offset = width (passed s offset) := by
  apply Nat.le_antisymm
  · exact le_width_passed (isBoundary_floorBoundary s offset) (floorBoundary_le s offset)
  · exact le_floorBoundary (isBoundary_width_passed s offset) (width_passed_le s offset)

theorem slice?_passed {s : List Char} {start offset : Nat} (hstart : isBoundary start s = true)
    (h : start ≤ offset) :
    ∃ middle, slice? start (width (passed s offset)) s = some middle ∧
      middle.length = (passed s offset).length - (passed s start).length := by
  obtain ⟨before, after, rfl, rfl⟩ := isBoundary_iff.mp hstart
  obtain ⟨rest, hrest⟩ := exists_append_passed after (offset - width before)
  refine ⟨passed after (offset - width before), ?_, ?_⟩
  · have hslice := slice?_append before (passed after (offset - width before)) rest
    rw [← hrest] at hslice
    rw [passed_append h, width_append, hslice]
  · rw [passed_append h, passed_width_append, List.length_append, Nat.add_sub_cancel_left]

theorem lineStart_mem (s : List Char) (offset : Nat) : lineStart s offset ∈ startsUpTo s offset :=
  List.mem_of_getLast? (getLast?_startsUpTo s offset)

theorem lineStart_le (s : List Char) (offset : Nat) : lineStart s offset ≤ offset :=
  of_decide_eq_true (List.mem_filter.mp (lineStart_mem s offset)).2

theorem isBoundary_lineStart (s : List Char) (offset : Nat) :
    isBoundary (lineStart s offset) s = true :=
  isBoundary_of_mem_lineStarts (List.mem_filter.mp (lineStart_mem s offset)).1

theorem text?_succ (s : List Char) (index : Nat) :
    text? s (index + 1) = (Line.split s)[index]?.map Line.text := by
  rw [text?, if_neg (Nat.succ_ne_zero index), Nat.add_sub_cancel, ← List.getElem?_map,
    ← Line.map_text_place 0, List.getElem?_map]
  rfl

theorem passed_append_of_lt {before : List Char} {offset : Nat} (h : offset < width before)
    (after : List Char) : passed (before ++ after) offset = passed before offset := by
  induction before generalizing offset with
  | nil => cases h
  | cons c before ih =>
    rw [width_cons] at h
    rw [List.cons_append, passed_cons, passed_cons]
    split
    · rw [ih (by omega)]
    · rfl

theorem length_passed (s : List Char) (offset : Nat) :
    (passed s offset).length = Lines.charsWithin offset s := by
  induction s generalizing offset with
  | nil => rfl
  | cons c s ih =>
    rw [passed_cons, Lines.charsWithin]
    split
    · rw [List.length_cons, ih, Nat.add_comm]
    · rfl

theorem passed_min_width (s : List Char) (offset : Nat) :
    passed s (min offset (width s)) = passed s offset := by
  rcases Nat.le_total offset (width s) with h | h
  · rw [Nat.min_eq_left h]
  · rw [Nat.min_eq_right h, passed_of_width_le (Nat.le_refl _), passed_of_width_le h]

theorem startsUpTo_width_passed (s : List Char) (offset : Nat) :
    startsUpTo s (width (passed s offset)) = startsUpTo s offset := by
  apply List.filter_congr
  intro start hstart
  have hb := isBoundary_of_mem_lineStarts hstart
  rw [decide_eq_decide]
  constructor
  · intro h
    exact Nat.le_trans h (width_passed_le s offset)
  · intro h
    exact le_width_passed hb h

theorem startsUpTo_min_width (s : List Char) (offset : Nat) :
    startsUpTo s (min offset (width s)) = startsUpTo s offset := by
  apply List.filter_congr
  intro start hstart
  obtain ⟨before, after, hs, rfl⟩ := isBoundary_iff.mp (isBoundary_of_mem_lineStarts hstart)
  have hle : width before ≤ width s := by
    rw [hs, width_append]
    exact Nat.le_add_right _ _
  rw [decide_eq_decide]
  omega

theorem lineOf_split (s : List Char) (offset : Nat) :
    Lines.lineOf (Line.split s) offset = lineOf s offset := by
  rw [lineOf_eq_length_startsUpTo, startsUpTo_min_width, startsUpTo, ← List.countP_eq_length_filter,
    ← Line.map_start_split, List.countP_map]
  rfl

theorem lineRange_split (s : List Char) (span : Span) :
    Lines.lineRange (Line.split s) span = lineRange s span := by
  rw [Lines.lineRange, lineRange, lineOf_split, lineOf_split]
  split <;> rfl

theorem lineStart_width_passed (s : List Char) (offset : Nat) :
    lineStart s (width (passed s offset)) = lineStart s offset := by
  apply Option.some.inj
  rw [← getLast?_startsUpTo, ← getLast?_startsUpTo, startsUpTo_width_passed]

theorem exists_line_split (s : List Char) (offset : Nat) :
    ∃ index line, lineOf s offset = index + 1 ∧ (Line.split s)[index]? = some line ∧
      line.start = lineStart s offset ∧
      ∀ next, (Line.split s)[index + 1]? = some next → offset < next.start := by
  have hlength : lineOf s offset = (startsUpTo s offset).length := by
    rw [lineOf_eq_length_startsUpTo, startsUpTo_min_width]
  obtain ⟨index, hindex⟩ : ∃ index, (startsUpTo s offset).length = index + 1 := by
    rw [startsUpTo_eq_cons]
    exact ⟨_, rfl⟩
  have hstarts := filter_le_append_filter_lt (pairwise_lineStarts s) offset
  rw [← Line.map_start_split] at hstarts
  have hlast : ((Line.split s).map Line.start)[index]? = some (lineStart s offset) := by
    rw [← hstarts, Line.map_start_split]
    change (startsUpTo s offset ++ _)[index]? = _
    rw [List.getElem?_append_left (by omega), ← getLast?_startsUpTo, List.getLast?_eq_getElem?,
      hindex, Nat.add_sub_cancel]
  rw [List.getElem?_map] at hlast
  obtain ⟨line, hline, hstart⟩ := Option.map_eq_some_iff.mp hlast
  refine ⟨index, line, hlength.trans hindex, hline, hstart, ?_⟩
  intro next hnext
  have hmem : ((Line.split s).map Line.start)[index + 1]? = some next.start := by
    rw [List.getElem?_map, hnext]
    rfl
  rw [← hstarts, Line.map_start_split] at hmem
  change (startsUpTo s offset ++ _)[index + 1]? = _ at hmem
  rw [List.getElem?_append_right (by omega)] at hmem
  exact of_decide_eq_true (List.mem_filter.mp (List.mem_of_getElem? hmem)).2

theorem passed_start_of_split {s : List Char} {before after : List Line} {line : Line}
    (h : Line.split s = before ++ line :: after) :
    passed s line.start = before.flatMap Line.contents := by
  rw [Line.start_of_split h, ← Line.append_of_split h, passed_width_append]

theorem passed_of_split {s : List Char} {before after : List Line} {line : Line} {offset : Nat}
    (h : Line.split s = before ++ line :: after) (hle : line.start ≤ offset)
    (hnext : ∀ next, after.head? = some next → offset < next.start) :
    passed s offset = before.flatMap Line.contents ++
      passed line.contents (offset - line.start) := by
  have hstop := Line.stop_of_split h
  rw [Line.start_of_split h] at hle ⊢
  conv =>
    lhs
    rw [← Line.append_of_split h]
  rw [passed_append hle]
  congr 1
  cases after with
  | nil => rw [List.flatMap_nil, List.append_nil]
  | cons next rest =>
    have hlt := hnext next rfl
    change next.start = _ at hstop
    apply passed_append_of_lt
    omega

theorem position_split (s : List Char) (offset : Nat) :
    Lines.position (Line.split s) offset = position s offset := by
  obtain ⟨index, line, hnumber, hline, hstart, hnext⟩ := exists_line_split s offset
  have hsplit := Line.split_eq_append hline
  have hle : line.start ≤ offset := by
    rw [hstart]
    exact lineStart_le s offset
  have hlines : lineOf s (width (passed s offset)) = index + 1 := by
    rw [← hnumber, lineOf_eq_length_startsUpTo, lineOf_eq_length_startsUpTo, startsUpTo_min_width,
      startsUpTo_min_width, startsUpTo_width_passed]
  rw [← List.head?_drop] at hnext
  rw [Lines.position, position, passed_min_width, lineOf_split, hlines, hnumber,
    Nat.add_sub_cancel, hline, lineStart_width_passed, ← hstart, passed_start_of_split hsplit,
    passed_of_split hsplit hle hnext, List.length_append, Nat.add_sub_cancel_left, length_passed]

theorem text?_split (s : List Char) (number : Nat) :
    Lines.text? (Line.split s) number = text? s number := by
  cases number with
  | zero => rfl
  | succ index =>
    rw [text?_succ]
    rfl

theorem answer_split (s : List Char) (query : LineQuery) :
    Lines.answer (Line.split s) query = answer s query := by
  cases query with
  | lineOf offset => rw [Lines.answer, answer, lineOf_split]
  | lineRange span => rw [Lines.answer, answer, lineRange_split]
  | position offset => rw [Lines.answer, answer, position_split]
  | text number => rw [Lines.answer, answer, text?_split]

end Recount

end RequestBook
