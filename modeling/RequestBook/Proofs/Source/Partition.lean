import RequestBook.Proofs.Source.Divided
import RequestBook.Proofs.Source.LineCache

namespace RequestBook

open RequestBook.Text

def Position.Before (p q : Position) : Prop :=
  p.line < q.line ∨ p.line = q.line ∧ p.column < q.column

theorem Position.Before.ne {p q : Position} (h : p.Before q) : p ≠ q := by
  rintro rfl
  rcases h with hline | ⟨-, hcolumn⟩
  · exact Nat.lt_irrefl _ hline
  · exact Nat.lt_irrefl _ hcolumn

namespace Line

def startIn (ls : List (List Char × LineBreak)) (number : Nat) : Nat :=
  width (textOf (ls.take (number - 1)))

end Line

/-- The answers that the lines give about a text agree with its parts, which are texts of lines with
their ends. -/
structure Partitions (ls : List (List Char × LineBreak)) (lines : Lines) (s : List Char) : Prop where
  divided : Line.Divided ls
  whole : Line.textOf ls = s
  text?_eq : ∀ number,
    lines.text? number = if number = 0 then none else ls[number - 1]?.map Prod.fst
  isSome_text?_iff : ∀ number,
    (lines.text? number).isSome = true ↔ 1 ≤ number ∧ number ≤ lines.lineOf (width s)
  no_break : ∀ number text, lines.text? number = some text → '\n' ∉ text ∧ '\r' ∉ text
  lineOf_eq_iff : ∀ offset number, lines.lineOf offset = number ↔
    1 ≤ number ∧ number ≤ lines.lineOf (width s) ∧ Line.startIn ls number ≤ offset ∧
      (number < lines.lineOf (width s) → offset < Line.startIn ls (number + 1))
  reached : ∀ offset, isBoundary offset s = true → ∃ skipped rest,
    Line.textOf (ls.drop ((lines.position offset).line - 1)) = skipped ++ rest ∧
      (lines.position offset).column = skipped.length + 1 ∧
      Line.startIn ls (lines.position offset).line + width skipped = offset
  before_iff : ∀ a b, isBoundary a s = true → isBoundary b s = true →
    ((lines.position a).Before (lines.position b) ↔ a < b)
  injective : ∀ a b, isBoundary a s = true → isBoundary b s = true →
    lines.position a = lines.position b → a = b

theorem Text.length_lt_iff_width_lt {x x' y y' : List Char} (h : x ++ x' = y ++ y') :
    x.length < y.length ↔ width x < width y := by
  have hzero (more : List Char) : more.length = 0 ↔ width more = 0 := by
    rw [List.length_eq_zero_iff, width_eq_zero_iff]
  rcases List.append_eq_append_iff.mp h with ⟨more, rfl, -⟩ | ⟨more, rfl, -⟩
  · have := hzero more
    rw [List.length_append, width_append]
    omega
  · rw [List.length_append, width_append]
    omega

namespace Line

variable {s : List Char}

theorem startIn_mono (ls : List (List Char × LineBreak)) {a b : Nat} (h : a ≤ b) :
    startIn ls a ≤ startIn ls b := by
  have htake := List.take_append_drop (a - 1) (ls.take (b - 1))
  rw [List.take_take, Nat.min_eq_left (Nat.sub_le_sub_right h 1)] at htake
  rw [startIn, startIn, ← htake, textOf_append, width_append]
  exact Nat.le_add_right _ _

theorem flatMap_contents_take (s : List Char) (index : Nat) :
    ((split s).take index).flatMap contents = textOf ((divide s).take index) := by
  rw [split, take_place, flatMap_contents_place, textOf]

theorem flatMap_contents_drop (s : List Char) (index : Nat) :
    ((split s).drop index).flatMap contents = textOf ((divide s).drop index) := by
  apply @List.append_cancel_left _ (textOf ((divide s).take index))
  rw [← textOf_append, List.take_append_drop, textOf_divide, ← flatMap_contents_take,
    ← List.flatMap_append, List.take_append_drop, flatMap_contents_split]

theorem start_eq_startIn {index : Nat} {line : Line} (h : (split s)[index]? = some line) :
    line.start = startIn (divide s) (index + 1) := by
  rw [start_of_split (split_eq_append h), flatMap_contents_take]
  rfl

theorem text?_split_eq (s : List Char) (number : Nat) : Lines.text? (split s) number =
    if number = 0 then none else (divide s)[number - 1]?.map Prod.fst :=
  Recount.text?_split s number

theorem isSome_text?_split_iff (s : List Char) (number : Nat) :
    (Lines.text? (split s) number).isSome = true ↔ 1 ≤ number ∧ number ≤ (split s).length := by
  cases number with
  | zero => simp [Lines.text?]
  | succ index =>
    have hsome : (Lines.text? (split s) (index + 1)).isSome = ((split s)[index]?).isSome :=
      Option.isSome_map
    rw [hsome, isSome_getElem?]
    omega

theorem no_break_of_text? {number : Nat} {text : List Char}
    (h : Lines.text? (split s) number = some text) : '\n' ∉ text ∧ '\r' ∉ text := by
  rw [Lines.text?] at h
  split at h
  · cases h
  · obtain ⟨line, hline, rfl⟩ := Option.map_eq_some_iff.mp h
    have hends := isLineEnd_of_mem_split (List.mem_of_getElem? hline)
    exact ⟨fun hlf => absurd (hends _ hlf) (by decide), fun hcr => absurd (hends _ hcr) (by decide)⟩

theorem lineOf_split_bounds (s : List Char) (offset : Nat) :
    Lines.lineOf (split s) offset ≤ (split s).length ∧
      startIn (divide s) (Lines.lineOf (split s) offset) ≤ offset ∧
      (Lines.lineOf (split s) offset < (split s).length →
        offset < startIn (divide s) (Lines.lineOf (split s) offset + 1)) := by
  obtain ⟨index, line, hnumber, hline, hstart, hnext⟩ := Recount.exists_line_split s offset
  obtain ⟨hlt, -⟩ := List.getElem?_eq_some_iff.mp hline
  rw [Recount.lineOf_split, hnumber, ← start_eq_startIn hline, hstart]
  refine ⟨hlt, Recount.lineStart_le s offset, fun hmore => ?_⟩
  have hget := List.getElem?_eq_getElem hmore
  rw [← start_eq_startIn hget]
  exact hnext _ hget

theorem lineOf_split_eq_iff (s : List Char) (offset number : Nat) :
    Lines.lineOf (split s) offset = number ↔ 1 ≤ number ∧ number ≤ (split s).length ∧
      startIn (divide s) number ≤ offset ∧
      (number < (split s).length → offset < startIn (divide s) (number + 1)) := by
  obtain ⟨hle, hstart, hnext⟩ := lineOf_split_bounds s offset
  constructor
  · rintro rfl
    exact ⟨lineOf_split_pos s offset, hle, hstart, hnext⟩
  · rintro ⟨-, hle', hstart', hnext'⟩
    rcases Nat.lt_trichotomy (Lines.lineOf (split s) offset) number with hlt | heq | hlt
    · have hmono := startIn_mono (divide s) (Nat.succ_le_of_lt hlt)
      exact absurd (hnext (Nat.lt_of_lt_of_le hlt hle')) (Nat.not_lt.mpr (Nat.le_trans hmono hstart'))
    · exact heq
    · have hmono := startIn_mono (divide s) (Nat.succ_le_of_lt hlt)
      exact absurd (hnext' (Nat.lt_of_lt_of_le hlt hle)) (Nat.not_lt.mpr (Nat.le_trans hmono hstart))

theorem exists_skipped {offset : Nat} (h : isBoundary offset s = true) : ∃ skipped rest,
    textOf ((divide s).drop (Lines.lineOf (split s) offset - 1)) = skipped ++ rest ∧
      (Lines.position (split s) offset).column = skipped.length + 1 ∧
      startIn (divide s) (Lines.lineOf (split s) offset) + width skipped = offset := by
  obtain ⟨index, line, hnumber, hline, hstart, hnext⟩ := Recount.exists_line_split s offset
  obtain ⟨hlt, hget⟩ := List.getElem?_eq_some_iff.mp hline
  have hsplit := split_eq_append hline
  have hle : line.start ≤ offset := hstart ▸ Recount.lineStart_le s offset
  have hpassed := Recount.passed_of_split hsplit hle (by rwa [List.head?_drop])
  have hwhole : width (Recount.passed s offset) = offset := by
    obtain ⟨before, after, rfl, rfl⟩ := isBoundary_iff.mp h
    rw [Recount.passed_width_append]
  obtain ⟨rest, hrest⟩ := Recount.exists_append_passed line.contents (offset - line.start)
  refine ⟨Recount.passed line.contents (offset - line.start),
    rest ++ ((split s).drop (index + 1)).flatMap contents, ?_, ?_, ?_⟩
  · rw [Recount.lineOf_split, hnumber, Nat.add_sub_cancel, ← flatMap_contents_drop,
      ← List.append_assoc, ← hrest, ← List.flatMap_cons, List.drop_eq_getElem_cons hlt, hget]
  · rw [Lines.position, Recount.lineOf_split, hnumber, Nat.add_sub_cancel, hline,
      Recount.length_passed]
    exact Nat.add_comm _ _
  · rw [Recount.lineOf_split, hnumber, startIn, Nat.add_sub_cancel, ← flatMap_contents_take,
      ← width_append, ← hpassed, hwhole]

theorem column_lt_iff {a b : Nat} (ha : isBoundary a s = true) (hb : isBoundary b s = true)
    (hline : Lines.lineOf (split s) a = Lines.lineOf (split s) b) :
    (Lines.position (split s) a).column < (Lines.position (split s) b).column ↔ a < b := by
  obtain ⟨x, x', hx, hcolumn, hwidth⟩ := exists_skipped ha
  obtain ⟨y, y', hy, hcolumn', hwidth'⟩ := exists_skipped hb
  rw [hline, hy] at hx
  rw [hline] at hwidth
  have hlengths : x.length < y.length ↔ width x < width y := length_lt_iff_width_lt hx.symm
  omega

theorem before_position_iff {a b : Nat} (ha : isBoundary a s = true) (hb : isBoundary b s = true) :
    (Lines.position (split s) a).Before (Lines.position (split s) b) ↔ a < b := by
  rw [Position.Before, line_position, line_position]
  constructor
  · rintro (hlt | ⟨heq, hlt⟩)
    · exact Nat.lt_of_not_le fun hle => absurd (Lines.lineOf_mono (split s) hle) (Nat.not_le.mpr hlt)
    · exact (column_lt_iff ha hb heq).mp hlt
  · intro hlt
    rcases Nat.lt_or_eq_of_le (Lines.lineOf_mono (split s) (Nat.le_of_lt hlt)) with hline | hline
    · exact .inl hline
    · exact .inr ⟨hline, (column_lt_iff ha hb hline).mpr hlt⟩

theorem position_injective {a b : Nat} (ha : isBoundary a s = true) (hb : isBoundary b s = true)
    (h : Lines.position (split s) a = Lines.position (split s) b) : a = b := by
  rcases Nat.lt_trichotomy a b with hlt | heq | hlt
  · exact absurd h ((before_position_iff ha hb).mpr hlt).ne
  · exact heq
  · exact absurd h.symm ((before_position_iff hb ha).mpr hlt).ne

theorem partitions_split (s : List Char) : Partitions (divide s) (split s) s where
  divided := divided_divide s
  whole := textOf_divide s
  text?_eq := text?_split_eq s
  isSome_text?_iff := fun number => by rw [lineOf_split_width, isSome_text?_split_iff]
  no_break := fun _ _ => no_break_of_text?
  lineOf_eq_iff := fun offset number => by rw [lineOf_split_width, lineOf_split_eq_iff]
  reached := fun offset h => by
    rw [line_position]
    exact exists_skipped h
  before_iff := fun _ _ => before_position_iff
  injective := fun _ _ => position_injective

end Line

/-- The cache answers any questions about a text, one after the other, from lines that partition it. -/
theorem LineCache.partitions_ofText (source : List Char) :
    Partitions (Line.divide source) (Line.split source) source ∧ ∀ queries,
      (ofText source).askAll? queries = some (queries.map (Lines.answer (Line.split source))) := by
  refine ⟨Line.partitions_split source, fun queries => ?_⟩
  rw [(sound_ofText source).askAll? queries]
  congr 1
  exact List.map_congr_left fun query _ => (Recount.answer_split source query).symm

example : Lines.position (Line.split "a\r\r\né".toList) 6 = ⟨3, 2⟩ := by
  decide

end RequestBook
