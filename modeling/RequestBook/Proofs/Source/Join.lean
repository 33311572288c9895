import RequestBook.Proofs.Source.LineEnds

namespace RequestBook

open RequestBook.Text

@[simp] theorem utf8Size_lf : '\n'.utf8Size = 1 := rfl

namespace Line

def shift (by' : Nat) (line : Line) : Line :=
  { line with start := line.start + by' }

section

variable (by' : Nat) (line : Line)

@[simp] theorem start_shift : (line.shift by').start = line.start + by' := rfl

@[simp] theorem text_shift : (line.shift by').text = line.text := rfl

@[simp] theorem ending_shift : (line.shift by').ending = line.ending := rfl

@[simp] theorem contents_shift : (line.shift by').contents = line.contents := rfl

@[simp] theorem isBlank_shift : (line.shift by').isBlank = line.isBlank := rfl

@[simp] theorem isComment_shift : (line.shift by').isComment = line.isComment := rfl

@[simp] theorem isIndented_shift : (line.shift by').isIndented = line.isIndented := rfl

@[simp] theorem offsetOf_shift (rest : List Char) :
    (line.shift by').offsetOf rest = line.offsetOf rest + by' :=
  Nat.add_right_comm _ _ _

end

def textOf (ls : List (List Char × LineBreak)) : List Char :=
  ls.flatMap fun l => l.1 ++ l.2.chars

@[simp] theorem textOf_nil : textOf [] = [] := rfl

@[simp] theorem textOf_cons (l : List Char × LineBreak) (ls : List (List Char × LineBreak)) :
    textOf (l :: ls) = l.1 ++ l.2.chars ++ textOf ls := rfl

@[simp] theorem textOf_append (ls ms : List (List Char × LineBreak)) :
    textOf (ls ++ ms) = textOf ls ++ textOf ms :=
  List.flatMap_append

@[simp] theorem textOf_divide (s : List Char) : textOf (divide s) = s :=
  flatMap_divide s

theorem infix_textOf_of_mem {l : List Char × LineBreak} {ls : List (List Char × LineBreak)}
    (h : l ∈ ls) : l.1 <:+: textOf ls := by
  obtain ⟨before, after, rfl⟩ := List.append_of_mem h
  exact ⟨textOf before, l.2.chars ++ textOf after, by simp⟩

theorem place_append (start : Nat) (ls ms : List (List Char × LineBreak)) :
    place start (ls ++ ms) = place start ls ++ place (start + width (textOf ls)) ms := by
  induction ls generalizing start with
  | nil => rfl
  | cons l ls ih =>
    simp only [List.cons_append, place, ih, textOf_cons, width_append, Nat.add_assoc]

theorem place_add (start by' : Nat) (ls : List (List Char × LineBreak)) :
    place (start + by') ls = (place start ls).map (shift by') := by
  induction ls generalizing start with
  | nil => rfl
  | cons l ls ih =>
    rw [place, place, List.map_cons, ← ih]
    congr 2
    omega

theorem place_eq_map_shift (start : Nat) (ls : List (List Char × LineBreak)) :
    place start ls = (place 0 ls).map (shift start) := by
  rw [← place_add, Nat.zero_add]

theorem divide_cr {rest : List Char} (h : ∀ rest', rest ≠ '\n' :: rest') :
    divide ('\r' :: rest) = ([], .cr) :: divide rest := by
  rw [divide]
  exact h

def glue (c : Char) : List (List Char × LineBreak) → List (List Char × LineBreak)
  | (text, ending) :: more => (c :: text, ending) :: more
  | [] => [([c], .none)]

theorem divide_cons {c : Char} {rest : List Char} (h : isLineEnd c = false) :
    divide (c :: rest) = glue c (divide rest) := by
  have hc : c ≠ '\n' ∧ c ≠ '\r' := by simpa [isLineEnd] using h
  rw [divide]
  · rfl
  · rintro r rfl
    exact absurd rfl hc.2
  · exact hc.2
  · exact hc.1

theorem divide_of_oneLine {x : List Char} (h : ∀ c ∈ x, isLineEnd c = false) :
    divide x = [(x, .none)] := by
  induction x with
  | nil => rfl
  | cons c x ih =>
    rw [divide_cons (h c List.mem_cons_self), ih fun d hd => h d (List.mem_cons_of_mem _ hd), glue]

theorem divide_append_lf {x : List Char} (h : ∀ c ∈ x, isLineEnd c = false) (t : List Char) :
    divide (x ++ '\n' :: t) = (x, .lf) :: divide t := by
  induction x with
  | nil => rfl
  | cons c x ih =>
    rw [List.cons_append, divide_cons (h c List.mem_cons_self),
      ih fun d hd => h d (List.mem_cons_of_mem _ hd), glue]

theorem map_fst_divide_intercalate {xs : List (List Char)} (hne : xs ≠ [])
    (h : ∀ x ∈ xs, ∀ c ∈ x, isLineEnd c = false) :
    (divide (['\n'].intercalate xs)).map Prod.fst = xs := by
  induction xs with
  | nil => exact absurd rfl hne
  | cons x xs ih =>
    have hx : ∀ c ∈ x, isLineEnd c = false := h x List.mem_cons_self
    cases xs with
    | nil => rw [List.intercalate_singleton, divide_of_oneLine hx]; rfl
    | cons y ys =>
      rw [List.intercalate_cons_cons, List.append_assoc, List.singleton_append,
        divide_append_lf hx, List.map_cons,
        ih (List.cons_ne_nil y ys) fun z hz => h z (List.mem_cons_of_mem _ hz)]

/-- The lines of a text, and what they become when a line feed and more follow. The line feed ends
the last line, or makes a pair with the carriage return that had ended it. -/
inductive EndsBefore (s : List Char) : Prop
  | alone (ls text) : divide s = ls ++ [(text, .none)] →
      (∀ t, divide (s ++ '\n' :: t) = ls ++ (text, .lf) :: divide t) → EndsBefore s
  | paired (ls text) : divide s = ls ++ [(text, .cr), ([], .none)] →
      (∀ t, divide (s ++ '\n' :: t) = ls ++ (text, .crlf) :: divide t) → EndsBefore s

theorem EndsBefore.line {s : List Char} (h : EndsBefore s) (whole : List Char)
    {l : List Char × LineBreak} (hs : divide (whole ++ s) = l :: divide s)
    (ht : ∀ t, divide (whole ++ s ++ '\n' :: t) = l :: divide (s ++ '\n' :: t)) :
    EndsBefore (whole ++ s) := by
  cases h with
  | alone ls text hd hn =>
    exact .alone (l :: ls) text (by rw [hs, hd]; rfl) (fun t => by rw [ht, hn]; rfl)
  | paired ls text hd hn =>
    exact .paired (l :: ls) text (by rw [hs, hd]; rfl) (fun t => by rw [ht, hn]; rfl)

theorem EndsBefore.char {s : List Char} {c : Char} (h : EndsBefore s) (hc : isLineEnd c = false) :
    EndsBefore (c :: s) := by
  have glued (t : List Char) : divide (c :: s ++ '\n' :: t) = glue c (divide (s ++ '\n' :: t)) :=
    divide_cons hc
  cases h with
  | alone ls text hs ht =>
    cases ls with
    | nil =>
      exact .alone [] (c :: text) (by rw [divide_cons hc, hs]; rfl)
        (fun t => by rw [glued, ht]; rfl)
    | cons l ls =>
      exact .alone (glue c (l :: ls)) text (by rw [divide_cons hc, hs]; rfl)
        (fun t => by rw [glued, ht]; rfl)
  | paired ls text hs ht =>
    cases ls with
    | nil =>
      exact .paired [] (c :: text) (by rw [divide_cons hc, hs]; rfl)
        (fun t => by rw [glued, ht]; rfl)
    | cons l ls =>
      exact .paired (glue c (l :: ls)) text (by rw [divide_cons hc, hs]; rfl)
        (fun t => by rw [glued, ht]; rfl)

theorem endsBefore (s : List Char) : EndsBefore s := by
  fun_induction divide s with
  | case1 => exact .alone [] [] rfl (fun t => rfl)
  | case2 rest ih => exact ih.line ['\r', '\n'] rfl (fun t => rfl)
  | case3 rest hlf ih =>
    cases rest with
    | nil => exact .paired [] [] rfl (fun t => rfl)
    | cons c rest =>
      have hc : ∀ rest', c :: rest ≠ '\n' :: rest' := hlf
      refine ih.line ['\r'] (divide_cr hc) (fun t => divide_cr ?_)
      rintro rest' h
      cases h
      exact hc rest rfl
  | case4 rest ih => exact ih.line ['\n'] rfl (fun t => rfl)
  | case5 c rest hcrlf hcr hlf text ending more h ih =>
    exact ih.char (by simp [isLineEnd]; exact ⟨hlf, hcr⟩)
  | case6 c rest _ _ _ h => exact absurd h (divide_ne_nil rest)

theorem exists_divide_append_lf (s : List Char) :
    ∃ ls, textOf ls = s ++ ['\n'] ∧ ∀ t, divide (s ++ '\n' :: t) = ls ++ divide t := by
  obtain ⟨ls, hls⟩ : ∃ ls, ∀ t, divide (s ++ '\n' :: t) = ls ++ divide t := by
    cases endsBefore s with
    | alone ls text _ ht => exact ⟨ls ++ [(text, .lf)], fun t => by rw [ht, List.append_assoc]; rfl⟩
    | paired ls text _ ht =>
      exact ⟨ls ++ [(text, .crlf)], fun t => by rw [ht, List.append_assoc]; rfl⟩
  refine ⟨ls, ?_, hls⟩
  have htext := congrArg textOf (hls [])
  rw [textOf_divide, textOf_append, textOf_divide, List.append_nil] at htext
  exact htext.symm

end Line

namespace Lines

variable {before later : List Line} {by' offset : Nat}

theorem lineOf_append_shift (hbefore : ∀ line ∈ before, line.start ≤ by') :
    Lines.lineOf (before ++ later.map (Line.shift by')) (offset + by') =
      before.length + Lines.lineOf later offset := by
  rw [lineOf, lineOf, List.countP_append, List.countP_map]
  congr 1
  · apply List.countP_eq_length.mpr
    intro line hline
    have := hbefore line hline
    simp
    omega
  · congr 1
    funext line
    simp

theorem position_append_shift (hbefore : ∀ line ∈ before, line.start ≤ by')
    (hlater : 0 < Lines.lineOf later offset) :
    Lines.position (before ++ later.map (Line.shift by')) (offset + by') =
      ⟨(Lines.position later offset).line + before.length,
        (Lines.position later offset).column⟩ := by
  obtain ⟨index, hindex⟩ := Nat.exists_eq_succ_of_ne_zero (Nat.ne_of_gt hlater)
  have hget : (before ++ later.map (Line.shift by'))[before.length + (index + 1) - 1]? =
      later[index]?.map (Line.shift by') := by
    rw [List.getElem?_append_right (by omega), List.getElem?_map]
    congr 2
    omega
  rw [position, position]
  simp only [lineOf_append_shift hbefore, hindex, Nat.succ_eq_add_one, hget, Nat.add_sub_cancel]
  cases later[index]? with
  | none => simp [Nat.add_comm]
  | some line =>
    have hsub : offset + by' - (line.start + by') = offset - line.start := by omega
    simp only [Option.map_some, Line.start_shift, Line.contents_shift, hsub]
    rw [Nat.add_comm]

end Lines

theorem length_split (s : List Char) : (Line.split s).length = (lineEnds 0 s).length + 1 := by
  rw [← List.length_map (f := Line.start), Line.map_start_split, lineStarts, List.length_cons]

theorem start_le_of_mem_split {s : List Char} {line : Line} (h : line ∈ Line.split s) :
    line.start ≤ width s := by
  have hstart : line.start ∈ lineStarts s := Line.map_start_split s ▸ List.mem_map_of_mem h
  rcases List.mem_cons.mp hstart with hzero | hend
  · omega
  · have := (bounds_of_mem_lineEnds hend).2
    omega

theorem lineOf_split_pos (s : List Char) (offset : Nat) :
    0 < Lines.lineOf (Line.split s) offset := by
  rw [Lines.lineOf, List.countP_pos_iff]
  obtain ⟨line, more, hsplit⟩ := List.exists_cons_of_ne_nil
    (List.ne_nil_of_length_pos (by rw [length_split]; omega : 0 < (Line.split s).length))
  refine ⟨line, by rw [hsplit]; exact List.mem_cons_self, ?_⟩
  have hstart := @Line.start_of_split s [] more line hsplit
  simp [hstart]

theorem lineOf_split_within {s : List Char} {before after : List Line} {line : Line} {offset : Nat}
    (h : Line.split s = before ++ line :: after) (hstart : line.start ≤ offset)
    (hstop : offset ≤ line.stop) : Lines.lineOf (Line.split s) offset = before.length + 1 := by
  have hapart := h ▸ Line.pairwise_stop_split s
  obtain ⟨-, hlater, hearlier⟩ := List.pairwise_append.mp hapart
  have hbefore : before.countP (fun l => decide (l.start ≤ offset)) = before.length := by
    apply List.countP_eq_length.mpr
    intro l hl
    have hlt : l.start + width l.text < line.start := hearlier l hl line List.mem_cons_self
    simp only [decide_eq_true_eq]
    omega
  have hafter : after.countP (fun l => decide (l.start ≤ offset)) = 0 := by
    apply List.countP_eq_zero.mpr
    intro l hl
    have hlt : line.stop < l.start := (List.pairwise_cons.mp hlater).1 l hl
    simp only [decide_eq_true_eq]
    omega
  rw [h, Lines.lineOf, List.countP_append, List.countP_cons, hbefore, hafter]
  simp [hstart]

theorem position_split_within {s : List Char} {before after : List Line} {line : Line} {offset : Nat}
    (h : Line.split s = before ++ line :: after) (hstart : line.start ≤ offset)
    (hstop : offset ≤ line.stop) : Lines.position (Line.split s) offset =
      ⟨before.length + 1, 1 + Lines.charsWithin (offset - line.start) line.contents⟩ := by
  have hline : (Line.split s)[before.length]? = some line := by simp [h]
  rw [Lines.position, lineOf_split_within h hstart hstop, Nat.add_sub_cancel, hline]

theorem line_position (lines : Lines) (offset : Nat) :
    (lines.position offset).line = lines.lineOf offset := by
  rw [Lines.position]
  split <;> rfl

theorem lineOf_split_width (s : List Char) :
    Lines.lineOf (Line.split s) (width s) = (Line.split s).length :=
  List.countP_eq_length.mpr fun _ hline => decide_eq_true (start_le_of_mem_split hline)

end RequestBook
