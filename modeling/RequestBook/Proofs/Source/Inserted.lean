import RequestBook.Proofs.Source.Divided

namespace RequestBook

open RequestBook.Text

theorem Text.append_inj_of_width {a b c d : List Char} (h : a ++ b = c ++ d)
    (hwidth : width a = width c) : a = c ∧ b = d := by
  rcases List.append_eq_append_iff.mp h with ⟨more, rfl, rfl⟩ | ⟨more, rfl, rfl⟩
  · rw [width_append, Nat.left_eq_add, width_eq_zero_iff] at hwidth
    simp [hwidth]
  · rw [width_append, Nat.add_eq_left, width_eq_zero_iff] at hwidth
    simp [hwidth]

namespace Line

variable {ls ms init : List (List Char × LineBreak)} {text x s t : List Char}

theorem exists_divide_append (h : ∃ line ∈ split (s ++ t), line.start = width s) :
    ∃ ls, divide (s ++ t) = ls ++ divide t ∧ textOf ls = s := by
  obtain ⟨line, hline, hstart⟩ := h
  obtain ⟨before, after, hsplit⟩ := List.append_of_mem hline
  obtain ⟨ls, ms, hdivide, -, hafter⟩ := exists_of_place_eq_append hsplit
  cases ms with
  | nil => cases hafter
  | cons m ms =>
    have hwidth : width (textOf ls) = width s := by
      rw [(List.cons.inj hafter).1, Nat.zero_add] at hstart
      exact hstart
    have htexts : textOf ls ++ textOf (m :: ms) = s ++ t := by
      rw [← textOf_append, ← hdivide, textOf_divide]
    obtain ⟨hs, ht⟩ := append_inj_of_width htexts hwidth
    have hdivided : Divided (m :: ms) :=
      (hdivide ▸ divided_divide (s ++ t)).of_append (List.cons_ne_nil m ms)
    refine ⟨ls, ?_, hs⟩
    rw [hdivide, ← ht, hdivided.divide_textOf]

theorem exists_place_divide (start : Nat) (t : List Char) :
    ∃ line after, place start (divide t) = line :: after ∧ line.start = start := by
  obtain ⟨l, more, hl⟩ := List.exists_cons_of_ne_nil (divide_ne_nil t)
  rw [hl]
  exact ⟨_, _, rfl, rfl⟩

/-- A line may be put between two, unless its break is half of the one before. -/
theorem Divided.insert (h : Divided (ls ++ ms)) (hms : ms ≠ []) (hx : ∀ c ∈ x, isLineEnd c = false)
    (hcr : x ≠ [] ∨ ∀ init text, ls ≠ init ++ [(text, .cr)]) :
    Divided (ls ++ (x, .lf) :: ms) := by
  induction ls with
  | nil => exact .cons hx LineBreak.noConfusion LineBreak.noConfusion h
  | cons l ls ih =>
    obtain ⟨text, ending⟩ := l
    obtain ⟨hending, hhead, htail⟩ := h.tail (by simp [hms])
    have hcr' : x ≠ [] ∨ ∀ init text, ls ≠ init ++ [(text, .cr)] := by
      refine hcr.imp_right fun hne init text' heq => ?_
      exact hne ((text, ending) :: init) text' (by rw [heq]; rfl)
    refine .cons h.isLineEnd_of_mem hending (fun hl => ?_) (ih htail hcr')
    cases ls with
    | nil =>
      subst hl
      rcases hcr with hne | hne
      · simp [hne]
      · exact absurd rfl (hne [] text)
    | cons m ls => exact hhead hl

theorem Divided.pair (h : Divided (init ++ (text, .cr) :: ms)) (hms : ms ≠ []) :
    Divided (init ++ (text, .crlf) :: ms) := by
  induction init with
  | nil =>
    exact .cons h.isLineEnd_of_mem LineBreak.noConfusion LineBreak.noConfusion (h.tail hms).2.2
  | cons l init ih =>
    obtain ⟨hending, hhead, htail⟩ := h.tail (by simp)
    refine .cons h.isLineEnd_of_mem hending (fun hl => ?_) (ih htail)
    cases init with
    | nil => simp
    | cons m init => exact hhead hl

theorem divide_insert (h : divide (s ++ t) = ls ++ divide t) (hs : textOf ls = s)
    (hx : ∀ c ∈ x, isLineEnd c = false) (hcr : x ≠ [] ∨ ∀ init text, ls ≠ init ++ [(text, .cr)]) :
    divide (s ++ x ++ '\n' :: t) = ls ++ (x, .lf) :: divide t := by
  have hdivided := (h ▸ divided_divide (s ++ t)).insert (divide_ne_nil t) hx hcr
  rw [← hdivided.divide_textOf]
  simp [hs]

theorem divide_pair (h : divide (s ++ t) = init ++ (text, .cr) :: divide t)
    (hs : textOf (init ++ [(text, .cr)]) = s) :
    divide (s ++ '\n' :: t) = init ++ (text, .crlf) :: divide t := by
  have hdivided := (h ▸ divided_divide (s ++ t)).pair (divide_ne_nil t)
  rw [← hdivided.divide_textOf, ← hs]
  simp

end Line

end RequestBook
