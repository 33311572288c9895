import RequestBook.Text.Character

namespace RequestBook.Text

/-- Bytes taken by a text in UTF-8. -/
def width : List Char → Nat
  | [] => 0
  | c :: rest => c.utf8Size + width rest

@[simp] theorem width_nil : width [] = 0 := rfl

@[simp] theorem width_cons (c : Char) (s : List Char) : width (c :: s) = c.utf8Size + width s :=
  rfl

@[simp] theorem width_append (s t : List Char) : width (s ++ t) = width s + width t := by
  induction s with
  | nil => simp
  | cons c s ih => simp [ih, Nat.add_assoc]

theorem width_eq_zero_iff {s : List Char} : width s = 0 ↔ s = [] := by
  cases s with
  | nil => simp
  | cons c s =>
    have := c.utf8Size_pos
    simp
    omega

def skipInline (s : List Char) : List Char :=
  s.dropWhile isInline

def trimStart (s : List Char) : List Char :=
  s.dropWhile isBlank

def trimEnd (s : List Char) : List Char :=
  (s.reverse.dropWhile isBlank).reverse

def trim (s : List Char) : List Char :=
  trimEnd (trimStart s)

theorem trimEnd_append_blanks (s : List Char) :
    ∃ blanks, s = trimEnd s ++ blanks ∧ ∀ c ∈ blanks, isBlank c = true := by
  refine ⟨(s.reverse.takeWhile isBlank).reverse, ?_, ?_⟩
  · rw [trimEnd, ← List.reverse_append, List.takeWhile_append_dropWhile, List.reverse_reverse]
  · intro c hc
    exact (List.all_eq_true.mp List.all_takeWhile) c (List.mem_reverse.mp hc)

theorem width_trimEnd_le (s : List Char) : width (trimEnd s) ≤ width s := by
  obtain ⟨blanks, h, -⟩ := trimEnd_append_blanks s
  calc width (trimEnd s) ≤ width (trimEnd s) + width blanks := Nat.le_add_right ..
    _ = width s := by rw [← width_append, ← h]

end RequestBook.Text
