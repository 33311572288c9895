namespace RequestBook

variable {ε δ α β γ : Type}

theorem map_eq_ok_iff {x : Except ε α} {f : α → β} {b : β} :
    x.map f = .ok b ↔ ∃ a, x = .ok a ∧ f a = b := by
  cases x <;> simp [Except.map]

theorem bind_eq_ok_iff {x : Except ε α} {f : α → Except ε β} {b : β} :
    x >>= f = .ok b ↔ ∃ a, x = .ok a ∧ f a = .ok b := by
  cases x <;> simp [bind, Except.bind]

theorem bind_eq_error_iff {x : Except ε α} {f : α → Except ε β} {e : ε} :
    x >>= f = .error e ↔ x = .error e ∨ ∃ a, x = .ok a ∧ f a = .error e := by
  cases x <;> simp [bind, Except.bind]

theorem mapError_eq_ok_iff {x : Except ε α} {f : ε → δ} {a : α} :
    x.mapError f = .ok a ↔ x = .ok a := by
  constructor
  · intro h
    cases x with
    | ok _ =>
      cases h
      rfl
    | error _ => cases h
  · rintro rfl
    rfl

theorem mapError_eq_error_iff {x : Except ε α} {f : ε → δ} {e : δ} :
    x.mapError f = .error e ↔ ∃ cause, x = .error cause ∧ f cause = e := by
  constructor
  · intro h
    cases x with
    | ok _ => cases h
    | error cause =>
      cases h
      exact ⟨cause, rfl, rfl⟩
  · rintro ⟨cause, rfl, rfl⟩
    rfl

theorem map_bind_eq_bind_map (g : β → γ) (x : Except ε α) (k : α → Except ε β) :
    (x >>= k).map g = x >>= fun a => (k a).map g := by
  cases x <;> rfl

theorem bind_map_eq_bind_comp (x : Except ε α) (f : α → β) (k : β → Except ε γ) :
    x.map f >>= k = x >>= fun a => k (f a) := by
  cases x <;> rfl

theorem exists_of_foldlM_eq_error {f : β → α → Except ε β} {b : β} {l : List α} {e : ε}
    (h : l.foldlM f b = .error e) : ∃ before a after b', l = before ++ a :: after ∧
      before.foldlM f b = .ok b' ∧ f b' a = .error e := by
  induction l generalizing b with
  | nil => cases h
  | cons a l ih =>
    rw [List.foldlM_cons] at h
    rcases bind_eq_error_iff.mp h with hhere | ⟨next, hnext, h⟩
    · exact ⟨[], a, l, b, rfl, rfl, hhere⟩
    · obtain ⟨before, a', after, b', rfl, hbefore, hfail⟩ := ih h
      refine ⟨a :: before, a', after, b', rfl, ?_, hfail⟩
      rw [List.foldlM_cons, hnext]
      exact hbefore

theorem foldlM_cons_of_ok {f : β → α → Except ε β} {b b' : β} {a : α} (h : f b a = .ok b')
    (l : List α) : (a :: l).foldlM f b = l.foldlM f b' := by
  rw [List.foldlM_cons, h]
  rfl

end RequestBook
