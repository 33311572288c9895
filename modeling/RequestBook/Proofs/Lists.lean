import Mathlib.Data.List.Induction

namespace RequestBook

variable {α β : Type}

theorem append_eq_append_cons {s t before after : List α} {a : α}
    (h : s ++ t = before ++ a :: after) :
    (∃ rest, s = before ++ [a] ++ rest) ∨ ∃ more, before = s ++ more ∧ t = more ++ a :: after := by
  rcases List.append_eq_append_iff.mp h with hsecond | ⟨rest, rfl, hrest⟩
  · exact .inr hsecond
  · cases rest with
    | nil => exact .inr ⟨[], by simp, hrest.symm⟩
    | cons d rest =>
      cases hrest
      exact .inl ⟨rest, by simp⟩

theorem exists_append_cons_of_lt {l : List α} {n : Nat} (h : n < l.length) :
    ∃ above a below, l = above ++ a :: below ∧ above.length = n := by
  have hsplit := List.take_append_drop n l
  rw [List.drop_eq_getElem_cons h] at hsplit
  exact ⟨_, _, _, hsplit.symm, List.length_take_of_le (Nat.le_of_lt h)⟩

theorem exists_of_flatMap_eq_append {f : α → List β} {l : List α} {before after : List β} {b : β}
    (h : l.flatMap f = before ++ b :: after) : ∃ earlier a later done rest,
      l = earlier ++ a :: later ∧ f a = done ++ b :: rest ∧ before = earlier.flatMap f ++ done ∧
        after = rest ++ later.flatMap f := by
  induction l generalizing before with
  | nil => simp at h
  | cons a l ih =>
    rw [List.flatMap_cons] at h
    rcases append_eq_append_cons h with ⟨rest, hrest⟩ | ⟨more, rfl, hmore⟩
    · refine ⟨[], a, l, before, rest, rfl, by simpa using hrest, rfl, ?_⟩
      rw [hrest] at h
      simpa using h.symm
    · obtain ⟨earlier, a', later, done, rest, rfl, ha', rfl, rfl⟩ := ih hmore
      exact ⟨a :: earlier, a', later, done, rest, rfl, ha', by simp, rfl⟩

theorem mem_of_mem_splitOn [BEq α] [LawfulBEq α] {separator a : α} {s part : List α}
    (h : part ∈ s.splitOn separator) (ha : a ∈ part) : a ∈ s ∧ a ≠ separator := by
  induction s generalizing part with
  | nil =>
    rw [List.splitOn_nil, List.mem_singleton] at h
    rw [h] at ha
    cases ha
  | cons b s ih =>
    rw [List.splitOn_cons_eq_if_modifyHead] at h
    split at h
    · rcases List.mem_cons.mp h with rfl | h
      · cases ha
      · exact (ih h ha).imp_left (List.mem_cons_of_mem _)
    · rename_i hb
      obtain ⟨first, more, hsplit⟩ := List.exists_cons_of_ne_nil (List.splitOn_ne_nil separator s)
      rw [hsplit] at h ih
      rcases List.mem_cons.mp h with rfl | h
      · rcases List.mem_cons.mp ha with rfl | ha
        · exact ⟨List.mem_cons_self, by simpa using hb⟩
        · exact (ih List.mem_cons_self ha).imp_left (List.mem_cons_of_mem _)
      · exact (ih (List.mem_cons_of_mem _ h) ha).imp_left (List.mem_cons_of_mem _)

theorem mem_of_mem_intercalate {separator a : α} {parts : List (List α)}
    (h : a ∈ [separator].intercalate parts) (ha : a ≠ separator) : ∃ part ∈ parts, a ∈ part := by
  induction parts with
  | nil => cases h
  | cons part parts ih =>
    cases parts with
    | nil => exact ⟨part, List.mem_cons_self, by simpa using h⟩
    | cons next parts =>
      rw [List.intercalate_cons_cons, List.append_assoc, List.mem_append, List.singleton_append,
        List.mem_cons] at h
      rcases h with h | h | h
      · exact ⟨part, List.mem_cons_self, h⟩
      · exact absurd h ha
      · obtain ⟨part', hpart', hmem⟩ := ih h
        exact ⟨part', List.mem_cons_of_mem _ hpart', hmem⟩

theorem exists_intercalate_cons (separator : α) (parts : List (List α)) :
    ∃ tail, ∀ part, [separator].intercalate (part :: parts) = part ++ tail := by
  cases parts with
  | nil => exact ⟨[], fun part => by simp⟩
  | cons next parts =>
    exact ⟨separator :: [separator].intercalate (next :: parts), fun part => by
      rw [List.intercalate_cons_cons, List.append_assoc, List.singleton_append]⟩

theorem exists_intercalate_concat (separator : α) (parts : List (List α)) :
    ∃ front, ∀ part, [separator].intercalate (parts ++ [part]) = front ++ part := by
  induction parts with
  | nil => exact ⟨[], fun part => by simp⟩
  | cons first parts ih =>
    obtain ⟨front, hfront⟩ := ih
    refine ⟨first ++ separator :: front, fun part => ?_⟩
    obtain ⟨next, more, hnext⟩ := List.exists_cons_of_ne_nil
      (show parts ++ [part] ≠ [] by simp)
    rw [List.cons_append, hnext, List.intercalate_cons_cons, ← hnext, hfront part]
    simp

section Duplicates

variable [BEq α] [LawfulBEq α]

theorem eraseDups_concat (l : List α) (a : α) :
    (l ++ [a]).eraseDups = if l.elem a then l.eraseDups else l.eraseDups ++ [a] := by
  rw [List.eraseDups_append]
  by_cases ha : a ∈ l <;> simp [List.removeAll, List.eraseDups_cons, ha]

theorem pairwise_eraseDups_iff {f : α → Nat} {l : List α} :
    (l.eraseDups.Pairwise fun a b => f a ≤ f b) ↔
      ∀ earlier a later, l = earlier ++ a :: later → a ∉ earlier → ∀ b ∈ earlier, f b ≤ f a := by
  constructor
  · rintro h earlier a later rfl hnew b hb
    have hmem : a ∈ ((a :: later).removeAll earlier).eraseDups := by
      simp [List.mem_eraseDups, List.removeAll, hnew]
    rw [List.eraseDups_append, List.pairwise_append] at h
    exact h.2.2 b (List.mem_eraseDups.mpr hb) a hmem
  · intro h
    -- from the end, where a new member has all the others before it
    induction l using List.reverseRecOn with
    | nil => exact .nil
    | append_singleton l a ih =>
      have hl : l.eraseDups.Pairwise fun a b => f a ≤ f b := by
        refine ih fun earlier b later hsplit => ?_
        exact h earlier b (later ++ [a]) (by simp [hsplit])
      rw [eraseDups_concat]
      split
      · exact hl
      · rename_i hnew
        refine List.pairwise_append.mpr ⟨hl, List.pairwise_singleton _ _, fun b hb c hc => ?_⟩
        rw [List.mem_singleton.mp hc]
        exact h l a [] rfl (by simpa using hnew) b (List.mem_eraseDups.mp hb)

end Duplicates

end RequestBook
