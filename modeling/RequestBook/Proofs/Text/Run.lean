import Mathlib.Data.List.TakeWhile
import RequestBook.Proofs.Lists
import RequestBook.Text.Trim

namespace RequestBook.Text

/-- A run of the class would end here at once. -/
def Stops (p : Char → Bool) (s : List Char) : Prop :=
  ∀ c, s.head? = some c → p c = false

variable {p : Char → Bool} {c : Char} {s t rest : List Char}

theorem forall_mem_of_all {P : Char → Prop} [DecidablePred P]
    (h : s.all (fun c => decide (P c)) = true) : ∀ c ∈ s, P c :=
  fun c hc => of_decide_eq_true (List.all_eq_true.mp h c hc)

@[simp] theorem stops_nil : Stops p [] := by
  intro c hc
  cases hc

@[simp] theorem stops_cons : Stops p (c :: s) ↔ p c = false := by
  simp [Stops]

theorem stops_iff_head? : Stops p s ↔ s.head?.any p = false := by
  cases s with
  | nil => simp
  | cons c s => simp

theorem Stops.append (hs : Stops p s) (ht : Stops p t) : Stops p (s ++ t) := by
  cases s with
  | nil => exact ht
  | cons c s => exact stops_cons.mpr (stops_cons.mp hs)

theorem stops_of_blank (h : ∀ c ∈ s, isBlank c = true) : Stops (fun c => !isBlank c) s := by
  cases s with
  | nil => exact stops_nil
  | cons c s => exact stops_cons.mpr (by rw [h c List.mem_cons_self]; rfl)

theorem stops_isNameChar (h : Stops (fun c => !isBlank c) s) : Stops isNameChar s := by
  cases s with
  | nil => exact stops_nil
  | cons c s =>
    have hblank := stops_cons.mp h
    refine stops_cons.mpr (Bool.eq_false_iff.mpr fun hname => ?_)
    rw [isBlank_of_isNameChar hname] at hblank
    cases hblank

theorem Stops.left (h : Stops p (s ++ t)) : Stops p s := by
  cases s with
  | nil => exact stops_nil
  | cons c s => exact stops_cons.mpr (stops_cons.mp h)

theorem isInline_of_not_blank (h : isBlank c = false) : isInline c = false :=
  Bool.eq_false_iff.mpr fun hinline => Bool.eq_false_iff.mp h (isBlank_of_isInline hinline)

theorem Stops.append_of_ne_nil (h : Stops p (s ++ t)) (hs : s ≠ []) (rest : List Char) :
    Stops p (s ++ rest) := by
  cases s with
  | nil => exact absurd rfl hs
  | cons c s => exact stops_cons.mpr (stops_cons.mp h)

theorem stops_dropWhile (p : Char → Bool) (s : List Char) : Stops p (s.dropWhile p) := by
  intro c hc
  have hnot := List.head?_dropWhile_not p s
  rw [hc] at hnot
  simpa using hnot

theorem takeWhile_append_of_stops (hs : ∀ c ∈ s, p c = true) (ht : Stops p t) :
    (s ++ t).takeWhile p = s := by
  rw [List.takeWhile_append_of_pos hs]
  cases t with
  | nil => simp
  | cons c t => simp [stops_cons.mp ht]

theorem isPrefixOf_append_left (hs : ∀ c ∈ s, p c = true) (ht : Stops p t) (rest : List Char) :
    s.isPrefixOf (rest ++ t) = s.isPrefixOf rest := by
  induction s generalizing rest with
  | nil => rw [List.isPrefixOf_nil_left, List.isPrefixOf_nil_left]
  | cons c s ih =>
    cases rest with
    | cons d rest =>
      rw [List.cons_append, List.isPrefixOf_cons_cons, List.isPrefixOf_cons_cons,
        ih fun e he => hs e (List.mem_cons_of_mem c he)]
    | nil =>
      cases t with
      | nil => rfl
      | cons d t =>
        have hne : c ≠ d := by
          rintro rfl
          have hc := hs c List.mem_cons_self
          rw [stops_cons.mp ht] at hc
          cases hc
        rw [List.nil_append, List.isPrefixOf_cons_cons, beq_eq_false_iff_ne.mpr hne]
        rfl

theorem takeWhile_append_left (h : Stops p t) :
    (s ++ t).takeWhile p = s.takeWhile p := by
  rw [List.takeWhile_append]
  split
  · rename_i hlength
    have hnil : t.takeWhile p = [] := by
      cases t with
      | nil => rfl
      | cons c t => rw [List.takeWhile_cons_of_neg (by simp [stops_cons.mp h])]
    rw [hnil, List.append_nil, (List.takeWhile_prefix p).eq_of_length hlength]
  · rfl

theorem dropWhile_append_of_stops (hs : ∀ c ∈ s, p c = true) (ht : Stops p t) :
    (s ++ t).dropWhile p = t := by
  rw [List.dropWhile_append_of_pos hs]
  cases t with
  | nil => rfl
  | cons c t => simp [stops_cons.mp ht]

theorem skipInline_of_stops (h : Stops isInline s) : skipInline s = s :=
  dropWhile_append_of_stops (s := []) (fun _ hc => nomatch hc) h

@[simp] theorem skipInline_space (s : List Char) : skipInline (' ' :: s) = skipInline s := rfl

theorem skipInline_append (hs : ∀ c ∈ s, isInline c = true) (t : List Char) :
    skipInline (s ++ t) = skipInline t :=
  List.dropWhile_append_of_pos hs

theorem skipInline_append_of_ne_nil (hs : skipInline s ≠ []) (t : List Char) :
    skipInline (s ++ t) = skipInline s ++ t := by
  have hempty : (s.dropWhile isInline).isEmpty = false := List.isEmpty_eq_false_iff.mpr hs
  rw [skipInline, List.dropWhile_append, hempty]
  rfl

theorem exists_skipInline (s : List Char) :
    ∃ indent, s = indent ++ skipInline s ∧ ∀ c ∈ indent, isInline c = true :=
  ⟨s.takeWhile isInline, List.takeWhile_append_dropWhile.symm, fun _ => List.mem_takeWhile_imp⟩

/-- What is left of a text after its blanks, when some of it is dropped, is left of the rest. -/
theorem skipInline_eq_append (h : skipInline s = t ++ rest) :
    ∃ s', s = s' ++ rest ∧ skipInline s' = t := by
  obtain ⟨indent, hs, hindent⟩ := exists_skipInline s
  rw [h] at hs
  refine ⟨indent ++ t, by rw [hs, List.append_assoc], ?_⟩
  have hstops : Stops isInline (t ++ rest) := h ▸ stops_dropWhile isInline s
  rw [skipInline_append hindent, skipInline_of_stops hstops.left]

theorem trimEnd_append_of_blank (ht : ∀ c ∈ t, isBlank c = true) (s : List Char) :
    trimEnd (s ++ t) = trimEnd s := by
  rw [trimEnd, List.reverse_append, List.dropWhile_append_of_pos, trimEnd]
  intro c hc
  exact ht c (List.mem_reverse.mp hc)

theorem stops_reverse_trimEnd (s : List Char) : Stops isBlank (trimEnd s).reverse := by
  rw [trimEnd, List.reverse_reverse]
  exact stops_dropWhile isBlank _

theorem trimEnd_of_stops (h : Stops isBlank s.reverse) : trimEnd s = s := by
  have hreverse : s.reverse.dropWhile isBlank = s.reverse :=
    dropWhile_append_of_stops (s := []) (fun _ hc => nomatch hc) h
  rw [trimEnd, hreverse, List.reverse_reverse]

theorem trimStart_of_stops (h : Stops isBlank s) : trimStart s = s :=
  dropWhile_append_of_stops (s := []) (fun _ hc => nomatch hc) h

theorem trim_append_of_blank (ht : ∀ c ∈ t, isBlank c = true) (s : List Char) :
    trim (s ++ t) = trim s := by
  rw [trim, trim, trimStart, trimStart, List.dropWhile_append]
  split
  · rename_i hs
    rw [List.isEmpty_iff.mp hs, List.dropWhile_eq_nil_iff.mpr ht]
  · exact trimEnd_append_of_blank ht _

structure Trimmed (s : List Char) : Prop where
  start : Stops isBlank s
  stop : Stops isBlank s.reverse

theorem Trimmed.trim (h : Trimmed s) : trim s = s := by
  rw [Text.trim, trimStart_of_stops h.start, trimEnd_of_stops h.stop]

theorem trimmed_trim (s : List Char) : Trimmed (trim s) where
  start := by
    obtain ⟨blanks, hs, -⟩ := trimEnd_append_blanks (trimStart s)
    have hstops : Stops isBlank (trim s ++ blanks) := hs ▸ stops_dropWhile isBlank s
    exact hstops.left
  stop := stops_reverse_trimEnd (trimStart s)

theorem Trimmed.trim_append (h : Trimmed s) (hrest : ∀ c ∈ rest, isBlank c = true)
    (ht : ∀ c ∈ t, isBlank c = true) : Text.trim (rest ++ (s ++ t)) = s := by
  by_cases hs : s = []
  · subst hs
    have hall : ∀ c ∈ rest ++ ([] ++ t), isBlank c = true := by
      simpa [or_imp, forall_and] using ⟨hrest, ht⟩
    rw [Text.trim, trimStart, List.dropWhile_eq_nil_iff.mpr hall]
    rfl
  · have hstart : Stops isBlank (s ++ t) := by
      cases s with
      | nil => exact absurd rfl hs
      | cons c s => exact stops_cons.mpr (stops_cons.mp h.start)
    rw [Text.trim, trimStart, dropWhile_append_of_stops hrest hstart, trimEnd_append_of_blank ht,
      trimEnd_of_stops h.stop]

def Ends (s : List Char) : Prop :=
  ∃ c, s.getLast? = some c ∧ isBlank c = false

theorem ends_concat (s : List Char) (hc : isBlank c = false) : Ends (s ++ [c]) :=
  ⟨c, List.getLast?_concat, hc⟩

theorem ends_of_forall (hs : s ≠ []) (h : ∀ c ∈ s, isBlank c = false) : Ends s :=
  ⟨s.getLast hs, List.getLast?_eq_some_getLast hs, h _ (List.getLast_mem hs)⟩

theorem Ends.ne_nil (h : Ends s) : s ≠ [] := by
  rintro rfl
  obtain ⟨c, hc, -⟩ := h
  cases hc

theorem Ends.skipInline_ne_nil (h : Ends s) : skipInline s ≠ [] := by
  intro hnil
  obtain ⟨c, hc, hblank⟩ := h
  obtain ⟨indent, hs, hinline⟩ := exists_skipInline s
  rw [hnil, List.append_nil] at hs
  have hc := isBlank_of_isInline (hinline c (hs ▸ List.mem_of_getLast? hc))
  exact Bool.eq_false_iff.mp hblank hc

theorem Ends.append (h : Ends t) (s : List Char) : Ends (s ++ t) := by
  obtain ⟨c, hc, hblank⟩ := h
  exact ⟨c, by rw [List.getLast?_append, hc]; rfl, hblank⟩

theorem Ends.of_append (h : Ends (s ++ t)) (ht : t ≠ []) : Ends t := by
  obtain ⟨c, hc, hblank⟩ := h
  rw [List.getLast?_append, List.getLast?_eq_some_getLast ht, Option.some_or] at hc
  exact ⟨c, by rw [List.getLast?_eq_some_getLast ht, hc], hblank⟩

theorem Ends.stops_reverse (h : Ends s) : Stops isBlank s.reverse := by
  obtain ⟨c, hc, hblank⟩ := h
  intro d hd
  rw [List.head?_reverse, hc] at hd
  cases hd
  exact hblank

theorem ends_of_stops_reverse (hs : s ≠ []) (h : Stops isBlank s.reverse) : Ends s :=
  ⟨s.getLast hs, List.getLast?_eq_some_getLast hs,
    h _ (by rw [List.head?_reverse, List.getLast?_eq_some_getLast hs])⟩

end RequestBook.Text
