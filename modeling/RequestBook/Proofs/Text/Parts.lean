import RequestBook.Proofs.Text.Run

namespace RequestBook.Text

variable {separator : Char} {s t : List Char} {part : List Char} {parts above below : List (List Char)}

structure IsRow (s : List Char) : Prop where
  no_break : '\n' ∉ s
  visible : ∃ c ∈ s, isBlank c = false

theorem IsRow.trimStart (h : IsRow s) : IsRow (trimStart s) where
  no_break := fun hmem => h.no_break ((List.dropWhile_sublist _).subset hmem)
  visible := by
    obtain ⟨c, hc, hblank⟩ := h.visible
    rw [← List.takeWhile_append_dropWhile (p := isBlank) (l := s)] at hc
    rcases List.mem_append.mp hc with hc | hc
    · rw [List.mem_takeWhile_imp hc] at hblank
      cases hblank
    · exact ⟨c, hc, hblank⟩

theorem IsRow.trimEnd (h : IsRow s) : IsRow (trimEnd s) := by
  obtain ⟨blanks, hs, hblanks⟩ := trimEnd_append_blanks s
  constructor
  · exact fun hmem => h.no_break (hs ▸ List.mem_append_left blanks hmem)
  · obtain ⟨c, hc, hblank⟩ := h.visible
    rw [hs] at hc
    rcases List.mem_append.mp hc with hc | hc
    · exact ⟨c, hc, hblank⟩
    · rw [hblanks c hc] at hblank
      cases hblank

theorem IsRow.trimStart_append (h : IsRow s) (t : List Char) :
    Text.trimStart (s ++ t) = Text.trimStart s ++ t := by
  obtain ⟨c, hc, -⟩ := h.trimStart.visible
  have hempty : (s.dropWhile isBlank).isEmpty = false :=
    List.isEmpty_eq_false_iff.mpr (List.ne_nil_of_mem hc)
  rw [Text.trimStart, List.dropWhile_append, hempty]
  rfl

theorem IsRow.trimEnd_append (h : IsRow t) (s : List Char) :
    Text.trimEnd (s ++ t) = s ++ Text.trimEnd t := by
  obtain ⟨c, hc, -⟩ := h.trimEnd.visible
  have hempty : (t.reverse.dropWhile isBlank).isEmpty = false :=
    List.isEmpty_eq_false_iff.mpr (List.ne_nil_of_mem (List.mem_reverse.mp hc))
  rw [Text.trimEnd, List.reverse_append, List.dropWhile_append, hempty]
  simp [Text.trimEnd]

def Pads (part text : List Char) : Prop :=
  ∃ lead rest, text = lead ++ (part ++ rest) ∧ (∀ c ∈ lead, isBlank c = true) ∧
    ∀ c ∈ rest, isBlank c = true

theorem pads_trimStart (s : List Char) : Pads (trimStart s) s :=
  ⟨s.takeWhile isBlank, [], by rw [List.append_nil]; exact List.takeWhile_append_dropWhile.symm,
    fun _ hc => List.mem_takeWhile_imp hc, fun _ hc => nomatch hc⟩

theorem pads_trimEnd (s : List Char) : Pads (trimEnd s) s := by
  obtain ⟨blanks, hs, hblanks⟩ := trimEnd_append_blanks s
  exact ⟨[], blanks, hs, fun _ hc => (nomatch hc), hblanks⟩

theorem Pads.refl (s : List Char) : Pads s s :=
  ⟨[], [], by simp, fun _ hc => (nomatch hc), fun _ hc => nomatch hc⟩

theorem Pads.trans (h : Pads part s) (h' : Pads s t) : Pads part t := by
  obtain ⟨lead, rest, rfl, hlead, hrest⟩ := h
  obtain ⟨lead', rest', rfl, hlead', hrest'⟩ := h'
  refine ⟨lead' ++ lead, rest ++ rest', by simp, fun c hc => ?_, fun c hc => ?_⟩
  · exact (List.mem_append.mp hc).elim (hlead' c) (hlead c)
  · exact (List.mem_append.mp hc).elim (hrest c) (hrest' c)

theorem pads_trim (s : List Char) : Pads (trim s) s :=
  (pads_trimEnd (trimStart s)).trans (pads_trimStart s)

theorem trimStart_intercalate (h : ∀ s ∈ above ++ t :: below, IsRow s) :
    ∃ above' part, trimStart (['\n'].intercalate (above ++ t :: below)) =
        ['\n'].intercalate (above' ++ part :: below) ∧ above'.length = above.length ∧
      Pads part t ∧ ∀ s ∈ above' ++ part :: below, IsRow s := by
  cases above with
  | nil =>
    obtain ⟨tail, htail⟩ := exists_intercalate_cons '\n' below
    have hrow := h t List.mem_cons_self
    refine ⟨[], trimStart t, ?_, rfl, pads_trimStart t, fun s hs => ?_⟩
    · rw [List.nil_append, List.nil_append, htail, htail, hrow.trimStart_append]
    · rcases List.mem_cons.mp hs with rfl | hs
      · exact hrow.trimStart
      · exact h s (List.mem_cons_of_mem _ hs)
  | cons first above =>
    obtain ⟨tail, htail⟩ := exists_intercalate_cons '\n' (above ++ t :: below)
    have hrow := h first List.mem_cons_self
    refine ⟨trimStart first :: above, t, ?_, rfl, .refl t, fun s hs => ?_⟩
    · rw [List.cons_append, List.cons_append, htail, htail, hrow.trimStart_append]
    · rcases List.mem_cons.mp hs with rfl | hs
      · exact hrow.trimStart
      · exact h s (List.mem_cons_of_mem _ hs)

theorem trimEnd_intercalate (h : ∀ s ∈ above ++ t :: below, IsRow s) :
    ∃ part below', trimEnd (['\n'].intercalate (above ++ t :: below)) =
        ['\n'].intercalate (above ++ part :: below') ∧ below'.length = below.length ∧
      Pads part t ∧ ∀ s ∈ above ++ part :: below', IsRow s := by
  rcases List.eq_nil_or_concat below with rfl | ⟨middle, last, rfl⟩
  · obtain ⟨front, hfront⟩ := exists_intercalate_concat '\n' above
    have hrow := h t (by simp)
    refine ⟨trimEnd t, [], ?_, rfl, pads_trimEnd t, fun s hs => ?_⟩
    · rw [hfront, hfront, hrow.trimEnd_append]
    · rcases List.mem_append.mp hs with hs | hs
      · exact h s (List.mem_append_left _ hs)
      · exact List.mem_singleton.mp hs ▸ hrow.trimEnd
  · obtain ⟨front, hfront⟩ := exists_intercalate_concat '\n' (above ++ t :: middle)
    have hrow := h last (by simp)
    refine ⟨t, middle ++ [trimEnd last], ?_, by simp, .refl t, fun s hs => ?_⟩
    · have hassoc (x : List Char) : above ++ t :: (middle ++ [x]) = above ++ t :: middle ++ [x] := by
        simp
      rw [List.concat_eq_append, hassoc, hassoc, hfront, hfront, hrow.trimEnd_append]
    · have hs : s ∈ above ++ t :: middle ∨ s = trimEnd last := by simpa [or_assoc] using hs
      rcases hs with hs | rfl
      · exact h s (by
          rw [List.concat_eq_append, ← List.cons_append, ← List.append_assoc]
          exact List.mem_append_left _ hs)
      · exact hrow.trimEnd

theorem isRow_of_mem_splitOn_trim (hne : parts ≠ []) (h : ∀ s ∈ parts, IsRow s) :
    ∀ s ∈ List.splitOn '\n' (trim (['\n'].intercalate parts)), IsRow s := by
  obtain ⟨t, below, rfl⟩ := List.exists_cons_of_ne_nil hne
  have hrows : ∀ s ∈ [] ++ t :: below, IsRow s := h
  obtain ⟨above, middle, hstart, -, -, hrows⟩ := trimStart_intercalate hrows
  obtain ⟨part, below', hstop, -, -, hrows'⟩ := trimEnd_intercalate hrows
  rw [List.nil_append] at hstart
  rw [trim, hstart, hstop,
    List.splitOn_intercalate '\n' (fun s hs => (hrows' s hs).no_break) (by simp)]
  exact hrows'

theorem splitOn_trim_intercalate (h : ∀ s ∈ above ++ t :: below, IsRow s) :
    ∃ above' part below',
      List.splitOn '\n' (trim (['\n'].intercalate (above ++ t :: below))) = above' ++ part :: below' ∧
        above'.length = above.length ∧ below'.length = below.length ∧ Pads part t := by
  obtain ⟨above', middle, hstart, habove, hmiddle, hrows⟩ := trimStart_intercalate h
  obtain ⟨part, below', hstop, hbelow, hpart, hrows'⟩ := trimEnd_intercalate hrows
  refine ⟨above', part, below', ?_, habove, hbelow, hpart.trans hmiddle⟩
  rw [trim, hstart, hstop]
  exact List.splitOn_intercalate '\n' (fun s hs => (hrows' s hs).no_break) (by simp)

end RequestBook.Text
