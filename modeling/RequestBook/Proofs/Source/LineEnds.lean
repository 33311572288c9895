import RequestBook.Source.Query
import RequestBook.Text.Bytes

namespace RequestBook

open RequestBook.Text

def lineEnds (offset : Nat) : List Char → List Nat
  | [] => []
  | '\r' :: '\n' :: rest => (offset + 2) :: lineEnds (offset + 2) rest
  | '\r' :: rest => (offset + 1) :: lineEnds (offset + 1) rest
  | '\n' :: rest => (offset + 1) :: lineEnds (offset + 1) rest
  | c :: rest => lineEnds (offset + c.utf8Size) rest

theorem bounds_of_mem_lineEnds {offset e : Nat} {s : List Char} (h : e ∈ lineEnds offset s) :
    offset < e ∧ e ≤ offset + width s := by
  fun_induction lineEnds offset s with
  | case1 => cases h
  | case2 offset rest ih =>
    rw [width_cons, width_cons, show '\r'.utf8Size = 1 from rfl, show '\n'.utf8Size = 1 from rfl]
    rcases List.mem_cons.mp h with rfl | h
    · omega
    · have := ih h
      omega
  | case3 offset rest _ ih =>
    rw [width_cons, show '\r'.utf8Size = 1 from rfl]
    rcases List.mem_cons.mp h with rfl | h
    · omega
    · have := ih h
      omega
  | case4 offset rest ih =>
    rw [width_cons, show '\n'.utf8Size = 1 from rfl]
    rcases List.mem_cons.mp h with rfl | h
    · omega
    · have := ih h
      omega
  | case5 offset c rest _ _ _ ih =>
    have := ih h
    rw [width_cons]
    omega

theorem pairwise_lineEnds (offset : Nat) (s : List Char) :
    (lineEnds offset s).Pairwise (· < ·) := by
  fun_induction lineEnds offset s with
  | case1 => exact .nil
  | case2 offset rest ih => exact .cons (fun e he => (bounds_of_mem_lineEnds he).1) ih
  | case3 offset rest _ ih => exact .cons (fun e he => (bounds_of_mem_lineEnds he).1) ih
  | case4 offset rest ih => exact .cons (fun e he => (bounds_of_mem_lineEnds he).1) ih
  | case5 offset c rest _ _ _ ih => exact ih

def lineStarts (s : List Char) : List Nat :=
  0 :: lineEnds 0 s

theorem pairwise_lineStarts (s : List Char) : (lineStarts s).Pairwise (· < ·) :=
  .cons (fun _ he => (bounds_of_mem_lineEnds he).1) (pairwise_lineEnds 0 s)

namespace Line

theorem map_start_place (offset : Nat) (s : List Char) :
    (place offset (divide s)).map Line.start = offset :: lineEnds offset s := by
  fun_induction divide s generalizing offset with
  | case1 => rfl
  | case2 rest ih =>
    rw [place, List.map_cons, ih, lineEnds]
    rfl
  | case3 rest hlf ih =>
    rw [place, List.map_cons, ih, lineEnds]
    · rfl
    · exact hlf
  | case4 rest ih =>
    rw [place, List.map_cons, ih, lineEnds]
    rfl
  | case5 c rest hcrlf hcr hlf text ending more heq ih =>
    have ih := ih (offset + c.utf8Size)
    rw [heq, place, List.map_cons, List.cons.injEq] at ih
    rw [place, List.map_cons, width_cons, ← Nat.add_assoc, lineEnds, ← ih.2]
    · exact hcrlf
    · exact hcr
    · exact hlf
  | case6 c rest _ _ _ heq => exact absurd heq (divide_ne_nil rest)

theorem map_start_split (s : List Char) : (split s).map Line.start = lineStarts s :=
  map_start_place 0 s

theorem start_of_place {offset : Nat} {ls : List (List Char × LineBreak)} {before after : List Line}
    {line : Line} (h : place offset ls = before ++ line :: after) :
    line.start = offset + width (before.flatMap contents) := by
  induction before generalizing offset ls with
  | nil =>
    cases ls with
    | nil => cases h
    | cons l ls =>
      rw [place, List.nil_append, List.cons.injEq] at h
      rw [← h.1]
      rfl
  | cons b before ih =>
    cases ls with
    | nil => cases h
    | cons l ls =>
      rw [place, List.cons_append, List.cons.injEq] at h
      rw [ih h.2, List.flatMap_cons, width_append, ← h.1]
      simp only [contents, width_append]
      omega

theorem start_of_split {s : List Char} {before after : List Line} {line : Line}
    (h : split s = before ++ line :: after) : line.start = width (before.flatMap contents) := by
  rw [start_of_place h, Nat.zero_add]

theorem append_of_split {s : List Char} {before after : List Line} {line : Line}
    (h : split s = before ++ line :: after) :
    before.flatMap contents ++ (line.contents ++ after.flatMap contents) = s := by
  rw [← List.flatMap_cons, ← List.flatMap_append, ← h, flatMap_contents_split]

theorem stop_of_split {s : List Char} {before after : List Line} {line : Line}
    (h : split s = before ++ line :: after) :
    (after.head?.map Line.start).getD (width s) =
      width (before.flatMap contents) + width line.contents := by
  cases after with
  | nil =>
    have hs := append_of_split h
    rw [List.flatMap_nil, List.append_nil] at hs
    rw [← hs, width_append]
    rfl
  | cons next rest =>
    rw [List.append_cons] at h
    change next.start = _
    rw [start_of_split h, List.flatMap_append, width_append, List.flatMap_singleton]

theorem split_eq_append {s : List Char} {index : Nat} {line : Line}
    (h : (split s)[index]? = some line) :
    split s = (split s).take index ++ line :: (split s).drop (index + 1) := by
  obtain ⟨hlt, hget⟩ := List.getElem?_eq_some_iff.mp h
  rw [← hget, List.getElem_cons_drop, List.take_append_drop]

theorem slice?_split {s : List Char} {index : Nat} {line : Line}
    (h : (split s)[index]? = some line) :
    slice? line.start (((split s)[index + 1]?.map Line.start).getD (width s)) s =
      some line.contents := by
  have hsplit := split_eq_append h
  rw [← List.head?_drop, stop_of_split hsplit, start_of_split hsplit]
  conv =>
    lhs
    arg 3
    rw [← append_of_split hsplit]
  exact slice?_append _ _ _

theorem map_place (start : Nat) (ls : List (List Char × LineBreak)) :
    (place start ls).map (fun line => (line.text, line.ending)) = ls := by
  induction ls generalizing start with
  | nil => rfl
  | cons l ls ih => rw [place, List.map_cons, ih]

theorem take_place (start n : Nat) (ls : List (List Char × LineBreak)) :
    (place start ls).take n = place start (ls.take n) := by
  induction ls generalizing start n with
  | nil => simp [place]
  | cons l ls ih =>
    cases n with
    | zero => rfl
    | succ n => rw [place, List.take_succ_cons, List.take_succ_cons, place, ih]

theorem map_text_place (offset : Nat) (ls : List (List Char × LineBreak)) :
    (place offset ls).map Line.text = ls.map Prod.fst := by
  induction ls generalizing offset with
  | nil => rfl
  | cons l ls ih => rw [place, List.map_cons, List.map_cons, ih]

theorem mem_of_mem_place {offset : Nat} {ls : List (List Char × LineBreak)} {line : Line}
    (h : line ∈ place offset ls) : (line.text, line.ending) ∈ ls := by
  induction ls generalizing offset with
  | nil => cases h
  | cons l ls ih =>
    rw [place] at h
    rcases List.mem_cons.mp h with rfl | h
    · exact List.mem_cons_self
    · exact List.mem_cons_of_mem _ (ih h)

theorem pairwise_ending_divide (s : List Char) :
    (divide s).Pairwise fun l _ => l.2 ≠ .none := by
  fun_induction divide s with
  | case1 => exact List.pairwise_singleton _ _
  | case2 rest ih => exact .cons (fun _ _ => LineBreak.noConfusion) ih
  | case3 rest _ ih => exact .cons (fun _ _ => LineBreak.noConfusion) ih
  | case4 rest ih => exact .cons (fun _ _ => LineBreak.noConfusion) ih
  | case5 c rest _ _ _ text ending more heq ih =>
    rw [heq, List.pairwise_cons] at ih
    exact .cons ih.1 ih.2
  | case6 c rest _ _ _ heq => exact absurd heq (divide_ne_nil rest)

theorem pairwise_ending_split (s : List Char) :
    (split s).Pairwise fun line _ => line.ending ≠ .none := by
  have hpairwise := pairwise_ending_divide s
  rw [← map_place 0 (divide s), List.pairwise_map] at hpairwise
  exact hpairwise

theorem le_start_of_mem_place {offset : Nat} {ls : List (List Char × LineBreak)} {line : Line}
    (h : line ∈ place offset ls) : offset ≤ line.start := by
  induction ls generalizing offset with
  | nil => cases h
  | cons l ls ih =>
    rw [place] at h
    rcases List.mem_cons.mp h with rfl | h
    · exact Nat.le_refl _
    · have := ih h
      omega

theorem pairwise_stop_place (offset : Nat) {ls : List (List Char × LineBreak)}
    (h : ls.Pairwise fun l _ => l.2 ≠ .none) :
    (place offset ls).Pairwise fun a b => a.stop < b.start := by
  induction ls generalizing offset with
  | nil => exact .nil
  | cons l ls ih =>
    obtain ⟨text, ending⟩ := l
    rw [List.pairwise_cons] at h
    refine .cons ?_ (ih _ h.2)
    intro line hline
    have hending : ending ≠ .none := h.1 _ (mem_of_mem_place hline)
    have hpos : 0 < width ending.chars := by
      cases ending with
      | none => exact absurd rfl hending
      | lf | cr | crlf => decide
    have hle := le_start_of_mem_place hline
    change offset + width text < line.start
    omega

theorem pairwise_stop_split (s : List Char) :
    (split s).Pairwise fun a b => a.stop < b.start :=
  pairwise_stop_place 0 (pairwise_ending_divide s)

theorem isLineEnd_of_mem_split {s : List Char} {line : Line} (h : line ∈ split s) :
    ∀ c ∈ line.text, isLineEnd c = false :=
  isLineEnd_of_mem_divide (mem_of_mem_place h)

end Line

theorem isBoundary_of_mem_lineStarts {s : List Char} {start : Nat} (h : start ∈ lineStarts s) :
    isBoundary start s = true := by
  rw [← Line.map_start_split] at h
  obtain ⟨line, hline, rfl⟩ := List.mem_map.mp h
  obtain ⟨before, after, heq⟩ := List.append_of_mem hline
  exact isBoundary_iff.mpr ⟨_, _, (Line.append_of_split heq).symm, (Line.start_of_split heq).symm⟩

theorem filter_le_append_filter_lt {xs : List Nat} (h : xs.Pairwise (· < ·)) (n : Nat) :
    xs.filter (fun x => decide (x ≤ n)) ++ xs.filter (fun x => decide (n < x)) = xs := by
  induction xs with
  | nil => rfl
  | cons x xs ih =>
    rw [List.pairwise_cons] at h
    by_cases hx : x ≤ n
    · have hnot : ¬n < x := Nat.not_lt.mpr hx
      simp [hx, hnot, ih h.2]
    · have hlt : n < x := Nat.not_le.mp hx
      have hle : xs.filter (fun y => decide (y ≤ n)) = [] := by
        apply List.filter_eq_nil_iff.mpr
        intro y hy
        simp [Nat.lt_trans hlt (h.1 y hy)]
      have hself : xs.filter (fun y => decide (n < y)) = xs := by
        apply List.filter_eq_self.mpr
        intro y hy
        simp [Nat.lt_trans hlt (h.1 y hy)]
      simp [hx, hlt, hle, hself]

def startsUpTo (s : List Char) (offset : Nat) : List Nat :=
  (lineStarts s).filter fun start => decide (start ≤ offset)

theorem startsUpTo_eq_cons (s : List Char) (offset : Nat) :
    startsUpTo s offset = 0 :: (lineEnds 0 s).filter (fun e => decide (e ≤ offset)) := by
  simp [startsUpTo, lineStarts]

end RequestBook
