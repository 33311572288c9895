import RequestBook.Template

namespace RequestBook.Template

open RequestBook.Text

/-- The second text is the first with each dollar sign and name replaced by the value of the name.
All else is copied, and so is a dollar sign without a name. -/
inductive Fills (value : String → Option String) : List Char → List Char → Prop
  | nil : Fills value [] []
  | copied {c rest filled} : (c = '$' → rest.takeWhile isNameChar = []) →
      Fills value rest filled → Fills value (c :: rest) (c :: filled)
  | replaced {rest v filled} : rest.takeWhile isNameChar ≠ [] →
      value (String.ofList (rest.takeWhile isNameChar)) = some v →
      Fills value (rest.dropWhile isNameChar) filled →
      Fills value ('$' :: rest) (v.toList ++ filled)

variable {α : Type} {value : String → Option String}

theorem Fills.unique {text filled filled' : List Char} (h : Fills value text filled)
    (h' : Fills value text filled') : filled = filled' := by
  induction h generalizing filled' with
  | nil =>
    cases h'
    rfl
  | copied hc _ ih =>
    cases h' with
    | copied _ h' => rw [ih h']
    | replaced hne _ _ => exact absurd (hc rfl) hne
  | replaced hne hv _ ih =>
    cases h' with
    | copied hc _ => exact absurd (hc rfl) hne
    | replaced _ hv' h' =>
      rw [hv] at hv'
      cases hv'
      rw [ih h']

theorem mem_references_cons {c : Char} {rest name : List Char} :
    name ∈ references (c :: rest) ↔
      c = '$' ∧ rest.takeWhile isNameChar ≠ [] ∧ name = rest.takeWhile isNameChar ∨
        name ∈ references rest := by
  rw [references]
  split
  · rename_i h
    rw [List.mem_cons]
    constructor
    · rintro (rfl | hmem)
      · exact .inl ⟨h.1, h.2, rfl⟩
      · exact .inr hmem
    · rintro (⟨_, _, rfl⟩ | hmem)
      · exact .inl rfl
      · exact .inr hmem
  · rename_i h
    constructor
    · exact .inr
    · rintro (⟨hc, hne, _⟩ | hmem)
      · exact absurd ⟨hc, hne⟩ h
      · exact hmem

theorem mem_references_iff {text name : List Char} :
    name ∈ references text ↔ name ≠ [] ∧ ∃ before after,
      text = before ++ '$' :: after ∧ after.takeWhile isNameChar = name := by
  induction text with
  | nil =>
    constructor
    · intro h
      cases h
    · rintro ⟨-, before, after, hsplit, -⟩
      simp at hsplit
  | cons c rest ih =>
    rw [mem_references_cons, ih]
    constructor
    · rintro (⟨rfl, hne, rfl⟩ | ⟨hne, before, after, rfl, hname⟩)
      · exact ⟨hne, [], rest, rfl, rfl⟩
      · exact ⟨hne, c :: before, after, rfl, hname⟩
    · rintro ⟨hne, before, after, hsplit, rfl⟩
      cases before with
      | nil =>
        cases hsplit
        exact .inl ⟨rfl, hne, rfl⟩
      | cons d before =>
        rw [List.cons_append, List.cons.injEq] at hsplit
        exact .inr ⟨hne, before, after, hsplit.2, rfl⟩

theorem mem_references_of_suffix {s t name : List Char} (h : s <:+ t) (hname : name ∈ references s) :
    name ∈ references t := by
  obtain ⟨before, rfl⟩ := h
  induction before with
  | nil => exact hname
  | cons c before ih => exact mem_references_cons.mpr (.inr ih)

theorem longestDefined_of_eq_some {run : List Char} {v : String} (hne : run ≠ [])
    (h : value (String.ofList run) = some v) : longestDefined value run = some (run.length, v) := by
  obtain ⟨n, hn⟩ : ∃ n, run.length = n + 1 :=
    Nat.exists_eq_succ_of_ne_zero (mt List.length_eq_zero_iff.mp hne)
  rw [longestDefined, hn, List.range_succ, List.reverse_append, List.reverse_singleton,
    List.singleton_append, List.findSome?_cons, ← hn, List.take_length, h]
  rfl

theorem token?_of_eq_nil {rest : List Char} (h : rest.takeWhile isNameChar = []) :
    token? value rest = none := by
  rw [token?, h]
  rfl

theorem drop_length_takeWhile (rest : List Char) :
    rest.drop (rest.takeWhile isNameChar).length = rest.dropWhile isNameChar := by
  conv =>
    lhs
    arg 2
    rw [← List.takeWhile_append_dropWhile (p := isNameChar) (l := rest)]
  exact List.drop_left

def Defined (value : String → Option α) (text : List Char) : Prop :=
  ∀ name ∈ references text, (value (String.ofList name)).isSome = true

theorem Defined.of_suffix {value : String → Option α} {s t : List Char} (h : Defined value t)
    (hs : s <:+ t) : Defined value s := by
  intro name hname
  exact h name (mem_references_of_suffix hs hname)

theorem Defined.token? {rest : List Char} (h : Defined value ('$' :: rest))
    (hne : rest.takeWhile isNameChar ≠ []) :
    ∃ v, value (String.ofList (rest.takeWhile isNameChar)) = some v ∧
      token? value rest = some ((rest.takeWhile isNameChar).length, v) := by
  have hmem := mem_references_cons.mpr (.inl ⟨rfl, hne, rfl⟩)
  obtain ⟨v, hv⟩ := Option.isSome_iff_exists.mp (h _ hmem)
  exact ⟨v, hv, longestDefined_of_eq_some hne hv⟩

theorem fills_expand {text : List Char} (h : Defined value text) :
    Fills value text (expand value text) := by
  fun_induction expand value text with
  | case1 => exact .nil
  | case2 rest length v htoken ih =>
    have hrun : rest.takeWhile isNameChar ≠ [] := by
      intro hnil
      rw [token?_of_eq_nil hnil] at htoken
      cases htoken
    obtain ⟨v', hv', htoken'⟩ := h.token? hrun
    rw [htoken] at htoken'
    cases htoken'
    rw [drop_length_takeWhile] at ih ⊢
    apply Fills.replaced hrun hv'
    exact ih (h.of_suffix ((List.dropWhile_suffix _).trans (List.suffix_cons _ _)))
  | case3 rest htoken ih =>
    refine Fills.copied ?_ (ih (h.of_suffix (List.suffix_cons _ _)))
    intro _
    by_cases hrun : rest.takeWhile isNameChar = []
    · exact hrun
    · obtain ⟨v, -, htoken'⟩ := h.token? hrun
      rw [htoken] at htoken'
      cases htoken'
  | case4 c rest hc ih =>
    refine Fills.copied ?_ (ih (h.of_suffix (List.suffix_cons _ _)))
    intro heq
    exact absurd heq hc

theorem references_of_notMem {text : List Char} (h : '$' ∉ text) : references text = [] := by
  apply List.eq_nil_iff_forall_not_mem.mpr
  intro name hname
  obtain ⟨-, before, after, rfl, -⟩ := mem_references_iff.mp hname
  exact h (List.mem_append_right _ List.mem_cons_self)

theorem mem_references_of_notMem {a b name : List Char} (h : '$' ∉ a)
    (hname : name ∈ references (a ++ b)) : name ∈ references b := by
  induction a with
  | nil => exact hname
  | cons c a ih =>
    obtain ⟨hc, ha⟩ := not_or.mp (mt List.mem_cons.mpr h)
    rcases mem_references_cons.mp hname with ⟨heq, -⟩ | hname
    · exact absurd heq.symm hc
    · exact ih ha hname

theorem takeWhile_append_of_slash {a b : List Char}
    (h : a.getLast? = some '/' ∨ b.head? = some '/') :
    (a ++ b).takeWhile isNameChar = a.takeWhile isNameChar := by
  rw [List.takeWhile_append]
  split
  · rename_i hlength
    have hall : a.takeWhile isNameChar = a :=
      (List.takeWhile_prefix isNameChar).eq_of_length hlength
    rcases h with hlast | hhead
    · have hmem := List.mem_of_getLast? hlast
      rw [← hall] at hmem
      have hname := List.all_eq_true.mp List.all_takeWhile _ hmem
      exact absurd hname (by decide)
    · obtain ⟨rest, rfl⟩ := List.head?_eq_some_iff.mp hhead
      rw [List.takeWhile_cons_of_neg (by decide), List.append_nil, hall]
  · rfl

theorem mem_references_append {a b name : List Char}
    (h : a.getLast? = some '/' ∨ b.head? = some '/') (hname : name ∈ references (a ++ b)) :
    name ∈ references a ∨ name ∈ references b := by
  induction a with
  | nil => exact .inr hname
  | cons c a ih =>
    have hnext : a = [] ∨ (a.getLast? = some '/' ∨ b.head? = some '/') := by
      cases a with
      | nil => exact .inl rfl
      | cons d a =>
        rw [List.getLast?_cons_cons] at h
        exact .inr h
    rw [List.cons_append, mem_references_cons] at hname
    rcases hname with ⟨rfl, hne, rfl⟩ | hname
    · have hslash : a.getLast? = some '/' ∨ b.head? = some '/' := by
        rcases hnext with rfl | hnext
        · exact h.imp_left (fun hlast => absurd hlast (by decide))
        · exact hnext
      rw [takeWhile_append_of_slash hslash] at hne ⊢
      exact .inl (mem_references_cons.mpr (.inl ⟨rfl, hne, rfl⟩))
    · rcases hnext with rfl | hnext
      · exact .inr hname
      · exact (ih hnext hname).imp_left fun hmem => mem_references_cons.mpr (.inr hmem)

end RequestBook.Template
