import Mathlib.Data.List.Basic
import Mathlib.Data.List.Induction
import RequestBook.Proofs.Template
import RequestBook.Proofs.Text.Run

namespace RequestBook.Template

open RequestBook.Text

variable {value : String → Option String}

inductive Longest (value : String → Option String) : List Char → Option (Nat × String) → Prop
  | none {run} : (∀ start, start ≠ [] → start <+: run → value (String.ofList start) = none) →
      Longest value run none
  | some {start rest v} : start ≠ [] → value (String.ofList start) = some v →
      (∀ more, more ≠ [] → more <+: rest → value (String.ofList (start ++ more)) = none) →
      Longest value (start ++ rest) (some (start.length, v))

theorem longestDefined_concat (run : List Char) (c : Char) :
    longestDefined value (run ++ [c]) =
      ((value (String.ofList (run ++ [c]))).map fun v => (run.length + 1, v)).or
        (longestDefined value run) := by
  have hlength : (run ++ [c]).length = run.length + 1 := List.length_append
  have hearlier : ∀ n ∈ (List.range run.length).reverse,
      ((value (String.ofList ((run ++ [c]).take (n + 1)))).map fun v => (n + 1, v)) =
        (value (String.ofList (run.take (n + 1)))).map fun v => (n + 1, v) := by
    intro n hn
    rw [List.mem_reverse, List.mem_range] at hn
    rw [List.take_append_of_le_length hn]
  rw [longestDefined, hlength, List.range_succ, List.reverse_append, List.reverse_singleton,
    List.singleton_append, List.findSome?_cons, ← hlength, List.take_length, longestDefined,
    ← List.head?_filterMap, List.filterMap_congr hearlier, List.head?_filterMap, hlength]
  cases value (String.ofList (run ++ [c])) <;> rfl

theorem longest_longestDefined (run : List Char) : Longest value run (longestDefined value run) := by
  induction run using List.reverseRecOn with
  | nil =>
    refine .none fun start hne hprefix => ?_
    exact absurd (List.prefix_nil.mp hprefix) hne
  | append_singleton run c ih =>
    rw [longestDefined_concat]
    cases hv : value (String.ofList (run ++ [c])) with
    | some v =>
      have hlongest : Longest value (run ++ [c] ++ []) (some ((run ++ [c]).length, v)) :=
        .some (by simp) hv fun more hne hprefix => absurd (List.prefix_nil.mp hprefix) hne
      simpa using hlongest
    | none =>
      rw [Option.map_none, Option.none_or]
      generalize longestDefined value run = found at ih
      cases ih with
      | none hnone =>
        refine .none fun start hne hprefix => ?_
        rcases List.prefix_concat_iff.mp hprefix with rfl | hprefix
        · exact hv
        · exact hnone start hne hprefix
      | @some start rest v hne hvalue hmore =>
        rw [List.append_assoc]
        refine .some hne hvalue fun more hne' hprefix => ?_
        rcases List.prefix_concat_iff.mp hprefix with rfl | hprefix
        · rw [← List.append_assoc]
          exact hv
        · exact hmore more hne' hprefix

/-- What a name and the dollar sign before it become: the longest beginning of the name that has a
value gives way to it, and where there is none all is kept. -/
inductive Becomes (value : String → Option String) : List Char → List Char → Prop
  | kept {name} : (∀ start, start ≠ [] → start <+: name → value (String.ofList start) = none) →
      Becomes value name ('$' :: name)
  | replaced {start rest v} : start ≠ [] → value (String.ofList start) = some v →
      (∀ more, more ≠ [] → more <+: rest → value (String.ofList (start ++ more)) = none) →
      Becomes value (start ++ rest) (v.toList ++ rest)

theorem expand_append_of_notMem {s : List Char} (h : '$' ∉ s) (t : List Char) :
    expand value (s ++ t) = s ++ expand value t := by
  induction s with
  | nil => rfl
  | cons c s ih =>
    simp only [List.mem_cons, not_or] at h
    rw [List.cons_append, expand, if_neg (Ne.symm h.1), ih h.2, List.cons_append]

theorem token?_append {after : List Char} (h : Stops isNameChar after) (rest : List Char) :
    token? value (rest ++ after) = token? value rest := by
  rw [token?, takeWhile_append_left h, token?]

theorem le_length_of_token? {rest : List Char} {length : Nat} {v : String}
    (h : token? value rest = some (length, v)) : length ≤ rest.length := by
  have hlongest : Longest value (rest.takeWhile isNameChar) (token? value rest) :=
    longest_longestDefined _
  rw [h] at hlongest
  generalize hrun : rest.takeWhile isNameChar = run at hlongest
  cases hlongest with
  | @some start more v =>
    have hle := (List.takeWhile_prefix (l := rest) isNameChar).length_le
    rw [hrun, List.length_append] at hle
    omega

theorem expand_append {after : List Char} (h : Stops isNameChar after) (before : List Char) :
    expand value (before ++ after) = expand value before ++ expand value after := by
  fun_induction expand value before with
  | case1 => rfl
  | case2 rest length v htoken ih =>
    rw [List.cons_append, expand, if_pos rfl, token?_append h, htoken]
    dsimp only
    rw [List.drop_append_of_le_length (le_length_of_token? htoken), ih, List.append_assoc]
  | case3 rest htoken ih =>
    rw [List.cons_append, expand, if_pos rfl, token?_append h, htoken]
    dsimp only
    rw [ih, List.cons_append]
  | case4 c rest hc ih =>
    rw [List.cons_append, expand, if_neg hc, ih, List.cons_append]

theorem expand_append_of_slash {a b : List Char} (h : a.getLast? = some '/' ∨ b.head? = some '/') :
    expand value (a ++ b) = expand value a ++ expand value b := by
  rcases h with hlast | hhead
  · obtain ⟨start, rfl⟩ := List.getLast?_eq_some_iff.mp hlast
    have hslash (s : List Char) : expand value ('/' :: s) = '/' :: expand value s := by
      rw [expand, if_neg (by decide)]
    have hempty : expand value [] = [] := by rw [expand]
    rw [List.append_assoc, List.singleton_append, expand_append (stops_cons.mpr rfl),
      expand_append (stops_cons.mpr rfl), hslash, hslash, hempty, List.append_assoc,
      List.singleton_append]
  · obtain ⟨rest, rfl⟩ := List.head?_eq_some_iff.mp hhead
    exact expand_append (stops_cons.mpr rfl) a

theorem expand_dollar {name after : List Char} (hname : ∀ c ∈ name, isNameChar c = true)
    (hafter : Stops isNameChar after) : ∃ piece, Becomes value name piece ∧
      expand value ('$' :: (name ++ after)) = piece ++ expand value after := by
  have hdollar : ∀ {s : List Char}, (∀ c ∈ s, isNameChar c = true) → '$' ∉ s :=
    fun hs hmem => absurd (hs '$' hmem) (by decide)
  have hlongest : Longest value name (longestDefined value name) := longest_longestDefined name
  rw [expand, if_pos rfl, token?, takeWhile_append_of_stops hname hafter]
  generalize longestDefined value name = found at hlongest
  cases hlongest with
  | none hnone =>
    refine ⟨_, .kept hnone, ?_⟩
    dsimp only
    rw [expand_append_of_notMem (hdollar hname), List.cons_append]
  | @some start rest v hne hvalue hmore =>
    refine ⟨_, .replaced hne hvalue hmore, ?_⟩
    dsimp only
    have hrest : '$' ∉ rest := hdollar fun c hc => hname c (List.mem_append_right _ hc)
    rw [List.append_assoc, List.drop_left, expand_append_of_notMem hrest, List.append_assoc]

/-- A name stands between `before` and `after` behind a dollar sign, to its last name character. -/
def Names (name before after text : List Char) : Prop :=
  text = before ++ '$' :: (name ++ after) ∧ Stops isNameChar after

theorem Names.behind {name before after text : List Char} (h : Names name before after text)
    (front : List Char) : Names name (front ++ before) after (front ++ text) :=
  ⟨by rw [h.1, List.append_assoc], h.2⟩

theorem getLast?_ne_slash {before name : List Char} (hname : ∀ c ∈ name, isNameChar c = true) :
    (before ++ '$' :: name).getLast? ≠ some '/' := by
  intro hlast
  rw [List.getLast?_append_of_ne_nil _ (List.cons_ne_nil _ _)] at hlast
  rcases List.mem_cons.mp (List.mem_of_getLast? hlast) with heq | hmem
  · exact absurd heq (by decide)
  · exact absurd (hname _ hmem) (by decide)

theorem Names.before_slash {name before after text back : List Char}
    (h : Names name before after text) (hname : ∀ c ∈ name, isNameChar c = true)
    (hslash : text.getLast? = some '/' ∨ back.head? = some '/') :
    Names name before (after ++ back) (text ++ back) := by
  obtain ⟨rfl, hstops⟩ := h
  refine ⟨by simp, ?_⟩
  cases after with
  | cons c after => exact stops_cons.mpr (stops_cons.mp hstops)
  | nil =>
    rcases hslash with hlast | hhead
    · rw [List.append_nil] at hlast
      exact absurd hlast (getLast?_ne_slash hname)
    · intro c hc
      rw [List.nil_append, hhead, Option.some.injEq] at hc
      rw [← hc]
      decide

theorem names_append_iff {name before after a b : List Char} (hname : ∀ c ∈ name, isNameChar c = true)
    (hslash : a.getLast? = some '/' ∨ b.head? = some '/') :
    Names name before after (a ++ b) ↔
      (∃ back, after = back ++ b ∧ Names name before back a) ∨
        ∃ front, before = a ++ front ∧ Names name front after b := by
  constructor
  · rintro ⟨hsplit, hstops⟩
    rcases append_eq_append_cons hsplit with ⟨rest, rfl⟩ | ⟨front, rfl, rfl⟩
    · have hrest : rest ++ b = name ++ after := by simpa using hsplit
      rcases List.append_eq_append_iff.mp hrest with ⟨beyond, rfl, rfl⟩ | ⟨back, rfl, rfl⟩
      · -- the name cannot go on over the slash
        have hbeyond : beyond = [] := by
          by_contra hne
          rcases hslash with hlast | hhead
          · rw [List.append_assoc, List.singleton_append] at hlast
            exact getLast?_ne_slash (fun c hc => hname c (List.mem_append_left _ hc)) hlast
          · rw [List.head?_append_of_ne_nil _ hne] at hhead
            have hmem := List.mem_append_right rest (List.mem_of_head? hhead)
            exact absurd (hname '/' hmem) (by decide)
        subst hbeyond
        exact .inl ⟨[], rfl, by simp, stops_nil⟩
      · exact .inl ⟨back, rfl, by simp, hstops.left⟩
    · exact .inr ⟨front, rfl, rfl, hstops⟩
  · rintro (⟨back, rfl, h⟩ | ⟨front, rfl, h⟩)
    · exact h.before_slash hname hslash
    · exact h.behind a

theorem names_append_of_notMem {name before after a b : List Char} (h : '$' ∉ a) :
    Names name before after (a ++ b) ↔ ∃ front, before = a ++ front ∧ Names name front after b := by
  constructor
  · rintro ⟨hsplit, hstops⟩
    rcases append_eq_append_cons hsplit with ⟨rest, rfl⟩ | ⟨front, rfl, rfl⟩
    · simp at h
    · exact ⟨front, rfl, rfl, hstops⟩
  · rintro ⟨front, rfl, hnames⟩
    exact hnames.behind a

end RequestBook.Template
