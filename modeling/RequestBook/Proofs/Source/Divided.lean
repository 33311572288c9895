import RequestBook.Proofs.Source.Join

namespace RequestBook

open RequestBook.Text

namespace Line

inductive Divided : List (List Char × LineBreak) → Prop
  | last {text} : (∀ c ∈ text, isLineEnd c = false) → Divided [(text, .none)]
  | cons {text ending ls} : (∀ c ∈ text, isLineEnd c = false) → ending ≠ .none →
      (ending = .cr → ls.head? ≠ some ([], .lf)) → Divided ls → Divided ((text, ending) :: ls)

variable {text kept dropped : List Char} {ending : LineBreak}
  {before ls after : List (List Char × LineBreak)}

theorem Divided.ne_nil (h : Divided ls) : ls ≠ [] := by
  cases h <;> exact List.cons_ne_nil _ _

theorem Divided.isLineEnd_of_mem (h : Divided ((text, ending) :: ls)) :
    ∀ c ∈ text, isLineEnd c = false := by
  cases h <;> assumption

theorem Divided.append_text (h : Divided ((text, ending) :: ls))
    (hkept : ∀ c ∈ kept, isLineEnd c = false) : Divided ((kept ++ text, ending) :: ls) := by
  have happend {text : List Char} (htext : ∀ c ∈ text, isLineEnd c = false) :
      ∀ c ∈ kept ++ text, isLineEnd c = false := by
    intro c hc
    exact (List.mem_append.mp hc).elim (hkept c) (htext c)
  cases h with
  | last htext => exact .last (happend htext)
  | cons htext hending hcr hls => exact .cons (happend htext) hending hcr hls

theorem Divided.drop_text (h : Divided ((dropped ++ kept, ending) :: ls)) :
    Divided ((kept, ending) :: ls) := by
  have hdrop {text : List Char} (htext : ∀ c ∈ dropped ++ text, isLineEnd c = false) :
      ∀ c ∈ text, isLineEnd c = false :=
    fun c hc => htext c (List.mem_append_right dropped hc)
  cases h with
  | last htext => exact .last (hdrop htext)
  | cons htext hending hcr hls => exact .cons (hdrop htext) hending hcr hls

theorem divided_divide (s : List Char) : Divided (divide s) := by
  fun_induction divide s with
  | case1 => exact .last (by simp)
  | case2 rest ih => exact .cons (by simp) LineBreak.noConfusion LineBreak.noConfusion ih
  | case3 rest hlf ih =>
    refine .cons (by simp) LineBreak.noConfusion (fun _ hhead => ?_) ih
    obtain ⟨more, hmore⟩ := List.head?_eq_some_iff.mp hhead
    have hrest := textOf_divide rest
    rw [hmore] at hrest
    exact hlf _ hrest.symm
  | case4 rest ih => exact .cons (by simp) LineBreak.noConfusion LineBreak.noConfusion ih
  | case5 c rest hcrlf hcr hlf text ending more heq ih =>
    rw [heq] at ih
    have hc : ∀ d ∈ [c], isLineEnd d = false := by
      simp [isLineEnd]
      exact ⟨hlf, hcr⟩
    exact ih.append_text hc
  | case6 c rest _ _ _ heq => exact absurd heq (divide_ne_nil rest)

theorem divide_append (htext : ∀ c ∈ text, isLineEnd c = false) {s : List Char}
    (hs : divide s = ([], ending) :: ls) : divide (text ++ s) = (text, ending) :: ls := by
  induction text with
  | nil => exact hs
  | cons c text ih =>
    rw [List.cons_append, divide_cons (htext c List.mem_cons_self),
      ih fun d hd => htext d (List.mem_cons_of_mem _ hd), glue]

theorem Divided.textOf_ne_lf (h : Divided ls) (hhead : ls.head? ≠ some ([], .lf)) (s : List Char) :
    textOf ls ≠ '\n' :: s := by
  intro heq
  obtain ⟨⟨text, ending⟩, ls, rfl⟩ := List.exists_cons_of_ne_nil h.ne_nil
  cases text with
  | cons c text =>
    cases heq
    exact absurd (h.isLineEnd_of_mem '\n' List.mem_cons_self) (by decide)
  | nil =>
    cases h with
    | last _ => cases heq
    | cons _ hending _ _ =>
      cases ending with
      | none => exact hending rfl
      | lf => exact hhead rfl
      | cr | crlf => cases heq

theorem Divided.divide_textOf (h : Divided ls) : divide (textOf ls) = ls := by
  induction h with
  | @last text htext => simpa using divide_of_oneLine htext
  | @cons text ending ls htext hending hcr hls ih =>
    rw [textOf_cons, List.append_assoc]
    refine divide_append htext ?_
    cases ending with
    | none => exact absurd rfl hending
    | lf | crlf => exact congrArg (_ :: ·) ih
    | cr => exact (divide_cr (hls.textOf_ne_lf (hcr rfl))).trans (congrArg (_ :: ·) ih)

theorem Divided.tail (h : Divided ((text, ending) :: ls)) (hne : ls ≠ []) :
    ending ≠ .none ∧ (ending = .cr → ls.head? ≠ some ([], .lf)) ∧ Divided ls := by
  cases h with
  | last _ => exact absurd rfl hne
  | cons _ hending hcr hls => exact ⟨hending, hcr, hls⟩

theorem Divided.of_append (h : Divided (before ++ ls)) (hne : ls ≠ []) : Divided ls := by
  induction before with
  | nil => exact h
  | cons l before ih =>
    have hmore : before ++ ls ≠ [] := fun hnil => hne (List.append_eq_nil_iff.mp hnil).2
    exact ih (h.tail hmore).2.2

theorem Divided.textOf_eq_nil (h : Divided ((text, ending) :: ls)) (hending : ending = .none) :
    textOf ls = [] := by
  cases h with
  | last _ => rfl
  | cons _ hne _ _ => exact absurd hending hne

theorem Divided.cut (h : Divided (before ++ (kept ++ dropped, ending) :: after)) :
    Divided (before ++ [(kept, .none)]) := by
  induction before with
  | nil => exact .last fun c hc => h.isLineEnd_of_mem c (List.mem_append_left dropped hc)
  | cons l before ih =>
    obtain ⟨hending, hcr, hls⟩ := h.tail (by simp)
    refine .cons h.isLineEnd_of_mem hending (fun hl => ?_) (ih hls)
    cases before with
    | nil => simp
    | cons m before => exact hcr hl

theorem exists_of_place_eq_append {start : Nat} {before after : List Line}
    (h : place start ls = before ++ after) : ∃ ls₁ ls₂, ls = ls₁ ++ ls₂ ∧
      before = place start ls₁ ∧ after = place (start + width (textOf ls₁)) ls₂ := by
  induction before generalizing start ls with
  | nil => exact ⟨[], ls, rfl, rfl, h.symm⟩
  | cons line before ih =>
    cases ls with
    | nil => cases h
    | cons l ls =>
      obtain ⟨hline, hrest⟩ := List.cons.inj h
      obtain ⟨ls₁, ls₂, rfl, hbefore, hafter⟩ := ih hrest
      refine ⟨l :: ls₁, ls₂, rfl, by rw [← hline, hbefore]; rfl, ?_⟩
      rw [hafter, textOf_cons, width_append, width_append]
      simp only [Nat.add_assoc]

theorem exists_of_place_eq_concat {start : Nat} {init : List Line} {last : Line}
    (h : place start ls = init ++ [last]) : ∃ before, ls = before ++ [(last.text, last.ending)] ∧
      init = place start before ∧ last.start = start + width (textOf before) := by
  obtain ⟨before, ls₁, rfl, hinit, hlast⟩ := exists_of_place_eq_append h
  obtain _ | ⟨l, _ | _⟩ := ls₁
  · cases hlast
  · cases hlast
    exact ⟨before, rfl, hinit, rfl⟩
  · cases hlast

end Line

end RequestBook
