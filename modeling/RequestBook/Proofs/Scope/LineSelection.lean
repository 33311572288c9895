import RequestBook.Proofs.Grammar.Extent
import RequestBook.Proofs.Scope.Resolution

namespace RequestBook

namespace Scope

def chosen? (book : Book) (line : Nat) : Option Request :=
  ((initial book line).replay book.entries).request

def atLine (scope : Scope) (line : Nat) : Scope :=
  { scope with line := line }

theorem mem_of_selects {lines : Lines} {line : Nat} {entries before : List Entry}
    {chosen : Option Request} (h : Selects lines line entries chosen before) :
    (∀ e ∈ before, e ∈ entries) ∧ ∀ r, chosen = some r → .request r ∈ entries := by
  cases h with
  | nothing => exact ⟨fun _ he => he, fun _ hr => nomatch hr⟩
  | request hfirst =>
    obtain ⟨after, rfl⟩ := hfirst.split
    refine ⟨fun e he => List.mem_append_left _ he, fun r hr => ?_⟩
    cases hr
    exact List.mem_append_right _ List.mem_cons_self

theorem chosen?_of_selects {book : Book} {line : Nat} {chosen : Option Request}
    {before : List Entry} (h : Selects book.lines line book.entries chosen before) :
    chosen? book line = chosen := by
  rw [chosen?, replay_of_selects h rfl]

theorem covers_of_chosen? {book : Book} {line : Nat} {r : Request}
    (h : chosen? book line = some r) : Entry.Covers book.lines line (.request r) := by
  obtain ⟨chosen, before, hselects⟩ := exists_selects book.lines line book.entries
  rw [chosen?_of_selects hselects] at h
  subst h
  cases hselects with
  | request hfirst => exact hfirst.holds

theorem resolve_eq_error_iff {book : Book} {line : Nat} {e : ResolveError} :
    resolve book line = .error e ↔ ∃ r name, chosen? book line = some r ∧
      r.processor = some name ∧ book.processor? name = none ∧ e = .missingProcessor name :=
  bindProcessor_eq_error_iff

theorem request_of_resolve {book : Book} {line : Nat} {scope : Scope}
    (h : resolve book line = .ok scope) : scope.request = chosen? book line := by
  rw [resolve, bindProcessor] at h
  split at h
  · cases h
    rfl
  · split at h
    · cases h
      rfl
    · cases h

theorem exists_selects_of_resolve {book : Book} {line : Nat} {scope : Scope}
    (h : resolve book line = .ok scope) :
    ∃ before, Selects book.lines line book.entries scope.request before := by
  obtain ⟨chosen, before, hselects⟩ := exists_selects book.lines line book.entries
  rw [request_of_resolve h, chosen?_of_selects hselects]
  exact ⟨before, hselects⟩

theorem request_mem_of_resolve {book : Book} {line : Nat} {scope : Scope} {r : Request}
    (h : resolve book line = .ok scope) (hr : scope.request = some r) :
    .request r ∈ book.entries := by
  obtain ⟨before, hselects⟩ := exists_selects_of_resolve h
  exact (mem_of_selects hselects).2 r hr

theorem assign_atLine (scope : Scope) (line : Nat) (d : Definition) :
    (scope.atLine line).assign d = (scope.assign d).atLine line := by
  cases h : d.kind <;> simp [assign, atLine, h]

theorem foldl_assign_atLine (scope : Scope) (line : Nat) (ds : List Definition) :
    ds.foldl assign (scope.atLine line) = (ds.foldl assign scope).atLine line := by
  induction ds generalizing scope with
  | nil => rfl
  | cons d ds ih => rw [List.foldl_cons, assign_atLine, ih, List.foldl_cons]

theorem request_atLine (scope : Scope) (line : Nat) :
    (scope.atLine line).request = scope.request :=
  rfl

theorem bindProcessor_atLine (book : Book) (scope : Scope) (line : Nat) :
    (scope.atLine line).bindProcessor book =
      (scope.bindProcessor book).map fun bound => bound.atLine line := by
  rw [bindProcessor, bindProcessor, request_atLine]
  cases scope.request.bind Request.processor with
  | none => rfl
  | some name =>
    dsimp only
    cases book.processor? name <;> rfl

theorem ofChosen_atLine (book : Book) (m n : Nat) (chosen : Option Request)
    (before : List Entry) :
    ofChosen book n chosen before = (ofChosen book m chosen before).atLine n := by
  have hinitial : initial book n = (initial book m).atLine n := rfl
  rw [ofChosen, hinitial, foldl_assign_atLine]
  rfl

theorem resolve_eq_of_selects {book : Book} {m n : Nat} {chosen : Option Request}
    {before : List Entry} (hm : Selects book.lines m book.entries chosen before)
    (hn : Selects book.lines n book.entries chosen before) :
    resolve book n = (resolve book m).map fun scope => scope.atLine n := by
  rw [resolve_of_selects hn, resolve_of_selects hm, ofChosen_atLine book m n,
    bindProcessor_atLine]

end Scope

namespace Book

/-- The lines of an entry lie before those of every later one. -/
def IsApart (book : Book) : Prop :=
  book.entries.Pairwise fun a b =>
    (book.lines.lineRange a.span).2 < (book.lines.lineRange b.span).1

theorem isApart_of_parse {source : String} {book : Book} (h : parse source = .ok book) :
    book.IsApart :=
  (List.pairwise_map.mp (pairwise_before_of_parse h)).imp Lines.lineRange_lt_of_before

namespace IsApart

variable {book : Book} {r : Request} {m n : Nat}

theorem nodup (h : book.IsApart) : book.entries.Nodup := by
  apply h.imp
  rintro a b hlt rfl
  exact Nat.not_lt.mpr (Lines.lineRange_fst_le_snd book.lines a.span) hlt

theorem selects (h : book.IsApart) {before after : List Entry}
    (hsplit : book.entries = before ++ .request r :: after)
    (hcovers : Entry.Covers book.lines n (.request r)) :
    Selects book.lines n book.entries (some r) before := by
  refine .request ⟨⟨after, hsplit⟩, hcovers, ?_⟩
  intro e he hcovers'
  cases e with
  | request r' =>
    rw [IsApart, hsplit, List.pairwise_append] at h
    have hlt : (book.lines.lineRange r'.span).2 < (book.lines.lineRange r.span).1 :=
      h.2.2 _ he _ List.mem_cons_self
    have hle : n ≤ (book.lines.lineRange r'.span).2 := hcovers'.2
    have hge : (book.lines.lineRange r.span).1 ≤ n := hcovers.1
    omega
  | definition | environment | processor => exact hcovers'

theorem chosen?_eq_some_iff (h : book.IsApart) (hr : .request r ∈ book.entries) :
    Scope.chosen? book n = some r ↔ Entry.Covers book.lines n (.request r) := by
  constructor
  · exact Scope.covers_of_chosen?
  · intro hcovers
    obtain ⟨before, after, hsplit⟩ := List.append_of_mem hr
    exact Scope.chosen?_of_selects (h.selects hsplit hcovers)

theorem resolve_of_covers (h : book.IsApart) (hr : .request r ∈ book.entries)
    (hm : Entry.Covers book.lines m (.request r)) (hn : Entry.Covers book.lines n (.request r)) :
    Scope.resolve book n = (Scope.resolve book m).map fun scope => scope.atLine n := by
  obtain ⟨before, after, hsplit⟩ := List.append_of_mem hr
  exact Scope.resolve_eq_of_selects (h.selects hsplit hm) (h.selects hsplit hn)

end IsApart

theorem covers_first (book : Book) (r : Request) :
    Entry.Covers book.lines (book.lines.lineOf r.span.start) (.request r) :=
  ⟨Nat.le_refl _, Lines.lineRange_fst_le_snd book.lines r.span⟩

end Book

theorem Scope.resolve_of_not_covers {book : Book} {m n : Nat}
    (hm : ∀ e ∈ book.entries, ¬e.Covers book.lines m)
    (hn : ∀ e ∈ book.entries, ¬e.Covers book.lines n) :
    ∃ scope, resolve book m = .ok scope ∧ scope.request = none ∧ scope.processor = none ∧
      resolve book n = .ok (scope.atLine n) := by
  have hselects : Selects book.lines m book.entries none book.entries := .nothing hm
  have hm' : resolve book m = .ok (ofChosen book m none book.entries) :=
    resolve_of_selects hselects
  refine ⟨ofChosen book m none book.entries, hm', rfl, processor_foldl_assign _ _, ?_⟩
  rw [resolve_eq_of_selects hselects (.nothing hn), hm']
  rfl

end RequestBook
