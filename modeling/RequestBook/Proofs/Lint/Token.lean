import RequestBook.Lint.Undefined
import RequestBook.Proofs.Grammar.Layout
import RequestBook.Proofs.Template

namespace RequestBook

open RequestBook.Text

namespace Lint

def Occurs (token text before : List Char) : Prop :=
  ∃ after, text = before ++ (token ++ after) ∧ Stops isNameChar after

variable {token name text lead part rest before : List Char}

theorem occurs_nil_iff : Occurs token text [] ↔
    (token.isPrefixOf text && !(text.drop token.length).head?.any isNameChar) = true := by
  rw [Bool.and_eq_true, Bool.not_eq_true', ← stops_iff_head?, List.isPrefixOf_iff_prefix]
  constructor
  · rintro ⟨after, rfl, hstops⟩
    rw [List.nil_append, List.drop_left]
    exact ⟨List.prefix_append token after, hstops⟩
  · rintro ⟨⟨after, rfl⟩, hstops⟩
    rw [List.drop_left] at hstops
    exact ⟨after, rfl, hstops⟩

theorem occurs_cons_iff {c d : Char} :
    Occurs token (c :: text) (d :: before) ↔ c = d ∧ Occurs token text before := by
  constructor
  · rintro ⟨after, htext, hstops⟩
    obtain ⟨rfl, rfl⟩ := List.cons.inj htext
    exact ⟨rfl, after, rfl, hstops⟩
  · rintro ⟨rfl, after, rfl, hstops⟩
    exact ⟨after, rfl, hstops⟩

theorem occurs_of_findToken {n : Nat} (h : findToken token text = some n) :
    ∃ before, before.length = n ∧ Occurs token text before := by
  induction text generalizing n with
  | nil => cases h
  | cons c text ih =>
    rw [findToken] at h
    split at h
    · rename_i hhere
      cases h
      exact ⟨[], rfl, occurs_nil_iff.mpr hhere⟩
    · obtain ⟨m, hm, rfl⟩ := Option.map_eq_some_iff.mp h
      obtain ⟨before, rfl, hoccurs⟩ := ih hm
      exact ⟨c :: before, rfl, occurs_cons_iff.mpr ⟨rfl, hoccurs⟩⟩

theorem findToken_le_of_occurs (htoken : token ≠ []) (h : Occurs token text before) :
    ∃ n ≤ before.length, findToken token text = some n := by
  induction text generalizing before with
  | nil =>
    obtain ⟨after, htext, -⟩ := h
    simp [htoken] at htext
  | cons c text ih =>
    rw [findToken]
    split
    · exact ⟨0, Nat.zero_le _, rfl⟩
    · rename_i hhere
      cases before with
      | nil => exact absurd (occurs_nil_iff.mp h) hhere
      | cons d before =>
        obtain ⟨n, hle, hn⟩ := ih (occurs_cons_iff.mp h).2
        exact ⟨n + 1, Nat.succ_le_succ hle, by rw [hn]; rfl⟩

theorem Occurs.within (h : Occurs token part before) (hrest : Stops isNameChar rest)
    (lead : List Char) : Occurs token (lead ++ (part ++ rest)) (lead ++ before) := by
  obtain ⟨after, rfl, hstops⟩ := h
  exact ⟨after ++ rest, by simp, hstops.append hrest⟩

theorem Occurs.cases_of_append (hname : ∀ c ∈ name, isNameChar c = true) (hlead : '$' ∉ lead)
    (hrest : Stops (fun c => !isBlank c) rest)
    (h : Occurs ('$' :: name) (lead ++ (part ++ rest)) before) :
    (∃ x, before = lead ++ x ∧ Occurs ('$' :: name) part x) ∨
      ∃ x, before = lead ++ (part ++ x) ∧ Occurs ('$' :: name) rest x := by
  obtain ⟨after, htext, hstops⟩ := h
  rw [List.cons_append] at htext
  rcases append_eq_append_cons htext with ⟨more, rfl⟩ | ⟨x, rfl, htail⟩
  · exact absurd (List.mem_append_left more (List.mem_append_right before List.mem_cons_self)) hlead
  rcases append_eq_append_cons htail with ⟨more, hpart⟩ | ⟨x, rfl, hrest'⟩
  · refine .inl ⟨_, rfl, ?_⟩
    rw [hpart, List.append_assoc, List.append_assoc, List.append_cancel_left_eq,
      List.singleton_append, List.cons.injEq] at htail
    -- the name cannot go on across the blank that divides the parts
    rcases List.append_eq_append_iff.mp htail.2 with ⟨excess, rfl, rfl⟩ | ⟨left, rfl, rfl⟩
    · cases excess with
      | nil => exact ⟨[], by simpa using hpart, stops_nil⟩
      | cons c excess =>
        have hblank := stops_cons.mp hrest
        rw [isBlank_of_isNameChar (hname c (by simp))] at hblank
        cases hblank
    · exact ⟨left, by simpa using hpart, hstops.left⟩
  · exact .inr ⟨x, rfl, after, hrest', hstops⟩

theorem Occurs.dollar_mem (h : Occurs ('$' :: name) text before) : '$' ∈ text := by
  obtain ⟨after, rfl, -⟩ := h
  simp

theorem Occurs.length_lt (h : Occurs ('$' :: name) text before) : before.length < text.length := by
  obtain ⟨after, rfl, -⟩ := h
  simp only [List.length_append, List.length_cons]
  omega

theorem not_occurs_of_blank (h : ∀ c ∈ text, isBlank c = true) :
    ¬Occurs ('$' :: name) text before := by
  intro hoccurs
  exact absurd (h '$' hoccurs.dollar_mem) (by decide)

theorem Occurs.of_pads (hpads : Pads part text) (h : Occurs token part before) :
    ∃ x, Occurs token text x := by
  obtain ⟨lead, rest, rfl, -, hrest⟩ := hpads
  exact ⟨lead ++ before, h.within (stops_isNameChar (stops_of_blank hrest)) lead⟩

theorem Occurs.exists_of_pads (hname : ∀ c ∈ name, isNameChar c = true) (hpads : Pads part text)
    (h : Occurs ('$' :: name) text before) : ∃ lead rest x, text = lead ++ (part ++ rest) ∧
      (∀ c ∈ lead, isBlank c = true) ∧ (∀ c ∈ rest, isBlank c = true) ∧ before = lead ++ x ∧
        Occurs ('$' :: name) part x := by
  obtain ⟨lead, rest, rfl, hlead, hrest⟩ := hpads
  have hdollar : '$' ∉ lead := fun hmem => absurd (hlead '$' hmem) (by decide)
  rcases h.cases_of_append hname hdollar (stops_of_blank hrest) with ⟨x, rfl, hx⟩ | ⟨x, -, hx⟩
  · exact ⟨lead, rest, x, rfl, hlead, hrest, rfl, hx⟩
  · exact absurd hx (not_occurs_of_blank hrest)

theorem Occurs.exists_of_intercalate (hname : ∀ c ∈ name, isNameChar c = true)
    {parts : List (List Char)} (h : Occurs ('$' :: name) (['\n'].intercalate parts) before) :
    ∃ part ∈ parts, ∃ x, Occurs ('$' :: name) part x := by
  induction parts generalizing before with
  | nil => exact absurd h (not_occurs_of_blank (List.forall_mem_nil _))
  | cons part parts ih =>
    cases parts with
    | nil =>
      rw [List.intercalate_singleton] at h
      exact ⟨part, List.mem_cons_self, before, h⟩
    | cons next parts =>
      rw [List.intercalate_cons_cons, List.append_assoc, ← List.nil_append (part ++ _)] at h
      rcases h.cases_of_append hname (List.not_mem_nil) (stops_cons.mpr rfl) with
        ⟨x, -, hx⟩ | ⟨x, -, hx⟩
      · exact ⟨part, List.mem_cons_self, x, hx⟩
      · cases x with
        | nil =>
          obtain ⟨after, htext, -⟩ := hx
          cases htext
        | cons c x =>
          obtain ⟨part', hpart', hx'⟩ := ih (occurs_cons_iff.mp hx).2
          exact ⟨part', List.mem_cons_of_mem _ hpart', hx'⟩

theorem occurs_of_mem_references (h : name ∈ Template.references text) :
    name ≠ [] ∧ (∀ c ∈ name, isNameChar c = true) ∧ ∃ before, Occurs ('$' :: name) text before := by
  obtain ⟨hne, before, after, rfl, rfl⟩ := Template.mem_references_iff.mp h
  refine ⟨hne, fun c hc => List.mem_takeWhile_imp hc, before, after.dropWhile isNameChar, ?_,
    stops_dropWhile _ _⟩
  rw [List.cons_append, List.takeWhile_append_dropWhile]

def StandsAt (lines : Lines) (token : List Char) (p : Position) : Prop :=
  ∃ text before, lines.text? p.line = some text ∧ Occurs token text before ∧
    p.column = before.length + 1

/-- On the lines of a range the token stands at the position, and nowhere before it. -/
structure IsFirst (lines : Lines) (range : Nat × Nat) (token : List Char) (p : Position) : Prop where
  within : range.1 ≤ p.line ∧ p.line ≤ range.2
  stands : StandsAt lines token p
  first : ∀ q, range.1 ≤ q.line → StandsAt lines token q →
    p.line < q.line ∨ p.line = q.line ∧ p.column ≤ q.column

def warningAt (p : Position) (token : List Char) : Diagnostic :=
  (Diagnostic.warning p.line p.column (undefinedMessage token)).upTo (p.column + token.length)

theorem text?_of_split {lines passed after : List Line} {line : Line}
    (h : lines = passed ++ line :: after) :
    Lines.text? lines (passed.length + 1) = some line.text := by
  rw [Lines.text?, if_neg (Nat.succ_ne_zero _), h, Nat.add_sub_cancel,
    List.getElem?_append_right (Nat.le_refl _), Nat.sub_self, List.getElem?_cons_zero,
    Option.map_some]

theorem isFirst_of_findToken {lines passed after : List Line} {line : Line} {last n : Nat}
    (hsplit : lines = passed ++ line :: after) (htoken : token ≠ [])
    (hfind : findToken token line.text = some n) (hlast : passed.length + 1 ≤ last) :
    IsFirst lines (passed.length + 1, last) token ⟨passed.length + 1, n + 1⟩ := by
  have htext : Lines.text? lines (passed.length + 1) = some line.text := text?_of_split hsplit
  obtain ⟨before, rfl, hbefore⟩ := occurs_of_findToken hfind
  refine ⟨⟨Nat.le_refl _, hlast⟩, ⟨_, before, htext, hbefore, rfl⟩, ?_⟩
  rintro q hq ⟨text, before', htext', hbefore', hcolumn⟩
  rcases Nat.lt_or_eq_of_le hq with hlt | heq
  · exact .inl hlt
  · rw [← heq, htext, Option.some.injEq] at htext'
    subst htext'
    obtain ⟨n, hle, hn⟩ := findToken_le_of_occurs htoken hbefore'
    rw [hfind, Option.some.injEq] at hn
    exact .inr ⟨heq, hcolumn ▸ Nat.succ_le_succ (hn ▸ hle)⟩

theorem IsFirst.extend {lines passed after : List Line} {line : Line} {last : Nat} {p : Position}
    (h : IsFirst lines (passed.length + 2, last) token p)
    (hsplit : lines = passed ++ line :: after) (hnot : ∀ before, ¬Occurs token line.text before) :
    IsFirst lines (passed.length + 1, last) token p := by
  refine ⟨h.within.imp_left Nat.le_of_succ_le, h.stands, fun q hq hstands => ?_⟩
  rcases Nat.lt_or_eq_of_le hq with hlt | heq
  · exact h.first q hlt hstands
  · obtain ⟨text, before, htext, hbefore, -⟩ := hstands
    rw [← heq, text?_of_split hsplit, Option.some.injEq] at htext
    exact absurd (htext ▸ hbefore) (hnot before)

theorem exists_findLine {lines passed block after : List Line}
    (hlines : lines = passed ++ (block ++ after)) (htoken : token ≠ [])
    (hoccurs : ∃ line ∈ block, ∃ before, Occurs token line.text before) :
    ∃ p, findLine token (passed.length + 1) block = some p ∧
      IsFirst lines (passed.length + 1, passed.length + block.length) token p := by
  induction block generalizing passed with
  | nil =>
    obtain ⟨_, hline, -⟩ := hoccurs
    cases hline
  | cons line block ih =>
    rw [findLine]
    cases hfind : findToken token line.text with
    | some n => exact ⟨_, rfl, isFirst_of_findToken hlines htoken hfind (by simp)⟩
    | none =>
      have hnot (before : List Char) : ¬Occurs token line.text before := by
        intro hbefore
        obtain ⟨n, -, hn⟩ := findToken_le_of_occurs htoken hbefore
        rw [hfind] at hn
        cases hn
      have hlines' : lines = (passed ++ [line]) ++ (block ++ after) := by simp [hlines]
      obtain ⟨l, hl, before, hbefore⟩ := hoccurs
      have hl : l ∈ block := (List.mem_cons.mp hl).resolve_left fun heq => hnot before (heq ▸ hbefore)
      obtain ⟨p, hp, hfirst⟩ := ih hlines' ⟨l, hl, before, hbefore⟩
      rw [List.length_append, List.length_singleton] at hp hfirst
      refine ⟨p, hp, ?_⟩
      rw [List.length_cons, Nat.add_comm block.length, ← Nat.add_assoc]
      exact hfirst.extend hlines hnot

theorem locate_of_occurs {lines passed block after : List Line} {owner : Span}
    (hlines : lines = passed ++ (block ++ after))
    (hrange : Lines.lineRange lines owner =
      (passed.length + 1, passed.length + block.length))
    (hoccurs : ∃ line ∈ block, ∃ before, Occurs ('$' :: name) line.text before) :
    ∃ p, locate lines name owner = warningAt p ('$' :: name) ∧
      IsFirst lines (Lines.lineRange lines owner) ('$' :: name) p := by
  obtain ⟨p, hp, hfirst⟩ := exists_findLine hlines (List.cons_ne_nil _ _) hoccurs
  refine ⟨p, ?_, hrange ▸ hfirst⟩
  have howned : (lines.drop passed.length).take block.length = block := by
    rw [hlines, List.drop_left, List.take_left]
  have hcount : passed.length + block.length + 1 - (passed.length + 1) = block.length := by omega
  rw [locate]
  simp only [hrange, Nat.add_sub_cancel, hcount, howned, hp]
  rfl

theorem undefinedMessage_inj {token token' : List Char} :
    undefinedMessage token = undefinedMessage token' ↔ token = token' :=
  (String.append_right_inj _).trans ⟨String.ofList_injective, congrArg String.ofList⟩

theorem message_locate (lines : Lines) (name : List Char) (owner : Span) :
    (locate lines name owner).message = undefinedMessage ('$' :: name) := by
  simp only [locate]
  split <;> rfl

theorem mem_undefinedReferences_iff {scope : Scope} {w : Diagnostic} :
    w ∈ undefinedReferences scope ↔ ∃ passage ∈ passages scope, ∃ name,
      name ∈ Template.references passage.text.toList ∧ scope.var? (String.ofList name) = none ∧
        w = locate scope.lines name passage.owner := by
  rw [undefinedReferences, List.mem_flatMap]
  refine exists_congr fun passage => and_congr_right fun _ => ?_
  rw [List.mem_map]
  refine exists_congr fun name => ?_
  rw [List.mem_filter, Option.isNone_iff_eq_none, and_assoc, eq_comm (a := w)]

end Lint

end RequestBook
