import RequestBook.Grammar.Writing
import RequestBook.Proofs.Result
import RequestBook.Proofs.Text.Run

namespace RequestBook

open RequestBook.Text

theorem IsName.ne_nil {name : String} (h : IsName name) : name.toList ≠ [] := by
  simpa using h.1

theorem IsName.stops {name : String} (h : IsName name) : Stops isInline name.toList := by
  intro c hc
  exact isInline_of_not_blank (isBlank_of_isNameChar (h.2 c (List.mem_of_head? hc)))

theorem IsName.stops_append {name : String} (h : IsName name) (rest : List Char) :
    Stops isInline (name.toList ++ rest) := by
  have hstops : Stops isInline (name.toList ++ []) := by
    rw [List.append_nil]
    exact h.stops
  exact hstops.append_of_ne_nil h.ne_nil rest

theorem IsName.ends {name : String} (h : IsName name) : Ends name.toList :=
  ends_of_forall h.ne_nil fun c hc => isBlank_of_isNameChar (h.2 c hc)

namespace Grammar

variable {s rest more : List Char} {what : Expectation} {name : String}

theorem readName_append (what : Expectation) (h : IsName name) (hrest : Stops isNameChar rest) :
    readName what (name.toList ++ rest) = .ok (name, rest) := by
  rw [readName, takeWhile_append_of_stops h.2 hrest, dropWhile_append_of_stops h.2 hrest]
  split
  · rename_i hnil
    exact absurd hnil h.ne_nil
  · rw [String.ofList_toList]

theorem readName_toList (what : Expectation) (h : IsName name) :
    readName what name.toList = .ok (name, []) := by
  have hread := readName_append what h stops_nil
  rwa [List.append_nil] at hread

theorem readName_eq_ok_iff : readName what s = .ok (name, rest) ↔
    s = name.toList ++ rest ∧ IsName name ∧ Stops isNameChar rest := by
  constructor
  · intro h
    refine ⟨(append_of_readName h).symm, ⟨?_, isNameChar_of_readName h⟩, ?_⟩
    all_goals unfold readName at h; split at h <;> cases h
    · rename_i hne
      simpa using hne
    · exact stops_dropWhile isNameChar s
  · rintro ⟨rfl, hname, hrest⟩
    exact readName_append what hname hrest

theorem readChar_eq_ok_iff {c : Char} : readChar c what s = .ok rest ↔ s = c :: rest := by
  cases s with
  | nil => simp [readChar, expected, stopAt]
  | cons d s =>
    rw [readChar]
    split
    · rename_i hd
      simp [hd]
    · rename_i hd
      simp [expected, stopAt, hd]

theorem readQuoted_eq_ok_iff {value : List Char} :
    readQuoted s = .ok (value, rest) ↔ s = escapeQuoted value ++ '"' :: rest := by
  constructor
  · intro h
    fun_induction readQuoted s generalizing value with
    | case1 => cases h
    | case2 => cases h; rfl
    | case3 s ih =>
      obtain ⟨⟨value', rest'⟩, hread, heq⟩ := map_eq_ok_iff.mp h
      cases heq
      rw [ih hread]
      rfl
    | case4 s ih =>
      obtain ⟨⟨value', rest'⟩, hread, heq⟩ := map_eq_ok_iff.mp h
      cases heq
      rw [ih hread]
      rfl
    | case5 => cases h
    | case6 => cases h
    | case7 c s hquote _ _ hend hescape ih =>
      obtain ⟨⟨value', rest'⟩, hread, heq⟩ := map_eq_ok_iff.mp h
      cases heq
      have hslash : c ≠ '\\' := by
        rintro rfl
        cases s with
        | nil => exact hend rfl rfl
        | cons d s => exact hescape d s rfl rfl
      have hplain : ¬(c = '"' ∨ c = '\\') := not_or.mpr ⟨hquote, hslash⟩
      rw [ih hread, escapeQuoted, if_neg hplain, List.cons_append]
  · rintro rfl
    exact readQuoted_escapeQuoted value rest

def signed (negative : Bool) (digits : List Char) : List Char :=
  if negative then '-' :: digits else digits

def integerOf (negative : Bool) (digits : List Char) : Int :=
  if negative then -digitsValue digits else digitsValue digits

theorem signed_append (negative : Bool) (digits rest : List Char) :
    signed negative digits ++ rest = signed negative (digits ++ rest) := by
  cases negative <;> rfl

theorem readSign_signed {negative : Bool} {digits : List Char} (hne : digits ≠ [])
    (hdigits : ∀ c ∈ digits, c.isDigit = true) (rest : List Char) :
    readSign (signed negative digits ++ rest) = (negative, digits ++ rest) := by
  cases negative with
  | true => rfl
  | false =>
    obtain ⟨c, more, rfl⟩ := List.exists_cons_of_ne_nil hne
    rw [signed, if_neg Bool.false_ne_true, List.cons_append, readSign]
    rintro left heq
    cases heq
    exact absurd (hdigits '-' List.mem_cons_self) (by decide)

theorem signed_readSign (s : List Char) : signed (readSign s).1 (readSign s).2 = s := by
  fun_cases readSign s <;> rfl

theorem readInteger_eq {unsigned : List Char} {negative : Bool}
    (h : readSign s = (negative, unsigned)) :
    readInteger s =
      if (unsigned.takeWhile Char.isDigit).isEmpty then expected .digit unsigned
      else if inRange (integerOf negative (unsigned.takeWhile Char.isDigit)) then
        .ok (integerOf negative (unsigned.takeWhile Char.isDigit), unsigned.dropWhile Char.isDigit)
      else stopAt (.integerOutOfRange (String.ofList
        (signed negative (unsigned.takeWhile Char.isDigit)))) s := by
  rw [readInteger, h]
  rfl

theorem readInteger_signed {negative : Bool} {digits : List Char} (hne : digits ≠ [])
    (hdigits : ∀ c ∈ digits, c.isDigit = true) (hrest : Stops Char.isDigit rest)
    (hrange : inRange (integerOf negative digits) = true) :
    readInteger (signed negative digits ++ rest) = .ok (integerOf negative digits, rest) := by
  rw [readInteger_eq (readSign_signed hne hdigits rest), takeWhile_append_of_stops hdigits hrest,
    dropWhile_append_of_stops hdigits hrest, if_neg (by simpa using hne), if_pos hrange]

theorem exists_of_readInteger {n : Int} (h : readInteger s = .ok (n, rest)) :
    ∃ negative digits, s = signed negative digits ++ rest ∧ digits ≠ [] ∧
      (∀ c ∈ digits, c.isDigit = true) ∧ n = integerOf negative digits ∧ inRange n = true := by
  rcases hsign : readSign s with ⟨negative, unsigned⟩
  have hs : signed negative unsigned = s := by
    have hs := signed_readSign s
    rwa [hsign] at hs
  rw [readInteger_eq hsign] at h
  split at h
  · cases h
  · rename_i hempty
    split at h
    · rename_i hrange
      cases h
      refine ⟨negative, unsigned.takeWhile Char.isDigit, ?_, by simpa using hempty,
        fun _ => List.mem_takeWhile_imp, rfl, hrange⟩
      rw [signed_append, List.takeWhile_append_dropWhile, hs]
    · cases h

/-- The reader takes a part of a text, and takes it too when what is left after it is dropped. -/
def Takes {α : Type} (read : List Char → Except Stop (α × List Char)) (part rest : List Char)
    (a : α) : Prop :=
  ∀ more, more = rest ∨ more = [] → read (part ++ more) = .ok (a, more)

theorem takes_readInteger {n : Int} (h : readInteger s = .ok (n, rest)) :
    ∃ part, s = part ++ rest ∧ Ends part ∧ Takes readInteger part rest n := by
  obtain ⟨negative, digits, hs, hne, hdigits, rfl, hrange⟩ := exists_of_readInteger h
  refine ⟨signed negative digits, hs, ?_, ?_⟩
  · have hblank : ∀ c ∈ digits, isBlank c = false := fun c hc =>
      isBlank_of_isNameChar (by simp [isNameChar, Char.isAlphanum, hdigits c hc])
    have hsigned : signed negative digits = signed negative [] ++ digits := by
      cases negative <;> rfl
    rw [hsigned]
    exact (ends_of_forall hne hblank).append _
  · rintro more (rfl | rfl)
    · rwa [← hs]
    · exact readInteger_signed hne hdigits stops_nil hrange

theorem takes_readValue {v : Value} (h : readValue s = .ok (v, rest)) :
    ∃ part, s = part ++ rest ∧ Ends part ∧ Takes readValue part rest v := by
  unfold readValue at h
  split at h
  · obtain ⟨⟨value, left⟩, hread, heq⟩ := map_eq_ok_iff.mp h
    cases heq
    have hpart := readQuoted_eq_ok_iff.mp hread
    refine ⟨'"' :: escapeQuoted value ++ ['"'], by simp [hpart], ends_concat _ (by decide), ?_⟩
    intro more _
    have hmore := readQuoted_escapeQuoted value more
    rw [List.append_assoc, List.cons_append, List.singleton_append, readValue, hmore]
    rfl
  · rename_i c s hquote
    split at h
    · rename_i hc
      obtain ⟨⟨n, left⟩, hread, heq⟩ := map_eq_ok_iff.mp h
      cases heq
      obtain ⟨part, hs, hends, htakes⟩ := takes_readInteger hread
      refine ⟨part, hs, hends, fun more hmore => ?_⟩
      obtain ⟨d, part, rfl⟩ := List.exists_cons_of_ne_nil hends.ne_nil
      obtain ⟨rfl, -⟩ := List.cons.inj hs
      rw [List.cons_append, readValue, if_pos hc, ← List.cons_append, htakes more hmore]
      · rfl
      · rintro rfl
        cases hc
    · cases h
  · cases h

theorem readPath_append {path : String} (hne : path ≠ "")
    (hpath : ∀ c ∈ path.toList, isBlank c = false) (hrest : Stops (fun c => !isBlank c) rest) :
    readPath (path.toList ++ rest) = .ok (path, rest) := by
  have hchars : ∀ c ∈ path.toList, (!isBlank c) = true := fun c hc => by rw [hpath c hc]; rfl
  rw [readPath, takeWhile_append_of_stops hchars hrest, dropWhile_append_of_stops hchars hrest]
  split
  · rename_i hnil
    exact absurd (String.toList_eq_nil_iff.mp hnil) hne
  · rw [String.ofList_toList]

theorem readPath_eq_ok_iff {path : String} : readPath s = .ok (path, rest) ↔
    s = path.toList ++ rest ∧ path ≠ "" ∧ (∀ c ∈ path.toList, isBlank c = false) ∧
      Stops (fun c => !isBlank c) rest := by
  constructor
  · intro h
    unfold readPath at h
    split at h
    · cases h
    · rename_i hne
      cases h
      rw [String.toList_ofList]
      exact ⟨List.takeWhile_append_dropWhile.symm, by simpa using hne,
        fun c hc => by simpa using List.mem_takeWhile_imp hc, stops_dropWhile _ s⟩
  · rintro ⟨rfl, hne, hpath, hrest⟩
    exact readPath_append hne hpath hrest

theorem exists_of_readBinding {processor : Option String}
    (h : readBinding s = .ok (processor, rest)) : processor = none ∧ s = rest ∨
      ∃ blanks blanks' name, processor = some name ∧ IsName name ∧
        s = blanks ++ '|' :: blanks' ++ name.toList ++ rest ∧
        (∀ c ∈ blanks, isInline c = true) ∧ ∀ c ∈ blanks', isInline c = true := by
  unfold readBinding at h
  split at h
  · rename_i bound hbar
    obtain ⟨⟨name, left⟩, hname, heq⟩ := map_eq_ok_iff.mp h
    cases heq
    obtain ⟨hs, hname, -⟩ := readName_eq_ok_iff.mp hname
    obtain ⟨blanks, hblanks, hinline⟩ := exists_skipInline s
    obtain ⟨blanks', hblanks', hinline'⟩ := exists_skipInline bound
    refine .inr ⟨blanks, blanks', name, rfl, hname, ?_, hinline, hinline'⟩
    rw [hblanks, hbar, hblanks', hs]
    simp
  · cases h
    exact .inl ⟨rfl, rfl⟩

theorem takes_readBinding {processor : Option String}
    (h : readBinding s = .ok (processor, rest)) :
    ∃ part, s = part ++ rest ∧ (part = [] ∨ Ends part) ∧ Takes readBinding part rest processor := by
  rcases exists_of_readBinding h with
    ⟨rfl, rfl⟩ | ⟨blanks, blanks', name, rfl, hname, hparts, hinline, hinline'⟩
  · refine ⟨[], rfl, .inl rfl, ?_⟩
    rintro more (rfl | rfl)
    · exact h
    · rfl
  · refine ⟨blanks ++ '|' :: blanks' ++ name.toList, hparts, .inr (hname.ends.append _), ?_⟩
    rintro more (rfl | rfl)
    · rwa [← hparts]
    · have hbar : skipInline (blanks ++ '|' :: blanks' ++ name.toList ++ []) =
          '|' :: blanks' ++ name.toList := by
        simp only [List.append_nil, List.append_assoc, List.cons_append]
        rw [skipInline_append hinline, skipInline_of_stops (stops_cons.mpr (by decide))]
      rw [readBinding, hbar, List.cons_append]
      simp only [skipInline_append hinline', skipInline_of_stops hname.stops,
        readName_toList _ hname]
      rfl

theorem splitFence?_eq_none (h : ¬fence <:+: s) : splitFence? s = none := by
  fun_induction splitFence? s with
  | case1 rest => exact absurd ⟨[], rest, rfl⟩ h
  | case2 c rest _ ih =>
    rw [ih fun hrest => h (hrest.trans (List.suffix_cons c rest).isInfix)]
    rfl
  | case3 => rfl

theorem splitFence?_cut {before after : List Char} (h : splitFence? s = some (before, after)) :
    s = before ++ fence ++ after ∧ splitFence? (before ++ fence) = some (before, []) := by
  fun_induction splitFence? s generalizing before with
  | case1 rest =>
    cases h
    exact ⟨rfl, rfl⟩
  | case2 c rest hfence ih =>
    obtain ⟨⟨part, left⟩, hsplit, heq⟩ := Option.map_eq_some_iff.mp h
    cases heq
    obtain ⟨hrest, hpart⟩ := ih hsplit
    refine ⟨by rw [hrest]; rfl, ?_⟩
    rw [List.cons_append, splitFence?, hpart]
    · rfl
    · intro more hc hmore
      apply hfence (more ++ after) hc
      rw [hrest, hmore]
      rfl
  | case3 => cases h

theorem splitFence?_append {x before after : List Char} (h : splitFence? x = some (before, after))
    (y : List Char) : splitFence? (x ++ y) = some (before, after ++ y) := by
  fun_induction splitFence? x generalizing before with
  | case1 rest =>
    cases h
    rfl
  | case2 c rest hfence ih =>
    obtain ⟨⟨part, left⟩, hsplit, heq⟩ := Option.map_eq_some_iff.mp h
    cases heq
    rw [List.cons_append, splitFence?, ih hsplit]
    · rfl
    · intro more hc hmore
      obtain _ | ⟨a, _ | ⟨b, rest⟩⟩ := rest
      · cases hsplit
      · simp [splitFence?] at hsplit
      · cases hmore
        exact hfence rest hc rfl
  | case3 => cases h

/-- No fence lies across the end of what has none, where what follows does not begin like one. -/
theorem splitFence?_append_of_none {x y : List Char} (h : splitFence? x = none)
    (hy : y.head? ≠ some '`') :
    splitFence? (x ++ y) = (splitFence? y).map fun (before, after) => (x ++ before, after) := by
  fun_induction splitFence? x with
  | case1 rest => cases h
  | case2 c rest hfence ih =>
    rw [List.cons_append, splitFence?, ih (Option.map_eq_none_iff.mp h), Option.map_map]
    · rfl
    · intro more hc hmore
      obtain _ | ⟨a, _ | ⟨b, rest⟩⟩ := rest
      · exact hy (by rw [← List.nil_append y, hmore]; rfl)
      · cases hmore
        exact hy rfl
      · cases hmore
        exact hfence rest hc rfl
  | case3 => exact (congrFun Option.map_id _).symm

theorem splitFence?_lineBreak (ending : LineBreak) (more : List Char) :
    splitFence? (ending.chars ++ more) =
      (splitFence? more).map fun (before, after) => (ending.chars ++ before, after) := by
  cases ending with
  | none => exact (congrFun Option.map_id _).symm
  | lf | cr => rfl
  | crlf => exact Option.map_map _ _ _

def Trails (s : List Char) : Prop :=
  ∃ blanks comment, s = blanks ++ comment ∧ (∀ c ∈ blanks, isBlank c = true) ∧
    Stops (· != '#') comment

theorem trails_of_blank (h : ∀ c ∈ s, isBlank c = true) : Trails s :=
  ⟨s, [], (List.append_nil s).symm, h, stops_nil⟩

theorem trails_of_skipInline (h : Stops (· != '#') (skipInline s)) : Trails s := by
  obtain ⟨blanks, hs, hinline⟩ := exists_skipInline s
  exact ⟨blanks, skipInline s, hs, fun c hc => isBlank_of_isInline (hinline c hc), h⟩

theorem trails_of_endLine (h : endLine s = .ok ()) : Trails s := by
  refine trails_of_skipInline ?_
  rw [endLine] at h
  split at h
  · rename_i hnil
    rw [hnil]
    exact stops_nil
  · rename_i c left hcons
    rw [hcons]
    split at h
    · rename_i hc
      exact stops_cons.mpr (by simp [hc])
    · cases h

end Grammar

end RequestBook
