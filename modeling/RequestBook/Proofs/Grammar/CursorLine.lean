import RequestBook.Grammar.Cursor
import RequestBook.Proofs.Grammar.Extent
import RequestBook.Proofs.Source.Partition
import RequestBook.Proofs.Text.Bytes
import RequestBook.Proofs.Text.Run

/-!
A cursor on one line. It stands where the readers of the line have a part left, and moves as they do,
because every class of characters that it passes over ends at the end of the line. Main statement, for
names, single characters and the end of the line: the cursor reads the same and stands behind it, or
fails where the reader does.
-/

namespace RequestBook.Cursor

open RequestBook.Text RequestBook.Grammar

variable {s : List Char}

theorem ok_bind {ε α β : Type} (a : α) (f : α → Except ε β) : (Except.ok a >>= f) = f a :=
  rfl

def Left (s : List Char) (pos : Nat) (rest : List Char) : Prop :=
  ∃ before, s = before ++ rest ∧ width before = pos

section

variable {rest part : List Char} {pos : Nat}

theorem left_zero : Left s 0 s :=
  ⟨[], rfl, rfl⟩

theorem left_end : Left s (width s) [] :=
  ⟨s, (List.append_nil s).symm, rfl⟩

theorem Left.advance (h : Left s pos (part ++ rest)) : Left s (pos + width part) rest := by
  obtain ⟨before, rfl, rfl⟩ := h
  exact ⟨before ++ part, by simp, by simp⟩

theorem Left.add_width (h : Left s pos rest) : pos + width rest = width s := by
  obtain ⟨before, rfl, rfl⟩ := h
  rw [width_append]

theorem Left.isBoundary (h : Left s pos rest) : isBoundary pos s = true := by
  obtain ⟨before, hs, hwidth⟩ := h
  exact isBoundary_iff.mpr ⟨before, rest, hs, hwidth⟩

theorem Left.rest_eq (h : Left s pos rest) : Cursor.rest s pos = .ok rest := by
  obtain ⟨before, rfl, rfl⟩ := h
  rw [Cursor.rest, cut?_width_append]

theorem Left.slice_eq (h : Left s pos (part ++ rest)) :
    slice s pos (pos + width part) = .ok part := by
  obtain ⟨before, rfl, rfl⟩ := h
  rw [slice, slice?_append]

theorem Left.peek_eq (h : Left s pos rest) : peek s pos = .ok rest.head? := by
  rw [peek, h.rest_eq, ok_bind]

theorem Left.atEnd_eq (h : Left s pos rest) : atEnd s pos = rest.isEmpty := by
  have hwidth := h.add_width
  cases rest with
  | nil => simpa [atEnd] using Nat.le_of_eq hwidth.symm
  | cons c rest =>
    have hpos := c.utf8Size_pos
    rw [width_cons] at hwidth
    simp [atEnd]
    omega

end

theorem exists_position (s : List Char) (offset : Nat) : ∃ cache,
    (LineCache.ofText s).position? offset = some (Lines.position (Line.split s) offset, cache) := by
  obtain ⟨cache, hposition, -⟩ := (LineCache.sound_ofText s).position? offset
  exact ⟨cache, by rw [hposition, ← Recount.position_split]⟩

theorem fail_eq {α : Type} (cause : SyntaxCause) {offset : Nat} (h : isBoundary offset s = true) :
    fail s cause offset =
      (.error (.refused (Fault.locate ⟨cause, offset⟩ (Line.split s)) h) : Outcome s α) := by
  obtain ⟨cache, hposition⟩ := exists_position s offset
  rw [fail, hposition]
  exact dif_pos h

theorem span_eq {start stop : Nat} (h : start ≤ stop) : span s start stop = .ok ⟨start, stop⟩ :=
  if_pos h

theorem ofNat_byte {c : Char} (h : c.toNat < 128) :
    Char.ofNat (UInt8.ofNat c.toNat).toNat = c := by
  rw [UInt8.toNat_ofNat', Nat.mod_eq_of_lt (by omega), Char.ofNat_toNat]

/-- A class of ASCII characters has the bytes of a character only if it has the character. -/
theorem of_mem_utf8EncodeChar {p : Char → Bool} (hp : ∀ c, p c = true → c.toNat < 128) {c : Char}
    {b : UInt8} (hb : b ∈ String.utf8EncodeChar c) (h : p (Char.ofNat b.toNat) = true) :
    p c = true := by
  by_cases hc : c.toNat < 128
  · rw [utf8EncodeChar_of_lt hc, List.mem_singleton] at hb
    rwa [hb, ofNat_byte hc] at h
  · have hlt := hp _ h
    rw [toNat_ofNat_toNat] at hlt
    have hle := le_toNat_of_mem_utf8EncodeChar (Nat.not_lt.mp hc) hb
    omega

theorem countBytes_eq {p : Char → Bool} (hp : ∀ c, p c = true → c.toNat < 128) (rest : List Char) :
    countBytes p rest = width (rest.takeWhile p) := by
  induction rest with
  | nil => rfl
  | cons c rest ih =>
    by_cases hc : p c = true
    · have hsize : c.utf8Size = 1 := by
        have hlength := congrArg List.length (utf8EncodeChar_of_lt (hp c hc))
        simpa using hlength
      rw [countBytes, bytes_cons, utf8EncodeChar_of_lt (hp c hc), List.singleton_append,
        List.takeWhile_cons_of_pos (by rwa [ofNat_byte (hp c hc)]), List.length_cons,
        List.takeWhile_cons_of_pos hc, width_cons, hsize, ← ih, Nat.add_comm]
      rfl
    · obtain ⟨b, more, hbytes⟩ : ∃ b more, String.utf8EncodeChar c = b :: more :=
        List.exists_cons_of_ne_nil (by simp)
      have hb : ¬(fun b : UInt8 => p (Char.ofNat b.toNat)) b = true := fun h =>
        hc (of_mem_utf8EncodeChar hp (hbytes ▸ List.mem_cons_self) h)
      rw [countBytes, bytes_cons, hbytes, List.cons_append,
        List.takeWhile_cons_of_neg (p := fun b : UInt8 => p (Char.ofNat b.toNat)) hb,
        List.takeWhile_cons_of_neg hc]
      rfl

/-- The line stands in the text, and more stands below it. Its break is all of one. -/
structure Standing (s : List Char) (line : Line) (more : List Char) : Prop where
  left : Left s line.start (line.text ++ (line.ending.chars ++ more))
  no_end : ∀ c ∈ line.text, isLineEnd c = false
  last : line.ending = .none → more = []
  whole : line.ending = .cr → more.head? ≠ some '\n'

/-- The cursor stands where the readers of the line have this part left. -/
structure At (line : Line) (rest : List Char) (pos : Nat) : Prop where
  suffix : rest <:+ line.text
  pos_eq : pos = line.offsetOf rest

def nextStart (line : Line) : Nat :=
  line.stop + width line.ending.chars

section

variable {line : Line} {more rest part : List Char} {pos : Nat} {p : Char → Bool}

theorem at_start (line : Line) : At line line.text line.start where
  suffix := List.suffix_refl _
  pos_eq := by simp [Line.offsetOf]

theorem At.advance (h : At line (part ++ rest) pos) : At line rest (pos + width part) where
  suffix := (List.suffix_append part rest).trans h.suffix
  pos_eq := by
    have hle := width_le_of_suffix h.suffix
    rw [h.pos_eq, Line.offsetOf, Line.offsetOf]
    rw [width_append] at hle ⊢
    omega

theorem At.tail {c : Char} (h : At line (c :: rest) pos) : At line rest (pos + c.utf8Size) :=
  @At.advance line rest [c] pos h

theorem At.dropWhile (h : At line rest pos) (p : Char → Bool) :
    At line (rest.dropWhile p) (pos + width (rest.takeWhile p)) :=
  At.advance (by rwa [List.takeWhile_append_dropWhile])

theorem At.left (h : At line rest pos) (hs : Standing s line more) :
    Left s pos (rest ++ (line.ending.chars ++ more)) := by
  obtain ⟨done, hdone⟩ := h.suffix
  have hleft := hs.left
  rw [← hdone, List.append_assoc] at hleft
  have hpos : pos = line.start + width done := by
    rw [h.pos_eq, Line.offsetOf, ← hdone, width_append, Nat.add_sub_cancel]
  rw [hpos]
  exact hleft.advance

theorem At.le_nextStart (h : At line rest pos) : pos + width rest ≤ nextStart line := by
  have hle := width_le_of_suffix h.suffix
  rw [h.pos_eq, Line.offsetOf, nextStart, Line.stop]
  omega

theorem At.lt_nextStart (h : At line rest pos) (hne : rest ≠ []) :
    pos < nextStart line := by
  have hle := h.le_nextStart
  have hpos : width rest ≠ 0 := mt width_eq_zero_iff.mp hne
  omega

theorem At.no_end (h : At line rest pos) (hs : Standing s line more) :
    ∀ c ∈ rest, isLineEnd c = false :=
  fun c hc => hs.no_end c (h.suffix.subset hc)

theorem not_of_lineEnd (hlf : p '\n' = false) (hcr : p '\r' = false) :
    ∀ c, isLineEnd c = true → p c = false := by
  intro c hc
  simp only [isLineEnd, Bool.or_eq_true, beq_iff_eq] at hc
  rcases hc with rfl | rfl
  · exact hlf
  · exact hcr

theorem Standing.stops (hs : Standing s line more) (hp : ∀ c, isLineEnd c = true → p c = false) :
    Stops p (line.ending.chars ++ more) := by
  cases hending : line.ending with
  | none =>
    rw [hs.last hending]
    exact stops_nil
  | lf | cr | crlf => exact stops_cons.mpr (hp _ rfl)

theorem Standing.left_next (hs : Standing s line more) : Left s (nextStart line) more := by
  have hnext := hs.left.advance.advance
  rwa [← Line.stop] at hnext

theorem takeWhile_below (hs : Standing s line more) (hp : ∀ c, isLineEnd c = true → p c = false)
    (rest : List Char) : (rest ++ (line.ending.chars ++ more)).takeWhile p = rest.takeWhile p :=
  takeWhile_append_left (hs.stops hp)

theorem head?_eq_some_iff_below (hs : Standing s line more) {c : Char} (hc : isLineEnd c = false) :
    (rest ++ (line.ending.chars ++ more)).head? = some c ↔ rest.head? = some c := by
  cases rest with
  | cons d rest => rfl
  | nil =>
    constructor
    · intro hhead
      have hend : isLineEnd c = true := by simpa using hs.stops (p := (!isLineEnd ·)) (by simp) c hhead
      rw [hc] at hend
      cases hend
    · exact fun hnil => nomatch hnil

theorem any_head?_below (hs : Standing s line more) (hp : ∀ c, isLineEnd c = true → p c = false) :
    (rest ++ (line.ending.chars ++ more)).head?.any p = rest.head?.any p := by
  cases rest with
  | cons c rest => rfl
  | nil => exact stops_iff_head?.mp (hs.stops hp)

def faultAt (line : Line) (stop : Stop) : Fault :=
  ⟨stop.cause, line.start + (width line.text - stop.left)⟩

/-- What is read with a cursor agrees with what is read without: results are related, and an error is
the same one, at a boundary. -/
inductive Agrees {ε α β : Type} (place : ε → Fault) (R : α → β → Prop) :
    Except ε α → Outcome s β → Prop
  | ok {a b} : R a b → Agrees place R (.ok a) (.ok b)
  | error {e} : (h : isBoundary (place e).offset s = true) →
      Agrees place R (.error e) (.error (.refused ((place e).locate (Line.split s)) h))

theorem Agrees.bind {ε α β γ δ : Type} {place : ε → Fault} {R : α → β → Prop} {Q : γ → δ → Prop}
    {r : Except ε α} {c : Outcome s β} {f : α → Except ε γ} {g : β → Outcome s δ}
    (h : Agrees place R r c) (hk : ∀ a b, R a b → Agrees place Q (f a) (g b)) :
    Agrees place Q (r >>= f) (c >>= g) := by
  cases h with
  | ok hab => exact hk _ _ hab
  | error hb => exact .error hb

theorem Agrees.map {ε α β γ δ : Type} {place : ε → Fault} {R : α → β → Prop} {Q : γ → δ → Prop}
    {r : Except ε α} {c : Outcome s β} {f : α → γ} {g : β → Outcome s δ}
    (h : Agrees place R r c) (hk : ∀ a b, R a b → Agrees place Q (.ok (f a)) (g b)) :
    Agrees place Q (r.map f) (c >>= g) := by
  cases h with
  | ok hab => exact hk _ _ hab
  | error hb => exact .error hb

theorem Agrees.mono {ε α β : Type} {place : ε → Fault} {R Q : α → β → Prop} {r : Except ε α}
    {c : Outcome s β} (h : Agrees place R r c) (hk : ∀ a b, R a b → Q a b) : Agrees place Q r c := by
  cases h with
  | ok hab => exact .ok (hk _ _ hab)
  | error hb => exact .error hb

theorem Agrees.located {α β : Type} {R : α → β → Prop} {r : Except Stop α} {c : Outcome s β}
    (h : Agrees (faultAt line) R r c) : Agrees id R (atLine line r) c := by
  cases h with
  | ok hab => exact .ok hab
  | @error stop hb => exact Agrees.error (e := faultAt line stop) hb

structure ReadAt {α : Type} (line : Line) (start : Nat) (a : α × List Char) (b : α × Nat) : Prop where
  same : b.1 = a.1
  stands : At line a.2 b.2
  le : start ≤ b.2

theorem agrees_stop {α β : Type} {R : α → β → Prop} (hs : Standing s line more)
    (h : At line rest pos) (cause : SyntaxCause) :
    Agrees (faultAt line) R (stopAt cause rest) (fail s cause pos) := by
  have hb := (h.left hs).isBoundary
  obtain ⟨-, rfl⟩ := h
  rw [fail_eq cause hb]
  exact Agrees.error (e := (⟨cause, width rest⟩ : Stop)) hb

theorem skipInline_eq (hs : Standing s line more) (h : At line rest pos) :
    skipInline s pos = .ok (pos + width (rest.takeWhile isInline)) := by
  have hclass : ∀ c, isInline c = true → c.toNat < 128 := by
    intro c hc
    simp only [isInline, Bool.or_eq_true, beq_iff_eq] at hc
    rcases hc with rfl | rfl <;> decide
  have hends : ∀ c, isLineEnd c = true → isInline c = false := not_of_lineEnd rfl rfl
  rw [skipInline, (h.left hs).rest_eq, ok_bind, countBytes_eq hclass, takeWhile_below hs hends]

theorem nameAt_eq (hs : Standing s line more) (h : At line rest pos) :
    nameAt s pos =
      .ok (rest.takeWhile isNameChar, pos + width (rest.takeWhile isNameChar)) := by
  have hends : ∀ c, isLineEnd c = true → isNameChar c = false := not_of_lineEnd rfl rfl
  have hleft := h.left hs
  have hslice := hleft
  rw [← List.takeWhile_append_dropWhile (p := isNameChar) (l := rest), List.append_assoc] at hslice
  rw [nameAt, hleft.rest_eq, ok_bind, countBytes_eq (fun _ => toNat_lt_of_isNameChar),
    takeWhile_below hs hends]
  dsimp only
  rw [hslice.slice_eq, ok_bind]

theorem identifier_agrees (hs : Standing s line more) (h : At line rest pos) (what : Expectation) :
    Agrees (faultAt line) (ReadAt line pos) (readName what rest) (identifier s what pos) := by
  rw [readName, identifier, nameAt_eq hs h, ok_bind]
  dsimp only
  split
  · rename_i hnil
    rw [hnil, width_nil, Nat.add_zero, if_pos rfl]
    exact agrees_stop hs h _
  · rename_i hne
    have hpos : width (rest.takeWhile isNameChar) ≠ 0 := mt width_eq_zero_iff.mp (by simpa using hne)
    rw [if_neg (by omega)]
    exact .ok ⟨rfl, h.dropWhile isNameChar, Nat.le_add_right _ _⟩

theorem expectChar_agrees (hs : Standing s line more) (h : At line rest pos) {c : Char}
    (hc : isLineEnd c = false) (what : Expectation) :
    Agrees (faultAt line) (fun left pos' => At line left pos' ∧ pos ≤ pos') (readChar c what rest)
      (expectChar s c what pos) := by
  rw [expectChar, (h.left hs).peek_eq, ok_bind]
  simp only [head?_eq_some_iff_below hs hc]
  cases rest with
  | nil => exact agrees_stop hs h _
  | cons d rest =>
    rw [readChar]
    by_cases hd : d = c
    · subst hd
      rw [if_pos rfl, if_pos List.head?_cons]
      exact .ok ⟨h.tail, Nat.le_add_right _ _⟩
    · rw [if_neg hd, if_neg (by simpa using hd)]
      exact agrees_stop hs h _

theorem restOfLine_eq (hs : Standing s line more) (h : ∀ c ∈ rest, isLineEnd c = false) :
    restOfLine (rest ++ (line.ending.chars ++ more)) = rest :=
  takeWhile_append_of_stops (by simpa using h) (hs.stops (by simp))

theorem skipToLineEnd_eq (hs : Standing s line more) (h : At line rest pos) :
    skipToLineEnd s pos = .ok (pos + width rest) := by
  rw [skipToLineEnd, (h.left hs).rest_eq, ok_bind, restOfLine_eq hs (h.no_end hs)]

theorem At.at_end (h : At line rest pos) : At line [] (pos + width rest) :=
  At.advance (by rwa [List.append_nil])

theorem At.eq_stop (h : At line [] pos) : pos = line.stop := by
  rw [h.pos_eq]
  rfl

theorem At.next_eq (h : At line rest pos) :
    nextStart line = pos + width rest + width line.ending.chars := by
  rw [nextStart, ← h.at_end.eq_stop]

theorem passLineEnd_eq (hs : Standing s line more) (h : At line [] pos) :
    passLineEnd s pos = .ok (nextStart line) := by
  rw [passLineEnd, (h.left hs).rest_eq, ok_bind, h.eq_stop, nextStart]
  cases hending : line.ending with
  | none => rw [hs.last hending]; rfl
  | lf | crlf => rfl
  | cr =>
    have hwhole := hs.whole hending
    rw [List.nil_append, LineBreak.chars, List.singleton_append]
    split
    · rename_i hmore
      cases hmore
      exact absurd rfl hwhole
    · rename_i hmore
      cases hmore
    · rfl
    · rename_i hmore
      exact absurd rfl (hmore more)

theorem skipTrailing_agrees (hs : Standing s line more) (h : At line rest pos) :
    Agrees (faultAt line) (fun _ pos' => pos' = nextStart line) (endLine rest)
      (skipTrailing s pos) := by
  have hskip := h.dropWhile isInline
  have hends : ([] ++ (line.ending.chars ++ more)).head?.all isLineEnd = true := by
    cases hhead : ([] ++ (line.ending.chars ++ more)).head? with
    | none => rfl
    | some c => simpa using hs.stops (p := (!isLineEnd ·)) (by simp) c hhead
  rw [skipTrailing, skipInline_eq hs h, ok_bind, (hskip.left hs).peek_eq, ok_bind]
  simp only [head?_eq_some_iff_below hs (by decide : isLineEnd '#' = false)]
  rw [endLine, Text.skipInline]
  generalize rest.dropWhile isInline = rest' at *
  generalize pos + width (rest.takeWhile isInline) = pos' at *
  cases rest' with
  | nil =>
    rw [if_neg (by simp), ok_bind, (hskip.left hs).peek_eq, ok_bind, hends, passLineEnd_eq hs hskip]
    exact .ok rfl
  | cons c rest' =>
    by_cases hc : c = '#'
    · subst hc
      have hpass := hskip.at_end
      rw [if_pos List.head?_cons, skipToLineEnd_eq hs hskip, ok_bind, (hpass.left hs).peek_eq,
        ok_bind, hends, passLineEnd_eq hs hpass]
      dsimp only
      rw [if_pos rfl]
      exact .ok rfl
    · have hplain : isLineEnd c = false := hskip.no_end hs c List.mem_cons_self
      rw [if_neg (by simpa using hc), ok_bind, (hskip.left hs).peek_eq, ok_bind, List.cons_append,
        List.head?_cons, Option.all_some, hplain]
      dsimp only
      rw [if_neg hc]
      exact agrees_stop hs hskip _

theorem At.le_width (h : At line rest pos) (hs : Standing s line more) : pos ≤ width s := by
  have hwidth := (h.left hs).add_width
  omega

theorem peek_at_end (hs : Standing s line more) (h : At line [] pos) :
    peek s pos = .ok none ∨ ∃ c, isLineEnd c = true ∧ peek s pos = .ok (some c) := by
  rw [(h.left hs).peek_eq]
  cases hhead : ([] ++ (line.ending.chars ++ more)).head? with
  | none => exact .inl rfl
  | some c => exact .inr ⟨c, by simpa using hs.stops (p := (!isLineEnd ·)) (by simp) c hhead, rfl⟩

end

end RequestBook.Cursor
