import RequestBook.Proofs.Grammar.CursorLine
import RequestBook.Proofs.Grammar.Literal
import RequestBook.Proofs.Grammar.Opening

namespace RequestBook.Cursor

open RequestBook.Text RequestBook.Grammar

section

variable {s : List Char} {line : Line} {more rest : List Char} {pos : Nat}

section Quoted

variable {value : List Char} {c d : Char}

theorem quotedRound_at_end (hs : Standing s line more) (h : At line [] pos) :
    quotedRound s value pos = fail s .unterminatedString pos := by
  rw [quotedRound]
  rcases peek_at_end hs h with hpeek | ⟨c, hc, hpeek⟩
  · rw [hpeek, ok_bind]
  · rw [hpeek, ok_bind]
    exact if_pos hc

theorem quotedRound_quote (hs : Standing s line more) (h : At line ('"' :: rest) pos) :
    quotedRound s value pos = .ok (.done value (pos + 1)) := by
  rw [quotedRound, (h.left hs).peek_eq, ok_bind]
  rfl

theorem quotedRound_plain (hs : Standing s line more) (h : At line (c :: rest) pos) (hquote : c ≠ '"')
    (hslash : c ≠ '\\') :
    quotedRound s value pos = .ok (.again (value ++ [c]) (pos + c.utf8Size)) := by
  have hend := h.no_end hs c List.mem_cons_self
  rw [quotedRound, (h.left hs).peek_eq, ok_bind]
  simp [hend, hquote, hslash]

theorem quotedRound_slash (hs : Standing s line more) (h : At line ('\\' :: rest) pos) :
    quotedRound s value pos = (do
      match ← peek s (pos + 1) with
      | none => fail s .unterminatedString (pos + 1)
      | some d =>
        if d = '"' ∨ d = '\\' then .ok (.again (value ++ [d]) (pos + 1 + 1))
        else if isLineEnd d then fail s .unterminatedString (pos + 1)
        else fail s (.invalidEscape d) pos) := by
  rw [quotedRound, (h.left hs).peek_eq, ok_bind]
  rfl

theorem quotedRound_escaped (hs : Standing s line more) (h : At line ('\\' :: d :: rest) pos)
    (hd : d = '"' ∨ d = '\\') :
    quotedRound s value pos = .ok (.again (value ++ [d]) (pos + 1 + 1)) := by
  have htail : At line (d :: rest) (pos + 1) := h.tail
  rw [quotedRound_slash hs h, (htail.left hs).peek_eq, ok_bind]
  exact if_pos hd

theorem quotedRound_stray (hs : Standing s line more) (h : At line ('\\' :: d :: rest) pos)
    (hquote : d ≠ '"') (hslash : d ≠ '\\') :
    quotedRound s value pos = fail s (.invalidEscape d) pos := by
  have htail : At line (d :: rest) (pos + 1) := h.tail
  have hend := htail.no_end hs d List.mem_cons_self
  rw [quotedRound_slash hs h, (htail.left hs).peek_eq, ok_bind]
  simp [hend, hquote, hslash]

theorem quotedRound_lone (hs : Standing s line more) (h : At line ['\\'] pos) :
    quotedRound s value pos = fail s .unterminatedString (pos + 1) := by
  have htail : At line [] (pos + 1) := h.tail
  rw [quotedRound_slash hs h]
  rcases peek_at_end hs htail with hpeek | ⟨c, hc, hpeek⟩
  · rw [hpeek, ok_bind]
  · have hplain : ¬(c = '"' ∨ c = '\\') := by
      rintro (rfl | rfl) <;> cases hc
    rw [hpeek, ok_bind]
    exact (if_neg hplain).trans (if_pos hc)

end Quoted

theorem agrees_loop_stop {α β γ : Type} {R : α → γ × Nat → Prop}
    {round : β → Nat → Outcome s (Round β γ)} {state : β} {pos' : Nat} {cause : SyntaxCause}
    (hs : Standing s line more) (h : At line rest pos) (hround : round state pos' = fail s cause pos) :
    Agrees (faultAt line) R (stopAt cause rest) (loop s round state pos') := by
  have hb := (h.left hs).isBoundary
  rw [loop_error (hround.trans (fail_eq cause hb)), ← fail_eq cause hb]
  exact agrees_stop hs h cause

theorem map_prepend (r : Except Stop (List Char × List Char)) (value : List Char) (c : Char) :
    (r.map fun (part, left) => (c :: part, left)).map (fun (part, left) => (value ++ part, left)) =
      r.map fun (part, left) => (value ++ [c] ++ part, left) := by
  cases r <;> simp [Except.map]

theorem quoted_agrees (hs : Standing s line more) (h : At line rest pos) {start : Nat}
    (hle : start ≤ pos) (value : List Char) : Agrees (faultAt line) (ReadAt line start)
      ((readQuoted rest).map fun (part, left) => (value ++ part, left))
      (loop s (quotedRound s) value pos) := by
  fun_induction readQuoted rest generalizing value pos with
  | case1 => exact agrees_loop_stop hs h (quotedRound_at_end hs h)
  | case2 rest =>
    rw [loop_done (quotedRound_quote hs h)]
    exact .ok ⟨by simp, h.tail, by omega⟩
  | case3 rest ih =>
    have hnext : At line rest (pos + 1 + 1) := h.tail.tail
    rw [map_prepend, loop_again (quotedRound_escaped hs h (.inl rfl)) (by omega) (hnext.le_width hs)]
    exact ih hnext (by omega) _
  | case4 rest ih =>
    have hnext : At line rest (pos + 1 + 1) := h.tail.tail
    rw [map_prepend, loop_again (quotedRound_escaped hs h (.inr rfl)) (by omega) (hnext.le_width hs)]
    exact ih hnext (by omega) _
  | case5 =>
    have htail : At line [] (pos + 1) := h.tail
    exact agrees_loop_stop hs htail (quotedRound_lone hs h)
  | case6 c rest hquote hslash => exact agrees_loop_stop hs h (quotedRound_stray hs h hquote hslash)
  | case7 c rest hquote _ _ hend hescape ih =>
    have hslash : c ≠ '\\' := by
      rintro rfl
      cases rest with
      | nil => exact hend rfl rfl
      | cons d rest => exact hescape d rest rfl rfl
    have hpos := c.utf8Size_pos
    rw [map_prepend, loop_again (quotedRound_plain hs h hquote hslash) (by omega)
      (h.tail.le_width hs)]
    exact ih h.tail (by omega) _

theorem integer?_signed {negative : Bool} {digits : List Char} (hne : digits ≠ [])
    (hdigits : ∀ c ∈ digits, c.isDigit = true) : integer? (signed negative digits) =
      if inRange (integerOf negative digits) then some (integerOf negative digits) else none := by
  have hsign : readSign (signed negative digits ++ []) = (negative, digits ++ []) :=
    readSign_signed hne hdigits []
  rw [List.append_nil, List.append_nil] at hsign
  rw [integer?, hsign]
  rfl

theorem width_signed (negative : Bool) (digits : List Char) :
    width (signed negative digits) = width (signed negative []) + width digits := by
  cases negative <;> simp [signed]

theorem at_unsigned {negative : Bool} {unsigned : List Char} (h : At line rest pos)
    (hsign : readSign rest = (negative, unsigned)) :
    (if rest.head? = some '-' then pos + 1 else pos) = pos + width (signed negative []) ∧
      At line unsigned (pos + width (signed negative [])) := by
  revert hsign
  fun_cases readSign rest with
  | case1 rest =>
    rintro ⟨⟩
    exact ⟨rfl, h.tail⟩
  | case2 =>
    rename_i hplain
    rintro ⟨⟩
    refine ⟨if_neg fun hhead => ?_, h⟩
    obtain ⟨more, hmore⟩ := List.head?_eq_some_iff.mp hhead
    exact hplain more hmore

theorem integer_agrees (hs : Standing s line more) (h : At line rest pos) :
    Agrees (faultAt line) (ReadAt line pos) (readInteger rest) (numberLiteral s pos) := by
  rcases hsign : readSign rest with ⟨negative, unsigned⟩
  have hsign' : signed negative unsigned = rest := by
    have hsigned := signed_readSign rest
    rwa [hsign] at hsigned
  obtain ⟨hfirst, hat⟩ := at_unsigned h hsign
  have hminus : isLineEnd '-' = false := by decide
  have hclass (c : Char) (hc : c.isDigit = true) : c.toNat < 128 :=
    toNat_lt_of_isNameChar (by simp [isNameChar, Char.isAlphanum, hc])
  have hends : ∀ c, isLineEnd c = true → c.isDigit = false := not_of_lineEnd rfl rfl
  rw [readInteger_eq hsign, numberLiteral, (h.left hs).peek_eq, ok_bind]
  simp only [head?_eq_some_iff_below hs hminus, hfirst]
  rw [(hat.left hs).rest_eq, ok_bind, countBytes_eq hclass, takeWhile_below hs hends]
  by_cases hnil : unsigned.takeWhile Char.isDigit = []
  · rw [hnil, if_pos List.isEmpty_nil, if_pos width_nil]
    exact agrees_stop hs hat _
  · have hne : ¬width (unsigned.takeWhile Char.isDigit) = 0 := mt width_eq_zero_iff.mp hnil
    have hleft := h.left hs
    rw [← hsign', ← List.takeWhile_append_dropWhile (p := Char.isDigit) (l := unsigned),
      ← signed_append, List.append_assoc] at hleft
    rw [if_neg (by simpa using hnil), if_neg hne, Nat.add_assoc, ← width_signed, hleft.slice_eq,
      ok_bind, integer?_signed hnil fun _ => List.mem_takeWhile_imp]
    by_cases hrange : inRange (integerOf negative (unsigned.takeWhile Char.isDigit)) = true
    · rw [if_pos hrange, if_pos hrange, width_signed, ← Nat.add_assoc]
      exact .ok ⟨rfl, hat.dropWhile Char.isDigit, by omega⟩
    · rw [if_neg hrange, if_neg hrange]
      exact agrees_stop hs h _

theorem literal_agrees (hs : Standing s line more) (h : At line rest pos) :
    Agrees (faultAt line) (ReadAt line pos) (readQuoted rest) (loop s (quotedRound s) [] pos) := by
  have hloop := quoted_agrees hs h (Nat.le_refl pos) []
  have hid : ((readQuoted rest).map fun (part, left) => ([] ++ part, left)) = readQuoted rest := by
    cases readQuoted rest <;> rfl
  rwa [hid] at hloop

theorem value_agrees (hs : Standing s line more) (h : At line rest pos) :
    Agrees (faultAt line) (ReadAt line pos) (readValue rest) (value s pos) := by
  rw [value]
  cases rest with
  | nil =>
    rcases peek_at_end hs h with hpeek | ⟨c, hc, hpeek⟩
    · rw [hpeek, ok_bind]
      exact agrees_stop hs h _
    · have hquote : c ≠ '"' := by
        rintro rfl
        cases hc
      have hnumber : ¬(c = '-' ∨ c.isDigit = true) := by
        rintro (rfl | hdigit)
        · cases hc
        · have hplain := not_of_lineEnd (p := Char.isDigit) rfl rfl c hc
          rw [hdigit] at hplain
          cases hplain
      rw [hpeek, ok_bind]
      dsimp only
      rw [if_neg hquote, if_neg hnumber]
      exact agrees_stop hs h _
  | cons c rest =>
    rw [(h.left hs).peek_eq, ok_bind, List.cons_append, List.head?_cons]
    dsimp only
    by_cases hquote : c = '"'
    · subst hquote
      rw [if_pos rfl, readValue]
      refine (literal_agrees hs h.tail).map ?_
      rintro ⟨part, left⟩ ⟨part', pos'⟩ ⟨rfl, hat, hle⟩
      exact .ok ⟨rfl, hat, Nat.le_of_succ_le hle⟩
    · have hnumber : (c == '-' || c.isDigit) = true ↔ c = '-' ∨ c.isDigit = true := by simp
      rw [if_neg hquote, readValue]
      · by_cases hc : c = '-' ∨ c.isDigit = true
        · rw [if_pos hc, if_pos (hnumber.mpr hc)]
          refine (integer_agrees hs h).map ?_
          rintro ⟨n, left⟩ ⟨n', pos'⟩ ⟨rfl, hat, hle⟩
          exact .ok ⟨rfl, hat, hle⟩
        · rw [if_neg hc, if_neg (mt hnumber.mp hc)]
          exact agrees_stop hs h _
      · exact hquote

theorem variable_agrees (hs : Standing s line more) (h : At line rest pos)
    (hdollar : rest.head? = some '$') :
    Agrees (faultAt line) (fun d b => b = (d, nextStart line) ∧ pos ≤ d.span.stop)
      (readVariable line rest) (variableAt s pos) := by
  obtain ⟨rest, rfl⟩ := List.head?_eq_some_iff.mp hdollar
  rw [readVariable, variableAt]
  refine (identifier_agrees hs h.tail .variableName).bind ?_
  rintro ⟨name, afterName⟩ ⟨name', p₁⟩ ⟨rfl, h₁, hle₁⟩
  dsimp only at h₁ hle₁ ⊢
  rw [skipInline_eq hs h₁, ok_bind]
  refine (expectChar_agrees hs (h₁.dropWhile isInline) (by decide) .equalsSign).bind ?_
  rintro afterSign p₂ ⟨h₂, hle₂⟩
  rw [skipInline_eq hs h₂, ok_bind]
  refine (value_agrees hs (h₂.dropWhile isInline)).bind ?_
  rintro ⟨v, afterValue⟩ ⟨v', p₃⟩ ⟨rfl, h₃, hle₃⟩
  refine (skipTrailing_agrees hs h₃).bind ?_
  rintro _ _ rfl
  have hle : pos ≤ p₃ := by omega
  dsimp only at h₃ hle₃ ⊢
  rw [span_eq hle, ok_bind, ← h.pos_eq, ← h₃.pos_eq]
  exact .ok ⟨rfl, hle⟩

theorem getElem?_bytes_append (x y : List Char) : (bytes (x ++ y))[width x]? = (bytes y).head? := by
  rw [bytes, List.flatMap_append, ← length_bytes x, bytes,
    List.getElem?_append_right (Nat.le_refl _), Nat.sub_self, List.head?_eq_getElem?]
  rfl

theorem head?_bytes_eq_colon (t : List Char) : (bytes t).head? = some 58 ↔ t.head? = some ':' := by
  cases t with
  | nil => simp
  | cons c t =>
    obtain ⟨b, more, hbytes⟩ : ∃ b more, String.utf8EncodeChar c = b :: more :=
      List.exists_cons_of_ne_nil (by simp)
    rw [bytes_cons, hbytes, List.cons_append, List.head?_cons, List.head?_cons]
    constructor
    · intro hb
      by_cases hc : c = ':'
      · rw [hc]
      · have hne := ne_of_mem_utf8EncodeChar (by decide : ':'.toNat < 128) hc (hbytes ▸ List.mem_cons_self)
        exact absurd (Option.some.inj hb) hne
    · rintro ⟨⟩
      cases hbytes
      rfl

theorem stops_colon (left : List Char) : Stops isNameChar (':' :: left) :=
  stops_cons.mpr (by decide)

theorem isSome_headerName? (rest : List Char) : (headerName? rest).isSome = true ↔
    rest.takeWhile isNameChar ≠ [] ∧ (rest.dropWhile isNameChar).head? = some ':' := by
  rw [Option.isSome_iff_exists]
  constructor
  · rintro ⟨⟨name, left⟩, hheader⟩
    obtain ⟨rfl, hne, hname⟩ := headerName?_eq_some_iff.mp hheader
    rw [takeWhile_append_of_stops hname (stops_colon left),
      dropWhile_append_of_stops hname (stops_colon left)]
    exact ⟨hne, rfl⟩
  · rintro ⟨hne, hcolon⟩
    obtain ⟨left, hleft⟩ := List.head?_eq_some_iff.mp hcolon
    refine ⟨(rest.takeWhile isNameChar, left), headerName?_eq_some_iff.mpr ⟨?_, hne, ?_⟩⟩
    · rw [← hleft, List.takeWhile_append_dropWhile]
    · exact fun _ => List.mem_takeWhile_imp

theorem atHeader_eq (hs : Standing s line more) (h : At line rest pos) :
    atHeader s pos = .ok (readHeader? line rest).isSome := by
  have hends : ∀ c, isLineEnd c = true → isNameChar c = false := not_of_lineEnd rfl rfl
  have hcount := countBytes_eq (fun _ => toNat_lt_of_isNameChar) (rest ++ (line.ending.chars ++ more))
  rw [takeWhile_below hs hends, countBytes] at hcount
  have hbehind : (bytes (rest ++ (line.ending.chars ++ more)))[width (rest.takeWhile isNameChar)]? =
      (bytes (rest.dropWhile isNameChar ++ (line.ending.chars ++ more))).head? := by
    rw [← getElem?_bytes_append (rest.takeWhile isNameChar),
      ← List.append_assoc (rest.takeWhile isNameChar), List.takeWhile_append_dropWhile]
  have hpos : 0 < width (rest.takeWhile isNameChar) ↔ rest.takeWhile isNameChar ≠ [] := by
    rw [Nat.pos_iff_ne_zero, ne_eq, width_eq_zero_iff]
  rw [atHeader, (h.left hs).rest_eq, ok_bind]
  dsimp only
  rw [hcount, hbehind, readHeader?, Option.isSome_map]
  congr 1
  rw [Bool.eq_iff_iff, isSome_headerName?, Bool.and_eq_true, decide_eq_true_eq, beq_iff_eq,
    head?_bytes_eq_colon, head?_eq_some_iff_below hs (by decide), hpos]

theorem headerAt_eq (hs : Standing s line more) (h : At line rest pos) {d : Definition}
    (hd : readHeader? line rest = some d) :
    headerAt s pos = .ok (d, nextStart line) ∧ pos ≤ d.span.stop := by
  obtain ⟨⟨name, left⟩, hheader, rfl⟩ := Option.map_eq_some_iff.mp hd
  obtain ⟨rfl, -, hname⟩ := headerName?_eq_some_iff.mp hheader
  have hcolon : At line (':' :: left) (pos + width name) := h.advance
  have hleft : At line left (pos + width name + 1) := hcolon.tail
  have hfirst := hleft.dropWhile isInline
  have hlast := hfirst.at_end
  rw [headerAt, nameAt_eq hs h, ok_bind, takeWhile_append_of_stops hname (stops_colon left)]
  dsimp only
  rw [(hcolon.left hs).peek_eq, ok_bind, if_pos (by rfl), skipInline_eq hs hleft, ok_bind,
    skipToLineEnd_eq hs hfirst, ok_bind, (hfirst.left hs).slice_eq, ok_bind, passLineEnd_eq hs hlast,
    ok_bind]
  rw [← hleft.pos_eq, ← h.pos_eq, Text.skipInline, ← hfirst.pos_eq]
  have hle : pos ≤ if (trimEnd (left.dropWhile isInline)).isEmpty = true then pos + width name + 1
      else pos + width name + 1 + width (left.takeWhile isInline) +
        width (trimEnd (left.dropWhile isInline)) := by
    split <;> omega
  rw [span_eq hle, ok_bind]
  exact ⟨rfl, hle⟩

theorem indented_agrees (hs : Standing s line more) :
    Agrees id (fun d b => b = (d, nextStart line) ∧ line.start ≤ d.span.stop) (readIndented line)
      (indentedAt s line.start) := by
  have hstart := at_start line
  have hat := hstart.dropWhile isInline
  rw [readIndented, indentedAt, skipInline_eq hs hstart, ok_bind, (hat.left hs).peek_eq, ok_bind]
  simp only [head?_eq_some_iff_below hs (by decide : isLineEnd '$' = false)]
  rw [Text.skipInline]
  by_cases hdollar : (line.text.dropWhile isInline).head? = some '$'
  · rw [if_pos hdollar, if_pos (by rw [hdollar]; rfl)]
    refine (variable_agrees hs hat hdollar).located.mono ?_
    rintro _ _ ⟨hb, hle⟩
    exact ⟨hb, by omega⟩
  · rw [if_neg hdollar, if_neg (by simpa using hdollar), atHeader_eq hs hat, ok_bind]
    cases hheader : readHeader? line (line.text.dropWhile isInline) with
    | none => exact (agrees_stop hs hat _).located
    | some d =>
      obtain ⟨hread, hle⟩ := headerAt_eq hs hat hheader
      rw [Option.isSome_some, if_pos rfl, hread]
      exact .ok ⟨rfl, by omega⟩

theorem loop_pathRound (hs : Standing s line more) (h : At line rest pos) :
    loop s (pathRound s) () pos = .ok ((), pos + width (rest.takeWhile fun c => !isBlank c)) := by
  induction rest generalizing pos with
  | nil =>
    refine loop_done ?_
    rw [pathRound]
    rcases peek_at_end hs h with hpeek | ⟨c, hc, hpeek⟩
    · rw [hpeek]
      rfl
    · rw [hpeek, ok_bind]
      exact if_pos (isBlank_of_isLineEnd hc)
  | cons c rest ih =>
    have hpeek : peek s pos = .ok (some c) := (h.left hs).peek_eq
    by_cases hc : isBlank c = true
    · rw [List.takeWhile_cons_of_neg (by simpa using hc)]
      refine loop_done ?_
      rw [pathRound, hpeek, ok_bind]
      exact if_pos hc
    · have hround : pathRound s () pos = .ok (.again () (pos + c.utf8Size)) := by
        rw [pathRound, hpeek, ok_bind]
        exact if_neg hc
      have hpos := c.utf8Size_pos
      rw [loop_again hround (by omega) (h.tail.le_width hs), ih h.tail,
        List.takeWhile_cons_of_pos (by simpa using hc), width_cons, Nat.add_assoc]

theorem path_agrees (hs : Standing s line more) (h : At line rest pos) :
    Agrees (faultAt line) (ReadAt line pos) (readPath rest) (pathAt s pos) := by
  have hleft := h.left hs
  rw [← List.takeWhile_append_dropWhile (p := fun c => !isBlank c) (l := rest),
    List.append_assoc] at hleft
  rw [readPath, pathAt, loop_pathRound hs h, ok_bind]
  dsimp only
  split
  · rename_i hnil
    rw [hnil, width_nil, Nat.add_zero, if_pos rfl]
    exact agrees_stop hs h _
  · rename_i hne
    have hpos : width (rest.takeWhile fun c => !isBlank c) ≠ 0 :=
      mt width_eq_zero_iff.mp (by simpa using hne)
    rw [if_neg (by omega), hleft.slice_eq, ok_bind]
    exact .ok ⟨rfl, h.dropWhile _, Nat.le_add_right _ _⟩

theorem skipInline_skipInline (t : List Char) :
    Text.skipInline (Text.skipInline t) = Text.skipInline t :=
  skipInline_of_stops (stops_dropWhile isInline t)

/-- After a binding two places matter: where the request ends, and where its line goes on. -/
theorem binding_agrees (hs : Standing s line more) (h : At line rest pos) :
    Agrees (faultAt line) (fun a b => b.1 = a.1 ∧ At line a.2 b.2.1 ∧ pos ≤ b.2.1 ∧
      ∃ left, At line left b.2.2 ∧ endLine left = endLine a.2) (readBinding rest)
      (bindingAt s pos) := by
  have hskip := h.dropWhile isInline
  rw [readBinding, bindingAt, skipInline_eq hs h, ok_bind, (hskip.left hs).peek_eq, ok_bind]
  simp only [head?_eq_some_iff_below hs (by decide : isLineEnd '|' = false)]
  split
  · rename_i bound hbar
    have hbar' : rest.dropWhile isInline = '|' :: bound := hbar
    rw [hbar'] at hskip
    rw [hbar', if_pos List.head?_cons]
    have hbound : At line bound (pos + width (rest.takeWhile isInline) + 1) := hskip.tail
    rw [skipInline_eq hs hbound, ok_bind]
    refine (identifier_agrees hs (hbound.dropWhile isInline) .processorName).map ?_
    rintro ⟨name, left⟩ ⟨name', p₁⟩ ⟨rfl, h₁, hle₁⟩
    have hle : pos ≤ p₁ := by
      dsimp only at hle₁
      omega
    exact .ok ⟨rfl, h₁, hle, left, h₁, rfl⟩
  · rename_i hplain
    have hhead : ¬(rest.dropWhile isInline).head? = some '|' := by
      intro hhead
      obtain ⟨bound, hbound⟩ := List.head?_eq_some_iff.mp hhead
      exact hplain bound hbound
    rw [if_neg hhead]
    refine .ok ⟨rfl, h, Nat.le_refl _, _, hskip, ?_⟩
    rw [endLine, endLine, ← Text.skipInline, skipInline_skipInline]

theorem requestLine_agrees (hs : Standing s line more) (h : At line rest pos) :
    Agrees (faultAt line) (fun r b =>
      b = (r, nextStart line) ∧ r.span.start = pos ∧ pos ≤ r.span.stop ∧ r.headers = [])
      (readRequest line rest) (requestLine s pos) := by
  have hclass (c : Char) (hc : c.isAlphanum = true) : c.toNat < 128 :=
    toNat_lt_of_isNameChar (by simp [isNameChar, hc])
  have hends : ∀ c, isLineEnd c = true → c.isAlphanum = false := not_of_lineEnd rfl rfl
  have hinline : ∀ c, isLineEnd c = true → isInline c = false := not_of_lineEnd rfl rfl
  have hleft := h.left hs
  have hword := hleft
  rw [← List.takeWhile_append_dropWhile (p := Char.isAlphanum) (l := rest), List.append_assoc] at hword
  have hat := h.dropWhile Char.isAlphanum
  rw [readRequest, requestLine, hleft.rest_eq, ok_bind, countBytes_eq hclass,
    takeWhile_below hs hends]
  dsimp only
  rw [hword.slice_eq, ok_bind]
  cases Method.ofName? (String.ofList (rest.takeWhile Char.isAlphanum)) with
  | none => exact agrees_stop hs h _
  | some method =>
    dsimp only
    rw [(hat.left hs).peek_eq, ok_bind, any_head?_below hs hinline]
    split
    · rw [skipInline_eq hs hat, ok_bind]
      refine (path_agrees hs (hat.dropWhile isInline)).bind ?_
      rintro ⟨path, afterPath⟩ ⟨path', p₁⟩ ⟨rfl, h₁, hle₁⟩
      refine (binding_agrees hs h₁).bind ?_
      rintro ⟨processor, afterBinding⟩ ⟨processor', p₂, p₃⟩ ⟨rfl, h₂, hle₂, left, h₃, hend⟩
      dsimp only at h₂ hle₁ hle₂ h₃ hend ⊢
      rw [← hend]
      refine (skipTrailing_agrees hs h₃).bind ?_
      rintro _ _ rfl
      have hle : pos ≤ p₂ := by omega
      rw [← h.pos_eq, ← h₂.pos_eq]
      exact .ok ⟨rfl, rfl, hle, rfl⟩
    · exact agrees_stop hs hat _

theorem environmentLine_agrees (hs : Standing s line more) (h : At line rest pos)
    (hat : rest.head? = some '@') :
    Agrees (faultAt line) (fun name b => b = (name, nextStart line)) (readEnvironment rest)
      (environmentLine s pos) := by
  obtain ⟨rest, rfl⟩ := List.head?_eq_some_iff.mp hat
  rw [readEnvironment, environmentLine]
  refine (identifier_agrees hs h.tail .environmentName).bind ?_
  rintro ⟨name, afterName⟩ ⟨name', p₁⟩ ⟨rfl, h₁, -⟩
  refine (expectChar_agrees hs h₁ (by decide) .colon).bind ?_
  rintro afterColon p₂ ⟨h₂, -⟩
  refine (skipTrailing_agrees hs h₂).bind ?_
  rintro _ _ rfl
  exact .ok rfl

theorem opensProcessor_below (hs : Standing s line more) (rest : List Char) :
    opensProcessor (rest ++ (line.ending.chars ++ more)) = opensProcessor rest := by
  have hkeyword : ∀ c ∈ processorKeyword, Char.isUpper c = true := List.all_eq_true.mp rfl
  have hinline : ∀ c, isLineEnd c = true → isInline c = false := not_of_lineEnd rfl rfl
  rw [opensProcessor, opensProcessor,
    isPrefixOf_append_left hkeyword (hs.stops (not_of_lineEnd rfl rfl))]
  cases hprefix : processorKeyword.isPrefixOf rest with
  | false => rfl
  | true =>
    obtain ⟨after, rfl⟩ := List.isPrefixOf_iff_prefix.mp hprefix
    rw [List.append_assoc, List.drop_left, List.drop_left, any_head?_below hs hinline]

theorem processorLine_agrees (hs : Standing s line more) (h : At line rest pos)
    (hopens : opensProcessor rest = true) :
    Agrees (faultAt line) (ReadAt line pos) (readProcessor rest) (processorLine s pos) := by
  obtain ⟨c, after, rfl, -⟩ := exists_of_opensProcessor hopens
  have hafter : At line (c :: after) (pos + width processorKeyword) := h.advance
  have hfence : ∀ d ∈ fence, (d == '`') = true := List.all_eq_true.mp rfl
  rw [readProcessor, processorLine, List.drop_left, skipInline_eq hs hafter, ok_bind]
  refine (identifier_agrees hs (hafter.dropWhile isInline) .processorName).bind ?_
  rintro ⟨name, afterName⟩ ⟨name', p₁⟩ ⟨rfl, h₁, hle₁⟩
  have h₂ := h₁.dropWhile isInline
  dsimp only at h₁ hle₁ h₂ ⊢
  rw [skipInline_eq hs h₁, ok_bind, (h₂.left hs).rest_eq, ok_bind,
    isPrefixOf_append_left hfence (hs.stops (not_of_lineEnd rfl rfl))]
  by_cases hprefix : fence.isPrefixOf (Text.skipInline afterName) = true
  · have hprefix' : fence.isPrefixOf (afterName.dropWhile isInline) = true := hprefix
    obtain ⟨script, hscript⟩ := List.isPrefixOf_iff_prefix.mp hprefix'
    have h₃ := h₂
    rw [← hscript] at h₃
    have hle : pos ≤ p₁ + width (afterName.takeWhile isInline) + width fence := by omega
    rw [if_pos hprefix, if_pos hprefix', Text.skipInline, ← hscript, List.drop_left]
    exact .ok ⟨rfl, h₃.advance, hle⟩
  · have hprefix' : ¬fence.isPrefixOf (afterName.dropWhile isInline) = true := hprefix
    rw [if_neg hprefix, if_neg hprefix']
    exact agrees_stop hs h₂ _

end

end RequestBook.Cursor
