import RequestBook.Proofs.Grammar.CursorLoop
import RequestBook.Proofs.Grammar.Written

namespace RequestBook

open RequestBook.Text

theorem LineBreak.isLineEnd_of_mem_chars {ending : LineBreak} {c : Char} (h : c ∈ ending.chars) :
    isLineEnd c = true := by
  cases ending with
  | none => cases h
  | lf | cr | crlf => exact List.all_eq_true.mp (by decide) c h

namespace Grammar

inductive Spells : List Char → List Char → Prop
  | nil : Spells [] []
  | plain {c units value} : c ≠ '"' → c ≠ '\\' → Spells units value →
      Spells (c :: units) (c :: value)
  | escaped {c units value} : c = '"' ∨ c = '\\' → Spells units value →
      Spells ('\\' :: c :: units) (c :: value)

/-- The text behind an opening quote begins with units and a closing quote. -/
structure Closes (l units value rest : List Char) : Prop where
  split : l = units ++ '"' :: rest
  spells : Spells units value

/-- The text behind an opening quote begins with units and a backslash before a character that cannot
be escaped. -/
structure Strays (l units : List Char) (c : Char) (rest : List Char) : Prop where
  split : l = units ++ '\\' :: c :: rest
  ne_quote : c ≠ '"'
  ne_slash : c ≠ '\\'
  spells : ∃ value, Spells units value

variable {l units value rest : List Char} {c : Char}

theorem spells_escapeQuoted (value : List Char) : Spells (escapeQuoted value) value := by
  induction value with
  | nil => exact .nil
  | cons c value ih =>
    rw [escapeQuoted]
    split
    · rename_i hc
      exact .escaped hc ih
    · rename_i hc
      obtain ⟨hquote, hslash⟩ := not_or.mp hc
      exact .plain hquote hslash ih

theorem readQuoted_append (h : Spells units value) (l : List Char) : readQuoted (units ++ l) =
    (readQuoted l).map fun (part, left) => (value ++ part, left) := by
  induction h with
  | nil =>
    rw [List.nil_append]
    exact (congrFun Except.map_id _).symm
  | plain hquote hslash _ ih =>
    rw [List.cons_append, readQuoted_cons hquote hslash, ih]
    cases readQuoted l <;> rfl
  | escaped hc _ ih =>
    rcases hc with rfl | rfl
    all_goals
      rw [List.cons_append, List.cons_append, readQuoted, ih]
      cases readQuoted l <;> rfl

theorem Closes.readQuoted_eq (h : Closes l units value rest) : readQuoted l = .ok (value, rest) := by
  rw [h.split, readQuoted_append h.spells, readQuoted]
  simp [Except.map]

theorem Strays.readQuoted_eq (h : Strays l units c rest) :
    readQuoted l = .error ⟨.invalidEscape c, width ('\\' :: c :: rest)⟩ := by
  obtain ⟨value, hspells⟩ := h.spells
  rw [h.split, readQuoted_append hspells]
  have hstray : readQuoted ('\\' :: c :: rest) = stopAt (.invalidEscape c) ('\\' :: c :: rest) := by
    rw [readQuoted]
    · exact h.ne_quote
    · exact h.ne_slash
  rw [hstray]
  rfl

inductive Breaks : List Char → Prop
  | ended : Breaks []
  | slash : Breaks ['\\']
  | quote (rest : List Char) : Breaks ('"' :: rest)
  | stray {c : Char} (rest : List Char) : c ≠ '"' → c ≠ '\\' → Breaks ('\\' :: c :: rest)

theorem exists_units (l : List Char) :
    ∃ units value tail, l = units ++ tail ∧ Spells units value ∧ Breaks tail := by
  have hcons (unit : List Char) {l : List Char} {c : Char}
      (hunit : ∀ units value, Spells units value → Spells (unit ++ units) (c :: value))
      (h : ∃ units value tail, l = units ++ tail ∧ Spells units value ∧ Breaks tail) :
      ∃ units value tail, unit ++ l = units ++ tail ∧ Spells units value ∧ Breaks tail := by
    obtain ⟨units, value, tail, rfl, hspells, hbreaks⟩ := h
    exact ⟨unit ++ units, c :: value, tail, by simp, hunit units value hspells, hbreaks⟩
  fun_induction readQuoted l with
  | case1 => exact ⟨[], [], [], rfl, .nil, .ended⟩
  | case2 rest => exact ⟨[], [], _, rfl, .nil, .quote rest⟩
  | case3 rest ih => exact hcons ['\\', '"'] (fun _ _ h => .escaped (.inl rfl) h) ih
  | case4 rest ih => exact hcons ['\\', '\\'] (fun _ _ h => .escaped (.inr rfl) h) ih
  | case5 => exact ⟨[], [], _, rfl, .nil, .slash⟩
  | case6 c rest hquote hslash => exact ⟨[], [], _, rfl, .nil, .stray rest hquote hslash⟩
  | case7 c rest hquote _ _ hend hescape ih =>
    have hslash : c ≠ '\\' := by
      rintro rfl
      cases rest with
      | nil => exact hend rfl rfl
      | cons d rest => exact hescape d rest rfl rfl
    exact hcons [c] (fun _ _ h => .plain hquote hslash h) ih

theorem readQuoted_cases (l : List Char) : (∃ units value rest, Closes l units value rest) ∨
    (∃ units c rest, Strays l units c rest) ∨ readQuoted l = .error ⟨.unterminatedString, 0⟩ := by
  obtain ⟨units, value, tail, rfl, hspells, hbreaks⟩ := exists_units l
  cases hbreaks with
  | ended =>
    rw [readQuoted_append hspells]
    exact .inr (.inr rfl)
  | slash =>
    rw [readQuoted_append hspells]
    exact .inr (.inr rfl)
  | quote rest => exact .inl ⟨units, value, rest, rfl, hspells⟩
  | stray rest hquote hslash => exact .inr (.inl ⟨units, _, rest, rfl, hquote, hslash, value, hspells⟩)

end Grammar

namespace Cursor

open RequestBook.Grammar

def FailsAt {s : List Char} {α : Type} (outcome : Outcome s α) (cause : SyntaxCause) (offset : Nat) :
    Prop :=
  ∃ h, outcome = .error (.refused (Fault.locate ⟨cause, offset⟩ (Line.split s)) h)

section

variable {s : List Char} {α : Type} {outcome : Outcome s α} {cause cause' : SyntaxCause}
  {offset offset' : Nat}

theorem FailsAt.unique (h : FailsAt outcome cause offset) (h' : FailsAt outcome cause' offset') :
    cause = cause' ∧ offset = offset' := by
  obtain ⟨_, heq⟩ := h
  obtain ⟨_, heq'⟩ := h'
  have hsame := Failure.refused.inj (Except.error.inj (heq.symm.trans heq'))
  exact ⟨congrArg SyntaxError.cause hsame, congrArg SyntaxError.offset hsame⟩

theorem FailsAt.ne_ok (h : FailsAt outcome cause offset) (a : α) : outcome ≠ .ok a := by
  obtain ⟨_, rfl⟩ := h
  exact nofun

end

/-- The literal behind the opening quote at an offset is scanned exactly, where `l` is the text behind
the quote on its line. -/
structure ScansLiteral (s : List Char) (quote : Nat) (l : List Char) : Prop where
  ok_iff : ∀ value stop, loop s (quotedRound s) [] (quote + 1) = .ok (value, stop) ↔
    ∃ units rest, Closes l units value rest ∧ stop = quote + 1 + width units + 1
  invalidEscape_iff : ∀ c offset,
    FailsAt (loop s (quotedRound s) [] (quote + 1)) (.invalidEscape c) offset ↔
      ∃ units rest, Strays l units c rest ∧ offset = quote + 1 + width units
  unterminated_iff : ∀ offset,
    FailsAt (loop s (quotedRound s) [] (quote + 1)) .unterminatedString offset ↔
      (¬∃ units value rest, Closes l units value rest) ∧ (¬∃ units c rest, Strays l units c rest) ∧
        offset = quote + 1 + width l
  /-- the reader of the line that the quote stands on takes the literal for the same -/
  on_line : ∃ line ∈ Line.split s, At line ('"' :: l) quote ∧
    Agrees (faultAt line) (ReadAt line (quote + 1)) (readQuoted l)
      (loop s (quotedRound s) [] (quote + 1))

section

variable {s more l units value rest before after : List Char} {line : Line} {first : Nat} {c : Char}
  {stop : Stop}

theorem exists_standing (hc : isLineEnd c = false) : ∃ line more,
    line ∈ Line.split (before ++ c :: after) ∧ Standing (before ++ c :: after) line more ∧
      At line (c :: restOfLine after) (width before) := by
  obtain ⟨earlier, ⟨text, ending⟩, later, done, rest, hdivide, hline, hbefore, hafter⟩ :=
    exists_of_flatMap_eq_append (Line.textOf_divide (before ++ c :: after))
  have hdivided : Line.Divided ((text, ending) :: later) :=
    (hdivide ▸ Line.divided_divide (before ++ c :: after)).of_append (List.cons_ne_nil _ _)
  have hwhole : before ++ c :: after =
      Line.textOf earlier ++ (text ++ (ending.chars ++ Line.textOf later)) := by
    rw [← Line.textOf_divide (before ++ c :: after), hdivide, Line.textOf_append, Line.textOf_cons,
      List.append_assoc text]
  have hmem : ⟨width (Line.textOf earlier), text, ending⟩ ∈ Line.split (before ++ c :: after) := by
    rw [Line.split, hdivide, Line.place_append, Nat.zero_add]
    exact List.mem_append_right _ List.mem_cons_self
  have hs := standing_of_divided hdivided ⟨Line.textOf earlier, hwhole, rfl⟩
  -- the character is in the text of a line, because only line ends are in its break
  rcases append_eq_append_cons hline with ⟨tail, htext⟩ | ⟨more, -, hmore⟩
  · have htail : text = done ++ c :: tail := by simpa using htext
    have hrest : rest = tail ++ ending.chars := by
      rw [htail] at hline
      simpa using hline.symm
    have hat : At ⟨width (Line.textOf earlier), text, ending⟩ (c :: tail)
        (width (Line.textOf earlier) + width done) := by
      refine At.advance ?_
      rw [← htail]
      exact at_start _
    have htail_eq : restOfLine after = tail := by
      rw [hafter, hrest, List.append_assoc]
      exact restOfLine_eq hs (hat.tail.no_end hs)
    refine ⟨_, _, hmem, hs, ?_⟩
    rwa [htail_eq, hbefore, width_append]
  · have hend := LineBreak.isLineEnd_of_mem_chars (hmore ▸ List.mem_append_right more List.mem_cons_self)
    rw [hc] at hend
    cases hend

theorem loop_of_read (hs : Standing s line more) (hat : At line l first)
    (h : readQuoted l = .ok (value, rest)) :
    ∃ stop, loop s (quotedRound s) [] first = .ok (value, stop) ∧ At line rest stop := by
  have hagrees := literal_agrees hs hat
  rw [h] at hagrees
  generalize loop s (quotedRound s) [] first = outcome at hagrees
  cases hagrees with
  | @ok _ b hread => exact ⟨b.2, congrArg Except.ok (Prod.ext hread.same rfl), hread.stands⟩

theorem failsAt_of_read (hs : Standing s line more) (hat : At line l first)
    (h : readQuoted l = .error stop) :
    FailsAt (loop s (quotedRound s) [] first) stop.cause (faultAt line stop).offset := by
  have hagrees := literal_agrees hs hat
  rw [h] at hagrees
  generalize loop s (quotedRound s) [] first = outcome at hagrees
  cases hagrees with
  | error hb => exact ⟨hb, rfl⟩

theorem loop_of_closes (hs : Standing s line more) (hat : At line l first)
    (h : Closes l units value rest) :
    loop s (quotedRound s) [] first = .ok (value, first + width units + 1) := by
  obtain ⟨stop, hloop, hstop⟩ := loop_of_read hs hat h.readQuoted_eq
  have hquote : At line ('"' :: rest) (first + width units) := At.advance (h.split ▸ hat)
  have hbehind : At line rest (first + width units + 1) := hquote.tail
  rw [hloop, hstop.pos_eq, ← hbehind.pos_eq]

theorem failsAt_of_strays (hs : Standing s line more) (hat : At line l first)
    (h : Strays l units c rest) :
    FailsAt (loop s (quotedRound s) [] first) (.invalidEscape c) (first + width units) := by
  have hslash : At line ('\\' :: c :: rest) (first + width units) := At.advance (h.split ▸ hat)
  have hfails := failsAt_of_read hs hat h.readQuoted_eq
  rwa [hslash.pos_eq]

theorem failsAt_of_unterminated (hs : Standing s line more) (hat : At line l first)
    (h : readQuoted l = .error ⟨.unterminatedString, 0⟩) :
    FailsAt (loop s (quotedRound s) [] first) .unterminatedString (first + width l) := by
  have hfails := failsAt_of_read hs hat h
  rwa [hat.at_end.pos_eq]

theorem loop_eq_ok_iff (hs : Standing s line more) (hat : At line l first) {stop : Nat} :
    loop s (quotedRound s) [] first = .ok (value, stop) ↔
      ∃ units rest, Closes l units value rest ∧ stop = first + width units + 1 := by
  constructor
  · intro hloop
    rcases readQuoted_cases l with ⟨units, value', rest, h⟩ | ⟨units, c, rest, h⟩ | h
    · have hread := hloop.symm.trans (loop_of_closes hs hat h)
      cases hread
      exact ⟨units, rest, h, rfl⟩
    · exact absurd hloop ((failsAt_of_strays hs hat h).ne_ok _)
    · exact absurd hloop ((failsAt_of_unterminated hs hat h).ne_ok _)
  · rintro ⟨units, rest, h, rfl⟩
    exact loop_of_closes hs hat h

theorem failsAt_invalidEscape_iff (hs : Standing s line more) (hat : At line l first) {offset : Nat} :
    FailsAt (loop s (quotedRound s) [] first) (.invalidEscape c) offset ↔
      ∃ units rest, Strays l units c rest ∧ offset = first + width units := by
  constructor
  · intro hfails
    rcases readQuoted_cases l with ⟨units, value, rest, h⟩ | ⟨units, c', rest, h⟩ | h
    · exact absurd (loop_of_closes hs hat h) (hfails.ne_ok _)
    · obtain ⟨hcause, hoffset⟩ := hfails.unique (failsAt_of_strays hs hat h)
      cases hcause
      exact ⟨units, rest, h, hoffset⟩
    · cases (hfails.unique (failsAt_of_unterminated hs hat h)).1
  · rintro ⟨units, rest, h, rfl⟩
    exact failsAt_of_strays hs hat h

theorem failsAt_unterminated_iff (hs : Standing s line more) (hat : At line l first) {offset : Nat} :
    FailsAt (loop s (quotedRound s) [] first) .unterminatedString offset ↔
      (¬∃ units value rest, Closes l units value rest) ∧ (¬∃ units c rest, Strays l units c rest) ∧
        offset = first + width l := by
  constructor
  · intro hfails
    have hcloses : ¬∃ units value rest, Closes l units value rest := by
      rintro ⟨units, value, rest, h⟩
      exact hfails.ne_ok _ (loop_of_closes hs hat h)
    have hstrays : ¬∃ units c rest, Strays l units c rest := by
      rintro ⟨units, c, rest, h⟩
      cases (hfails.unique (failsAt_of_strays hs hat h)).1
    rcases readQuoted_cases l with h | h | h
    · exact absurd h hcloses
    · exact absurd h hstrays
    · exact ⟨hcloses, hstrays, (hfails.unique (failsAt_of_unterminated hs hat h)).2⟩
  · rintro ⟨hcloses, hstrays, rfl⟩
    rcases readQuoted_cases l with h | h | h
    · exact absurd h hcloses
    · exact absurd h hstrays
    · exact failsAt_of_unterminated hs hat h

end

/-- Behind any opening quote of a text the literal is scanned exactly. The escaped form of a value that
stays on its line, with a closing quote, gives the value again and leaves what stands behind it. -/
theorem scansLiteral_of_quote (before after : List Char) :
    ScansLiteral (before ++ '"' :: after) (width before) (restOfLine after) ∧
      ∀ value rest, OneLine value → after = escapeQuoted value ++ '"' :: rest →
        ∃ stop, loop (before ++ '"' :: after) (quotedRound (before ++ '"' :: after)) []
            (width before + 1) = .ok (value, stop) ∧
          Left (before ++ '"' :: after) stop rest := by
  obtain ⟨line, more, hline, hs, hat⟩ := @exists_standing before after '"' rfl
  have htail : At line (restOfLine after) (width before + 1) := hat.tail
  have hscans : ScansLiteral (before ++ '"' :: after) (width before) (restOfLine after) :=
    { ok_iff := fun _ _ => loop_eq_ok_iff hs htail
      invalidEscape_iff := fun _ _ => failsAt_invalidEscape_iff hs htail
      unterminated_iff := fun _ => failsAt_unterminated_iff hs htail
      on_line := ⟨line, hline, hat, literal_agrees hs htail⟩ }
  refine ⟨hscans, ?_⟩
  rintro value rest hvalue rfl
  have hescaped : OneLine (escapeQuoted value) := oneLine_escapeQuoted hvalue
  have hcloses : Closes (restOfLine (escapeQuoted value ++ '"' :: rest)) (escapeQuoted value) value
      (restOfLine rest) := by
    refine ⟨?_, spells_escapeQuoted value⟩
    rw [restOfLine, List.takeWhile_append_of_pos (by simpa using oneLine_iff.mp hescaped)]
    rfl
  refine ⟨_, (hscans.ok_iff _ _).mpr ⟨_, _, hcloses, rfl⟩, ?_⟩
  have hquote : Left (before ++ '"' :: (escapeQuoted value ++ '"' :: rest)) (width before)
      (['"'] ++ (escapeQuoted value ++ (['"'] ++ rest))) := ⟨before, rfl, rfl⟩
  exact hquote.advance.advance.advance

theorem scansLiteral_of_quote_escapes :
    (∃ stop, loop "$x = \"a\\\"b\\\\\" # c".toList (quotedRound "$x = \"a\\\"b\\\\\" # c".toList) []
        6 = .ok ("a\"b\\".toList, stop) ∧ Left "$x = \"a\\\"b\\\\\" # c".toList stop " # c".toList) ∧
      FailsAt (loop "\"\\\\\\é\"".toList (quotedRound "\"\\\\\\é\"".toList) [] 1)
        (.invalidEscape 'é') 3 := by
  have hvalue := (scansLiteral_of_quote "$x = ".toList "a\\\"b\\\\\" # c".toList).2 "a\"b\\".toList
    " # c".toList (by decide) (by decide)
  have hstray : Strays "\\\\\\é\"".toList "\\\\".toList 'é' "\"".toList :=
    ⟨by decide, by decide, by decide, _, .escaped (.inr rfl) .nil⟩
  exact ⟨hvalue, ((scansLiteral_of_quote [] "\\\\\\é\"".toList).1.invalidEscape_iff 'é' 3).mpr
    ⟨_, _, hstray, by decide⟩⟩

end Cursor

end RequestBook
