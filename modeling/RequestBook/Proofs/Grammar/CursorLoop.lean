import RequestBook.Proofs.Grammar.CursorForm
import RequestBook.Proofs.Grammar.Sequel

/-!
A cursor from line to line. At the start of a line, what is left of the text is the lines that are still
to be read. Main statement: what every round of a loop keeps holds where the loop ends, and a round that
leaves the lines to be read as they are keeps what reading line by line gives.
-/

namespace RequestBook.Cursor

open RequestBook.Text RequestBook.Grammar

variable {s : List Char}

def readFrom (s : List Char) (reading : Reading) (pos : Nat) (after : List Char) :
    Except Fault (List Entry) :=
  (Line.place pos (Line.divide after)).foldlM Reading.step reading >>= Reading.finish (width s)

theorem step_nil_finish (reading : Reading) (pos total : Nat) :
    (reading.step ⟨pos, [], .none⟩ >>= Reading.finish total) = reading.finish total := by
  obtain ⟨entries, pending⟩ := reading
  cases pending with
  | nothing | environment => rfl
  | request r =>
    have hclose := Reading.close_close ⟨entries, .request r⟩
    exact congrArg (fun reading => Except.ok reading.entries) hclose
  | body r lines =>
    have hclose := Reading.close_close ⟨entries, .body r lines⟩
    exact congrArg (fun reading => Except.ok reading.entries) hclose
  | processor => rfl

theorem readFrom_nil (reading : Reading) (pos : Nat) :
    readFrom s reading pos [] = reading.finish (width s) := by
  rw [readFrom, Line.divide, Line.place, Line.place, List.foldlM_cons, bind_assoc]
  exact step_nil_finish reading pos (width s)

structure FirstLine (s : List Char) (pos : Nat) (after : List Char) (line : Line) (more : List Char) :
    Prop where
  standing : Standing s line more
  start_eq : line.start = pos
  after_eq : after = line.text ++ (line.ending.chars ++ more)
  nonempty : after ≠ []
  read : ∀ reading, readFrom s reading pos after =
    reading.step line >>= fun next => readFrom s next (nextStart line) more

theorem standing_of_divided {pos : Nat} {text : List Char} {ending : LineBreak}
    {ls : List (List Char × LineBreak)} (hdivided : Line.Divided ((text, ending) :: ls))
    (h : Left s pos (text ++ (ending.chars ++ Line.textOf ls))) :
    Standing s ⟨pos, text, ending⟩ (Line.textOf ls) := by
  refine ⟨h, hdivided.isLineEnd_of_mem, hdivided.textOf_eq_nil, fun hcr hlf => ?_⟩
  obtain ⟨below, hbelow⟩ := List.head?_eq_some_iff.mp hlf
  cases hdivided with
  | last _ => cases hbelow
  | cons _ _ hsplit hls => exact hls.textOf_ne_lf (hsplit hcr) below hbelow

theorem exists_firstLine {pos : Nat} {after : List Char} (h : Left s pos after) (hne : after ≠ []) :
    ∃ line more, FirstLine s pos after line more := by
  have hdivided := Line.divided_divide after
  have htext := Line.textOf_divide after
  cases hdivide : Line.divide after with
  | nil => exact absurd hdivide (Line.divide_ne_nil after)
  | cons l ls =>
    obtain ⟨text, ending⟩ := l
    rw [hdivide] at hdivided htext
    have hafter : after = text ++ (ending.chars ++ Line.textOf ls) := by
      rw [← htext, Line.textOf_cons, List.append_assoc]
    have hread (reading : Reading) : readFrom s reading pos after =
        reading.step ⟨pos, text, ending⟩ >>= fun next =>
          (Line.place (pos + width text + width ending.chars) ls).foldlM Reading.step next >>=
            Reading.finish (width s) := by
      rw [readFrom, hdivide, Line.place, List.foldlM_cons, bind_assoc]
    refine ⟨⟨pos, text, ending⟩, Line.textOf ls, standing_of_divided hdivided (hafter ▸ h), rfl, hafter,
      hne, fun reading => ?_⟩
    rw [hread]
    cases hdivided with
    | last _ =>
      simp only [Line.textOf_nil, readFrom_nil]
      rfl
    | cons _ _ _ hls =>
      simp only [readFrom, hls.divide_textOf]
      rfl

section

variable {line : Line} {more after : List Char} {pos : Nat}

theorem FirstLine.left (h : FirstLine s pos after line more) : Left s pos after := by
  have hleft := h.standing.left
  rwa [← h.after_eq, h.start_eq] at hleft

theorem FirstLine.at_start (h : FirstLine s pos after line more) : At line line.text pos := by
  have hat := Cursor.at_start line
  rwa [h.start_eq] at hat

theorem FirstLine.next (h : FirstLine s pos after line more) : Left s (nextStart line) more :=
  h.standing.left_next

theorem FirstLine.lt_next (h : FirstLine s pos after line more) : pos < nextStart line := by
  have hafter := h.left.add_width
  have hmore := h.next.add_width
  have hpos : width after ≠ 0 := mt width_eq_zero_iff.mp h.nonempty
  have hwidth : width after = width line.text + (width line.ending.chars + width more) := by
    rw [h.after_eq, width_append, width_append]
  have hnext : nextStart line = pos + width line.text + width line.ending.chars := by
    rw [nextStart, Line.stop, h.start_eq]
  refine Nat.lt_of_not_le fun hle => ?_
  have hending : width line.ending.chars = 0 := by omega
  cases hbreak : line.ending with
  | none =>
    have hmore' := h.standing.last hbreak
    rw [hmore', width_nil] at hwidth
    omega
  | lf | cr | crlf =>
    rw [hbreak] at hending
    cases hending

theorem FirstLine.next_le (h : FirstLine s pos after line more) : nextStart line ≤ width s := by
  have hwidth := h.next.add_width
  omega

theorem FirstLine.atEnd_eq (h : FirstLine s pos after line more) : atEnd s pos = false := by
  rw [h.left.atEnd_eq]
  exact List.isEmpty_eq_false_iff.mpr h.nonempty

theorem FirstLine.lineContent_eq (h : FirstLine s pos after line more) :
    lineContent s pos = .ok (Text.skipInline line.text) := by
  rw [lineContent, h.left.rest_eq, ok_bind, h.after_eq, restOfLine_eq h.standing h.standing.no_end]

theorem isEmpty_trimEnd (t : List Char) : (trimEnd t).isEmpty = t.all isBlank := by
  rw [Bool.eq_iff_iff, List.isEmpty_iff, List.all_eq_true]
  constructor
  · intro hnil
    obtain ⟨blanks, ht, hblanks⟩ := trimEnd_append_blanks t
    rwa [ht, hnil]
  · exact fun ht => trimEnd_append_of_blank ht []

theorem all_skipInline (t : List Char) : (Text.skipInline t).all isBlank = t.all isBlank := by
  obtain ⟨indent, ht, hindent⟩ := exists_skipInline t
  have hblank : indent.all isBlank = true :=
    List.all_eq_true.mpr fun c hc => isBlank_of_isInline (hindent c hc)
  calc (Text.skipInline t).all isBlank = (indent ++ Text.skipInline t).all isBlank := by
        rw [List.all_append, hblank, Bool.true_and]
    _ = t.all isBlank := by rw [← ht]

theorem FirstLine.lineIsBlank_eq (h : FirstLine s pos after line more) :
    lineIsBlank s pos = .ok line.isBlank := by
  rw [lineIsBlank, h.lineContent_eq, ok_bind, isEmpty_trimEnd, all_skipInline, Line.isBlank]

theorem FirstLine.lineIsComment_eq (h : FirstLine s pos after line more) :
    lineIsComment s pos = .ok line.isComment := by
  rw [lineIsComment, h.lineContent_eq, ok_bind, Line.isComment]

theorem FirstLine.skipLine_eq (h : FirstLine s pos after line more) :
    skipLine s pos = .ok (nextStart line) := by
  rw [skipLine, skipToLineEnd_eq h.standing h.at_start, ok_bind,
    passLineEnd_eq h.standing h.at_start.at_end]

theorem FirstLine.atGap_eq (h : FirstLine s pos after line more) :
    atGap s pos = .ok line.isBlank := by
  rw [atGap, h.atEnd_eq, h.lineIsBlank_eq]
  rfl

theorem atGap_nil (h : Left s pos []) : atGap s pos = .ok true := by
  rw [atGap, h.atEnd_eq]
  rfl

end

/-- What reading with a cursor gives, where `read` is what reading line by line gives in the end:
something that is as it should be, or the same error, at a boundary. It is never stuck. -/
inductive Delivers {β : Type} (read : Except Fault (List Entry)) (Q : β → Prop) : Outcome s β → Prop
  | ok {b} : Q b → Delivers read Q (.ok b)
  | error {fault} : read = .error fault → (h : isBoundary fault.offset s = true) →
      Delivers read Q (.error (.refused (fault.locate (Line.split s)) h))

section

variable {α β γ : Type} {read : Except Fault (List Entry)}

theorem Delivers.bind {Q : β → Prop} {R : γ → Prop} {c : Outcome s β} {g : β → Outcome s γ}
    (h : Delivers read Q c) (hk : ∀ b, Q b → Delivers read R (g b)) : Delivers read R (c >>= g) := by
  cases h with
  | ok hb => exact hk _ hb
  | error hread hb => exact .error hread hb

theorem Agrees.delivers {R : α → β → Prop} {Q : γ → Prop} {r : Except Fault α}
    {c : Outcome s β} {k : α → Except Fault (List Entry)} {g : β → Outcome s γ}
    (h : Agrees id R r c) (hread : read = r >>= k)
    (hk : ∀ a b, R a b → read = k a → Delivers read Q (g b)) : Delivers read Q (c >>= g) := by
  cases h with
  | ok hab => exact hk _ _ hab hread
  | @error fault hb => exact @Delivers.error s γ read Q fault hread hb

theorem delivers_fail {Q : β → Prop} {cause : SyntaxCause} {offset : Nat}
    (hread : read = .error ⟨cause, offset⟩) (h : isBoundary offset s = true) :
    Delivers read Q (fail s cause offset) := by
  rw [fail_eq cause h]
  exact .error hread h

def Goes (s : List Char) (I : β → Nat → Prop) (Q : α × Nat → Prop) (pos : Nat) : Round β α → Prop
  | .again state' pos' => pos < pos' ∧ pos' ≤ width s ∧ I state' pos'
  | .done a pos' => Q (a, pos')

theorem delivers_loop {round : β → Nat → Outcome s (Round β α)} {I : β → Nat → Prop}
    {Q : α × Nat → Prop} {state : β} {pos : Nat}
    (hround : ∀ state pos, I state pos → Delivers read (Goes s I Q pos) (round state pos))
    (h : I state pos) : Delivers read Q (loop s round state pos) := by
  induction hleft : width s - pos using Nat.strongRecOn generalizing state pos with
  | _ n ih =>
    have hdelivers := hround state pos h
    cases hresult : round state pos with
    | error e =>
      rw [hresult] at hdelivers
      rw [loop_error hresult]
      cases hdelivers with
      | error hread hb => exact .error hread hb
    | ok r =>
      rw [hresult] at hdelivers
      cases hdelivers with
      | ok hgoes =>
        cases r with
        | again state' pos' =>
          obtain ⟨hlt, hle, hstate⟩ := hgoes
          rw [loop_again hresult hlt hle]
          exact ih _ (by omega) hstate rfl
        | done a pos' =>
          rw [loop_done hresult]
          exact .ok hgoes

end

def Resumes (s : List Char) (read : Except Fault (List Entry)) (reading : Reading) (pos : Nat) : Prop :=
  ∃ after, Left s pos after ∧ read = readFrom s reading pos after

section

variable {read : Except Fault (List Entry)} {reading next : Reading} {pos pos' : Nat}
  {after after' more : List Char} {line : Line} {entries : List Entry}

theorem FirstLine.resumes (h : FirstLine s pos after line more)
    (hread : read = readFrom s reading pos after) (hstep : reading.step line = .ok next) :
    Resumes s read next (nextStart line) := by
  refine ⟨more, h.next, ?_⟩
  rw [hread, h.read, hstep, ok_bind]

def Passes (reading : Reading) : Prop :=
  ∀ line : Line, (line.isBlank || line.isComment) = true → reading.step line = .ok reading

theorem passes_nothing (entries : List Entry) : Passes ⟨entries, .nothing⟩ :=
  fun _ hskip => if_pos hskip

theorem passes_environment (entries : List Entry) (name : String) (start : Nat)
    (definitions : List Definition) : Passes ⟨entries, .environment name start definitions⟩ :=
  fun _ hskip => if_pos hskip

inductive Ready (s : List Char) (pos : Nat) : List Char → Prop
  | ended : Ready s pos []
  | line {text line more} : FirstLine s pos text line more →
      (line.isBlank || line.isComment) = false → Ready s pos text

structure Skips (s : List Char) (pos : Nat) (after : List Char) (pos' : Nat) (after' : List Char) :
    Prop where
  left : Left s pos' after'
  le : pos ≤ pos'
  read : ∀ reading, Passes reading → readFrom s reading pos after = readFrom s reading pos' after'

theorem Skips.pass (h : Skips s pos after pos' after') (hfirst : FirstLine s pos' after' line more)
    (hskip : (line.isBlank || line.isComment) = true) : Skips s pos after (nextStart line) more where
  left := hfirst.next
  le := Nat.le_trans h.le (Nat.le_of_lt hfirst.lt_next)
  read := by
    intro reading hpasses
    rw [h.read reading hpasses, hfirst.read, hpasses line hskip, ok_bind]

theorem skipRound_delivers (h : ∃ after', Skips s pos after pos' after') :
    Delivers read
      (Goes s (fun _ pos' => ∃ after', Skips s pos after pos' after')
        (fun b => ∃ after', Skips s pos after b.2 after' ∧ Ready s b.2 after') pos')
      (skipBlankLines.round s () pos') := by
  obtain ⟨after', h⟩ := h
  rw [skipBlankLines.round]
  by_cases hafter : after' = []
  · subst hafter
    rw [h.left.atEnd_eq]
    exact .ok ⟨[], h, .ended⟩
  · obtain ⟨line, more, hfirst⟩ := exists_firstLine h.left hafter
    rw [hfirst.atEnd_eq, hfirst.lineIsBlank_eq, hfirst.lineIsComment_eq, ok_bind, ok_bind]
    cases hskip : line.isBlank || line.isComment with
    | true =>
      rw [hfirst.skipLine_eq]
      exact .ok ⟨hfirst.lt_next, hfirst.next_le, more, h.pass hfirst hskip⟩
    | false => exact .ok ⟨after', h, .line hfirst hskip⟩

theorem skipBlankLines_delivers (h : Left s pos after) :
    Delivers read (fun pos' => ∃ after', Skips s pos after pos' after' ∧ Ready s pos' after')
      (skipBlankLines s pos) := by
  have hstart : Skips s pos after pos after := ⟨h, Nat.le_refl _, fun _ _ => rfl⟩
  refine (delivers_loop (fun _ _ => skipRound_delivers) ⟨after, hstart⟩).bind ?_
  exact fun _ hb => .ok hb

end

end RequestBook.Cursor
