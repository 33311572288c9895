import RequestBook.Proofs.Grammar.Extent
import RequestBook.Proofs.Grammar.Literal

/-!
Reading lines that are moved, or that end in another way. What a line means depends on its text and
on the open construct alone, so where a line stands shows only in spans, and how it ends only in
scripts. Main statement: a change of these commutes with reading, for lines that are read and for
lines that fail.
-/

namespace RequestBook

open RequestBook.Text

section Results

variable {ε δ α β γ : Type}

def onBoth (f : α → β) (g : ε → δ) (r : Except ε α) : Except δ β :=
  (r.map f).mapError g

@[simp] theorem onBoth_ok (f : α → β) (g : ε → δ) (a : α) :
    onBoth f g (.ok a : Except ε α) = .ok (f a) := rfl

@[simp] theorem onBoth_error (f : α → β) (g : ε → δ) (e : ε) :
    onBoth f g (.error e : Except ε α) = .error (g e) := rfl

theorem onBoth_bind (f : β → γ) (g : ε → δ) (x : Except ε α) (k : α → Except ε β) :
    onBoth f g (x >>= k) = x.mapError g >>= fun a => onBoth f g (k a) := by
  cases x <;> rfl

end Results

/-- Where each offset goes, and what the characters of scripts turn into. Blanks may turn into other
blanks. -/
structure Relocation where
  offset : Nat → Nat
  char : Char → List Char
  isBlank_of_mem : ∀ c, isBlank c = true → ∀ d ∈ char c, isBlank d = true
  char_of_not_blank : ∀ c, isBlank c = false → char c = [c]

namespace Relocation

variable (ρ : Relocation)

def script (s : List Char) : List Char :=
  s.flatMap ρ.char

theorem script_append (s t : List Char) : ρ.script (s ++ t) = ρ.script s ++ ρ.script t :=
  List.flatMap_append

theorem script_of_forall {s : List Char} (h : ∀ c ∈ s, ρ.char c = [c]) : ρ.script s = s := by
  induction s with
  | nil => rfl
  | cons c s ih =>
    rw [script, List.flatMap_cons, h c List.mem_cons_self]
    exact congrArg (c :: ·) (ih fun d hd => h d (List.mem_cons_of_mem _ hd))

theorem isBlank_of_mem_script {s : List Char} (h : ∀ c ∈ s, isBlank c = true) :
    ∀ d ∈ ρ.script s, isBlank d = true := by
  intro d hd
  obtain ⟨c, hc, hd⟩ := List.mem_flatMap.mp hd
  exact ρ.isBlank_of_mem c (h c hc) d hd

theorem trimmed_script {s : List Char} (h : Trimmed s) : Trimmed (ρ.script s) where
  start := by
    cases s with
    | nil => exact stops_nil
    | cons c s =>
      have hc := stops_cons.mp h.start
      rw [script, List.flatMap_cons, ρ.char_of_not_blank c hc]
      exact stops_cons.mpr hc
  stop := by
    rcases List.eq_nil_or_concat s with rfl | ⟨init, c, rfl⟩
    · exact stops_nil
    · rw [List.concat_eq_append] at h ⊢
      have hstop := h.stop
      rw [List.reverse_concat] at hstop
      have hc := stops_cons.mp hstop
      rw [script_append, script, script, List.flatMap_singleton, ρ.char_of_not_blank c hc,
        List.reverse_concat]
      exact stops_cons.mpr hc

theorem trim_script (s : List Char) : trim (ρ.script s) = ρ.script (trim s) := by
  obtain ⟨after, hend, hafter⟩ := trimEnd_append_blanks (trimStart s)
  have hstart : s = s.takeWhile isBlank ++ trimStart s := List.takeWhile_append_dropWhile.symm
  rw [hend] at hstart
  calc trim (ρ.script s)
    _ = trim (ρ.script (s.takeWhile isBlank) ++ (ρ.script (trim s) ++ ρ.script after)) := by
      rw [← script_append, ← script_append]
      exact congrArg (fun t => trim (ρ.script t)) hstart
    _ = ρ.script (trim s) :=
      (ρ.trimmed_script (trimmed_trim s)).trim_append
        (ρ.isBlank_of_mem_script fun _ => List.mem_takeWhile_imp) (ρ.isBlank_of_mem_script hafter)

end Relocation

section Relocate

variable (ρ : Relocation)

def Span.relocate (span : Span) : Span :=
  ⟨ρ.offset span.start, ρ.offset span.stop⟩

def Definition.relocate (d : Definition) : Definition :=
  { d with span := d.span.relocate ρ }

def Request.relocate (r : Request) : Request :=
  { r with headers := r.headers.map (·.relocate ρ), span := r.span.relocate ρ }

def Processor.relocate (p : Processor) : Processor :=
  { p with script := String.ofList (ρ.script p.script.toList), span := p.span.relocate ρ }

def Entry.relocate : Entry → Entry
  | .definition d => .definition (d.relocate ρ)
  | .environment e =>
    .environment ⟨e.name, e.definitions.map (·.relocate ρ), e.span.relocate ρ⟩
  | .request r => .request (r.relocate ρ)
  | .processor p => .processor (p.relocate ρ)

def Fault.relocate (fault : Fault) : Fault :=
  ⟨fault.cause, ρ.offset fault.offset⟩

structure Relocation.Takes (line line' : Line) : Prop where
  text : line'.text = line.text
  offset : ∀ n, n ≤ width line.text → ρ.offset (line.start + n) = line'.start + n
  char : ∀ c ∈ line.text, ρ.char c = [c]
  ending : line'.ending.chars = ρ.script line.ending.chars

namespace Relocation.Takes

variable {ρ} {line line' : Line} (h : ρ.Takes line line')
include h

theorem start : line'.start = ρ.offset line.start :=
  (h.offset 0 (Nat.zero_le _)).symm

theorem offsetOf (rest : List Char) : line'.offsetOf rest = ρ.offset (line.offsetOf rest) := by
  rw [Line.offsetOf, h.text, Line.offsetOf, h.offset _ (Nat.sub_le _ _)]

theorem isBlank : line'.isBlank = line.isBlank := by
  rw [Line.isBlank, h.text, Line.isBlank]

theorem isComment : line'.isComment = line.isComment := by
  rw [Line.isComment, h.text, Line.isComment]

theorem isIndented : line'.isIndented = line.isIndented := by
  rw [Line.isIndented, h.text, Line.isIndented]

end Relocation.Takes

namespace Grammar

variable {ρ} {line line' : Line} {s : List Char} (h : ρ.Takes line line')
include h

theorem atLine_relocate {α : Type} (r : Except Stop α) :
    atLine line' r = (atLine line r).mapError (Fault.relocate ρ) := by
  cases r with
  | ok a => rfl
  | error stop =>
    have hoffset := h.offset (width line.text - stop.left) (Nat.sub_le _ _)
    rw [atLine, atLine, h.text]
    exact congrArg (fun offset => Except.error (Fault.mk stop.cause offset)) hoffset.symm

theorem readVariable_relocate (s : List Char) :
    readVariable line' s = (readVariable line s).map (·.relocate ρ) := by
  simp only [readVariable, map_bind_eq_bind_map, h.offsetOf]
  rfl

theorem readHeader?_relocate (hs : width s ≤ width line.text) :
    readHeader? line' s = (readHeader? line s).map (·.relocate ρ) := by
  rw [readHeader?, readHeader?, Option.map_map]
  apply Option.map_congr
  rintro ⟨name, rest⟩ hname
  have hrest := Nat.le_trans (width_of_headerName? hname) hs
  simp only [Function.comp, Definition.relocate, Span.relocate, h.offsetOf]
  split
  · rfl
  · have hskip := Nat.le_trans (width_skipInline_le rest) hrest
    have hvalue := width_trimEnd_le (skipInline rest)
    have hstop : ρ.offset (line.offsetOf (skipInline rest) + width (trimEnd (skipInline rest))) =
        ρ.offset (line.offsetOf (skipInline rest)) + width (trimEnd (skipInline rest)) := by
      rw [← h.offsetOf, Line.offsetOf, Line.offsetOf, h.text, Nat.add_assoc, Nat.add_assoc]
      exact h.offset _ (by omega)
    rw [hstop]

theorem readRequest_relocate (s : List Char) :
    readRequest line' s = (readRequest line s).map (·.relocate ρ) := by
  rw [readRequest, readRequest]
  dsimp only
  split
  · rfl
  · split
    · simp only [map_bind_eq_bind_map, h.offsetOf]
      rfl
    · rfl

theorem readIndented_relocate :
    readIndented line' = onBoth (·.relocate ρ) (Fault.relocate ρ) (readIndented line) := by
  rw [readIndented, readIndented]
  simp only [h.text, readVariable_relocate h, readHeader?_relocate h (width_skipInline_le _),
    atLine_relocate h]
  split
  · cases readVariable line (skipInline line.text) <;> rfl
  · cases readHeader? line (skipInline line.text) <;> rfl

end Grammar

namespace Grammar

def Pending.relocate : Pending → Pending
  | .nothing => .nothing
  | .environment name start definitions =>
    .environment name (ρ.offset start) (definitions.map (·.relocate ρ))
  | .request r => .request (r.relocate ρ)
  | .body r lines => .body (r.relocate ρ) lines
  | .processor name start script => .processor name (ρ.offset start) (ρ.script script)

theorem entry?_relocate (pending : Pending) :
    Pending.entry? (pending.relocate ρ) = pending.entry?.map (·.relocate ρ) := by
  cases pending with
  | environment name start definitions =>
    simp only [Pending.relocate, Pending.entry?, List.getLast?_map, Option.map_map]
    rfl
  | _ => rfl

theorem readProcessor_subset {s rest : List Char} {name : String}
    (h : readProcessor s = .ok (name, rest)) : ∀ c ∈ rest, c ∈ s := by
  rw [readProcessor] at h
  obtain ⟨⟨name', afterName⟩, hname, h⟩ := bind_eq_ok_iff.mp h
  dsimp only at h
  split at h
  · cases h
    intro c hc
    have hc := (List.dropWhile_sublist _).subset ((List.drop_sublist _ _).subset hc)
    have happend := append_of_readName hname
    have hc : c ∈ skipInline (s.drop processorKeyword.length) :=
      happend ▸ List.mem_append_right _ hc
    exact (List.drop_sublist _ _).subset ((List.dropWhile_sublist _).subset hc)
  · cases h

namespace Reading

def relocate (before : List Entry) (reading : Reading) : Reading :=
  ⟨before ++ reading.entries.map (·.relocate ρ), reading.pending.relocate ρ⟩

variable {ρ} (before : List Entry) (reading : Reading)

theorem relocate_push (entry : Entry) : (reading.push entry).relocate ρ before =
    (reading.relocate ρ before).push (entry.relocate ρ) := by
  simp [relocate, push, Pending.relocate]

theorem relocate_close :
    reading.close.relocate ρ before = (reading.relocate ρ before).close := by
  simp only [relocate, close, entry?_relocate, List.map_append, List.append_assoc]
  cases reading.pending.entry? <;> rfl

theorem finish_relocate (total : Nat) :
    (reading.relocate ρ before).finish (ρ.offset total) =
      onBoth (before ++ List.map (·.relocate ρ) ·) (Fault.relocate ρ) (reading.finish total) := by
  have hclose : (reading.relocate ρ before).close.entries =
      before ++ reading.close.entries.map (·.relocate ρ) :=
    congrArg entries (relocate_close before reading).symm
  obtain ⟨entries, pending⟩ := reading
  cases pending with
  | environment name start definitions =>
    cases definitions with
    | nil => rfl
    | cons d ds => exact congrArg Except.ok hclose
  | nothing | request | body => exact congrArg Except.ok hclose
  | processor => rfl

variable {line line' : Line} (h : ρ.Takes line line')
include h

theorem continueScript_relocate (name : String) (start : Nat) (script : List Char)
    {rest : List Char} (hrest : ∀ c ∈ rest, c ∈ line.text) :
    (reading.relocate ρ before).continueScript name (ρ.offset start) (ρ.script script) line' rest =
      onBoth (relocate ρ before) (Fault.relocate ρ)
        (reading.continueScript name start script line rest) := by
  rw [continueScript, continueScript]
  cases hfence : splitFence? rest with
  | none =>
    have hsame := ρ.script_of_forall fun c hc => h.char c (hrest c hc)
    simp only [onBoth_ok, relocate, Pending.relocate, ρ.script_append, hsame, h.ending]
  | some parts =>
    obtain ⟨inside, after⟩ := parts
    obtain ⟨rfl, -⟩ := splitFence?_cut hfence
    have hsame := ρ.script_of_forall fun c hc =>
      h.char c (hrest c (List.mem_append_left after (List.mem_append_left fence hc)))
    have htrim : trim (ρ.script script ++ inside) = ρ.script (trim (script ++ inside)) := by
      rw [← ρ.trim_script, ρ.script_append, hsame]
    simp only [onBoth_bind, onBoth_ok, relocate_push, atLine_relocate h, h.offsetOf, htrim,
      Entry.relocate, Processor.relocate, String.toList_ofList, Span.relocate]

theorem begin_relocate : (reading.relocate ρ before).begin line' =
    onBoth (relocate ρ before) (Fault.relocate ρ) (reading.begin line) := by
  rw [begin, begin]
  simp only [h.isBlank, h.isComment, h.text, h.offsetOf, readVariable_relocate h,
    readHeader?_relocate h (width_skipInline_le _), readRequest_relocate h, atLine_relocate h]
  split
  · rfl
  split
  · cases readVariable line (skipInline line.text) with
    | ok d => exact congrArg Except.ok (relocate_push before reading (.definition d)).symm
    | error => rfl
  split
  · cases readEnvironment (skipInline line.text) <;> rfl
  cases readHeader? line (skipInline line.text) with
  | some header => exact congrArg Except.ok (relocate_push before reading (.definition header)).symm
  | none =>
    dsimp only [Option.map_none]
    split
    · cases hread : readProcessor (skipInline line.text) with
      | ok opening =>
        obtain ⟨name, rest⟩ := opening
        have hrest : ∀ c ∈ rest, c ∈ line.text := fun c hc =>
          (List.dropWhile_sublist _).subset (readProcessor_subset hread c hc)
        exact continueScript_relocate before reading h name _ [] hrest
      | error => rfl
    · split
      · cases readRequest line (skipInline line.text) <;> rfl
      · rfl

theorem relocate_extendBody (r : Request) (lines : List (List Char)) :
    (reading.extendBody r lines line).relocate ρ before =
      (reading.relocate ρ before).extendBody (r.relocate ρ) lines line' := by
  have hstop : ρ.offset (trimmedStop line) = trimmedStop line' := by
    rw [trimmedStop, trimmedStop, h.text]
    exact h.offset _ (width_trimEnd_le line.text)
  simp only [relocate, extendBody, Pending.relocate, Request.relocate, Span.relocate, hstop, h.text]

theorem step_relocate : (reading.relocate ρ before).step line' =
    onBoth (relocate ρ before) (Fault.relocate ρ) (reading.step line) := by
  obtain ⟨entries, pending⟩ := reading
  rw [step, step, h.isBlank, h.isComment, h.isIndented, h.text]
  cases pending with
  | nothing => exact begin_relocate before ⟨entries, .nothing⟩ h
  | environment name start definitions =>
    simp only [relocate, Pending.relocate, readIndented_relocate h, List.isEmpty_map]
    split
    · rfl
    split
    · cases readIndented line with
      | ok d => simp [Except.map, relocate, Pending.relocate]
      | error => rfl
    split
    · rw [onBoth_error, Fault.relocate, h.start]
    · rw [← begin_relocate before _ h, relocate_close]
      rfl
  | request r =>
    simp only [relocate, Pending.relocate, readHeader?_relocate h (width_skipInline_le _)]
    split
    · rw [onBoth_ok, relocate_close]
      rfl
    split
    · rfl
    cases readHeader? line (skipInline line.text) with
    | some header =>
      simp [Request.relocate, relocate, Pending.relocate, Definition.relocate, Span.relocate]
    | none =>
      exact congrArg Except.ok (relocate_extendBody before ⟨entries, .request r⟩ h r []).symm
  | body r lines =>
    simp only [relocate, Pending.relocate]
    split
    · rw [onBoth_ok, relocate_close]
      rfl
    · rw [onBoth_ok, relocate_extendBody before _ h]
      rfl
  | processor name start script =>
    exact continueScript_relocate before ⟨entries, .processor name start script⟩ h name start script
      fun _ hc => hc

omit h

theorem foldlM_relocate {f : Line → Line} {lines : List Line}
    (h : ∀ line ∈ lines, ρ.Takes line (f line)) :
    (lines.map f).foldlM step (reading.relocate ρ before) =
      onBoth (relocate ρ before) (Fault.relocate ρ) (lines.foldlM step reading) := by
  induction lines generalizing reading with
  | nil => rfl
  | cons line lines ih =>
    rw [List.map_cons, List.foldlM_cons, List.foldlM_cons,
      step_relocate before reading (h line List.mem_cons_self), onBoth_bind]
    cases reading.step line with
    | ok next => exact ih next fun l hl => h l (List.mem_cons_of_mem _ hl)
    | error => rfl

end Reading

theorem readLines_relocate {f : Line → Line} {lines : List Line}
    (h : ∀ line ∈ lines, ρ.Takes line (f line)) (total : Nat) :
    readLines (ρ.offset total) (lines.map f) =
      onBoth (List.map (·.relocate ρ) ·) (Fault.relocate ρ) (readLines total lines) := by
  have hread := Reading.foldlM_relocate [] Reading.empty h
  rw [readLines, readLines, onBoth_bind]
  rw [show Reading.empty.relocate ρ [] = Reading.empty from rfl] at hread
  rw [hread]
  cases lines.foldlM Reading.step Reading.empty with
  | ok reading => exact Reading.finish_relocate [] reading total
  | error => rfl

end Grammar

end Relocate

end RequestBook
