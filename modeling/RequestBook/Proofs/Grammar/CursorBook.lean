import RequestBook.Proofs.Grammar.CursorLoop
import RequestBook.Proofs.Grammar.Layout

namespace RequestBook

namespace Cursor

open RequestBook.Text RequestBook.Grammar

section

variable {s : List Char} {read : Except Fault (List Entry)} {reading : Reading} {pos pos' : Nat}
  {after after' more : List Char} {line : Line} {entries : List Entry}

theorem FirstLine.isIndented_eq (h : FirstLine s pos after line more) :
    after.head?.any isInline = line.isIndented := by
  have hinline : ∀ c, isLineEnd c = true → isInline c = false := not_of_lineEnd rfl rfl
  rw [h.after_eq, any_head?_below h.standing hinline, Line.isIndented]

theorem Skips.settled (h : Skips s pos after pos' after') (hready : Ready s pos' after')
    (hplain : after'.head?.any isInline = false) (hsettled : Reading.Settled entries reading) :
    readFrom s reading pos after = readFrom s ⟨entries, .nothing⟩ pos after := by
  rw [h.read reading fun _ => hsettled.step_passed, h.read _ (passes_nothing entries)]
  cases hready with
  | ended =>
    have hnothing : Reading.Settled entries ⟨entries, .nothing⟩ := .nothing rfl
    rw [readFrom_nil, readFrom_nil, hsettled.finish, hnothing.finish]
  | line hfirst hskip =>
    rw [hfirst.isIndented_eq] at hplain
    rw [hfirst.read, hfirst.read, hsettled.step_eq hskip hplain]

theorem Ready.readFrom_environment (h : Ready s pos after) (hleft : Left s pos after)
    (hplain : after.head?.any isInline = false) (entries : List Entry) (name : String)
    (start : Nat) : readFrom s ⟨entries, .environment name start []⟩ pos after =
      .error ⟨.expected .indentedDefinition, pos⟩ := by
  cases h with
  | ended =>
    have hend := hleft.add_width
    rw [readFrom_nil, ← hend]
    rfl
  | line hfirst hskip =>
    rw [hfirst.isIndented_eq] at hplain
    rw [hfirst.read, Reading.step, ← hfirst.start_eq]
    dsimp only
    rw [hskip, hplain]
    rfl

theorem step_environment (hskip : (line.isBlank || line.isComment) = false)
    (hindented : line.isIndented = true) (entries : List Entry) (name : String) (start : Nat)
    (definitions : List Definition) :
    Reading.step ⟨entries, .environment name start definitions⟩ line =
      (readIndented line).map fun d =>
        ⟨entries, .environment name start (definitions ++ [d])⟩ := by
  rw [Reading.step]
  dsimp only
  rw [hskip, if_neg Bool.false_ne_true]
  exact if_pos hindented

structure EntryRead (s : List Char) (read : Except Fault (List Entry)) (entries : List Entry)
    (start : Nat) (b : Entry × Nat) : Prop where
  resumes : Resumes s read ⟨entries ++ [b.1], .nothing⟩ b.2
  lt : start < b.2

structure InEnvironment (s : List Char) (read : Except Fault (List Entry)) (entries : List Entry)
    (name : String) (start : Nat) (definitions : List Definition) (pos : Nat) : Prop where
  resumes : Resumes s read ⟨entries, .environment name start definitions⟩ pos
  lt : start < pos
  spans : ∀ d ∈ definitions, start ≤ d.span.stop

def environmentStop (start : Nat) (definitions : List Definition) : Nat :=
  (definitions.getLast?.map fun d => d.span.stop).getD start

theorem settled_environment (entries : List Entry) (name : String) (start : Nat)
    {definitions : List Definition} (h : definitions ≠ []) :
    Reading.Settled
      (entries ++ [.environment ⟨name, definitions, ⟨start, environmentStop start definitions⟩⟩])
      ⟨entries, .environment name start definitions⟩ := by
  refine .environment rfl h ?_
  rw [Reading.close, Pending.entry?, environmentStop, List.getLast?_eq_some_getLast h]
  rfl

structure EnvironmentRead (s : List Char) (read : Except Fault (List Entry)) (entries : List Entry)
    (name : String) (start : Nat) (b : List Definition × Nat) : Prop where
  read : EntryRead s read entries start
    (.environment ⟨name, b.1, ⟨start, environmentStop start b.1⟩⟩, b.2)
  spans : ∀ d ∈ b.1, start ≤ d.span.stop

theorem environmentRound_delivers {name : String} {start : Nat} {definitions : List Definition}
    (h : InEnvironment s read entries name start definitions pos) :
    Delivers read
      (Goes s (InEnvironment s read entries name start) (EnvironmentRead s read entries name start)
        pos) (environmentRound s definitions pos) := by
  obtain ⟨⟨after, hleft, hread⟩, hstart, hspans⟩ := h
  rw [environmentRound]
  refine (skipBlankLines_delivers hleft).bind ?_
  rintro pos' ⟨after', hskips, hready⟩
  have hread' := hread.trans (hskips.read _ (passes_environment entries name start definitions))
  rw [hskips.left.peek_eq, ok_bind]
  by_cases hindented : after'.head?.any isInline = true
  · rw [if_pos hindented]
    cases hready with
    | ended => cases hindented
    | @line _ line more hfirst hskip =>
      rw [hfirst.isIndented_eq] at hindented
      rw [hfirst.read, step_environment hskip hindented, bind_map_eq_bind_comp] at hread'
      have hlt := hfirst.lt_next
      have hpos := hskips.le
      have hagrees := indented_agrees hfirst.standing
      rw [hfirst.start_eq] at hagrees
      refine hagrees.delivers hread' ?_
      rintro d _ ⟨rfl, hd⟩ hread''
      refine .ok ⟨by omega, hfirst.next_le, ⟨more, hfirst.next, hread''⟩, by omega, fun d' hd' => ?_⟩
      rcases List.mem_append.mp hd' with hd' | hd'
      · exact hspans d' hd'
      · rw [List.mem_singleton.mp hd']
        omega
  · have hplain : after'.head?.any isInline = false := eq_false_of_ne_true hindented
    rw [if_neg hindented]
    by_cases hempty : definitions = []
    · subst hempty
      rw [hready.readFrom_environment hskips.left hplain] at hread'
      exact delivers_fail hread' hskips.left.isBoundary
    · -- the blank lines and comments are left to what comes next
      have hsettled := settled_environment entries name start hempty
      have hread'' := hread.trans (hskips.settled hready hplain hsettled)
      rw [if_neg (by simpa using hempty)]
      exact .ok ⟨⟨⟨after, hleft, hread''⟩, hstart⟩, hspans⟩

theorem start_le_environmentStop {start : Nat} {definitions : List Definition}
    (h : ∀ d ∈ definitions, start ≤ d.span.stop) : start ≤ environmentStop start definitions := by
  rw [environmentStop]
  cases hlast : definitions.getLast? with
  | none => exact Nat.le_refl _
  | some d => exact h d (List.mem_of_getLast? hlast)

theorem environment_delivers {rest : List Char} (hs : Standing s line more) (hat : At line rest pos)
    (hhead : rest.head? = some '@')
    (hread : read = atLine line (readEnvironment rest) >>= fun name =>
      readFrom s ⟨entries, .environment name pos []⟩ (nextStart line) more) :
    Delivers read (fun b => EntryRead s read entries pos (.environment b.1, b.2))
      (environmentAt s pos) := by
  have hne : rest ≠ [] := by
    rintro rfl
    cases hhead
  rw [environmentAt]
  refine (environmentLine_agrees hs hat hhead).located.delivers hread ?_
  rintro name _ rfl hread'
  have hopen : InEnvironment s read entries name pos [] (nextStart line) :=
    ⟨⟨more, hs.left_next, hread'⟩, hat.lt_nextStart hne, fun d hd => nomatch hd⟩
  refine (delivers_loop (fun _ _ => environmentRound_delivers) hopen).bind ?_
  rintro ⟨definitions, pos'⟩ ⟨hentry, hspans⟩
  have hle := start_le_environmentStop hspans
  rw [environmentStop] at hle hentry
  dsimp only at hle hentry ⊢
  rw [span_eq hle, ok_bind]
  exact .ok hentry

inductive Gap (s : List Char) (pos : Nat) : List Char → Prop
  | ended : Gap s pos []
  | blank {text line more} : FirstLine s pos text line more → line.isBlank = true → Gap s pos text

theorem gap_or_line (h : Left s pos after) :
    Gap s pos after ∨ ∃ line more, FirstLine s pos after line more ∧ line.isBlank = false := by
  by_cases hafter : after = []
  · exact .inl (hafter ▸ .ended)
  · obtain ⟨line, more, hfirst⟩ := exists_firstLine h hafter
    cases hblank : line.isBlank with
    | true => exact .inl (.blank hfirst hblank)
    | false => exact .inr ⟨line, more, hfirst, hblank⟩

theorem Gap.atGap_eq (h : Gap s pos after) (hleft : Left s pos after) : atGap s pos = .ok true := by
  cases h with
  | ended => exact atGap_nil hleft
  | blank hfirst hblank => rw [hfirst.atGap_eq, hblank]

theorem Gap.close (h : Gap s pos after)
    (hfinish : reading.finish (width s) = .ok reading.close.entries)
    (hblank : ∀ line : Line, line.isBlank = true → reading.step line = .ok reading.close) :
    readFrom s reading pos after = readFrom s reading.close pos after := by
  cases h with
  | ended =>
    rw [readFrom_nil, readFrom_nil, hfinish]
    exact congrArg (fun reading => Except.ok reading.entries) reading.close_close.symm
  | @blank _ line more hfirst hline =>
    have hpasses : reading.close.step line = .ok reading.close :=
      passes_nothing _ line (by rw [hline, Bool.true_or])
    rw [hfirst.read, hfirst.read, hblank line hline, hpasses]

def endingAt (r : Request) (stop : Nat) : Request :=
  { r with span := ⟨r.span.start, stop⟩ }

structure InBody (s : List Char) (read : Except Fault (List Entry)) (entries : List Entry)
    (r : Request) (state : List (List Char) × Nat) (pos : Nat) : Prop where
  resumes : Resumes s read ⟨entries, .body (endingAt r state.2) state.1⟩ pos
  lt : r.span.start < pos
  le : r.span.start ≤ state.2

theorem bodyRound_eq (h : FirstLine s pos after line more) (hblank : line.isBlank = false)
    (state : List (List Char) × Nat) : bodyRound s state pos =
      .ok (.again (state.1 ++ [line.text], Reading.trimmedStop line) (nextStart line)) := by
  have hslice := (h.at_start.left h.standing).slice_eq
  rw [bodyRound, h.atGap_eq, hblank, ok_bind, if_neg Bool.false_ne_true,
    skipToLineEnd_eq h.standing h.at_start, ok_bind, hslice, ok_bind,
    passLineEnd_eq h.standing h.at_start.at_end, ok_bind, Reading.trimmedStop, h.start_eq]

theorem FirstLine.inBody {r : Request} {lines : List (List Char)}
    (h : FirstLine s pos after line more) (hread : read = readFrom s reading pos after)
    (hstep : reading.step line =
      .ok ⟨entries, .body (endingAt r (Reading.trimmedStop line)) (lines ++ [line.text])⟩)
    (hlt : r.span.start < pos) :
    InBody s read entries r (lines ++ [line.text], Reading.trimmedStop line) (nextStart line) where
  resumes := h.resumes hread hstep
  lt := Nat.lt_trans hlt h.lt_next
  le := by
    rw [Reading.trimmedStop, h.start_eq]
    dsimp only
    omega

def withBody (r : Request) (state : List (List Char) × Nat) : Request :=
  { endingAt r state.2 with body := some (joinBody state.1) }

theorem bodyRound_delivers {r : Request} {state : List (List Char) × Nat}
    (h : InBody s read entries r state pos) :
    Delivers read
      (Goes s (InBody s read entries r) (fun b => r.span.start ≤ b.1.2 ∧
        EntryRead s read entries r.span.start (.request (withBody r b.1), b.2)) pos)
      (bodyRound s state pos) := by
  obtain ⟨⟨after, hleft, hread⟩, hlt, hle⟩ := h
  rcases gap_or_line hleft with hgap | ⟨line, more, hfirst, hblank⟩
  · rw [bodyRound, hgap.atGap_eq hleft, ok_bind, if_pos rfl]
    have hread' := hread.trans (hgap.close rfl fun line hline => if_pos hline)
    exact .ok ⟨hle, ⟨after, hleft, hread'⟩, hlt⟩
  · rw [bodyRound_eq hfirst hblank]
    refine .ok ⟨hfirst.lt_next, hfirst.next_le, hfirst.inBody hread ?_ hlt⟩
    rw [Reading.step]
    dsimp only
    rw [hblank]
    rfl

structure InHeaders (s : List Char) (read : Except Fault (List Entry)) (entries : List Entry)
    (r : Request) (state : List Definition × Nat) (pos : Nat) : Prop where
  resumes : Resumes s read ⟨entries, .request (endingAt { r with headers := state.1 } state.2)⟩ pos
  lt : r.span.start < pos
  le : r.span.start ≤ state.2

inductive Headless (s : List Char) (pos : Nat) (after : List Char) : Prop
  | gap : Gap s pos after → Headless s pos after
  | body {first below} : FirstLine s pos after first below → first.isBlank = false →
      first.isComment = false → readHeader? first (Text.skipInline first.text) = none →
      Headless s pos after

structure HeadersRead (s : List Char) (read : Except Fault (List Entry)) (entries : List Entry)
    (r : Request) (after : List Char) (b : (List Definition × Nat) × Nat) : Prop where
  left : Left s b.2 after
  read : read = readFrom s ⟨entries, .request (endingAt { r with headers := b.1.1 } b.1.2)⟩ b.2 after
  lt : r.span.start < b.2
  le : r.span.start ≤ b.1.2
  headless : Headless s b.2 after

theorem headersRound_delivers {r : Request} {state : List Definition × Nat}
    (h : InHeaders s read entries r state pos) :
    Delivers read
      (Goes s (InHeaders s read entries r)
        (fun b => ∃ after, HeadersRead s read entries r after b) pos)
      (headersRound s state pos) := by
  obtain ⟨⟨after, hleft, hread⟩, hlt, hle⟩ := h
  rcases gap_or_line hleft with hgap | ⟨line, more, hfirst, hblank⟩
  · rw [headersRound, hgap.atGap_eq hleft, ok_bind, if_pos rfl]
    exact .ok ⟨after, hleft, hread, hlt, hle, .gap hgap⟩
  have hnext := hfirst.lt_next
  rw [headersRound, hfirst.atGap_eq, hblank, ok_bind, if_neg Bool.false_ne_true,
    hfirst.lineIsComment_eq, ok_bind]
  cases hcomment : line.isComment with
  | true =>
    rw [if_pos rfl, hfirst.skipLine_eq]
    refine .ok ⟨hnext, hfirst.next_le, hfirst.resumes hread ?_, by omega, hle⟩
    rw [Reading.step]
    dsimp only
    rw [hblank, hcomment]
    rfl
  | false =>
    have hat := hfirst.at_start.dropWhile isInline
    rw [if_neg Bool.false_ne_true, skipInline_eq hfirst.standing hfirst.at_start, ok_bind,
      atHeader_eq hfirst.standing hat, ok_bind]
    cases hheader : readHeader? line (line.text.dropWhile isInline) with
    | none => exact .ok ⟨after, hleft, hread, hlt, hle, .body hfirst hblank hcomment hheader⟩
    | some d =>
      obtain ⟨hd, hstop⟩ := headerAt_eq hfirst.standing hat hheader
      rw [Option.isSome_some, if_pos rfl, hd]
      refine .ok ⟨hnext, hfirst.next_le, hfirst.resumes hread ?_, by omega, ?_⟩
      · rw [Reading.step]
        dsimp only
        rw [hblank, hcomment, Text.skipInline, hheader]
        rfl
      · dsimp only
        omega

theorem request_delivers {rest : List Char} (hs : Standing s line more) (hat : At line rest pos)
    (hne : rest ≠ [])
    (hread : read = atLine line (readRequest line rest) >>= fun r =>
      readFrom s ⟨entries, .request r⟩ (nextStart line) more) :
    Delivers read (fun b => EntryRead s read entries pos (.request b.1, b.2)) (requestAt s pos) := by
  rw [requestAt]
  refine (requestLine_agrees hs hat).located.delivers hread ?_
  rintro r _ ⟨rfl, rfl, hstop, hheaders⟩ hread'
  have hopen : InHeaders s read entries r ([], r.span.stop) (nextStart line) := by
    refine ⟨⟨more, hs.left_next, ?_⟩, hat.lt_nextStart hne, hstop⟩
    rw [hread', endingAt, ← hheaders]
  refine (delivers_loop (fun _ _ => headersRound_delivers) hopen).bind ?_
  rintro ⟨⟨headers, stop⟩, pos'⟩ ⟨after, hleft, hread'', hlt, hle, hnext⟩
  dsimp only at hleft hread'' hlt hle hnext ⊢
  cases hnext with
  | gap hgap =>
    rw [hgap.atGap_eq hleft, ok_bind, if_pos rfl, span_eq hle, ok_bind]
    exact .ok ⟨⟨after, hleft, hread''.trans (hgap.close rfl fun line hline => if_pos hline)⟩, hlt⟩
  | @body first below hfirst hblank hcomment hheader =>
    rw [hfirst.atGap_eq, hblank, ok_bind, if_neg Bool.false_ne_true,
      loop_again (bodyRound_eq hfirst hblank _) hfirst.lt_next hfirst.next_le]
    have hbody : InBody s read entries { r with headers } ([] ++ [first.text],
        Reading.trimmedStop first) (nextStart first) := by
      refine hfirst.inBody hread'' ?_ hlt
      rw [Reading.step]
      dsimp only
      rw [hblank, hcomment, hheader]
      rfl
    refine (delivers_loop (fun _ _ => bodyRound_delivers) hbody).bind ?_
    rintro ⟨⟨lines, stop⟩, pos'⟩ ⟨hle', hentry⟩
    dsimp only at hle' ⊢
    rw [span_eq hle', ok_bind]
    exact .ok hentry

theorem splitFence?_below (hs : Standing s line more) {rest : List Char}
    (h : splitFence? rest = none) : splitFence? (rest ++ (line.ending.chars ++ more)) =
      (splitFence? more).map fun (before, after) =>
        (rest ++ line.ending.chars ++ before, after) := by
  have hstart : (line.ending.chars ++ more).head? ≠ some '`' := by
    intro hhead
    have hplain := hs.stops (p := (· == '`')) (not_of_lineEnd rfl rfl) '`' hhead
    cases hplain
  rw [splitFence?_append_of_none h hstart, splitFence?_lineBreak, Option.map_map]
  simp only [List.append_assoc]
  rfl

/-- Where a script ends that goes on at the cursor: at a fence on some line, or not at all. -/
inductive ScriptEnds (s : List Char) (read : Except Fault (List Entry)) (entries : List Entry)
    (name : String) (start : Nat) (script : List Char) (pos : Nat) (text : List Char) : Prop
  | unterminated : splitFence? text = none → read = .error ⟨.unterminatedProcessor, width s⟩ →
      ScriptEnds s read entries name start script pos text
  | fence {before last after below} : Standing s last below →
      At last after (pos + width before + width fence) →
      splitFence? text = some (before, after ++ (last.ending.chars ++ below)) →
      read = (atLine last (endLine after) >>= fun _ =>
        readFrom s ⟨entries ++ [.processor ⟨name, String.ofList (trim (script ++ before)),
          ⟨start, pos + width before + width fence⟩⟩], .nothing⟩ (nextStart last) below) →
      ScriptEnds s read entries name start script pos text

theorem scriptEnds {pending : Pending} {name : String} {start : Nat} {script rest : List Char}
    (hs : Standing s line more) (hat : At line rest pos)
    (hread : read = Reading.continueScript ⟨entries, pending⟩ name start script line rest >>=
      fun next => readFrom s next (nextStart line) more) :
    ScriptEnds s read entries name start script pos
      (rest ++ (line.ending.chars ++ more)) := by
  -- the fence is looked for on one line after another, so what is below this one decreases
  induction hwidth : width more using Nat.strongRecOn
    generalizing line more rest pos script pending with
  | _ n ih =>
    rw [Reading.continueScript] at hread
    cases hfence : splitFence? rest with
    | some parts =>
      obtain ⟨before, after⟩ := parts
      obtain ⟨rfl, -⟩ := splitFence?_cut hfence
      rw [List.append_assoc] at hat
      have hafter := hat.advance.advance
      refine .fence hs hafter (splitFence?_append hfence _) ?_
      rw [hread, hfence, hafter.pos_eq]
      exact bind_assoc _ _ _
    | none =>
      rw [hfence] at hread
      have hbelow := splitFence?_below hs hfence
      by_cases hmore : more = []
      · subst hmore
        refine .unterminated hbelow ?_
        rw [hread, ok_bind, readFrom_nil]
        rfl
      · obtain ⟨first, below, hfirst⟩ := exists_firstLine hs.left_next hmore
        have hlt := hfirst.lt_next
        have hwidth' := hfirst.left.add_width
        have hwidth'' := hfirst.next.add_width
        rw [ok_bind, hfirst.read] at hread
        have hnext := ih (width below) (by omega) hfirst.standing hfirst.at_start hread rfl
        rw [← hfirst.after_eq] at hnext
        cases hnext with
        | unterminated hnone herror =>
          rw [hnone] at hbelow
          exact .unterminated hbelow herror
        | @fence before last after below' hs' hafter hsplit hread' =>
          have hpos : nextStart line + width before =
              pos + width (rest ++ line.ending.chars ++ before) := by
            rw [hat.next_eq, width_append, width_append]
            omega
          rw [hsplit] at hbelow
          rw [hpos] at hafter hread'
          refine .fence hs' hafter hbelow ?_
          rw [hread']
          simp only [List.append_assoc]

theorem processor_delivers {rest : List Char} (hs : Standing s line more) (hat : At line rest pos)
    (hopens : opensProcessor rest = true)
    (hread : read = atLine line (readProcessor rest) >>= fun a =>
      Reading.continueScript ⟨entries, .nothing⟩ a.1 pos [] line a.2 >>= fun next =>
        readFrom s next (nextStart line) more) :
    Delivers read (fun b => EntryRead s read entries pos (.processor b.1, b.2))
      (processorAt s pos) := by
  rw [processorAt]
  refine (processorLine_agrees hs hat hopens).located.delivers hread ?_
  rintro ⟨name, script⟩ ⟨name', first⟩ ⟨rfl, hat', hle⟩ hread'
  dsimp only at hat' hle hread' ⊢
  have hleft := hat'.left hs
  rw [hleft.rest_eq, ok_bind]
  cases scriptEnds hs hat' hread' with
  | unterminated hnone hread'' =>
    rw [hnone]
    exact delivers_fail hread'' left_end.isBoundary
  | @fence before last after below hs' hafter hsplit hread'' =>
    obtain ⟨htext, -⟩ := splitFence?_cut hsplit
    rw [htext, List.append_assoc] at hleft
    rw [hsplit]
    dsimp only
    rw [hleft.slice_eq, ok_bind]
    refine (skipTrailing_agrees hs' hafter).located.delivers hread'' ?_
    rintro _ _ rfl hread₄
    have hnext := hafter.le_nextStart
    have hwidth : 0 < width fence := by decide
    rw [span_eq (by omega), ok_bind]
    exact .ok ⟨⟨below, hs'.left_next, hread₄⟩, by omega⟩

theorem skipInline_ne_nil (hblank : line.isBlank = false) : Text.skipInline line.text ≠ [] := by
  intro hnil
  rw [Line.isBlank, ← all_skipInline, hnil] at hblank
  cases hblank

theorem entry_delivers (hs : Standing s line more) (hskip : (line.isBlank || line.isComment) = false)
    (hat : At line (Text.skipInline line.text) pos)
    (hread : read = Reading.begin ⟨entries, .nothing⟩ line >>= fun next =>
      readFrom s next (nextStart line) more) :
    Delivers read (EntryRead s read entries pos) (entryAt s pos) := by
  have hne := skipInline_ne_nil (Bool.or_eq_false_iff.mp hskip).1
  have hpos := hat.lt_nextStart hne
  have hdone {d : Definition} (hread : read = readFrom s ⟨entries ++ [.definition d], .nothing⟩
      (nextStart line) more) : EntryRead s read entries pos (.definition d, nextStart line) :=
    ⟨⟨more, hs.left_next, hread⟩, hpos⟩
  rw [Reading.begin, hskip, if_neg Bool.false_ne_true] at hread
  dsimp only at hread
  rw [← hat.pos_eq] at hread
  rw [entryAt, (hat.left hs).peek_eq, ok_bind]
  generalize Text.skipInline line.text = rest at hne hat hread ⊢
  obtain ⟨c, t, rfl⟩ := List.exists_cons_of_ne_nil hne
  rw [List.cons_append, List.head?_cons]
  rw [List.head?_cons] at hread
  by_cases hdollar : c = '$'
  · subst hdollar
    rw [if_pos rfl]
    rw [if_pos (by rfl), bind_map_eq_bind_comp] at hread
    refine (variable_agrees hs hat rfl).located.delivers hread ?_
    rintro d _ ⟨rfl, -⟩ hread'
    exact .ok (hdone hread')
  rw [if_neg (by simpa using hdollar)]
  rw [if_neg (by simpa using hdollar)] at hread
  by_cases hsign : c = '@'
  · subst hsign
    rw [if_pos rfl]
    rw [if_pos (by rfl), bind_map_eq_bind_comp] at hread
    refine (environment_delivers hs hat rfl hread).bind ?_
    exact fun _ hentry => .ok hentry
  rw [if_neg (by simpa using hsign)]
  rw [if_neg (by simpa using hsign)] at hread
  rw [atHeader_eq hs hat, ok_bind]
  cases hheader : readHeader? line (c :: t) with
  | some d =>
    rw [hheader] at hread
    rw [Option.isSome_some, if_pos rfl, (headerAt_eq hs hat hheader).1]
    exact .ok (hdone hread)
  | none =>
    rw [hheader] at hread
    rw [Option.isSome_none, if_neg Bool.false_ne_true, atKeyword, (hat.left hs).rest_eq, ok_bind,
      opensProcessor_below hs]
    cases hopens : opensProcessor (c :: t) with
    | true =>
      rw [hopens, if_pos rfl, bind_assoc] at hread
      rw [ok_bind, if_pos rfl]
      refine (processor_delivers hs hat hopens hread).bind ?_
      exact fun _ hentry => .ok hentry
    | false =>
      rw [hopens, if_neg Bool.false_ne_true] at hread
      rw [ok_bind, if_neg Bool.false_ne_true]
      cases hupper : c.isUpper with
      | true =>
        rw [if_pos (by exact hupper), bind_map_eq_bind_comp] at hread
        rw [if_pos (by exact hupper)]
        refine (request_delivers hs hat hne hread).bind ?_
        exact fun _ hentry => .ok hentry
      | false =>
        rw [if_neg (by simpa using hupper)] at hread
        rw [if_neg (by simpa using hupper)]
        refine delivers_fail ?_ (hat.left hs).isBoundary
        rw [hread, hat.pos_eq]
        rfl

theorem entriesRound_delivers (h : Resumes s read ⟨entries, .nothing⟩ pos) :
    Delivers read
      (Goes s (fun entries => Resumes s read ⟨entries, .nothing⟩) (fun b => read = .ok b.1) pos)
      (entriesRound s entries pos) := by
  obtain ⟨after, hleft, hread⟩ := h
  rw [entriesRound]
  refine (skipBlankLines_delivers hleft).bind ?_
  rintro pos' ⟨after', hskips, hready⟩
  have hread' := hread.trans (hskips.read _ (passes_nothing entries))
  cases hready with
  | ended =>
    have hnothing : Reading.Settled entries ⟨entries, .nothing⟩ := .nothing rfl
    rw [readFrom_nil, hnothing.finish] at hread'
    rw [hskips.left.atEnd_eq]
    exact .ok hread'
  | @line _ line more hfirst hskip =>
    rw [hfirst.read] at hread'
    rw [hfirst.atEnd_eq, if_neg Bool.false_ne_true,
      skipInline_eq hfirst.standing hfirst.at_start, ok_bind]
    have hat := hfirst.at_start.dropWhile isInline
    refine (entry_delivers hfirst.standing hskip hat hread').bind ?_
    rintro ⟨entry, pos''⟩ ⟨⟨after'', hleft', hread''⟩, hlt⟩
    have hle := hleft'.add_width
    have hpos := hskips.le
    dsimp only at hlt hle
    exact .ok ⟨by omega, by omega, after'', hleft', hread''⟩

theorem parse_delivers (s : List Char) :
    Delivers (readLines (width s) (Line.split s))
      (fun entries => readLines (width s) (Line.split s) = .ok entries) (parse s) := by
  have hstart : Resumes s (readLines (width s) (Line.split s)) ⟨[], .nothing⟩ 0 :=
    ⟨s, left_zero, rfl⟩
  refine (delivers_loop (fun _ _ => entriesRound_delivers) hstart).bind ?_
  exact fun _ hread => .ok hread

end

end Cursor

namespace Book

/-- Every text is read with a cursor that is never stuck: it moves on in every round of a loop, stays
within the text, and cuts the text only at boundaries. A book has spans that fit its text. An error has
an offset that fits it too, and the position that the tracker of lines gives there. -/
theorem parse_by_cursor (source : String) :
    (∃ book, parse source = .ok book ∧ Cursor.parse source.toList = .ok book.entries ∧
      ∀ e ∈ book.entries, e.span.Fits source.toList ∧ ∀ d ∈ e.inner, d.span.Fits source.toList) ∨
    ∃ e, ∃ h : Text.isBoundary e.offset source.toList = true, parse source = .error e ∧
      Cursor.parse source.toList = .error (.refused e h) ∧ e.offset ≤ Text.width source.toList ∧
      ∃ cache, (LineCache.ofText source.toList).position? e.offset = some (e.position, cache) := by
  have hdelivers := Cursor.parse_delivers source.toList
  have hparse := parse_eq source
  generalize Cursor.parse source.toList = outcome at hdelivers ⊢
  cases hdelivers with
  | @ok entries hread =>
    rw [hread, onBoth_ok] at hparse
    refine .inl ⟨⟨source, entries⟩, hparse, rfl, fun e he => ⟨?_, fun d hd => ?_⟩⟩
    · exact (layout_of_parse hparse).fits e he
    · obtain ⟨before, line, after, hsplit, hconstruct⟩ :=
        (arranged_of_parse hparse).exists_construct_inner he hd
      exact hconstruct.fits hsplit
  | @error fault hread hb =>
    rw [hread, onBoth_error] at hparse
    obtain ⟨before, after, hs, hwidth⟩ := Text.isBoundary_iff.mp hb
    refine .inr ⟨_, hb, hparse, rfl, ?_, Cursor.exists_position source.toList fault.offset⟩
    rw [Fault.locate, hs, Text.width_append, hwidth]
    exact Nat.le_add_right _ _

end Book

end RequestBook
