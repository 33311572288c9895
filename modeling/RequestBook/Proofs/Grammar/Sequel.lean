import RequestBook.Proofs.Grammar.Extent
import RequestBook.Proofs.Grammar.Moved

/-!
A book followed by a blank line and another text. The blank line closes what the book left open, an
environment apart, which goes on while lines are indented. Main statement: the text after the blank
line is read as it would be alone, its entries and its error moved.
-/

namespace RequestBook

open RequestBook.Text

namespace Grammar

theorem DefinedOn.ending {line : Line} {d : Definition} (h : DefinedOn line d)
    (ending : LineBreak) : DefinedOn { line with ending := ending } d := by
  cases h with
  | dollar hhead hread => exact .dollar hhead hread
  | header hread => exact .header hread

namespace Reading

variable {reading reading' : Reading} {line : Line} {entries : List Entry} {total : Nat}

def OutsideScript (reading : Reading) : Prop :=
  ∀ name start script, reading.pending ≠ .processor name start script

theorem outsideScript_of_finish (h : reading.finish total = .ok entries) :
    reading.OutsideScript := by
  intro name start script hpending
  rw [finish, hpending] at h
  cases h

theorem GoesOn.ending {name : String} {start : Nat} {script rest : List Char}
    (h : GoesOn reading name start script line rest reading') (hout : reading'.OutsideScript)
    (ending : LineBreak) :
    GoesOn reading name start script { line with ending := ending } rest reading' := by
  cases h with
  | ended hfence hend => exact .ended hfence hend
  | within => exact absurd rfl (hout name start _)

theorem Opens.ending (h : Opens reading line reading') (hout : reading'.OutsideScript)
    (ending : LineBreak) : Opens reading { line with ending := ending } reading' := by
  cases h with
  | definition hd => exact .definition (hd.ending ending)
  | environment hhead hname => exact .environment hhead hname
  | request hr => exact .request hr
  | processor hopens hname hscript => exact .processor hopens hname (hscript.ending hout ending)

theorem Passes.ending {pending : Pending} (h : Passes line pending) (ending : LineBreak) :
    Passes { line with ending := ending } pending := by
  cases h with
  | nothing hline => exact .nothing hline
  | environment hline => exact .environment hline
  | request hblank hcomment => exact .request hblank hcomment

theorem Steps.ending (h : Steps reading line reading') (hout : reading'.OutsideScript)
    (ending : LineBreak) : Steps reading { line with ending := ending } reading' := by
  cases h with
  | passed hpasses => exact .passed (hpasses.ending ending)
  | opened hpending hopens => exact .opened hpending (hopens.ending hout ending)
  | definition hpending hindented hd => exact .definition hpending hindented (hd.ending ending)
  | after hpending hne hindented hopens =>
    exact .after hpending hne hindented (hopens.ending hout ending)
  | header hpending hd => exact .header hpending hd
  | bodyBegins hpending hline hnone => exact .bodyBegins hpending hline hnone
  | body hpending hblank => exact .body hpending hblank
  | requestEnds hpending hblank => exact .requestEnds hpending hblank
  | bodyEnds hpending hblank => exact .bodyEnds hpending hblank
  | script hpending hscript => exact .script hpending (hscript.ending hout ending)

theorem step_ending (h : reading.step line = .ok reading') (hout : reading'.OutsideScript)
    (ending : LineBreak) : reading.step { line with ending := ending } = .ok reading' :=
  ((step_eq_ok_iff.mp h).ending hout ending).step_eq

theorem finish_environment {definitions : List Definition} (h : definitions ≠ [])
    (entries : List Entry) (name : String) (start total : Nat) :
    finish total ⟨entries, .environment name start definitions⟩ =
      .ok (entries ++ [.environment ⟨name, definitions,
        ⟨start, (definitions.getLast h).span.stop⟩⟩]) := by
  cases definitions with
  | nil => exact absurd rfl h
  | cons d more =>
    rw [finish, close, Pending.entry?, List.getLast?_eq_some_getLast h]
    · rfl

/-- Nothing is open, or an environment that may end. -/
inductive Settled (entries : List Entry) (reading : Reading) : Prop
  | nothing : reading = ⟨entries, .nothing⟩ → Settled entries reading
  | environment {name start definitions} :
      reading.pending = .environment name start definitions → definitions ≠ [] →
      reading.close = ⟨entries, .nothing⟩ → Settled entries reading

theorem close_of_finish (h : reading.finish total = .ok entries) :
    reading.close = ⟨entries, .nothing⟩ := by
  rw [finish] at h
  split at h
  · cases h
  · cases h
  · cases h
    rfl

theorem close_of_nothing (h : reading.pending = .nothing) : reading.close = reading := by
  obtain ⟨before, pending⟩ := reading
  cases h
  rw [close, Pending.entry?, Option.toList_none, List.append_nil]

theorem close_close (reading : Reading) : reading.close.close = reading.close :=
  close_of_nothing rfl

/-- What is open behind a blank line: an environment goes on, a request ends. -/
def afterBlank (reading : Reading) : Reading :=
  match reading.pending with
  | .request _ | .body _ _ => reading.close
  | .nothing | .environment _ _ _ | .processor _ _ _ => reading

theorem steps_blank (h : reading.OutsideScript) (hblank : line.isBlank = true) :
    Steps reading line reading.afterBlank := by
  have hline : line.IsPassed := Line.isPassed_of_isBlank hblank
  obtain ⟨entries, pending⟩ := reading
  cases pending with
  | nothing => exact .passed (.nothing hline)
  | environment => exact .passed (.environment hline)
  | request => exact .requestEnds rfl hblank
  | body => exact .bodyEnds rfl hblank
  | processor name start script => exact absurd rfl (h name start script)

theorem settled_afterBlank (h : reading.finish total = .ok entries) :
    Settled entries reading.afterBlank := by
  have hclose := close_of_finish h
  obtain ⟨before, pending⟩ := reading
  cases pending with
  | nothing => exact .nothing ((close_of_nothing rfl).symm.trans hclose)
  | request | body => exact .nothing hclose
  | environment name start definitions =>
    refine .environment rfl ?_ hclose
    rintro rfl
    cases h
  | processor => cases h

theorem finish_of_afterBlank (h : reading.afterBlank.finish total = .ok entries) :
    reading.finish total = .ok entries := by
  obtain ⟨before, pending⟩ := reading
  cases pending with
  | nothing | environment | processor => exact h
  | request | body =>
    rw [← h]
    exact congrArg (fun r => Except.ok r.entries) (close_close _).symm

namespace Settled

theorem finish (h : Settled entries reading) (total : Nat) : reading.finish total = .ok entries := by
  cases h with
  | nothing h =>
    subst h
    have hclose : close ⟨entries, .nothing⟩ = ⟨entries, .nothing⟩ := close_of_nothing rfl
    exact congrArg (fun r => Except.ok r.entries) hclose
  | @environment name start definitions hpending hne hclose =>
    obtain ⟨before, pending⟩ := reading
    cases hpending
    cases definitions with
    | nil => exact absurd rfl hne
    | cons d ds => exact congrArg (fun r => Except.ok r.entries) hclose

theorem step_eq (h : Settled entries reading) (hskip : (line.isBlank || line.isComment) = false)
    (hindented : line.isIndented = false) : reading.step line = step ⟨entries, .nothing⟩ line := by
  cases h with
  | nothing h => rw [h]
  | environment hpending hne hclose =>
    rw [step_leaving hpending hne hindented hskip, hclose]
    rfl

theorem step_passed (h : Settled entries reading) (hline : line.IsPassed) :
    reading.step line = .ok reading := by
  cases h with
  | nothing h =>
    subst h
    exact (Steps.passed (.nothing hline)).step_eq
  | environment hpending => exact (Steps.passed (hpending ▸ .environment hline)).step_eq

end Settled

def Continues (lines : List Line) : Bool :=
  (lines.find? fun line => !(line.isBlank || line.isComment)).any Line.isIndented

theorem continues_cons_of_passed {lines : List Line}
    (hskip : (line.isBlank || line.isComment) = true) :
    Continues (line :: lines) = Continues lines := by
  rw [Continues, List.find?_cons, hskip]
  rfl

theorem continues_cons_of_not_passed {lines : List Line}
    (hskip : (line.isBlank || line.isComment) = false) :
    Continues (line :: lines) = line.isIndented := by
  rw [Continues, List.find?_cons, hskip]
  rfl

theorem Settled.foldlM_finish (h : Settled entries reading) (lines : List Line)
    (hlines : reading.pending = .nothing ∨ Continues lines = false) (total : Nat) :
    (lines.foldlM step reading >>= fun r => r.finish total) =
      lines.foldlM step ⟨entries, .nothing⟩ >>= fun r => r.finish total := by
  have hnothing : Settled entries ⟨entries, .nothing⟩ := .nothing rfl
  induction lines with
  | nil => exact (h.finish total).trans (hnothing.finish total).symm
  | cons line lines ih =>
    rw [List.foldlM_cons, List.foldlM_cons]
    cases hskip : line.isBlank || line.isComment with
    | true =>
      rw [h.step_passed hskip, hnothing.step_passed hskip]
      exact ih (hlines.imp_right fun hc => continues_cons_of_passed hskip ▸ hc)
    | false =>
      rcases hlines with hpending | hc
      · cases h with
        | nothing h => rw [h]
        | environment henvironment =>
          rw [hpending] at henvironment
          cases henvironment
      · rw [h.step_eq hskip (continues_cons_of_not_passed hskip ▸ hc)]

theorem finish_of_step_nil (h : reading.step line = .ok reading') (htext : line.text = [])
    (hfinish : reading'.finish total = .ok entries) : reading.finish total = .ok entries := by
  have hblank : line.isBlank = true := by rw [Line.isBlank, htext]; rfl
  cases hpending : reading.pending with
  | processor name start script =>
    -- the script goes on, and then the text cannot end
    rw [step_script hpending, htext] at h
    cases h
    cases hfinish
  | nothing | environment | request | body =>
    have hout : reading.OutsideScript := by
      intro name start script hscript
      cases hpending.symm.trans hscript
    cases (steps_blank hout hblank).step_eq.symm.trans h
    exact finish_of_afterBlank hfinish

end Reading

open Reading in
theorem exists_reading_of_readLines {s : List Char} {entries : List Entry} {total : Nat}
    (h : readLines total (Line.split s) = .ok entries) : ∃ ls reading,
      (∀ t, Line.divide (s ++ '\n' :: t) = ls ++ Line.divide t) ∧
        (Line.place 0 ls).foldlM step empty = .ok reading ∧ reading.finish total = .ok entries := by
  obtain ⟨last, hread, hfinish⟩ := bind_eq_ok_iff.mp h
  rw [Line.split] at hread
  cases Line.endsBefore s with
  | alone ls text hs ht =>
    rw [hs, Line.place_append, List.foldlM_append] at hread
    obtain ⟨reading, hbefore, hlast⟩ := bind_eq_ok_iff.mp hread
    refine ⟨ls ++ [(text, .lf)], last, fun t => by rw [ht, List.append_assoc]; rfl, ?_, hfinish⟩
    rw [Line.place_append, List.foldlM_append, hbefore]
    obtain ⟨next, hstep, hnext⟩ := bind_eq_ok_iff.mp hlast
    cases hnext
    have hstep := step_ending hstep (outsideScript_of_finish hfinish) .lf
    exact bind_eq_ok_iff.mpr ⟨reading, rfl, bind_eq_ok_iff.mpr ⟨last, hstep, rfl⟩⟩
  | paired ls text hs ht =>
    rw [hs, Line.place_append, List.foldlM_append] at hread
    obtain ⟨reading, hbefore, hlast⟩ := bind_eq_ok_iff.mp hread
    obtain ⟨next, hstep, hlast⟩ := bind_eq_ok_iff.mp hlast
    obtain ⟨_, hnil, hlast⟩ := bind_eq_ok_iff.mp hlast
    cases hlast
    have hfinish := finish_of_step_nil hnil rfl hfinish
    refine ⟨ls ++ [(text, .crlf)], next, fun t => by rw [ht, List.append_assoc]; rfl, ?_, hfinish⟩
    rw [Line.place_append, List.foldlM_append, hbefore]
    have hstep := step_ending hstep (outsideScript_of_finish hfinish) .crlf
    exact bind_eq_ok_iff.mpr ⟨reading, rfl, bind_eq_ok_iff.mpr ⟨next, hstep, rfl⟩⟩

open Reading in
theorem exists_settled_of_readLines {s : List Char} {entries : List Entry} {total : Nat}
    (h : readLines total (Line.split s) = .ok entries) : ∃ before reading,
      (∀ t, Line.split (s ++ '\n' :: '\n' :: t) =
        before ++ (Line.split t).map (Line.shift (width s + 2))) ∧
      before.foldlM step empty = .ok reading ∧ Settled entries reading := by
  obtain ⟨ls, reading, hls, hread, hfinish⟩ := exists_reading_of_readLines h
  have hwidth : width (Line.textOf ls) = width s + 1 := by
    have htext := congrArg width (congrArg Line.textOf (hls []))
    simpa [Line.divide] using htext.symm
  have hblank : Line.isBlank ⟨0 + width (Line.textOf ls), [], .lf⟩ = true := rfl
  have hstep := (steps_blank (outsideScript_of_finish hfinish) hblank).step_eq
  refine ⟨Line.place 0 (ls ++ [([], .lf)]), _, ?_, ?_, settled_afterBlank hfinish⟩
  · intro t
    have hlf : Line.divide ('\n' :: t) = ([], .lf) :: Line.divide t := rfl
    have hstart : 0 + width (Line.textOf (ls ++ [([], .lf)])) = width s + 2 := by
      simp [hwidth]
    rw [Line.split, hls, hlf, List.append_cons, Line.place_append, hstart,
      Line.place_eq_map_shift (width s + 2), Line.split]
  · rw [Line.place_append, List.foldlM_append, hread]
    exact bind_eq_ok_iff.mpr ⟨reading, rfl, bind_eq_ok_iff.mpr ⟨_, hstep, rfl⟩⟩

theorem Reading.continues_map_shift (by' : Nat) (lines : List Line) :
    Continues (lines.map (Line.shift by')) = Continues lines := by
  rw [Continues, Continues, List.find?_map, Option.any_map]
  rfl

theorem Reading.Settled.pending_eq_nothing {entries : List Entry} {reading : Reading}
    (h : Settled entries reading) (hlast : ∀ e, entries.getLast? ≠ some (.environment e)) :
    reading.pending = .nothing := by
  cases h with
  | nothing h => rw [h]
  | @environment name start definitions hpending hne hclose =>
    obtain ⟨before, pending⟩ := reading
    cases hpending
    rw [close, Pending.entry?, List.getLast?_eq_some_getLast hne] at hclose
    cases hclose
    exact absurd List.getLast?_concat (hlast _)

theorem readLines_append {s t : List Char} {entries : List Entry} {total : Nat}
    (h : readLines total (Line.split s) = .ok entries)
    (hapart : (∀ e, entries.getLast? ≠ some (.environment e)) ∨
      Reading.Continues (Line.split t) = false) :
    readLines (width (s ++ '\n' :: '\n' :: t)) (Line.split (s ++ '\n' :: '\n' :: t)) =
      onBoth (entries ++ List.map (·.shift (width s + 2)) ·) (Fault.shift (width s + 2))
        (readLines (width t) (Line.split t)) := by
  obtain ⟨before, reading, hsplit, hread, hsettled⟩ := exists_settled_of_readLines h
  have hlines : reading.pending = .nothing ∨
      Reading.Continues ((Line.split t).map (Line.shift (width s + 2))) = false :=
    hapart.imp hsettled.pending_eq_nothing fun hc => by rwa [Reading.continues_map_shift]
  have hmoved : Reading.empty.moved (width s + 2) entries = ⟨entries, .nothing⟩ := by
    simp [Reading.moved, Reading.empty, Pending.shift]
  have htotal : width (s ++ '\n' :: '\n' :: t) = width t + (width s + 2) := by
    simp only [width_append, width_cons, utf8Size_lf]
    omega
  rw [readLines, hsplit, List.foldlM_append, hread, htotal]
  change ((Line.split t).map _).foldlM Reading.step reading >>= _ = _
  rw [hsettled.foldlM_finish _ hlines, ← hmoved, Reading.foldlM_moved, readLines]
  cases (Line.split t).foldlM Reading.step Reading.empty with
  | ok last => exact Reading.finish_moved _ _ last (width t)
  | error => rfl

end Grammar

theorem Fault.locate_shift {s t : List Char} {before : List Line}
    (h : ∀ t, Line.split (s ++ '\n' :: '\n' :: t) =
      before ++ (Line.split t).map (Line.shift (width s + 2))) (fault : Fault) :
    (fault.shift (width s + 2)).locate (Line.split (s ++ '\n' :: '\n' :: t)) =
      ⟨fault.cause,
        ⟨(fault.locate (Line.split t)).position.line + (lineEnds 0 (s ++ ['\n', '\n'])).length,
          (fault.locate (Line.split t)).position.column⟩, fault.offset + (width s + 2)⟩ := by
  have hwidth : width (s ++ ['\n', '\n']) = width s + 2 := by simp
  have hstart : ∀ line ∈ before, line.start ≤ width s + 2 := by
    intro line hline
    rw [← hwidth]
    exact start_le_of_mem_split (h [] ▸ List.mem_append_left _ hline)
  have hlength : before.length = (lineEnds 0 (s ++ ['\n', '\n'])).length := by
    have hsplit := congrArg List.length (h [])
    rw [length_split, List.length_append] at hsplit
    exact (Nat.succ.inj hsplit).symm
  rw [Fault.locate, Fault.shift, h t, ← hlength]
  exact congrArg (SyntaxError.mk fault.cause · _)
    (Lines.position_append_shift hstart (lineOf_split_pos t fault.offset))

namespace Book

/-- The last entry is an environment, which later lines may still add to. -/
def EndsOpen (book : Book) : Prop :=
  ∃ e, book.entries.getLast? = some (.environment e)

/-- The first line that is neither blank nor a comment begins with a space or a tab. -/
def BeginsIndented (source : String) : Prop :=
  ∃ line, (Line.split source.toList).find? (fun l => !(l.isBlank || l.isComment)) = some line ∧
    line.isIndented = true

theorem continues_iff {source : String} :
    Grammar.Reading.Continues (Line.split source.toList) = true ↔ BeginsIndented source := by
  rw [Grammar.Reading.Continues, BeginsIndented, Option.any_eq_true]

theorem parse_eq (source : String) :
    parse source = onBoth (Book.mk source) (·.locate (Line.split source.toList))
      (Grammar.readLines (width source.toList) (Line.split source.toList)) := by
  rw [parse]
  cases Grammar.readLines (width source.toList) (Line.split source.toList) <;> rfl

theorem toList_append_paragraph (a b : String) :
    (a ++ "\n\n" ++ b).toList = a.toList ++ '\n' :: '\n' :: b.toList := by
  simp

/-- A text after a blank line is read as it is alone: neither its entries nor its syntax error
depend on what comes before, but for the place. -/
theorem parse_append {a b : String} {book : Book} (ha : parse a = .ok book)
    (hapart : ¬book.EndsOpen ∨ ¬BeginsIndented b) :
    (∀ later, parse b = .ok later → parse (a ++ "\n\n" ++ b) =
      .ok ⟨a ++ "\n\n" ++ b,
        book.entries ++ later.entries.map (·.shift (width a.toList + 2))⟩) ∧
    ∀ e, parse b = .error e → parse (a ++ "\n\n" ++ b) =
      .error ⟨e.cause,
        ⟨e.position.line + (lineEnds 0 (a ++ "\n\n").toList).length, e.position.column⟩,
        e.offset + (width a.toList + 2)⟩ := by
  have hread := (lines_of_parse ha).2
  rw [(lines_of_parse ha).1] at hread
  have hwhole := Grammar.readLines_append hread (t := b.toList) (by
    refine hapart.imp (fun hopen e he => hopen ⟨e, he⟩) fun hindented => ?_
    rwa [← continues_iff, Bool.not_eq_true] at hindented)
  obtain ⟨before, -, hsplit, -⟩ := Grammar.exists_settled_of_readLines hread
  rw [parse_eq b, parse_eq (a ++ "\n\n" ++ b), toList_append_paragraph, hwhole]
  cases Grammar.readLines (width b.toList) (Line.split b.toList) with
  | ok entries =>
    constructor
    · intro later hlater
      cases hlater
      rfl
    · intro e he
      cases he
  | error fault =>
    constructor
    · intro later hlater
      cases hlater
    · intro e he
      cases he
      rw [onBoth_error, onBoth_error, Fault.locate_shift hsplit]
      simp [Fault.locate]

/-- The carriage return that ends the first text makes one line end with the line feed after it. -/
theorem parse_append_after_return :
    parse ("@e:\r A: b\r" ++ "\n\n" ++ "\nGET /x | p\n# c\nB:\n\ny") =
        .error ⟨.expected .entry, ⟨9, 1⟩, 32⟩ ∧
      parse ("@e:\r A: b\r" ++ "\n\n" ++ "# c\n$x = 1") = .ok ⟨"@e:\r A: b\r\n\n# c\n$x = 1",
        [.environment ⟨"e", [⟨.header, "A", .text "b", ⟨5, 9⟩⟩], ⟨0, 9⟩⟩,
          .definition ⟨.variable, "x", .integer 1, ⟨16, 22⟩⟩]⟩ := by
  have ha : parse "@e:\r A: b\r" = .ok ⟨"@e:\r A: b\r",
      [.environment ⟨"e", [⟨.header, "A", .text "b", ⟨5, 9⟩⟩], ⟨0, 9⟩⟩]⟩ := rfl
  constructor
  · refine (parse_append ha (.inr ?_)).2 ⟨.expected .entry, ⟨6, 1⟩, 20⟩ rfl
    rintro ⟨line, hline, hindented⟩
    cases hline
    cases hindented
  · refine (parse_append ha (.inr ?_)).1 ⟨"# c\n$x = 1",
      [.definition ⟨.variable, "x", .integer 1, ⟨4, 10⟩⟩]⟩ rfl
    rintro ⟨line, hline, hindented⟩
    cases hline
    cases hindented

end Book

end RequestBook
