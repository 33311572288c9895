import RequestBook.Proofs.Grammar.Origin
import RequestBook.Proofs.Grammar.Sequel

namespace RequestBook

open RequestBook.Text

inductive Entry.Straddles (start bound : Nat) : Entry → Prop
  | request {r : Request} : r.span.start = start → bound < r.span.stop →
      Straddles start bound (.request r)
  | processor {p : Processor} : p.span.start = start → bound < p.span.stop →
      Straddles start bound (.processor p)

namespace Grammar

inductive Pending.Straddles (start bound : Nat) : Pending → Prop
  | request {r : Request} : r.span.start = start → bound < r.span.stop →
      Straddles start bound (.request r)
  | body {r : Request} {lines : List (List Char)} : r.span.start = start → bound < r.span.stop →
      Straddles start bound (.body r lines)
  | processor {name : String} {script : List Char} :
      Straddles start bound (.processor name start script)

inductive Pending.Holds (r : Request) : Pending → Prop
  | request : Holds r (.request r)
  | body {lines : List (List Char)} : Holds r (.body r lines)

namespace Reading

variable {reading reading' : Reading} {line : Line} {lines before after : List Line}
  {entries : List Entry} {total start bound : Nat} {r : Request}

def Reads (reading : Reading) (lines : List Line) (total : Nat) (entries : List Entry) : Prop :=
  (lines.foldlM step reading >>= fun last => last.finish total) = .ok entries

theorem reads_cons_iff : Reads reading (line :: lines) total entries ↔
    ∃ next, reading.step line = .ok next ∧ Reads next lines total entries := by
  rw [Reads, List.foldlM_cons]
  cases reading.step line with
  | ok next => simp [Reads, bind, Except.bind]
  | error e => simp [bind, Except.bind]

theorem reads_append_iff : Reads reading (before ++ after) total entries ↔
    ∃ next, before.foldlM step reading = .ok next ∧ Reads next after total entries := by
  rw [Reads, List.foldlM_append]
  cases before.foldlM step reading with
  | ok next => simp [Reads, bind, Except.bind]
  | error e => simp [bind, Except.bind]

theorem entries_of_goesOn {name : String} {script rest : List Char}
    (h : GoesOn reading name start script line rest reading') :
    ∃ more, reading'.entries = reading.entries ++ more := by
  cases h with
  | ended => exact ⟨_, rfl⟩
  | within => exact ⟨[], (List.append_nil _).symm⟩

theorem entries_of_opens (h : Opens reading line reading') :
    ∃ more, reading'.entries = reading.entries ++ more := by
  cases h with
  | definition => exact ⟨_, rfl⟩
  | environment | request => exact ⟨[], (List.append_nil _).symm⟩
  | processor _ _ hscript => exact entries_of_goesOn hscript

theorem entries_of_steps (h : Steps reading line reading') :
    ∃ more, reading'.entries = reading.entries ++ more := by
  cases h with
  | passed | definition | header | bodyBegins | body => exact ⟨[], (List.append_nil _).symm⟩
  | opened _ hopens => exact entries_of_opens hopens
  | after _ _ _ hopens =>
    obtain ⟨more, hmore⟩ := entries_of_opens hopens
    exact ⟨_, hmore.trans (List.append_assoc _ _ _)⟩
  | requestEnds | bodyEnds => exact ⟨_, rfl⟩
  | script _ hscript => exact entries_of_goesOn hscript

theorem mem_of_finish (h : reading.finish total = .ok entries) :
    ∀ e ∈ reading.entries, e ∈ entries := by
  have hclose : reading.close.entries = entries := congrArg Reading.entries (close_of_finish h)
  intro e he
  rw [← hclose]
  exact List.mem_append_left _ he

theorem mem_of_reads (h : Reads reading lines total entries) :
    ∀ e ∈ reading.entries, e ∈ entries := by
  induction lines generalizing reading with
  | nil => exact mem_of_finish h
  | cons line lines ih =>
    obtain ⟨next, hstep, hnext⟩ := reads_cons_iff.mp h
    intro e he
    obtain ⟨more, hmore⟩ := entries_of_steps (step_eq_ok_iff.mp hstep)
    exact ih hnext e (hmore ▸ List.mem_append_left more he)

theorem straddles_of_goesOn {name : String} {script rest : List Char}
    (hrest : ∃ lead, line.text = lead ++ rest) (hline : bound ≤ line.start)
    (h : GoesOn reading name start script line rest reading') :
    reading'.pending.Straddles start bound ∨
      ∃ e ∈ reading'.entries, e.Straddles start bound := by
  cases h with
  | within => exact .inl .processor
  | @ended inside after hfence _ =>
    obtain ⟨lead, htext⟩ := hrest
    obtain ⟨rfl, -⟩ := splitFence?_cut hfence
    have htext' : line.text = lead ++ inside ++ fence ++ after := by simp [htext]
    refine .inr ⟨_, List.mem_append_right _ List.mem_cons_self, .processor rfl ?_⟩
    change bound < line.offsetOf after
    rw [Line.offsetOf_dropped htext']
    exact Nat.lt_of_le_of_lt hline (Line.reaches_of_append htext' (by simp [fence])).1

theorem straddles_close {e : Entry} (h : reading.pending.Straddles start bound)
    (he : reading.pending.entry? = some e) :
    ∃ e ∈ reading.close.entries, e.Straddles start bound := by
  refine ⟨e, List.mem_append_right _ (Option.mem_toList.mpr he), ?_⟩
  generalize reading.pending = pending at h he
  cases h with
  | request hstart hstop | body hstart hstop =>
    cases he
    exact .request hstart hstop
  | processor => cases he

theorem straddles_step (h : reading.pending.Straddles start bound) (hline : bound ≤ line.start)
    (hstep : reading.step line = .ok reading') : reading'.pending.Straddles start bound ∨
      ∃ e ∈ reading'.entries, e.Straddles start bound := by
  cases step_eq_ok_iff.mp hstep with
  | passed => exact .inl h
  | opened hpending | definition hpending | after hpending =>
    rw [hpending] at h
    cases h
  | header hpending hread =>
    rw [hpending] at h
    cases h with
    | request hstart _ =>
      have hstop := (DefinedOn.header hread).reaches_stop.1
      exact .inl (.request hstart (Nat.lt_of_le_of_lt hline hstop))
  | bodyBegins hpending hline' _ =>
    rw [hpending] at h
    cases h with
    | request hstart _ =>
      have hstop := (reaches_trimmedStop (Bool.or_eq_false_iff.mp hline').1).1
      exact .inl (.body hstart (Nat.lt_of_le_of_lt hline hstop))
  | body hpending hblank =>
    rw [hpending] at h
    cases h with
    | body hstart _ =>
      exact .inl (.body hstart (Nat.lt_of_le_of_lt hline (reaches_trimmedStop hblank).1))
  | requestEnds hpending _ => exact .inr (straddles_close h (by rw [hpending]; rfl))
  | bodyEnds hpending _ => exact .inr (straddles_close h (by rw [hpending]; rfl))
  | script hpending hgoes =>
    rw [hpending] at h
    cases h
    exact straddles_of_goesOn ⟨[], rfl⟩ hline hgoes

theorem straddles_of_reads (h : reading.pending.Straddles start bound)
    (hlines : ∀ line ∈ lines, bound ≤ line.start) (hreads : Reads reading lines total entries) :
    ∃ e ∈ entries, e.Straddles start bound := by
  induction lines generalizing reading with
  | nil =>
    have hclose : reading.close.entries = entries :=
      congrArg Reading.entries (close_of_finish hreads)
    cases hentry : reading.pending.entry? with
    | some e => exact hclose ▸ straddles_close h hentry
    | none =>
      obtain ⟨before, pending⟩ := reading
      cases h with
      | request | body => cases hentry
      | processor => cases hreads
  | cons line lines ih =>
    obtain ⟨next, hstep, hnext⟩ := reads_cons_iff.mp hreads
    rcases straddles_step h (hlines line List.mem_cons_self) hstep with hopen | ⟨e, he, hstraddles⟩
    · exact ih hopen (fun l hl => hlines l (List.mem_cons_of_mem _ hl)) hnext
    · exact ⟨e, mem_of_reads hnext e he, hstraddles⟩

theorem step_holds (h : reading.pending.Holds r) (hline : bound ≤ line.start)
    (hstep : reading.step line = .ok reading') :
    (line.isBlank = true ∧ reading' = reading.close) ∨
      (line.IsPassed ∧ reading' = reading) ∨ reading'.pending.Straddles r.span.start bound := by
  have hreaches {stop : Nat} (hstop : line.Reaches stop) : bound < stop :=
    Nat.lt_of_le_of_lt hline hstop.1
  cases step_eq_ok_iff.mp hstep with
  | passed hpasses => exact .inr (.inl ⟨hpasses.isPassed, rfl⟩)
  | requestEnds _ hblank | bodyEnds _ hblank => exact .inl ⟨hblank, rfl⟩
  | header hpending hread =>
    cases hpending ▸ h
    exact .inr (.inr (.request rfl (hreaches (DefinedOn.header hread).reaches_stop)))
  | bodyBegins hpending hline' _ =>
    cases hpending ▸ h
    have hblank := (Bool.or_eq_false_iff.mp hline').1
    exact .inr (.inr (.body rfl (hreaches (reaches_trimmedStop hblank))))
  | body hpending hblank =>
    cases hpending ▸ h
    exact .inr (.inr (.body rfl (hreaches (reaches_trimmedStop hblank))))
  | opened hpending | definition hpending | after hpending | script hpending =>
    cases hpending ▸ h

theorem step_close (reading : Reading) (hline : line.IsPassed) :
    reading.close.step line = .ok reading.close :=
  (Steps.passed (.nothing hline)).step_eq

theorem reads_close (h : reading.pending.Holds r) (hlines : ∀ line ∈ lines, bound ≤ line.start)
    (hreads : Reads reading lines total entries)
    (hnot : ∀ e ∈ entries, ¬e.Straddles r.span.start bound) :
    Reads reading.close lines total entries := by
  induction lines with
  | nil =>
    have hclose := close_of_finish hreads
    exact (Settled.nothing hclose).finish total
  | cons line lines ih =>
    obtain ⟨next, hstep, hnext⟩ := reads_cons_iff.mp hreads
    have hrest : ∀ l ∈ lines, bound ≤ l.start := fun l hl => hlines l (List.mem_cons_of_mem _ hl)
    rcases step_holds h (hlines line List.mem_cons_self) hstep with
      ⟨hblank, rfl⟩ | ⟨hline, rfl⟩ | hopen
    · have hline := Line.isPassed_of_isBlank hblank
      exact reads_cons_iff.mpr ⟨_, step_close reading hline, hnext⟩
    · exact reads_cons_iff.mpr ⟨_, step_close next hline, ih hrest hnext⟩
    · obtain ⟨e, he, hstraddles⟩ := straddles_of_reads hopen hrest hnext
      exact absurd hstraddles (hnot e he)

theorem step_comment (h : reading.OutsideScript)
    (hbody : ∀ r lines, reading.pending ≠ .body r lines) (hcomment : line.isComment = true)
    (hblank : line.isBlank = false) : reading.step line = .ok reading := by
  have hline : line.IsPassed := Line.isPassed_of_isComment hcomment
  refine (Steps.passed ?_).step_eq
  obtain ⟨entries, pending⟩ := reading
  cases pending with
  | nothing => exact .nothing hline
  | environment => exact .environment hline
  | request => exact .request hblank hcomment
  | body r lines => exact absurd rfl (hbody r lines)
  | processor name start script => exact absurd rfl (h name start script)

/-- Where no request or processor has lines on both sides of a place, none is a script there, and a
blank line changes nothing. -/
theorem reads_afterBlank (hlines : ∀ line ∈ lines, bound ≤ line.start)
    (hreads : Reads reading lines total entries)
    (hnot : ∀ span, reading.pending.span? = some span →
      ∀ e ∈ entries, ¬e.Straddles span.start bound) :
    reading.OutsideScript ∧ Reads reading.afterBlank lines total entries := by
  constructor
  · intro name start script hpending
    have hopen : reading.pending.Straddles start bound := hpending ▸ .processor
    obtain ⟨e, he, hstraddles⟩ := straddles_of_reads hopen hlines hreads
    exact hnot ⟨start, start⟩ (by rw [hpending]; rfl) e he hstraddles
  · obtain ⟨before, pending⟩ := reading
    cases pending with
    | nothing | environment | processor => exact hreads
    | request r => exact reads_close .request hlines hreads (hnot _ rfl)
    | body r texts => exact reads_close .body hlines hreads (hnot _ rfl)

end Reading

end Grammar

end RequestBook
