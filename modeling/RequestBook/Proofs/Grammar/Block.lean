import RequestBook.Proofs.Grammar.LastLine

/-!
The lines that an entry is read from. They follow one another, from the line on which the entry
begins to the line on which it ends. Main statement: the lines of a book are such blocks, in the
order of its entries, and between them only blank lines and comments.
-/

namespace RequestBook

open RequestBook.Text

def Entry.inner : Entry → List Definition
  | .environment e => e.definitions
  | .request r => r.headers
  | .definition _ | .processor _ => []

namespace Grammar

/-- The definitions stand on lines of the block, each on its own, in order. -/
def StandOn (block : List Line) (definitions : List Definition) : Prop :=
  ∃ placed : List (Line × Definition), placed.map Prod.snd = definitions ∧
    (placed.map Prod.fst).Sublist block ∧ ∀ p ∈ placed, DefinedOn p.1 p.2

namespace StandOn

variable {block : List Line} {definitions : List Definition} {line : Line} {d : Definition}

theorem nil (block : List Line) : StandOn block [] :=
  ⟨[], rfl, List.nil_sublist block, fun _ hp => nomatch hp⟩

theorem append (h : StandOn block definitions) (more : List Line) :
    StandOn (block ++ more) definitions := by
  obtain ⟨placed, hmap, hsublist, hplaced⟩ := h
  exact ⟨placed, hmap, hsublist.trans (List.sublist_append_left block more), hplaced⟩

theorem concat (h : StandOn block definitions) (hd : DefinedOn line d) :
    StandOn (block ++ [line]) (definitions ++ [d]) := by
  obtain ⟨placed, rfl, hsublist, hplaced⟩ := h
  refine ⟨placed ++ [(line, d)], by simp, by simpa using hsublist, ?_⟩
  intro p hp
  rcases List.mem_append.mp hp with hp | hp
  · exact hplaced p hp
  · rw [List.mem_singleton.mp hp]
    exact hd

theorem exists_definedOn (h : StandOn block definitions) (hd : d ∈ definitions) :
    ∃ line ∈ block, DefinedOn line d := by
  obtain ⟨placed, rfl, hsublist, hplaced⟩ := h
  obtain ⟨⟨line, d⟩, hmem, rfl⟩ := List.mem_map.mp hd
  exact ⟨line, hsublist.subset (List.mem_map_of_mem hmem), hplaced _ hmem⟩

end StandOn

/-- An entry is read from these lines and no others. -/
structure Construct (init : List Line) (last : Line) (e : Entry) : Prop where
  reads : ∃ reading, init.foldlM Reading.step Reading.empty = .ok reading ∧ reading.EndsOn last e
  begins : ∃ first rest, init ++ [last] = first :: rest ∧ Starts (skipInline first.text) ∧
    e.span.start = first.offsetOf (skipInline first.text)
  /-- The last of the inner definitions ends the entry if it stands on the last line. -/
  inner : StandOn init e.inner ∨ ∃ before d, e.inner = before ++ [d] ∧ StandOn init before ∧
    DefinedOn last d ∧ e.span.stop = d.span.stop

theorem Construct.standOn {init : List Line} {last : Line} {e : Entry} (h : Construct init last e) :
    StandOn (init ++ [last]) e.inner := by
  rcases h.inner with hinner | ⟨before, d, heq, hbefore, hd, -⟩
  · exact hinner.append [last]
  · rw [heq]
    exact hbefore.concat hd

inductive Arranged : List Line → List Entry → Prop
  | nil : Arranged [] []
  | passed {line lines entries} : line.IsPassed → Arranged lines entries →
      Arranged (line :: lines) entries
  | construct {init last e lines entries} : Construct init last e → Arranged lines entries →
      Arranged (init ++ last :: lines) (e :: entries)

theorem Arranged.exists_construct {lines : List Line} {entries : List Entry} {e : Entry}
    (h : Arranged lines entries) (he : e ∈ entries) : ∃ before init last after,
      lines = before ++ (init ++ [last] ++ after) ∧ Construct init last e := by
  induction h with
  | nil => cases he
  | @passed line _ _ _ _ ih =>
    obtain ⟨before, init, last, after, rfl, hconstruct⟩ := ih he
    exact ⟨line :: before, init, last, after, rfl, hconstruct⟩
  | @construct init last _ lines _ hconstruct _ ih =>
    rcases List.mem_cons.mp he with rfl | he
    · exact ⟨[], init, last, lines, by simp, hconstruct⟩
    · obtain ⟨before, init', last', after, rfl, hconstruct'⟩ := ih he
      exact ⟨init ++ last :: before, init', last', after, by simp, hconstruct'⟩

theorem Arranged.append {lines more : List Line} {entries later : List Entry}
    (h : Arranged lines entries) (hmore : Arranged more later) :
    Arranged (lines ++ more) (entries ++ later) := by
  induction h with
  | nil => exact hmore
  | passed hpassed _ ih => exact .passed hpassed ih
  | construct hconstruct _ ih =>
    rw [List.append_assoc, List.cons_append]
    exact .construct hconstruct ih

theorem arranged_of_isPassed {lines : List Line} (h : ∀ line ∈ lines, line.IsPassed) :
    Arranged lines [] := by
  induction lines with
  | nil => exact .nil
  | cons line lines ih =>
    exact .passed (h line List.mem_cons_self) (ih fun l hl => h l (List.mem_cons_of_mem _ hl))

theorem Construct.arranged {init : List Line} {last : Line} {e : Entry}
    (h : Construct init last e) {passed : List Line} (hpassed : ∀ line ∈ passed, line.IsPassed) :
    Arranged (init ++ last :: passed) [e] :=
  .construct h (arranged_of_isPassed hpassed)

def Pending.start? : Pending → Option Nat
  | .nothing => none
  | .environment _ start _ => some start
  | .request r => some r.span.start
  | .body r _ => some r.span.start
  | .processor _ start _ => some start

def Pending.inner : Pending → List Definition
  | .environment _ _ definitions => definitions
  | .request r => r.headers
  | .body r _ => r.headers
  | .nothing | .processor _ _ _ => []

/-- What is open has been read from these lines. If it may end here it has ended already, on the
last of them that is not passed over. -/
structure Opened (block : List Line) (pending : Pending) : Prop where
  reads : block.foldlM Reading.step Reading.empty = .ok ⟨[], pending⟩
  begins : ∃ first rest, block = first :: rest ∧ Starts (skipInline first.text) ∧
    pending.start? = some (first.offsetOf (skipInline first.text))
  inner : StandOn block pending.inner
  ends : ∀ e, pending.entry? = some e → ∃ init last passed, block = init ++ last :: passed ∧
    (∀ line ∈ passed, line.IsPassed) ∧ Construct init last e

namespace Opened

variable {block : List Line} {pending pending' : Pending} {line : Line} {e : Entry}

theorem pass (h : Opened block pending) (hpasses : Reading.Passes line pending) :
    Opened (block ++ [line]) pending where
  reads := by
    rw [List.foldlM_append, h.reads]
    exact foldlM_cons_of_ok (Reading.Steps.passed hpasses).step_eq []
  begins := by
    obtain ⟨first, rest, rfl, hfirst⟩ := h.begins
    exact ⟨first, rest ++ [line], rfl, hfirst⟩
  inner := h.inner.append [line]
  ends := by
    intro e he
    obtain ⟨init, last, passed, rfl, hpasseds, hconstruct⟩ := h.ends e he
    refine ⟨init, last, passed ++ [line], by simp, ?_, hconstruct⟩
    intro l hl
    rcases List.mem_append.mp hl with hl | hl
    · exact hpasseds l hl
    · rw [List.mem_singleton.mp hl]
      exact hpasses.isPassed

theorem construct (h : Opened block pending) (hends : Reading.EndsOn ⟨[], pending⟩ line e)
    (hstart : pending.start? = some e.span.start)
    (hinner : StandOn block e.inner ∨ ∃ before d, e.inner = before ++ [d] ∧
      StandOn block before ∧ DefinedOn line d ∧ e.span.stop = d.span.stop) :
    Construct block line e where
  reads := ⟨_, h.reads, hends⟩
  begins := by
    obtain ⟨first, rest, rfl, hfirst, hspan⟩ := h.begins
    rw [hstart] at hspan
    exact ⟨first, rest ++ [line], rfl, hfirst, Option.some.inj hspan⟩
  inner := hinner

theorem extend (h : Opened block pending) (hsteps : Reading.Steps ⟨[], pending⟩ line ⟨[], pending'⟩)
    (hstart : pending'.start? = pending.start?) (hinner : StandOn (block ++ [line]) pending'.inner)
    (hends : ∀ e, pending'.entry? = some e → Construct block line e) :
    Opened (block ++ [line]) pending' where
  reads := by
    rw [List.foldlM_append, h.reads]
    exact foldlM_cons_of_ok hsteps.step_eq []
  begins := by
    obtain ⟨first, rest, rfl, hfirst, hspan⟩ := h.begins
    exact ⟨first, rest ++ [line], rfl, hfirst, hstart.trans hspan⟩
  inner := hinner
  ends := fun e he => ⟨block, line, [], rfl, (fun _ hl => nomatch hl), hends e he⟩

theorem ne_nothing (h : Opened block pending) : pending ≠ .nothing := by
  rintro rfl
  obtain ⟨_, _, _, _, hstart⟩ := h.begins
  cases hstart

theorem arranged (h : Opened block pending) (he : pending.entry? = some e) :
    Arranged block [e] := by
  obtain ⟨init, last, passed, rfl, hpassed, hconstruct⟩ := h.ends e he
  exact hconstruct.arranged hpassed

section Goes

variable {name : String} {start : Nat} {definitions : List Definition} {d : Definition} {r : Request}
  {lines : List (List Char)}

theorem definition (h : Opened block (.environment name start definitions))
    (hindented : line.isIndented = true) (hd : DefinedOn line d) :
    Opened (block ++ [line]) (.environment name start (definitions ++ [d])) := by
  refine h.extend (.definition rfl hindented hd) rfl (h.inner.concat hd) fun e he => ?_
  rw [Pending.entry?, List.getLast?_concat] at he
  cases he
  exact h.construct (Reading.endsOn_environment hd hindented name start definitions) rfl
    (.inr ⟨definitions, d, rfl, h.inner, hd, rfl⟩)

theorem header (h : Opened block (.request r)) (hd : ReadsHeader line (skipInline line.text) d) :
    Opened (block ++ [line]) (.request
      { r with headers := r.headers ++ [d], span := ⟨r.span.start, d.span.stop⟩ }) := by
  refine h.extend (.header rfl hd) rfl (h.inner.concat (.header hd)) ?_
  rintro e ⟨⟩
  exact h.construct (Reading.endsOn_header hd r) rfl
    (.inr ⟨r.headers, d, rfl, h.inner, .header hd, rfl⟩)

theorem bodyBegins (h : Opened block (.request r)) (hline : (line.isBlank || line.isComment) = false)
    (hnone : readHeader? line (skipInline line.text) = none) : Opened (block ++ [line])
      (.body { r with span := ⟨r.span.start, Reading.trimmedStop line⟩ } [line.text]) := by
  refine h.extend (.bodyBegins rfl hline hnone) rfl (h.inner.append [line]) ?_
  rintro e ⟨⟩
  exact h.construct (Reading.endsOn_bodyBegins hline hnone r) rfl (.inl h.inner)

theorem body (h : Opened block (.body r lines)) (hblank : line.isBlank = false) :
    Opened (block ++ [line])
      (.body { r with span := ⟨r.span.start, Reading.trimmedStop line⟩ } (lines ++ [line.text])) := by
  refine h.extend (.body rfl hblank) rfl (h.inner.append [line]) ?_
  rintro e ⟨⟩
  exact h.construct (Reading.endsOn_body hblank r lines) rfl (.inl h.inner)

end Goes

end Opened

/-- The lines that have been read, as blocks: what is open is read from the last of them. -/
inductive Arranges (lines : List Line) (reading : Reading) : Prop
  | nothing : reading.pending = .nothing → Arranged lines reading.entries →
      Arranges lines reading
  | opened {done block} : lines = done ++ block → Arranged done reading.entries →
      Opened block reading.pending → Arranges lines reading

namespace Reading

variable {reading reading' : Reading} {line : Line} {lines : List Line}

theorem opened_of_opens {pending : Pending} {start : Nat} (h : Opens empty line ⟨[], pending⟩)
    (hstart : pending.start? = some start) (hline : start = line.offsetOf (skipInline line.text))
    (hinner : pending.inner = []) (hends : ∀ e, pending.entry? = some e → Construct [] line e) :
    Opened [line] pending where
  reads := foldlM_cons_of_ok h.begin_eq []
  begins := ⟨line, [], rfl, h.starts, hline ▸ hstart⟩
  inner := hinner ▸ .nil [line]
  ends := fun e he => ⟨[], line, [], rfl, (fun _ hl => nomatch hl), hends e he⟩

theorem construct_of_endsOn {e : Entry} (hends : empty.EndsOn line e)
    (hstarts : Starts (skipInline line.text))
    (hstart : e.span.start = line.offsetOf (skipInline line.text)) (hinner : e.inner = []) :
    Construct [] line e where
  reads := ⟨empty, rfl, hends⟩
  begins := ⟨line, [], rfl, hstarts, hstart⟩
  inner := .inl (hinner ▸ .nil [])

theorem construct_of_definedOn {d : Definition} (h : DefinedOn line d) :
    Construct [] line (.definition d) :=
  construct_of_endsOn (endsOn_definition h) h.starts h.start_eq rfl

theorem arranges_of_opens (h : Opens reading line reading')
    (harranged : Arranged lines reading.entries) : Arranges (lines ++ [line]) reading' := by
  -- an entry that the line ends is added to those that are arranged already
  have hclosed {e : Entry} (hconstruct : Construct [] line e) :
      Arranges (lines ++ [line]) (reading.push e) :=
    .nothing rfl (harranged.append (.construct hconstruct .nil))
  have hstarts := h.starts
  cases h with
  | definition hd => exact hclosed (construct_of_definedOn hd)
  | environment hhead hname =>
    exact .opened rfl harranged (opened_of_opens (.environment hhead hname) rfl rfl rfl
      fun e he => nomatch he)
  | @request r hr =>
    obtain ⟨_, _, _, _, -, -, -, -, -, -, hheaders, -⟩ := exists_of_readRequest hr
    have hstart := (span_of_readRequest hr).1
    refine .opened rfl harranged (opened_of_opens (.request hr) rfl hstart hheaders ?_)
    intro e he
    cases he
    exact construct_of_endsOn (endsOn_request hr) hstarts hstart hheaders
  | processor hopens hname hscript =>
    cases hscript with
    | ended hfence hend =>
      exact hclosed (construct_of_endsOn (endsOn_processor hopens hname hfence hend) hstarts rfl rfl)
    | within hfence =>
      exact .opened rfl harranged (opened_of_opens
        (.processor hopens hname (.within hfence)) rfl rfl rfl fun e he => nomatch he)

section Open

variable {done block : List Line}

theorem arranges_close {e : Entry} (hopened : Opened block reading.pending)
    (harranged : Arranged done reading.entries) (he : reading.pending.entry? = some e)
    (hline : line.IsPassed) : Arranges (done ++ block ++ [line]) reading.close := by
  refine .nothing rfl ?_
  have hlines := (harranged.append (hopened.arranged he)).append (.passed hline .nil)
  rw [List.append_nil] at hlines
  rw [close, he]
  exact hlines

theorem arranges_of_goesOn {name : String} {start : Nat} {script : List Char}
    (hopened : Opened block (.processor name start script)) (harranged : Arranged done reading.entries)
    (h : GoesOn reading name start script line line.text reading') :
    Arranges (done ++ block ++ [line]) reading' := by
  cases h with
  | ended hfence hend =>
    have hconstruct := hopened.construct (endsOn_script hfence hend name start script) rfl
      (.inl (.nil block))
    have hlines := harranged.append (.construct hconstruct .nil)
    rw [← List.append_assoc] at hlines
    exact .nothing rfl hlines
  | within hfence =>
    refine .opened (List.append_assoc ..) harranged
      (hopened.extend (.script rfl (.within hfence)) rfl (hopened.inner.append [line]) ?_)
    rintro e ⟨⟩

theorem arranges_of_opened (hopened : Opened block reading.pending)
    (harranged : Arranged done reading.entries) (hsteps : Steps reading line reading') :
    Arranges (done ++ block ++ [line]) reading' := by
  have hassoc : done ++ block ++ [line] = done ++ (block ++ [line]) := List.append_assoc ..
  cases hsteps with
  | passed hpasses => exact .opened hassoc harranged (hopened.pass hpasses)
  | opened hpending => exact absurd hpending hopened.ne_nothing
  | definition hpending hindented hd =>
    exact .opened hassoc harranged ((hpending ▸ hopened).definition hindented hd)
  | @after name start definitions _ hpending hne _ hopens =>
    refine arranges_of_opens hopens ?_
    have he : reading.pending.entry? = some (.environment
        ⟨name, definitions, ⟨start, (definitions.getLast hne).span.stop⟩⟩) := by
      rw [hpending, Pending.entry?, List.getLast?_eq_some_getLast hne]
      rfl
    rw [close, he]
    exact harranged.append (hopened.arranged he)
  | header hpending hd => exact .opened hassoc harranged ((hpending ▸ hopened).header hd)
  | bodyBegins hpending hline hnone =>
    exact .opened hassoc harranged ((hpending ▸ hopened).bodyBegins hline hnone)
  | body hpending hblank => exact .opened hassoc harranged ((hpending ▸ hopened).body hblank)
  | requestEnds hpending hblank | bodyEnds hpending hblank =>
    exact arranges_close hopened harranged (by rw [hpending]; rfl) (Line.isPassed_of_isBlank hblank)
  | script hpending hscript => exact arranges_of_goesOn (hpending ▸ hopened) harranged hscript

end Open

theorem arranges_step (h : Arranges lines reading) (hsteps : Steps reading line reading') :
    Arranges (lines ++ [line]) reading' := by
  cases h with
  | opened hlines harranged hopened =>
    rw [hlines]
    exact arranges_of_opened hopened harranged hsteps
  | nothing hpending harranged =>
    cases hsteps with
    | passed hpasses =>
      refine .nothing hpending ?_
      simpa using harranged.append (.passed hpasses.isPassed .nil)
    | opened _ hopens => exact arranges_of_opens hopens harranged
    | definition hother | after hother | header hother | bodyBegins hother | body hother
    | requestEnds hother | bodyEnds hother | script hother => cases hpending.symm.trans hother

theorem arranges_of_runs (h : Runs lines reading) : Arranges lines reading := by
  induction h with
  | nil => exact .nothing rfl .nil
  | concat _ hsteps ih => exact arranges_step ih hsteps

theorem exists_entry_of_finish {total : Nat} {entries : List Entry}
    (h : reading.finish total = .ok entries) (hopen : reading.pending ≠ .nothing) :
    ∃ e, reading.pending.entry? = some e := by
  rw [finish] at h
  split at h
  · cases h
  · cases h
  · rename_i henvironment hprocessor
    cases hpending : reading.pending with
    | nothing => exact absurd hpending hopen
    | request | body => exact ⟨_, rfl⟩
    | environment name start definitions =>
      have hne : definitions ≠ [] := by
        rintro rfl
        exact henvironment name start hpending
      rw [Pending.entry?, List.getLast?_eq_some_getLast hne]
      exact ⟨_, rfl⟩
    | processor name start script => exact absurd hpending (hprocessor name start script)

theorem arranged_of_finish {total : Nat} {entries : List Entry} (h : Arranges lines reading)
    (hfinish : reading.finish total = .ok entries) : Arranged lines entries := by
  have hclose : reading.close.entries = entries :=
    congrArg Reading.entries (close_of_finish hfinish)
  cases h with
  | nothing hpending harranged =>
    rw [close_of_nothing hpending] at hclose
    exact hclose ▸ harranged
  | opened hlines harranged hopened =>
    obtain ⟨e, he⟩ := exists_entry_of_finish hfinish hopened.ne_nothing
    rw [close, he] at hclose
    rw [hlines, ← hclose]
    exact harranged.append (hopened.arranged he)

end Reading

theorem Arranged.exists_construct_inner {lines : List Line} {entries : List Entry} {e : Entry}
    {d : Definition} (h : Arranged lines entries) (he : e ∈ entries) (hd : d ∈ e.inner) :
    ∃ before line after, lines = before ++ ([] ++ [line] ++ after) ∧
      Construct [] line (.definition d) := by
  obtain ⟨before, init, last, after, rfl, hconstruct⟩ := h.exists_construct he
  obtain ⟨line, hline, hdefined⟩ := hconstruct.standOn.exists_definedOn hd
  obtain ⟨earlier, later, heq⟩ := List.append_of_mem hline
  refine ⟨before ++ earlier, line, later ++ after, ?_, Reading.construct_of_definedOn hdefined⟩
  rw [heq]
  simp

theorem arranged_of_readLines {total : Nat} {lines : List Line} {entries : List Entry}
    (h : readLines total lines = .ok entries) : Arranged lines entries := by
  obtain ⟨reading, hread, hfinish⟩ := bind_eq_ok_iff.mp h
  exact Reading.arranged_of_finish (Reading.arranges_of_runs (Reading.runs_of_foldlM hread)) hfinish

end Grammar

end RequestBook
