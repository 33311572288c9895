import RequestBook.Proofs.Grammar.Step
import RequestBook.Proofs.Source.LineEnds

namespace RequestBook

open RequestBook.Text

def Span.EndsBy (bound : Nat) (span : Span) : Prop :=
  span.start ≤ bound ∧ span.stop ≤ bound

/-- A line begins after one span has ended and no later than another begins. -/
def Span.Before (lines : Lines) (a b : Span) : Prop :=
  ∃ line ∈ lines, a.start < line.start ∧ a.stop < line.start ∧ line.start ≤ b.start

theorem Lines.lineOf_lt_lineOf {lines : Lines} {line : Line} (h : line ∈ lines) {a b : Nat}
    (ha : a < line.start) (hb : line.start ≤ b) : lines.lineOf a < lines.lineOf b := by
  obtain ⟨before, after, rfl⟩ := List.append_of_mem h
  have hle : a ≤ b := Nat.le_trans (Nat.le_of_lt ha) hb
  have hbefore := Lines.lineOf_mono before hle
  have hafter := Lines.lineOf_mono after hle
  simp only [Lines.lineOf, List.countP_append, List.countP_cons, decide_eq_true_eq, hb,
    Nat.not_le.mpr ha, if_true, if_false] at hbefore hafter ⊢
  omega

theorem Lines.lineRange_lt_of_before {lines : Lines} {a b : Span} (h : a.Before lines b) :
    (lines.lineRange a).2 < (lines.lineRange b).1 := by
  obtain ⟨line, hline, hstart, hstop, hb⟩ := h
  apply lineOf_lt_lineOf hline
  · split <;> omega
  · exact hb

theorem Text.width_le_of_suffix {s t : List Char} (h : s <:+ t) : width s ≤ width t := by
  obtain ⟨before, rfl⟩ := h
  rw [width_append]
  exact Nat.le_add_left _ _

theorem Text.width_skipInline_le (s : List Char) : width (skipInline s) ≤ width s :=
  width_le_of_suffix (List.dropWhile_suffix _)

namespace Line

theorem start_le_offsetOf (line : Line) (rest : List Char) : line.start ≤ line.offsetOf rest :=
  Nat.le_add_right _ _

theorem offsetOf_le_stop (line : Line) (rest : List Char) : line.offsetOf rest ≤ line.stop :=
  Nat.add_le_add_left (Nat.sub_le _ _) _

theorem trimmedStop_le (line : Line) : Grammar.Reading.trimmedStop line ≤ line.stop :=
  Nat.add_le_add_left (width_trimEnd_le line.text) _

theorem offsetOf_add_le_stop (line : Line) {rest part : List Char}
    (hrest : width rest ≤ width line.text) (hpart : width part ≤ width rest) :
    line.offsetOf rest + width part ≤ line.stop := by
  rw [offsetOf, stop]
  omega

end Line

namespace Grammar

theorem span_of_readVariable {line : Line} {s : List Char} {d : Definition}
    (h : readVariable line s = .ok d) :
    d.span.start = line.offsetOf s ∧ d.span.stop ≤ line.stop := by
  rw [readVariable] at h
  obtain ⟨⟨name, afterName⟩, -, h⟩ := bind_eq_ok_iff.mp h
  obtain ⟨afterEquals, -, h⟩ := bind_eq_ok_iff.mp h
  obtain ⟨⟨value, afterValue⟩, -, h⟩ := bind_eq_ok_iff.mp h
  obtain ⟨_, -, h⟩ := bind_eq_ok_iff.mp h
  cases h
  exact ⟨rfl, line.offsetOf_le_stop afterValue⟩

theorem width_of_headerName? {s name rest : List Char} (h : headerName? s = some (name, rest)) :
    width rest ≤ width s := by
  unfold headerName? at h
  split at h
  · cases h
  · rename_i hdrop _
    cases h
    have hle := width_le_of_suffix (List.dropWhile_suffix (l := s) isNameChar)
    rw [hdrop, width_cons] at hle
    omega
  · cases h

theorem span_of_readHeader? {line : Line} {s : List Char} {d : Definition}
    (hs : width s ≤ width line.text) (h : readHeader? line s = some d) :
    d.span.start = line.offsetOf s ∧ d.span.stop ≤ line.stop := by
  rw [readHeader?] at h
  obtain ⟨⟨name, rest⟩, hname, rfl⟩ := Option.map_eq_some_iff.mp h
  have hrest : width (skipInline rest) ≤ width line.text :=
    Nat.le_trans (width_skipInline_le rest) (Nat.le_trans (width_of_headerName? hname) hs)
  refine ⟨rfl, ?_⟩
  dsimp only
  split
  · exact line.offsetOf_le_stop rest
  · exact line.offsetOf_add_le_stop hrest (width_trimEnd_le _)

theorem span_of_readRequest {line : Line} {s : List Char} {r : Request}
    (h : readRequest line s = .ok r) :
    r.span.start = line.offsetOf s ∧ r.span.stop ≤ line.stop := by
  rw [readRequest] at h
  dsimp only at h
  split at h
  · cases h
  · split at h
    · obtain ⟨⟨path, afterPath⟩, -, h⟩ := bind_eq_ok_iff.mp h
      obtain ⟨⟨processor, afterBinding⟩, -, h⟩ := bind_eq_ok_iff.mp h
      obtain ⟨_, -, h⟩ := bind_eq_ok_iff.mp h
      cases h
      exact ⟨rfl, line.offsetOf_le_stop afterBinding⟩
    · cases h

namespace DefinedOn

variable {line : Line} {d : Definition}

theorem start_eq (h : DefinedOn line d) : d.span.start = line.offsetOf (skipInline line.text) := by
  cases h with
  | dollar _ hread => exact (span_of_readVariable hread).1
  | header hread => exact (span_of_readHeader? (width_skipInline_le line.text) hread).1

theorem start_le (h : DefinedOn line d) : line.start ≤ d.span.start := by
  rw [h.start_eq]
  exact line.start_le_offsetOf _

theorem stop_le (h : DefinedOn line d) : d.span.stop ≤ line.stop := by
  cases h with
  | dollar _ hread => exact (span_of_readVariable hread).2
  | header hread => exact (span_of_readHeader? (width_skipInline_le line.text) hread).2

end DefinedOn

def Pending.span? : Pending → Option Span
  | .nothing => none
  | .environment _ start definitions =>
    some ⟨start, (definitions.getLast?.map fun d => d.span.stop).getD start⟩
  | .request r => some r.span
  | .body r _ => some r.span
  | .processor _ start _ => some ⟨start, start⟩

theorem span_of_environment {pending : Pending} {name : String} {start : Nat}
    {definitions : List Definition} (hpending : pending = .environment name start definitions)
    (h : definitions ≠ []) : pending.entry?.map Entry.span = pending.span? := by
  rw [hpending, Pending.entry?, Pending.span?, List.getLast?_eq_some_getLast h]
  rfl

inductive Grows (line : Line) (spans : List Span) : List Span → Prop
  | same : Grows line spans spans
  | extended {before start stop stop'} : spans = before ++ [⟨start, stop⟩] →
      stop' ≤ max start line.stop → Grows line spans (before ++ [⟨start, stop'⟩])
  | added {span} : line.start ≤ span.start → span.EndsBy line.stop →
      Grows line spans (spans ++ [span])

namespace Reading

def spans (reading : Reading) : List Span :=
  reading.entries.map Entry.span ++ reading.pending.span?.toList

theorem spans_push (reading : Reading) (entry : Entry) :
    (reading.push entry).spans = reading.entries.map Entry.span ++ [entry.span] := by
  rw [spans, push, List.map_append]
  exact List.append_nil _

theorem spans_of_nothing {reading : Reading} (h : reading.pending = .nothing) :
    reading.spans = reading.entries.map Entry.span := by
  rw [spans, h]
  exact List.append_nil _

theorem spans_close {reading : Reading}
    (h : reading.pending.entry?.map Entry.span = reading.pending.span?) :
    reading.close.spans = reading.spans := by
  rw [spans_of_nothing rfl, spans, ← h, close, List.map_append]
  cases reading.pending.entry? <;> rfl

theorem spans_of_goesOn {reading reading' : Reading} {name : String} {start : Nat}
    {script rest : List Char} {line : Line}
    (h : GoesOn reading name start script line rest reading') :
    ∃ stop, stop ≤ max start line.stop ∧
      reading'.spans = reading.entries.map Entry.span ++ [⟨start, stop⟩] := by
  cases h with
  | @ended before after _ _ =>
    refine ⟨line.offsetOf after, ?_, spans_push reading _⟩
    exact Nat.le_trans (line.offsetOf_le_stop after) (Nat.le_max_right _ _)
  | within _ => exact ⟨start, Nat.le_max_left _ _, rfl⟩

theorem grows_of_opens {reading reading' : Reading} {line : Line}
    (hnothing : reading.pending = .nothing) (h : Opens reading line reading') :
    Grows line reading.spans reading'.spans := by
  have hstart := line.start_le_offsetOf (skipInline line.text)
  have hstop := line.offsetOf_le_stop (skipInline line.text)
  rw [spans_of_nothing hnothing]
  cases h with
  | definition hd =>
    rw [spans_push]
    exact .added hd.start_le ⟨hd.start_eq ▸ hstop, hd.stop_le⟩
  | environment => exact .added hstart ⟨hstop, hstop⟩
  | @request r hr =>
    obtain ⟨hs, he⟩ := span_of_readRequest hr
    exact .added (hs ▸ hstart) ⟨hs ▸ hstop, he⟩
  | processor _ _ hscript =>
    obtain ⟨stop, hle, heq⟩ := spans_of_goesOn hscript
    rw [heq]
    exact .added hstart ⟨hstop, Nat.max_eq_right hstop ▸ hle⟩

theorem grows_of_steps {reading reading' : Reading} {line : Line}
    (h : Steps reading line reading') : Grows line reading.spans reading'.spans := by
  cases h with
  | passed _ => exact .same
  | opened hnothing hopens => exact grows_of_opens hnothing hopens
  | @definition _ start _ _ hpending _ hd =>
    have hle := Nat.le_trans hd.stop_le (Nat.le_max_right start _)
    rw [spans, hpending]
    simp only [spans, Pending.span?, List.getLast?_concat]
    exact .extended rfl hle
  | after hpending hne _ hopens =>
    rw [← spans_close (span_of_environment hpending hne)]
    exact grows_of_opens rfl hopens
  | header hpending hd =>
    have hle := (span_of_readHeader? (width_skipInline_le line.text) hd).2
    rw [spans, hpending]
    exact .extended rfl (Nat.le_trans hle (Nat.le_max_right _ _))
  | bodyBegins hpending _ _ =>
    rw [spans, hpending]
    exact .extended rfl (Nat.le_trans line.trimmedStop_le (Nat.le_max_right _ _))
  | body hpending _ =>
    rw [spans, hpending]
    exact .extended rfl (Nat.le_trans line.trimmedStop_le (Nat.le_max_right _ _))
  | requestEnds hpending _ =>
    rw [spans_close (by rw [hpending]; rfl)]
    exact .same
  | bodyEnds hpending _ =>
    rw [spans_close (by rw [hpending]; rfl)]
    exact .same
  | script hpending hscript =>
    obtain ⟨stop, hle, heq⟩ := spans_of_goesOn hscript
    rw [heq, spans, hpending]
    exact .extended rfl hle

theorem spans_of_finish {reading : Reading} {total : Nat} {entries : List Entry}
    (h : reading.finish total = .ok entries) : entries.map Entry.span = reading.spans := by
  rw [finish] at h
  split at h
  · cases h
  · cases h
  · rename_i henvironment hprocessor
    cases h
    have hclose : reading.close.spans = reading.close.entries.map Entry.span :=
      spans_of_nothing rfl
    rw [← hclose]
    apply spans_close
    cases hpending : reading.pending with
    | nothing | request | body => rfl
    | environment name start definitions =>
      apply span_of_environment rfl
      rintro rfl
      exact henvironment name start hpending
    | processor name start script => exact absurd hpending (hprocessor name start script)

end Reading

/-- Spans that lie apart, all of them before the lines that are still to be read. -/
structure Apart (lines : Lines) (spans : List Span) (rest : List Line) : Prop where
  pairwise : spans.Pairwise (Span.Before lines)
  ended : ∀ span ∈ spans, ∀ line ∈ rest, span.start < line.start ∧ span.stop < line.start

namespace Apart

variable {lines : Lines} {spans : List Span} {line : Line} {rest : List Line}

theorem same (h : Apart lines spans (line :: rest)) : Apart lines spans rest where
  pairwise := h.pairwise
  ended := fun span hspan next hnext => h.ended span hspan next (List.mem_cons_of_mem _ hnext)

theorem extended {before : List Span} {start stop stop' : Nat}
    (h : Apart lines (before ++ [⟨start, stop⟩]) (line :: rest))
    (hrest : ∀ next ∈ rest, line.stop < next.start) (hstop : stop' ≤ max start line.stop) :
    Apart lines (before ++ [⟨start, stop'⟩]) rest where
  pairwise := by
    obtain ⟨hbefore, -, hlast⟩ := List.pairwise_append.mp h.pairwise
    refine List.pairwise_append.mpr ⟨hbefore, List.pairwise_singleton _ _, ?_⟩
    intro a ha b hb
    rw [List.mem_singleton.mp hb]
    exact hlast a ha ⟨start, stop⟩ List.mem_cons_self
  ended := by
    intro span hspan next hnext
    rcases List.mem_append.mp hspan with hspan | hspan
    · exact h.same.ended span (List.mem_append_left _ hspan) next hnext
    · rw [List.mem_singleton.mp hspan]
      have hstart : start < next.start := (h.same.ended _ List.mem_concat_self next hnext).1
      have hline := hrest next hnext
      have hlt : stop' < next.start := by omega
      exact ⟨hstart, hlt⟩

theorem added {span : Span} (h : Apart lines spans (line :: rest)) (hline : line ∈ lines)
    (hrest : ∀ next ∈ rest, line.stop < next.start) (hstart : line.start ≤ span.start)
    (hends : span.EndsBy line.stop) : Apart lines (spans ++ [span]) rest where
  pairwise := by
    refine List.pairwise_append.mpr ⟨h.pairwise, List.pairwise_singleton _ _, ?_⟩
    intro a ha b hb
    rw [List.mem_singleton.mp hb]
    obtain ⟨hastart, hastop⟩ := h.ended a ha line List.mem_cons_self
    exact ⟨line, hline, hastart, hastop, hstart⟩
  ended := by
    intro b hb next hnext
    rcases List.mem_append.mp hb with hb | hb
    · exact h.same.ended b hb next hnext
    · rw [List.mem_singleton.mp hb]
      have hstop := hrest next hnext
      exact ⟨Nat.lt_of_le_of_lt hends.1 hstop, Nat.lt_of_le_of_lt hends.2 hstop⟩

theorem grows {spans' : List Span} (h : Apart lines spans (line :: rest))
    (hgrows : Grows line spans spans') (hline : line ∈ lines)
    (hrest : ∀ next ∈ rest, line.stop < next.start) : Apart lines spans' rest := by
  cases hgrows with
  | same => exact h.same
  | extended hspans hstop =>
    subst hspans
    exact h.extended hrest hstop
  | added hstart hends => exact h.added hline hrest hstart hends

end Apart

theorem apart_empty (lines : Lines) (rest : List Line) : Apart lines Reading.empty.spans rest :=
  ⟨.nil, List.forall_mem_nil _⟩

theorem apart_of_foldlM {lines rest more : List Line} {reading reading' : Reading}
    (h : rest.foldlM Reading.step reading = .ok reading')
    (hmem : ∀ line ∈ rest, line ∈ lines)
    (hrest : (rest ++ more).Pairwise fun a b => a.stop < b.start)
    (hapart : Apart lines reading.spans (rest ++ more)) : Apart lines reading'.spans more := by
  induction rest generalizing reading with
  | nil =>
    cases h
    exact hapart
  | cons line rest ih =>
    rw [List.foldlM_cons] at h
    obtain ⟨next, hstep, h⟩ := bind_eq_ok_iff.mp h
    rw [List.cons_append, List.pairwise_cons] at hrest
    apply ih h (fun l hl => hmem l (List.mem_cons_of_mem _ hl)) hrest.2
    exact hapart.grows (Reading.grows_of_steps (Reading.step_eq_ok_iff.mp hstep))
      (hmem line List.mem_cons_self) hrest.1

theorem apart_of_readLines {total : Nat} {lines : List Line} {entries : List Entry}
    (h : readLines total lines = .ok entries)
    (hlines : lines.Pairwise fun a b => a.stop < b.start) :
    (entries.map Entry.span).Pairwise (Span.Before lines) := by
  rw [readLines] at h
  obtain ⟨reading, hread, hfinish⟩ := bind_eq_ok_iff.mp h
  rw [Reading.spans_of_finish hfinish]
  rw [← List.append_nil lines] at hlines
  exact (apart_of_foldlM hread (fun line hline => hline) hlines (apart_empty _ _)).pairwise

end Grammar

namespace Book

theorem lines_of_parse {source : String} {book : Book} (h : parse source = .ok book) :
    book.lines = Line.split source.toList ∧
      Grammar.readLines (width source.toList) book.lines = .ok book.entries := by
  rw [parse] at h
  split at h
  · rename_i entries hentries
    cases h
    exact ⟨rfl, hentries⟩
  · cases h

theorem pairwise_before_of_parse {source : String} {book : Book} (h : parse source = .ok book) :
    (book.entries.map Entry.span).Pairwise (Span.Before book.lines) := by
  obtain ⟨hlines, hentries⟩ := lines_of_parse h
  apply Grammar.apart_of_readLines hentries
  rw [hlines]
  exact Line.pairwise_stop_split source.toList

end Book

end RequestBook
