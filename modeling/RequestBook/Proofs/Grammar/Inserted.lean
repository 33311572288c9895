import RequestBook.Grammar.Writing
import RequestBook.Proofs.Grammar.Anatomy
import RequestBook.Proofs.Grammar.Straddle
import RequestBook.Proofs.Source.Inserted

namespace RequestBook

open RequestBook.Text

def Relocation.gap (bound by' : Nat) : Relocation :=
  { shift by' with offset := fun n => if n < bound then n else n + by' }

namespace Relocation

variable {ρ : Relocation} {bound : Nat} {line : Line}

theorem script_of_char (h : ∀ c, ρ.char c = [c]) (s : List Char) : ρ.script s = s :=
  ρ.script_of_forall fun c _ => h c

theorem takes_gap_before (by' : Nat) (h : line.stop < bound) : (gap bound by').Takes line line where
  text := rfl
  offset _ hn := if_pos (Nat.lt_of_le_of_lt (Nat.add_le_add_left hn line.start) h)
  char _ _ := rfl
  ending := (script_of_char (fun _ => rfl) _).symm

theorem takes_gap_behind (by' : Nat) (h : bound ≤ line.start) :
    (gap bound by').Takes line (line.shift by') where
  text := rfl
  offset n _ := by
    have hle : ¬line.start + n < bound := by omega
    exact (if_neg hle).trans (Nat.add_right_comm line.start n by')
  char _ _ := rfl
  ending := (script_of_char (fun _ => rfl) _).symm

end Relocation

theorem Entry.bare_relocate {ρ : Relocation} (h : ∀ c, ρ.char c = [c]) (e : Entry) :
    (e.relocate ρ).bare = e.bare := by
  cases e with
  | processor p =>
    simp [Entry.relocate, Processor.relocate, Entry.bare, Relocation.script_of_char h]
  | definition | environment | request =>
    simp [Entry.relocate, Request.relocate, Entry.bare, Definition.bare, Definition.relocate]

theorem Lines.lineRange_around {lines : Lines} {line : Line} {span : Span} (h : line ∈ lines)
    (hstart : span.start < line.start) (hstop : line.start < span.stop) :
    (lines.lineRange span).1 < lines.lineOf line.start ∧
      lines.lineOf line.start ≤ (lines.lineRange span).2 := by
  rw [lineRange, if_pos (Nat.lt_trans hstart hstop)]
  exact ⟨lineOf_lt_lineOf h hstart (Nat.le_refl _), lineOf_mono _ (Nat.le_sub_one_of_lt hstop)⟩

namespace Grammar

open Reading

theorem relocate_afterBlank (ρ : Relocation) (before : List Entry) (reading : Reading) :
    reading.afterBlank.relocate ρ before = (reading.relocate ρ before).afterBlank := by
  have hclose := relocate_close (ρ := ρ) before reading
  obtain ⟨entries, pending⟩ := reading
  cases pending with
  | request | body => exact hclose
  | nothing | environment | processor => rfl

theorem reads_moved {s t : List Char} {entries : List Entry} {middle : Reading} (by' : Nat)
    (hmiddle : middle.relocate (.gap (width s) by') [] = middle)
    (hreads : middle.Reads (Line.place (width s) (Line.divide t)) (width (s ++ t)) entries) :
    middle.Reads (Line.place (width s + by') (Line.divide t)) (width (s ++ t) + by')
      (entries.map (·.relocate (.gap (width s) by'))) := by
  have hlines := foldlM_relocate [] middle
    fun line (hline : line ∈ Line.place (width s) (Line.divide t)) =>
      Relocation.takes_gap_behind by' (Line.le_start_of_mem_place hline)
  have htotal : width (s ++ t) + by' = (Relocation.gap (width s) by').offset (width (s ++ t)) := by
    have hle : ¬width (s ++ t) < width s := by
      rw [width_append]
      omega
    exact (if_neg hle).symm
  obtain ⟨last, hlast, hfinish⟩ := bind_eq_ok_iff.mp hreads
  rw [hmiddle, hlast, ← Line.place_add] at hlines
  rw [Reads, hlines, htotal]
  change (last.relocate _ []).finish _ = _
  rw [finish_relocate, hfinish]
  rfl

/-- A text that falls into two where a line begins: the lines before the place, what has been read
there, and the lines behind it, which end a book with the entries. -/
structure Halves (s t : List Char) (entries : List Entry) (ls : List (List Char × LineBreak))
    (reading : Reading) : Prop where
  divide : Line.divide (s ++ t) = ls ++ Line.divide t
  text : Line.textOf ls = s
  read : (Line.place 0 ls).foldlM step empty = .ok reading
  reads : reading.Reads (Line.place (width s) (Line.divide t)) (width (s ++ t)) entries

theorem exists_halves {s t : List Char} {entries : List Entry}
    (h : readLines (width (s ++ t)) (Line.split (s ++ t)) = .ok entries)
    (hstart : ∃ line ∈ Line.split (s ++ t), line.start = width s) :
    ∃ ls reading, Halves s t entries ls reading := by
  obtain ⟨ls, hdivide, htext⟩ := Line.exists_divide_append hstart
  rw [Line.split, hdivide, Line.place_append, htext, Nat.zero_add] at h
  obtain ⟨reading, hread, hreads⟩ := reads_append_iff.mp h
  exact ⟨ls, reading, hdivide, htext, hread, hreads⟩

namespace Halves

variable {s t : List Char} {entries : List Entry} {ls : List (List Char × LineBreak)}
  {reading middle : Reading} (h : Halves s t entries ls reading)
include h

theorem split : Line.split (s ++ t) =
    Line.place 0 ls ++ Line.place (width s) (Line.divide t) := by
  rw [Line.split, h.divide, Line.place_append, h.text, Nat.zero_add]

theorem stop_lt : ∀ line ∈ Line.place 0 ls, line.stop < width s := by
  intro line hline
  obtain ⟨first, after, hafter, hfirst⟩ := Line.exists_place_divide (width s) t
  have hpairwise := Line.pairwise_stop_split (s ++ t)
  rw [h.split, hafter] at hpairwise
  exact hfirst ▸ (List.pairwise_append.mp hpairwise).2.2 line hline first List.mem_cons_self

theorem lineOf_eq : Lines.lineOf (Line.split (s ++ t)) (width s) = (Line.place 0 ls).length + 1 := by
  obtain ⟨first, after, hafter, hfirst⟩ := Line.exists_place_divide (width s) t
  have hsplit := h.split
  rw [hafter] at hsplit
  exact lineOf_split_within hsplit (Nat.le_of_eq hfirst) (hfirst ▸ Nat.le_add_right _ _)

theorem start_lt {span : Span} (hspan : reading.pending.span? = some span) :
    span.start < width s := by
  obtain ⟨first, after, hafter, hfirst⟩ := Line.exists_place_divide (width s) t
  have hpairwise := Line.pairwise_stop_split (s ++ t)
  rw [h.split] at hpairwise
  have hmem : ∀ line ∈ Line.place 0 ls, line ∈ Line.split (s ++ t) :=
    fun line hline => h.split ▸ List.mem_append_left _ hline
  have hapart := apart_of_foldlM h.read hmem hpairwise (apart_empty _ _)
  have hopen : span ∈ reading.spans :=
    List.mem_append_right _ (Option.mem_toList.mpr hspan)
  exact hfirst ▸ (hapart.ended span hopen first (hafter ▸ List.mem_cons_self)).1

theorem relocate_eq (by' : Nat) : reading.relocate (.gap (width s) by') [] = reading := by
  have hmoved := foldlM_relocate (f := id) [] empty fun line hline =>
    Relocation.takes_gap_before by' (h.stop_lt line hline)
  rw [List.map_id, h.read] at hmoved
  exact (Except.ok.inj (h.read.symm.trans hmoved)).symm

theorem readLines_insert (x : List Char) (hx : ∀ c ∈ x, isLineEnd c = false)
    (hcr : x ≠ [] ∨ ∀ init text, ls ≠ init ++ [(text, .cr)])
    (hstep : reading.step ⟨width s, x, .lf⟩ = .ok middle)
    (hmiddle : middle.relocate (.gap (width s) (width x + 1)) [] = middle)
    (hreads : middle.Reads (Line.place (width s) (Line.divide t)) (width (s ++ t)) entries) :
    readLines (width (s ++ x ++ '\n' :: t)) (Line.split (s ++ x ++ '\n' :: t)) =
      .ok (entries.map (·.relocate (.gap (width s) (width x + 1)))) := by
  have htotal : width (s ++ x ++ '\n' :: t) = width (s ++ t) + (width x + 1) := by
    simp only [width_append, width_cons, utf8Size_lf]
    omega
  have hstart : width s + (width x + 1) = width s + width x + width LineBreak.lf.chars := rfl
  rw [Line.split, Line.divide_insert h.divide h.text hx hcr, Line.place_append, h.text, Nat.zero_add,
    htotal]
  refine reads_append_iff.mpr ⟨reading, h.read, reads_cons_iff.mpr ⟨middle, hstep, ?_⟩⟩
  rw [← hstart]
  exact reads_moved _ hmiddle hreads

/-- A line feed behind a carriage return makes no line; only what is behind it moves. -/
theorem readLines_pair {init : List (List Char × LineBreak)} {text : List Char}
    (hls : ls = init ++ [(text, .cr)]) (hout : reading.OutsideScript) :
    readLines (width (s ++ '\n' :: t)) (Line.split (s ++ '\n' :: t)) =
      .ok (entries.map (·.relocate (.gap (width s) 1))) := by
  subst hls
  have hread := h.read
  rw [Line.place_append, List.foldlM_append] at hread
  obtain ⟨before, hbefore, hlast⟩ := bind_eq_ok_iff.mp hread
  obtain ⟨_, hstep, hdone⟩ := bind_eq_ok_iff.mp hlast
  cases hdone
  have hstart : width s + 1 =
      0 + width (Line.textOf init) + width text + width LineBreak.crlf.chars := by
    rw [← h.text]
    simp [Nat.add_assoc]
  have htotal : width (s ++ '\n' :: t) = width (s ++ t) + 1 := by
    simp only [width_append, width_cons, utf8Size_lf]
    omega
  rw [Line.split, Line.divide_pair (h.divide.trans (List.append_assoc _ _ _)) h.text,
    Line.place_append, htotal]
  refine reads_append_iff.mpr ⟨before, hbefore, reads_cons_iff.mpr ⟨reading, ?_, ?_⟩⟩
  · exact step_ending hstep hout .crlf
  · rw [← hstart]
    exact reads_moved 1 (h.relocate_eq 1) h.reads

theorem exists_request_of_body {r : Request} {rows : List (List Char)}
    (hpending : reading.pending = .body r rows)
    (hblank : reading.afterBlank.Reads (Line.place (width s) (Line.divide t)) (width (s ++ t)) entries) :
    ∃ r, .request r ∈ entries ∧ r.body ≠ none ∧
      (Lines.lineRange (Line.split (s ++ t)) r.span).2 = (Line.place 0 ls).length := by
  have hentry : .request { r with body := some (joinBody rows) } ∈ reading.afterBlank.entries := by
    rw [afterBlank, hpending]
    simp [close, hpending, Pending.entry?]
  have horigin := (origins_of_foldlM h.read).pending
  rw [hpending] at horigin
  generalize hlines : Line.place 0 ls = lines at horigin
  cases horigin with
  | @body before first heads rowLines _ _ hr _ =>
    have hsplit : Line.split (s ++ t) =
        before ++ (first :: (heads ++ rowLines) ++ Line.place (width s) (Line.divide t)) := by
      rw [h.split, hlines, List.append_assoc]
    refine ⟨_, mem_of_reads hblank _ hentry, Option.some_ne_none _, ?_⟩
    rw [hr.lineRange hsplit, List.length_append]

end Halves

end Grammar

/-- A comment: a number sign, perhaps behind spaces and tabs, and what follows it on its line. -/
def IsComment (text : List Char) : Prop :=
  ∃ indent rest, text = indent ++ '#' :: rest ∧ (∀ c ∈ indent, isInline c = true) ∧
    ∀ c ∈ rest, isLineEnd c = false

namespace IsComment

variable {text : List Char} (h : IsComment text)
include h

theorem isLineEnd_of_mem : ∀ c ∈ text, isLineEnd c = false := by
  obtain ⟨indent, rest, rfl, hindent, hrest⟩ := h
  intro c hc
  rcases List.mem_append.mp hc with hc | hc
  · have hinline := hindent c hc
    simp only [isInline, Bool.or_eq_true, beq_iff_eq] at hinline
    rcases hinline with rfl | rfl <;> rfl
  · rcases List.mem_cons.mp hc with rfl | hc
    · rfl
    · exact hrest c hc

theorem ne_nil : text ≠ [] := by
  obtain ⟨indent, rest, rfl, -, -⟩ := h
  simp

theorem isComment (start : Nat) (ending : LineBreak) :
    Line.isComment ⟨start, text, ending⟩ = true := by
  obtain ⟨indent, rest, rfl, hindent, -⟩ := h
  rw [Line.isComment, skipInline_append hindent, skipInline_of_stops (stops_cons.mpr rfl)]
  rfl

theorem isBlank (start : Nat) (ending : LineBreak) :
    Line.isBlank ⟨start, text, ending⟩ = false := by
  obtain ⟨indent, rest, rfl, -, -⟩ := h
  rw [Line.isBlank, List.all_eq_false]
  exact ⟨'#', by simp, by decide⟩

end IsComment

namespace Book

/-- No request or processor has lines before the line and the line or later ones. -/
def IsGap (book : Book) (n : Nat) : Prop :=
  ∀ e ∈ book.entries, (∃ r, e = .request r) ∨ (∃ p, e = .processor p) →
    ¬((book.lines.lineRange e.span).1 < n ∧ n ≤ (book.lines.lineRange e.span).2)

def FollowsBody (book : Book) (n : Nat) : Prop :=
  ∃ r, .request r ∈ book.entries ∧ r.body ≠ none ∧ (book.lines.lineRange r.span).2 + 1 = n

def ReadAlike (book : Book) (source : String) : Prop :=
  ∃ book', parse source = .ok book' ∧ book'.entries.map Entry.bare = book.entries.map Entry.bare

theorem IsGap.not_straddles {book : Book} {line : Line} {start : Nat}
    (h : book.IsGap (book.lines.lineOf line.start)) (hline : line ∈ book.lines)
    (hstart : start < line.start) : ∀ e ∈ book.entries, ¬e.Straddles start line.start := by
  intro e he hstraddles
  have haround (hspan : e.span.start = start ∧ line.start < e.span.stop) :=
    Lines.lineRange_around hline (hspan.1 ▸ hstart) hspan.2
  cases hstraddles with
  | request hs hstop => exact h _ he (.inl ⟨_, rfl⟩) (haround ⟨hs, hstop⟩)
  | processor hs hstop => exact h _ he (.inr ⟨_, rfl⟩) (haround ⟨hs, hstop⟩)

theorem readAlike_of_relocate {book : Book} {source : String} {ρ : Relocation}
    (hchar : ∀ c, ρ.char c = [c])
    (h : Grammar.readLines (width source.toList) (Line.split source.toList) =
      .ok (book.entries.map (·.relocate ρ))) : book.ReadAlike source := by
  refine ⟨⟨source, book.entries.map (·.relocate ρ)⟩, ?_, ?_⟩
  · rw [parse, h]
  · rw [List.map_map]
    exact List.map_congr_left fun e _ => e.bare_relocate hchar

/-- A blank line or a comment that is put where a line begins changes no entry but its place, unless a
request or a processor goes on behind it; a comment may not follow a body. -/
theorem parse_insert {s t : String} {book : Book} (h : parse (s ++ t) = .ok book)
    (hstart : ∃ line ∈ book.lines, line.start = width s.toList)
    (hgap : book.IsGap (book.lines.lineOf (width s.toList))) :
    book.ReadAlike (s ++ "\n" ++ t) ∧ ∀ comment : String, IsComment comment.toList →
      ¬book.FollowsBody (book.lines.lineOf (width s.toList)) →
        book.ReadAlike (s ++ comment ++ "\n" ++ t) := by
  obtain ⟨line, hline, hstart⟩ := hstart
  obtain ⟨hlines, hread⟩ := lines_of_parse h
  rw [hlines, String.toList_append] at hread
  obtain ⟨ls, reading, hhalves⟩ := Grammar.exists_halves hread
    ⟨line, String.toList_append ▸ hlines ▸ hline, hstart⟩
  have hnot : ∀ span, reading.pending.span? = some span →
      ∀ e ∈ book.entries, ¬e.Straddles span.start (width s.toList) := by
    rw [← hstart] at hgap ⊢
    exact fun span hspan => hgap.not_straddles hline (hstart ▸ hhalves.start_lt hspan)
  obtain ⟨hout, hblank⟩ := Grammar.Reading.reads_afterBlank
    (fun l hl => Line.le_start_of_mem_place hl) hhalves.reads hnot
  constructor
  · by_cases hcr : ∃ init text, ls = init ++ [(text, .cr)]
    · obtain ⟨init, text, hls⟩ := hcr
      have hread' := hhalves.readLines_pair hls hout
      exact readAlike_of_relocate (fun _ => rfl) (by simpa using hread')
    · have hmiddle (by' : Nat) : reading.afterBlank.relocate (.gap (width s.toList) by') [] =
          reading.afterBlank := by
        rw [Grammar.relocate_afterBlank, hhalves.relocate_eq]
      have hread' := hhalves.readLines_insert [] (List.forall_mem_nil _)
        (.inr fun init text heq => hcr ⟨init, text, heq⟩) (Grammar.Reading.steps_blank hout rfl).step_eq
        (hmiddle _) hblank
      exact readAlike_of_relocate (fun _ => rfl) (by simpa using hread')
  · intro comment hcomment hbody
    have hopen : ∀ r rows, reading.pending ≠ .body r rows := by
      intro r rows hpending
      obtain ⟨r, hr, hsome, hlast⟩ := hhalves.exists_request_of_body hpending hblank
      refine hbody ⟨r, hr, hsome, ?_⟩
      rw [hlines, String.toList_append, hlast, hhalves.lineOf_eq]
    have hstep := Grammar.Reading.step_comment hout hopen
      (hcomment.isComment (width s.toList) .lf) (hcomment.isBlank _ _)
    have hread' := hhalves.readLines_insert _ hcomment.isLineEnd_of_mem (.inl hcomment.ne_nil) hstep
      (hhalves.relocate_eq _) hhalves.reads
    exact readAlike_of_relocate (fun _ => rfl) (by simpa using hread')

def spacious : Book :=
  ⟨"@e:\n A: b\n\nGET /x\ny", [.environment ⟨"e", [⟨.header, "A", .text "b", ⟨5, 9⟩⟩], ⟨0, 9⟩⟩,
    .request ⟨.get, "/x", some "y", none, [], ⟨11, 19⟩⟩]⟩

theorem parse_insert_spacious : parse ("@e:\n" ++ " A: b\n\nGET /x\ny") = .ok spacious ∧
    spacious.IsGap 2 ∧ ¬spacious.FollowsBody 2 ∧
      spacious.ReadAlike ("@e:\n" ++ "\n" ++ " A: b\n\nGET /x\ny") ∧
        spacious.ReadAlike ("@e:\n" ++ "  # c" ++ "\n" ++ " A: b\n\nGET /x\ny") := by
  have hparse : parse ("@e:\n" ++ " A: b\n\nGET /x\ny") = .ok spacious := rfl
  have hstart : ∃ line ∈ spacious.lines, line.start = width "@e:\n".toList :=
    ⟨⟨4, " A: b".toList, .lf⟩, by decide, by decide⟩
  have hgap : spacious.IsGap 2 := by
    intro e he hkind
    simp only [spacious, List.mem_cons, List.not_mem_nil, or_false] at he
    rcases he with rfl | rfl
    · rcases hkind with ⟨r, hr⟩ | ⟨p, hp⟩
      · cases hr
      · cases hp
    · decide
  have hbody : ¬spacious.FollowsBody 2 := by
    rintro ⟨r, hr, -, hlast⟩
    simp only [spacious, List.mem_cons, List.not_mem_nil, or_false, reduceCtorEq, false_or,
      Entry.request.injEq] at hr
    subst hr
    exact absurd hlast (by decide)
  obtain ⟨hblank, hcomment⟩ := parse_insert hparse hstart hgap
  exact ⟨hparse, hgap, hbody, hblank,
    hcomment "  # c" ⟨"  ".toList, " c".toList, rfl, forall_mem_of_all rfl, forall_mem_of_all rfl⟩ hbody⟩

end Book

end RequestBook
