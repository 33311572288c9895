import RequestBook.Proofs.Grammar.Cut
import RequestBook.Proofs.Grammar.Sequel

namespace RequestBook

open RequestBook.Text

def Line.Reaches (line : Line) (offset : Nat) : Prop :=
  line.start < offset ∧ offset ≤ line.stop

theorem Line.reaches_of_append {line : Line} {kept dropped : List Char}
    (h : line.text = kept ++ dropped) (hkept : kept ≠ []) :
    line.Reaches (line.start + width kept) := by
  have hpos : width kept ≠ 0 := mt width_eq_zero_iff.mp hkept
  constructor
  · omega
  · rw [Line.stop, h, width_append]
    omega

namespace Grammar

def bodyOf (rows : List Line) : Option String :=
  if rows.isEmpty then none else some (joinBody (rows.map Line.text))

/-- A request is read from a first line, the headers and comments below it, and the lines of its
body. Its span ends on the last of these lines. -/
structure RequestOn (first : Line) (heads rows : List Line) (r : Request) : Prop where
  opens : ∃ r₀, ReadsRequest first (skipInline first.text) r₀ ∧ r₀.method = r.method ∧
    r₀.path = r.path ∧ r₀.span.start = r.span.start
  beneath : ∀ line ∈ heads, line.isComment = true ∨
    ∃ d ∈ r.headers, ReadsHeader line (skipInline line.text) d
  headers : ∀ d ∈ r.headers, ∃ line ∈ heads, ReadsHeader line (skipInline line.text) d
  notBlank : ∀ line ∈ rows, line.isBlank = false
  body_eq : r.body = bodyOf rows
  stop : ∃ init last, first :: (heads ++ rows) = init ++ [last] ∧ last.Reaches r.span.stop
  start_lt_stop : heads ++ rows = [] → r.span.start < r.span.stop

inductive EntryOn (lines : List Line) : Entry → Prop
  | definition {d line} : line ∈ lines → DefinedOn line d → EntryOn lines (.definition d)
  | environment {e} : (∀ d ∈ e.definitions, ∃ line ∈ lines, DefinedOn line d) →
      EntryOn lines (.environment e)
  | request {before first heads rows after r} :
      lines = before ++ (first :: (heads ++ rows) ++ after) →
      RequestOn first heads rows r → EntryOn lines (.request r)
  | processor {p} : EntryOn lines (.processor p)

/-- What is open has been read from the last of the lines. Comments that no header or body has
followed yet do not belong to a request. -/
inductive PendingOn : List Line → Pending → Prop
  | nothing {all} : PendingOn all .nothing
  | environment {all name start definitions} :
      (∀ d ∈ definitions, ∃ line ∈ all, DefinedOn line d) →
      PendingOn all (.environment name start definitions)
  | request {before first heads passed r} : RequestOn first heads [] r →
      (∀ line ∈ passed, line.isComment = true) →
      PendingOn (before ++ first :: (heads ++ passed)) (.request r)
  | body {before first heads rows r texts} :
      RequestOn first heads rows { r with body := some (joinBody texts) } →
      rows.map Line.text = texts →
      PendingOn (before ++ first :: (heads ++ rows)) (.body r texts)
  | processor {all name start script} : PendingOn all (.processor name start script)

variable {line first : Line} {lines before heads passed rows : List Line} {r : Request}

theorem DefinedOn.reaches_stop {d : Definition} (h : DefinedOn line d) :
    line.Reaches d.span.stop := by
  obtain ⟨kept, dropped, htext, hends, -, hstop, -⟩ := h.exists_cut
  rw [hstop]
  exact Line.reaches_of_append htext hends.ne_nil

theorem span_of_readsRequest (h : ReadsRequest line (skipInline line.text) r) :
    r.span.start < r.span.stop ∧ line.Reaches r.span.stop := by
  obtain ⟨kept, dropped, hs, hspan, hcut⟩ := exists_cut_of_readsRequest h
  obtain ⟨whole, hwhole, hskip, hends, -⟩ := hcut.exists_whole hs
  have hstop := Line.offsetOf_dropped hwhole
  have hfits : width (kept ++ dropped) ≤ width line.text := hs ▸ width_skipInline_le line.text
  have hstart := Line.offsetOf_append_add hfits
  have hpos : width kept ≠ 0 := mt width_eq_zero_iff.mp hcut.ends.ne_nil
  rw [hspan, hs]
  constructor
  · change line.offsetOf (kept ++ dropped) < line.offsetOf dropped
    omega
  · change line.Reaches (line.offsetOf dropped)
    rw [hstop]
    exact Line.reaches_of_append hwhole hends.ne_nil

theorem reaches_trimmedStop (h : line.isBlank = false) :
    line.Reaches (Reading.trimmedStop line) := by
  obtain ⟨blanks, htext, hblanks⟩ := trimEnd_append_blanks line.text
  refine Line.reaches_of_append htext fun hnil => ?_
  rw [hnil, List.nil_append] at htext
  rw [Line.isBlank, htext, List.all_eq_false] at h
  obtain ⟨c, hc, hblank⟩ := h
  exact hblank (hblanks c hc)

namespace RequestOn

theorem of_readsRequest (h : ReadsRequest line (skipInline line.text) r) : RequestOn line [] [] r := by
  obtain ⟨-, -, -, -, -, -, -, -, -, hbody, hheaders, -⟩ := exists_of_readRequest h
  obtain ⟨hlt, hreaches⟩ := span_of_readsRequest h
  exact {
    opens := ⟨r, h, rfl, rfl, rfl⟩
    beneath := fun _ hl => nomatch hl
    headers := fun d hd => by rw [hheaders] at hd; cases hd
    notBlank := fun _ hl => nomatch hl
    body_eq := hbody
    stop := ⟨[], line, rfl, hreaches⟩
    start_lt_stop := fun _ => hlt }

theorem header (h : RequestOn first heads [] r) (hpassed : ∀ l ∈ passed, l.isComment = true)
    {d : Definition} (hd : ReadsHeader line (skipInline line.text) d) :
    RequestOn first (heads ++ passed ++ [line]) []
      { r with headers := r.headers ++ [d], span := ⟨r.span.start, d.span.stop⟩ } where
  opens := h.opens
  beneath := by
    intro l hl
    rw [List.append_assoc, List.mem_append, List.mem_append, List.mem_singleton] at hl
    rcases hl with hl | hl | rfl
    · rcases h.beneath l hl with hcomment | ⟨d', hd', hread⟩
      · exact .inl hcomment
      · exact .inr ⟨d', List.mem_append_left _ hd', hread⟩
    · exact .inl (hpassed l hl)
    · exact .inr ⟨d, List.mem_append_right _ List.mem_cons_self, hd⟩
  headers := by
    intro d' hd'
    rcases List.mem_append.mp hd' with hd' | hd'
    · obtain ⟨l, hl, hread⟩ := h.headers d' hd'
      exact ⟨l, List.mem_append_left _ (List.mem_append_left _ hl), hread⟩
    · rw [List.mem_singleton.mp hd']
      exact ⟨line, List.mem_append_right _ List.mem_cons_self, hd⟩
  notBlank := h.notBlank
  body_eq := h.body_eq
  stop := ⟨first :: (heads ++ passed), line, by simp, (DefinedOn.header hd).reaches_stop⟩
  start_lt_stop := by simp

theorem bodyBegins (h : RequestOn first heads [] r)
    (hpassed : ∀ l ∈ passed, l.isComment = true) (hline : line.isBlank = false) :
    RequestOn first (heads ++ passed) [line] { r with
      body := some (joinBody [line.text]), span := ⟨r.span.start, Reading.trimmedStop line⟩ } where
  opens := h.opens
  beneath := by
    intro l hl
    rcases List.mem_append.mp hl with hl | hl
    · exact h.beneath l hl
    · exact .inl (hpassed l hl)
  headers := by
    intro d hd
    obtain ⟨l, hl, hread⟩ := h.headers d hd
    exact ⟨l, List.mem_append_left _ hl, hread⟩
  notBlank := fun l hl => List.mem_singleton.mp hl ▸ hline
  body_eq := rfl
  stop := ⟨first :: (heads ++ passed), line, rfl, reaches_trimmedStop hline⟩
  start_lt_stop := by simp

theorem body_concat {texts : List (List Char)}
    (h : RequestOn first heads rows { r with body := some (joinBody texts) })
    (htexts : rows.map Line.text = texts) (hline : line.isBlank = false) :
    RequestOn first heads (rows ++ [line]) { r with
      body := some (joinBody (texts ++ [line.text]))
      span := ⟨r.span.start, Reading.trimmedStop line⟩ } where
  opens := h.opens
  beneath := h.beneath
  headers := h.headers
  notBlank := by
    intro l hl
    rcases List.mem_append.mp hl with hl | hl
    · exact h.notBlank l hl
    · rw [List.mem_singleton.mp hl]
      exact hline
  body_eq := by simp [bodyOf, htexts]
  stop := ⟨first :: (heads ++ rows), line, by simp, reaches_trimmedStop hline⟩
  start_lt_stop := by simp

end RequestOn

theorem EntryOn.append {e : Entry} (h : EntryOn lines e) (more : List Line) :
    EntryOn (lines ++ more) e := by
  cases h with
  | definition hline hd => exact .definition (List.mem_append_left more hline) hd
  | environment hdefinitions =>
    refine .environment fun d hd => ?_
    obtain ⟨line, hline, hdefined⟩ := hdefinitions d hd
    exact ⟨line, List.mem_append_left more hline, hdefined⟩
  | @request before first heads rows after r hlines hr =>
    have hmore : lines ++ more = before ++ (first :: (heads ++ rows) ++ (after ++ more)) := by
      simp [hlines]
    exact .request hmore hr
  | processor => exact .processor

theorem PendingOn.entryOn {pending : Pending} {e : Entry} (h : PendingOn lines pending)
    (he : pending.entry? = some e) : EntryOn lines e := by
  cases h with
  | nothing | processor => cases he
  | environment hdefinitions =>
    obtain ⟨last, -, rfl⟩ := Option.map_eq_some_iff.mp he
    exact .environment hdefinitions
  | @request before first heads passed r hr _ =>
    cases he
    have hlines : before ++ first :: (heads ++ passed) =
        before ++ (first :: (heads ++ []) ++ passed) := by simp
    exact .request hlines hr
  | @body before first heads rows r texts hr _ =>
    cases he
    have hlines : before ++ first :: (heads ++ rows) =
        before ++ (first :: (heads ++ rows) ++ []) := by simp
    exact .request hlines hr

namespace PendingOn

theorem pass {pending : Pending} (h : PendingOn lines pending)
    (hpasses : Reading.Passes line pending) : PendingOn (lines ++ [line]) pending := by
  cases h with
  | nothing => exact .nothing
  | environment hdefinitions =>
    refine .environment fun d hd => ?_
    obtain ⟨l, hl, hdefined⟩ := hdefinitions d hd
    exact ⟨l, List.mem_append_left _ hl, hdefined⟩
  | @request before first heads passed r hr hpassed =>
    cases hpasses with
    | request _ hcomment =>
      have hlines : before ++ first :: (heads ++ passed) ++ [line] =
          before ++ first :: (heads ++ (passed ++ [line])) := by simp
      rw [hlines]
      refine .request hr fun l hl => ?_
      rcases List.mem_append.mp hl with hl | hl
      · exact hpassed l hl
      · rw [List.mem_singleton.mp hl]
        exact hcomment
  | body | processor => cases hpasses

theorem definition {name : String} {start : Nat} {definitions : List Definition} {d : Definition}
    (h : PendingOn lines (.environment name start definitions)) (hd : DefinedOn line d) :
    PendingOn (lines ++ [line]) (.environment name start (definitions ++ [d])) := by
  cases h with
  | environment hdefinitions =>
    refine .environment fun d' hd' => ?_
    rcases List.mem_append.mp hd' with hd' | hd'
    · obtain ⟨l, hl, hdefined⟩ := hdefinitions d' hd'
      exact ⟨l, List.mem_append_left _ hl, hdefined⟩
    · rw [List.mem_singleton.mp hd']
      exact ⟨line, List.mem_append_right _ List.mem_cons_self, hd⟩

theorem header (h : PendingOn lines (.request r)) {d : Definition}
    (hd : ReadsHeader line (skipInline line.text) d) : PendingOn (lines ++ [line]) (.request
      { r with headers := r.headers ++ [d], span := ⟨r.span.start, d.span.stop⟩ }) := by
  cases h with
  | @request before first heads passed r hr hpassed =>
    have hlines : before ++ first :: (heads ++ passed) ++ [line] =
        before ++ first :: (heads ++ passed ++ [line] ++ []) := by simp
    rw [hlines]
    exact .request (hr.header hpassed hd) (List.forall_mem_nil _)

theorem bodyBegins (h : PendingOn lines (.request r)) (hline : line.isBlank = false) :
    PendingOn (lines ++ [line])
      (.body { r with span := ⟨r.span.start, Reading.trimmedStop line⟩ } [line.text]) := by
  cases h with
  | @request before first heads passed r hr hpassed =>
    have hlines : before ++ first :: (heads ++ passed) ++ [line] =
        before ++ first :: (heads ++ passed ++ [line]) := by simp
    rw [hlines]
    exact .body (hr.bodyBegins hpassed hline) rfl

theorem body_concat {texts : List (List Char)} (h : PendingOn lines (.body r texts))
    (hline : line.isBlank = false) : PendingOn (lines ++ [line])
      (.body { r with span := ⟨r.span.start, Reading.trimmedStop line⟩ } (texts ++ [line.text])) := by
  cases h with
  | @body before first heads rows r texts hr htexts =>
    have hlines : before ++ first :: (heads ++ rows) ++ [line] =
        before ++ first :: (heads ++ (rows ++ [line])) := by simp
    rw [hlines]
    exact .body (hr.body_concat htexts hline) (by simp [htexts])

end PendingOn

structure Origins (lines : List Line) (reading : Reading) : Prop where
  entries : ∀ e ∈ reading.entries, EntryOn lines e
  pending : PendingOn lines reading.pending

namespace Reading

variable {reading reading' : Reading}

theorem origins_close (h : Origins lines reading) : Origins lines reading.close where
  entries := by
    intro e he
    rcases List.mem_append.mp he with he | he
    · exact h.entries e he
    · exact h.pending.entryOn (Option.mem_toList.mp he)
  pending := .nothing

theorem origins_push {e : Entry} (h : ∀ e ∈ reading.entries, EntryOn lines e)
    (he : EntryOn lines e) : Origins lines (reading.push e) where
  entries := by
    intro e' he'
    rcases List.mem_append.mp he' with he' | he'
    · exact h e' he'
    · exact List.mem_singleton.mp he' ▸ he
  pending := .nothing

theorem origins_of_goesOn {name : String} {start : Nat} {script rest : List Char}
    (h : ∀ e ∈ reading.entries, EntryOn lines e)
    (hgoes : GoesOn reading name start script line rest reading') : Origins lines reading' := by
  cases hgoes with
  | ended => exact origins_push h .processor
  | within => exact ⟨h, .processor⟩

theorem origins_of_opens (h : ∀ e ∈ reading.entries, EntryOn (lines ++ [line]) e)
    (hopens : Opens reading line reading') : Origins (lines ++ [line]) reading' := by
  cases hopens with
  | definition hd =>
    exact origins_push h (.definition (List.mem_append_right _ List.mem_cons_self) hd)
  | environment => exact ⟨h, .environment fun d hd => nomatch hd⟩
  | request hr => exact ⟨h, .request (.of_readsRequest hr) fun _ hl => nomatch hl⟩
  | processor _ _ hscript => exact origins_of_goesOn h hscript

theorem origins_step (h : Origins lines reading) (hsteps : Steps reading line reading') :
    Origins (lines ++ [line]) reading' := by
  have hentries : ∀ e ∈ reading.entries, EntryOn (lines ++ [line]) e :=
    fun e he => (h.entries e he).append [line]
  have hclosed : ∀ e ∈ reading.close.entries, EntryOn (lines ++ [line]) e :=
    fun e he => ((origins_close h).entries e he).append [line]
  cases hsteps with
  | passed hpasses => exact ⟨hentries, h.pending.pass hpasses⟩
  | opened _ hopens => exact origins_of_opens hentries hopens
  | definition hpending _ hd => exact ⟨hentries, (hpending ▸ h.pending).definition hd⟩
  | after _ _ _ hopens => exact origins_of_opens hclosed hopens
  | header hpending hd => exact ⟨hentries, (hpending ▸ h.pending).header hd⟩
  | bodyBegins hpending hline _ =>
    exact ⟨hentries, (hpending ▸ h.pending).bodyBegins (Bool.or_eq_false_iff.mp hline).1⟩
  | body hpending hblank => exact ⟨hentries, (hpending ▸ h.pending).body_concat hblank⟩
  | requestEnds | bodyEnds => exact ⟨hclosed, .nothing⟩
  | script _ hscript => exact origins_of_goesOn hentries hscript

theorem origins_of_runs (h : Runs lines reading) : Origins lines reading := by
  induction h with
  | nil => exact ⟨List.forall_mem_nil _, .nothing⟩
  | concat _ hsteps ih => exact origins_step ih hsteps

theorem origins_of_foldlM (h : lines.foldlM step empty = .ok reading) : Origins lines reading :=
  origins_of_runs (runs_of_foldlM h)

end Reading

theorem entryOn_of_readLines {total : Nat} {entries : List Entry}
    (h : readLines total lines = .ok entries) : ∀ e ∈ entries, EntryOn lines e := by
  obtain ⟨reading, hread, hfinish⟩ := bind_eq_ok_iff.mp h
  have horigins := Reading.origins_close (Reading.origins_of_foldlM hread)
  rw [Reading.close_of_finish hfinish] at horigins
  exact horigins.entries

end Grammar

end RequestBook
