import RequestBook.Proofs.Grammar.Cut
import RequestBook.Proofs.Grammar.Sequel
import RequestBook.Proofs.Grammar.Written
import RequestBook.Proofs.Text.Parts

/-!
Reading back a book that was written. The lines of an entry are read one by one: those of an
environment or a request add their definitions, those of a body or a script are kept as they are.
Main statement: entries written one after another, with blank lines between, are read as the same
entries.
-/

namespace RequestBook

open RequestBook.Text

theorem IsName.starts {name : String} (h : IsName name) : Starts name.toList := by
  obtain ⟨c, more, hname⟩ := List.exists_cons_of_ne_nil h.ne_nil
  exact starts_of_isNameChar (by rw [hname]; rfl) (h.2 c (hname ▸ List.mem_cons_self))

theorem Definition.Writable.starts {d : Definition} (h : d.Writable) : Starts d.written := by
  obtain ⟨kind, name, value, span⟩ := d
  cases kind
  · simp only [Definition.written, List.append_assoc]
    exact h.1.starts.append _
  · exact ⟨'$', rfl, by decide, by decide⟩

theorem Request.starts_opening (r : Request) : Starts r.opening := by
  obtain ⟨c, rest, hname, hupper⟩ := r.method.exists_name
  rw [Request.opening, hname]
  exact starts_of_isNameChar rfl (Method.mem_name (hname ▸ List.mem_cons_self)).2

theorem Entry.Writable.starts {e : Entry} (h : e.Writable) : Starts e.written := by
  cases e with
  | definition d => exact Definition.Writable.starts h
  | environment e =>
    obtain ⟨tail, htail⟩ := exists_intercalate_cons '\n'
      (e.definitions.map fun d => "    ".toList ++ d.written)
    rw [Entry.written, Environment.written, htail]
    exact ⟨'@', rfl, by decide, by decide⟩
  | request r =>
    obtain ⟨tail, htail⟩ := exists_intercalate_cons '\n'
      (r.headers.map Definition.written ++ r.bodyLines)
    rw [Entry.written, Request.written, List.cons_append, htail]
    exact r.starts_opening.append tail
  | processor p => exact ⟨'P', rfl, by decide, by decide⟩

namespace Grammar

theorem exists_definedOn_written {line : Line} {d : Definition}
    (hskip : skipInline line.text = d.written) (h : d.Writable) :
    ∃ d', DefinedOn line d' ∧ d'.bare = d.bare := by
  cases hkind : d.kind
  · obtain ⟨d', hread, hbare⟩ := readHeader?_written hkind h line
    rw [← hskip] at hread
    exact ⟨d', .header hread, hbare⟩
  · obtain ⟨d', hread, hbare⟩ := readVariable_written hkind h line
    have hhead : (skipInline line.text).head? = some '$' := by
      rw [hskip, Definition.written, hkind]
      rfl
    rw [← hskip] at hread
    exact ⟨d', .dollar hhead hread, hbare⟩

theorem exists_lines_of_intercalate {x : List Char} {xs : List (List Char)} (hx : OneLine x)
    (hxs : ∀ y ∈ xs, OneLine y) : ∃ line lines,
      Line.split (['\n'].intercalate (x :: xs)) = line :: lines ∧ line.text = x ∧
        lines.map Line.text = xs := by
  have hall : ∀ y ∈ x :: xs, ∀ c ∈ y, isLineEnd c = false := by
    intro y hy
    rcases List.mem_cons.mp hy with rfl | hy
    · exact oneLine_iff.mp hx
    · exact oneLine_iff.mp (hxs y hy)
  have htexts := Line.map_fst_divide_intercalate (List.cons_ne_nil x xs) hall
  rw [← Line.map_text_place 0] at htexts
  obtain ⟨line, lines, hsplit, hline, hlines⟩ := List.map_eq_cons_iff.mp htexts
  exact ⟨line, lines, hsplit, hline, hlines⟩

theorem first_of_isBody {s first : List Char} {more : List (List Char)} (h : IsBody s)
    (hsplit : List.splitOn '\n' s = first :: more) : Starts first ∧ headerName? first = none := by
  obtain ⟨tail, htail⟩ := exists_intercalate_cons '\n' more
  have hs : s = first ++ tail := by rw [← htail, ← hsplit, List.intercalate_splitOn]
  constructor
  · obtain ⟨d, hd, -⟩ := h.no_blank_line first (hsplit ▸ List.mem_cons_self)
    obtain ⟨c, rest, rfl⟩ := List.exists_cons_of_ne_nil (List.ne_nil_of_mem hd)
    have hhead : s.head? = some c := by rw [hs]; rfl
    refine ⟨c, rfl, h.start c hhead, ?_⟩
    rintro rfl
    exact h.no_comment hhead
  · cases hheader : headerName? first with
    | none => rfl
    | some parts =>
      obtain ⟨hfirst, hne, hname⟩ := headerName?_eq_some_iff.mp hheader
      exact absurd (by rw [hs, hfirst]; simp) (h.no_header parts.1 (parts.2 ++ tail) hne hname)

theorem joinBody_splitOn {s : List Char} (h : IsBody s) :
    joinBody (List.splitOn '\n' s) = String.ofList s := by
  have htrim : Trimmed s := ⟨h.start, fun c hc => h.stop c (by rwa [← List.head?_reverse])⟩
  rw [joinBody, List.intercalate_splitOn, htrim.trim]

theorem fence_infix_of_append_lf {s : List Char} (h : fence <:+: s ++ ['\n']) : fence <:+: s := by
  obtain ⟨before, after, h⟩ := h
  rcases List.eq_nil_or_concat after with rfl | ⟨rest, c, rfl⟩
  · have hlast := congrArg List.getLast? h
    rw [List.append_nil, List.getLast?_concat, List.getLast?_append] at hlast
    cases hlast
  · rw [List.concat_eq_append, ← List.append_assoc] at h
    exact ⟨before, rest, (List.append_inj' h rfl).1⟩

namespace Reading

variable (entries : List Entry) {lines : List Line}

theorem foldlM_definitions {definitions : List Definition}
    (hlines : lines.map Line.text = definitions.map fun d => "    ".toList ++ d.written)
    (h : ∀ d ∈ definitions, d.Writable) (name : String) (start : Nat) (before : List Definition) :
    ∃ read, lines.foldlM step ⟨entries, .environment name start before⟩ =
        .ok ⟨entries, .environment name start (before ++ read)⟩ ∧
      read.map Definition.bare = definitions.map Definition.bare := by
  induction definitions generalizing lines before with
  | nil =>
    rw [List.map_eq_nil_iff.mp hlines]
    exact ⟨[], by rw [List.append_nil]; rfl, rfl⟩
  | cons d definitions ih =>
    obtain ⟨line, more, rfl, hline, hmore⟩ := List.map_eq_cons_iff.mp hlines
    have hd : d.Writable := h d List.mem_cons_self
    have hskip : skipInline line.text = d.written := by
      rw [hline, skipInline_append (forall_mem_of_all rfl), hd.starts.skipInline]
    have hindented : line.isIndented = true := by
      rw [Line.isIndented, hline]
      rfl
    obtain ⟨d', hdefined, hbare⟩ := exists_definedOn_written hskip hd
    obtain ⟨read, hrest, hbares⟩ :=
      ih hmore (fun e he => h e (List.mem_cons_of_mem _ he)) (before ++ [d'])
    refine ⟨d' :: read, ?_, by rw [List.map_cons, List.map_cons, hbare, hbares]⟩
    rw [foldlM_cons_of_ok ((Steps.definition rfl hindented hdefined).step_eq), hrest,
      List.append_assoc]
    rfl

theorem foldlM_headers {headers : List Definition}
    (hlines : lines.map Line.text = headers.map Definition.written)
    (h : ∀ d ∈ headers, d.kind = .header ∧ d.Writable) (r : Request) :
    ∃ read span, lines.foldlM step ⟨entries, .request r⟩ =
        .ok ⟨entries, .request { r with headers := r.headers ++ read, span := span }⟩ ∧
      read.map Definition.bare = headers.map Definition.bare := by
  induction headers generalizing lines r with
  | nil =>
    rw [List.map_eq_nil_iff.mp hlines]
    exact ⟨[], r.span, by rw [List.append_nil]; rfl, rfl⟩
  | cons d headers ih =>
    obtain ⟨line, more, rfl, hline, hmore⟩ := List.map_eq_cons_iff.mp hlines
    obtain ⟨hkind, hd⟩ := h d List.mem_cons_self
    obtain ⟨d', hread, hbare⟩ := readHeader?_written hkind hd line
    have hskip : skipInline line.text = d.written := by rw [hline, hd.starts.skipInline]
    rw [← hskip] at hread
    obtain ⟨read, span, hrest, hbares⟩ := ih hmore (fun e he => h e (List.mem_cons_of_mem _ he))
      { r with headers := r.headers ++ [d'], span := ⟨r.span.start, d'.span.stop⟩ }
    refine ⟨d' :: read, span, ?_, by rw [List.map_cons, List.map_cons, hbare, hbares]⟩
    rw [foldlM_cons_of_ok ((Steps.header rfl hread).step_eq), hrest, List.append_assoc]
    rfl

theorem foldlM_body (h : ∀ line ∈ lines, line.isBlank = false) (r : Request)
    (before : List (List Char)) : ∃ span, lines.foldlM step ⟨entries, .body r before⟩ =
      .ok ⟨entries, .body { r with span := span } (before ++ lines.map Line.text)⟩ := by
  induction lines generalizing r before with
  | nil => exact ⟨r.span, by rw [List.map_nil, List.append_nil]; rfl⟩
  | cons line lines ih =>
    obtain ⟨span, hrest⟩ := ih (fun l hl => h l (List.mem_cons_of_mem _ hl))
      { r with span := ⟨r.span.start, trimmedStop line⟩ } (before ++ [line.text])
    refine ⟨span, ?_⟩
    rw [foldlM_cons_of_ok ((Steps.body rfl (h line List.mem_cons_self)).step_eq), extendBody,
      hrest, List.append_assoc]
    rfl

/-- The first line of a body can be taken for neither a comment nor a header. -/
theorem foldlM_splitOn_body {body : List Char} (h : IsBody body)
    (hlines : lines.map Line.text = List.splitOn '\n' body) (r : Request) :
    ∃ span, lines.foldlM step ⟨entries, .request r⟩ =
      .ok ⟨entries, .body { r with span := span } (List.splitOn '\n' body)⟩ := by
  obtain ⟨first, more, hsplit⟩ := List.exists_cons_of_ne_nil (List.splitOn_ne_nil '\n' body)
  obtain ⟨hstarts, hheader⟩ := first_of_isBody h hsplit
  rw [hsplit] at hlines
  obtain ⟨line, rest, rfl, hline, hrest⟩ := List.map_eq_cons_iff.mp hlines
  have hskip : skipInline line.text = first := by rw [hline, hstarts.skipInline]
  have hpassed := Starts.not_passed (hskip ▸ hstarts)
  have hnone : readHeader? line (skipInline line.text) = none := by
    rw [readHeader?, hskip, hheader, Option.map_none]
  have hblank : ∀ l ∈ rest, l.isBlank = false := by
    intro l hl
    have hmem : l.text ∈ List.splitOn '\n' body := by
      rw [hsplit, ← hrest]
      exact List.mem_cons_of_mem _ (List.mem_map_of_mem hl)
    obtain ⟨c, hc, hblank⟩ := h.no_blank_line l.text hmem
    exact List.all_eq_false.mpr ⟨c, hc, by simp [hblank]⟩
  obtain ⟨span, hbody⟩ := foldlM_body entries hblank
    { r with span := ⟨r.span.start, trimmedStop line⟩ } [line.text]
  refine ⟨span, ?_⟩
  rw [foldlM_cons_of_ok ((Steps.bodyBegins rfl hpassed hnone).step_eq), hsplit, ← hline, ← hrest]
  exact hbody

theorem foldlM_script (h : ∀ line ∈ lines, ¬fence <:+: line.text) (name : String) (start : Nat)
    (script : List Char) : lines.foldlM step ⟨entries, .processor name start script⟩ =
      .ok ⟨entries, .processor name start (script ++ lines.flatMap Line.contents)⟩ := by
  induction lines generalizing script with
  | nil =>
    rw [List.flatMap_nil, List.append_nil]
    rfl
  | cons line lines ih =>
    have hstep : step ⟨entries, .processor name start script⟩ line =
        .ok ⟨entries, .processor name start (script ++ line.text ++ line.ending.chars)⟩ :=
      (Steps.script rfl (.within (splitFence?_eq_none (h line List.mem_cons_self)))).step_eq
    rw [foldlM_cons_of_ok hstep, ih fun l hl => h l (List.mem_cons_of_mem _ hl),
      List.flatMap_cons, Line.contents]
    simp only [List.append_assoc]

end Reading

section Entries

variable (total : Nat)

theorem exists_readLines_definition {d : Definition} (h : d.Writable) : ∃ d',
    readLines total (Line.split d.written) = .ok [.definition d'] ∧ d'.bare = d.bare := by
  obtain ⟨line, hline, hsplit⟩ : ∃ line : Line, line.text = d.written ∧
      Line.split d.written = [line] := by
    refine ⟨⟨0, d.written, .none⟩, rfl, ?_⟩
    rw [Line.split, Line.divide_of_oneLine (oneLine_iff.mp h.oneLine)]
    rfl
  have hskip : skipInline line.text = d.written := by rw [hline, h.starts.skipInline]
  obtain ⟨d', hdefined, hbare⟩ := exists_definedOn_written hskip h
  have hstep : Reading.empty.step line = .ok (Reading.empty.push (.definition d')) :=
    Reading.begin_of_definedOn hdefined Reading.empty
  refine ⟨d', ?_, hbare⟩
  rw [readLines, hsplit, foldlM_cons_of_ok hstep]
  rfl

theorem exists_readLines_environment {e : Environment} (h : e.Writable) : ∃ e',
    readLines total (Line.split e.written) = .ok [.environment e'] ∧
      (Entry.environment e').bare = (Entry.environment e).bare := by
  have hopening : OneLine ('@' :: e.name.toList ++ [':']) := by
    simp only [List.cons_append, oneLine_cons, oneLine_append]
    exact ⟨by decide, h.name.oneLine, by decide, by simp [OneLine]⟩
  have hunder : ∀ y ∈ e.definitions.map fun d => "    ".toList ++ d.written, OneLine y := by
    intro y hy
    obtain ⟨d, hd, rfl⟩ := List.mem_map.mp hy
    exact oneLine_append.mpr ⟨by simp [OneLine], (h.definitions d hd).oneLine⟩
  obtain ⟨line, lines, hsplit, hline, hlines⟩ := exists_lines_of_intercalate hopening hunder
  have hskip : skipInline line.text = '@' :: e.name.toList ++ [':'] := by rw [hline]; rfl
  have hstep : Reading.empty.step line =
      .ok ⟨[], .environment e.name (line.offsetOf (skipInline line.text)) []⟩ := by
    have hhead : (skipInline line.text).head? = some '@' := by rw [hskip]; rfl
    rw [Reading.step, Reading.empty, Reading.begin_of_environment hhead]
    rw [show readEnvironment (skipInline line.text) = .ok e.name from
      hskip ▸ readEnvironment_written h.name]
    rfl
  obtain ⟨read, hread, hbares⟩ := Reading.foldlM_definitions [] hlines h.definitions e.name
    (line.offsetOf (skipInline line.text)) []
  have hne : read ≠ [] := by
    rintro rfl
    exact h.nonempty (List.map_eq_nil_iff.mp hbares.symm)
  refine ⟨⟨e.name, read, ⟨line.offsetOf (skipInline line.text), (read.getLast hne).span.stop⟩⟩, ?_, ?_⟩
  · rw [Environment.written, readLines, hsplit, foldlM_cons_of_ok hstep, hread]
    exact Reading.finish_environment hne [] e.name _ total
  · rw [Entry.bare, Entry.bare, hbares]

theorem exists_readLines_request {r : Request} (h : r.Writable) : ∃ r',
    readLines total (Line.split r.written) = .ok [.request r'] ∧
      (Entry.request r').bare = (Entry.request r).bare := by
  have hunder : ∀ y ∈ r.headers.map Definition.written ++ r.bodyLines, OneLine y := by
    intro y hy
    rcases List.mem_append.mp hy with hy | hy
    · obtain ⟨d, hd, rfl⟩ := List.mem_map.mp hy
      exact (h.headers d hd).2.oneLine
    · exact h.oneLine_bodyLines y hy
  obtain ⟨line, lines, hsplit, hline, hlines⟩ := exists_lines_of_intercalate h.oneLine hunder
  have hskip : skipInline line.text = r.opening := by rw [hline, r.starts_opening.skipInline]
  obtain ⟨opened, hopened⟩ := readRequest_written h line
  obtain ⟨headerLines, bodyLines, rfl, hheaders, hbody⟩ := List.map_eq_append_iff.mp hlines
  have hstep : Reading.empty.step line =
      .ok ⟨[], .request { r with body := none, headers := [], span := opened }⟩ :=
    Reading.begin_of_request (hskip ▸ hopened)
  obtain ⟨read, headed, hread, hbares⟩ := Reading.foldlM_headers [] hheaders h.headers
    { r with body := none, headers := [], span := opened }
  rw [Request.written, readLines, List.cons_append, hsplit, foldlM_cons_of_ok hstep,
    List.foldlM_append, hread]
  cases hr : r.body with
  | none =>
    rw [Request.bodyLines, hr] at hbody
    rw [List.map_eq_nil_iff.mp hbody]
    exact ⟨{ r with body := none, headers := read, span := headed }, rfl,
      by rw [Entry.bare, Entry.bare, hbares, hr]⟩
  | some body =>
    rw [Request.bodyLines, hr] at hbody
    obtain ⟨span, hread⟩ := Reading.foldlM_splitOn_body [] (h.body body hr) hbody
      { r with body := none, headers := read, span := headed }
    refine ⟨{ r with body := some body, headers := read, span := span }, ?_,
      by rw [Entry.bare, Entry.bare, hbares, hr]⟩
    refine bind_eq_ok_iff.mpr ⟨_, hread, ?_⟩
    rw [Reading.finish, Reading.close, Pending.entry?, joinBody_splitOn (h.body body hr),
      String.ofList_toList]
    · rfl

theorem exists_lines_of_processor {p : Processor} (h : p.Writable) : ∃ start ls stop,
    Line.split p.written =
        ⟨0, p.opening, .lf⟩ :: (Line.place start ls ++ [⟨stop, fence, .none⟩]) ∧
      Line.textOf ls = p.script.toList ++ ['\n'] := by
  have hwritten : p.written = p.opening ++ '\n' :: (p.script.toList ++ '\n' :: fence) := by
    rw [Processor.written, List.append_assoc, List.cons_append]
  have hfence : Line.divide fence = [(fence, .none)] := Line.divide_of_oneLine (forall_mem_of_all rfl)
  obtain ⟨ls, htext, hdivide⟩ := Line.exists_divide_append_lf p.script.toList
  let start := 0 + width p.opening + width LineBreak.lf.chars
  refine ⟨start, ls, start + width (Line.textOf ls), ?_, htext⟩
  rw [Line.split, hwritten, Line.divide_append_lf (oneLine_iff.mp h.oneLine), hdivide, hfence,
    Line.place, Line.place_append]
  rfl

theorem step_opening {p : Processor} (h : p.Writable) {line : Line} (hline : line.text = p.opening)
    (hending : line.ending = .lf) :
    Reading.empty.step line = .ok ⟨[], .processor p.name (line.offsetOf p.opening) ['\n']⟩ := by
  have hskip : skipInline line.text = p.opening := by rw [hline]; rfl
  have hopens : opensProcessor (skipInline line.text) = true := by rw [hskip]; rfl
  rw [Reading.step, Reading.empty, Reading.begin_of_processor hopens, hskip,
    readProcessor_written h.name]
  refine bind_eq_ok_iff.mpr ⟨(p.name, []), rfl, ?_⟩
  dsimp only
  rw [Reading.continueScript, splitFence?, hending]
  rfl

theorem step_fence {script : List Char} {value : String} (h : trim script = value.toList)
    (name : String) (start stop : Nat) :
    Reading.step ⟨[], .processor name start script⟩ ⟨stop, fence, .none⟩ =
      .ok ⟨[.processor ⟨name, value, ⟨start, Line.offsetOf ⟨stop, fence, .none⟩ []⟩⟩], .nothing⟩ := by
  have hfence : splitFence? fence = some ([], []) := rfl
  rw [Reading.step]
  dsimp only
  rw [Reading.continueScript, hfence]
  dsimp only
  rw [List.append_nil, h, String.ofList_toList]
  rfl

theorem exists_readLines_processor {p : Processor} (h : p.Writable) : ∃ span,
    readLines total (Line.split p.written) = .ok [.processor { p with span := span }] := by
  obtain ⟨start, ls, stop, hsplit, htext⟩ := exists_lines_of_processor h
  have hopening := step_opening h (rfl : Line.text ⟨0, p.opening, .lf⟩ = p.opening) rfl
  have hfence : ∀ line ∈ Line.place start ls, ¬fence <:+: line.text := by
    intro line hline hfence
    have hinfix := Line.infix_textOf_of_mem (Line.mem_of_mem_place hline)
    rw [htext] at hinfix
    exact h.no_fence (fence_infix_of_append_lf (hfence.trans hinfix))
  have hscript := Reading.foldlM_script [] hfence p.name
    (Line.offsetOf ⟨0, p.opening, .lf⟩ p.opening) ['\n']
  rw [Line.flatMap_contents_place, ← Line.textOf, htext] at hscript
  have htrim : trim (['\n'] ++ (p.script.toList ++ ['\n'])) = p.script.toList :=
    Trimmed.trim_append ⟨h.start, fun c hc => h.stop c (by rwa [← List.head?_reverse])⟩
      (forall_mem_of_all rfl) (forall_mem_of_all rfl)
  refine ⟨⟨Line.offsetOf ⟨0, p.opening, .lf⟩ p.opening, Line.offsetOf ⟨stop, fence, .none⟩ []⟩, ?_⟩
  rw [readLines, hsplit, foldlM_cons_of_ok hopening, List.foldlM_append, hscript]
  exact bind_eq_ok_iff.mpr ⟨_, step_fence htrim p.name _ stop, rfl⟩

theorem exists_readLines_written {e : Entry} (h : e.Writable) : ∃ e',
    readLines total (Line.split e.written) = .ok [e'] ∧ e'.bare = e.bare := by
  cases e with
  | definition d =>
    obtain ⟨d', hread, hbare⟩ := exists_readLines_definition total h
    exact ⟨.definition d', hread, congrArg Entry.definition hbare⟩
  | environment e =>
    obtain ⟨e', hread, hbare⟩ := exists_readLines_environment total h
    exact ⟨.environment e', hread, hbare⟩
  | request r =>
    obtain ⟨r', hread, hbare⟩ := exists_readLines_request total h
    exact ⟨.request r', hread, hbare⟩
  | processor p =>
    obtain ⟨span, hread⟩ := exists_readLines_processor total h
    exact ⟨_, hread, rfl⟩

end Entries

theorem readLines_blank (s : List Char) :
    readLines (width ('\n' :: s)) (Line.split ('\n' :: s)) =
      onBoth (List.map (·.shift 1)) (Fault.shift 1) (readLines (width s) (Line.split s)) := by
  have hsplit : Line.split ('\n' :: s) = ⟨0, [], .lf⟩ :: (Line.split s).map (Line.shift 1) := by
    rw [Line.split, Line.divide, Line.place, Line.place_eq_map_shift]
    rfl
  have hstep : Reading.empty.step ⟨0, [], .lf⟩ = .ok Reading.empty := rfl
  rw [readLines, hsplit, foldlM_cons_of_ok hstep, width_cons, utf8Size_lf, Nat.add_comm]
  exact readLines_moved 1 (width s) (Line.split s)

theorem continues_blank (s : List Char) :
    Reading.Continues (Line.split ('\n' :: s)) = Reading.Continues (Line.split s) := by
  rw [Line.split, Line.divide, Line.place, Reading.continues_cons_of_passed rfl,
    Line.place_eq_map_shift, Reading.continues_map_shift, Line.split]

theorem continues_of_starts {s : List Char} (h : Starts s) :
    Reading.Continues (Line.split s) = false := by
  obtain ⟨c, hc, hblank, hcomment⟩ := h
  obtain ⟨rest, rfl⟩ := List.head?_eq_some_iff.mp hc
  have hend : isLineEnd c = false := Bool.eq_false_iff.mpr fun hend =>
    Bool.eq_false_iff.mp hblank (isBlank_of_isLineEnd hend)
  rw [Line.split, Line.divide_cons hend]
  obtain ⟨l, ls, hrest⟩ := List.exists_cons_of_ne_nil (Line.divide_ne_nil rest)
  have hstarts : Starts (c :: l.1) := ⟨c, rfl, hblank, hcomment⟩
  rw [hrest, Line.glue, Line.place,
    Reading.continues_cons_of_not_passed (Starts.not_passed (hstarts.skipInline.symm ▸ hstarts))]
  exact Starts.isIndented hstarts

theorem readLines_blanks {s : List Char} {entries : List Entry}
    (h : readLines (width s) (Line.split s) = .ok entries) (n : Nat) : ∃ entries',
      readLines (width (List.replicate n '\n' ++ s)) (Line.split (List.replicate n '\n' ++ s)) =
        .ok entries' ∧ entries'.map Entry.bare = entries.map Entry.bare := by
  induction n with
  | zero => exact ⟨entries, h, rfl⟩
  | succ n ih =>
    obtain ⟨entries', hread, hbare⟩ := ih
    refine ⟨entries'.map (·.shift 1), ?_, ?_⟩
    · rw [List.replicate_succ, List.cons_append, readLines_blank, hread, onBoth_ok]
    · simpa [Entry.bare_shift, Function.comp_def] using hbare

theorem continues_blanks (s : List Char) (n : Nat) :
    Reading.Continues (Line.split (List.replicate n '\n' ++ s)) =
      Reading.Continues (Line.split s) := by
  induction n with
  | zero => rfl
  | succ n ih => rw [List.replicate_succ, List.cons_append, continues_blank, ih]

end Grammar

namespace Book

theorem toList_write_cons (n : Nat) (e e' : Entry) (entries : List Entry) :
    (write n (e :: e' :: entries)).toList =
      e.written ++ '\n' :: '\n' :: (List.replicate n '\n' ++ (write n (e' :: entries)).toList) := by
  simp [write, List.replicate_succ, List.intercalate_cons_cons]

theorem starts_write {e : Entry} (h : e.Writable) (n : Nat) (entries : List Entry) :
    Starts (write n (e :: entries)).toList := by
  cases entries with
  | nil =>
    simpa [write] using h.starts
  | cons e' entries =>
    rw [toList_write_cons]
    exact h.starts.append _

theorem exists_readLines_write {entries : List Entry} (h : ∀ e ∈ entries, e.Writable) (n : Nat) :
    ∃ entries', Grammar.readLines (width (write n entries).toList)
        (Line.split (write n entries).toList) = .ok entries' ∧
      entries'.map Entry.bare = entries.map Entry.bare := by
  induction entries with
  | nil => exact ⟨[], rfl, rfl⟩
  | cons e entries ih =>
    have he : e.Writable := h e List.mem_cons_self
    obtain ⟨rest, hrest, hbares⟩ := ih fun e' he' => h e' (List.mem_cons_of_mem _ he')
    cases entries with
    | nil =>
      obtain ⟨e', hread, hbare⟩ := Grammar.exists_readLines_written (width e.written) he
      have hwrite : (write n [e]).toList = e.written := by simp [write]
      exact ⟨[e'], by rw [hwrite, hread], by rw [List.map_singleton, hbare, List.map_singleton]⟩
    | cons next entries =>
      obtain ⟨e', hread, hbare⟩ := Grammar.exists_readLines_written (width e.written) he
      obtain ⟨later, hlater, hlaters⟩ := Grammar.readLines_blanks hrest n
      have hnext : next.Writable := h next (List.mem_cons_of_mem _ List.mem_cons_self)
      have hapart : Grammar.Reading.Continues (Line.split (List.replicate n '\n' ++
          (write n (next :: entries)).toList)) = false := by
        rw [Grammar.continues_blanks, Grammar.continues_of_starts (starts_write hnext n entries)]
      refine ⟨e' :: later.map (·.shift (width e.written + 2)), ?_, ?_⟩
      · rw [toList_write_cons, Grammar.readLines_append hread (.inr hapart), hlater]
        rfl
      · rw [List.map_cons, List.map_cons, hbare, ← hbares, ← hlaters]
        simp [Entry.bare_shift, Function.comp_def]

/-- Entries that can be written are read back as they are, whatever their number and the blank lines
between them. -/
theorem parse_write {entries : List Entry} (h : ∀ e ∈ entries, e.Writable) (n : Nat) :
    ∃ book, parse (write n entries) = .ok book ∧
      book.entries.map Entry.bare = entries.map Entry.bare := by
  obtain ⟨entries', hread, hbares⟩ := exists_readLines_write h n
  exact ⟨⟨write n entries, entries'⟩, by rw [parse, hread], hbares⟩

/-- A header with the name of a method, the least integer, a path that is a bar, a body with the
signs of a comment and a header inside, and a script with two ticks. -/
def fiveEntries : List Entry :=
  [.definition ⟨.header, "GET", .text "\"#", ⟨0, 0⟩⟩,
    .environment ⟨"a", [⟨.variable, "n", .integer (-9223372036854775808), ⟨0, 0⟩⟩,
      ⟨.header, "PROCESSOR", .text "", ⟨0, 0⟩⟩], ⟨0, 0⟩⟩,
    .request ⟨.get, "|", some "[\n #:", some "p", [⟨.header, "A", .text "b", ⟨0, 0⟩⟩], ⟨0, 0⟩⟩,
    .processor ⟨"p", "``\nr", ⟨0, 0⟩⟩,
    .definition ⟨.variable, "q", .text "\"\\#", ⟨0, 0⟩⟩]

example : write 0 fiveEntries =
    "GET: \"#\n\n@a:\n    $n = -9223372036854775808\n    PROCESSOR: \n\n" ++
      "GET | | p\nA: b\n[\n #:\n\nPROCESSOR p ```\n``\nr\n```\n\n$q = \"\\\"\\\\#\"" := by
  decide +kernel

theorem writable_of_mem_fiveEntries : ∀ e ∈ fiveEntries, e.Writable := by
  simp only [fiveEntries, List.forall_mem_cons]
  refine ⟨?header, ?environment, ?request, ?processor, ?text, nofun⟩
  case header =>
    exact ⟨by decide, "\"#", rfl, by decide, by rintro c ⟨⟩; decide, by rintro c ⟨⟩; decide⟩
  case environment =>
    refine ⟨by decide, List.cons_ne_nil _ _, ?_⟩
    simp only [List.forall_mem_cons]
    exact ⟨⟨by decide, by decide, by decide⟩, ⟨by decide, "", rfl, by decide, nofun, nofun⟩, nofun⟩
  case request =>
    refine ⟨by decide, forall_mem_of_all rfl, by rintro name ⟨⟩; decide, ?_, ?_⟩
    · simp only [List.forall_mem_cons]
      exact ⟨⟨trivial, by decide, "b", rfl, by decide, by rintro c ⟨⟩; decide,
        by rintro c ⟨⟩; decide⟩, nofun⟩
    · rintro body ⟨⟩
      refine ⟨by decide, by rintro c ⟨⟩; decide, by rintro c ⟨⟩; decide, by decide, ?_, by decide,
        ?_⟩
      · have hlines : List.splitOn '\n' "[\n #:".toList = [['['], [' ', '#', ':']] := by decide
        rw [hlines]
        simp only [List.forall_mem_cons]
        exact ⟨⟨'[', by decide, by decide⟩, ⟨'#', by decide, by decide⟩, nofun⟩
      · intro name rest hne hname hs
        have hnone : Grammar.headerName? "[\n #:".toList = none := by decide
        rw [Grammar.headerName?_eq_some_iff.mpr ⟨hs, hne, hname⟩] at hnone
        cases hnone
  case processor =>
    exact ⟨by decide, by rintro c ⟨⟩; decide, by rintro c ⟨⟩; decide, by decide⟩
  case text =>
    have hvalue : OneLine "\"\\#".toList := by decide
    exact ⟨by decide, hvalue⟩

theorem parse_write_fiveEntries : (∀ e ∈ fiveEntries, e.Writable) ∧
    ∃ book, parse (write 1 fiveEntries) = .ok book ∧
      book.entries.map Entry.bare = fiveEntries.map Entry.bare :=
  ⟨writable_of_mem_fiveEntries, parse_write writable_of_mem_fiveEntries 1⟩

end Book

end RequestBook
