import RequestBook.Proofs.Grammar.Anatomy
import RequestBook.Proofs.Grammar.Written

/-!
The shape of what has been read. Names, values, paths and scripts are texts that could also be written,
and a body is what the lines below the headers of its request make when they are joined and trimmed.
Main statement: every entry of a book that has been read has this shape.
-/

namespace RequestBook

open RequestBook.Text

/-- The text of a body that has been read. Unlike one that can be written it may begin as a comment or
a header does, behind blanks that are gone. -/
structure IsReadBody (s : List Char) : Prop where
  nonempty : s ≠ []
  no_return : '\r' ∉ s
  trimmed : Trimmed s
  no_blank_line : ∀ line ∈ List.splitOn '\n' s, ∃ c ∈ line, isBlank c = false

def Line.isHead (line : Line) : Bool :=
  line.isComment || (Grammar.headerName? (skipInline line.text)).isSome

/-- The lines of a body among those below the opening line of a request: the first that is neither a
header nor a comment, and what follows it up to a blank line. -/
def Line.bodyRows (below : List Line) : List Line :=
  (below.dropWhile isHead).takeWhile fun line => !line.isBlank

def Request.rows (lines : Lines) (r : Request) : List Line :=
  Line.bodyRows (lines.drop (lines.lineOf r.span.start))

structure Request.IsHeaded (r : Request) : Prop where
  path_nonempty : r.path ≠ ""
  path : ∀ c ∈ r.path.toList, isBlank c = false
  processor : ∀ name, r.processor = some name → IsName name
  headers : ∀ d ∈ r.headers, d.kind = .header ∧ d.Writable

structure Request.IsShaped (lines : Lines) (r : Request) : Prop where
  headed : r.IsHeaded
  body : ∀ text, r.body = some text → IsReadBody text.toList
  body_eq : r.body = Grammar.bodyOf (r.rows lines)

def Entry.IsShaped (lines : Lines) : Entry → Prop
  | .definition d => d.Writable
  | .environment e => e.Writable
  | .request r => r.IsShaped lines
  | .processor p => p.Writable

theorem OneLine.sublist {s t : List Char} (h : OneLine s) (ht : t.Sublist s) : OneLine t :=
  ⟨fun hlf => h.1 (ht.subset hlf), fun hcr => h.2 (ht.subset hcr)⟩

theorem OneLine.skipInline {s : List Char} (h : OneLine s) : OneLine (skipInline s) :=
  h.sublist (List.dropWhile_sublist _)

theorem isReadBody_of_rows {rows : List (List Char)} (hne : rows ≠ [])
    (h : ∀ s ∈ rows, OneLine s ∧ ∃ c ∈ s, isBlank c = false) :
    IsReadBody (trim (['\n'].intercalate rows)) := by
  have hrows : ∀ s ∈ List.splitOn '\n' (trim (['\n'].intercalate rows)), IsRow s :=
    isRow_of_mem_splitOn_trim hne fun s hs => ⟨(h s hs).1.1, (h s hs).2⟩
  refine ⟨fun hnil => ?_, fun hcr => ?_, trimmed_trim _, fun s hs => (hrows s hs).visible⟩
  · obtain ⟨c, hc, -⟩ := (hrows [] (by rw [hnil]; exact List.mem_cons_self)).visible
    cases hc
  · obtain ⟨lead, rest, hpads, -⟩ := pads_trim (['\n'].intercalate rows)
    have hmem : '\r' ∈ ['\n'].intercalate rows := by
      rw [hpads]
      exact List.mem_append_right _ (List.mem_append_left _ hcr)
    obtain ⟨s, hs, hreturn⟩ := mem_of_mem_intercalate hmem (by decide)
    exact (h s hs).1.2 hreturn

namespace Grammar

variable {line : Line} {s rest before after : List Char} {name : String}

theorem mem_escapeQuoted {value : List Char} {c : Char} (h : c ∈ value) : c ∈ escapeQuoted value := by
  induction value with
  | nil => cases h
  | cons d value ih =>
    rw [escapeQuoted]
    rcases List.mem_cons.mp h with rfl | h
    · split <;> simp
    · split <;> simp [ih h]

theorem writable_of_readValue {v : Value} (hs : OneLine s) (h : readValue s = .ok (v, rest)) :
    v.Writable := by
  unfold readValue at h
  split at h
  · obtain ⟨⟨value, left⟩, hread, heq⟩ := map_eq_ok_iff.mp h
    cases heq
    rw [readQuoted_eq_ok_iff.mp hread] at hs
    have hvalue : OneLine (escapeQuoted value) := (oneLine_append.mp (oneLine_cons.mp hs).2).1
    rw [Value.Writable, String.toList_ofList]
    exact ⟨fun hlf => hvalue.1 (mem_escapeQuoted hlf), fun hcr => hvalue.2 (mem_escapeQuoted hcr)⟩
  · split at h
    · obtain ⟨⟨n, left⟩, hread, heq⟩ := map_eq_ok_iff.mp h
      cases heq
      obtain ⟨_, _, -, -, -, -, hrange⟩ := exists_of_readInteger hread
      simpa [Value.Writable, inRange] using hrange
    · cases h
  · cases h

theorem writable_of_readVariable {d : Definition} (hs : OneLine s)
    (h : readVariable line s = .ok d) : d.Writable := by
  rw [readVariable] at h
  obtain ⟨⟨name, afterName⟩, hname, h⟩ := bind_eq_ok_iff.mp h
  obtain ⟨afterSign, hsign, h⟩ := bind_eq_ok_iff.mp h
  obtain ⟨⟨value, afterValue⟩, hvalue, h⟩ := bind_eq_ok_iff.mp h
  obtain ⟨_, -, h⟩ := bind_eq_ok_iff.mp h
  cases h
  obtain ⟨hdrop, hname, -⟩ := readName_eq_ok_iff.mp hname
  have hafterName : OneLine afterName := by
    have hrest := hs.sublist (List.drop_sublist 1 s)
    rw [hdrop] at hrest
    exact (oneLine_append.mp hrest).2
  have hafterSign : OneLine afterSign := by
    have hskip := hafterName.skipInline
    rw [readChar_eq_ok_iff.mp hsign] at hskip
    exact (oneLine_cons.mp hskip).2
  exact ⟨hname, writable_of_readValue hafterSign.skipInline hvalue⟩

theorem isHeaderText_of_rest (h : OneLine rest) : IsHeaderText (trimEnd (skipInline rest)) where
  oneLine := by
    obtain ⟨blanks, htrim, -⟩ := trimEnd_append_blanks (skipInline rest)
    exact (oneLine_append.mp (htrim ▸ h.skipInline)).1
  start := by
    obtain ⟨blanks, htrim, -⟩ := trimEnd_append_blanks (skipInline rest)
    have hstops : Stops isInline (trimEnd (skipInline rest) ++ blanks) :=
      htrim ▸ stops_dropWhile isInline rest
    intro c hc
    have hinline := hstops.left c hc
    rwa [isInline, Bool.or_eq_false_iff, beq_eq_false_iff_ne, beq_eq_false_iff_ne] at hinline
  stop := by
    intro c hc
    exact stops_reverse_trimEnd (skipInline rest) c (by rwa [List.head?_reverse])

theorem writable_of_readHeader? {d : Definition} (hs : OneLine s) (h : readHeader? line s = some d) :
    d.kind = .header ∧ d.Writable := by
  obtain ⟨⟨name, rest⟩, hheader, rfl⟩ := Option.map_eq_some_iff.mp h
  obtain ⟨rfl, hne, hname⟩ := headerName?_eq_some_iff.mp hheader
  have hrest : OneLine rest := (oneLine_cons.mp (oneLine_append.mp hs).2).2
  refine ⟨rfl, ⟨by simpa using hne, by simpa using hname⟩, _, rfl, ?_⟩
  rw [String.toList_ofList]
  exact isHeaderText_of_rest hrest

theorem writable_of_definedOn {d : Definition} (hline : OneLine line.text) (h : DefinedOn line d) :
    d.Writable := by
  cases h with
  | dollar _ hread => exact writable_of_readVariable hline.skipInline hread
  | header hread => exact (writable_of_readHeader? hline.skipInline hread).2

theorem isName_of_readEnvironment (h : readEnvironment s = .ok name) : IsName name := by
  obtain ⟨⟨name, rest⟩, hname, h⟩ := bind_eq_ok_iff.mp h
  obtain ⟨rest', -, h⟩ := bind_eq_ok_iff.mp h
  obtain ⟨_, -, h⟩ := bind_eq_ok_iff.mp h
  cases h
  exact (readName_eq_ok_iff.mp hname).2.1

theorem isHeaded_of_readRequest {r : Request} (h : readRequest line s = .ok r) : r.IsHeaded := by
  obtain ⟨c, after, afterPath, left, -, -, hpath, hbinding, -, -, hheaders, -⟩ :=
    exists_of_readRequest h
  obtain ⟨-, hne, hchars, -⟩ := readPath_eq_ok_iff.mp hpath
  refine ⟨hne, hchars, fun name hname => ?_, fun d hd => ?_⟩
  · rcases exists_of_readBinding hbinding with ⟨hnone, -⟩ | ⟨_, _, name', hsome, hisName, -⟩
    · rw [hnone] at hname
      cases hname
    · rw [hsome] at hname
      cases hname
      exact hisName
  · rw [hheaders] at hd
    cases hd

theorem isName_of_readProcessor (h : readProcessor s = .ok (name, rest)) : IsName name := by
  obtain ⟨⟨name, afterName⟩, hname, h⟩ := bind_eq_ok_iff.mp h
  dsimp only at h
  split at h <;> cases h
  exact (readName_eq_ok_iff.mp hname).2.1

theorem not_infix_of_splitFence?_eq_none (h : splitFence? s = none) : ¬fence <:+: s := by
  fun_induction splitFence? s with
  | case1 => cases h
  | case2 c rest hfence ih =>
    rw [List.infix_cons_iff, not_or]
    refine ⟨?_, ih (Option.map_eq_none_iff.mp h)⟩
    rintro ⟨more, hmore⟩
    cases hmore
    exact hfence more rfl rfl
  | case3 => decide

theorem not_infix_of_splitFence? (h : splitFence? s = some (before, after)) :
    ¬fence <:+: before := by
  fun_induction splitFence? s generalizing before with
  | case1 =>
    cases h
    decide
  | case2 c rest hfence ih =>
    obtain ⟨⟨part, left⟩, hsplit, heq⟩ := Option.map_eq_some_iff.mp h
    cases heq
    rw [List.infix_cons_iff, not_or]
    refine ⟨?_, ih hsplit⟩
    rintro ⟨more, hmore⟩
    cases hmore
    exact hfence _ rfl (splitFence?_cut hsplit).1
  | case3 => cases h

theorem not_infix_append {script : List Char} (hscript : ¬fence <:+: script)
    (hstops : Stops (· == '`') script.reverse) (hs : ¬fence <:+: s) : ¬fence <:+: script ++ s := by
  rw [List.infix_append_iff_ne_nil]
  rintro (h | h | ⟨t, t', hne, -, hfence, ht, -⟩)
  · exact hscript h
  · exact hs h
  · have hlast := List.getLast?_eq_some_getLast hne
    have hmem : t.getLast hne ∈ fence := hfence ▸ List.mem_append_left t' (List.getLast_mem hne)
    have hquote : t.getLast hne = '`' := by simpa [fence] using hmem
    obtain ⟨lead, rfl⟩ := ht
    have hstop := hstops (t.getLast hne) (by rw [List.head?_reverse, List.getLast?_append, hlast]; rfl)
    simp [hquote] at hstop

theorem not_infix_append_ending (h : ¬fence <:+: s) (ending : LineBreak) :
    ¬fence <:+: s ++ ending.chars := by
  rw [List.infix_append_iff_ne_nil]
  rintro (hs | hending | ⟨t, t', -, hne, hfence, -, ht'⟩)
  · exact h hs
  · cases ending <;> revert hending <;> decide
  · obtain ⟨c, more, rfl⟩ := List.exists_cons_of_ne_nil hne
    have hmem : c ∈ fence := hfence ▸ List.mem_append_right t List.mem_cons_self
    have hquote : c = '`' := by simpa [fence] using hmem
    have hchars : c ∈ ending.chars := ht'.subset List.mem_cons_self
    subst hquote
    cases ending <;> revert hchars <;> decide

theorem stops_ending {ending : LineBreak} (s : List Char) (h : ending ≠ .none) :
    Stops (· == '`') (s ++ ending.chars).reverse := by
  cases ending <;> simp_all [stops_cons]

theorem infix_of_infix_trim (h : fence <:+: trim s) : fence <:+: s := by
  obtain ⟨lead, rest, hs, -⟩ := pads_trim s
  exact h.trans ⟨lead, rest, by rw [List.append_assoc, ← hs]⟩

theorem writable_of_script {script : List Char} {start stop : Nat} (hname : IsName name)
    (hscript : ¬fence <:+: script) :
    (⟨name, String.ofList (trim script), ⟨start, stop⟩⟩ : Processor).Writable where
  name := hname
  start := by
    rw [String.toList_ofList]
    exact (trimmed_trim script).start
  stop := by
    rw [String.toList_ofList]
    intro c hc
    exact (trimmed_trim script).stop c (by rwa [List.head?_reverse])
  no_fence := by
    rw [String.toList_ofList]
    exact fun h => hscript (infix_of_infix_trim h)

def BeginBody (rows : List Line) : Prop :=
  ∀ line, rows.head? = some line → line.isHead = false

theorem beginBody_nil : BeginBody [] := by
  intro line hline
  cases hline

def EndBody (rest : List Line) : Prop :=
  ∀ line, rest.head? = some line → line.isBlank = true

theorem isHead_of_isBlank (h : line.isBlank = true) : line.isHead = false := by
  have hstart : ∀ c, (skipInline line.text).head? = some c → isBlank c = true := fun c hc =>
    List.all_eq_true.mp h c ((List.dropWhile_sublist _).subset (List.mem_of_head? hc))
  have hcomment : line.isComment = false := by
    rw [Line.isComment, beq_eq_false_iff_ne]
    intro hc
    cases hstart '#' hc
  have hheader : headerName? (skipInline line.text) = none := by
    rw [Option.eq_none_iff_forall_ne_some]
    rintro ⟨name, rest⟩ hheader
    obtain ⟨hskip, hne, hname⟩ := headerName?_eq_some_iff.mp hheader
    obtain ⟨c, name, rfl⟩ := List.exists_cons_of_ne_nil hne
    have hblank := hstart c (by rw [hskip]; rfl)
    rw [isBlank_of_isNameChar (hname c List.mem_cons_self)] at hblank
    cases hblank
  rw [Line.isHead, hcomment, hheader]
  rfl

theorem bodyRows_eq {heads rows rest : List Line} (hheads : ∀ l ∈ heads, l.isHead = true)
    (hbegin : BeginBody rows) (hrows : ∀ l ∈ rows, l.isBlank = false) (hend : EndBody rest) :
    Line.bodyRows (heads ++ (rows ++ rest)) = rows := by
  have hfirst : (rows ++ rest).dropWhile Line.isHead = rows ++ rest := by
    cases rows with
    | cons row rows => exact List.dropWhile_cons_of_neg (by simp [hbegin row rfl])
    | nil =>
      cases rest with
      | nil => rfl
      | cons line rest =>
        exact List.dropWhile_cons_of_neg (by simp [isHead_of_isBlank (hend line rfl)])
  have hlast : rest.takeWhile (fun line => !line.isBlank) = [] := by
    cases rest with
    | nil => rfl
    | cons line rest => exact List.takeWhile_cons_of_neg (by simp [hend line rfl])
  rw [Line.bodyRows, List.dropWhile_append_of_pos hheads, hfirst,
    List.takeWhile_append_of_pos (by simpa using hrows), hlast, List.append_nil]

structure StartsOn (first : Line) (r : Request) : Prop where
  start_le : first.start ≤ r.span.start
  le_stop : r.span.start ≤ first.stop
  headed : r.IsHeaded

theorem startsOn_of_readRequest {r : Request} (h : readRequest line (skipInline line.text) = .ok r) :
    StartsOn line r where
  start_le := (span_of_readRequest h).1 ▸ line.start_le_offsetOf _
  le_stop := (span_of_readRequest h).1 ▸ line.offsetOf_le_stop _
  headed := isHeaded_of_readRequest h

theorem StartsOn.header {first : Line} {r : Request} {d : Definition} (h : StartsOn first r)
    (hd : d.kind = .header ∧ d.Writable) (stop : Nat) :
    StartsOn first { r with headers := r.headers ++ [d], span := ⟨r.span.start, stop⟩ } where
  start_le := h.start_le
  le_stop := h.le_stop
  headed := by
    refine ⟨h.headed.path_nonempty, h.headed.path, h.headed.processor, fun d' hd' => ?_⟩
    rcases List.mem_append.mp hd' with hd' | hd'
    · exact h.headed.headers d' hd'
    · exact List.mem_singleton.mp hd' ▸ hd

theorem StartsOn.body {first : Line} {r : Request} (h : StartsOn first r) (body : Option String)
    (stop : Nat) : StartsOn first { r with body := body, span := ⟨r.span.start, stop⟩ } where
  start_le := h.start_le
  le_stop := h.le_stop
  headed := ⟨h.headed.path_nonempty, h.headed.path, h.headed.processor, h.headed.headers⟩

inductive ShapedOn (lines : List Line) : Entry → Prop
  | definition {d} : d.Writable → ShapedOn lines (.definition d)
  | environment {e} : e.Writable → ShapedOn lines (.environment e)
  | request {before first below r} : lines = before ++ first :: below → StartsOn first r →
      r.body = bodyOf (Line.bodyRows below) → ShapedOn lines (.request r)
  | processor {p} : p.Writable → ShapedOn lines (.processor p)

/-- What is open becomes an entry of this shape. A fence can only be missing from the script so far,
which ends where a line does unless the text ends there. -/
inductive Pending.ShapedOn (lines : List Line) : Pending → Prop
  | nothing : ShapedOn lines .nothing
  | environment {name start definitions} : IsName name → (∀ d ∈ definitions, d.Writable) →
      ShapedOn lines (.environment name start definitions)
  | request {before first heads r} : lines = before ++ first :: heads → StartsOn first r →
      r.body = none → (∀ l ∈ heads, l.isHead = true) → ShapedOn lines (.request r)
  | body {before first heads rows r texts} : lines = before ++ first :: (heads ++ rows) →
      StartsOn first r → (∀ l ∈ heads, l.isHead = true) → BeginBody rows → rows ≠ [] →
      (∀ l ∈ rows, l.isBlank = false) → rows.map Line.text = texts → ShapedOn lines (.body r texts)
  | processor {name start script} : IsName name → ¬fence <:+: script →
      (Stops (· == '`') script.reverse ∨ ∃ line ∈ lines, line.ending = .none) →
      ShapedOn lines (.processor name start script)

structure Shapes (lines : List Line) (reading : Reading) : Prop where
  entries : ∀ e ∈ reading.entries, ∀ more, ShapedOn (lines ++ more) e
  pending : reading.pending.ShapedOn lines

variable {lines : List Line} {reading reading' : Reading}

namespace Pending.ShapedOn

variable {r : Request}

theorem pass {pending : Pending} (h : pending.ShapedOn lines)
    (hpasses : Reading.Passes line pending) : pending.ShapedOn (lines ++ [line]) := by
  cases h with
  | nothing => exact .nothing
  | environment hname hdefinitions => exact .environment hname hdefinitions
  | @request before first heads r hlines hstarts hbody hheads =>
    cases hpasses with
    | request _ hcomment =>
      have hall : lines ++ [line] = before ++ first :: (heads ++ [line]) := by simp [hlines]
      refine .request hall hstarts hbody fun l hl => ?_
      rcases List.mem_append.mp hl with hl | hl
      · exact hheads l hl
      · simp [List.mem_singleton.mp hl, Line.isHead, hcomment]
  | body | processor => cases hpasses

theorem definition {start : Nat} {definitions : List Definition} {d : Definition}
    (h : Pending.ShapedOn lines (.environment name start definitions)) (hd : d.Writable) :
    Pending.ShapedOn (lines ++ [line]) (.environment name start (definitions ++ [d])) := by
  cases h with
  | environment hname hdefinitions =>
    refine .environment hname fun d' hd' => ?_
    rcases List.mem_append.mp hd' with hd' | hd'
    · exact hdefinitions d' hd'
    · exact List.mem_singleton.mp hd' ▸ hd

theorem header {d : Definition} (h : Pending.ShapedOn lines (.request r)) (hone : OneLine line.text)
    (hd : ReadsHeader line (Text.skipInline line.text) d) :
    Pending.ShapedOn (lines ++ [line]) (.request
      { r with headers := r.headers ++ [d], span := ⟨r.span.start, d.span.stop⟩ }) := by
  cases h with
  | @request before first heads r hlines hstarts hbody hheads =>
    have hall : lines ++ [line] = before ++ first :: (heads ++ [line]) := by simp [hlines]
    obtain ⟨parts, hheader, -⟩ := Option.map_eq_some_iff.mp hd
    refine .request hall (hstarts.header (writable_of_readHeader? hone.skipInline hd) _) hbody ?_
    intro l hl
    rcases List.mem_append.mp hl with hl | hl
    · exact hheads l hl
    · simp [List.mem_singleton.mp hl, Line.isHead, hheader]

theorem bodyBegins (h : Pending.ShapedOn lines (.request r))
    (hline : (line.isBlank || line.isComment) = false)
    (hnone : readHeader? line (Text.skipInline line.text) = none) :
    Pending.ShapedOn (lines ++ [line])
      (.body { r with span := ⟨r.span.start, Reading.trimmedStop line⟩ } [line.text]) := by
  obtain ⟨hblank, hcomment⟩ := Bool.or_eq_false_iff.mp hline
  cases h with
  | @request before first heads r hlines hstarts hbody hheads =>
    have hall : lines ++ [line] = before ++ first :: (heads ++ [line]) := by simp [hlines]
    have hbegin : BeginBody [line] := by
      intro l hl
      cases hl
      simp [Line.isHead, hcomment, Option.map_eq_none_iff.mp hnone]
    exact .body hall (hstarts.body _ _) hheads hbegin (List.cons_ne_nil _ _) (by simpa using hblank) rfl

theorem body_concat {texts : List (List Char)} (h : Pending.ShapedOn lines (.body r texts))
    (hblank : line.isBlank = false) : Pending.ShapedOn (lines ++ [line])
      (.body { r with span := ⟨r.span.start, Reading.trimmedStop line⟩ } (texts ++ [line.text])) := by
  cases h with
  | @body before first heads rows r texts hlines hstarts hheads hbegin hne hrows htexts =>
    have hall : lines ++ [line] = before ++ first :: (heads ++ (rows ++ [line])) := by simp [hlines]
    have hbegin' : BeginBody (rows ++ [line]) := by
      obtain ⟨row, more, rfl⟩ := List.exists_cons_of_ne_nil hne
      exact hbegin
    have hrows' : ∀ l ∈ rows ++ [line], l.isBlank = false := by
      intro l hl
      rcases List.mem_append.mp hl with hl | hl
      · exact hrows l hl
      · exact List.mem_singleton.mp hl ▸ hblank
    exact .body hall (hstarts.body _ _) hheads hbegin' (by simp) hrows' (by simp [htexts])

theorem shapedOn {pending : Pending} {e : Entry} (h : pending.ShapedOn lines)
    (he : pending.entry? = some e) {rest : List Line} (hrest : EndBody rest) :
    Grammar.ShapedOn (lines ++ rest) e := by
  cases h with
  | nothing | processor => cases he
  | @environment name start definitions hname hdefinitions =>
    obtain ⟨last, hlast, rfl⟩ := Option.map_eq_some_iff.mp he
    exact .environment ⟨hname, List.ne_nil_of_mem (List.mem_of_getLast? hlast), hdefinitions⟩
  | @request before first heads r hlines hstarts hbody hheads =>
    cases he
    have hall : lines ++ rest = before ++ first :: (heads ++ ([] ++ rest)) := by simp [hlines]
    refine .request hall hstarts ?_
    rw [bodyRows_eq hheads beginBody_nil (List.forall_mem_nil _) hrest, hbody]
    rfl
  | @body before first heads rows r texts hlines hstarts hheads hbegin hne hrows htexts =>
    cases he
    have hall : lines ++ rest = before ++ first :: (heads ++ (rows ++ rest)) := by simp [hlines]
    refine .request hall (hstarts.body _ _) ?_
    rw [bodyRows_eq hheads hbegin hrows hrest, bodyOf, htexts]
    simp [hne]

end Pending.ShapedOn

namespace Reading

theorem shapes_push {e : Entry} (h : ∀ e ∈ reading.entries, ∀ more, ShapedOn (lines ++ more) e)
    (he : ∀ more, ShapedOn (lines ++ more) e) : Shapes lines (reading.push e) where
  entries := by
    intro e' he'
    rcases List.mem_append.mp he' with he' | he'
    · exact h e' he'
    · exact List.mem_singleton.mp he' ▸ he
  pending := .nothing

theorem shapes_close (h : Shapes lines reading) (hblank : line.isBlank = true) :
    Shapes (lines ++ [line]) reading.close where
  entries := by
    intro e he more
    rw [List.append_assoc]
    rcases List.mem_append.mp he with he | he
    · exact h.entries e he _
    · refine h.pending.shapedOn (Option.mem_toList.mp he) fun l hl => ?_
      cases hl
      exact hblank
  pending := .nothing

theorem shapes_of_goesOn {start : Nat} {script : List Char} (hname : IsName name)
    (h : ∀ e ∈ reading.entries, ∀ more, ShapedOn (lines ++ more) e) (hline : line ∈ lines)
    (hscript : ¬fence <:+: script) (hstops : Stops (· == '`') script.reverse)
    (hgoes : GoesOn reading name start script line rest reading') : Shapes lines reading' := by
  cases hgoes with
  | ended hfence _ =>
    have hwhole := not_infix_append hscript hstops (not_infix_of_splitFence? hfence)
    exact shapes_push h fun _ => .processor (writable_of_script hname hwhole)
  | within hfence =>
    have hwhole := not_infix_append hscript hstops (not_infix_of_splitFence?_eq_none hfence)
    refine ⟨h, .processor hname (not_infix_append_ending hwhole line.ending) ?_⟩
    by_cases hending : line.ending = .none
    · exact .inr ⟨line, hline, hending⟩
    · exact .inl (stops_ending _ hending)

theorem shapes_of_opens (h : ∀ e ∈ reading.entries, ∀ more, ShapedOn (lines ++ [line] ++ more) e)
    (hone : OneLine line.text) (hopens : Opens reading line reading') :
    Shapes (lines ++ [line]) reading' := by
  cases hopens with
  | definition hd => exact shapes_push h fun _ => .definition (writable_of_definedOn hone hd)
  | environment _ hname =>
    exact ⟨h, .environment (isName_of_readEnvironment hname) (List.forall_mem_nil _)⟩
  | request hr =>
    obtain ⟨-, -, -, -, -, -, -, -, -, hbody, -, -⟩ := exists_of_readRequest hr
    exact ⟨h, .request rfl (startsOn_of_readRequest hr) hbody (List.forall_mem_nil _)⟩
  | processor _ hname hscript =>
    have hline : line ∈ lines ++ [line] := List.mem_append_right _ List.mem_cons_self
    have hnil : ¬fence <:+: [] := by decide
    exact shapes_of_goesOn (isName_of_readProcessor hname) h hline hnil stops_nil hscript

theorem shapedOn_of_mem_close {start : Nat} {definitions : List Definition}
    (hpending : reading.pending = .environment name start definitions)
    (h : reading.pending.ShapedOn lines) {e : Entry} (he : e ∈ reading.pending.entry?.toList)
    (all : List Line) : ShapedOn all e := by
  rw [hpending] at h he
  cases h with
  | environment hname hdefinitions =>
    obtain ⟨last, hlast, rfl⟩ := Option.map_eq_some_iff.mp (Option.mem_toList.mp he)
    exact .environment ⟨hname, List.ne_nil_of_mem (List.mem_of_getLast? hlast), hdefinitions⟩

theorem shapes_step (h : Shapes lines reading) (hone : OneLine line.text)
    (hends : ∀ l ∈ lines, l.ending ≠ .none) (hsteps : Steps reading line reading') :
    Shapes (lines ++ [line]) reading' := by
  have hentries : ∀ e ∈ reading.entries, ∀ more, ShapedOn (lines ++ [line] ++ more) e := by
    intro e he more
    rw [List.append_assoc]
    exact h.entries e he _
  cases hsteps with
  | passed hpasses => exact ⟨hentries, h.pending.pass hpasses⟩
  | opened _ hopens => exact shapes_of_opens hentries hone hopens
  | definition hpending _ hd =>
    exact ⟨hentries, (hpending ▸ h.pending).definition (writable_of_definedOn hone hd)⟩
  | after hpending _ _ hopens =>
    refine shapes_of_opens (fun e he more => ?_) hone hopens
    rcases List.mem_append.mp he with he | he
    · exact hentries e he more
    · exact shapedOn_of_mem_close hpending h.pending he _
  | header hpending hd => exact ⟨hentries, (hpending ▸ h.pending).header hone hd⟩
  | bodyBegins hpending hline hnone =>
    exact ⟨hentries, (hpending ▸ h.pending).bodyBegins hline hnone⟩
  | body hpending hblank => exact ⟨hentries, (hpending ▸ h.pending).body_concat hblank⟩
  | requestEnds _ hblank | bodyEnds _ hblank => exact shapes_close h hblank
  | script hpending hscript =>
    cases hpending ▸ h.pending with
    | processor hname hnofence hstops =>
      have hline : line ∈ lines ++ [line] := List.mem_append_right _ List.mem_cons_self
      have hended : ¬∃ l ∈ lines, l.ending = .none := by
        rintro ⟨l, hl, hending⟩
        exact hends l hl hending
      exact shapes_of_goesOn hname hentries hline hnofence (hstops.resolve_right hended) hscript

theorem shapes_of_runs (h : Runs lines reading) (hone : ∀ l ∈ lines, OneLine l.text)
    (hends : lines.Pairwise fun l _ => l.ending ≠ .none) : Shapes lines reading := by
  induction h with
  | nil => exact ⟨List.forall_mem_nil _, .nothing⟩
  | concat _ hsteps ih =>
    obtain ⟨hbefore, -, hlast⟩ := List.pairwise_append.mp hends
    have hshapes := ih (fun l hl => hone l (List.mem_append_left _ hl)) hbefore
    exact shapes_step hshapes (hone _ List.mem_concat_self)
      (fun l hl => hlast l hl _ List.mem_cons_self) hsteps

end Reading

theorem shapedOn_of_readLines {source : List Char} {total : Nat} {entries : List Entry}
    (h : readLines total (Line.split source) = .ok entries) :
    ∀ e ∈ entries, ShapedOn (Line.split source) e := by
  obtain ⟨reading, hread, hfinish⟩ := bind_eq_ok_iff.mp h
  have hone : ∀ l ∈ Line.split source, OneLine l.text :=
    fun l hl => oneLine_iff.mpr (Line.isLineEnd_of_mem_split hl)
  have hshapes := Reading.shapes_of_runs (Reading.runs_of_foldlM hread) hone
    (Line.pairwise_ending_split source)
  have hentries := congrArg Reading.entries (Reading.close_of_finish hfinish)
  intro e he
  have he : e ∈ reading.close.entries := hentries ▸ he
  rw [← List.append_nil (Line.split source)]
  rcases List.mem_append.mp he with he | he
  · exact hshapes.entries e he []
  · exact hshapes.pending.shapedOn (Option.mem_toList.mp he) fun _ hl => nomatch hl

theorem isShaped_of_shapedOn {source : List Char} {e : Entry} (h : ShapedOn (Line.split source) e) :
    e.IsShaped (Line.split source) := by
  cases h with
  | definition hd => exact hd
  | environment he => exact he
  | processor hp => exact hp
  | @request before first below r hlines hstarts hbody =>
    have hnumber := lineOf_split_within hlines hstarts.start_le hstarts.le_stop
    have hrows : r.rows (Line.split source) = Line.bodyRows below := by
      rw [Request.rows, hnumber, hlines, List.drop_length_add_append]
      rfl
    refine ⟨hstarts.headed, fun text htext => ?_, hrows ▸ hbody⟩
    rw [hbody, bodyOf] at htext
    split at htext
    · cases htext
    · rename_i hne
      cases htext
      rw [joinBody, String.toList_ofList]
      refine isReadBody_of_rows (by simpa using hne) fun s hs => ?_
      obtain ⟨line, hline, rfl⟩ := List.mem_map.mp hs
      have hblank : line.isBlank = false := by
        simpa using List.all_eq_true.mp List.all_takeWhile line hline
      rw [Line.isBlank, List.all_eq_false] at hblank
      refine ⟨oneLine_iff.mpr (Line.isLineEnd_of_mem_split (s := source) ?_), by simpa using hblank⟩
      rw [hlines]
      have hbelow := (List.dropWhile_sublist _).subset ((List.takeWhile_sublist _).subset hline)
      exact List.mem_append_right _ (List.mem_cons_of_mem _ hbelow)

end Grammar

namespace Book

theorem isShaped_of_parse {source : String} {book : Book} (h : parse source = .ok book) :
    ∀ e ∈ book.entries, e.IsShaped book.lines := by
  obtain ⟨hlines, hread⟩ := lines_of_parse h
  rw [hlines] at hread ⊢
  exact fun e he => Grammar.isShaped_of_shapedOn (Grammar.shapedOn_of_readLines hread e he)

def assorted : String :=
  "@dev:\n h: v\u3000\n\nPOST /p | run # c\nA: b\n# d\n \x7b\t\r\n#\x7d\u00a0\n\nPROCESSOR run ```\n a`` ```"

theorem isShaped_assorted : ∃ book, parse assorted = .ok book ∧
    book.requests.map Request.body = [some "\x7b\t\n#\x7d"] ∧ ∀ e ∈ book.entries, e.IsShaped book.lines :=
  ⟨_, rfl, rfl, @isShaped_of_parse assorted _ rfl⟩

end Book

end RequestBook
