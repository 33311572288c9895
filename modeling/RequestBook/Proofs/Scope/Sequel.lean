import RequestBook.Draft
import RequestBook.Proofs.Grammar.Layout
import RequestBook.Proofs.Grammar.Sequel
import RequestBook.Proofs.Scope.LineSelection

namespace RequestBook

open RequestBook.Text

namespace Lines

theorem lineOf_append (ls ms : Lines) (offset : Nat) :
    lineOf (ls ++ ms) offset = ls.lineOf offset + ms.lineOf offset :=
  List.countP_append

theorem lineOf_place_of_lt {start offset : Nat} (h : offset < start)
    (ls : List (List Char × LineBreak)) : lineOf (Line.place start ls) offset = 0 := by
  apply List.countP_eq_zero.mpr
  intro line hline
  have hle := Line.le_start_of_mem_place hline
  simp only [decide_eq_true_eq]
  omega

theorem lineOf_place {start offset : Nat} (before : List (List Char × LineBreak)) (text : List Char)
    {ending : LineBreak} (after : List (List Char × LineBreak))
    (h : offset < start + width (Line.textOf before) + width (text ++ ending.chars)) :
    lineOf (Line.place start (before ++ (text, ending) :: after)) offset =
      lineOf (Line.place start before) offset +
        if start + width (Line.textOf before) ≤ offset then 1 else 0 := by
  rw [width_append, ← Nat.add_assoc] at h
  have hafter := lineOf_place_of_lt h after
  rw [lineOf] at hafter
  rw [Line.place_append, lineOf_append, Line.place]
  congr 1
  rw [lineOf, List.countP_cons, hafter, Nat.zero_add]
  simp only [decide_eq_true_eq]

end Lines

theorem lineOf_split_append_lf {s : List Char} {offset : Nat} (h : offset < width s)
    (t : List Char) : Lines.lineOf (Line.split (s ++ '\n' :: t)) offset =
      Lines.lineOf (Line.split s) offset := by
  have hcr : '\r'.utf8Size = 1 := rfl
  have hpair : width LineBreak.crlf.chars = 2 := rfl
  rw [Line.split, Line.split]
  cases Line.endsBefore s with
  | alone ls text hs ht =>
    have hwidth : width s = width (Line.textOf ls) + width text := by
      rw [← Line.textOf_divide s, hs]
      simp
    rw [hs, ht, Lines.lineOf_place, Lines.lineOf_place]
    · rw [width_append]
      omega
    · rw [width_append]
      omega
  | paired ls text hs ht =>
    have hwidth : width s = width (Line.textOf ls) + (width text + 1) := by
      rw [← Line.textOf_divide s, hs]
      simp [hcr]
    rw [hs, ht, Lines.lineOf_place, Lines.lineOf_place]
    · rw [width_append]
      simpa [hcr] using hwidth ▸ h
    · rw [width_append]
      omega

theorem lineRange_split_append_lf {s : List Char} {span : Span} (h : span.Fits s) (t : List Char) :
    Lines.lineRange (Line.split (s ++ '\n' :: t)) span = Lines.lineRange (Line.split s) span := by
  have hlt := h.start_lt_stop
  have hle := h.stop_le
  rw [Lines.lineRange, Lines.lineRange, if_pos hlt, lineOf_split_append_lf (by omega),
    lineOf_split_append_lf (by omega)]

namespace Entry

theorem covers_iff_of_lineRange {lines lines' : Lines} {e : Entry}
    (h : lines'.lineRange e.span = lines.lineRange e.span) (n : Nat) :
    e.Covers lines' n ↔ e.Covers lines n := by
  cases e with
  | request r =>
    change lines'.lineRange r.span = lines.lineRange r.span at h
    rw [Covers, Covers, h]
  | definition | environment | processor => exact Iff.rfl

theorem namesEnvironments_shift (by' : Nat) (e : Entry) :
    (e.shift by').NamesEnvironments ↔ e.NamesEnvironments := by
  cases e <;> exact Iff.rfl

end Entry

namespace Book

def NamesEnvironments (book : Book) : Prop :=
  ∃ e ∈ book.entries, e.NamesEnvironments

theorem definition?_eq_none_iff {book : Book} :
    book.definition? .variable environmentVariable = none ↔ ¬book.NamesEnvironments := by
  rw [definition?, List.findSome?_eq_none_iff, NamesEnvironments]
  constructor
  · rintro h ⟨e, he, hnames⟩
    cases e with
    | definition d => simpa [hnames.1, hnames.2] using h _ he
    | environment | request | processor => exact hnames
  · intro h e he
    cases e with
    | definition d =>
      have hnames : ¬(d.kind = .variable ∧ d.name = environmentVariable) :=
        fun hnames => h ⟨_, he, hnames⟩
      exact if_neg hnames
    | environment | request | processor => rfl

/-- A longer book with the entries of another first, on the lines they had, and with the same active
environments. -/
structure Begins (book whole : Book) : Prop where
  entries : book.entries <+: whole.entries
  lineRange : ∀ e ∈ book.entries, whole.lines.lineRange e.span = book.lines.lineRange e.span
  activeEnvironments : whole.activeEnvironments = book.activeEnvironments

theorem activeEnvironments_append {book whole : Book} {more : List Entry}
    (hentries : whole.entries = book.entries ++ more)
    (henvironments : book.NamesEnvironments ∨ ∀ e ∈ more, ¬e.NamesEnvironments) :
    whole.activeEnvironments = book.activeEnvironments := by
  have hdefinition : whole.definition? .variable environmentVariable =
      (book.definition? .variable environmentVariable).or
        (definition? ⟨"", more⟩ .variable environmentVariable) := by
    rw [definition?, hentries, List.findSome?_append]
    rfl
  rw [activeEnvironments, activeEnvironments, hdefinition]
  rcases henvironments with hnames | hmore
  · cases hd : book.definition? .variable environmentVariable with
    | none => exact absurd hnames (definition?_eq_none_iff.mp hd)
    | some d => rfl
  · have hnone : definition? ⟨"", more⟩ .variable environmentVariable = none := by
      refine definition?_eq_none_iff.mpr ?_
      rintro ⟨e, he, hnames⟩
      exact hmore e he hnames
    rw [hnone, Option.or_none]

namespace Begins

variable {book whole : Book} {line : Nat}

theorem selects (h : book.Begins whole) {r : Request} {before : List Entry}
    (hselects : Selects book.lines line book.entries (some r) before) :
    Selects whole.lines line whole.entries (some r) before := by
  have hmem := Scope.mem_of_selects hselects
  cases hselects with
  | request hfirst =>
    obtain ⟨after, hsplit⟩ := hfirst.split
    obtain ⟨more, hmore⟩ := h.entries
    have hcovers {e : Entry} (he : e ∈ book.entries) :
        e.Covers whole.lines line ↔ e.Covers book.lines line :=
      Entry.covers_iff_of_lineRange (h.lineRange e he) line
    refine .request ⟨⟨after ++ more, ?_⟩, (hcovers (hmem.2 r rfl)).mpr hfirst.holds, ?_⟩
    · rw [← hmore, hsplit, List.append_assoc, List.cons_append]
    · intro e he hcovers'
      exact hfirst.first e he ((hcovers (hmem.1 e he)).mp hcovers')

theorem processor?_of_eq_some (h : book.Begins whole) {name : String} {p : Processor}
    (hp : book.processor? name = some p) : whole.processor? name = some p := by
  obtain ⟨more, hmore⟩ := h.entries
  rw [processor?] at hp
  rw [processor?, ← hmore, List.findSome?_append, hp, Option.some_or]

end Begins

end Book

namespace Scope

def onLines (scope : Scope) (lines : Lines) : Scope :=
  { scope with lines := lines }

variable (scope : Scope) (lines : Lines)

theorem assign_onLines (d : Definition) :
    (scope.onLines lines).assign d = (scope.assign d).onLines lines := by
  cases h : d.kind <;> simp [assign, onLines, h]

theorem foldl_assign_onLines (ds : List Definition) :
    ds.foldl assign (scope.onLines lines) = (ds.foldl assign scope).onLines lines := by
  induction ds generalizing scope with
  | nil => rfl
  | cons d ds ih => rw [List.foldl_cons, assign_onLines, ih, List.foldl_cons]

theorem build_onLines (isAbsolute : String → Bool) (settings : Settings) :
    Draft.buildWith isAbsolute settings (scope.onLines lines) =
      Draft.buildWith isAbsolute settings scope :=
  rfl

variable {scope lines} {book whole : Book} {line : Nat}

theorem ofChosen_of_begins (h : book.Begins whole) (chosen : Option Request)
    (before : List Entry) :
    ofChosen whole line chosen before = (ofChosen book line chosen before).onLines whole.lines := by
  have hinitial : initial whole line = (initial book line).onLines whole.lines := by
    rw [initial, h.activeEnvironments]
    rfl
  have hdefinitions : whole.definitionsFor chosen before = book.definitionsFor chosen before := by
    rw [Book.definitionsFor, h.activeEnvironments, Book.definitionsFor]
  rw [ofChosen, hinitial, hdefinitions, foldl_assign_onLines]
  rfl

theorem bindProcessor_of_begins (h : book.Begins whole) {bound : Scope}
    (hbound : scope.bindProcessor book = .ok bound) :
    (scope.onLines lines).bindProcessor whole = .ok (bound.onLines lines) := by
  have hrequest : (scope.onLines lines).request = scope.request := rfl
  rw [bindProcessor] at hbound ⊢
  rw [hrequest]
  cases hname : scope.request.bind Request.processor with
  | none =>
    rw [hname] at hbound
    cases hbound
    rfl
  | some name =>
    rw [hname] at hbound
    cases hp : book.processor? name with
    | none => simp [hp] at hbound
    | some p =>
      simp only [hp, Except.ok.injEq] at hbound
      simp only [h.processor?_of_eq_some hp, ← hbound]
      rfl

theorem resolve_of_begins (h : book.Begins whole) {scope : Scope} {r : Request}
    (hscope : resolve book line = .ok scope) (hr : scope.request = some r) :
    resolve whole line = .ok (scope.onLines whole.lines) := by
  obtain ⟨before, hselects⟩ := exists_selects_of_resolve hscope
  rw [hr] at hselects
  rw [resolve_of_selects hselects] at hscope
  rw [resolve_of_selects (h.selects hselects), ofChosen_of_begins h]
  exact bindProcessor_of_begins h hscope

end Scope

namespace Book

theorem lineRange_of_parse_append {a : String} {book : Book} (h : parse a = .ok book)
    (t : List Char) {e : Entry} (he : e ∈ book.entries) :
    Lines.lineRange (Line.split (a.toList ++ '\n' :: t)) e.span = book.lines.lineRange e.span := by
  rw [(lines_of_parse h).1]
  exact lineRange_split_append_lf ((layout_of_parse h).fits e he) t

theorem exists_begins {a b : String} {book later : Book} (ha : parse a = .ok book)
    (hb : parse b = .ok later) (hapart : ¬book.EndsOpen ∨ ¬BeginsIndented b)
    (henvironments : book.NamesEnvironments ∨ ¬later.NamesEnvironments) :
    ∃ whole, parse (a ++ "\n\n" ++ b) = .ok whole ∧ book.Begins whole := by
  have hread := (lines_of_parse ha).2
  rw [(lines_of_parse ha).1] at hread
  have hlater := (lines_of_parse hb).2
  rw [(lines_of_parse hb).1] at hlater
  have hwhole := Grammar.readLines_append hread (t := b.toList) (by
    refine hapart.imp (fun hopen e he => hopen ⟨e, he⟩) fun hindented => ?_
    rwa [← continues_iff, Bool.not_eq_true] at hindented)
  rw [hlater, onBoth_ok, ← toList_append_paragraph] at hwhole
  refine ⟨_, by rw [parse_eq, hwhole, onBoth_ok], List.prefix_append _ _, fun e he => ?_, ?_⟩
  · rw [lines, toList_append_paragraph]
    exact lineRange_of_parse_append ha _ he
  · refine activeEnvironments_append rfl (henvironments.imp_right fun hnone e he hnames => ?_)
    obtain ⟨own, hown, rfl⟩ := List.mem_map.mp he
    exact hnone ⟨own, hown, (Entry.namesEnvironments_shift _ own).mp hnames⟩

/-- What follows a request changes neither its scope nor the draft built from it. -/
theorem resolve_append {a b : String} {book later : Book} (ha : parse a = .ok book)
    (hb : parse b = .ok later) (hapart : ¬book.EndsOpen ∨ ¬BeginsIndented b)
    (henvironments : book.NamesEnvironments ∨ ¬later.NamesEnvironments) :
    ∃ whole, parse (a ++ "\n\n" ++ b) = .ok whole ∧ ∀ line scope r,
      Scope.resolve book line = .ok scope → scope.request = some r →
        Scope.resolve whole line = .ok (scope.onLines whole.lines) ∧
          ∀ isAbsolute settings, Draft.buildWith isAbsolute settings (scope.onLines whole.lines) =
            Draft.buildWith isAbsolute settings scope := by
  obtain ⟨whole, hwhole, hbegins⟩ := exists_begins ha hb hapart henvironments
  refine ⟨whole, hwhole, fun line scope r hscope hr => ⟨?_, fun isAbsolute settings => ?_⟩⟩
  · exact Scope.resolve_of_begins hbegins hscope hr
  · exact Scope.build_onLines scope whole.lines isAbsolute settings

def followed : String :=
  "$ENV = \"e\"\nPROCESSOR p ```x```\n@e:\n A: h\n\nGET /$y | p\n\n@f:\n A: z\r"

def following : String :=
  "# c\n$ENV = \"f\"\n$y = 7\nPROCESSOR p ```y```"

theorem resolve_append_followed : ∃ book later whole scope r,
    parse followed = .ok book ∧ book.EndsOpen ∧
      parse following = .ok later ∧ later.NamesEnvironments ∧
      Scope.resolve book 6 = .ok scope ∧ scope.request = some r ∧
      parse (followed ++ "\n\n" ++ following) = .ok whole ∧
      Scope.resolve whole 6 = .ok (scope.onLines whole.lines) := by
  have ha : parse followed = .ok ⟨followed,
      [.definition ⟨.variable, "ENV", .text "e", ⟨0, 10⟩⟩, .processor ⟨"p", "x", ⟨11, 30⟩⟩,
        .environment ⟨"e", [⟨.header, "A", .text "h", ⟨36, 40⟩⟩], ⟨31, 40⟩⟩,
        .request ⟨.get, "/$y", none, some "p", [], ⟨42, 53⟩⟩,
        .environment ⟨"f", [⟨.header, "A", .text "z", ⟨60, 64⟩⟩], ⟨55, 64⟩⟩]⟩ := rfl
  have hb : parse following = .ok ⟨following,
      [.definition ⟨.variable, "ENV", .text "f", ⟨4, 14⟩⟩,
        .definition ⟨.variable, "y", .integer 7, ⟨15, 21⟩⟩, .processor ⟨"p", "y", ⟨22, 41⟩⟩]⟩ := rfl
  have hindented : ¬BeginsIndented following := by
    rintro ⟨line, hline, hindented⟩
    cases hline
    cases hindented
  obtain ⟨whole, hwhole, hresolve⟩ :=
    resolve_append ha hb (.inr hindented) (.inl ⟨_, List.mem_cons_self, rfl, rfl⟩)
  exact ⟨_, _, whole, _, _, ha, ⟨_, rfl⟩, hb, ⟨_, List.mem_cons_self, rfl, rfl⟩, rfl, rfl, hwhole,
    (hresolve 6 _ _ rfl rfl).1⟩

end Book

end RequestBook
