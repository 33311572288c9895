import RequestBook.Proofs.Grammar.Sequel
import RequestBook.Proofs.Scope.Relocated
import RequestBook.Proofs.Source.Reended

namespace RequestBook

open RequestBook.Text

section Relocation

variable {ending : LineBreak} {s : List Char}

theorem LineBreak.isBlank_of_mem_chars (ending : LineBreak) :
    ∀ c ∈ ending.chars, isBlank c = true := by
  cases ending <;> exact forall_mem_of_all rfl

def Relocation.reend (ending : LineBreak) (lines : Lines) : Relocation where
  offset := lines.spread ending
  char c := if c = '\n' then ending.chars else [c]
  isBlank_of_mem c hc d hd := by
    split at hd
    · exact ending.isBlank_of_mem_chars d hd
    · rw [List.mem_singleton.mp hd]
      exact hc
  char_of_not_blank c hc := by
    apply if_neg
    rintro rfl
    cases hc

theorem Relocation.takes_reend (hcr : '\r' ∉ s) :
    ∀ line ∈ Line.split s,
      (Relocation.reend ending (Line.split s)).Takes line (line.reend (Line.split s) ending) := by
  intro line hline
  refine ⟨rfl, fun n hn => Line.spread_within hline hn, fun c hc => ?_, ?_⟩
  · apply if_neg
    rintro rfl
    exact absurd (Line.isLineEnd_of_mem_split hline _ hc) (by decide)
  · refine (reend_chars fun hmem => hcr ?_).symm
    rw [← Line.flatMap_contents_split s]
    exact List.mem_flatMap.mpr ⟨line, hline, List.mem_append_right _ hmem⟩

end Relocation

def reended (ending : LineBreak) (source : String) : String :=
  String.ofList (Text.reend ending source.toList)

def SyntaxError.reend (ending : LineBreak) (lines : Lines) (e : SyntaxError) : SyntaxError :=
  { e with offset := lines.spread ending e.offset }

namespace Book

def reend (ending : LineBreak) (book : Book) : Book :=
  ⟨reended ending book.source, book.entries.map (·.relocate (.reend ending book.lines))⟩

def draftAt (isAbsolute : String → Bool) (settings : Settings) (book : Book) (line : Nat) :
    Except BuildError Draft := do
  let scope ← (Scope.resolve book line).mapError .resolve
  Draft.buildWith isAbsolute settings scope

section

variable {ρ : Relocation} {book book' : Book}

theorem Relocates.draftAt_eq (h : book.Relocates ρ book') (isAbsolute : String → Bool)
    (settings : Settings) (line : Nat) :
    book'.draftAt isAbsolute settings line = book.draftAt isAbsolute settings line := by
  rw [draftAt, Scope.resolve_relocate h, draftAt]
  cases Scope.resolve book line with
  | ok scope => exact Draft.build_relocate isAbsolute settings scope
  | error e => rfl

theorem Relocates.warnings_eq (h : book.Relocates ρ book') :
    book'.requests.flatMap (Lint.ofRequest book') = book.requests.flatMap (Lint.ofRequest book) := by
  rw [requests_relocate h.entries, List.flatMap_map]
  simp only [Lint.ofRequest_relocate h]

end

variable {ending : LineBreak} {source : String}

theorem toList_reended (ending : LineBreak) (source : String) :
    (reended ending source).toList = Text.reend ending source.toList :=
  String.toList_ofList

theorem parse_reended (hending : ending ≠ .none) (hcr : '\r' ∉ source.toList) :
    parse (reended ending source) =
      onBoth (reend ending) (SyntaxError.reend ending (Line.split source.toList))
        (parse source) := by
  have hread : Grammar.readLines
      (Lines.spread (Line.split source.toList) ending (width source.toList))
      ((Line.split source.toList).map (Line.reend (Line.split source.toList) ending)) = _ :=
    Grammar.readLines_relocate (.reend ending (Line.split source.toList))
      (Relocation.takes_reend hcr) (width source.toList)
  rw [parse_eq, parse_eq, toList_reended, Line.width_reend hending hcr,
    Line.split_reend hending hcr, hread]
  cases Grammar.readLines (width source.toList) (Line.split source.toList) with
  | ok entries => rfl
  | error fault =>
    have hposition := Line.position_reend hending hcr fault.offset
    rw [Line.split_reend hending hcr] at hposition
    simp only [onBoth_error, Fault.locate, Fault.relocate, SyntaxError.reend,
      Relocation.reend, hposition]

theorem relocates_reend (hending : ending ≠ .none) {book : Book}
    (hcr : '\r' ∉ book.source.toList) :
    book.Relocates (.reend ending book.lines) (book.reend ending) := by
  have hlines : (book.reend ending).lines =
      book.lines.map (Line.reend book.lines ending) := by
    rw [lines, reend, toList_reended]
    exact Line.split_reend hending hcr
  refine ⟨rfl, fun offset => ?_, fun span => ?_, ?_⟩
  · rw [hlines]
    exact Lines.lineOf_map (Lines.spread_le_iff book.lines ending) (fun _ _ => rfl) offset
  · rw [hlines]
    exact Lines.lineRange_map (Lines.spread_le_iff book.lines ending) (fun _ _ => rfl) span
  · rw [hlines, List.map_map]
    rfl

theorem source_of_parse {book : Book} (h : parse source = .ok book) : book.source = source := by
  rw [parse] at h
  split at h
  · cases h
    rfl
  · cases h

/-- A text with other line ends is the same book or fails at the same place, has the same report, and
gives the same drafts. -/
theorem agrees_reended (hending : ending ≠ .none) (hcr : '\r' ∉ source.toList) :
    parse (reended ending source) =
        onBoth (reend ending) (SyntaxError.reend ending (Line.split source.toList))
          (parse source) ∧
      Lint.report (reended ending source) = Lint.report source ∧
      ∀ book book', parse source = .ok book → parse (reended ending source) = .ok book' →
        ∀ isAbsolute settings line,
          book'.draftAt isAbsolute settings line = book.draftAt isAbsolute settings line := by
  have hparse := parse_reended hending hcr
  refine ⟨hparse, ?_, ?_⟩
  · rw [Lint.report, hparse, Lint.report]
    cases hbook : parse source with
    | error e => rfl
    | ok book =>
      have hbook : book.source = source := source_of_parse hbook
      exact congrArg Diagnostic.dedupe (relocates_reend hending (hbook ▸ hcr)).warnings_eq
  · intro book book' hbook hbook' isAbsolute settings line
    rw [hparse, hbook] at hbook'
    cases hbook'
    have hbook : book.source = source := source_of_parse hbook
    exact (relocates_reend hending (hbook ▸ hcr)).draftAt_eq isAbsolute settings line

def scripted : String :=
  "PROCESSOR p ```\na\n\nb\n```\nPOST /a | p\nHost: h\nb $x\n c"

theorem agrees_reended_scripted :
    ∃ book book', parse scripted = .ok book ∧ parse (reended .crlf scripted) = .ok book' ∧
      book.entries = [.processor ⟨"p", "a\n\nb", ⟨0, 24⟩⟩,
        .request ⟨.post, "/a", some "b $x\n c", some "p",
          [⟨.header, "Host", .text "h", ⟨37, 44⟩⟩], ⟨25, 52⟩⟩] ∧
      book'.entries = [.processor ⟨"p", "a\r\n\r\nb", ⟨0, 28⟩⟩,
        .request ⟨.post, "/a", some "b $x\n c", some "p",
          [⟨.header, "Host", .text "h", ⟨43, 50⟩⟩], ⟨30, 60⟩⟩] ∧
      Lint.report (reended .crlf scripted) = Lint.report scripted ∧
      ∀ isAbsolute settings line,
        book'.draftAt isAbsolute settings line = book.draftAt isAbsolute settings line := by
  have hending : LineBreak.crlf ≠ .none := LineBreak.noConfusion
  have hcr : '\r' ∉ scripted.toList := by decide +kernel
  obtain ⟨hparse, hreport, hdraft⟩ := agrees_reended hending hcr
  obtain ⟨book, hbook⟩ : ∃ book, parse scripted = .ok book := ⟨_, rfl⟩
  rw [hbook, onBoth_ok] at hparse
  refine ⟨book, _, hbook, hparse, ?_, ?_, hreport, hdraft _ _ hbook hparse⟩
  · cases hbook
    decide +kernel
  · cases hbook
    decide +kernel

end Book

end RequestBook
