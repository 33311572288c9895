import RequestBook.Proofs.Grammar.Sequel
import RequestBook.Proofs.Source.Reended

namespace RequestBook

open RequestBook.Text

def Fault.IsOn (line : Line) (fault : Fault) : Prop :=
  line.start ≤ fault.offset ∧ fault.offset ≤ line.stop

namespace Grammar

variable {line : Line} {fault : Fault}

theorem isOn_of_atLine {α : Type} {r : Except Stop α} (h : atLine line r = .error fault) :
    fault.IsOn line := by
  obtain ⟨stop, -, rfl⟩ := mapError_eq_error_iff.mp h
  exact ⟨Nat.le_add_right _ _, Nat.add_le_add_left (Nat.sub_le _ _) _⟩

theorem isOn_of_map_atLine {α β : Type} {r : Except Stop α} {f : α → β}
    (h : (atLine line r).map f = .error fault) : fault.IsOn line := by
  cases hr : atLine line r with
  | ok a =>
    rw [hr] at h
    cases h
  | error e =>
    rw [hr] at h
    cases h
    exact isOn_of_atLine hr

theorem isOn_of_readIndented (h : readIndented line = .error fault) : fault.IsOn line := by
  rw [readIndented] at h
  split at h
  · exact isOn_of_atLine h
  · split at h
    · cases h
    · exact isOn_of_atLine h

namespace Reading

variable {reading : Reading}

theorem isOn_of_continueScript {name : String} {start : Nat} {script rest : List Char}
    (h : reading.continueScript name start script line rest = .error fault) : fault.IsOn line := by
  rw [continueScript] at h
  split at h
  · rcases bind_eq_error_iff.mp h with hend | ⟨_, -, hpush⟩
    · exact isOn_of_atLine hend
    · cases hpush
  · cases h

theorem isOn_of_begin (h : reading.begin line = .error fault) : fault.IsOn line := by
  rw [begin] at h
  dsimp only at h
  split at h
  · cases h
  split at h
  · exact isOn_of_map_atLine h
  split at h
  · exact isOn_of_map_atLine h
  split at h
  · cases h
  split at h
  · rcases bind_eq_error_iff.mp h with hname | ⟨_, -, hscript⟩
    · exact isOn_of_atLine hname
    · exact isOn_of_continueScript hscript
  split at h
  · exact isOn_of_map_atLine h
  · exact isOn_of_atLine h

theorem isOn_of_step (h : reading.step line = .error fault) : fault.IsOn line := by
  rw [step] at h
  split at h
  · exact isOn_of_begin h
  · split at h
    · cases h
    split at h
    · cases hd : readIndented line with
      | ok d =>
        rw [hd] at h
        cases h
      | error e =>
        rw [hd] at h
        cases h
        exact isOn_of_readIndented hd
    split at h
    · cases h
      exact ⟨Nat.le_refl _, Nat.le_add_right _ _⟩
    · exact isOn_of_begin h
  · split at h
    · cases h
    split at h
    · cases h
    split at h <;> cases h
  · split at h <;> cases h
  · exact isOn_of_continueScript h

theorem offset_of_finish {total : Nat} (h : reading.finish total = .error fault) :
    fault.offset = total := by
  rw [finish] at h
  split at h <;> cases h <;> rfl

end Reading

theorem readLines_eq_error {total : Nat} {lines : List Line} (h : readLines total lines = .error fault) :
    fault.offset = total ∨ ∃ before line after, lines = before ++ line :: after ∧ fault.IsOn line ∧
      ∀ total' after', readLines total' (before ++ line :: after') = .error fault := by
  rw [readLines] at h
  rcases bind_eq_error_iff.mp h with hread | ⟨reading, -, hfinish⟩
  · obtain ⟨before, line, after, reading, rfl, hbefore, hstep⟩ := exists_of_foldlM_eq_error hread
    refine .inr ⟨before, line, after, rfl, Reading.isOn_of_step hstep, fun total' after' => ?_⟩
    rw [readLines, List.foldlM_append, hbefore]
    change ((line :: after').foldlM Reading.step reading >>= _) = _
    rw [List.foldlM_cons, hstep]
    rfl
  · exact .inl (Reading.offset_of_finish hfinish)

end Grammar

theorem ending_of_lineOf_width {s text : List Char} {ending : LineBreak}
    (h : (Line.divide s)[Lines.lineOf (Line.split s) (width s) - 1]? = some (text, ending)) :
    ending = .none := by
  have hne : Line.split s ≠ [] := by
    intro hnil
    have hpos := lineOf_split_pos s 0
    rw [hnil] at hpos
    cases hpos
  obtain ⟨init, last, hsplit⟩ : ∃ init last, Line.split s = init ++ [last] :=
    ⟨_, _, (List.dropLast_concat_getLast hne).symm⟩
  rw [lineOf_split_width, ← Line.map_place 0 (Line.divide s)] at h
  change ((Line.split s).map _)[_]? = _ at h
  rw [hsplit, List.length_append, List.length_singleton, Nat.add_sub_cancel, List.map_append,
    List.getElem?_append_right (by simp)] at h
  have hlast : (last.text, last.ending) = (text, ending) := by simpa using h
  rw [← Line.ending_of_split_concat hsplit]
  exact (congrArg Prod.snd hlast).symm

namespace Book

/-- An error on a line that a line break closes is the error of every text with the same lines up to
that one. A script without an end is no such error: it lasts to the end of the text. -/
theorem parse_eq_error_of_take {s t : String} {e : SyntaxError} (h : parse s = .error e)
    (hclosed : ∃ text ending, (Line.divide s.toList)[e.position.line - 1]? = some (text, ending) ∧
      ending ≠ .none)
    (hsame : (Line.divide t.toList).take e.position.line =
      (Line.divide s.toList).take e.position.line) : parse t = .error e := by
  rw [parse_eq] at h
  cases hread : Grammar.readLines (width s.toList) (Line.split s.toList) with
  | ok entries =>
    rw [hread] at h
    cases h
  | error fault =>
    rw [hread] at h
    have he : fault.locate (Line.split s.toList) = e := Except.error.inj h
    have hline : e.position = Lines.position (Line.split s.toList) fault.offset :=
      congrArg SyntaxError.position he.symm
    rcases Grammar.readLines_eq_error hread with hend | ⟨before, line, after, hs, hon, hfail⟩
    · obtain ⟨text, ending, hget, hne⟩ := hclosed
      rw [hline, line_position, hend] at hget
      exact absurd (ending_of_lineOf_width hget) hne
    · have hposition := position_split_within hs hon.1 hon.2
      -- both texts have the line at fault and the lines before it
      have htake : (Line.split t.toList).take (before.length + 1) = before ++ [line] := by
        rw [hline, hposition] at hsame
        rw [Line.split, Line.take_place, hsame, ← Line.take_place, ← Line.split, hs,
          List.append_cons, ← List.length_singleton (a := line), ← List.length_append,
          List.take_left]
      have ht : Line.split t.toList =
          before ++ line :: (Line.split t.toList).drop (before.length + 1) := by
        rw [List.append_cons, ← htake, List.take_append_drop]
      have hread' : Grammar.readLines (width t.toList) (Line.split t.toList) = .error fault := by
        rw [ht]
        exact hfail _ _
      rw [parse_eq, hread', onBoth_error, ← he, Fault.locate, Fault.locate, hposition,
        position_split_within ht hon.1 hon.2]

theorem parse_eq_error_of_take_environment :
    parse "@e:\r\n\n# c\rGET /\n A: b" =
        .error ⟨.expected .indentedDefinition, ⟨4, 1⟩, 10⟩ ∧
      parse "@e:\r\n\n# c\rGET /\n\n$x = " =
        .error ⟨.expected .indentedDefinition, ⟨4, 1⟩, 10⟩ := by
  have h : parse "@e:\r\n\n# c\rGET /\n A: b" =
      .error ⟨.expected .indentedDefinition, ⟨4, 1⟩, 10⟩ := rfl
  have hclosed : (Line.divide "@e:\r\n\n# c\rGET /\n A: b".toList)[3]? =
      some ("GET /".toList, .lf) := by decide +kernel
  have hsame : (Line.divide "@e:\r\n\n# c\rGET /\n\n$x = ".toList).take 4 =
      (Line.divide "@e:\r\n\n# c\rGET /\n A: b".toList).take 4 := by decide +kernel
  exact ⟨h, parse_eq_error_of_take h ⟨_, _, hclosed, LineBreak.noConfusion⟩ hsame⟩

end Book

end RequestBook
