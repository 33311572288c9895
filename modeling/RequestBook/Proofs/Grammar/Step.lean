import RequestBook.Proofs.Grammar.Opening

namespace RequestBook

open RequestBook.Text

def Line.IsPassed (line : Line) : Prop :=
  (line.isBlank || line.isComment) = true

theorem Line.isPassed_of_isBlank {line : Line} (h : line.isBlank = true) : line.IsPassed :=
  Bool.or_eq_true_iff.mpr (.inl h)

theorem Line.isPassed_of_isComment {line : Line} (h : line.isComment = true) : line.IsPassed :=
  Bool.or_eq_true_iff.mpr (.inr h)

namespace Grammar

variable {line : Line} {s : List Char} {d : Definition}

theorem atLine_eq_ok_iff {α : Type} {r : Except Stop α} {a : α} :
    atLine line r = .ok a ↔ r = .ok a :=
  mapError_eq_ok_iff

def ReadsVariable (line : Line) (s : List Char) (d : Definition) : Prop :=
  readVariable line s = .ok d

def ReadsHeader (line : Line) (s : List Char) (d : Definition) : Prop :=
  readHeader? line s = some d

def ReadsRequest (line : Line) (s : List Char) (r : Request) : Prop :=
  readRequest line s = .ok r

inductive DefinedOn (line : Line) (d : Definition) : Prop
  | dollar : (skipInline line.text).head? = some '$' →
      ReadsVariable line (skipInline line.text) d → DefinedOn line d
  | header : ReadsHeader line (skipInline line.text) d → DefinedOn line d

theorem ReadsHeader.starts (h : ReadsHeader line s d) : Starts s := by
  obtain ⟨c, hc, hname⟩ := head?_of_readHeader? h
  exact starts_of_isNameChar hc hname

theorem ReadsHeader.head?_ne_dollar (h : ReadsHeader line s d) :
    (s.head? == some '$') = false := by
  obtain ⟨c, hc, hname⟩ := head?_of_readHeader? h
  rw [hc, Option.some_beq_some, beq_eq_false_iff_ne]
  rintro rfl
  cases hname

theorem DefinedOn.starts (h : DefinedOn line d) : Starts (skipInline line.text) := by
  cases h with
  | dollar hhead _ => exact ⟨'$', hhead, by decide, by decide⟩
  | header hread => exact hread.starts

theorem readIndented_eq_ok_iff : readIndented line = .ok d ↔ DefinedOn line d := by
  constructor
  · intro h
    rw [readIndented] at h
    split at h
    · rename_i hhead
      exact .dollar (by simpa using hhead) (atLine_eq_ok_iff.mp h)
    · split at h
      · rename_i header hheader
        cases h
        exact .header hheader
      · exact absurd (atLine_eq_ok_iff.mp h) (by simp [expected, stopAt])
  · intro h
    rw [readIndented]
    cases h with
    | dollar hhead hread =>
      rw [hhead, if_pos (by rfl), hread]
      rfl
    | header hread =>
      rw [hread.head?_ne_dollar, hread]
      rfl

namespace Reading

variable {reading reading' : Reading}

/-- A line that goes on with a script: it ends the script at a fence, or belongs to it as a whole. -/
inductive GoesOn (reading : Reading) (name : String) (start : Nat) (script : List Char) (line : Line)
    (rest : List Char) : Reading → Prop
  | ended {before after} : splitFence? rest = some (before, after) → endLine after = .ok () →
      GoesOn reading name start script line rest (reading.push (.processor
        ⟨name, String.ofList (trim (script ++ before)), ⟨start, line.offsetOf after⟩⟩))
  | within : splitFence? rest = none →
      GoesOn reading name start script line rest { reading with
        pending := .processor name start (script ++ rest ++ line.ending.chars) }

/-- What begins on a line, by how the line begins. -/
inductive Opens (reading : Reading) (line : Line) : Reading → Prop
  | definition {d : Definition} : DefinedOn line d →
      Opens reading line (reading.push (.definition d))
  | environment {name} : (skipInline line.text).head? = some '@' →
      readEnvironment (skipInline line.text) = .ok name → Opens reading line { reading with
        pending := .environment name (line.offsetOf (skipInline line.text)) [] }
  | request {r} : ReadsRequest line (skipInline line.text) r →
      Opens reading line { reading with pending := .request r }
  | processor {name rest} {reading' : Reading} : opensProcessor (skipInline line.text) = true →
      readProcessor (skipInline line.text) = .ok (name, rest) →
      GoesOn reading name (line.offsetOf (skipInline line.text)) [] line rest reading' →
      Opens reading line reading'

theorem continueScript_eq_ok_iff {name : String} {start : Nat} {script rest : List Char} :
    reading.continueScript name start script line rest = .ok reading' ↔
      GoesOn reading name start script line rest reading' := by
  rw [continueScript]
  constructor
  · intro h
    cases hfence : splitFence? rest with
    | none =>
      rw [hfence] at h
      cases h
      exact .within hfence
    | some parts =>
      rw [hfence] at h
      obtain ⟨_, hend, hpush⟩ := bind_eq_ok_iff.mp h
      cases hpush
      exact .ended hfence (atLine_eq_ok_iff.mp hend)
  · intro h
    cases h with
    | ended hfence hend =>
      rw [hfence]
      exact bind_eq_ok_iff.mpr ⟨(), atLine_eq_ok_iff.mpr hend, rfl⟩
    | within hfence => rw [hfence]

theorem Opens.starts (h : Opens reading line reading') : Starts (skipInline line.text) := by
  cases h with
  | definition hd => exact hd.starts
  | environment hhead _ => exact ⟨'@', hhead, by decide, by decide⟩
  | @request r hr =>
    obtain ⟨_, _, _, _, hs, -⟩ := exists_of_readRequest hr
    obtain ⟨c, rest, hname, -⟩ := r.method.exists_name
    refine starts_of_isNameChar (by rw [hs, hname]; rfl) ?_
    exact (Method.mem_name (hname ▸ List.mem_cons_self)).2
  | processor hopens _ _ =>
    obtain ⟨c, rest, hs, -⟩ := exists_of_opensProcessor hopens
    exact ⟨'P', by rw [hs]; rfl, by decide, by decide⟩

theorem begin_passed (h : line.IsPassed) : reading.begin line = .ok reading :=
  if_pos h

theorem begin_of_definedOn (h : DefinedOn line d) (reading : Reading) :
    reading.begin line = .ok (reading.push (.definition d)) := by
  cases h with
  | dollar hhead hread =>
    rw [begin_of_variable hhead, hread]
    rfl
  | header hread => exact begin_of_header hread

theorem Opens.begin_eq (h : Opens reading line reading') : reading.begin line = .ok reading' := by
  cases h with
  | definition hd => exact begin_of_definedOn hd reading
  | environment hhead hname =>
    rw [begin_of_environment hhead, hname]
    rfl
  | request hr => exact begin_of_request hr
  | processor hopens hname hscript =>
    rw [begin_of_processor hopens, hname]
    exact continueScript_eq_ok_iff.mpr hscript

theorem opens_of_begin (h : reading.begin line = .ok reading')
    (hline : (line.isBlank || line.isComment) = false) : Opens reading line reading' := by
  rw [begin, hline, if_neg Bool.false_ne_true] at h
  dsimp only at h
  split at h
  · rename_i hhead
    obtain ⟨d, hd, rfl⟩ := map_eq_ok_iff.mp h
    exact .definition (.dollar (by simpa using hhead) (atLine_eq_ok_iff.mp hd))
  split at h
  · rename_i hhead
    obtain ⟨name, hname, rfl⟩ := map_eq_ok_iff.mp h
    exact .environment (by simpa using hhead) (atLine_eq_ok_iff.mp hname)
  split at h
  · rename_i header hheader
    cases h
    exact .definition (.header hheader)
  split at h
  · rename_i hopens
    obtain ⟨⟨name, rest⟩, hname, hscript⟩ := bind_eq_ok_iff.mp h
    exact .processor hopens (atLine_eq_ok_iff.mp hname) (continueScript_eq_ok_iff.mp hscript)
  split at h
  · obtain ⟨r, hr, rfl⟩ := map_eq_ok_iff.mp h
    exact .request (atLine_eq_ok_iff.mp hr)
  · exact absurd (atLine_eq_ok_iff.mp h) (by simp [expected, stopAt])

/-- What is open stays as it is: a blank line or a comment is passed over outside a request, and only
a comment between its headers. -/
inductive Passes (line : Line) : Pending → Prop
  | nothing : line.IsPassed → Passes line .nothing
  | environment {name start definitions} : line.IsPassed →
      Passes line (.environment name start definitions)
  | request {r} : line.isBlank = false → line.isComment = true → Passes line (.request r)

/-- What reading a line does, by what is open before it. -/
inductive Steps (reading : Reading) (line : Line) : Reading → Prop
  | passed : Passes line reading.pending → Steps reading line reading
  | opened {reading' : Reading} : reading.pending = .nothing → Opens reading line reading' →
      Steps reading line reading'
  | definition {name start definitions} {d : Definition} :
      reading.pending = .environment name start definitions → line.isIndented = true →
      DefinedOn line d → Steps reading line { reading with
        pending := .environment name start (definitions ++ [d]) }
  | after {name start definitions} {reading' : Reading} :
      reading.pending = .environment name start definitions → definitions ≠ [] →
      line.isIndented = false → Opens reading.close line reading' → Steps reading line reading'
  | header {r} {d : Definition} : reading.pending = .request r →
      ReadsHeader line (skipInline line.text) d → Steps reading line { reading with
        pending := .request { r with
          headers := r.headers ++ [d]
          span := ⟨r.span.start, d.span.stop⟩ } }
  | bodyBegins {r} : reading.pending = .request r → (line.isBlank || line.isComment) = false →
      readHeader? line (skipInline line.text) = none →
      Steps reading line (reading.extendBody r [] line)
  | body {r lines} : reading.pending = .body r lines → line.isBlank = false →
      Steps reading line (reading.extendBody r lines line)
  | requestEnds {r} : reading.pending = .request r → line.isBlank = true →
      Steps reading line reading.close
  | bodyEnds {r lines} : reading.pending = .body r lines → line.isBlank = true →
      Steps reading line reading.close
  | script {name start script} {reading' : Reading} : reading.pending = .processor name start script →
      GoesOn reading name start script line line.text reading' → Steps reading line reading'

theorem Passes.isPassed {pending : Pending} (h : Passes line pending) : line.IsPassed := by
  cases h with
  | nothing h | environment h => exact h
  | request _ h => exact Line.isPassed_of_isComment h

theorem step_script {name : String} {start : Nat} {script : List Char}
    (h : reading.pending = .processor name start script) :
    reading.step line = reading.continueScript name start script line line.text := by
  rw [step, h]

theorem step_leaving {name : String} {start : Nat} {definitions : List Definition}
    (h : reading.pending = .environment name start definitions) (hne : definitions ≠ [])
    (hindented : line.isIndented = false) (hline : (line.isBlank || line.isComment) = false) :
    reading.step line = reading.close.begin line := by
  have hempty : definitions.isEmpty = false := by simpa using hne
  rw [step, h]
  dsimp only
  rw [hline, hindented, hempty]
  rfl

theorem steps_of_environment {name : String} {start : Nat} {definitions : List Definition}
    (hpending : reading.pending = .environment name start definitions)
    (h : reading.step line = .ok reading') : Steps reading line reading' := by
  rw [step, hpending] at h
  dsimp only at h
  split at h
  · rename_i hline
    cases h
    exact .passed (hpending ▸ .environment hline)
  rename_i hline
  split at h
  · rename_i hindented
    obtain ⟨d, hd, rfl⟩ := map_eq_ok_iff.mp h
    exact .definition hpending hindented (readIndented_eq_ok_iff.mp hd)
  rename_i hindented
  split at h
  · cases h
  · rename_i hempty
    exact .after hpending (by simpa using hempty) (by simpa using hindented)
      (opens_of_begin h (Bool.not_eq_true _ ▸ hline))

theorem steps_of_request {r : Request} (hpending : reading.pending = .request r)
    (h : reading.step line = .ok reading') : Steps reading line reading' := by
  rw [step, hpending] at h
  dsimp only at h
  split at h
  · rename_i hblank
    cases h
    exact .requestEnds hpending hblank
  rename_i hblank
  split at h
  · rename_i hcomment
    cases h
    exact .passed (hpending ▸ .request (by simpa using hblank) hcomment)
  rename_i hcomment
  split at h
  · rename_i d hd
    cases h
    exact .header hpending hd
  · rename_i hnone
    cases h
    exact .bodyBegins hpending (by simp [hblank, hcomment]) hnone

theorem steps_of_body {r : Request} {lines : List (List Char)}
    (hpending : reading.pending = .body r lines) (h : reading.step line = .ok reading') :
    Steps reading line reading' := by
  rw [step, hpending] at h
  dsimp only at h
  split at h
  · rename_i hblank
    cases h
    exact .bodyEnds hpending hblank
  · rename_i hblank
    cases h
    exact .body hpending (by simpa using hblank)

theorem steps_of_step (h : reading.step line = .ok reading') : Steps reading line reading' := by
  cases hpending : reading.pending with
  | nothing =>
    rw [step, hpending] at h
    by_cases hline : line.IsPassed
    · cases (begin_passed hline).symm.trans h
      exact .passed (hpending ▸ .nothing hline)
    · exact .opened hpending (opens_of_begin h (Bool.not_eq_true _ ▸ hline))
  | environment => exact steps_of_environment hpending h
  | request => exact steps_of_request hpending h
  | body => exact steps_of_body hpending h
  | processor =>
    exact .script hpending (continueScript_eq_ok_iff.mp (step_script hpending ▸ h))

theorem Steps.step_eq (h : Steps reading line reading') : reading.step line = .ok reading' := by
  cases h with
  | passed hpasses =>
    obtain ⟨entries, pending⟩ := reading
    cases hpasses with
    | nothing hline => exact begin_passed hline
    | environment hline => exact if_pos hline
    | request hblank hcomment =>
      rw [step, hblank, hcomment]
      rfl
  | opened hpending hopens =>
    rw [step, hpending]
    exact hopens.begin_eq
  | definition hpending hindented hd =>
    rw [step, hpending]
    dsimp only
    rw [hd.starts.not_passed, hindented, readIndented_eq_ok_iff.mpr hd]
    rfl
  | after hpending hne hindented hopens =>
    rw [step_leaving hpending hne hindented hopens.starts.not_passed]
    exact hopens.begin_eq
  | header hpending hd =>
    have hline := Bool.or_eq_false_iff.mp hd.starts.not_passed
    rw [step, hpending]
    dsimp only
    rw [hline.1, hline.2, hd]
    rfl
  | bodyBegins hpending hline hnone =>
    have hline := Bool.or_eq_false_iff.mp hline
    rw [step, hpending]
    dsimp only
    rw [hline.1, hline.2, hnone]
    rfl
  | body hpending hblank =>
    rw [step, hpending]
    dsimp only
    rw [hblank]
    rfl
  | requestEnds hpending hblank | bodyEnds hpending hblank =>
    rw [step, hpending]
    dsimp only
    rw [hblank]
    rfl
  | script hpending hscript =>
    rw [step_script hpending]
    exact continueScript_eq_ok_iff.mpr hscript

theorem step_eq_ok_iff : reading.step line = .ok reading' ↔ Steps reading line reading' :=
  ⟨steps_of_step, Steps.step_eq⟩

inductive Runs : List Line → Reading → Prop
  | nil : Runs [] empty
  | concat {lines} {line : Line} {reading reading' : Reading} : Runs lines reading →
      Steps reading line reading' → Runs (lines ++ [line]) reading'

theorem Runs.append {lines more : List Line} (h : Runs lines reading)
    (hread : more.foldlM step reading = .ok reading') : Runs (lines ++ more) reading' := by
  induction more generalizing lines reading with
  | nil =>
    cases hread
    rwa [List.append_nil]
  | cons line more ih =>
    obtain ⟨next, hstep, hread⟩ := bind_eq_ok_iff.mp hread
    rw [List.append_cons]
    exact ih (h.concat (step_eq_ok_iff.mp hstep)) hread

theorem runs_of_foldlM {lines : List Line} (h : lines.foldlM step empty = .ok reading) :
    Runs lines reading :=
  Runs.nil.append h

end Reading

end Grammar

end RequestBook
