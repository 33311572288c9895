import Mathlib.Data.List.Induction
import RequestBook.Proofs.Settings.Allowed
import RequestBook.Settings.Store

namespace RequestBook.Settings

variable {file : Option Json} {own : Settings}

def HasSection (file : Option Json) (own : Settings) : Prop :=
  ∃ json part, file = some json ∧ json.member? sectionName = some part ∧ ofJson? part = some own

/-- What a change does: the settings before it, the error that it gives, and those after it. -/
inductive Step : Settings → Change → Option Error → Settings → Prop
  | absent {before file} : (∀ own, ¬HasSection file own) → Step before (.load file) none default
  | loaded {before file own} : HasSection file own → own.Allowed →
      Step before (.load file) none (default.merge own)
  | refused {before file own name} : HasSection file own → name ∈ own.defaultHeaders.names →
      isHeaderName name = false → Step before (.load file) (some (.invalidHeaderName name)) before
  | updated {before f} : (f before).Allowed → Step before (.update f) none (f before)
  | reverted {before f} : ¬(f before).Allowed → Step before (.update f) none default
  | reset {before} : Step before .reset none default
  | got {before} : Step before .get none before

theorem hasSection_iff :
    HasSection file own ↔ (file.bind fun f => f.member? sectionName).bind ofJson? = some own := by
  simp only [HasSection, Option.bind_eq_some_iff]
  constructor
  · rintro ⟨json, part, hfile, hpart, hown⟩
    exact ⟨part, ⟨json, hfile, hpart⟩, hown⟩
  · rintro ⟨part, ⟨json, hfile, hpart⟩, hown⟩
    exact ⟨json, part, hfile, hpart, hown⟩

theorem ofFile_of_hasSection (h : HasSection file own) : ofFile file = default.merge own := by
  rw [ofFile, hasSection_iff.mp h]

theorem ofFile_of_absent (h : ∀ own, ¬HasSection file own) : ofFile file = default := by
  have hnone : (file.bind fun f => f.member? sectionName).bind ofJson? = none :=
    Option.eq_none_iff_forall_ne_some.mpr fun own hown => h own (hasSection_iff.mpr hown)
  rw [ofFile, hnone]

theorem default_allowed : default.Allowed :=
  (isValid_iff _).mp default_isValid

theorem exists_of_error?_merge {e : Error} (h : (default.merge own).error? = some e) :
    ∃ name ∈ own.defaultHeaders.names, isHeaderName name = false ∧ e = .invalidHeaderName name := by
  obtain ⟨name, hname, hbad, rfl⟩ := exists_of_error? h
  refine ⟨name, ?_, hbad, rfl⟩
  rcases mem_names_foldl _ _ hname with hown | hdefault
  · exact hown
  · rw [default_allowed name hdefault] at hbad
    cases hbad

theorem load_of_absent (h : ∀ own, ¬HasSection file own) : load file = .ok default := by
  rw [load, ofFile_of_absent h, (error?_eq_none_iff _).mpr default_allowed]

theorem load_of_allowed (h : HasSection file own) (hown : own.Allowed) :
    load file = .ok (default.merge own) := by
  have hmerge := (allowed_merge default own).mpr ⟨hown, default_allowed⟩
  rw [load, ofFile_of_hasSection h, (error?_eq_none_iff _).mpr hmerge]

theorem load_of_not_allowed (h : HasSection file own) (hown : ¬own.Allowed) :
    ∃ name ∈ own.defaultHeaders.names, isHeaderName name = false ∧
      load file = .error (.invalidHeaderName name) := by
  cases herror : (default.merge own).error? with
  | none =>
    have hmerge := (error?_eq_none_iff _).mp herror
    exact absurd ((allowed_merge default own).mp hmerge).1 hown
  | some e =>
    obtain ⟨name, hname, hbad, rfl⟩ := exists_of_error?_merge herror
    refine ⟨name, hname, hbad, ?_⟩
    rw [load, ofFile_of_hasSection h, herror]

theorem not_allowed_iff {settings : Settings} :
    ¬settings.Allowed ↔ ∃ name ∈ settings.defaultHeaders.names, isHeaderName name = false := by
  simp [Allowed]

theorem load_fails_iff : (∃ e, load file = .error e) ↔
    ∃ own, HasSection file own ∧ ∃ name ∈ own.defaultHeaders.names, isHeaderName name = false := by
  constructor
  · rintro ⟨e, he⟩
    by_cases hsection : ∃ own, HasSection file own
    · obtain ⟨own, hsection⟩ := hsection
      refine ⟨own, hsection, not_allowed_iff.mp fun hown => ?_⟩
      rw [load_of_allowed hsection hown] at he
      cases he
    · rw [load_of_absent (not_exists.mp hsection)] at he
      cases he
  · rintro ⟨own, hsection, hbad⟩
    obtain ⟨name, -, -, hload⟩ := load_of_not_allowed hsection (not_allowed_iff.mpr hbad)
    exact ⟨_, hload⟩

theorem apply_of_ok {before loaded : Settings} (h : load file = .ok loaded) :
    (Change.load file).apply before = (loaded, none) := by
  rw [Change.apply, h]

theorem apply_of_error {before : Settings} {e : Error} (h : load file = .error e) :
    (Change.load file).apply before = (before, some e) := by
  rw [Change.apply, h]

theorem step_load (before : Settings) (file : Option Json) :
    Step before (.load file) ((Change.load file).apply before).2
      ((Change.load file).apply before).1 := by
  by_cases hsection : ∃ own, HasSection file own
  · obtain ⟨own, hsection⟩ := hsection
    by_cases hown : own.Allowed
    · rw [apply_of_ok (load_of_allowed hsection hown)]
      exact .loaded hsection hown
    · obtain ⟨name, hname, hbad, hload⟩ := load_of_not_allowed hsection hown
      rw [apply_of_error hload]
      exact .refused hsection hname hbad
  · rw [apply_of_ok (load_of_absent (not_exists.mp hsection))]
    exact .absent (not_exists.mp hsection)

theorem step_update (before : Settings) (f : Settings → Settings) :
    Step before (.update f) none (before.update f) := by
  rw [update]
  split
  · rename_i hvalid
    exact .updated ((isValid_iff _).mp hvalid)
  · rename_i hvalid
    exact .reverted (mt (isValid_iff _).mpr hvalid)

theorem step_apply (before : Settings) (change : Change) :
    Step before change (change.apply before).2 (change.apply before).1 := by
  cases change with
  | load file => exact step_load before file
  | update f => exact step_update before f
  | reset => exact .reset
  | get => exact .got

theorem afterAll_concat (history : List Change) (change : Change) :
    afterAll (history ++ [change]) = (change.apply (afterAll history)).1 := by
  rw [afterAll, List.foldl_append, List.foldl_cons, List.foldl_nil, afterAll]

theorem afterAll_isValid (history : List Change) : (afterAll history).isValid = true := by
  induction history using List.reverseRecOn with
  | nil => exact default_isValid
  | append_singleton history change ih =>
    rw [afterAll_concat]
    exact apply_isValid change ih

/-- The settings in force are allowed at any time, and a file that is refused does not change them. -/
theorem allowed_afterAll (history : List Change) :
    (afterAll history).error? = none ∧
      (∀ change, Step (afterAll history) change (change.apply (afterAll history)).2
        (afterAll (history ++ [change]))) ∧
      ∀ file,
        ((∃ e, load file = .error e) ↔ ∃ own, HasSection file own ∧
          ∃ name ∈ own.defaultHeaders.names, isHeaderName name = false) ∧
        (∀ e, load file = .error e → afterAll (history ++ [.load file]) = afterAll history) ∧
        ∀ loaded, load file = .ok loaded → afterAll (history ++ [.load file]) = loaded := by
  refine ⟨Option.isNone_iff_eq_none.mp (afterAll_isValid history), fun change => ?_, fun file => ?_⟩
  · rw [afterAll_concat]
    exact step_apply (afterAll history) change
  · refine ⟨load_fails_iff, fun e he => ?_, fun loaded hloaded => ?_⟩
    · rw [afterAll_concat, apply_of_error he]
    · rw [afterAll_concat, apply_of_ok hloaded]

end RequestBook.Settings
