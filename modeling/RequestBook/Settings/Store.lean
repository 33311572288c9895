import RequestBook.Settings

namespace RequestBook.Settings

inductive Change
  | load : Option Json → Change
  | update : (Settings → Settings) → Change
  | reset : Change
  | get : Change

def Change.apply (change : Change) (settings : Settings) : Settings × Option Error :=
  match change with
  | .load file =>
    match Settings.load file with
    | .ok loaded => (loaded, none)
    | .error e => (settings, some e)
  | .update f => (settings.update f, none)
  | .reset => (default, none)
  | .get => (settings, none)

def afterAll (changes : List Change) : Settings :=
  changes.foldl (fun settings change => (change.apply settings).1) default

theorem default_isValid : default.isValid = true := by decide

theorem update_isValid (f : Settings → Settings) (settings : Settings) :
    (settings.update f).isValid = true := by
  unfold update
  split
  · assumption
  · exact default_isValid

theorem load_isValid {file : Option Json} {settings : Settings} (h : load file = .ok settings) :
    settings.isValid = true := by
  unfold load at h
  split at h
  · rename_i hnone
    cases h
    simp [isValid, hnone]
  · cases h

theorem apply_isValid (change : Change) {settings : Settings} (h : settings.isValid = true) :
    (change.apply settings).1.isValid = true := by
  cases change with
  | load file =>
    simp only [Change.apply]
    split
    · exact load_isValid (by assumption)
    · exact h
  | update f => exact update_isValid f settings
  | reset => exact default_isValid
  | get => exact h

end RequestBook.Settings
