import RequestBook.Draft

namespace RequestBook.Draft

open RequestBook.Text

/-- The value of a default header of the name in any case; of several, that of the last name. -/
def IsDefault (settings : Settings) (name value : String) : Prop :=
  ∃ key, settings.defaultHeaders.get? key = some value ∧ sameName key name = true ∧
    ∀ other ∈ settings.defaultHeaders.names, sameName other name = true → other ≤ key

inductive Effective (settings : Settings) (scope : Scope) (name : String) : String → Prop
  | visible {d} : scope.header? name = some d → Effective settings scope name d.text
  | default {value} : scope.header? name = none → IsDefault settings name value →
      Effective settings scope name value

variable {settings : Settings} {scope : Scope} {name key text value : String}

theorem get?_foldedDefaults_iff :
    (foldedDefaults settings).get? (foldCase name) = some value ↔ IsDefault settings name value := by
  rw [foldedDefaults, Table.get?_ofList_map_iff]
  simp only [IsDefault, sameName, beq_iff_eq]

theorem mem_values_of_foldedDefaults (h : (foldedDefaults settings).get? key = some text) :
    text ∈ settings.defaultHeaders.values := by
  obtain ⟨name, hname, -, -⟩ := Table.get?_ofList_map_iff.mp h
  exact Table.mem_values_of_get? hname

theorem get?_ownHeaders (h : key ≠ hostHeader) :
    (ownHeaders scope).get? key = (scope.headers.get? key).map Definition.text := by
  rw [ownHeaders, Table.get?_map, Table.get?_filter, bne_iff_ne.mpr h]
  cases scope.headers.get? key <;> rfl

theorem get?_rawHeaders_iff (h : foldCase name ≠ hostHeader) :
    (rawHeaders settings scope).get? (foldCase name) = some text ↔
      Effective settings scope name text := by
  rw [rawHeaders, Table.get?_overlay, get?_ownHeaders h]
  constructor
  · intro htext
    rcases Option.or_eq_some_iff.mp htext with hvisible | ⟨hnone, hdefault⟩
    · obtain ⟨d, hd, rfl⟩ := Option.map_eq_some_iff.mp hvisible
      exact .visible hd
    · exact .default (Option.map_eq_none_iff.mp hnone) (get?_foldedDefaults_iff.mp hdefault)
  · intro htext
    cases htext with
    | visible hd =>
      rw [Scope.header?] at hd
      rw [hd, Option.map_some, Option.some_or]
    | default hnone hdefault =>
      rw [Scope.header?] at hnone
      rw [hnone, Option.map_none, Option.none_or, get?_foldedDefaults_iff]
      exact hdefault

theorem get?_expandedHeaders_iff (h : foldCase name ≠ hostHeader) :
    (expandedHeaders settings scope).get? (foldCase name) = some value ↔
      ∃ text, Effective settings scope name text ∧
        Template.interpolate scope.vars .plain text = value := by
  rw [expandedHeaders, Table.get?_map, Option.map_eq_some_iff]
  simp only [get?_rawHeaders_iff h]

theorem text_of_rawHeaders (h : (rawHeaders settings scope).get? key = some text) :
    (∃ d, scope.headers.get? key = some d ∧ text = d.text) ∨
      text ∈ settings.defaultHeaders.values := by
  rw [rawHeaders, Table.get?_overlay, ownHeaders, Table.get?_map, Table.get?_filter] at h
  rcases Option.or_eq_some_iff.mp h with hown | ⟨-, hdefault⟩
  · obtain ⟨d, hd, rfl⟩ := Option.map_eq_some_iff.mp hown
    exact .inl ⟨d, (Option.filter_eq_some_iff.mp hd).1, rfl⟩
  · exact .inr (mem_values_of_foldedDefaults hdefault)

theorem get?_expandedHeaders {d : Definition} (hd : scope.headers.get? key = some d)
    (hkey : key ≠ hostHeader) : (expandedHeaders settings scope).get? key =
      some (Template.interpolate scope.vars .plain d.text) := by
  rw [expandedHeaders, Table.get?_map, rawHeaders, Table.get?_overlay, get?_ownHeaders hkey, hd,
    Option.map_some, Option.some_or, Option.map_some]

end RequestBook.Draft
