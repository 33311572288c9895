import RequestBook.Grammar.Reading
import RequestBook.Proofs.Draft.Texts
import RequestBook.Proofs.Json.Space
import RequestBook.Url.Absolute

namespace RequestBook.Draft

open RequestBook.Text

variable {isAbsolute : String → Bool} {settings : Settings} {scope : Scope} {draft : Draft}
  {fields fields' : Table String} {text value : String}

def IsJson (text : String) : Prop :=
  ∃ value, Json.parse text = .ok value

def unpadded (text : String) : String :=
  String.ofList (trimStart text.toList)

def PadsWithSpace (text : String) : Prop :=
  ∀ c ∈ text.toList.takeWhile isBlank, Json.isSpace c = true

theorem isJson_iff : IsJson text ↔ IsJson (unpadded text) ∧ PadsWithSpace text := by
  simp only [IsJson, unpadded, PadsWithSpace, @Json.parse_eq_ok_iff _ text,
    exists_and_right]

theorem isJson_of_isOk (h : (Json.parse text).isOk = true) : IsJson text := by
  cases hparse : Json.parse text with
  | ok value => exact ⟨value, hparse⟩
  | error e =>
    rw [hparse] at h
    cases h

theorem declare_of_declared (hvalue : fields.get? contentTypeHeader = some value)
    (h : declare fields text = .ok fields') :
    fields' = fields ∧ (isJsonContentType value = true → IsJson text) := by
  rw [declare, hvalue] at h
  dsimp only at h
  split at h
  · split at h
    · rename_i json hparse
      cases h
      exact ⟨rfl, fun _ => ⟨json, hparse⟩⟩
    · cases h
  · rename_i hnot
    cases h
    exact ⟨rfl, fun hjson => absurd hjson hnot⟩

theorem declare_of_undeclared (hnone : fields.get? contentTypeHeader = none)
    (h : declare fields text = .ok fields')
    (hvalue : fields'.get? contentTypeHeader = some value) :
    value = jsonContentType ∧ IsJson (unpadded text) := by
  rw [declare, hnone] at h
  cases h
  split at hvalue
  · rename_i hinferred
    rw [Table.get?_insert, if_pos rfl] at hvalue
    cases hvalue
    exact ⟨rfl, isJson_of_isOk (Bool.and_eq_true_iff.mp hinferred).2⟩
  · rw [hnone] at hvalue
    cases hvalue

theorem declare_of_build (h : buildWith isAbsolute settings scope = .ok draft)
    (hbody : draft.body = some text) :
    declare (expandedHeaders settings scope) text = .ok draft.headers := by
  obtain ⟨-, -, -, -, -, -, -, hfields⟩ := build_eq_ok_iff.mp h
  rw [hbody] at hfields
  exact hfields

/-- The body of a draft whose content type is JSON, with and without its padding. -/
theorem isJson_of_build (h : buildWith isAbsolute settings scope = .ok draft)
    (hbody : draft.body = some text) (hvalue : draft.headers.get? contentTypeHeader = some value)
    (hjson : isJsonContentType value = true) :
    IsJson (unpadded text) ∧ (IsJson text ↔ PadsWithSpace text) ∧
      (((expandedHeaders settings scope).get? contentTypeHeader).isSome = true → IsJson text) := by
  have hdeclare := declare_of_build h hbody
  cases hdeclared : (expandedHeaders settings scope).get? contentTypeHeader with
  | some value' =>
    obtain ⟨hsame, hread⟩ := declare_of_declared hdeclared hdeclare
    rw [hsame, hdeclared] at hvalue
    cases hvalue
    have htext := hread hjson
    have hparts := isJson_iff.mp htext
    exact ⟨hparts.1, ⟨fun _ => hparts.2, fun _ => htext⟩, fun _ => htext⟩
  | none =>
    obtain ⟨-, hread⟩ := declare_of_undeclared hdeclared hdeclare hvalue
    refine ⟨hread, ⟨fun htext => (isJson_iff.mp htext).2, fun hpads => ?_⟩, ?_⟩
    · exact isJson_iff.mpr ⟨hread, hpads⟩
    · intro hsome
      cases hsome

/-- A variable puts a no-break space before the body. -/
def padded : String :=
  "$b = \"\u00a0{}\"\nPOST /\nHost: h\n$b"

def paddedBook : Book :=
  ⟨padded, [.definition ⟨.variable, "b", .text "\u00a0{}", ⟨0, 11⟩⟩,
    .request ⟨.post, "/", some "$b", none, [⟨.header, "Host", .text "h", ⟨19, 26⟩⟩], ⟨12, 29⟩⟩]⟩

theorem exists_padded_draft : ∃ scope draft, Scope.resolve paddedBook 4 = .ok scope ∧
    buildWith Url.isAbsolute Settings.default scope = .ok draft ∧ draft.body = some "\u00a0{}" ∧
      draft.headers.get? contentTypeHeader = some jsonContentType :=
  ⟨_, _, rfl, rfl, by decide +kernel, by decide +kernel⟩

theorem isJson_of_build_padded : Book.parse padded = .ok paddedBook ∧
    ∃ scope draft, Scope.resolve paddedBook 4 = .ok scope ∧
      buildWith Url.isAbsolute Settings.default scope = .ok draft ∧ draft.body = some "\u00a0{}" ∧
        IsJson (unpadded "\u00a0{}") := by
  obtain ⟨scope, draft, hscope, hdraft, hbody, hvalue⟩ := exists_padded_draft
  exact ⟨rfl, scope, draft, hscope, hdraft, hbody, (isJson_of_build hdraft hbody hvalue rfl).1⟩

/-- A draft is declared JSON, but its body is not. -/
theorem not_isJson_padded : Book.parse padded = .ok paddedBook ∧
    ∃ scope draft, Scope.resolve paddedBook 4 = .ok scope ∧
      buildWith Url.isAbsolute Settings.default scope = .ok draft ∧ draft.body = some "\u00a0{}" ∧
        draft.headers.get? contentTypeHeader = some jsonContentType ∧
          isJsonContentType jsonContentType = true ∧ ¬IsJson "\u00a0{}" := by
  obtain ⟨scope, draft, hscope, hdraft, hbody, hvalue⟩ := exists_padded_draft
  refine ⟨rfl, scope, draft, hscope, hdraft, hbody, hvalue, rfl, fun h => ?_⟩
  exact absurd ((isJson_iff.mp h).2 '\u00a0' (by decide)) (by decide)

end RequestBook.Draft
