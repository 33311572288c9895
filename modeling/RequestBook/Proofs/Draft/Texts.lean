import RequestBook.Proofs.Draft.Headers
import RequestBook.Proofs.Result
import RequestBook.Proofs.Template

namespace RequestBook.Draft

variable {isAbsolute : String → Bool} {settings : Settings} {scope : Scope} {r : Request}
  {draft : Draft}

theorem rawUrl_eq_error_iff {path : String} {host : Option Definition} {e : ResolveError} :
    rawUrl isAbsolute path host = .error e ↔
      isAbsolute path = false ∧ host = none ∧ e = .noHost := by
  unfold rawUrl
  cases isAbsolute path with
  | true => simp
  | false => cases host <;> simp [eq_comm]

theorem exists_rawUrl_iff {path : String} {host : Option Definition} :
    (∃ url, rawUrl isAbsolute path host = .ok url) ↔
      isAbsolute path = true ∨ host.isSome = true := by
  unfold rawUrl
  cases isAbsolute path with
  | true => simp
  | false => cases host <;> simp

theorem declare_eq_error_iff {fields : Table String} {body : String} {e : BuildError} :
    declare fields body = .error e ↔ ∃ value cause, fields.get? contentTypeHeader = some value ∧
      isJsonContentType value = true ∧ Json.parse body = .error cause ∧
        e = .content value cause := by
  rw [declare]
  constructor
  · intro h
    split at h
    · rename_i value hvalue
      split at h
      · rename_i hjson
        split at h
        · cases h
        · rename_i cause hparse
          cases h
          exact ⟨value, cause, hvalue, hjson, hparse, rfl⟩
      · cases h
    · cases h
  · rintro ⟨value, cause, hvalue, hjson, hparse, rfl⟩
    rw [hvalue]
    dsimp only
    rw [if_pos hjson, hparse]

def declareBody (fields : Table String) : Option String → Except BuildError (Table String)
  | some text => declare fields text
  | none => .ok fields

theorem declareBody_eq_error_iff {fields : Table String} {body : Option String} {e : BuildError} :
    declareBody fields body = .error e ↔ ∃ text, body = some text ∧ declare fields text = .error e := by
  cases body <;> simp [declareBody]

theorem build_of_request (hr : scope.request = some r) :
    buildWith isAbsolute settings scope = (do
      let url ← (rawUrl isAbsolute r.path (scope.headers.get? hostHeader)).mapError .resolve
      let body := r.body.map (Template.interpolate scope.vars .plain)
      let fields ← declareBody (expandedHeaders settings scope) body
      .ok ⟨r.method, Template.interpolate scope.vars .percent url, fields, body⟩) := by
  rw [buildWith, Scope.theRequest, hr]
  dsimp only [Except.mapError, bind, Except.bind]
  cases rawUrl isAbsolute r.path (scope.headers.get? hostHeader) with
  | error cause => rfl
  | ok url => cases r.body <;> rfl

theorem build_of_no_request (h : scope.request = none) :
    buildWith isAbsolute settings scope = .error (.resolve (.noRequest scope.line)) := by
  rw [buildWith, Scope.theRequest, h]
  rfl

theorem build_eq_ok_iff : buildWith isAbsolute settings scope = .ok draft ↔
    ∃ r url, scope.request = some r ∧
      rawUrl isAbsolute r.path (scope.headers.get? hostHeader) = .ok url ∧
      draft.method = r.method ∧ draft.url = Template.interpolate scope.vars .percent url ∧
      draft.body = r.body.map (Template.interpolate scope.vars .plain) ∧
      declareBody (expandedHeaders settings scope) draft.body = .ok draft.headers := by
  cases hr : scope.request with
  | none => simp [build_of_no_request hr]
  | some r =>
    rw [build_of_request hr]
    constructor
    · intro h
      obtain ⟨url, hurl, h⟩ := bind_eq_ok_iff.mp h
      obtain ⟨fields, hfields, h⟩ := bind_eq_ok_iff.mp h
      cases h
      exact ⟨r, url, rfl, mapError_eq_ok_iff.mp hurl, rfl, rfl, rfl, hfields⟩
    · obtain ⟨method, address, headers, body⟩ := draft
      rintro ⟨r', url, hr', hurl, rfl, rfl, rfl, hfields⟩
      cases hr'
      refine bind_eq_ok_iff.mpr ⟨url, mapError_eq_ok_iff.mpr hurl, ?_⟩
      exact bind_eq_ok_iff.mpr ⟨headers, hfields, rfl⟩

theorem build_eq_error_iff {e : BuildError} : buildWith isAbsolute settings scope = .error e ↔
    (scope.request = none ∧ e = .resolve (.noRequest scope.line)) ∨
    ∃ r, scope.request = some r ∧
      ((∃ cause, rawUrl isAbsolute r.path (scope.headers.get? hostHeader) = .error cause ∧
          e = .resolve cause) ∨
        ∃ url, rawUrl isAbsolute r.path (scope.headers.get? hostHeader) = .ok url ∧
          declareBody (expandedHeaders settings scope)
            (r.body.map (Template.interpolate scope.vars .plain)) = .error e) := by
  cases hr : scope.request with
  | none =>
    rw [build_of_no_request hr, Except.error.injEq]
    simp [eq_comm]
  | some r =>
    rw [build_of_request hr, bind_eq_error_iff, mapError_eq_error_iff]
    simp only [reduceCtorEq, false_and, false_or, Option.some.injEq, exists_eq_left']
    refine or_congr ⟨?_, ?_⟩ ⟨?_, ?_⟩
    · rintro ⟨cause, hurl, rfl⟩
      exact ⟨cause, hurl, rfl⟩
    · rintro ⟨cause, hurl, rfl⟩
      exact ⟨cause, hurl, rfl⟩
    · rintro ⟨url, hurl, h⟩
      rcases bind_eq_error_iff.mp h with h | ⟨fields, -, h⟩
      · exact ⟨url, mapError_eq_ok_iff.mp hurl, h⟩
      · cases h
    · rintro ⟨url, hurl, h⟩
      exact ⟨url, mapError_eq_ok_iff.mpr hurl, bind_eq_error_iff.mpr (.inl h)⟩

theorem error_of_build {e : BuildError} (hr : scope.request = some r)
    (h : buildWith isAbsolute settings scope = .error e) :
    e = .resolve .noHost ∨ ∃ contentType cause, e = .content contentType cause := by
  rcases build_eq_error_iff.mp h with ⟨hnone, -⟩ | ⟨r', hr', ⟨cause, hurl, rfl⟩ | ⟨url, -, hbody⟩⟩
  · rw [hr] at hnone
    cases hnone
  · obtain ⟨-, -, rfl⟩ := rawUrl_eq_error_iff.mp hurl
    exact .inl rfl
  · obtain ⟨text, -, hdeclare⟩ := declareBody_eq_error_iff.mp hbody
    obtain ⟨contentType, cause, -, -, -, rfl⟩ := declare_eq_error_iff.mp hdeclare
    exact .inr ⟨contentType, cause, rfl⟩

theorem get?_of_declare {fields fields' : Table String} {text key value : String}
    (h : declare fields text = .ok fields') (hvalue : fields.get? key = some value) :
    fields'.get? key = some value := by
  rw [declare] at h
  split at h
  · split at h
    · split at h
      · cases h
        exact hvalue
      · cases h
    · cases h
      exact hvalue
  · rename_i hundeclared
    cases h
    have hne : key ≠ contentTypeHeader := by
      rintro rfl
      rw [hundeclared] at hvalue
      cases hvalue
    split
    · rw [Table.get?_insert, if_neg hne, hvalue]
    · exact hvalue

theorem texts_of_build (hr : scope.request = some r)
    (h : buildWith isAbsolute settings scope = .ok draft) :
    (∃ url, rawUrl isAbsolute r.path (scope.headers.get? hostHeader) = .ok url ∧
        draft.url = Template.interpolate scope.vars .percent url) ∧
      draft.body = r.body.map (Template.interpolate scope.vars .plain) ∧
      ∀ key text, (expandedHeaders settings scope).get? key = some text →
        draft.headers.get? key = some text := by
  obtain ⟨r', url, hr', hurl, -, haddress, hbody, hfields⟩ := build_eq_ok_iff.mp h
  obtain rfl : r = r' := Option.some.inj (hr.symm.trans hr')
  refine ⟨⟨url, hurl, haddress⟩, hbody, fun key text htext => ?_⟩
  cases hraw : draft.body with
  | none =>
    rw [hraw] at hfields
    rw [← Except.ok.inj hfields]
    exact htext
  | some body =>
    rw [hraw] at hfields
    exact get?_of_declare hfields htext

theorem rawUrl_of_isAbsolute {path url : String} {host : Option Definition}
    (h : isAbsolute path = true) (hurl : rawUrl isAbsolute path host = .ok url) : url = path := by
  unfold rawUrl at hurl
  rw [if_pos h] at hurl
  cases hurl
  rfl

def seam (host path : String) : String :=
  if host.toList.getLast? = some '/' ∨ path.toList.head? = some '/' then "" else "/"

theorem joinHost_eq (host path : String) : joinHost host path = host ++ seam host path ++ path := by
  have hslash : (host.toList.getLast? == some '/' || path.toList.head? == some '/') = true ↔
      host.toList.getLast? = some '/' ∨ path.toList.head? = some '/' := by
    rw [Bool.or_eq_true, beq_iff_eq, beq_iff_eq]
  rw [joinHost, seam]
  split <;> rename_i h
  · rw [if_pos (hslash.mp h), String.append_empty]
  · rw [if_neg (mt hslash.mpr h)]

theorem slash_of_seam (host path : String) : host.toList.getLast? = some '/' ∨
    ((seam host path).toList ++ path.toList).head? = some '/' := by
  rw [seam]
  split
  · assumption
  · exact .inr rfl

theorem dollar_notMem_seam (host path : String) : '$' ∉ (seam host path).toList := by
  rw [seam]
  split <;> decide

theorem exists_of_rawUrl {path url : String} {host : Option Definition}
    (h : isAbsolute path = false) (hurl : rawUrl isAbsolute path host = .ok url) :
    ∃ d, host = some d ∧ url = joinHost d.text path := by
  unfold rawUrl at hurl
  rw [h, if_neg Bool.false_ne_true] at hurl
  cases host with
  | none => cases hurl
  | some d =>
    cases hurl
    exact ⟨d, rfl, rfl⟩

theorem exists_front_of_rawUrl {path url : String} {host : Option Definition}
    (hurl : rawUrl isAbsolute path host = .ok url) : ∃ front, url.toList = front ++ path.toList := by
  cases habsolute : isAbsolute path with
  | true => exact ⟨[], congrArg String.toList (rawUrl_of_isAbsolute habsolute hurl)⟩
  | false =>
    obtain ⟨d, -, rfl⟩ := exists_of_rawUrl habsolute hurl
    exact ⟨(d.text ++ seam d.text path).toList, by rw [joinHost_eq, String.toList_append]⟩

theorem mem_references_joinHost {host path : String} {name : List Char}
    (h : name ∈ Template.references (joinHost host path).toList) :
    name ∈ Template.references host.toList ∨ name ∈ Template.references path.toList := by
  rw [joinHost_eq, String.append_assoc, String.toList_append] at h
  have hslash := slash_of_seam host path
  rw [← String.toList_append] at hslash
  refine (Template.mem_references_append hslash h).imp_right fun hpath => ?_
  rw [String.toList_append] at hpath
  exact Template.mem_references_of_notMem (dollar_notMem_seam host path) hpath

theorem mem_references_rawUrl {path url : String} {host : Option Definition} {name : List Char}
    (h : rawUrl isAbsolute path host = .ok url) (hname : name ∈ Template.references url.toList) :
    (∃ d, host = some d ∧ name ∈ Template.references d.text.toList) ∨
      name ∈ Template.references path.toList := by
  unfold rawUrl at h
  split at h
  · cases h
    exact .inr hname
  · cases host with
    | none => cases h
    | some d =>
      cases h
      exact (mem_references_joinHost hname).imp_left fun hd => ⟨d, rfl, hd⟩

end RequestBook.Draft
