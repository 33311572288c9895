import RequestBook.Proofs.Draft.Texts
import RequestBook.Proofs.Template.Tokens

/-!
When there is no draft. A request, then a URL, and then a body that is the JSON it is declared to be
are needed. Main statement: nothing else prevents a draft, a reference to an undefined variable
neither; it is read as it is written.
-/

namespace RequestBook.Draft

/-- What prevents a draft. A default header is no host, but it declares a body where no visible header
does, and variables are replaced in what is declared and in the body before these are looked at. -/
inductive Fails (isAbsolute : String → Bool) (settings : Settings) (scope : Scope) :
    BuildError → Prop
  | noRequest : scope.request = none →
      Fails isAbsolute settings scope (.resolve (.noRequest scope.line))
  | noHost {r} : scope.request = some r → isAbsolute r.path = false →
      scope.header? hostHeader = none → Fails isAbsolute settings scope (.resolve .noHost)
  | content {r body text e} : scope.request = some r →
      isAbsolute r.path = true ∨ (scope.header? hostHeader).isSome = true →
      r.body = some body → Effective settings scope contentTypeHeader text →
      isJsonContentType (Template.interpolate scope.vars .plain text) = true →
      Json.parse (Template.interpolate scope.vars .plain body) = .error e →
      Fails isAbsolute settings scope (.content (Template.interpolate scope.vars .plain text) e)

variable {isAbsolute : String → Bool} {settings : Settings} {scope : Scope}

theorem get?_contentType_iff {value : String} :
    (expandedHeaders settings scope).get? contentTypeHeader = some value ↔
      ∃ text, Effective settings scope contentTypeHeader text ∧
        Template.interpolate scope.vars .plain text = value := by
  have hname : Text.foldCase contentTypeHeader = contentTypeHeader := by decide
  have hhost : Text.foldCase contentTypeHeader ≠ hostHeader := by decide
  rw [← get?_expandedHeaders_iff hhost, hname]

theorem build_eq_error_iff_fails {e : BuildError} :
    buildWith isAbsolute settings scope = .error e ↔ Fails isAbsolute settings scope e := by
  have hhost : scope.headers.get? hostHeader = scope.header? hostHeader := rfl
  rw [build_eq_error_iff, hhost]
  constructor
  · rintro (⟨hr, rfl⟩ | ⟨r, hr, ⟨cause, hurl, rfl⟩ | ⟨url, hurl, hbody⟩⟩)
    · exact .noRequest hr
    · obtain ⟨habsolute, hnone, rfl⟩ := rawUrl_eq_error_iff.mp hurl
      exact .noHost hr habsolute hnone
    · obtain ⟨body, hmap, hdeclare⟩ := declareBody_eq_error_iff.mp hbody
      obtain ⟨body, hraw, rfl⟩ := Option.map_eq_some_iff.mp hmap
      obtain ⟨value, cause, hvalue, hjson, hparse, rfl⟩ := declare_eq_error_iff.mp hdeclare
      obtain ⟨text, htext, rfl⟩ := get?_contentType_iff.mp hvalue
      exact .content hr (exists_rawUrl_iff.mp ⟨url, hurl⟩) hraw htext hjson hparse
  · intro h
    cases h with
    | noRequest hr => exact .inl ⟨hr, rfl⟩
    | @noHost r hr habsolute hnone =>
      exact .inr ⟨r, hr, .inl ⟨_, rawUrl_eq_error_iff.mpr ⟨habsolute, hnone, rfl⟩, rfl⟩⟩
    | @content r body text e hr hreaches hraw htext hjson hparse =>
      obtain ⟨url, hurl⟩ := exists_rawUrl_iff.mpr hreaches
      refine .inr ⟨r, hr, .inr ⟨url, hurl, declareBody_eq_error_iff.mpr ⟨_, by rw [hraw]; rfl, ?_⟩⟩⟩
      exact declare_eq_error_iff.mpr
        ⟨_, e, get?_contentType_iff.mpr ⟨text, htext, rfl⟩, hjson, hparse, rfl⟩

theorem fails_resolve_iff {e : ResolveError} : Fails isAbsolute settings scope (.resolve e) ↔
    (scope.request = none ∧ e = .noRequest scope.line) ∨
      ∃ r, scope.request = some r ∧ isAbsolute r.path = false ∧
        scope.header? hostHeader = none ∧ e = .noHost := by
  constructor
  · intro h
    cases h with
    | noRequest hr => exact .inl ⟨hr, rfl⟩
    | noHost hr habsolute hnone => exact .inr ⟨_, hr, habsolute, hnone, rfl⟩
  · rintro (⟨hr, rfl⟩ | ⟨r, hr, habsolute, hnone, rfl⟩)
    · exact .noRequest hr
    · exact .noHost hr habsolute hnone

/-- When there is no draft and why, and what undefined variables have to do with it: they do not matter
for the request and the URL, and a body that refers to nothing defined is the JSON that it is declared
to be if the text that is written is. -/
theorem build_fails_iff (isAbsolute : String → Bool) (settings : Settings) (scope : Scope) :
    (∀ e, buildWith isAbsolute settings scope = .error e ↔ Fails isAbsolute settings scope e) ∧
    ((∃ draft, buildWith isAbsolute settings scope = .ok draft) ↔
      ∀ e, ¬Fails isAbsolute settings scope e) ∧
    (∀ vars e, buildWith isAbsolute settings { scope with vars := vars } = .error (.resolve e) ↔
      buildWith isAbsolute settings scope = .error (.resolve e)) ∧
    ∀ r body, scope.request = some r → r.body = some body →
      (∀ before name d, ¬Template.Token scope.vars.get? body.toList before name d) →
        ∀ contentType e, buildWith isAbsolute settings scope = .error (.content contentType e) →
          Json.parse body = .error e := by
  refine ⟨fun e => build_eq_error_iff_fails, ?_, fun vars e => ?_, ?_⟩
  · simp only [← build_eq_error_iff_fails]
    cases buildWith isAbsolute settings scope with
    | ok draft => simp
    | error e => simp
  · rw [build_eq_error_iff_fails, build_eq_error_iff_fails, fails_resolve_iff, fails_resolve_iff]
    rfl
  · intro r body hr hbody hundefined contentType e h
    cases build_eq_error_iff_fails.mp h with
    | content hr' _ hbody' _ _ hparse =>
      obtain rfl := Option.some.inj (hr.symm.trans hr')
      obtain rfl := Option.some.inj (hbody.symm.trans hbody')
      rw [Template.interpolate_of_no_token hundefined] at hparse
      exact hparse

end RequestBook.Draft
