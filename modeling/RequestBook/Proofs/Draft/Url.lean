import RequestBook.Grammar.Reading
import RequestBook.Proofs.Draft.Texts
import RequestBook.Proofs.Template.Longest
import RequestBook.Url.Absolute

/-!
The URL of a draft. Host and path are joined before variables are replaced, but there is a slash where
they meet, and no name goes on over a slash. Main statement: the URL is the host and the path, each
with its own variables replaced, and what is between them.
-/

namespace RequestBook.Draft

open RequestBook.Text

variable {isAbsolute : String → Bool} {settings : Settings} {scope : Scope} {draft : Draft}

theorem interpolate_append_of_slash (vars : Table Definition) (encoding : Template.Encoding)
    {a b : String} (h : a.toList.getLast? = some '/' ∨ b.toList.head? = some '/') :
    Template.interpolate vars encoding (a ++ b) =
      Template.interpolate vars encoding a ++ Template.interpolate vars encoding b := by
  simp only [Template.interpolate]
  rw [String.toList_append, Template.expand_append_of_slash h, String.ofList_append]

theorem interpolate_joinHost (vars : Table Definition) (encoding : Template.Encoding)
    (host path : String) : Template.interpolate vars encoding (joinHost host path) =
      Template.interpolate vars encoding host ++ seam host path ++
        Template.interpolate vars encoding path := by
  have hpath : Template.interpolate vars encoding (seam host path ++ path) =
      seam host path ++ Template.interpolate vars encoding path := by
    rw [Template.interpolate, String.toList_append,
      Template.expand_append_of_notMem (dollar_notMem_seam host path), String.ofList_append,
      String.ofList_toList, Template.interpolate]
  have hslash := slash_of_seam host path
  rw [← String.toList_append] at hslash
  rw [joinHost_eq, String.append_assoc, interpolate_append_of_slash vars encoding hslash, hpath,
    String.append_assoc]

theorem names_joinHost_iff {host path : String} {name before after : List Char}
    (hname : ∀ c ∈ name, isNameChar c = true) :
    Template.Names name before after (joinHost host path).toList ↔
      (∃ back, after = back ++ (seam host path ++ path).toList ∧
        Template.Names name before back host.toList) ∨
      ∃ front, before = (host ++ seam host path).toList ++ front ∧
        Template.Names name front after path.toList := by
  have hslash := slash_of_seam host path
  simp only [joinHost_eq, String.toList_append, List.append_assoc]
  rw [Template.names_append_iff hname hslash]
  refine or_congr Iff.rfl ⟨?_, ?_⟩
  · rintro ⟨front, rfl, hnames⟩
    obtain ⟨inner, rfl, hinner⟩ :=
      (Template.names_append_of_notMem (dollar_notMem_seam host path)).mp hnames
    exact ⟨inner, rfl, hinner⟩
  · rintro ⟨front, rfl, hnames⟩
    exact ⟨_, rfl, hnames.behind _⟩

/-- The URL of a draft, from its path and the visible host. To join these makes no name, and none
longer. -/
theorem url_of_build (h : buildWith isAbsolute settings scope = .ok draft) :
    ∃ r, scope.request = some r ∧
    (isAbsolute r.path = true →
      draft.url = Template.interpolate scope.vars .percent r.path) ∧
    (isAbsolute r.path = false → ∃ d, scope.header? hostHeader = some d ∧
      draft.url = Template.interpolate scope.vars .percent d.text ++ seam d.text r.path ++
        Template.interpolate scope.vars .percent r.path ∧
      ∀ name before after, (∀ c ∈ name, isNameChar c = true) →
        (Template.Names name before after (joinHost d.text r.path).toList ↔
          (∃ back, after = back ++ (seam d.text r.path ++ r.path).toList ∧
            Template.Names name before back d.text.toList) ∨
          ∃ front, before = (d.text ++ seam d.text r.path).toList ++ front ∧
            Template.Names name front after r.path.toList)) := by
  obtain ⟨r, url, hr, hurl, -, haddress, -, -⟩ := build_eq_ok_iff.mp h
  refine ⟨r, hr, fun habsolute => ?_, fun habsolute => ?_⟩
  · rw [haddress, rawUrl_of_isAbsolute habsolute hurl]
  · obtain ⟨d, hd, rfl⟩ := exists_of_rawUrl habsolute hurl
    refine ⟨d, hd, ?_, fun name before after hname => names_joinHost_iff hname⟩
    rw [haddress, interpolate_joinHost]

/-- The host ends with a name that a variable has, and with the path behind it a longer one has. -/
def adjoined : String :=
  "Host: h$na\n$na = \"x y\"\n$name = \"z\"\nGET me"

def adjoinedRequest : Request :=
  ⟨.get, "me", none, none, [], ⟨35, 41⟩⟩

def adjoinedBook : Book :=
  ⟨adjoined, [.definition ⟨.header, "Host", .text "h$na", ⟨0, 10⟩⟩,
    .definition ⟨.variable, "na", .text "x y", ⟨11, 22⟩⟩,
    .definition ⟨.variable, "name", .text "z", ⟨23, 34⟩⟩, .request adjoinedRequest]⟩

theorem url_of_build_adjoined : Book.parse adjoined = .ok adjoinedBook ∧
    ∃ scope draft d, Scope.resolve adjoinedBook 4 = .ok scope ∧
      scope.request = some adjoinedRequest ∧ Url.isAbsolute adjoinedRequest.path = false ∧
      buildWith Url.isAbsolute Settings.default scope = .ok draft ∧ draft.url = "hx%20y/me" ∧
        scope.header? hostHeader = some d ∧
          draft.url = Template.interpolate scope.vars .percent d.text ++
            seam d.text adjoinedRequest.path ++
            Template.interpolate scope.vars .percent adjoinedRequest.path := by
  obtain ⟨scope, draft, hscope, hrequest, hdraft, hurl⟩ : ∃ scope draft,
      Scope.resolve adjoinedBook 4 = .ok scope ∧ scope.request = some adjoinedRequest ∧
        buildWith Url.isAbsolute Settings.default scope = .ok draft ∧ draft.url = "hx%20y/me" :=
    ⟨_, _, rfl, rfl, rfl, by decide +kernel⟩
  have habsolute : Url.isAbsolute adjoinedRequest.path = false := by decide
  obtain ⟨r, hr, -, hjoined⟩ := url_of_build hdraft
  obtain rfl := Option.some.inj (hrequest.symm.trans hr)
  obtain ⟨d, hd, haddress, -⟩ := hjoined habsolute
  exact ⟨rfl, scope, draft, d, hscope, hrequest, habsolute, hdraft, hurl, hd, haddress⟩

end RequestBook.Draft
