import RequestBook.Proofs.Draft.Json
import RequestBook.Proofs.Scope.Precedence

namespace RequestBook

open RequestBook.Text

theorem find?_sameName {entries : List (String × String)} (h : ∀ e ∈ entries, foldCase e.1 = e.1)
    (name : String) : (entries.find? fun e => sameName e.1 name).map (·.2) =
      entries.lookup (foldCase name) := by
  induction entries with
  | nil => rfl
  | cons e entries ih =>
    obtain ⟨hkey, h⟩ := List.forall_mem_cons.mp h
    have hsame : sameName e.1 name = (foldCase name == e.1) := by
      rw [sameName_comm, sameName, hkey]
    rw [List.find?_cons, List.lookup_cons, hsame]
    cases foldCase name == e.1 with
    | true => rfl
    | false => exact ih h

theorem Table.field?_eq_get? {headers : Table String} (h : ∀ key ∈ headers.names, foldCase key = key)
    (name : String) : headers.field? name = headers.get? (foldCase name) :=
  find?_sameName (fun _ he => h _ (List.mem_map_of_mem he)) name

namespace Draft

/-- The text of the header with a lower-case name, before variables are replaced in it. A visible host
has no part in it. -/
inductive Supplied (settings : Settings) (scope : Scope) (key : String) : String → Prop
  | visible {d} : key ≠ hostHeader → scope.headers.get? key = some d →
      Supplied settings scope key d.text
  | default {name text} : key = hostHeader ∨ scope.headers.get? key = none →
      settings.defaultHeaders.get? name = some text → foldCase name = key →
      (∀ other ∈ settings.defaultHeaders.names, foldCase other = key → other ≤ name) →
      Supplied settings scope key text

/-- No content type is supplied, and the body of the request reads as JSON once its variables are
replaced: without the blanks before it, it begins like an object or a list. -/
inductive Infers (settings : Settings) (scope : Scope) : Prop
  | json {r body text c rest} : (∀ value, ¬Supplied settings scope contentTypeHeader value) →
      scope.request = some r → r.body = some body →
      Template.interpolate scope.vars .plain body = text →
      trimStart text.toList = c :: rest → c = '\x7b' ∨ c = '[' → IsJson (unpadded text) →
      Infers settings scope

inductive Carries (settings : Settings) (scope : Scope) (key : String) : String → Prop
  | supplied {text} : Supplied settings scope key text →
      Carries settings scope key (Template.interpolate scope.vars .plain text)
  | inferred : key = contentTypeHeader → Infers settings scope →
      Carries settings scope key jsonContentType

variable {isAbsolute : String → Bool} {settings : Settings} {scope : Scope} {draft : Draft}
  {book : Book} {line : Nat} {key name text value : String}

theorem get?_ownHeaders_host : (ownHeaders scope).get? hostHeader = none := by
  rw [ownHeaders, Table.get?_map, Table.get?_filter]
  cases scope.headers.get? hostHeader <;> rfl

theorem get?_rawHeaders_iff_supplied :
    (rawHeaders settings scope).get? key = some text ↔ Supplied settings scope key text := by
  rw [rawHeaders, Table.get?_overlay, Option.or_eq_some_iff, foldedDefaults,
    Table.get?_ofList_map_iff]
  by_cases hhost : key = hostHeader
  · subst hhost
    rw [get?_ownHeaders_host]
    constructor
    · rintro (hnone | ⟨-, name, hname, hkey, hlast⟩)
      · cases hnone
      · exact .default (.inl rfl) hname hkey hlast
    · intro h
      cases h with
      | visible hne => exact absurd rfl hne
      | default _ hname hkey hlast => exact .inr ⟨rfl, _, hname, hkey, hlast⟩
  · rw [get?_ownHeaders hhost, Option.map_eq_some_iff, Option.map_eq_none_iff]
    constructor
    · rintro (⟨d, hd, rfl⟩ | ⟨hnone, name, hname, hkey, hlast⟩)
      · exact .visible hhost hd
      · exact .default (.inr hnone) hname hkey hlast
    · intro h
      cases h with
      | visible _ hd => exact .inl ⟨_, hd, rfl⟩
      | default hnone hname hkey hlast =>
        exact .inr ⟨hnone.resolve_left hhost, _, hname, hkey, hlast⟩

theorem get?_expandedHeaders_iff_supplied : (expandedHeaders settings scope).get? key = some value ↔
    ∃ text, Supplied settings scope key text ∧
      Template.interpolate scope.vars .plain text = value := by
  rw [expandedHeaders, Table.get?_map, Option.map_eq_some_iff]
  simp only [get?_rawHeaders_iff_supplied]

theorem get?_expandedHeaders_eq_none_iff : (expandedHeaders settings scope).get? key = none ↔
    ∀ text, ¬Supplied settings scope key text := by
  rw [Option.eq_none_iff_forall_ne_some]
  constructor
  · intro h text htext
    exact h _ (get?_expandedHeaders_iff_supplied.mpr ⟨text, htext, rfl⟩)
  · intro h value hvalue
    obtain ⟨text, htext, -⟩ := get?_expandedHeaders_iff_supplied.mp hvalue
    exact h text htext

theorem isInferredJson_iff : isInferredJson text = true ↔
    (∃ c rest, trimStart text.toList = c :: rest ∧ (c = '\x7b' ∨ c = '[')) ∧
      IsJson (unpadded text) := by
  have hbegins : looksLikeJson text = true ↔
      ∃ c rest, trimStart text.toList = c :: rest ∧ (c = '\x7b' ∨ c = '[') := by
    rw [looksLikeJson]
    cases trimStart text.toList <;> simp
  have hjson : (Json.parse (unpadded text)).isOk = true ↔ IsJson (unpadded text) := by
    constructor
    · exact isJson_of_isOk
    · rintro ⟨value, hvalue⟩
      rw [hvalue]
      rfl
  rw [isInferredJson, Bool.and_eq_true, hbegins]
  exact and_congr_right fun _ => hjson

theorem get?_of_declare_iff {fields fields' : Table String} (h : declare fields text = .ok fields') :
    fields'.get? key = some value ↔ fields.get? key = some value ∨
      (key = contentTypeHeader ∧ value = jsonContentType ∧
        fields.get? contentTypeHeader = none ∧ isInferredJson text = true) := by
  cases hdeclared : fields.get? contentTypeHeader with
  | some declared =>
    rw [(declare_of_declared hdeclared h).1]
    simp
  | none =>
    rw [declare, hdeclared] at h
    cases h
    cases isInferredJson text with
    | true =>
      rw [if_pos rfl, Table.get?_insert]
      by_cases hkey : key = contentTypeHeader
      · subst hkey
        simp [hdeclared, eq_comm]
      · simp [hkey]
    | false => simp

theorem infers_iff {r : Request} (hr : scope.request = some r) : Infers settings scope ↔
    ∃ text, r.body.map (Template.interpolate scope.vars .plain) = some text ∧
      (expandedHeaders settings scope).get? contentTypeHeader = none ∧
        isInferredJson text = true := by
  simp only [get?_expandedHeaders_eq_none_iff, isInferredJson_iff]
  constructor
  · rintro ⟨hunsupplied, hr', hbody, rfl, hbegins, hc, hjson⟩
    obtain rfl := Option.some.inj (hr.symm.trans hr')
    exact ⟨_, by rw [hbody]; rfl, hunsupplied, ⟨_, _, hbegins, hc⟩, hjson⟩
  · rintro ⟨text, hbody, hunsupplied, ⟨c, rest, hbegins, hc⟩, hjson⟩
    obtain ⟨body, hraw, rfl⟩ := Option.map_eq_some_iff.mp hbody
    exact .json hunsupplied hr hraw rfl hbegins hc hjson

theorem carries_iff : Carries settings scope key value ↔
    (expandedHeaders settings scope).get? key = some value ∨
      (key = contentTypeHeader ∧ value = jsonContentType ∧ Infers settings scope) := by
  rw [get?_expandedHeaders_iff_supplied]
  constructor
  · intro h
    cases h with
    | supplied htext => exact .inl ⟨_, htext, rfl⟩
    | inferred hkey hinfers => exact .inr ⟨hkey, rfl, hinfers⟩
  · rintro (⟨text, htext, rfl⟩ | ⟨hkey, rfl, hinfers⟩)
    · exact .supplied htext
    · exact .inferred hkey hinfers

theorem get?_headers_iff_carries (h : buildWith isAbsolute settings scope = .ok draft) :
    draft.headers.get? key = some value ↔ Carries settings scope key value := by
  obtain ⟨r, url, hr, -, -, -, hbody, hfields⟩ := build_eq_ok_iff.mp h
  rw [carries_iff, infers_iff hr, ← hbody]
  cases hdraft : draft.body with
  | none =>
    rw [hdraft] at hfields
    rw [← Except.ok.inj hfields]
    simp
  | some text =>
    rw [hdraft] at hfields
    rw [get?_of_declare_iff hfields]
    simp

theorem mem_names_foldedDefaults_iff : key ∈ (foldedDefaults settings).names ↔
    ∃ name ∈ settings.defaultHeaders.names, foldCase name = key := by
  rw [foldedDefaults, Table.mem_names_ofList, List.map_map, Table.names]
  simp only [List.mem_map, Function.comp_apply]
  constructor
  · rintro ⟨e, he, hkey⟩
    exact ⟨e.1, ⟨e, he, rfl⟩, hkey⟩
  · rintro ⟨_, ⟨e, he, rfl⟩, hkey⟩
    exact ⟨e, he, hkey⟩

theorem mem_names_ownHeaders_iff :
    key ∈ (ownHeaders scope).names ↔ key ≠ hostHeader ∧ key ∈ scope.headers.names := by
  rw [Table.mem_names_iff, Table.mem_names_iff]
  by_cases hhost : key = hostHeader
  · subst hhost
    simp [get?_ownHeaders_host]
  · simp [get?_ownHeaders hhost, hhost]

theorem exists_supplied_iff : (∃ text, Supplied settings scope key text) ↔
    (∃ name ∈ settings.defaultHeaders.names, foldCase name = key) ∨
      (key ≠ hostHeader ∧ key ∈ scope.headers.names) := by
  simp only [← get?_rawHeaders_iff_supplied, ← Option.isSome_iff_exists, rawHeaders,
    Table.get?_overlay, Option.isSome_or, Bool.or_eq_true, ← Table.mem_names_iff,
    mem_names_foldedDefaults_iff, mem_names_ownHeaders_iff]
  exact or_comm

theorem mem_names_iff_carries (h : buildWith isAbsolute settings scope = .ok draft) :
    key ∈ draft.headers.names ↔
    (∃ name ∈ settings.defaultHeaders.names, foldCase name = key) ∨
      (key ≠ hostHeader ∧ key ∈ scope.headers.names) ∨
        (key = contentTypeHeader ∧ Infers settings scope) := by
  rw [← or_assoc, ← exists_supplied_iff, Table.mem_names_iff, Option.isSome_iff_exists]
  simp only [get?_headers_iff_carries h]
  constructor
  · rintro ⟨value, hvalue⟩
    cases hvalue with
    | supplied htext => exact .inl ⟨_, htext⟩
    | inferred hkey hinfers => exact .inr ⟨hkey, hinfers⟩
  · rintro (⟨text, htext⟩ | ⟨hkey, hinfers⟩)
    · exact ⟨_, .supplied htext⟩
    · exact ⟨_, .inferred hkey hinfers⟩

/-- A draft's headers, by the exact names that they have and by names in any case. -/
theorem headers_of_build (hscope : Scope.resolve book line = .ok scope)
    (h : buildWith isAbsolute settings scope = .ok draft) :
    (∀ key value, draft.headers.get? key = some value ↔ Carries settings scope key value) ∧
    (∀ key, key ∈ draft.headers.names ↔
      (∃ name ∈ settings.defaultHeaders.names, foldCase name = key) ∨
        (key ≠ hostHeader ∧ key ∈ scope.headers.names) ∨
          (key = contentTypeHeader ∧ Infers settings scope)) ∧
    (∀ key ∈ draft.headers.names, foldCase key = key) ∧
    ∀ name, draft.header? name = draft.headers.get? (foldCase name) := by
  have hfolded : ∀ key ∈ draft.headers.names, foldCase key = key := by
    intro key hkey
    rcases (mem_names_iff_carries h).mp hkey with ⟨name, -, rfl⟩ | ⟨-, hvisible⟩ | ⟨rfl, -⟩
    · exact foldCase_foldCase name
    · obtain ⟨d, hd⟩ := Option.isSome_iff_exists.mp (Table.mem_names_iff.mp hvisible)
      rw [← (Scope.key_of_get?_headers hscope hd).2, foldCase_foldCase]
    · decide
  exact ⟨fun key value => get?_headers_iff_carries h, fun key => mem_names_iff_carries h, hfolded,
    Table.field?_eq_get? hfolded⟩

def described : String :=
  "$x = 1\nHost: h\nX-B: $x\nPOST /\n[$x]"

def describedBook : Book :=
  ⟨described, [.definition ⟨.variable, "x", .integer 1, ⟨0, 6⟩⟩,
    .definition ⟨.header, "Host", .text "h", ⟨7, 14⟩⟩,
    .definition ⟨.header, "X-B", .text "$x", ⟨15, 22⟩⟩,
    .request ⟨.post, "/", some "[$x]", none, [], ⟨23, 34⟩⟩]⟩

/-- Default headers that name the host, a visible header, and another one twice. -/
def describing : Settings :=
  ⟨Table.ofList [("Host", "d"), ("X-A", "1"), ("x-a", "2"), ("X-B", "3")], true, true, false⟩

theorem headers_of_build_described : Book.parse described = .ok describedBook ∧
    ∃ scope draft, Scope.resolve describedBook 4 = .ok scope ∧
      buildWith Url.isAbsolute describing scope = .ok draft ∧
      draft.headers.entries =
        [("content-type", "application/json"), ("host", "d"), ("x-a", "2"), ("x-b", "1")] ∧
      Carries describing scope "x-a" "2" ∧
        Carries describing scope contentTypeHeader jsonContentType ∧
          draft.header? "X-A" = draft.headers.get? (foldCase "X-A") := by
  obtain ⟨scope, draft, hscope, hdraft, hentries⟩ : ∃ scope draft,
      Scope.resolve describedBook 4 = .ok scope ∧
        buildWith Url.isAbsolute describing scope = .ok draft ∧
        draft.headers.entries =
          [("content-type", "application/json"), ("host", "d"), ("x-a", "2"), ("x-b", "1")] :=
    ⟨_, _, rfl, rfl, by decide +kernel⟩
  obtain ⟨hcarries, -, -, hheader⟩ := headers_of_build hscope hdraft
  refine ⟨rfl, scope, draft, hscope, hdraft, hentries, (hcarries _ _).mp ?_, (hcarries _ _).mp ?_,
    hheader "X-A"⟩
  · rw [Table.get?, hentries]
    decide
  · rw [Table.get?, hentries]
    decide

end Draft

end RequestBook
