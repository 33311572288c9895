import RequestBook.Proofs.Draft.Json
import RequestBook.Proofs.Lint.Token
import RequestBook.Proofs.Template.Longest

namespace RequestBook

open RequestBook.Text

namespace Scope

def valueOf (scope : Scope) (encoding : Template.Encoding) (name : String) : Option String :=
  (scope.var? name).map fun d => encoding.apply d.text

theorem toList_interpolate (scope : Scope) (encoding : Template.Encoding) (text : String) :
    (Template.interpolate scope.vars encoding text).toList =
      Template.expand (scope.valueOf encoding) text.toList :=
  String.toList_ofList

/-- The text is what `before` and `after` are expanded to, with such a piece between them. -/
def Puts (scope : Scope) (becomes : Template.Encoding → List Char → Prop)
    (encoding : Template.Encoding) (before after : List Char) (text : String) : Prop :=
  ∃ piece, becomes encoding piece ∧ text.toList =
    Template.expand (scope.valueOf encoding) before ++
      (piece ++ Template.expand (scope.valueOf encoding) after)

/-- What a name that is no variable becomes, with the dollar sign before it. It is kept where no
shorter name that begins it is a variable; otherwise the longest of these is replaced. -/
inductive Becomes (scope : Scope) (name : List Char) (encoding : Template.Encoding) :
    List Char → Prop
  | kept : (∀ start rest, name = start ++ rest → start ≠ [] → rest ≠ [] →
      scope.var? (String.ofList start) = none) → Becomes scope name encoding ('$' :: name)
  | replaced {start rest d} : name = start ++ rest → start ≠ [] → rest ≠ [] →
      scope.var? (String.ofList start) = some d →
      (∀ more left, rest = more ++ left → more ≠ [] → left ≠ [] →
        scope.var? (String.ofList (start ++ more)) = none) →
      Becomes scope name encoding ((encoding.apply d.text).toList ++ rest)

variable {scope : Scope} {name before after : List Char} {encoding : Template.Encoding}

theorem valueOf_eq_none_iff {name : String} :
    scope.valueOf encoding name = none ↔ scope.var? name = none :=
  Option.map_eq_none_iff

theorem becomes_of_undefined (hundefined : scope.var? (String.ofList name) = none)
    {piece : List Char} (h : Template.Becomes (scope.valueOf encoding) name piece) :
    scope.Becomes name encoding piece := by
  cases h with
  | kept hnone =>
    refine .kept fun start rest hname hne _ => ?_
    exact valueOf_eq_none_iff.mp (hnone start hne ⟨rest, hname.symm⟩)
  | @replaced start rest v hne hvalue hnone =>
    obtain ⟨d, hd, rfl⟩ := Option.map_eq_some_iff.mp hvalue
    have hrest : rest ≠ [] := by
      rintro rfl
      rw [List.append_nil, hd] at hundefined
      cases hundefined
    refine .replaced rfl hne hrest hd fun more left hmore hne' _ => ?_
    exact valueOf_eq_none_iff.mp (hnone more hne' ⟨left, hmore.symm⟩)

theorem puts_interpolate {text : String} (hundefined : scope.var? (String.ofList name) = none)
    (hname : ∀ c ∈ name, isNameChar c = true) (h : Template.Names name before after text.toList)
    (encoding : Template.Encoding) : scope.Puts (scope.Becomes name) encoding before after
      (Template.interpolate scope.vars encoding text) := by
  obtain ⟨piece, hpiece, hexpand⟩ :=
    @Template.expand_dollar (scope.valueOf encoding) name after hname h.2
  refine ⟨piece, becomes_of_undefined hundefined hpiece, ?_⟩
  rw [toList_interpolate, h.1, Template.expand_append (stops_cons.mpr rfl), hexpand]

end Scope

namespace Draft

variable {isAbsolute : String → Bool} {settings : Settings} {scope : Scope} {r : Request}
  {draft : Draft}

/-- What a name becomes wherever it stands behind a dollar sign in the texts of a request: in the
path, in the host unless the path is a URL of its own, in the other headers, and in the body. -/
structure Renders (isAbsolute : String → Bool) (scope : Scope) (r : Request) (name : List Char)
    (becomes : Template.Encoding → List Char → Prop) (draft : Draft) : Prop where
  path : ∀ before after, Template.Names name before after r.path.toList → ∃ front,
    rawUrl isAbsolute r.path (scope.headers.get? hostHeader) =
        .ok (String.ofList (front ++ r.path.toList)) ∧
      scope.Puts becomes .percent (front ++ before) after draft.url
  host : ∀ d before after, scope.headers.get? hostHeader = some d → isAbsolute r.path = false →
    Template.Names name before after d.text.toList → ∃ back,
      rawUrl isAbsolute r.path (some d) = .ok (String.ofList (d.text.toList ++ back)) ∧
        scope.Puts becomes .percent before (after ++ back) draft.url
  header : ∀ key d before after, scope.headers.get? key = some d → key ≠ hostHeader →
    Template.Names name before after d.text.toList → ∃ text, draft.headers.get? key = some text ∧
      scope.Puts becomes .plain before after text
  body : ∀ template before after, r.body = some template →
    Template.Names name before after template.toList → ∃ text, draft.body = some text ∧
      scope.Puts becomes .plain before after text

theorem renders_of_build {name : List Char} (hundefined : scope.var? (String.ofList name) = none)
    (hname : ∀ c ∈ name, isNameChar c = true) (hr : scope.request = some r)
    (h : buildWith isAbsolute settings scope = .ok draft) :
    draft.Renders isAbsolute scope r name (scope.Becomes name) := by
  obtain ⟨⟨url, hurl, hdraft⟩, hbody, hheaders⟩ := texts_of_build hr h
  constructor
  case path =>
    intro before after hnames
    obtain ⟨front, hfront⟩ := exists_front_of_rawUrl hurl
    refine ⟨front, by rw [← hfront, String.ofList_toList, hurl], ?_⟩
    rw [hdraft]
    refine Scope.puts_interpolate hundefined hname ?_ .percent
    rw [hfront]
    exact hnames.behind front
  case host =>
    intro d before after hd habsolute hnames
    obtain ⟨d', hd', rfl⟩ := exists_of_rawUrl habsolute hurl
    obtain rfl : d = d' := Option.some.inj (hd.symm.trans hd')
    have htext : (joinHost d.text r.path).toList =
        d.text.toList ++ ((seam d.text r.path).toList ++ r.path.toList) := by
      rw [joinHost_eq, String.append_assoc, String.toList_append, String.toList_append]
    refine ⟨_, by rw [← htext, String.ofList_toList, ← hd, hurl], ?_⟩
    rw [hdraft]
    refine Scope.puts_interpolate hundefined hname ?_ .percent
    rw [htext]
    exact hnames.before_slash hname (slash_of_seam d.text r.path)
  case header =>
    intro key d before after hd hkey hnames
    refine ⟨_, hheaders key _ (get?_expandedHeaders hd hkey), ?_⟩
    exact Scope.puts_interpolate hundefined hname hnames .plain
  case body =>
    intro template before after htemplate hnames
    refine ⟨_, by rw [hbody, htemplate, Option.map_some], ?_⟩
    exact Scope.puts_interpolate hundefined hname hnames .plain

theorem undefined_of_reported {w : Diagnostic} {name : List Char}
    (hw : w ∈ Lint.undefinedReferences scope)
    (hmessage : w.message = Lint.undefinedMessage ('$' :: name)) :
    scope.var? (String.ofList name) = none ∧ ∀ c ∈ name, isNameChar c = true := by
  obtain ⟨passage, -, name', hname', hundefined, rfl⟩ := Lint.mem_undefinedReferences_iff.mp hw
  rw [Lint.message_locate, Lint.undefinedMessage_inj, List.cons.injEq] at hmessage
  obtain ⟨-, rfl⟩ := hmessage
  exact ⟨hundefined, (Lint.occurs_of_mem_references hname').2.1⟩

/-- A reference to a name that is reported is kept wherever a request is expanded, unless a shorter
name that begins it is a variable. -/
theorem renders_of_reported {w : Diagnostic} {name : List Char} (hr : scope.request = some r)
    (hw : w ∈ Lint.undefinedReferences scope)
    (hmessage : w.message = Lint.undefinedMessage ('$' :: name)) :
    (∀ encoding text before after, Template.Names name before after text.toList →
      scope.Puts (scope.Becomes name) encoding before after
        (Template.interpolate scope.vars encoding text)) ∧
    ∀ isAbsolute settings draft, buildWith isAbsolute settings scope = .ok draft →
      draft.Renders isAbsolute scope r name (scope.Becomes name) := by
  obtain ⟨hundefined, hname⟩ := undefined_of_reported hw hmessage
  constructor
  · intro encoding text before after hnames
    exact Scope.puts_interpolate hundefined hname hnames encoding
  · intro isAbsolute settings draft hdraft
    exact renders_of_build hundefined hname hr hdraft

/-- The name of a variable begins that of a reference in the path and in the body. -/
def shortened : String :=
  "Host: h\n$ship = \"a b\"\nPOST /$ships\n$ships"

def shortenedRequest : Request :=
  ⟨.post, "/$ships", some "$ships", none, [], ⟨22, 41⟩⟩

def shortenedBook : Book :=
  ⟨shortened, [.definition ⟨.header, "Host", .text "h", ⟨0, 7⟩⟩,
    .definition ⟨.variable, "ship", .text "a b", ⟨8, 21⟩⟩, .request shortenedRequest]⟩

theorem exists_shortened_draft : ∃ scope draft, Scope.resolve shortenedBook 3 = .ok scope ∧
    scope.request = some shortenedRequest ∧
      Lint.warningAt ⟨3, 7⟩ "$ships".toList ∈ Lint.undefinedReferences scope ∧
        buildWith Url.isAbsolute Settings.default scope = .ok draft ∧ draft.url = "h/a%20bs" ∧
          draft.body = some "a bs" :=
  ⟨_, _, rfl, rfl, by decide, rfl, by decide +kernel, by decide +kernel⟩

theorem renders_of_reported_shortened : Book.parse shortened = .ok shortenedBook ∧
    ∃ scope draft, Scope.resolve shortenedBook 3 = .ok scope ∧
      Lint.warningAt ⟨3, 7⟩ "$ships".toList ∈ Lint.undefinedReferences scope ∧
        buildWith Url.isAbsolute Settings.default scope = .ok draft ∧
          draft.Renders Url.isAbsolute scope shortenedRequest "ships".toList
            (scope.Becomes "ships".toList) := by
  obtain ⟨scope, draft, hscope, hr, hw, hdraft, -⟩ := exists_shortened_draft
  exact ⟨rfl, scope, draft, hscope, hw, hdraft, (renders_of_reported hr hw rfl).2 _ _ _ hdraft⟩

/-- The reference in the body is not kept, although there is a warning for it. -/
theorem not_renders_shortened : Book.parse shortened = .ok shortenedBook ∧
    ∃ scope draft, Scope.resolve shortenedBook 3 = .ok scope ∧
      Lint.warningAt ⟨3, 7⟩ "$ships".toList ∈ Lint.undefinedReferences scope ∧
        buildWith Url.isAbsolute Settings.default scope = .ok draft ∧
          ¬draft.Renders Url.isAbsolute scope shortenedRequest "ships".toList
            fun _ piece => piece = "$ships".toList := by
  obtain ⟨scope, draft, hscope, -, hw, hdraft, -, hbody⟩ := exists_shortened_draft
  refine ⟨rfl, scope, draft, hscope, hw, hdraft, fun h => ?_⟩
  obtain ⟨text, htext, piece, rfl, hlist⟩ := h.body "$ships" [] [] rfl ⟨rfl, stops_nil⟩
  obtain rfl : "a bs" = text := Option.some.inj (hbody.symm.trans htext)
  have hdollar : '$' ∈ "a bs".toList := by
    rw [hlist]
    simp
  exact absurd hdollar (by decide)

end Draft

end RequestBook
