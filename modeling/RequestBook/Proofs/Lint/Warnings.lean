import RequestBook.Proofs.Lint.Placement

namespace RequestBook

open RequestBook.Text

theorem lead_unique {lead lead' part rest rest' : List Char} (hlead : '$' ∉ lead)
    (hlead' : '$' ∉ lead') (hpart : '$' ∈ part)
    (h : lead ++ (part ++ rest) = lead' ++ (part ++ rest')) : lead = lead' := by
  obtain ⟨y, z, rfl, hy⟩ := List.eq_append_cons_of_mem hpart
  have hrun {lead rest : List Char} (hlead : '$' ∉ lead) :
      (lead ++ (y ++ '$' :: z ++ rest)).takeWhile (· != '$') = lead ++ y := by
    have hsplit : lead ++ (y ++ '$' :: z ++ rest) = lead ++ y ++ '$' :: (z ++ rest) := by simp
    rw [hsplit]
    refine takeWhile_append_of_stops (fun c hc => bne_iff_ne.mpr ?_) (stops_cons.mpr rfl)
    rintro rfl
    exact (List.mem_append.mp hc).elim hlead hy
  have heq := congrArg (List.takeWhile (· != '$')) h
  rw [hrun hlead, hrun hlead'] at heq
  exact List.append_cancel_right heq

namespace HeaderAt

variable {lines : Lines} {passed passed' after after' : List Line} {line line' : Line}
  {d d' : Definition}

theorem unique (h : HeaderAt lines passed line after d) (h' : HeaderAt lines passed' line' after' d')
    (hlength : passed.length = passed'.length) : d = d' := by
  obtain ⟨-, heq⟩ := List.append_inj (h.split.symm.trans h'.split) hlength
  obtain ⟨rfl, -⟩ := List.cons.inj heq
  exact Option.some.inj (h.reads.symm.trans h'.reads)

theorem length_ne_of_requestAt {scope : Scope} {first : Line} {heads rows : List Line} {r : Request}
    (h : HeaderAt scope.lines passed line after d)
    (hat : RequestAt scope passed' first heads rows after' r) : passed.length ≠ passed'.length := by
  intro hlength
  obtain ⟨-, heq⟩ := List.append_inj (h.split.symm.trans hat.split) hlength
  obtain ⟨rfl, -⟩ := List.cons.inj heq
  obtain ⟨r₀, hread, -⟩ := hat.on.opens
  cases h.reads.symm.trans (Grammar.Reading.readHeader?_of_readRequest hread)

theorem text_ne_comment (h : HeaderAt lines passed line after d) {indent comment : List Char}
    (hindent : ∀ c ∈ indent, isInline c = true) : line.text ≠ indent ++ '#' :: comment := by
  intro htext
  obtain ⟨c, hhead, hc⟩ := Grammar.head?_of_readHeader? h.reads
  rw [htext, skipInline_append hindent, skipInline_of_stops (stops_cons.mpr rfl)] at hhead
  cases hhead
  cases hc

end HeaderAt

namespace Lint

variable {source : String} {book : Book} {line : Nat} {scope : Scope} {name : List Char}
  {p : Position} {passed heads rows after : List Line} {first : Line} {r : Request}

theorem line_of_live (h : Book.parse source = .ok book)
    (hscope : Scope.resolve book line = .ok scope)
    (hat : RequestAt scope passed first heads rows after r) (hlive : Live scope ('$' :: name) p) :
    (∃ d passed' l after', scope.header? d.name = some d ∧
        HeaderAt scope.lines passed' l after' d ∧ p.line = passed'.length + 1) ∨
      (p.line = passed.length + 1 ∧ ∃ lead rest, r.Leads lead ∧
        StandsIn scope.lines ('$' :: name) lead r.path.toList rest p) ∨
        ∃ text, r.body = some text ∧ passed.length + 1 + heads.length < p.line := by
  cases hlive with
  | @header d lead rest hvisible hline =>
    obtain ⟨-, passed', l, after', hheader⟩ :=
      Scope.exists_headerAt h hscope (Table.mem_values_of_get? hvisible)
    rw [hheader.range] at hline
    exact .inl ⟨d, passed', l, after', hvisible, hheader, hline⟩
  | @path r' lead rest hr hline hlead _ hstands =>
    obtain rfl : r = r' := Option.some.inj (hat.request.symm.trans hr)
    rw [hat.range] at hline
    exact .inr (.inl ⟨hline, lead, rest, hlead, hstands⟩)
  | @body r' text above part below lead rest hr hbody hparts hline =>
    obtain rfl : r = r' := Option.some.inj (hat.request.symm.trans hr)
    have hlength := hat.on.length_splitOn hbody hat.no_break
    rw [hparts] at hlength
    rw [hat.range] at hline
    simp only [List.length_append, List.length_cons] at hlength hline
    exact .inr (.inr ⟨text, hbody, by omega⟩)

theorem not_live_of_trailing {lead between comment : List Char} (h : Book.parse source = .ok book)
    (hscope : Scope.resolve book line = .ok scope)
    (hat : RequestAt scope passed first heads rows after r) (hline : p.line = passed.length + 1)
    (hlead : r.Leads lead)
    (hstands : StandsIn scope.lines ('$' :: name) (lead ++ (r.path.toList ++ (between ++ ['#'])))
      comment [] p) : ¬Live scope ('$' :: name) p := by
  intro hlive
  rcases line_of_live h hscope hat hlive with
    ⟨d, passed', l, after', -, hheader, hline'⟩ | ⟨-, lead', rest, hlead', hstands'⟩ | ⟨_, -, hlt⟩
  · exact hheader.length_ne_of_requestAt hat (Nat.succ.inj (hline'.symm.trans hline))
  · -- the path ends before the comment begins
    obtain ⟨htext, before, hbefore, hcolumn⟩ := hstands
    obtain ⟨htext', before', hbefore', hcolumn'⟩ := hstands'
    have heq := Option.some.inj (htext'.symm.trans htext)
    simp only [List.append_assoc] at heq
    obtain rfl := lead_unique hlead'.no_dollar hlead.no_dollar hbefore'.dollar_mem heq
    have hlt := hbefore'.length_lt
    simp only [List.length_append, List.length_cons] at hcolumn hcolumn'
    omega
  · omega

theorem not_live_of_comment {indent comment : List Char} (h : Book.parse source = .ok book)
    (hscope : Scope.resolve book line = .ok scope)
    (hat : RequestAt scope passed first heads rows after r) (hline : passed.length + 1 < p.line)
    (hbody : ∀ text, r.body = some text → p.line ≤ passed.length + 1 + heads.length)
    (hindent : ∀ c ∈ indent, isInline c = true)
    (hstands : StandsIn scope.lines ('$' :: name) (indent ++ ['#']) comment [] p) :
    ¬Live scope ('$' :: name) p := by
  intro hlive
  rcases line_of_live h hscope hat hlive with
    ⟨d, passed', l, after', -, hheader, hline'⟩ | ⟨hline', -⟩ | ⟨text, htext, hlt⟩
  · have htext := hstands.1
    rw [hline', text?_of_split hheader.split, Option.some.injEq, List.append_nil,
      List.append_assoc, List.singleton_append] at htext
    exact hheader.text_ne_comment hindent htext
  · omega
  · exact absurd (hbody text htext) (Nat.not_le_of_lt hlt)

theorem not_live_of_replaced {d : Definition} (h : Book.parse source = .ok book)
    (hscope : Scope.resolve book line = .ok scope)
    (hat : RequestAt scope passed first heads rows after r) (hd : d ∈ r.headers)
    (hreplaced : scope.header? d.name ≠ some d) (hline : p.line = (scope.lines.lineRange d.span).1) :
    ¬Live scope ('$' :: name) p := by
  intro hlive
  obtain ⟨above, l, below, hheads, hheader⟩ := hat.exists_headerAt hd
  have hlength := congrArg List.length hheads
  rw [hheader.range] at hline
  simp only [List.length_append, List.length_cons] at hlength hline
  rcases line_of_live h hscope hat hlive with
    ⟨d', passed', l', after', hvisible, hheader', hline'⟩ | ⟨hline', -⟩ | ⟨_, -, hlt⟩
  · obtain rfl : d' = d := by
      refine hheader'.unique hheader ?_
      simp only [List.length_append, List.length_cons]
      omega
    exact hreplaced hvisible
  · omega
  · omega

theorem not_live_of_astray (h : Book.parse source = .ok book)
    (hscope : Scope.resolve book line = .ok scope) (hastray : Astray scope ('$' :: name) p) :
    ¬Live scope ('$' :: name) p := by
  cases hastray with
  | trailing hr hline hlead _ _ hstands =>
    obtain ⟨passed, first, heads, rows, after, hat⟩ := Scope.exists_requestAt h hscope hr
    rw [hat.range] at hline
    exact not_live_of_trailing h hscope hat hline hlead hstands
  | comment hr hline hbody hindent hstands =>
    obtain ⟨passed, first, heads, rows, after, hat⟩ := Scope.exists_requestAt h hscope hr
    rw [hat.range] at hline hbody
    refine not_live_of_comment h hscope hat hline (fun text htext => ?_) hindent hstands
    have hle := hbody text htext
    rw [hat.on.length_splitOn htext hat.no_break] at hle
    simp only [List.length_append, List.length_cons] at hle
    omega
  | replaced hr hd hreplaced hline =>
    obtain ⟨passed, first, heads, rows, after, hat⟩ := Scope.exists_requestAt h hscope hr
    exact not_live_of_replaced h hscope hat hd hreplaced hline

/-- The warning is for a name without a variable that a text refers to. It stands at the first place
of the reference on the lines of the text's construct; this place is in a text that is read unless it
is astray, and then the text is the body. -/
structure Warns (scope : Scope) (passage : Passage) (name : List Char) (p : Position)
    (w : Diagnostic) : Prop where
  reference : name ∈ Template.references passage.text.toList
  undefined : scope.var? (String.ofList name) = none
  warning_eq : w = warningAt p ('$' :: name)
  first : IsFirst scope.lines (scope.lines.lineRange passage.owner) ('$' :: name) p
  live_iff : Live scope ('$' :: name) p ↔ ¬Astray scope ('$' :: name) p
  of_astray : Astray scope ('$' :: name) p →
    ∃ r text, scope.request = some r ∧ r.body = some text ∧ passage = ⟨text, r.span⟩

theorem exists_split_of_within {lines passed block after : List Line} {n : Nat}
    (hlines : lines = passed ++ (block ++ after))
    (hn : passed.length + 1 ≤ n ∧ n ≤ passed.length + block.length) :
    ∃ above line below, block = above ++ line :: below ∧ n = (passed ++ above).length + 1 ∧
      Lines.text? lines n = some line.text := by
  have hlt : n - (passed.length + 1) < block.length := by omega
  obtain ⟨above, line, below, rfl, hlength⟩ := exists_append_cons_of_lt hlt
  have hcount : n = (passed ++ above).length + 1 := by
    rw [List.length_append]
    omega
  have hsplit : lines = (passed ++ above) ++ line :: (below ++ after) := by simp [hlines]
  exact ⟨above, line, below, rfl, hcount, by rw [hcount, text?_of_split hsplit]⟩

theorem passages_cases {passage : Passage} (h : passage ∈ passages scope) :
    (∃ d ∈ scope.headers.values, passage = ⟨d.text, d.span⟩) ∨
      (∃ r text, scope.request = some r ∧ r.body = some text ∧ passage = ⟨text, r.span⟩) ∨
        ∃ r, scope.request = some r ∧ passage = ⟨r.path, r.span⟩ := by
  rcases List.mem_append.mp h with h | h
  · obtain ⟨d, hd, rfl⟩ := List.mem_map.mp h
    exact .inl ⟨d, hd, rfl⟩
  · obtain ⟨r, hr, h⟩ := List.mem_flatMap.mp h
    rw [Option.mem_toList] at hr
    rcases List.mem_append.mp h with h | h
    · obtain ⟨text, htext, rfl⟩ := List.mem_map.mp h
      exact .inr (.inl ⟨r, text, hr, Option.mem_toList.mp htext, rfl⟩)
    · exact .inr (.inr ⟨r, hr, List.mem_singleton.mp h⟩)

variable {before : List Char} {d : Definition} {text : String}

theorem locate_header {l : Line} (hname : ∀ c ∈ name, isNameChar c = true)
    (hvisible : scope.header? d.name = some d) (hat : HeaderAt scope.lines passed l after d)
    (h : Occurs ('$' :: name) d.text.toList before) :
    ∃ p, locate scope.lines name d.span = warningAt p ('$' :: name) ∧
      IsFirst scope.lines (scope.lines.lineRange d.span) ('$' :: name) p ∧
        Live scope ('$' :: name) p := by
  obtain ⟨lead, rest, htext, -, hrest⟩ := Grammar.exists_parts_of_readsHeader hat.reads
  have hwhole : Occurs ('$' :: name) l.text (lead ++ before) :=
    htext ▸ h.within (stops_isNameChar (stops_of_blank hrest)) lead
  have hblock : scope.lines = passed ++ ([l] ++ after) := hat.split
  obtain ⟨p, heq, hp⟩ := locate_of_occurs hblock hat.range
    ⟨l, List.mem_singleton_self l, _, hwhole⟩
  have hwithin := hp.within
  rw [hat.range] at hwithin
  have hline : p.line = passed.length + 1 := Nat.le_antisymm hwithin.2 hwithin.1
  obtain ⟨text, before', htext', hbefore', hcolumn⟩ := hp.stands
  rw [hline, text?_of_split hat.split, Option.some.injEq] at htext'
  rw [← htext'] at hbefore'
  obtain ⟨lead, rest, hnumber, hlead, hrest, hstands⟩ :=
    exists_standsIn_header hname hat hbefore' hline hcolumn
  exact ⟨p, heq, hp, .header hvisible hnumber hlead hrest hstands⟩

theorem locate_path (hname : ∀ c ∈ name, isNameChar c = true)
    (hat : RequestAt scope passed first heads rows after r)
    (h : Occurs ('$' :: name) r.path.toList before) :
    ∃ p, locate scope.lines name r.span = warningAt p ('$' :: name) ∧
      IsFirst scope.lines (scope.lines.lineRange r.span) ('$' :: name) p ∧
        Live scope ('$' :: name) p := by
  obtain ⟨lead, between, comment, htext, -, hstops, -⟩ := hat.on.exists_opening
  have hwhole : Occurs ('$' :: name) first.text (lead ++ before) :=
    htext ▸ h.within (stops_isNameChar hstops) lead
  obtain ⟨p, heq, hp⟩ := locate_of_occurs hat.split hat.range
    ⟨first, List.mem_cons_self, _, hwhole⟩
  exact ⟨p, heq, hp, live_of_path hname hat h hp⟩

theorem locate_body (hname : ∀ c ∈ name, isNameChar c = true)
    (hat : RequestAt scope passed first heads rows after r) (hbody : r.body = some text)
    (h : Occurs ('$' :: name) text.toList before) :
    ∃ p, locate scope.lines name r.span = warningAt p ('$' :: name) ∧
      IsFirst scope.lines (scope.lines.lineRange r.span) ('$' :: name) p ∧
        (Live scope ('$' :: name) p ∨ Astray scope ('$' :: name) p) := by
  obtain ⟨l, hl, x, hx⟩ := exists_occurs_of_body hname hat.on hbody h
  obtain ⟨p, heq, hp⟩ := locate_of_occurs hat.split hat.range
    ⟨l, List.mem_cons_of_mem _ (List.mem_append_right _ hl), x, hx⟩
  obtain ⟨above, l', below, hblock, hline, htext⟩ :=
    exists_split_of_within hat.split (hat.range ▸ hp.within)
  obtain ⟨text', before', htext', hbefore', hcolumn⟩ := hp.stands
  rw [htext, Option.some.injEq] at htext'
  rw [← htext'] at hbefore'
  exact ⟨p, heq, hp, live_or_astray hname hat hbody hblock hbefore' hline hcolumn⟩

/-- Every warning is for a reference and stands in a text that is read, unless it is for the body and
stands above it in a comment or in a replaced header. -/
theorem warns_of_parse (h : Book.parse source = .ok book)
    (hscope : Scope.resolve book line = .ok scope) :
    ∀ w ∈ undefinedReferences scope, ∃ passage ∈ passages scope, ∃ name p,
      Warns scope passage name p w := by
  intro w hw
  obtain ⟨passage, hpassage, hw⟩ := List.mem_flatMap.mp hw
  obtain ⟨name, hname, rfl⟩ := List.mem_map.mp hw
  obtain ⟨href, hundefined⟩ := List.mem_filter.mp hname
  have hundefined := Option.isNone_iff_eq_none.mp hundefined
  obtain ⟨-, hchars, before, hbefore⟩ := occurs_of_mem_references href
  have hnot {p : Position} (hastray : Astray scope ('$' :: name) p) : ¬Live scope ('$' :: name) p :=
    not_live_of_astray h hscope hastray
  refine ⟨passage, hpassage, name, ?_⟩
  rcases passages_cases hpassage with
    ⟨d, hd, rfl⟩ | ⟨r, text, hr, hbody, rfl⟩ | ⟨r, hr, rfl⟩
  · obtain ⟨hvisible, passed, l, after, hat⟩ := Scope.exists_headerAt h hscope hd
    obtain ⟨p, heq, hp, hlive⟩ := locate_header hchars hvisible hat hbefore
    exact ⟨p, href, hundefined, heq, hp, ⟨fun _ hastray => hnot hastray hlive, fun _ => hlive⟩,
      fun hastray => absurd hlive (hnot hastray)⟩
  · obtain ⟨passed, first, heads, rows, after, hat⟩ := Scope.exists_requestAt h hscope hr
    obtain ⟨p, heq, hp, hcases⟩ := locate_body hchars hat hbody hbefore
    exact ⟨p, href, hundefined, heq, hp,
      ⟨fun hlive hastray => hnot hastray hlive, hcases.resolve_right⟩,
      fun _ => ⟨r, text, hr, hbody, rfl⟩⟩
  · obtain ⟨passed, first, heads, rows, after, hat⟩ := Scope.exists_requestAt h hscope hr
    obtain ⟨p, heq, hp, hlive⟩ := locate_path hchars hat hbefore
    exact ⟨p, href, hundefined, heq, hp, ⟨fun _ hastray => hnot hastray hlive, fun _ => hlive⟩,
      fun hastray => absurd hlive (hnot hastray)⟩

def strayed : String :=
  "POST /$y # $x\n$x"

def strayedBook : Book :=
  ⟨strayed, [.request ⟨.post, "/$y", some "$x", none, [], ⟨0, 16⟩⟩]⟩

theorem warns_of_parse_strayed : Book.parse strayed = .ok strayedBook ∧
    ∃ scope, Scope.resolve strayedBook 2 = .ok scope ∧
      undefinedReferences scope = [warningAt ⟨1, 12⟩ ['$', 'x'], warningAt ⟨1, 7⟩ ['$', 'y']] ∧
      ∀ w ∈ undefinedReferences scope, ∃ passage ∈ passages scope, ∃ name p,
        Warns scope passage name p w := by
  have hparse : Book.parse strayed = .ok strayedBook := rfl
  obtain ⟨scope, hscope, hwarnings⟩ : ∃ scope, Scope.resolve strayedBook 2 = .ok scope ∧
      undefinedReferences scope =
        [warningAt ⟨1, 12⟩ ['$', 'x'], warningAt ⟨1, 7⟩ ['$', 'y']] := ⟨_, rfl, rfl⟩
  exact ⟨hparse, scope, hscope, hwarnings, warns_of_parse hparse hscope⟩

def PointsAtTexts (scope : Scope) : Prop :=
  ∀ w ∈ undefinedReferences scope, ∃ name p,
    w = warningAt p ('$' :: name) ∧ Live scope ('$' :: name) p

/-- A warning for the body stands in the comment above it. -/
theorem not_pointsAtTexts_strayed : Book.parse strayed = .ok strayedBook ∧
    ∃ scope, Scope.resolve strayedBook 2 = .ok scope ∧ ¬PointsAtTexts scope := by
  refine ⟨rfl, _, rfl, fun h => ?_⟩
  obtain ⟨name, p, hw, hlive⟩ := h (warningAt ⟨1, 12⟩ ['$', 'x']) List.mem_cons_self
  have hline : 1 = p.line := congrArg Diagnostic.line hw
  have hcolumn : 12 = p.column := congrArg Diagnostic.column hw
  cases hlive with
  | header hvisible => cases hvisible
  | path hr _ hlead _ hstands =>
    obtain rfl := Option.some.inj hr
    obtain ⟨htext, before, hbefore, hcolumn'⟩ := hstands
    rw [← hline] at htext
    have heq : "POST ".toList ++ ("/$y".toList ++ " # $x".toList) = _ := Option.some.inj htext
    obtain rfl := lead_unique (by decide) hlead.no_dollar hbefore.dollar_mem heq
    have hlt : before.length < 3 := hbefore.length_lt
    rw [← hcolumn, List.length_append] at hcolumn'
    have hlength : "POST ".toList.length = 5 := by decide
    omega
  | body hr hbody hparts hline' =>
    obtain rfl := Option.some.inj hr
    obtain rfl := Option.some.inj hbody
    have hlength := (congrArg List.length hparts).trans List.length_append
    have hlast : p.line + _ = 2 := hline'
    change 1 = _ at hlength
    rw [List.length_cons] at hlength
    omega

end Lint

end RequestBook
