import RequestBook.Proofs.Grammar.Layout
import RequestBook.Proofs.Scope.LineSelection

/-!
Two orders of the definitions before a request: that of the book, and that of layers, in which all of
the top level come before all of the active environments. The request's own headers are last in both.
Main statement: a scope follows the order of the book, and this differs from the layers just where a
definition at the top level stands after those of the environments.
-/

namespace RequestBook

namespace Entry

def topLevel : Entry → List Definition
  | .definition d => [d]
  | .environment _ | .request _ | .processor _ => []

def activated (active : List String) : Entry → List Definition
  | .environment e => if e.name ∈ active then e.definitions else []
  | .definition _ | .request _ | .processor _ => []

theorem definitions_eq_append (active : List String) (e : Entry) :
    e.definitions active = e.topLevel ++ e.activated active := by
  cases e <;> rfl

end Entry

/-- The definitions before a request and its headers, the top level before the environments. -/
def Book.layersFor (book : Book) (r : Request) (before : List Entry) : List Definition :=
  before.flatMap Entry.topLevel ++
    before.flatMap (Entry.activated book.activeEnvironments) ++ r.headers

section

variable {kind : Kind} {key : String} {active : List String} {entries : List Entry} {d : Definition}

theorem lastOf_append (ds later : List Definition) (kind : Kind) (key : String) :
    lastOf (ds ++ later) kind key = (lastOf later kind key).or (lastOf ds kind key) := by
  rw [lastOf, List.filter_append, List.getLast?_append]
  rfl

theorem lastOf_eq_none_iff {ds : List Definition} :
    lastOf ds kind key = none ↔ ∀ d ∈ ds, ¬(d.kind = kind ∧ d.key = key) := by
  simp only [lastOf, List.getLast?_eq_none_iff, List.filter_eq_nil_iff, decide_eq_true_eq]

theorem lastOf_eq_none_of_subset {ds more : List Definition} (h : lastOf more kind key = none)
    (hsubset : ∀ d ∈ ds, d ∈ more) : lastOf ds kind key = none :=
  lastOf_eq_none_iff.mpr fun d hd => lastOf_eq_none_iff.mp h d (hsubset d hd)

theorem mem_of_lastOf {ds : List Definition} (h : lastOf ds kind key = some d) :
    d ∈ ds ∧ d.kind = kind ∧ d.key = key := by
  obtain ⟨hmem, hd⟩ := List.mem_filter.mp (List.mem_of_getLast? h)
  exact ⟨hmem, of_decide_eq_true hd⟩

theorem exists_split_of_lastOf {f : Entry → List Definition}
    (h : lastOf (entries.flatMap f) kind key = some d) : ∃ earlier e later,
      entries = earlier ++ e :: later ∧ lastOf (f e) kind key = some d ∧
        lastOf (later.flatMap f) kind key = none := by
  induction entries with
  | nil => cases h
  | cons e rest ih =>
    rw [List.flatMap_cons, lastOf_append] at h
    cases hrest : lastOf (rest.flatMap f) kind key with
    | none =>
      rw [hrest, Option.none_or] at h
      exact ⟨[], e, rest, rfl, h, hrest⟩
    | some d' =>
      rw [hrest, Option.some_or] at h
      cases h
      obtain ⟨earlier, e', later, rfl, hlast, hlater⟩ := ih hrest
      exact ⟨e :: earlier, e', later, rfl, hlast, hlater⟩

/-- The definition stands at the top level after one of an active environment with its key, and no
other of that key stands after it. -/
inductive Overtakes (active : List String) (kind : Kind) (key : String) (d : Definition) :
    List Entry → Prop
  | after {earlier later e d'} : d.kind = kind → d.key = key →
      .environment e ∈ earlier → e.name ∈ active →
      d' ∈ e.definitions → d'.kind = kind → d'.key = key →
      lastOf (later.flatMap (Entry.definitions active)) kind key = none →
      Overtakes active kind key d (earlier ++ .definition d :: later)

theorem exists_environment_of_lastOf
    (h : lastOf (entries.flatMap (Entry.activated active)) kind key = some d) :
    ∃ e, .environment e ∈ entries ∧ e.name ∈ active ∧ d ∈ e.definitions ∧
      d.kind = kind ∧ d.key = key := by
  obtain ⟨hmem, hkind, hkey⟩ := mem_of_lastOf h
  obtain ⟨e, he, hd⟩ := List.mem_flatMap.mp hmem
  cases e with
  | environment e =>
    rw [Entry.activated] at hd
    split at hd
    · rename_i hactive
      exact ⟨e, he, hactive, hd, hkind, hkey⟩
    · cases hd
  | definition | request | processor => cases hd

theorem lastOf_parts_of_eq_none
    (h : lastOf (entries.flatMap (Entry.definitions active)) kind key = none) :
    lastOf (entries.flatMap Entry.topLevel) kind key = none ∧
      lastOf (entries.flatMap (Entry.activated active)) kind key = none := by
  have hpart {f : Entry → List Definition} (hf : ∀ e, ∀ d ∈ f e, d ∈ e.definitions active) :
      lastOf (entries.flatMap f) kind key = none := by
    refine lastOf_eq_none_of_subset h fun d hd => ?_
    obtain ⟨e, he, hd⟩ := List.mem_flatMap.mp hd
    exact List.mem_flatMap.mpr ⟨e, he, hf e d hd⟩
  constructor
  · exact hpart fun e d hd => e.definitions_eq_append active ▸ List.mem_append_left _ hd
  · exact hpart fun e d hd => e.definitions_eq_append active ▸ List.mem_append_right _ hd

theorem lastOf_definitions_cases (active : List String) (kind : Kind) (key : String)
    (entries : List Entry) :
    lastOf (entries.flatMap (Entry.definitions active)) kind key =
        (lastOf (entries.flatMap (Entry.activated active)) kind key).or
          (lastOf (entries.flatMap Entry.topLevel) kind key) ∨
      ∃ d, Overtakes active kind key d entries ∧
        lastOf (entries.flatMap (Entry.definitions active)) kind key = some d := by
  cases hall : lastOf (entries.flatMap (Entry.definitions active)) kind key with
  | none =>
    obtain ⟨htop, hactive⟩ := lastOf_parts_of_eq_none hall
    exact .inl (by rw [htop, hactive]; rfl)
  | some d =>
    obtain ⟨earlier, e, later, rfl, hlast, hlater⟩ := exists_split_of_lastOf hall
    obtain ⟨htop, hactive⟩ := lastOf_parts_of_eq_none hlater
    obtain ⟨hmem, hkind, hkey⟩ := mem_of_lastOf hlast
    simp only [List.flatMap_append, List.flatMap_cons, lastOf_append, htop, hactive, Option.none_or]
    cases e with
    | request | processor => cases hlast
    | environment e =>
      -- what an environment defines last is the last in both orders
      have hself : lastOf (Entry.activated active (.environment e)) kind key = some d := hlast
      exact .inl (by rw [hself]; rfl)
    | definition d' =>
      obtain rfl : d = d' := List.mem_singleton.mp hmem
      have hself : lastOf (Entry.topLevel (.definition d)) kind key = some d := hlast
      have hnone : lastOf (Entry.activated active (.definition d)) kind key = none := rfl
      rw [hself, hnone, Option.none_or, Option.some_or]
      cases hearlier : lastOf (earlier.flatMap (Entry.activated active)) kind key with
      | none => exact .inl rfl
      | some d' =>
        obtain ⟨e, he, hactive, hd, hkind', hkey'⟩ := exists_environment_of_lastOf hearlier
        exact .inr ⟨d, .after hkind hkey he hactive hd hkind' hkey' hlater, rfl⟩

theorem Overtakes.lastOf_definitions (h : Overtakes active kind key d entries) :
    lastOf (entries.flatMap (Entry.definitions active)) kind key = some d := by
  cases h with
  | after hkind hkey _ _ _ _ _ hlater =>
    have hself : lastOf (Entry.definitions active (.definition d)) kind key = some d := by
      simp [lastOf, Entry.definitions, hkind, hkey]
    simp only [List.flatMap_append, List.flatMap_cons, lastOf_append, hlater, hself,
      Option.none_or, Option.some_or]

theorem Overtakes.mem (h : Overtakes active kind key d entries) : .definition d ∈ entries := by
  cases h
  exact List.mem_append_right _ List.mem_cons_self

theorem Overtakes.exists_lastOf_activated (h : Overtakes active kind key d entries) :
    ∃ d', lastOf (entries.flatMap (Entry.activated active)) kind key = some d' := by
  cases h with
  | @after earlier later e d' _ _ he hactive hd hkind hkey _ =>
    refine Option.ne_none_iff_exists'.mp fun hnone => ?_
    refine lastOf_eq_none_iff.mp hnone d' ?_ ⟨hkind, hkey⟩
    refine List.mem_flatMap.mpr ⟨.environment e, List.mem_append_left _ he, ?_⟩
    rw [Entry.activated, if_pos hactive]
    exact hd

end

theorem Book.ne_of_mem_definitions {source : String} {book : Book} (h : parse source = .ok book)
    {d d' : Definition} {e : Environment} (hd : .definition d ∈ book.entries)
    (he : .environment e ∈ book.entries) (hd' : d' ∈ e.definitions) : d ≠ d' := by
  rintro rfl
  obtain ⟨_, _, hconstruct, hblock⟩ := exists_block_of_parse h he
  have hpos := ((layout_of_parse h).fits _ hd).start_lt_stop
  obtain ⟨hstart, hstop⟩ := hconstruct.inner_within hblock d hd'
  change d.span.start < d.span.stop at hpos
  change e.span.start ≤ d.span.start at hstart
  change d.span.stop ≤ e.span.stop at hstop
  have hordered := List.pairwise_map.mp (layout_of_parse h).pairwise
  obtain ⟨before, after, hsplit⟩ := List.append_of_mem hd
  rw [hsplit] at hordered he
  obtain ⟨-, hafter, hbefore⟩ := List.pairwise_append.mp hordered
  rcases List.mem_append.mp he with he | he
  · have hle : e.span.stop ≤ d.span.start := hbefore _ he _ List.mem_cons_self
    omega
  · rcases List.mem_cons.mp he with heq | he
    · cases heq
    · have hle : d.span.stop ≤ e.span.start := (List.pairwise_cons.mp hafter).1 _ he
      omega

namespace Scope

theorem get?_of_selects {book : Book} {line : Nat} {scope : Scope} {chosen : Option Request}
    {before : List Entry} (hscope : resolve book line = .ok scope)
    (h : Selects book.lines line book.entries chosen before) (kind : Kind) (key : String) :
    scope.get? kind key = lastOf (book.definitionsFor chosen before) kind key := by
  have hlast := get?_foldl_assign (initial book line) (book.definitionsFor chosen before) kind key
  rw [get?_initial, Option.or_none] at hlast
  have hprocessor : (ofChosen book line chosen before).processor = none :=
    processor_foldl_assign (initial book line) _
  rw [resolve_of_selects h] at hscope
  rw [eq_of_bindProcessor_eq_ok hscope hprocessor, ← hlast]
  cases kind <;> rfl

theorem key_of_get?_headers {book : Book} {line : Nat} {scope : Scope} {key : String} {d : Definition}
    (hscope : resolve book line = .ok scope) (hget : scope.headers.get? key = some d) :
    d.kind = .header ∧ Text.foldCase d.name = key := by
  obtain ⟨before, hselects⟩ := exists_selects_of_resolve hscope
  have hlast := get?_of_selects hscope hselects .header key
  obtain ⟨-, hkind, hkey⟩ := mem_of_lastOf (hlast.symm.trans hget)
  rw [Definition.key, hkind] at hkey
  exact ⟨hkind, hkey⟩

theorem mem_headers_iff {book : Book} {line : Nat} {scope : Scope} {d : Definition}
    (hscope : resolve book line = .ok scope) :
    d ∈ scope.headers.values ↔ scope.header? d.name = some d := by
  constructor
  · intro hd
    obtain ⟨key, hget⟩ := Table.exists_get?_of_mem_values hd
    rw [header?, (key_of_get?_headers hscope hget).2]
    exact hget
  · exact Table.mem_values_of_get?

/-- The layers count at a line: what is visible there is the last definition in the order of the
layers. -/
def InLayers (book : Book) (line : Nat) : Prop :=
  ∀ scope r before, resolve book line = .ok scope →
    Selects book.lines line book.entries (some r) before →
      ∀ kind key, scope.get? kind key = lastOf (book.layersFor r before) kind key

/-- What is visible follows the order of the book. It is that of the layers too unless a definition
at the top level overtakes the environments and the request has none of its own. -/
theorem get?_eq_layers_iff {source : String} {book : Book} {line : Nat} {scope : Scope}
    {r : Request} (h : Book.parse source = .ok book) (hscope : resolve book line = .ok scope)
    (hr : scope.request = some r) :
    ∃ before, Selects book.lines line book.entries (some r) before ∧ ∀ kind key,
      scope.get? kind key = (lastOf r.headers kind key).or
          (lastOf (before.flatMap (Entry.definitions book.activeEnvironments)) kind key) ∧
        (scope.get? kind key = lastOf (book.layersFor r before) kind key ↔
          ¬(lastOf r.headers kind key = none ∧
            ∃ d, Overtakes book.activeEnvironments kind key d before)) := by
  obtain ⟨before, hselects⟩ := exists_selects_of_resolve hscope
  rw [hr] at hselects
  have hsubset := (mem_of_selects hselects).1
  refine ⟨before, hselects, fun kind key => ?_⟩
  have hget : scope.get? kind key = (lastOf r.headers kind key).or
      (lastOf (before.flatMap (Entry.definitions book.activeEnvironments)) kind key) := by
    rw [get?_of_selects hscope hselects, Book.definitionsFor, lastOf_append]
    rfl
  refine ⟨hget, ?_⟩
  rw [hget, Book.layersFor, lastOf_append, lastOf_append]
  constructor
  · rintro heq ⟨hnone, d, hovertakes⟩
    obtain ⟨d', hd'⟩ := hovertakes.exists_lastOf_activated
    rw [hnone, hovertakes.lastOf_definitions, hd'] at heq
    obtain rfl : d = d' := by simpa using heq
    obtain ⟨e, he, -, hmem, -, -⟩ := exists_environment_of_lastOf hd'
    exact Book.ne_of_mem_definitions h (hsubset _ hovertakes.mem) (hsubset _ he) hmem rfl
  · intro hnot
    rcases lastOf_definitions_cases book.activeEnvironments kind key before with heq | hovertakes
    · rw [heq]
    · obtain ⟨d, hovertakes, -⟩ := hovertakes
      cases hown : lastOf r.headers kind key with
      | none => exact absurd ⟨hown, d, hovertakes⟩ hnot
      | some d => rfl

def overtaken : String :=
  "$ENV = \"e\"\nA: 1\n@e:\n  a: 2\n  $x = 3\n$x = 4\nGET /$x"

def overtakenRequest : Request := ⟨.get, "/$x", none, none, [], ⟨43, 50⟩⟩

def overtakenBefore : List Entry :=
  [.definition ⟨.variable, "ENV", .text "e", ⟨0, 10⟩⟩,
    .definition ⟨.header, "A", .text "1", ⟨11, 15⟩⟩,
    .environment ⟨"e", [⟨.header, "a", .text "2", ⟨22, 26⟩⟩,
      ⟨.variable, "x", .integer 3, ⟨29, 35⟩⟩], ⟨16, 35⟩⟩,
    .definition ⟨.variable, "x", .integer 4, ⟨36, 42⟩⟩]

def overtakenBook : Book :=
  ⟨overtaken, overtakenBefore ++ [.request overtakenRequest]⟩

theorem selects_overtaken :
    Selects overtakenBook.lines 7 overtakenBook.entries (some overtakenRequest) overtakenBefore :=
  .request ⟨⟨[], rfl⟩, ⟨by decide, by decide⟩, by simp [overtakenBefore, Entry.Covers]⟩

theorem get?_eq_layers_iff_overtaken :
    Book.parse overtaken = .ok overtakenBook ∧ ∃ scope, resolve overtakenBook 7 = .ok scope ∧
      scope.request = some overtakenRequest ∧
      ∃ before, Selects overtakenBook.lines 7 overtakenBook.entries (some overtakenRequest) before ∧
        (scope.get? .header "a" = lastOf (overtakenBook.layersFor overtakenRequest before) .header "a"
          ↔ ¬(lastOf overtakenRequest.headers .header "a" = none ∧
            ∃ d, Overtakes overtakenBook.activeEnvironments .header "a" d before)) := by
  have hparse : Book.parse overtaken = .ok overtakenBook := rfl
  obtain ⟨scope, hscope, hrequest⟩ : ∃ scope, resolve overtakenBook 7 = .ok scope ∧
      scope.request = some overtakenRequest := ⟨_, rfl, rfl⟩
  obtain ⟨before, hselects, hkey⟩ := get?_eq_layers_iff hparse hscope hrequest
  exact ⟨hparse, scope, hscope, hrequest, before, hselects, (hkey .header "a").2⟩

/-- The variable of the active environment is not visible: the definition at the top level is. -/
theorem not_inLayers_overtaken :
    Book.parse overtaken = .ok overtakenBook ∧ ¬InLayers overtakenBook 7 := by
  refine ⟨rfl, fun h => ?_⟩
  have hlast := h _ _ _ rfl selects_overtaken .variable "x"
  exact absurd hlast (by decide)

end Scope

end RequestBook
