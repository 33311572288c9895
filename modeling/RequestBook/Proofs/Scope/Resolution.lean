import RequestBook.Scope

namespace RequestBook

structure FirstOf (P : Entry → Prop) (entries before : List Entry) (e : Entry) : Prop where
  split : ∃ after, entries = before ++ e :: after
  holds : P e
  first : ∀ e' ∈ before, ¬P e'

namespace Entry

def Covers (lines : Lines) (line : Nat) : Entry → Prop
  | .request r => (lines.lineRange r.span).1 ≤ line ∧ line ≤ (lines.lineRange r.span).2
  | _ => False

def NamesEnvironments : Entry → Prop
  | .definition d => d.kind = .variable ∧ d.name = environmentVariable
  | _ => False

def DefinesProcessor (name : String) : Entry → Prop
  | .processor p => p.name = name
  | _ => False

/-- What an entry defines for the requests after it while some environments are active. -/
def definitions (active : List String) : Entry → List Definition
  | .definition d => [d]
  | .environment e => if e.name ∈ active then e.definitions else []
  | .request _ => []
  | .processor _ => []

end Entry

/-- The request that is chosen at a line, if any, and the entries that count for it. -/
inductive Selects (lines : Lines) (line : Nat) (entries : List Entry) :
    Option Request → List Entry → Prop
  | request {before r} : FirstOf (Entry.Covers lines line) entries before (.request r) →
      Selects lines line entries (some r) before
  | nothing : (∀ e ∈ entries, ¬e.Covers lines line) → Selects lines line entries none entries

namespace Book

/-- A part between commas of the first top-level `$ENV`, without the blanks around it. -/
def IsActive (book : Book) (name : String) : Prop :=
  ∃ before d part, FirstOf Entry.NamesEnvironments book.entries before (.definition d) ∧
    part ∈ List.splitOn ',' d.text.toList ∧ name = String.ofList (Text.trim part) ∧ name ≠ ""

def definitionsFor (book : Book) (chosen : Option Request) (before : List Entry) :
    List Definition :=
  before.flatMap (Entry.definitions book.activeEnvironments) ++
    (chosen.map Request.headers).getD []

end Book

theorem findSome?_eq_some_iff_firstOf {α : Type} {P : Entry → Prop} {f : Entry → Option α}
    {wrap : α → Entry} (h : ∀ e x, f e = some x ↔ P e ∧ e = wrap x)
    (hwrap : ∀ e, P e → ∃ x, e = wrap x) {entries : List Entry} {x : α} :
    entries.findSome? f = some x ↔ ∃ before, FirstOf P entries before (wrap x) := by
  rw [List.findSome?_eq_some_iff]
  constructor
  · rintro ⟨before, e, after, hsplit, hx, hbefore⟩
    obtain ⟨hholds, rfl⟩ := (h e x).mp hx
    refine ⟨before, ⟨after, hsplit⟩, hholds, ?_⟩
    intro e' he' hP
    obtain ⟨y, hy⟩ := hwrap e' hP
    have hsome := (h e' y).mpr ⟨hP, hy⟩
    rw [hbefore e' he'] at hsome
    cases hsome
  · rintro ⟨before, ⟨after, hsplit⟩, hholds, hfirst⟩
    refine ⟨before, wrap x, after, hsplit, (h _ x).mpr ⟨hholds, rfl⟩, ?_⟩
    intro e' he'
    apply Option.eq_none_iff_forall_ne_some.mpr
    intro y hy
    exact hfirst e' he' ((h e' y).mp hy).1

namespace Book

theorem definition?_eq_some_iff {book : Book} {d : Definition} :
    book.definition? .variable environmentVariable = some d ↔
      ∃ before, FirstOf Entry.NamesEnvironments book.entries before (.definition d) := by
  apply findSome?_eq_some_iff_firstOf
  · intro e x
    cases e <;> simp [Entry.NamesEnvironments]
  · intro e h
    cases e with
    | definition d => exact ⟨d, rfl⟩
    | environment | request | processor => cases h

theorem processor?_eq_some_iff {book : Book} {name : String} {p : Processor} :
    book.processor? name = some p ↔
      ∃ before, FirstOf (Entry.DefinesProcessor name) book.entries before (.processor p) := by
  apply findSome?_eq_some_iff_firstOf
  · intro e x
    cases e <;> simp [Entry.DefinesProcessor]
  · intro e h
    cases e with
    | processor q => exact ⟨q, rfl⟩
    | definition | environment | request => cases h

theorem mem_trimmed_parts_iff {text : List Char} {name : String} :
    name ∈ (((List.splitOn ',' text).map Text.trim).filter
        (fun name => !name.isEmpty)).map String.ofList ↔
      ∃ part ∈ List.splitOn ',' text, name = String.ofList (Text.trim part) ∧ name ≠ "" := by
  constructor
  · intro h
    obtain ⟨trimmed, htrimmed, rfl⟩ := List.mem_map.mp h
    obtain ⟨hmem, hne⟩ := List.mem_filter.mp htrimmed
    obtain ⟨part, hpart, rfl⟩ := List.mem_map.mp hmem
    refine ⟨part, hpart, rfl, ?_⟩
    simpa using hne
  · rintro ⟨part, hpart, rfl, hne⟩
    refine List.mem_map_of_mem (List.mem_filter.mpr ⟨List.mem_map_of_mem hpart, ?_⟩)
    simpa using hne

theorem mem_activeEnvironments_iff {book : Book} {name : String} :
    name ∈ book.activeEnvironments ↔ book.IsActive name := by
  rw [activeEnvironments]
  cases hd : book.definition? .variable environmentVariable with
  | none =>
    constructor
    · intro h
      cases h
    · rintro ⟨before, d, part, hfirst, -⟩
      rw [definition?_eq_some_iff.mpr ⟨before, hfirst⟩] at hd
      cases hd
  | some d =>
    rw [mem_trimmed_parts_iff]
    constructor
    · rintro ⟨part, hmem, hname⟩
      obtain ⟨before, hfirst⟩ := definition?_eq_some_iff.mp hd
      exact ⟨before, d, part, hfirst, hmem, hname⟩
    · rintro ⟨before, d', part, hfirst, hmem, hname⟩
      rw [definition?_eq_some_iff.mpr ⟨before, hfirst⟩] at hd
      cases hd
      exact ⟨part, hmem, hname⟩

end Book

namespace Scope

variable {α : Type}

def get? (scope : Scope) : Kind → String → Option Definition
  | .variable, key => scope.vars.get? key
  | .header, key => scope.headers.get? key

end Scope

def Definition.key (d : Definition) : String :=
  match d.kind with
  | .variable => d.name
  | .header => Text.foldCase d.name

def lastOf (ds : List Definition) (kind : Kind) (key : String) : Option Definition :=
  (ds.filter fun d => decide (d.kind = kind ∧ d.key = key)).getLast?

theorem lastOf_variable (ds : List Definition) (name : String) :
    lastOf ds .variable name =
      (ds.filter fun d => decide (d.kind = .variable ∧ d.name = name)).getLast? := by
  rw [lastOf]
  congr 2
  funext d
  cases hd : d.kind <;> simp [Definition.key, hd]

theorem lastOf_header (ds : List Definition) (name : String) :
    lastOf ds .header (Text.foldCase name) =
      (ds.filter fun d => decide (d.kind = .header ∧ Text.sameName d.name name)).getLast? := by
  rw [lastOf]
  congr 2
  funext d
  cases hd : d.kind <;> simp [Definition.key, hd, Text.sameName]

namespace Scope

theorem get?_initial (book : Book) (line : Nat) (kind : Kind) (key : String) :
    (initial book line).get? kind key = none := by
  cases kind <;> rfl

theorem get?_assign (scope : Scope) (d : Definition) (kind : Kind) (key : String) :
    (scope.assign d).get? kind key =
      if d.kind = kind ∧ d.key = key then some d else scope.get? kind key := by
  cases hd : d.kind <;> cases kind <;> simp [assign, get?, Definition.key, hd, eq_comm]

theorem get?_foldl_assign (scope : Scope) (ds : List Definition) (kind : Kind) (key : String) :
    (ds.foldl assign scope).get? kind key = (lastOf ds kind key).or (scope.get? kind key) := by
  induction ds generalizing scope with
  | nil => rfl
  | cons d ds ih =>
    rw [List.foldl_cons, ih, get?_assign, lastOf, lastOf, List.filter_cons]
    by_cases h : d.kind = kind ∧ d.key = key
    · simp only [h, and_self, decide_true, if_true, List.getLast?_cons]
      cases (ds.filter fun d => decide (d.kind = kind ∧ d.key = key)).getLast? <;> rfl
    · simp only [h, decide_false, if_false, Bool.false_eq_true]

theorem foldl_assign_frame {f : Scope → α} (h : ∀ scope d, f (scope.assign d) = f scope)
    (scope : Scope) (ds : List Definition) : f (ds.foldl assign scope) = f scope := by
  induction ds generalizing scope with
  | nil => rfl
  | cons d ds ih => rw [List.foldl_cons, ih, h]

@[simp] theorem environments_foldl_assign (scope : Scope) (ds : List Definition) :
    (ds.foldl assign scope).environments = scope.environments :=
  foldl_assign_frame environments_assign scope ds

@[simp] theorem request_foldl_assign (scope : Scope) (ds : List Definition) :
    (ds.foldl assign scope).request = scope.request :=
  foldl_assign_frame request_assign scope ds

@[simp] theorem processor_foldl_assign (scope : Scope) (ds : List Definition) :
    (ds.foldl assign scope).processor = scope.processor :=
  foldl_assign_frame processor_assign scope ds

@[simp] theorem lines_foldl_assign (scope : Scope) (ds : List Definition) :
    (ds.foldl assign scope).lines = scope.lines :=
  foldl_assign_frame lines_assign scope ds

@[simp] theorem line_foldl_assign (scope : Scope) (ds : List Definition) :
    (ds.foldl assign scope).line = scope.line :=
  foldl_assign_frame line_assign scope ds

theorem replay_append {scope : Scope} {before : List Entry}
    (h : ∀ e ∈ before, ¬e.Covers scope.lines scope.line) (rest : List Entry) :
    scope.replay (before ++ rest) =
      ((before.flatMap (Entry.definitions scope.environments)).foldl assign scope).replay rest := by
  induction before generalizing scope with
  | nil => rfl
  | cons e before ih =>
    have hbefore := fun e' he' => h e' (List.mem_cons_of_mem _ he')
    rw [List.cons_append, List.flatMap_cons, List.foldl_append]
    cases e with
    | definition d =>
      rw [replay, ih (by simpa using hbefore)]
      simp [Entry.definitions]
    | environment e =>
      rw [replay, Entry.definitions]
      split
      · rw [ih (by simpa using hbefore), environments_foldl_assign]
      · rw [ih hbefore, List.foldl_nil]
    | request r =>
      have hcovers : r.covers scope.lines scope.line = false := by
        have := h (.request r) List.mem_cons_self
        simpa [Entry.Covers, Request.covers] using this
      rw [replay, hcovers, if_neg Bool.false_ne_true, ih hbefore, Entry.definitions, List.foldl_nil]
    | processor p => rw [replay, ih hbefore, Entry.definitions, List.foldl_nil]

theorem replay_of_selects {scope : Scope} {entries before : List Entry} {chosen : Option Request}
    (h : Selects scope.lines scope.line entries chosen before) (hrequest : scope.request = none) :
    scope.replay entries =
      { (before.flatMap (Entry.definitions scope.environments) ++
          (chosen.map Request.headers).getD []).foldl assign scope with request := chosen } := by
  cases h with
  | @request before r hfirst =>
    obtain ⟨after, hsplit⟩ := hfirst.split
    have hcovers : r.covers scope.lines scope.line = true := by
      have := hfirst.holds
      simpa [Entry.Covers, Request.covers] using this
    rw [hsplit, replay_append hfirst.first, replay, lines_foldl_assign, line_foldl_assign,
      if_pos hcovers, List.foldl_append]
    rfl
  | nothing hnone =>
    have := replay_append hnone []
    rw [List.append_nil] at this
    rw [this, replay, Option.map_none, Option.getD_none, List.append_nil]
    rw [← hrequest, ← request_foldl_assign scope (entries.flatMap _)]

end Scope

theorem exists_selects (lines : Lines) (line : Nat) (entries : List Entry) :
    ∃ chosen before, Selects lines line entries chosen before := by
  induction entries with
  | nil => exact ⟨none, [], .nothing fun e he => nomatch he⟩
  | cons e rest ih =>
    by_cases hcovers : e.Covers lines line
    · cases e with
      | request r =>
        exact ⟨some r, [], .request ⟨⟨rest, rfl⟩, hcovers, fun e he => nomatch he⟩⟩
      | definition | environment | processor => exact hcovers.elim
    · have hcons {before : List Entry} (h : ∀ e' ∈ before, ¬e'.Covers lines line) :
          ∀ e' ∈ e :: before, ¬e'.Covers lines line := by
        intro e' he'
        rcases List.mem_cons.mp he' with rfl | he'
        · exact hcovers
        · exact h e' he'
      obtain ⟨chosen, before, hselects⟩ := ih
      cases hselects with
      | @request before r hfirst =>
        obtain ⟨after, hsplit⟩ := hfirst.split
        exact ⟨some r, e :: before, .request ⟨⟨after, by rw [hsplit, List.cons_append]⟩,
          hfirst.holds, hcons hfirst.first⟩⟩
      | nothing hnone => exact ⟨none, e :: rest, .nothing (hcons hnone)⟩

theorem Book.processor?_eq_none_iff {book : Book} {name : String} :
    book.processor? name = none ↔ ∀ p, .processor p ∈ book.entries → p.name ≠ name := by
  rw [processor?, List.findSome?_eq_none_iff]
  constructor
  · intro h p hp
    simpa using h _ hp
  · intro h e he
    cases e with
    | processor p => simpa using h p he
    | definition | environment | request => rfl

namespace Scope

theorem mem_environments_initial {book : Book} {line : Nat} {name : String} :
    name ∈ (initial book line).environments ↔ name ∈ book.activeEnvironments := by
  rw [initial, Table.mem_names_ofList, List.map_map, Function.comp_def, List.map_id']

def ofChosen (book : Book) (line : Nat) (chosen : Option Request) (before : List Entry) : Scope :=
  { (book.definitionsFor chosen before).foldl assign (initial book line) with request := chosen }

theorem resolve_of_selects {book : Book} {line : Nat} {chosen : Option Request}
    {before : List Entry} (h : Selects book.lines line book.entries chosen before) :
    resolve book line = (ofChosen book line chosen before).bindProcessor book := by
  have hdefinitions : Entry.definitions (initial book line).environments =
      Entry.definitions book.activeEnvironments := by
    funext e
    cases e with
    | environment e => simp only [Entry.definitions, mem_environments_initial]
    | definition | request | processor => rfl
  rw [resolve, replay_of_selects h rfl, hdefinitions]
  rfl

theorem bindProcessor_eq_error_iff {book : Book} {scope : Scope} {e : ResolveError} :
    scope.bindProcessor book = .error e ↔ ∃ r name, scope.request = some r ∧
      r.processor = some name ∧ book.processor? name = none ∧ e = .missingProcessor name := by
  rw [bindProcessor]
  cases hrequest : scope.request with
  | none => simp
  | some r =>
    rw [Option.bind_some]
    cases hname : r.processor with
    | none => simp [hname]
    | some name => cases hp : book.processor? name <;> simp [hname, hp, eq_comm]

theorem eq_of_bindProcessor_eq_ok {book : Book} {scope bound : Scope}
    (h : scope.bindProcessor book = .ok bound) (hnone : scope.processor = none) :
    bound = { scope with
      processor := (scope.request.bind Request.processor).bind book.processor? } := by
  rw [bindProcessor] at h
  cases hname : scope.request.bind Request.processor with
  | none =>
    rw [hname] at h
    cases h
    rw [Option.bind_none, ← hnone]
  | some name =>
    rw [hname] at h
    cases hp : book.processor? name with
    | none => simp [hp] at h
    | some p =>
      simp only [hp, Except.ok.injEq] at h
      rw [Option.bind_some, hp, h]

theorem processor?_of_chosen_iff {book : Book} {chosen : Option Request} {p : Processor} :
    (chosen.bind Request.processor).bind book.processor? = some p ↔
      ∃ r name before, chosen = some r ∧ r.processor = some name ∧
        FirstOf (Entry.DefinesProcessor name) book.entries before (.processor p) := by
  simp only [Option.bind_eq_some_iff, Book.processor?_eq_some_iff]
  constructor
  · rintro ⟨name, ⟨r, hr, hname⟩, before, hfirst⟩
    exact ⟨r, name, before, hr, hname, hfirst⟩
  · rintro ⟨r, name, before, hr, hname, hfirst⟩
    exact ⟨name, ⟨r, hr, hname⟩, before, hfirst⟩

/-- The scope shows a request, its processor, and of each name the last definition in a list. -/
structure Shows (book : Book) (chosen : Option Request) (ds : List Definition) (scope : Scope) :
    Prop where
  request : scope.request = chosen
  processor : ∀ p, scope.processor = some p ↔ ∃ r name before, chosen = some r ∧
    r.processor = some name ∧ FirstOf (Entry.DefinesProcessor name) book.entries before (.processor p)
  environments : ∀ name, name ∈ scope.environments ↔ book.IsActive name
  var? : ∀ name, scope.var? name =
    (ds.filter fun d => decide (d.kind = .variable ∧ d.name = name)).getLast?
  header? : ∀ name, scope.header? name =
    (ds.filter fun d => decide (d.kind = .header ∧ Text.sameName d.name name)).getLast?
  headers : ∀ key, key ∈ scope.headers.names → Text.foldCase key = key

theorem shows_ofChosen (book : Book) (line : Nat) (chosen : Option Request)
    (before : List Entry) :
    Shows book chosen (book.definitionsFor chosen before)
      { ofChosen book line chosen before with
        processor := (chosen.bind Request.processor).bind book.processor? } where
  request := rfl
  processor := fun p => processor?_of_chosen_iff
  environments := by
    intro name
    rw [← Book.mem_activeEnvironments_iff, ← @mem_environments_initial _ line,
      ← environments_foldl_assign (initial book line) (book.definitionsFor chosen before)]
    rfl
  var? := by
    intro name
    have hlast := get?_foldl_assign (initial book line) (book.definitionsFor chosen before)
      .variable name
    rw [lastOf_variable, get?_initial, Option.or_none] at hlast
    exact hlast
  header? := by
    intro name
    have hlast := get?_foldl_assign (initial book line) (book.definitionsFor chosen before)
      .header (Text.foldCase name)
    rw [lastOf_header, get?_initial, Option.or_none] at hlast
    exact hlast
  headers := by
    intro key hkey
    obtain ⟨d, hd⟩ := Option.isSome_iff_exists.mp (Table.mem_names_iff.mp hkey)
    have hlast := get?_foldl_assign (initial book line) (book.definitionsFor chosen before)
      .header key
    rw [get?_initial, Option.or_none] at hlast
    obtain ⟨hkind, rfl⟩ := of_decide_eq_true
      (List.mem_filter.mp (List.mem_of_getLast? (hlast.symm.trans hd))).2
    rw [Definition.key, hkind, Text.foldCase_foldCase]

/-- What the scope at a line shows, or why there is none. -/
theorem resolve_selects (book : Book) (line : Nat) :
    ∃ chosen before, Selects book.lines line book.entries chosen before ∧
      (∀ e, resolve book line = .error e ↔ ∃ r name, chosen = some r ∧ r.processor = some name ∧
        (∀ p, .processor p ∈ book.entries → p.name ≠ name) ∧ e = .missingProcessor name) ∧
      (∀ name, name ∈ book.activeEnvironments ↔ book.IsActive name) ∧
      ∀ scope, resolve book line = .ok scope →
        scope.Shows book chosen (book.definitionsFor chosen before) := by
  obtain ⟨chosen, before, hselects⟩ := exists_selects book.lines line book.entries
  refine ⟨chosen, before, hselects, ?_, fun name => Book.mem_activeEnvironments_iff, ?_⟩
  · intro e
    simp only [resolve_of_selects hselects, bindProcessor_eq_error_iff,
      ← Book.processor?_eq_none_iff, ofChosen]
  · intro scope hscope
    rw [resolve_of_selects hselects] at hscope
    have hprocessor : (ofChosen book line chosen before).processor = none :=
      processor_foldl_assign (initial book line) _
    rw [eq_of_bindProcessor_eq_ok hscope hprocessor]
    exact shows_ofChosen book line chosen before

end Scope

end RequestBook
