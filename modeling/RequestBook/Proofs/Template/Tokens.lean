import RequestBook.Proofs.Template.Longest
import RequestBook.Proofs.Text.Bytes

/-!
The tokens of a template, said without the scan that finds them. Whether a dollar sign begins a token
depends on nothing but the name characters behind it, and no token begins inside another. Main
statement: a text is expanded by putting, for each of its tokens, the value in its place, and all
other characters stay.
-/

namespace RequestBook.Template

open RequestBook.Text

variable {α : Type} {find : String → Option α} {text rest before name name' : List Char} {a a' : α}

/-- The longest beginning of a run of name characters that is defined, and what it is defined as. -/
structure LongestName (find : String → Option α) (run name : List Char) (a : α) : Prop where
  ne_nil : name ≠ []
  isPrefix : name <+: run
  defined : find (String.ofList name) = some a
  longest : ∀ other, other <+: run → (find (String.ofList other)).isSome = true →
    other.length ≤ name.length

def Token (find : String → Option α) (text before name : List Char) (a : α) : Prop :=
  ∃ rest, text = before ++ '$' :: rest ∧ LongestName find (rest.takeWhile isNameChar) name a

theorem LongestName.unique {run : List Char} (h : LongestName find run name a)
    (h' : LongestName find run name' a') : name = name' ∧ a = a' := by
  have hle := h'.longest name h.isPrefix (by rw [h.defined]; rfl)
  have hge := h.longest name' h'.isPrefix (by rw [h'.defined]; rfl)
  have hprefix := List.prefix_of_prefix_length_le h.isPrefix h'.isPrefix hle
  obtain rfl := hprefix.eq_of_length (Nat.le_antisymm hle hge)
  exact ⟨rfl, Option.some.inj (h.defined.symm.trans h'.defined)⟩

theorem LongestName.exists_split (h : LongestName find (rest.takeWhile isNameChar) name a) :
    ∃ back, rest = name ++ back ∧ ∀ c ∈ name, isNameChar c = true := by
  obtain ⟨back, hback⟩ := h.isPrefix.trans (List.takeWhile_prefix isNameChar)
  exact ⟨back, hback.symm, fun c hc => List.mem_takeWhile_imp (h.isPrefix.subset hc)⟩

theorem longestDefined_cases (find : String → Option α) (spell : α → String) (run : List Char) :
    (∃ name a, LongestName find run name a ∧
      longestDefined (fun n => (find n).map spell) run = some (name.length, spell a)) ∨
    (∀ start, start ≠ [] → start <+: run → find (String.ofList start) = none) ∧
      longestDefined (fun n => (find n).map spell) run = none := by
  have hlongest : Longest (fun n => (find n).map spell) run _ := longest_longestDefined run
  generalize longestDefined (fun n => (find n).map spell) run = found at hlongest
  cases hlongest with
  | none hnone =>
    exact .inr ⟨fun start hne hprefix => Option.map_eq_none_iff.mp (hnone start hne hprefix), rfl⟩
  | @some start rest v hne hvalue hmore =>
    obtain ⟨a, ha, rfl⟩ := Option.map_eq_some_iff.mp hvalue
    refine .inl ⟨start, a, ⟨hne, List.prefix_append _ _, ha, fun other hother hdefined => ?_⟩, rfl⟩
    refine Nat.not_lt.mp fun hlt => ?_
    -- a longer one goes on from the one that was found
    obtain ⟨more, rfl⟩ :=
      List.prefix_of_prefix_length_le (List.prefix_append start rest) hother (Nat.le_of_lt hlt)
    have hne' : more ≠ [] := by
      rintro rfl
      simp at hlt
    have hnone := hmore more hne' ((List.prefix_append_right_inj start).mp hother)
    rw [Option.map_eq_none_iff.mp hnone] at hdefined
    cases hdefined

theorem LongestName.token? (h : LongestName find (rest.takeWhile isNameChar) name a)
    (spell : α → String) :
    token? (fun n => (find n).map spell) rest = some (name.length, spell a) := by
  rcases longestDefined_cases find spell (rest.takeWhile isNameChar) with
    ⟨name', a', h', hfound⟩ | ⟨hnone, -⟩
  · obtain ⟨rfl, rfl⟩ := h.unique h'
    exact hfound
  · have hdefined := h.defined
    rw [hnone name h.ne_nil h.isPrefix] at hdefined
    cases hdefined

theorem token?_eq_none (h : ¬∃ name a, LongestName find (rest.takeWhile isNameChar) name a)
    (spell : α → String) : token? (fun n => (find n).map spell) rest = none := by
  rcases longestDefined_cases find spell (rest.takeWhile isNameChar) with
    ⟨name, a, hname, -⟩ | ⟨-, hnone⟩
  · exact absurd ⟨name, a, hname⟩ h
  · exact hnone

theorem exists_longestName_iff {run : List Char} : (∃ name a, LongestName find run name a) ↔
    ∃ start, start ≠ [] ∧ start <+: run ∧ (find (String.ofList start)).isSome = true := by
  constructor
  · rintro ⟨name, a, h⟩
    exact ⟨name, h.ne_nil, h.isPrefix, by rw [h.defined]; rfl⟩
  · rintro ⟨start, hne, hprefix, hdefined⟩
    rcases longestDefined_cases find (fun _ => "") run with ⟨name, a, h, -⟩ | ⟨hnone, -⟩
    · exact ⟨name, a, h⟩
    · rw [hnone start hne hprefix] at hdefined
      cases hdefined

theorem exists_token_iff (h : text = before ++ '$' :: rest) :
    (∃ name a, Token find text before name a) ↔
      ∃ start, start ≠ [] ∧ start <+: rest.takeWhile isNameChar ∧
        (find (String.ofList start)).isSome = true := by
  rw [← exists_longestName_iff]
  constructor
  · rintro ⟨name, a, rest', h', hname⟩
    rw [h, List.append_cancel_left_eq, List.cons.injEq] at h'
    obtain ⟨-, rfl⟩ := h'
    exact ⟨name, a, hname⟩
  · rintro ⟨name, a, hname⟩
    exact ⟨name, a, rest, h, hname⟩

theorem token_append (front : List Char) :
    Token find (front ++ text) (front ++ before) name a ↔ Token find text before name a := by
  simp [Token]

theorem Token.apart {more : List Char} (h : Token find text before name a)
    (h' : Token find text (before ++ more) name' a') :
    (more = [] ∧ name = name' ∧ a = a') ∨ ∃ gap, more = '$' :: (name ++ gap) := by
  obtain ⟨rest, rfl, hname⟩ := h
  obtain ⟨rest', heq, hname'⟩ := h'
  rw [List.append_assoc, List.append_cancel_left_eq] at heq
  cases more with
  | nil =>
    cases heq
    obtain ⟨rfl, rfl⟩ := hname.unique hname'
    exact .inl ⟨rfl, rfl, rfl⟩
  | cons c more =>
    rw [List.cons_append, List.cons.injEq] at heq
    obtain ⟨rfl, heq⟩ := heq
    obtain ⟨back, rfl, hchars⟩ := hname.exists_split
    rcases append_eq_append_cons heq with ⟨left, hleft⟩ | ⟨gap, rfl, -⟩
    · have hdollar := hchars '$' (by rw [hleft]; simp)
      exact absurd hdollar (by decide)
    · exact .inr ⟨gap, rfl⟩

inductive Piece (α : Type)
  | kept : Char → Piece α
  | token : List Char → α → Piece α

def Piece.source : Piece α → List Char
  | .kept c => [c]
  | .token name _ => '$' :: name

def Piece.filled (spell : α → String) : Piece α → List Char
  | .kept c => [c]
  | .token _ a => (spell a).toList

/-- The pieces one after another are the text, and those among them that are tokens are its tokens,
each in its place. -/
structure Tiles (find : String → Option α) (text : List Char) (pieces : List (Piece α)) : Prop where
  joined : pieces.flatMap Piece.source = text
  tokens : ∀ before name a, Token find text before name a ↔
    ∃ front back, pieces = front ++ .token name a :: back ∧ front.flatMap Piece.source = before

variable {p : Piece α} {pieces pieces' : List (Piece α)} {spell : α → String}

theorem Piece.source_ne_nil (p : Piece α) : p.source ≠ [] := by
  cases p <;> exact List.cons_ne_nil _ _

theorem flatMap_source_eq_nil_iff : pieces.flatMap Piece.source = [] ↔ pieces = [] := by
  cases pieces with
  | nil => simp
  | cons p pieces => simp [p.source_ne_nil]

theorem tiles_nil : Tiles find [] [] where
  joined := rfl
  tokens before name a := by simp [Token]

def Opens (find : String → Option α) (text : List Char) (p : Piece α) : Prop :=
  ∀ name a, Token find text [] name a ↔ p = .token name a

theorem Tiles.opens (h : Tiles find text (p :: pieces)) : Opens find text p := by
  intro name a
  rw [h.tokens]
  constructor
  · rintro ⟨front, back, heq, hfront⟩
    rw [flatMap_source_eq_nil_iff.mp hfront, List.nil_append, List.cons.injEq] at heq
    exact heq.1
  · rintro rfl
    exact ⟨[], pieces, rfl, rfl⟩

theorem Tiles.tail (h : Tiles find text (p :: pieces)) :
    Tiles find (pieces.flatMap Piece.source) pieces where
  joined := rfl
  tokens before name a := by
    have hjoined : p.source ++ pieces.flatMap Piece.source = text := h.joined
    rw [← token_append p.source, hjoined, h.tokens]
    constructor
    · rintro ⟨front, back, heq, hfront⟩
      cases front with
      | nil => exact absurd (List.append_eq_nil_iff.mp hfront.symm).1 p.source_ne_nil
      | cons q front =>
        rw [List.cons_append, List.cons.injEq] at heq
        obtain ⟨rfl, rfl⟩ := heq
        exact ⟨front, back, rfl, List.append_cancel_left hfront⟩
    · rintro ⟨front, back, rfl, rfl⟩
      exact ⟨p :: front, back, rfl, rfl⟩

theorem Opens.exists_behind (hp : Opens find (p.source ++ rest) p)
    (h : Token find (p.source ++ rest) before name a) (hne : before ≠ []) :
    ∃ behind, before = p.source ++ behind := by
  cases p with
  | kept c =>
    obtain ⟨after, heq, -⟩ := h
    rcases append_eq_append_cons heq with ⟨more, hmore⟩ | ⟨behind, hbehind, -⟩
    · have hlength := congrArg List.length hmore
      have hpos := List.length_pos_of_ne_nil hne
      simp only [Piece.source, List.length_append, List.length_singleton] at hlength
      omega
    · exact ⟨behind, hbehind⟩
  | token first b =>
    have hfirst := (hp first b).mpr rfl
    rcases hfirst.apart h with ⟨hnil, -⟩ | hgap
    · exact absurd hnil hne
    · exact hgap

theorem Tiles.cons (hp : Opens find (p.source ++ rest) p) (h : Tiles find rest pieces) :
    Tiles find (p.source ++ rest) (p :: pieces) where
  joined := congrArg (p.source ++ ·) h.joined
  tokens before name a := by
    constructor
    · intro htoken
      by_cases hbefore : before = []
      · subst hbefore
        exact ⟨[], pieces, by rw [(hp name a).mp htoken]; rfl, rfl⟩
      · obtain ⟨behind, rfl⟩ := hp.exists_behind htoken hbefore
        rw [token_append, h.tokens] at htoken
        obtain ⟨front, back, rfl, rfl⟩ := htoken
        exact ⟨p :: front, back, rfl, rfl⟩
    · rintro ⟨front, back, heq, rfl⟩
      cases front with
      | nil =>
        rw [List.nil_append, List.cons.injEq] at heq
        exact (hp name a).mpr heq.1
      | cons q front =>
        rw [List.cons_append, List.cons.injEq] at heq
        obtain ⟨rfl, rfl⟩ := heq
        exact (token_append p.source).mpr ((h.tokens _ name a).mpr ⟨front, back, rfl, rfl⟩)

theorem exists_opens (find : String → Option α) (c : Char) (rest : List Char) :
    ∃ p left, c :: rest = Piece.source p ++ left ∧ Opens find (c :: rest) p := by
  by_cases htoken : ∃ name a, Token find (c :: rest) [] name a
  · obtain ⟨name, a, htoken⟩ := htoken
    obtain ⟨rest', heq, hname⟩ := id htoken
    rw [List.nil_append, List.cons.injEq] at heq
    obtain ⟨rfl, rfl⟩ := heq
    obtain ⟨left, rfl, -⟩ := hname.exists_split
    refine ⟨.token name a, left, rfl, fun name' a' => ⟨fun h => ?_, ?_⟩⟩
    · rcases htoken.apart h with ⟨-, rfl, rfl⟩ | ⟨gap, hgap⟩
      · rfl
      · cases hgap
    · rintro ⟨⟩
      exact htoken
  · refine ⟨.kept c, rest, rfl, fun name a => ⟨fun h => absurd ⟨name, a, h⟩ htoken, ?_⟩⟩
    rintro ⟨⟩

theorem exists_tiles (find : String → Option α) (text : List Char) :
    ∃ pieces, Tiles find text pieces := by
  cases text with
  | nil => exact ⟨[], tiles_nil⟩
  | cons c rest =>
    obtain ⟨p, left, heq, hp⟩ := exists_opens find c rest
    have hshorter : left.length < (c :: rest).length := by
      have hpos := List.length_pos_of_ne_nil p.source_ne_nil
      rw [heq, List.length_append]
      omega
    obtain ⟨pieces, h⟩ := exists_tiles find left
    rw [heq] at hp ⊢
    exact ⟨p :: pieces, h.cons hp⟩
termination_by text.length
decreasing_by exact hshorter

theorem Tiles.eq_nil (h : Tiles find [] pieces) : pieces = [] :=
  flatMap_source_eq_nil_iff.mp h.joined

theorem Tiles.unique (h : Tiles find text pieces) (h' : Tiles find text pieces') :
    pieces = pieces' := by
  induction pieces generalizing text pieces' with
  | nil =>
    obtain rfl : [] = text := h.joined
    exact h'.eq_nil.symm
  | cons p pieces ih =>
    cases pieces' with
    | nil =>
      obtain rfl : [] = text := h'.joined
      exact h.eq_nil
    | cons p' pieces' =>
      have hjoined : p.source ++ pieces.flatMap Piece.source = text := h.joined
      have hjoined' : p'.source ++ pieces'.flatMap Piece.source = text := h'.joined
      obtain rfl : p = p' := by
        cases p with
        | token name a => exact ((h'.opens name a).mp ((h.opens name a).mpr rfl)).symm
        | kept c =>
          cases p' with
          | token name a => exact (h.opens name a).mp ((h'.opens name a).mpr rfl)
          | kept c' =>
            rw [← hjoined', Piece.source, Piece.source, List.cons_append, List.cons_append,
              List.cons.injEq] at hjoined
            rw [hjoined.1]
      rw [← hjoined', List.append_cancel_left_eq] at hjoined
      have htail := h.tail
      rw [hjoined] at htail
      rw [ih htail h'.tail]

theorem Opens.expand (hp : Opens find (p.source ++ rest) p) (spell : α → String) :
    expand (fun name => (find name).map spell) (p.source ++ rest) =
      p.filled spell ++ Template.expand (fun name => (find name).map spell) rest := by
  cases p with
  | kept c =>
    rw [Piece.source, List.singleton_append, Template.expand]
    split
    · rename_i hc
      have hnone : ¬∃ name a, LongestName find (rest.takeWhile isNameChar) name a := by
        rintro ⟨name, a, hname⟩
        cases (hp name a).mp ⟨rest, congrArg (· :: rest) hc, hname⟩
      rw [token?_eq_none hnone, ← hc]
      rfl
    · rfl
  | token name a =>
    obtain ⟨after, heq, hname⟩ := (hp name a).mpr rfl
    rw [Piece.source, List.cons_append, List.nil_append, List.cons.injEq] at heq
    obtain ⟨-, rfl⟩ := heq
    rw [Piece.source, List.cons_append, Template.expand, if_pos rfl, hname.token?]
    dsimp only
    rw [List.drop_left]
    rfl

theorem Tiles.expand (h : Tiles find text pieces) (spell : α → String) :
    expand (fun name => (find name).map spell) text = pieces.flatMap (Piece.filled spell) := by
  induction pieces generalizing text with
  | nil =>
    obtain rfl : [] = text := h.joined
    rw [Template.expand]
    rfl
  | cons p pieces ih =>
    have hp := h.opens
    obtain rfl : p.source ++ pieces.flatMap Piece.source = text := h.joined
    rw [hp.expand, ih h.tail, List.flatMap_cons]

/-- A character that no value has comes from the text, at the place where it stands in it. -/
theorem exists_kept {front back : List Char} {c : Char} (hc : ∀ a, c ∉ (spell a).toList)
    (h : pieces.flatMap (Piece.filled spell) = front ++ c :: back) :
    ∃ left right, pieces = left ++ .kept c :: right ∧ left.flatMap (Piece.filled spell) = front ∧
      right.flatMap (Piece.filled spell) = back := by
  induction pieces generalizing front with
  | nil => simp at h
  | cons p pieces ih =>
    rw [List.flatMap_cons] at h
    cases p with
    | kept d =>
      rw [Piece.filled, List.singleton_append] at h
      cases front with
      | nil =>
        rw [List.nil_append, List.cons.injEq] at h
        obtain ⟨rfl, rfl⟩ := h
        exact ⟨[], pieces, rfl, rfl, rfl⟩
      | cons e front =>
        rw [List.cons_append, List.cons.injEq] at h
        obtain ⟨rfl, h⟩ := h
        obtain ⟨left, right, rfl, rfl, rfl⟩ := ih h
        exact ⟨.kept d :: left, right, rfl, rfl, rfl⟩
    | token name a =>
      rcases append_eq_append_cons h with ⟨more, hmore⟩ | ⟨behind, rfl, hbehind⟩
      · have hmem : c ∈ (spell a).toList := by
          rw [Piece.filled] at hmore
          rw [hmore]
          simp
        exact absurd hmem (hc a)
      · obtain ⟨left, right, rfl, rfl, rfl⟩ := ih hbehind
        exact ⟨.token name a :: left, right, rfl, rfl, rfl⟩

def escapedVars (vars : Table Definition) : Table Definition :=
  vars.map fun _ d => { d with value := .text (escaped d.text) }

theorem Tiles.interpolate {vars : Table Definition} {text : String}
    {pieces : List (Piece Definition)} (h : Tiles vars.get? text.toList pieces)
    (encoding : Encoding) : (interpolate vars encoding text).toList =
      pieces.flatMap (Piece.filled fun d => encoding.apply d.text) := by
  rw [← h.expand]
  exact String.toList_ofList

theorem interpolate_of_no_token {vars : Table Definition} {text : String}
    (h : ∀ before name d, ¬Token vars.get? text.toList before name d) (encoding : Encoding) :
    interpolate vars encoding text = text := by
  obtain ⟨pieces, htiles⟩ := exists_tiles vars.get? text.toList
  have hkept : ∀ p ∈ pieces, p.filled (fun d => encoding.apply d.text) = p.source := by
    intro p hp
    cases p with
    | kept c => rfl
    | token name d =>
      obtain ⟨front, back, hsplit⟩ := List.append_of_mem hp
      exact absurd ((htiles.tokens _ name d).mpr ⟨front, back, hsplit, rfl⟩) (h _ name d)
  apply String.toList_inj.mp
  rw [htiles.interpolate, ← htiles.joined, List.flatMap_congr hkept]

theorem interpolate_percent (vars : Table Definition) (text : String) :
    interpolate vars .percent text = interpolate (escapedVars vars) .plain text := by
  have hvalue (name : String) : (vars.get? name).map (fun d => Encoding.percent.apply d.text) =
      ((escapedVars vars).get? name).map fun d => Encoding.plain.apply d.text := by
    rw [escapedVars, Table.get?_map, Option.map_map]
    exact congrArg (Option.map · (vars.get? name))
      (funext fun d => percentEncode_eq_escaped d.text)
  exact congrArg (fun value => String.ofList (expand value text.toList)) (funext hvalue)

/-- A text with its tokens replaced, whatever the names and values of the variables are. -/
theorem interpolate_tiles (vars : Table Definition) (text : String) :
    (∀ before rest, text.toList = before ++ '$' :: rest →
      ((∃ name d, Token vars.get? text.toList before name d) ↔
        ∃ start, start ≠ [] ∧ start <+: rest.takeWhile isNameChar ∧
          (vars.get? (String.ofList start)).isSome = true)) ∧
    (∀ before name d more name' d', Token vars.get? text.toList before name d →
      Token vars.get? text.toList (before ++ more) name' d' →
        (more = [] ∧ name = name' ∧ d = d') ∨ ∃ gap, more = '$' :: (name ++ gap)) ∧
    ∃ pieces, Tiles vars.get? text.toList pieces ∧
      (∀ others, Tiles vars.get? text.toList others → others = pieces) ∧
      (interpolate vars .plain text).toList = pieces.flatMap (Piece.filled Definition.text) ∧
      interpolate vars .percent text = interpolate (escapedVars vars) .plain text ∧
      ∀ front c back, (interpolate vars .percent text).toList = front ++ c :: back →
        isUnreserved c = false → c ≠ '%' →
          ∃ left right, pieces = left ++ .kept c :: right ∧
            left.flatMap (Piece.filled fun d => escaped d.text) = front ∧
            right.flatMap (Piece.filled fun d => escaped d.text) = back := by
  refine ⟨fun before rest h => exists_token_iff h,
    fun before name d more name' d' h h' => h.apart h', ?_⟩
  obtain ⟨pieces, h⟩ := exists_tiles vars.get? text.toList
  refine ⟨pieces, h, fun others h' => h'.unique h, h.interpolate .plain,
    interpolate_percent vars text, fun front c back hc hunreserved hpercent => ?_⟩
  have hspell : (fun d : Definition => Encoding.percent.apply d.text) = fun d => escaped d.text :=
    funext fun d => percentEncode_eq_escaped d.text
  rw [h.interpolate .percent, hspell] at hc
  refine exists_kept (fun d hmem => ?_) hc
  rw [← percentEncode_eq_escaped] at hmem
  rcases isUnreserved_of_mem_percentEncode hmem with hyes | rfl
  · rw [hyes] at hunreserved
    cases hunreserved
  · exact hpercent rfl

end RequestBook.Template
