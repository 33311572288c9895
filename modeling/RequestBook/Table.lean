import RequestBook.Text.Case

namespace RequestBook

/-- A finite map keyed by names; one value per name, names in increasing order. -/
structure Table (α : Type) where
  entries : List (String × α)
  ordered : entries.Pairwise (·.1 < ·.1)

namespace Table

variable {α β : Type}

instance [DecidableEq α] : DecidableEq (Table α) := fun a b =>
  decidable_of_iff (a.entries = b.entries) (by cases a; cases b; simp)

theorem ext_entries {a b : Table α} (h : a.entries = b.entries) : a = b := by
  cases a; cases b; simp_all

def empty : Table α := ⟨[], .nil⟩

instance : Inhabited (Table α) := ⟨empty⟩

instance : EmptyCollection (Table α) := ⟨empty⟩

def get? (t : Table α) (name : String) : Option α :=
  t.entries.lookup name

def contains (t : Table α) (name : String) : Bool :=
  (t.get? name).isSome

def names (t : Table α) : List String :=
  t.entries.map (·.1)

def values (t : Table α) : List α :=
  t.entries.map (·.2)

def place (name : String) (value : α) : List (String × α) → List (String × α)
  | [] => [(name, value)]
  | (k, v) :: rest =>
    if name < k then (name, value) :: (k, v) :: rest
    else if name = k then (name, value) :: rest
    else (k, v) :: place name value rest

theorem mem_place {name : String} {value : α} {x : String × α} {entries : List (String × α)}
    (h : x ∈ place name value entries) : x = (name, value) ∨ x ∈ entries := by
  induction entries with
  | nil => simpa [place] using h
  | cons e rest ih =>
    obtain ⟨k, v⟩ := e
    simp only [place] at h
    split at h
    · simpa using h
    · split at h
      · simp only [List.mem_cons] at h ⊢
        exact h.imp_right .inr
      · simp only [List.mem_cons] at h ⊢
        rcases h with h | h
        · exact .inr (.inl h)
        · exact (ih h).imp_right .inr

theorem lt_of_not_lt_of_ne {a b : String} (h : ¬a < b) (hne : a ≠ b) : b < a :=
  String.not_le.mp fun hle => hne (String.le_antisymm hle (String.not_lt.mp h))

theorem ordered_place (name : String) (value : α) {entries : List (String × α)}
    (h : entries.Pairwise (·.1 < ·.1)) : (place name value entries).Pairwise (·.1 < ·.1) := by
  induction entries with
  | nil => simp [place]
  | cons e rest ih =>
    obtain ⟨k, v⟩ := e
    rw [List.pairwise_cons] at h
    simp only [place]
    split
    · rename_i hlt
      refine List.pairwise_cons.mpr ⟨fun x hx => ?_, List.pairwise_cons.mpr h⟩
      rcases List.mem_cons.mp hx with rfl | hx
      · exact hlt
      · exact String.lt_trans hlt (h.1 x hx)
    · rename_i hlt
      split
      · rename_i heq
        subst heq
        exact List.pairwise_cons.mpr ⟨h.1, h.2⟩
      · rename_i hne
        refine List.pairwise_cons.mpr ⟨fun x hx => ?_, ih h.2⟩
        rcases mem_place hx with rfl | hx
        · exact lt_of_not_lt_of_ne hlt hne
        · exact h.1 x hx

def insert (t : Table α) (name : String) (value : α) : Table α :=
  ⟨place name value t.entries, ordered_place name value t.ordered⟩

def filter (keep : String → α → Bool) (t : Table α) : Table α :=
  ⟨t.entries.filter fun e => keep e.1 e.2, t.ordered.filter _⟩

def erase (t : Table α) (name : String) : Table α :=
  t.filter fun k _ => k != name

def map (f : String → α → β) (t : Table α) : Table β :=
  ⟨t.entries.map fun e => (e.1, f e.1 e.2), by
    rw [List.pairwise_map]
    exact t.ordered⟩

def ofList (pairs : List (String × α)) : Table α :=
  pairs.foldl (fun t e => t.insert e.1 e.2) empty

def overlay (t upper : Table α) : Table α :=
  upper.entries.foldl (fun t e => t.insert e.1 e.2) t

@[simp] theorem get?_empty (name : String) : (empty : Table α).get? name = none := rfl

theorem lookup_place (name k : String) (value : α) {entries : List (String × α)}
    (h : entries.Pairwise (·.1 < ·.1)) :
    (place name value entries).lookup k =
      if k = name then some value else entries.lookup k := by
  induction entries with
  | nil =>
    by_cases hk : k = name <;> simp [place, List.lookup_cons, hk, beq_eq_false_iff_ne.mpr]
  | cons e rest ih =>
    obtain ⟨k', v⟩ := e
    rw [List.pairwise_cons] at h
    have ih := ih h.2
    simp only [place]
    split
    · by_cases hk : k = name
      · simp [hk]
      · simp [List.lookup_cons, beq_eq_false_iff_ne.mpr hk, hk]
    · split
      · rename_i heq
        subst heq
        by_cases hk : k = name
        · simp [hk]
        · simp [List.lookup_cons, hk, beq_eq_false_iff_ne.mpr hk]
      · rename_i hne
        by_cases hk' : k = k'
        · subst hk'
          simp [Ne.symm hne]
        · simp [List.lookup_cons, beq_eq_false_iff_ne.mpr hk', ih]

@[simp] theorem get?_insert (t : Table α) (name k : String) (value : α) :
    (t.insert name value).get? k = if k = name then some value else t.get? k :=
  lookup_place name k value t.ordered

theorem lookup_eq_none_of_forall_lt {k : String} {entries : List (String × α)}
    (h : ∀ x ∈ entries, k < x.1) : entries.lookup k = none :=
  List.lookup_eq_none_iff.mpr fun x hx =>
    bne_iff_ne.mpr fun heq => String.lt_irrefl k (by simpa [← heq] using h x hx)

theorem lookup_filter (keep : String → α → Bool) (k : String) {entries : List (String × α)}
    (h : entries.Pairwise (·.1 < ·.1)) :
    (entries.filter fun e => keep e.1 e.2).lookup k = (entries.lookup k).filter (keep k) := by
  induction entries with
  | nil => rfl
  | cons e rest ih =>
    obtain ⟨k', v⟩ := e
    rw [List.pairwise_cons] at h
    have ih := ih h.2
    by_cases hk : k = k'
    · subst hk
      rw [lookup_eq_none_of_forall_lt h.1] at ih
      cases hkeep : keep k v <;> simp [hkeep, ih, Option.filter]
    · cases hkeep : keep k' v <;>
        simp [List.lookup_cons, beq_eq_false_iff_ne.mpr hk, hkeep, ih]

@[simp] theorem get?_filter (keep : String → α → Bool) (t : Table α) (k : String) :
    (t.filter keep).get? k = (t.get? k).filter (keep k) :=
  lookup_filter keep k t.ordered

@[simp] theorem get?_erase (t : Table α) (name k : String) :
    (t.erase name).get? k = if k = name then none else t.get? k := by
  by_cases h : k = name <;> cases hk : t.get? k <;> simp_all [erase, Option.filter]

theorem lookup_map (f : String → α → β) (k : String) (entries : List (String × α)) :
    (entries.map fun e => (e.1, f e.1 e.2)).lookup k = (entries.lookup k).map (f k) := by
  induction entries with
  | nil => rfl
  | cons e rest ih =>
    obtain ⟨k', v⟩ := e
    by_cases h : k = k'
    · subst h
      simp
    · simp [List.lookup_cons, beq_eq_false_iff_ne.mpr h, ih]

@[simp] theorem get?_map (f : String → α → β) (t : Table α) (k : String) :
    (t.map f).get? k = (t.get? k).map (f k) :=
  lookup_map f k t.entries

theorem get?_foldl_insert (pairs : List (String × α)) (t : Table α) (k : String) :
    (pairs.foldl (fun t e => t.insert e.1 e.2) t).get? k =
      (pairs.reverse.lookup k).or (t.get? k) := by
  induction pairs generalizing t with
  | nil => simp
  | cons e rest ih =>
    obtain ⟨k', v⟩ := e
    simp only [List.foldl_cons, ih, get?_insert, List.reverse_cons, List.lookup_append]
    by_cases h : k = k'
    · simp [h]
    · simp [h, List.lookup_cons, beq_eq_false_iff_ne.mpr h]

theorem get?_ofList (pairs : List (String × α)) (k : String) :
    (ofList pairs).get? k = pairs.reverse.lookup k := by
  simp [ofList, get?_foldl_insert]

theorem get?_eq_some_iff {t : Table α} {name : String} {value : α} :
    t.get? name = some value ↔ (name, value) ∈ t.entries := by
  constructor
  · intro h
    obtain ⟨before, after, hsplit, -⟩ := List.lookup_eq_some_iff.mp h
    rw [hsplit]
    exact List.mem_append_right _ List.mem_cons_self
  · intro h
    obtain ⟨before, after, hsplit⟩ := List.append_of_mem h
    refine List.lookup_eq_some_iff.mpr ⟨before, after, hsplit, fun e he => ?_⟩
    refine bne_iff_ne.mpr fun heq => ?_
    have hordered := t.ordered
    rw [hsplit] at hordered
    have hlt : e.1 < name := (List.pairwise_append.mp hordered).2.2 e he _ List.mem_cons_self
    rw [heq] at hlt
    exact String.lt_irrefl _ hlt

theorem mem_values_of_get? {t : Table α} {name : String} {value : α}
    (h : t.get? name = some value) : value ∈ t.values :=
  List.mem_map_of_mem (get?_eq_some_iff.mp h)

theorem exists_get?_of_mem_values {t : Table α} {value : α} (h : value ∈ t.values) :
    ∃ name, t.get? name = some value := by
  obtain ⟨⟨name, v⟩, he, rfl⟩ := List.mem_map.mp h
  exact ⟨name, get?_eq_some_iff.mpr he⟩

theorem mem_names_iff {t : Table α} {name : String} :
    name ∈ t.names ↔ (t.get? name).isSome = true := by
  simp only [names, get?, List.mem_map, List.lookup_isSome_iff, beq_iff_eq]
  constructor
  · rintro ⟨e, he, rfl⟩
    exact ⟨e, he, rfl⟩
  · rintro ⟨e, he, rfl⟩
    exact ⟨e, he, rfl⟩

theorem mem_names_ofList {pairs : List (String × α)} {name : String} :
    name ∈ (ofList pairs).names ↔ name ∈ pairs.map (·.1) := by
  rw [mem_names_iff, get?_ofList, List.lookup_isSome_iff]
  simp only [List.mem_reverse, List.mem_map, beq_iff_eq]
  constructor
  · rintro ⟨e, he, rfl⟩
    exact ⟨e, he, rfl⟩
  · rintro ⟨e, he, rfl⟩
    exact ⟨e, he, rfl⟩

theorem lookup_reverse (k : String) {entries : List (String × α)}
    (h : entries.Pairwise (·.1 < ·.1)) : entries.reverse.lookup k = entries.lookup k := by
  induction entries with
  | nil => rfl
  | cons e rest ih =>
    obtain ⟨k', v⟩ := e
    rw [List.pairwise_cons] at h
    rw [List.reverse_cons, List.lookup_append, ih h.2]
    by_cases hk : k = k'
    · subst hk
      simp [lookup_eq_none_of_forall_lt h.1]
    · simp [List.lookup_cons, beq_eq_false_iff_ne.mpr hk]

theorem get?_ofList_map_iff {t : Table α} {f : String → String} {k : String} {value : α} :
    (ofList (t.entries.map fun e => (f e.1, e.2))).get? k = some value ↔
      ∃ name, t.get? name = some value ∧ f name = k ∧
        ∀ other ∈ t.names, f other = k → other ≤ name := by
  have hordered : t.entries.reverse.Pairwise fun a b => b.1 < a.1 :=
    List.pairwise_reverse.mpr t.ordered
  rw [get?_ofList, ← List.map_reverse, List.lookup_eq_some_iff]
  constructor
  · rintro ⟨before, after, hsplit, hbefore⟩
    obtain ⟨front, back, hreverse, rfl, hback⟩ := List.map_eq_append_iff.mp hsplit
    obtain ⟨⟨name, v⟩, back, rfl, heq, -⟩ := List.map_eq_cons_iff.mp hback
    cases heq
    have hmem : (name, v) ∈ t.entries := by
      rw [← List.mem_reverse, hreverse]
      exact List.mem_append_right _ List.mem_cons_self
    refine ⟨name, get?_eq_some_iff.mpr hmem, rfl, fun other hother hsame => ?_⟩
    obtain ⟨x, hx, rfl⟩ := List.mem_map.mp hother
    rw [← List.mem_reverse, hreverse] at hx
    rw [hreverse] at hordered
    rcases List.mem_append.mp hx with hfront | hback
    · exact absurd hsame.symm (bne_iff_ne.mp (hbefore _ (List.mem_map_of_mem hfront)))
    · rcases List.mem_cons.mp hback with rfl | hlater
      · exact String.le_refl _
      · have hafter := (List.pairwise_append.mp hordered).2.1
        exact String.not_lt.mp (String.lt_asymm ((List.pairwise_cons.mp hafter).1 x hlater))
  · rintro ⟨name, hname, rfl, hlast⟩
    have hmem := List.mem_reverse.mpr (get?_eq_some_iff.mp hname)
    obtain ⟨front, back, hreverse⟩ := List.append_of_mem hmem
    refine ⟨front.map fun e => (f e.1, e.2), back.map fun e => (f e.1, e.2), ?_, ?_⟩
    · rw [hreverse, List.map_append, List.map_cons]
    · intro e he
      obtain ⟨x, hx, rfl⟩ := List.mem_map.mp he
      refine bne_iff_ne.mpr fun hsame => ?_
      have hx' : x ∈ t.entries := by
        rw [← List.mem_reverse, hreverse]
        exact List.mem_append_left _ hx
      rw [hreverse] at hordered
      have hlt := (List.pairwise_append.mp hordered).2.2 x hx _ List.mem_cons_self
      exact String.not_lt.mpr (hlast x.1 (List.mem_map_of_mem hx') hsame.symm) hlt

@[simp] theorem get?_overlay (t upper : Table α) (k : String) :
    (t.overlay upper).get? k = (upper.get? k).or (t.get? k) := by
  rw [overlay, get?_foldl_insert, lookup_reverse k upper.ordered]
  rfl

theorem lookup_head_of_lookup_eq {k : String} {v : α} {rest : List (String × α)}
    {entries : List (String × α)} (hp : entries.Pairwise (·.1 < ·.1))
    (h : ∀ n, ((k, v) :: rest).lookup n = entries.lookup n) :
    ∃ k' v' rest', entries = (k', v') :: rest' ∧ k' ≤ k := by
  have hk := h k
  cases entries with
  | nil => simp at hk
  | cons e rest' =>
    refine ⟨e.1, e.2, rest', rfl, String.not_lt.mp fun hlt => ?_⟩
    have hnone : (e :: rest').lookup k = none :=
      lookup_eq_none_of_forall_lt fun x hx => by
        rcases List.mem_cons.mp hx with rfl | hx
        · exact hlt
        · exact String.lt_trans hlt ((List.pairwise_cons.mp hp).1 x hx)
    simp [hnone] at hk

theorem ext_get? {a b : Table α} (h : ∀ name, a.get? name = b.get? name) : a = b := by
  obtain ⟨xs, hx⟩ := a
  obtain ⟨ys, hy⟩ := b
  simp only [get?] at h
  refine ext_entries ?_
  dsimp only
  induction xs generalizing ys with
  | nil =>
    cases ys with
    | nil => rfl
    | cons e rest =>
      obtain ⟨k, v⟩ := e
      simpa using h k
  | cons e rest ih =>
    obtain ⟨k, v⟩ := e
    obtain ⟨k', v', rest', rfl, hle⟩ := lookup_head_of_lookup_eq hy h
    obtain ⟨k'', v'', rest'', heq, hle'⟩ := lookup_head_of_lookup_eq hx fun n => (h n).symm
    simp only [List.cons.injEq, Prod.mk.injEq] at heq
    obtain ⟨⟨rfl, rfl⟩, rfl⟩ := heq
    obtain rfl := String.le_antisymm hle hle'
    have hv : v = v' := by simpa using h k'
    subst hv
    rw [List.pairwise_cons] at hx hy
    congr 1
    refine ih hx.2 rest' hy.2 fun n => ?_
    by_cases hn : n = k'
    · subst hn
      rw [lookup_eq_none_of_forall_lt hx.1, lookup_eq_none_of_forall_lt hy.1]
    · simpa [List.lookup_cons, beq_eq_false_iff_ne.mpr hn] using h n

end Table

end RequestBook
