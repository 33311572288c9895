import RequestBook.Proofs.Draft.Headers
import RequestBook.Proofs.Settings.History

/-!
Settings laid over others. Names that differ in letter case only are variants of one name. Of the
variants in the upper settings the last is left alone; those below stay only where the upper settings
have none. Main statement: this makes laying settings over others associative, a second time changes
nothing, and settings that are loaded never have two variants of a name.
-/

namespace RequestBook

open RequestBook.Text

namespace Text

theorem sameName_congr {a b : String} (h : sameName a b = true) (c : String) :
    sameName a c = sameName b c := by
  rw [sameName, sameName, eq_of_beq h]

end Text

namespace Table

variable {α : Type}

def lastOr (entries : List (String × α)) (lower : Table α) : Table α :=
  match entries.getLast? with
  | some e => empty.insert e.1 e.2
  | none => lower

theorem lastOr_lastOr (top : List (String × α)) (upper lower : Table α) :
    lastOr top (lastOr upper.entries lower) = lastOr (lastOr top upper).entries lower := by
  simp only [lastOr]
  cases top.getLast? <;> rfl

theorem lastOr_self (entries : List (String × α)) (lower : Table α) :
    lastOr entries (lastOr entries lower) = lastOr entries lower := by
  simp only [lastOr]
  cases entries.getLast? <;> rfl

theorem lastOr_cons (e : String × α) (entries : List (String × α)) (lower : Table α) :
    lastOr (e :: entries) lower = lastOr entries (empty.insert e.1 e.2) := by
  rw [lastOr, lastOr, List.getLast?_cons]
  cases entries.getLast? <;> rfl

def variants (headers : Table α) (name : String) : Table α :=
  headers.filter fun k _ => sameName k name

theorem mem_variants_iff {headers : Table α} {name : String} {e : String × α} :
    e ∈ (headers.variants name).entries ↔ headers.get? e.1 = some e.2 ∧ sameName e.1 name = true := by
  rw [get?_eq_some_iff]
  exact List.mem_filter

theorem get?_variants_self (headers : Table α) (name : String) :
    (headers.variants name).get? name = headers.get? name := by
  rw [variants, get?_filter, sameName_refl]
  cases headers.get? name <;> rfl

theorem ext_variants {a b : Table α} (h : ∀ name, a.variants name = b.variants name) : a = b := by
  refine ext_get? fun name => ?_
  rw [← get?_variants_self a, ← get?_variants_self b, h name]

end Table

namespace Settings

variable {base upper top settings : Settings} {name key value : String}

theorem variants_replaceHeader (headers : Table String) (key value name : String) :
    (replaceHeader headers key value).variants name =
      if sameName key name then Table.empty.insert key value else headers.variants name := by
  refine Table.ext_get? fun k => ?_
  have hvariants (t : Table String) :
      (t.variants name).get? k = (t.get? k).filter fun _ => sameName k name :=
    Table.get?_filter _ t k
  rw [hvariants, get?_replaceHeader]
  cases hname : sameName key name with
  | true =>
    rw [if_pos rfl, Table.get?_insert, Table.get?_empty]
    by_cases hk : k = key
    · simp [hk, hname]
    cases hvariant : sameName k key with
    | true => simp [hk]
    | false =>
      have hother : sameName k name = false := by
        rw [sameName_comm, ← sameName_congr hname, sameName_comm, hvariant]
      simp [hk, hother]
  | false =>
    rw [if_neg Bool.false_ne_true, hvariants]
    by_cases hk : k = key
    · rw [if_pos hk, hk, hname]
      cases headers.get? key <;> rfl
    cases hvariant : sameName k key with
    | true =>
      rw [if_neg hk, if_pos rfl, sameName_congr hvariant, hname]
      cases headers.get? k <;> rfl
    | false => rw [if_neg hk, if_neg Bool.false_ne_true]

theorem variants_foldl (entries : List (String × String)) (headers : Table String) (name : String) :
    (entries.foldl (fun t e => replaceHeader t e.1 e.2) headers).variants name =
      Table.lastOr (entries.filter fun e => sameName e.1 name) (headers.variants name) := by
  induction entries generalizing headers with
  | nil => rfl
  | cons e entries ih =>
    rw [List.foldl_cons, ih, variants_replaceHeader, List.filter_cons]
    cases sameName e.1 name with
    | true => exact (Table.lastOr_cons e _ _).symm
    | false => rfl

theorem variants_merge (base upper : Settings) (name : String) :
    (base.merge upper).defaultHeaders.variants name =
      Table.lastOr (upper.defaultHeaders.variants name).entries (base.defaultHeaders.variants name) :=
  variants_foldl upper.defaultHeaders.entries base.defaultHeaders name

theorem exists_mem_variants {headers : Table String} (hname : name ∈ headers.names)
    (hsame : sameName name key = true) : ∃ value, (name, value) ∈ (headers.variants key).entries := by
  obtain ⟨value, hvalue⟩ := Option.isSome_iff_exists.mp (Table.mem_names_iff.mp hname)
  exact ⟨value, Table.mem_variants_iff.mpr ⟨hvalue, hsame⟩⟩

/-- The variants of a name where headers are laid over others: the last of those above, or else those
below. -/
inductive Overlaid (lower upper : Table String) (name : String) : List (String × String) → Prop
  | replaced {key value : String} : upper.get? key = some value → sameName key name = true →
      (∀ other ∈ upper.names, sameName other name = true → other ≤ key) →
      Overlaid lower upper name [(key, value)]
  | kept : (∀ other ∈ upper.names, sameName other name = false) →
      Overlaid lower upper name (lower.variants name).entries

theorem overlaid_lastOr (lower upper : Table String) (name : String) :
    Overlaid lower upper name
      (Table.lastOr (upper.variants name).entries (lower.variants name)).entries := by
  rw [Table.lastOr]
  cases hlast : (upper.variants name).entries.getLast? with
  | some e =>
    obtain ⟨hget, hsame⟩ := Table.mem_variants_iff.mp (List.mem_of_getLast? hlast)
    refine .replaced hget hsame fun other hother hvariant => ?_
    obtain ⟨text, htext⟩ := exists_mem_variants hother hvariant
    obtain ⟨init, hinit⟩ := List.getLast?_eq_some_iff.mp hlast
    have hordered := (upper.variants name).ordered
    rw [hinit] at hordered htext
    rcases List.mem_append.mp htext with hbefore | heq
    · have hlt := (List.pairwise_append.mp hordered).2.2 _ hbefore e List.mem_cons_self
      exact String.not_lt.mp (String.lt_asymm hlt)
    · obtain rfl := List.mem_singleton.mp heq
      exact String.le_refl other
  | none =>
    refine .kept fun other hother => Bool.not_eq_true _ ▸ fun hvariant => ?_
    obtain ⟨text, htext⟩ := exists_mem_variants hother hvariant
    rw [List.getLast?_eq_none_iff.mp hlast] at htext
    cases htext

theorem overlaid_merge (base upper : Settings) (name : String) :
    Overlaid base.defaultHeaders upper.defaultHeaders name
      ((base.merge upper).defaultHeaders.variants name).entries := by
  rw [variants_merge]
  exact overlaid_lastOr base.defaultHeaders upper.defaultHeaders name

theorem merge_assoc (base upper top : Settings) :
    (base.merge upper).merge top = base.merge (upper.merge top) := by
  have hheaders : ((base.merge upper).merge top).defaultHeaders =
      (base.merge (upper.merge top)).defaultHeaders := by
    refine Table.ext_variants fun name => ?_
    simp only [variants_merge, Table.lastOr_lastOr]
  exact congrArg (fun headers => { top with defaultHeaders := headers }) hheaders

theorem merge_self (base upper : Settings) : (base.merge upper).merge upper = base.merge upper := by
  have hheaders : ((base.merge upper).merge upper).defaultHeaders =
      (base.merge upper).defaultHeaders := by
    refine Table.ext_variants fun name => ?_
    simp only [variants_merge, Table.lastOr_self]
  exact congrArg (fun headers => { upper with defaultHeaders := headers }) hheaders

def Distinct (settings : Settings) : Prop :=
  ∀ name ∈ settings.defaultHeaders.names, ∀ other ∈ settings.defaultHeaders.names,
    sameName name other = true → name = other

theorem distinct_merge (h : base.Distinct) (upper : Settings) : (base.merge upper).Distinct := by
  intro name hname other hother hsame
  obtain ⟨value, hvalue⟩ := exists_mem_variants hname hsame
  obtain ⟨value', hvalue'⟩ := exists_mem_variants hother (sameName_refl other)
  have hoverlaid := overlaid_merge base upper other
  generalize ((base.merge upper).defaultHeaders.variants other).entries = left at *
  cases hoverlaid with
  | replaced =>
    obtain ⟨rfl, -⟩ := Prod.mk.inj (List.mem_singleton.mp hvalue)
    obtain ⟨rfl, -⟩ := Prod.mk.inj (List.mem_singleton.mp hvalue')
    rfl
  | kept =>
    have hbase {k text : String} (hk : (k, text) ∈ (base.defaultHeaders.variants other).entries) :
        k ∈ base.defaultHeaders.names :=
      Table.mem_names_iff.mpr (Option.isSome_of_mem (Table.mem_variants_iff.mp hk).1)
    exact h name (hbase hvalue) other (hbase hvalue') hsame

theorem distinct_default : default.Distinct := by
  have hnames : default.defaultHeaders.names = ["User-Agent"] := by decide
  intro name hname other hother _
  rw [hnames, List.mem_singleton] at hname hother
  rw [hname, hother]

theorem distinct_ofFile (file : Option Json) : (ofFile file).Distinct := by
  rw [ofFile]
  split
  · exact distinct_merge distinct_default _
  · exact distinct_default

theorem get?_foldedDefaults_of_distinct (h : settings.Distinct)
    (hvalue : settings.defaultHeaders.get? name = some value) :
    (Draft.foldedDefaults settings).get? (foldCase name) = some value := by
  have hname : name ∈ settings.defaultHeaders.names :=
    Table.mem_names_iff.mpr (Option.isSome_of_mem hvalue)
  refine Draft.get?_foldedDefaults_iff.mpr ⟨name, hvalue, sameName_refl name, ?_⟩
  intro other hother hsame
  obtain rfl := h other hother name hname hsame
  exact String.le_refl other

theorem eq_ofFile_of_load {file : Option Json} (h : load file = .ok settings) :
    settings = ofFile file := by
  rw [load] at h
  split at h
  · exact (Except.ok.inj h).symm
  · cases h

/-- What settings are where some are laid over others, for one name and for all; it does not matter
which are laid over which first, and a second time changes nothing. -/
theorem merge_overlays (base upper top : Settings) :
    (∀ name, Overlaid base.defaultHeaders upper.defaultHeaders name
      ((base.merge upper).defaultHeaders.variants name).entries) ∧
    (base.merge upper).merge top = base.merge (upper.merge top) ∧
    (base.merge upper).merge upper = base.merge upper ∧
    (base.Distinct → (base.merge upper).Distinct) ∧
    ∀ file loaded, load file = .ok loaded → loaded.Distinct ∧
      ∀ name value, loaded.defaultHeaders.get? name = some value →
        (Draft.foldedDefaults loaded).get? (foldCase name) = some value := by
  refine ⟨overlaid_merge base upper, merge_assoc base upper top, merge_self base upper,
    fun h => distinct_merge h upper, fun file loaded hloaded => ?_⟩
  have hdistinct : loaded.Distinct := eq_ofFile_of_load hloaded ▸ distinct_ofFile file
  exact ⟨hdistinct, fun name value hvalue => get?_foldedDefaults_of_distinct hdistinct hvalue⟩

def shouting : Settings :=
  ⟨Table.ofList [("USER-AGENT", "a"), ("user-agent", "b")], true, true, true⟩

def shoutingFile : Json :=
  .object [(sectionName, .object [("defaultHeaders",
    .object [("USER-AGENT", .string "a"), ("user-agent", .string "b")])])]

theorem merge_overlays_shouting : default.Distinct ∧ ¬shouting.Distinct ∧
    (default.merge shouting).defaultHeaders.entries = [("user-agent", "b")] ∧
      (default.merge shouting).Distinct ∧
        ∃ loaded, load (some shoutingFile) = .ok loaded ∧ loaded.Distinct ∧
          (Draft.foldedDefaults loaded).get? (foldCase "user-agent") = some "b" := by
  obtain ⟨-, -, -, hdistinct, hload⟩ := merge_overlays default shouting shouting
  obtain ⟨loaded, hloaded, hheaders⟩ : ∃ loaded, load (some shoutingFile) = .ok loaded ∧
      loaded.defaultHeaders.entries = [("user-agent", "b")] := ⟨_, rfl, by decide⟩
  obtain ⟨hloadedDistinct, hsent⟩ := hload (some shoutingFile) loaded hloaded
  refine ⟨distinct_default, fun h => ?_, by decide, hdistinct distinct_default, loaded, hloaded,
    hloadedDistinct, hsent _ _ ?_⟩
  · exact absurd (h "USER-AGENT" (by decide) "user-agent" (by decide) (by decide)) (by decide)
  · rw [Table.get?, hheaders]
    decide

end Settings

end RequestBook
