import RequestBook.Settings

namespace RequestBook

open RequestBook.Text

theorem isTokenChar_toLower (c : Char) : isTokenChar c.toLower = isTokenChar c := by
  by_cases hc : c.toNat < 128
  · exact of_toNat_lt (P := fun c => isTokenChar c.toLower = isTokenChar c) (by decide) hc
  · rw [toLower_of_le_toNat (Nat.not_lt.mp hc)]

theorem isHeaderName_foldCase (name : String) : isHeaderName (foldCase name) = isHeaderName name := by
  have hempty : (foldCase name).isEmpty = name.isEmpty := by
    rw [Bool.eq_iff_iff, String.isEmpty_iff, String.isEmpty_iff, foldCase, ← String.toList_inj,
      ← String.toList_inj]
    simp
  have hchars : (foldCase name).toList.all isTokenChar = name.toList.all isTokenChar := by
    rw [foldCase, String.toList_ofList, List.all_map]
    exact congrArg name.toList.all (funext isTokenChar_toLower)
  rw [isHeaderName, isHeaderName, hempty, hchars]

theorem isHeaderName_of_sameName {a b : String} (h : sameName a b = true) :
    isHeaderName a = isHeaderName b := by
  rw [← isHeaderName_foldCase a, ← isHeaderName_foldCase b, eq_of_beq h]

namespace Settings

variable {headers : Table String} {name value k : String}

def Allowed (settings : Settings) : Prop :=
  ∀ name ∈ settings.defaultHeaders.names, isHeaderName name = true

theorem error?_eq_none_iff (settings : Settings) : settings.error? = none ↔ settings.Allowed := by
  simp [error?, Allowed]

theorem isValid_iff (settings : Settings) : settings.isValid = true ↔ settings.Allowed := by
  rw [isValid, Option.isNone_iff_eq_none, error?_eq_none_iff]

theorem exists_of_error? {settings : Settings} {e : Error} (h : settings.error? = some e) :
    ∃ name ∈ settings.defaultHeaders.names, isHeaderName name = false ∧
      e = .invalidHeaderName name := by
  obtain ⟨name, hfind, rfl⟩ := Option.map_eq_some_iff.mp h
  have hbad := List.find?_some hfind
  exact ⟨name, List.mem_of_find?_eq_some hfind, by simpa using hbad, rfl⟩

theorem mem_names_replaceHeader :
    k ∈ (replaceHeader headers name value).names ↔
      k = name ∨ k ∈ headers.names ∧ sameName k name = false := by
  rw [Table.mem_names_iff, get?_replaceHeader, Table.mem_names_iff]
  by_cases hk : k = name
  · simp [hk]
  · cases hsame : sameName k name <;> simp [hk]

theorem forall_names_replaceHeader :
    (∀ k ∈ (replaceHeader headers name value).names, isHeaderName k = true) ↔
      isHeaderName name = true ∧ ∀ k ∈ headers.names, isHeaderName k = true := by
  constructor
  · intro h
    have hname := h name (mem_names_replaceHeader.mpr (.inl rfl))
    refine ⟨hname, fun k hk => ?_⟩
    cases hsame : sameName k name with
    | true => rw [isHeaderName_of_sameName hsame, hname]
    | false => exact h k (mem_names_replaceHeader.mpr (.inr ⟨hk, hsame⟩))
  · rintro ⟨hname, h⟩ k hk
    rcases mem_names_replaceHeader.mp hk with rfl | ⟨hk, -⟩
    · exact hname
    · exact h k hk

theorem forall_names_foldl (entries : List (String × String)) (headers : Table String) :
    (∀ k ∈ (entries.foldl (fun t e => replaceHeader t e.1 e.2) headers).names,
        isHeaderName k = true) ↔
      (∀ k ∈ entries.map (·.1), isHeaderName k = true) ∧
        ∀ k ∈ headers.names, isHeaderName k = true := by
  induction entries generalizing headers with
  | nil => simp
  | cons e entries ih =>
    rw [List.foldl_cons, ih, forall_names_replaceHeader, List.map_cons, List.forall_mem_cons,
      and_left_comm, and_assoc]

theorem allowed_merge (base upper : Settings) :
    (base.merge upper).Allowed ↔ upper.Allowed ∧ base.Allowed :=
  forall_names_foldl upper.defaultHeaders.entries base.defaultHeaders

/-- Settings that are laid over others pass the check exactly if both pass it, also where a name that
does not pass gives way to a variant of it. -/
theorem error?_merge_eq_none_iff (base upper : Settings) :
    (base.merge upper).error? = none ↔ base.error? = none ∧ upper.error? = none := by
  rw [error?_eq_none_iff, error?_eq_none_iff, error?_eq_none_iff, allowed_merge, and_comm]

theorem mem_names_foldl (entries : List (String × String)) (headers : Table String)
    (h : k ∈ (entries.foldl (fun t e => replaceHeader t e.1 e.2) headers).names) :
    k ∈ entries.map (·.1) ∨ k ∈ headers.names := by
  induction entries generalizing headers with
  | nil => exact .inr h
  | cons e entries ih =>
    rcases ih _ h with hlater | hheaders
    · exact .inl (List.mem_cons_of_mem _ hlater)
    · rcases mem_names_replaceHeader.mp hheaders with rfl | ⟨hk, -⟩
      · exact .inl List.mem_cons_self
      · exact .inr hk

end Settings

end RequestBook
