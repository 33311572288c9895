import RequestBook.Text.Bytes
import RequestBook.Text.Percent

namespace RequestBook.Text

theorem utf8EncodeChar_of_lt {c : Char} (h : c.toNat < 128) :
    String.utf8EncodeChar c = [UInt8.ofNat c.toNat] := by
  have hle : c.val.toNat ≤ 127 := Nat.le_of_lt_succ h
  rw [String.utf8EncodeChar.eq_def, if_pos hle]
  rfl

theorem le_toNat_of_mem_utf8EncodeChar {c : Char} (h : 128 ≤ c.toNat) {b : UInt8}
    (hb : b ∈ String.utf8EncodeChar c) : 128 ≤ b.toNat := by
  have hval : 128 ≤ c.val.toNat := h
  have hofNat {n : Nat} (hn : 128 ≤ n % 256) : 128 ≤ (UInt8.ofNat n).toNat := by
    rwa [UInt8.toNat_ofNat']
  revert hb
  fun_cases String.utf8EncodeChar c with
  | case1 v hv => omega
  | case2 v _ hv =>
    intro hb
    simp only [List.mem_cons, List.not_mem_nil, or_false] at hb
    rcases hb with rfl | rfl <;> exact hofNat (by omega)
  | case3 v _ _ hv =>
    intro hb
    simp only [List.mem_cons, List.not_mem_nil, or_false] at hb
    rcases hb with rfl | rfl | rfl <;> exact hofNat (by omega)
  | case4 v _ _ hv =>
    intro hb
    simp only [List.mem_cons, List.not_mem_nil, or_false] at hb
    rcases hb with rfl | rfl | rfl | rfl <;> exact hofNat (by omega)

theorem ne_of_mem_utf8EncodeChar {c d : Char} (hd : d.toNat < 128) (hne : c ≠ d) {b : UInt8}
    (h : b ∈ String.utf8EncodeChar c) : b ≠ UInt8.ofNat d.toNat := by
  have hmod : d.toNat % 256 = d.toNat := Nat.mod_eq_of_lt (by omega)
  intro heq
  have hb : b.toNat = d.toNat := by rw [heq, UInt8.toNat_ofNat', hmod]
  by_cases hc : c.toNat < 128
  · rw [utf8EncodeChar_of_lt hc, List.mem_singleton] at h
    rw [h, UInt8.toNat_ofNat', Nat.mod_eq_of_lt (by omega)] at hb
    exact hne (Char.ext (UInt32.toNat_inj.mp hb))
  · have hle := le_toNat_of_mem_utf8EncodeChar (Nat.not_lt.mp hc) h
    omega

def escapedByte (b : UInt8) : List Char :=
  if isUnreserved (Char.ofNat b.toNat) then [Char.ofNat b.toNat] else percentByte b

def escaped (s : String) : String :=
  String.ofList ((bytes s.toList).flatMap escapedByte)

theorem isUnreserved_eq_false {c : Char} (h : 128 ≤ c.toNat) : isUnreserved c = false := by
  refine Bool.eq_false_iff.mpr fun hc => Nat.not_lt.mpr h ?_
  simp only [isUnreserved, Bool.or_eq_true, beq_iff_eq] at hc
  rcases hc with (((hc | rfl) | rfl) | rfl) | rfl
  · exact toNat_lt_of_isNameChar (by simp [isNameChar, hc])
  · decide
  · decide
  · decide
  · decide

theorem toNat_ofNat_toNat (b : UInt8) : (Char.ofNat b.toNat).toNat = b.toNat := by
  have hvalid : b.toNat.isValidChar := .inl (Nat.lt_trans b.toNat_lt (by decide))
  rw [Char.ofNat, dif_pos hvalid]
  rfl

theorem percentChar_eq (c : Char) :
    percentChar c = (String.utf8EncodeChar c).flatMap escapedByte := by
  by_cases hc : c.toNat < 128
  · have hbyte : (UInt8.ofNat c.toNat).toNat = c.toNat := by
      rw [UInt8.toNat_ofNat', Nat.mod_eq_of_lt (by omega)]
    simp only [percentChar, utf8EncodeChar_of_lt hc, List.flatMap_singleton, escapedByte, hbyte,
      Char.ofNat_toNat]
  · rw [percentChar, isUnreserved_eq_false (Nat.not_lt.mp hc), if_neg Bool.false_ne_true]
    rw [List.flatMap_def, List.flatMap_def]
    refine congrArg List.flatten (List.map_congr_left fun b hb => ?_)
    have hle := le_toNat_of_mem_utf8EncodeChar (Nat.not_lt.mp hc) hb
    rw [← toNat_ofNat_toNat] at hle
    rw [escapedByte, isUnreserved_eq_false hle, if_neg Bool.false_ne_true]

theorem percentEncode_eq_escaped (s : String) : percentEncode s = escaped s := by
  rw [percentEncode, escaped, bytes, List.flatMap_assoc]
  exact congrArg String.ofList (congrArg s.toList.flatMap (funext percentChar_eq))

theorem isUnreserved_hexCapital {n : Nat} (h : n < 16) : isUnreserved (hexCapital n) = true := by
  revert n
  decide

theorem isUnreserved_of_mem_percentEncode {s : String} {c : Char} (h : c ∈ (percentEncode s).toList) :
    isUnreserved c = true ∨ c = '%' := by
  rw [percentEncode_eq_escaped, escaped, String.toList_ofList, List.mem_flatMap] at h
  obtain ⟨b, -, hc⟩ := h
  rw [escapedByte] at hc
  split at hc
  · rename_i hunreserved
    rw [List.mem_singleton.mp hc]
    exact .inl hunreserved
  · have hb := b.toNat_lt
    simp only [percentByte, List.mem_cons, List.not_mem_nil, or_false] at hc
    rcases hc with rfl | rfl | rfl
    · exact .inr rfl
    · exact .inl (isUnreserved_hexCapital (by omega))
    · exact .inl (isUnreserved_hexCapital (by omega))

end RequestBook.Text
