import RequestBook.Text.Character

namespace RequestBook.Text

def foldCase (name : String) : String :=
  String.ofList (name.toList.map Char.toLower)

def sameName (a b : String) : Bool :=
  foldCase a == foldCase b

@[simp] theorem sameName_refl (a : String) : sameName a a = true := by
  simp [sameName]

theorem sameName_comm (a b : String) : sameName a b = sameName b a := by
  simp only [sameName]
  exact Bool.beq_comm

theorem toLower_of_le_toNat {c : Char} (h : 128 ≤ c.toNat) : c.toLower = c :=
  dif_neg fun hupper =>
    Nat.not_le.mpr (Nat.lt_of_le_of_lt (UInt32.le_iff_toNat_le.mp hupper.2) (by decide)) h

theorem toLower_toLower (c : Char) : c.toLower.toLower = c.toLower := by
  by_cases hc : c.toNat < 128
  · exact of_toNat_lt (P := fun c => c.toLower.toLower = c.toLower) (by decide) hc
  · have hlower := toLower_of_le_toNat (Nat.not_lt.mp hc)
    rw [hlower, hlower]

@[simp] theorem foldCase_foldCase (name : String) : foldCase (foldCase name) = foldCase name := by
  unfold foldCase
  rw [String.toList_ofList, List.map_map]
  exact congrArg String.ofList (List.map_congr_left fun c _ => toLower_toLower c)

end RequestBook.Text
