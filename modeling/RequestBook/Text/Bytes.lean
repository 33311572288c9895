import RequestBook.Text.Trim

namespace RequestBook.Text

def bytes (s : List Char) : List UInt8 :=
  s.flatMap String.utf8EncodeChar

@[simp] theorem bytes_nil : bytes [] = [] := rfl

@[simp] theorem bytes_cons (c : Char) (s : List Char) :
    bytes (c :: s) = String.utf8EncodeChar c ++ bytes s := rfl

@[simp] theorem length_bytes (s : List Char) : (bytes s).length = width s := by
  induction s with
  | nil => rfl
  | cons c s ih => simp [ih]

def cut? : Nat → List Char → Option (List Char × List Char)
  | 0, s => some ([], s)
  | _ + 1, [] => none
  | n + 1, c :: rest =>
    if c.utf8Size ≤ n + 1 then
      (cut? (n + 1 - c.utf8Size) rest).map fun (before, after) => (c :: before, after)
    else none

def isBoundary (offset : Nat) (s : List Char) : Bool :=
  (cut? offset s).isSome

def floorBoundary (s : List Char) : Nat → Nat
  | 0 => 0
  | n + 1 => if isBoundary (n + 1) s then n + 1 else floorBoundary s n

def slice? (start stop : Nat) (s : List Char) : Option (List Char) :=
  if start ≤ stop then do
    let (_, rest) ← cut? start s
    let (middle, _) ← cut? (stop - start) rest
    some middle
  else none

theorem cut?_width_append (before after : List Char) :
    cut? (width before) (before ++ after) = some (before, after) := by
  induction before with
  | nil => simp [cut?]
  | cons c before ih =>
    obtain ⟨n, hn⟩ := Nat.exists_eq_add_of_lt c.utf8Size_pos
    have hwidth : width (c :: before) = n + width before + 1 := by
      rw [width_cons]
      omega
    rw [hwidth, List.cons_append, cut?, if_pos (by omega)]
    rw [show n + width before + 1 - c.utf8Size = width before by omega, ih]
    rfl

theorem append_of_cut? {n : Nat} {s before after : List Char}
    (h : cut? n s = some (before, after)) : before ++ after = s ∧ width before = n := by
  fun_induction cut? n s generalizing before after with
  | case1 s =>
    cases h
    exact ⟨rfl, rfl⟩
  | case2 n => cases h
  | case3 n c rest hsize ih =>
    obtain ⟨⟨before', after'⟩, hcut, heq⟩ := Option.map_eq_some_iff.mp h
    cases heq
    obtain ⟨happ, hwidth⟩ := ih hcut
    refine ⟨by rw [List.cons_append, happ], ?_⟩
    rw [width_cons, hwidth]
    omega
  | case4 n c rest hsize => cases h

theorem isBoundary_iff {n : Nat} {s : List Char} :
    isBoundary n s = true ↔ ∃ before after, s = before ++ after ∧ width before = n := by
  constructor
  · intro h
    obtain ⟨⟨before, after⟩, hcut⟩ := Option.isSome_iff_exists.mp h
    obtain ⟨happ, hwidth⟩ := append_of_cut? hcut
    exact ⟨before, after, happ.symm, hwidth⟩
  · rintro ⟨before, after, rfl, rfl⟩
    rw [isBoundary, cut?_width_append]
    rfl

theorem slice?_append (before middle after : List Char) :
    slice? (width before) (width before + width middle) (before ++ (middle ++ after)) =
      some middle := by
  have hwidth : width before + width middle - width before = width middle := by omega
  simp [slice?, cut?_width_append, hwidth]

theorem floorBoundary_le (s : List Char) (n : Nat) : floorBoundary s n ≤ n := by
  induction n with
  | zero => exact Nat.le_refl 0
  | succ n ih =>
    rw [floorBoundary]
    split
    · exact Nat.le_refl _
    · exact Nat.le_succ_of_le ih

theorem isBoundary_floorBoundary (s : List Char) (n : Nat) :
    isBoundary (floorBoundary s n) s = true := by
  induction n with
  | zero => rw [floorBoundary, isBoundary, cut?]; rfl
  | succ n ih =>
    rw [floorBoundary]
    split
    · assumption
    · exact ih

theorem le_floorBoundary {s : List Char} {m n : Nat} (hm : isBoundary m s = true) (h : m ≤ n) :
    m ≤ floorBoundary s n := by
  induction n with
  | zero => exact h
  | succ n ih =>
    rw [floorBoundary]
    split
    · exact h
    · rename_i hn
      apply ih
      rcases Nat.lt_or_eq_of_le h with h | rfl
      · exact Nat.le_of_lt_succ h
      · exact absurd hm hn

end RequestBook.Text
