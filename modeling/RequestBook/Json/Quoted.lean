import RequestBook.Json.Error

namespace RequestBook.Json

def hexValue? (c : Char) : Option Nat :=
  if c.isDigit then some (c.toNat - '0'.toNat)
  else if 'a' ≤ c ∧ c ≤ 'f' then some (c.toNat - 'a'.toNat + 10)
  else if 'A' ≤ c ∧ c ≤ 'F' then some (c.toNat - 'A'.toNat + 10)
  else none

def readHex (s : List Char) : Except Failure (Nat × List Char) :=
  let invalid : Except Failure (Nat × List Char) := .error ⟨.invalidEscape, Text.width s - 4⟩
  if Text.width s < 4 then failBefore .endInString []
  else
    match s with
    | a :: b :: c :: d :: rest =>
      match hexValue? a, hexValue? b, hexValue? c, hexValue? d with
      | some a, some b, some c, some d => .ok (((a * 16 + b) * 16 + c) * 16 + d, rest)
      | _, _, _, _ => invalid
    | _ => invalid

def isLeading (n : Nat) : Bool :=
  0xD800 ≤ n && n ≤ 0xDBFF

def isTrailing (n : Nat) : Bool :=
  0xDC00 ≤ n && n ≤ 0xDFFF

def readEscapeChar (c : Char) : List Char → Except Failure (List Char)
  | [] => failBefore .endInString []
  | d :: rest => if d = c then .ok rest else failOn .endOfHexEscape (d :: rest)

def readUnicode (s : List Char) : Except Failure (Char × List Char) := do
  let (n, rest) ← readHex s
  if isTrailing n then failBefore .loneSurrogate rest
  else if isLeading n then
    let rest ← readEscapeChar '\\' rest
    let rest ← readEscapeChar 'u' rest
    let (m, rest) ← readHex rest
    if isTrailing m then
      .ok (Char.ofNat ((n - 0xD800) * 0x400 + (m - 0xDC00) + 0x10000), rest)
    else failBefore .loneSurrogate rest
  else .ok (Char.ofNat n, rest)

def shortEscape? : Char → Option Char
  | '"' => some '"'
  | '\\' => some '\\'
  | '/' => some '/'
  | 'b' => some '\x08'
  | 'f' => some '\x0c'
  | 'n' => some '\n'
  | 'r' => some '\r'
  | 't' => some '\t'
  | _ => none

def readEscape : List Char → Except Failure (Char × List Char)
  | [] => failBefore .endInString []
  | 'u' :: rest => readUnicode rest
  | c :: rest =>
    match shortEscape? c with
    | some d => .ok (d, rest)
    | none => failOn .invalidEscape (c :: rest)

theorem length_of_readHex {s rest : List Char} {n : Nat} (h : readHex s = .ok (n, rest)) :
    rest.length < s.length := by
  unfold readHex at h
  dsimp only at h
  split at h
  · cases h
  · split at h
    · split at h
      · cases h
        simp
        omega
      · cases h
    · cases h

theorem length_of_readEscapeChar {c : Char} {s rest : List Char}
    (h : readEscapeChar c s = .ok rest) : rest.length < s.length := by
  cases s with
  | nil => cases h
  | cons d s =>
    simp only [readEscapeChar] at h
    split at h
    · cases h
      simp
    · cases h

theorem length_of_readUnicode {s rest : List Char} {c : Char}
    (h : readUnicode s = .ok (c, rest)) : rest.length < s.length := by
  simp only [readUnicode, bind, Except.bind] at h
  split at h
  · cases h
  · rename_i r hr
    have h1 : r.2.length < _ := length_of_readHex hr
    split at h
    · cases h
    · split at h
      · split at h
        · cases h
        · rename_i r2 hr2
          have h2 := length_of_readEscapeChar hr2
          split at h
          · cases h
          · rename_i r3 hr3
            have h3 := length_of_readEscapeChar hr3
            split at h
            · cases h
            · rename_i r4 hr4
              have h4 : r4.2.length < _ := length_of_readHex hr4
              split at h
              · simp only [Except.ok.injEq, Prod.mk.injEq] at h
                obtain ⟨-, rfl⟩ := h
                omega
              · cases h
      · simp only [Except.ok.injEq, Prod.mk.injEq] at h
        obtain ⟨-, rfl⟩ := h
        exact h1

theorem length_of_readEscape {s rest : List Char} {c : Char}
    (h : readEscape s = .ok (c, rest)) : rest.length < s.length := by
  unfold readEscape at h
  split at h
  · cases h
  · have := length_of_readUnicode h
    simp only [List.length_cons]
    omega
  · split at h
    · cases h
      simp
    · cases h

def readString (found : List Char) (s : List Char) : Except Failure (String × List Char) :=
  match s with
  | [] => failBefore .endInString []
  | '"' :: rest => .ok (String.ofList found.reverse, rest)
  | '\\' :: rest =>
    match h : readEscape rest with
    | .ok (c, left) =>
      have := length_of_readEscape h
      readString (c :: found) left
    | .error e => .error e
  | c :: rest =>
    if c.toNat < 0x20 then failOn .controlCharacter (c :: rest) else readString (c :: found) rest
termination_by s.length
decreasing_by
  · simp
    omega
  · simp

theorem length_of_readString {found s rest : List Char} {text : String}
    (h : readString found s = .ok (text, rest)) : rest.length < s.length := by
  fun_induction readString found s with
  | case1 => cases h
  | case2 => cases h; simp
  | case3 found rest' c left he hlt ih =>
    have := ih h
    simp
    omega
  | case4 => cases h
  | case5 => cases h
  | case6 found c rest' _ _ _ ih =>
    have := ih h
    simp
    omega

end RequestBook.Json
