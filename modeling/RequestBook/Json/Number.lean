import RequestBook.Json.Error
import RequestBook.Json.Value

namespace RequestBook.Json

def digitValue (c : Char) : Nat :=
  c.toNat - '0'.toNat

def greatestSignificand : Nat := 18446744073709551615

def greatestNegated : Nat := 9223372036854775808

/-- Takes digits into a number for as long as it has 64 bits; gives the number, how many digits it
took, and the digits left. -/
def absorb (n : Nat) : List Char → Nat × Nat × List Char
  | [] => (n, 0, [])
  | c :: rest =>
    let next := 10 * n + digitValue c
    if next ≤ greatestSignificand then
      let (n, taken, left) := absorb next rest
      (n, taken + 1, left)
    else (n, 0, c :: rest)

def makeFloat (negative : Bool) (significand : Nat) (exponent : Int) (rest : List Char) :
    Except Failure (JsonNumber × List Char) :=
  match Binary64.ofDecimal? significand exponent with
  | some x => .ok (.float (if negative then x.negate else x), rest)
  | none => failBefore .numberOutOfRange rest

def exponentLimit : Nat := 2147483647

def readExponentDigits (n : Nat) : List Char → Option Nat × List Char
  | [] => (some n, [])
  | c :: rest =>
    if c.isDigit then
      let next := 10 * n + digitValue c
      if next ≤ exponentLimit then readExponentDigits next rest else (none, rest)
    else (some n, c :: rest)

def readExponentSign : List Char → Bool × List Char
  | '-' :: rest => (true, rest)
  | '+' :: rest => (false, rest)
  | rest => (false, rest)

def readExponent (negative : Bool) (significand : Nat) (start : Int) (s : List Char) :
    Except Failure (JsonNumber × List Char) :=
  let (minus, s) := readExponentSign s
  match s with
  | [] => failBefore .endInValue []
  | c :: rest =>
    if c.isDigit then
      match readExponentDigits 0 (c :: rest) with
      | (some n, rest) =>
        makeFloat negative significand (if minus then start - n else start + n) rest
      | (none, rest) =>
        if significand ≠ 0 ∧ !minus then failBefore .numberOutOfRange rest
        else
          let x := if negative then Binary64.zero.negate else Binary64.zero
          .ok (.float x, rest.dropWhile Char.isDigit)
    else failOn .invalidNumber s

def startsExponent (s : List Char) : Bool :=
  s.head?.any fun c => c == 'e' || c == 'E'

def readFraction (negative : Bool) (significand : Nat) (start : Int) (s : List Char) :
    Except Failure (JsonNumber × List Char) :=
  let digits := s.takeWhile Char.isDigit
  let rest := s.dropWhile Char.isDigit
  if digits.isEmpty then
    if rest.isEmpty then failBefore .endInValue [] else failOn .invalidNumber rest
  else
    let (significand, taken, _) := absorb significand digits
    let exponent := start - taken
    if startsExponent rest then readExponent negative significand exponent (rest.drop 1)
    else makeFloat negative significand exponent rest

def makeInteger (negative : Bool) (n : Nat) (rest : List Char) :
    Except Failure (JsonNumber × List Char) :=
  if !negative then .ok (.integer n, rest)
  else if n ≠ 0 ∧ n ≤ greatestNegated then .ok (.integer (-n), rest)
  else makeFloat true n 0 rest

def readUnsigned (negative : Bool) (s : List Char) : Except Failure (JsonNumber × List Char) :=
  let digits := s.takeWhile Char.isDigit
  let rest := s.dropWhile Char.isDigit
  match digits with
  | [] => if rest.isEmpty then failBefore .endInValue [] else failOn .invalidNumber rest
  | '0' :: c :: more => failOn .invalidNumber (c :: more ++ rest)
  | _ =>
    let (significand, _, left) := absorb 0 digits
    let exponent : Int := left.length
    match rest with
    | '.' :: fraction => readFraction negative significand exponent fraction
    | c :: more =>
      if c = 'e' ∨ c = 'E' then readExponent negative significand exponent more
      else if left.isEmpty then makeInteger negative significand rest
      else makeFloat negative significand exponent rest
    | [] =>
      if left.isEmpty then makeInteger negative significand []
      else makeFloat negative significand exponent []

def readNumber : List Char → Except Failure (JsonNumber × List Char)
  | '-' :: rest => readUnsigned true rest
  | s => readUnsigned false s

theorem length_dropDigits_le (s : List Char) :
    (s.dropWhile Char.isDigit).length ≤ s.length :=
  (List.dropWhile_suffix _).length_le

theorem rest_of_makeFloat {negative : Bool} {n : Nat} {e : Int} {s rest : List Char}
    {x : JsonNumber} (h : makeFloat negative n e s = .ok (x, rest)) : rest = s := by
  unfold makeFloat at h
  split at h
  · cases h; rfl
  · cases h

theorem rest_of_makeInteger {negative : Bool} {n : Nat} {s rest : List Char}
    {x : JsonNumber} (h : makeInteger negative n s = .ok (x, rest)) : rest = s := by
  unfold makeInteger at h
  split at h
  · cases h; rfl
  · split at h
    · cases h; rfl
    · exact rest_of_makeFloat h

theorem length_readExponentDigits_le (n : Nat) (s : List Char) :
    (readExponentDigits n s).2.length ≤ s.length := by
  fun_induction readExponentDigits n s with
  | case1 => simp
  | case2 n c rest _ next _ ih => simp; omega
  | case3 => simp
  | case4 => simp

theorem length_readExponentSign_le (s : List Char) : (readExponentSign s).2.length ≤ s.length := by
  fun_cases readExponentSign s <;> simp

theorem length_of_readExponent {negative : Bool} {n : Nat} {e : Int} {s rest : List Char}
    {x : JsonNumber} (h : readExponent negative n e s = .ok (x, rest)) :
    rest.length ≤ s.length := by
  unfold readExponent at h
  have hsign := length_readExponentSign_le s
  generalize readExponentSign s = signed at h hsign
  obtain ⟨minus, s'⟩ := signed
  dsimp only at h hsign
  split at h
  · cases h
  · rename_i c r
    split at h
    · have hdigits := length_readExponentDigits_le 0 (c :: r)
      split at h
      · rename_i m left heq
        rw [heq] at hdigits
        have := rest_of_makeFloat h
        subst this
        exact Nat.le_trans hdigits hsign
      · rename_i left heq
        rw [heq] at hdigits
        split at h
        · cases h
        · simp only [Except.ok.injEq, Prod.mk.injEq] at h
          obtain ⟨-, rfl⟩ := h
          exact Nat.le_trans (length_dropDigits_le left) (Nat.le_trans hdigits hsign)
    · cases h

theorem length_of_readFraction {negative : Bool} {n : Nat} {e : Int} {s rest : List Char}
    {x : JsonNumber} (h : readFraction negative n e s = .ok (x, rest)) :
    rest.length ≤ s.length := by
  unfold readFraction at h
  have hdrop := length_dropDigits_le s
  dsimp only at h
  split at h
  · split at h <;> cases h
  · split at h
    · have := length_of_readExponent h
      simp at this
      omega
    · have := rest_of_makeFloat h
      subst this
      exact hdrop

theorem length_of_readUnsigned {negative : Bool} {s rest : List Char} {x : JsonNumber}
    (h : readUnsigned negative s = .ok (x, rest)) : rest.length < s.length := by
  unfold readUnsigned at h
  have hall : (s.takeWhile Char.isDigit).length + (s.dropWhile Char.isDigit).length = s.length := by
    rw [← List.length_append, List.takeWhile_append_dropWhile]
  generalize s.takeWhile Char.isDigit = digits at h hall
  generalize s.dropWhile Char.isDigit = left at h hall
  dsimp only at h
  split at h
  · split at h <;> cases h
  · cases h
  · rename_i hne _
    have hpos : 0 < digits.length := List.length_pos_iff.mpr hne
    split at h
    · have := length_of_readFraction h
      simp at hall
      omega
    · split at h
      · have := length_of_readExponent h
        simp at hall
        omega
      · split at h
        · have := rest_of_makeInteger h
          subst this
          omega
        · have := rest_of_makeFloat h
          subst this
          omega
    · split at h
      · have := rest_of_makeInteger h
        subst this
        omega
      · have := rest_of_makeFloat h
        subst this
        omega

theorem length_of_readNumber {s rest : List Char} {x : JsonNumber}
    (h : readNumber s = .ok (x, rest)) : rest.length < s.length := by
  unfold readNumber at h
  split at h
  · have := length_of_readUnsigned h
    simp
    omega
  · exact length_of_readUnsigned h

end RequestBook.Json
