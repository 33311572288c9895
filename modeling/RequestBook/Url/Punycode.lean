/-!
Punycode, read: the ASCII form of a label gives back its characters. The characters above ASCII come
after the last hyphen as differences in base 36, whose digits adapt to the size of the differences.
-/

namespace RequestBook.Url.Punycode

def digit? (c : Char) : Option Nat :=
  if c.isLower then some (c.toNat - 'a'.toNat)
  else if c.isUpper then some (c.toNat - 'A'.toNat)
  else if c.isDigit then some (c.toNat - '0'.toNat + 26)
  else none

def threshold (k bias : Nat) : Nat :=
  if k ≤ bias then 1 else min 26 (k - bias)

/-- How often a difference is divided by 35 before it is small, counted in steps of 36. -/
def shrink (delta steps : Nat) : Nat × Nat :=
  if 455 < delta then shrink (delta / 35) (steps + 36) else (delta, steps)
termination_by delta
decreasing_by omega

/-- The bias after a difference, when `count` characters are known with the new one. -/
def adapt (delta count : Nat) (first : Bool) : Nat :=
  let scaled := if first then delta / 700 else delta / 2
  let (delta, steps) := shrink (scaled + scaled / count) 0
  steps + 36 * delta / (delta + 38)

def readDelta (bias k weight sum : Nat) : List Char → Option (Nat × List Char)
  | [] => none
  | c :: rest =>
    match digit? c with
    | none => none
    | some d =>
      let sum := sum + d * weight
      let t := threshold k bias
      if d < t then some (sum, rest) else readDelta bias (k + 36) (weight * (36 - t)) sum rest

theorem length_of_readDelta {bias k weight sum n : Nat} {s rest : List Char}
    (h : readDelta bias k weight sum s = some (n, rest)) : rest.length < s.length := by
  induction s generalizing k weight sum with
  | nil => simp [readDelta] at h
  | cons c left ih =>
    simp only [readDelta] at h
    split at h
    · simp at h
    · split at h
      · simp only [Option.some.injEq, Prod.mk.injEq] at h
        simp [h.2]
      · have := ih h
        simp
        omega

def insertAll (bias code place : Nat) (known : List Char) (s : List Char) : Option (List Char) :=
  match s with
  | [] => some known
  | c :: more =>
    match h : readDelta bias 36 1 place (c :: more) with
    | none => none
    | some (sum, rest) =>
      have := length_of_readDelta h
      let count := known.length + 1
      let code' := code + sum / count
      if code'.isValidChar then
        insertAll (adapt (sum - place) count (place == 0)) code' (sum % count + 1)
          (known.insertIdx (sum % count) (Char.ofNat code')) rest
      else none
termination_by s.length
decreasing_by assumption

/-- The characters before the last hyphen and those after it. A hyphen in the first place divides
nothing. -/
def splitLastHyphen (s : List Char) : List Char × List Char :=
  let tail := s.reverse.takeWhile (· != '-')
  let known := (s.reverse.drop (tail.length + 1)).reverse
  if known.isEmpty then ([], s) else (known, tail.reverse)

def decode? (s : List Char) : Option (List Char) :=
  let (known, deltas) := splitLastHyphen s
  if known.all fun c => c.toNat < 0x80 then insertAll 72 128 0 known deltas else none

end RequestBook.Url.Punycode
