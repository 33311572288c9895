import RequestBook.Unicode.Composite

/-!
The composed form of a text: every text that is written the same way has the same one. Composites
are taken apart, the marks on a character are put in the order of their classes, and what can be
composed is composed again.
-/

namespace RequestBook.Unicode

/-- Syllables of Hangul: 19 leading consonants, 21 vowels and 27 or no trailing consonants, counted
with the trailing consonant running fastest. -/
def syllableBase : Nat := 0xAC00

def leadBase : Nat := 0x1100

def vowelBase : Nat := 0x1161

def tailBase : Nat := 0x11A7

def inBlock (base count : Nat) (c : Char) : Bool :=
  decide (base ≤ c.toNat) && decide (c.toNat < base + count)

def isSyllable (c : Char) : Bool :=
  inBlock syllableBase 11172 c

def isOpenSyllable (c : Char) : Bool :=
  isSyllable c && (c.toNat - syllableBase) % 28 == 0

def splitSyllable (c : Char) : List Char :=
  let n := c.toNat - syllableBase
  let start := [Char.ofNat (leadBase + n / 588), Char.ofNat (vowelBase + n / 28 % 21)]
  if n % 28 = 0 then start else start ++ [Char.ofNat (tailBase + n % 28)]

def split (c : Char) : List Char :=
  if isSyllable c then splitSyllable c
  else
    match Row.find? composites c with
    | some row => row.values.map Char.ofNat
    | none => [c]

/-- A text with its composites taken apart. What a composite stands for can be a composite itself,
but then of no others. -/
def decompose (s : List Char) : List Char :=
  (s.flatMap split).flatMap split

def settle (c : Char) : List Char → List Char
  | [] => [c]
  | d :: rest =>
    if 0 < combiningClass d ∧ combiningClass d < combiningClass c then d :: settle c rest
    else c :: d :: rest

/-- The marks between two other characters in the order of their classes; those of one class keep
their order. -/
def settleMarks (s : List Char) : List Char :=
  s.foldr settle []

def composite? (a b : Char) : Option Char :=
  if inBlock leadBase 19 a && inBlock vowelBase 21 b then
    some (Char.ofNat
      (syllableBase + 28 * (21 * (a.toNat - leadBase) + (b.toNat - vowelBase))))
  else if isOpenSyllable a && inBlock (tailBase + 1) 27 b then
    some (Char.ofNat (a.toNat + (b.toNat - tailBase)))
  else if b.toNat < 0x80 then none
  else
    (composites.find? fun row => row.values = [a.toNat, b.toNat]).map fun row =>
      Char.ofNat row.range.1

/-- Composes a base with what follows it; `marks` are those after the base that stay, the nearest
last. A mark is kept from the base by one of its own class or a greater one. -/
def composeOnto (base : Char) (marks : List Char) : List Char → List Char
  | [] => base :: marks.reverse
  | c :: rest =>
    let isFree := marks.head?.all fun m => decide (combiningClass m < combiningClass c)
    match if isFree then composite? base c else none with
    | some whole => composeOnto whole marks rest
    | none =>
      if combiningClass c = 0 then base :: marks.reverse ++ composeOnto c [] rest
      else composeOnto base (c :: marks) rest

def recompose : List Char → List Char
  | [] => []
  | c :: rest => if combiningClass c = 0 then composeOnto c [] rest else c :: recompose rest

def compose (s : List Char) : List Char :=
  recompose (settleMarks (decompose s))

end RequestBook.Unicode
