import RequestBook.Unicode.Direction
import RequestBook.Unicode.Joining
import RequestBook.Url.HostForm
import RequestBook.Url.Punycode

namespace RequestBook.Url

open RequestBook.Unicode

def hexValue? (b : UInt8) : Option UInt8 :=
  if 0x30 ≤ b && b ≤ 0x39 then some (b - 0x30)
  else if 0x61 ≤ b && b ≤ 0x66 then some (b - 0x61 + 10)
  else if 0x41 ≤ b && b ≤ 0x46 then some (b - 0x41 + 10)
  else none

def percentDecode : List UInt8 → List UInt8
  | 0x25 :: a :: b :: rest =>
    match hexValue? a, hexValue? b with
    | some high, some low => (16 * high + low) :: percentDecode rest
    | _, _ => 0x25 :: percentDecode (a :: b :: rest)
  | b :: rest => b :: percentDecode rest
  | [] => []

def isForbidden (c : Char) : Bool :=
  c.toNat ≤ 0x20 || c.toNat == 0x7F || "%#/:<>?@[\\]^|".toList.contains c

def zeroWidthNonJoiner : Char := '\u200c'

def zeroWidthJoiner : Char := '\u200d'

def joinsAs (one other : Joining) (side : List Char) : Bool :=
  ((side.map Joining.of).dropWhile (· == .passed)).head?.any fun j => j == one || j == other

def joinsAcross (before after : List Char) : Bool :=
  joinsAs .both .toNext before && joinsAs .both .toPrevious after

def isVirama (c : Char) : Bool :=
  combiningClass c == 9

/-- Whether every joiner of a label stands where it changes the writing; `before` is what precedes,
the nearest first. -/
def joinersInPlace (before : List Char) : List Char → Bool
  | [] => true
  | c :: rest =>
    let ok :=
      if c = zeroWidthJoiner then before.head?.any isVirama
      else if c = zeroWidthNonJoiner then
        before.head?.any isVirama || joinsAcross before rest
      else true
    ok && joinersInPlace (c :: before) rest

/-- Whether the directions of a label agree: it begins with a letter of one direction, holds none of
the other, and ends with a letter or a number. -/
def directionsAgree (label : List Char) : Bool :=
  let ds := label.map Direction.of
  let last := (ds.reverse.dropWhile (· == .mark)).head?
  match ds.head? with
  | none => true
  | some .rightToLeft =>
    ds.all (· != .leftToRight) && !(ds.contains .european && ds.contains .arabic) &&
      last.any fun d => d == .rightToLeft || d == .european || d == .arabic
  | some .leftToRight =>
    ds.all (fun d => d != .rightToLeft && d != .arabic) &&
      last.any fun d => d == .leftToRight || d == .european
  | some _ => false

/-- The most characters that a label above ASCII may have, and that the Punycode of one may have. -/
def longestLabel : Nat := 1000

def longestPunycode : Nat := 2000

/-- The characters that a label stands for: those that its Punycode form gives, or its own. Only
what could not be written otherwise is written in Punycode. -/
def labelCharacters? (label : List Char) : Option (List Char) :=
  if "xn--".toList.isPrefixOf label then
    let code := label.drop 4
    if longestPunycode < code.length then none
    else
      (Punycode.decode? code).filter fun chars =>
        chars.any (fun c => decide (0x80 ≤ c.toNat)) && !chars.any isForbidden && isNameForm chars
  else some label

def labelInOrder (label : List Char) : Bool :=
  !label.head?.any isMark && joinersInPlace [] label &&
    (label.all (fun c => decide (c.toNat < 0x80)) || decide (label.length ≤ longestLabel))

def runsRightToLeft (c : Char) : Bool :=
  Direction.of c == .rightToLeft || Direction.of c == .arabic

def domain? (host : List Char) : Option (List Char) := do
  let bytes := percentDecode (String.ofList host).toUTF8.toList
  let text ← String.fromUTF8? ⟨bytes.toArray⟩
  let name ← nameForm? text.toList
  if name.any isForbidden then none
  else
    let labels ← (List.splitOn '.' name).mapM labelCharacters?
    let isBidirectional := labels.any fun label => label.any runsRightToLeft
    if labels.all labelInOrder && (!isBidirectional || labels.all directionsAgree) then some name
    else none

end RequestBook.Url
