namespace RequestBook.Url

def isHexDigit (c : Char) : Bool :=
  c.isDigit || ('a' ≤ c && c ≤ 'f') || ('A' ≤ c && c ≤ 'F')

def hexDigitValue (c : Char) : Nat :=
  if c.isDigit then c.toNat - '0'.toNat else c.toLower.toNat - 'a'.toNat + 10

def numeral (base : Nat) (digits : List Char) : Nat :=
  digits.foldl (fun n c => base * n + hexDigitValue c) 0

/-- A part of an address: decimal, octal after a zero, or hexadecimal after `0x`. -/
def part? : List Char → Option Nat
  | [] => none
  | '0' :: 'x' :: digits | '0' :: 'X' :: digits =>
    if digits.all isHexDigit then some (numeral 16 digits) else none
  | '0' :: c :: digits =>
    if (c :: digits).all fun d => '0' ≤ d && d ≤ '7' then some (numeral 8 (c :: digits)) else none
  | digits => if digits.all Char.isDigit then some (numeral 10 digits) else none

def dottedParts (name : List Char) : List (List Char) :=
  let parts := List.splitOn '.' name
  if parts.getLast? == some [] then parts.dropLast else parts

def endsInNumber (name : List Char) : Bool :=
  (dottedParts name).getLast?.any fun part =>
    (!part.isEmpty && part.all Char.isDigit) || (part? part).isSome

def isAddress (name : List Char) : Bool :=
  let parts := dottedParts name
  match parts.mapM part? with
  | none => false
  | some numbers =>
    numbers.length ≤ 4 && numbers.dropLast.all (· ≤ 255) &&
      numbers.getLast?.any fun last => last < Nat.pow 256 (5 - numbers.length)

def isPlainPart (part : List Char) : Bool :=
  !part.isEmpty && part.all Char.isDigit && (part.length == 1 || part.head? != some '0') &&
    numeral 10 part ≤ 255

def isPlainAddress (s : List Char) : Bool :=
  let parts := List.splitOn '.' s
  parts.length == 4 && parts.all isPlainPart

/-- Whether `count` groups and those that `s` writes make eight, or fewer when some are left out. -/
def groupsFit (count : Nat) (omitted : Bool) (s : List Char) : Bool :=
  match s with
  | [] => omitted || count == 8
  | c :: rest =>
    if count = 8 then false
    else if c = ':' then !omitted && groupsFit (count + 1) true rest
    else
      let digits := ((c :: rest).take 4).takeWhile isHexDigit
      match h : (c :: rest).drop digits.length with
      | [] => omitted || count + 1 == 8
      | d :: after =>
        if d = '.' then
          !digits.isEmpty && count ≤ 6 && isPlainAddress (c :: rest) && (omitted || count + 2 == 8)
        else if d = ':' then !after.isEmpty && groupsFit (count + 1) omitted after
        else false
termination_by s.length
decreasing_by
  · simp
  · have := congrArg List.length h
    simp only [List.length_drop, List.length_cons] at this ⊢
    omega

def isGroupAddress : List Char → Bool
  | ':' :: ':' :: rest => groupsFit 1 true rest
  | ':' :: _ => false
  | s => 2 ≤ s.length && groupsFit 0 false s

end RequestBook.Url
