namespace RequestBook.Unicode

def hexDigit (c : Char) : Nat :=
  if c.isDigit then c.toNat - '0'.toNat else c.toNat - 'A'.toNat + 10

def hexNumber (digits : List Char) : Nat :=
  digits.foldl (fun n c => 16 * n + hexDigit c) 0

def words (text : String) : List (List Char) :=
  (List.splitOn ' ' (text.toList.map fun c => if c = '\n' then ' ' else c)).filter (· ≠ [])

def readRange (word : List Char) : Nat × Nat :=
  let ends := (List.splitOn '-' word).map hexNumber
  (ends.head?.getD 0, ends.getLast?.getD 0)

abbrev Ranges : Type := List (Nat × Nat)

namespace Ranges

def ofText (text : String) : Ranges :=
  (words text).map readRange

/-- The range that holds a character. No table speaks of ASCII. -/
def find? (ranges : Ranges) (c : Char) : Option (Nat × Nat) :=
  if c.toNat < 0x80 then none
  else List.find? (fun r => decide (r.1 ≤ c.toNat) && decide (c.toNat ≤ r.2)) ranges

def holds (ranges : Ranges) (c : Char) : Bool :=
  (ranges.find? c).isSome

end Ranges

structure Row where
  range : Nat × Nat
  values : List Nat
  deriving DecidableEq

namespace Row

def read (word : List Char) : Row :=
  let parts := List.splitOn '=' word
  ⟨readRange (parts.headD []), (List.splitOn '.' (parts.getLastD [])).map hexNumber⟩

def listOfText (text : String) : List Row :=
  (words text).map read

def find? (rows : List Row) (c : Char) : Option Row :=
  if c.toNat < 0x80 then none
  else
    List.find? (fun r => decide (r.range.1 ≤ c.toNat) && decide (c.toNat ≤ r.range.2)) rows

end Row

end RequestBook.Unicode
