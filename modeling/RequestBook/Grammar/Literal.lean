import RequestBook.Definition
import RequestBook.Grammar.Error

namespace RequestBook.Grammar

open RequestBook.Text

/-- A cause with the bytes of the line that were left unread where it arose. -/
structure Stop where
  cause : SyntaxCause
  left : Nat
  deriving DecidableEq

def stopAt {α : Type} (cause : SyntaxCause) (rest : List Char) : Except Stop α :=
  .error ⟨cause, width rest⟩

def expected {α : Type} (what : Expectation) (rest : List Char) : Except Stop α :=
  stopAt (.expected what) rest

def readName (what : Expectation) (s : List Char) : Except Stop (String × List Char) :=
  match s.takeWhile isNameChar with
  | [] => expected what s
  | name => .ok (String.ofList name, s.dropWhile isNameChar)

theorem append_of_readName {what : Expectation} {s rest : List Char} {name : String}
    (h : readName what s = .ok (name, rest)) : name.toList ++ rest = s := by
  unfold readName at h
  split at h
  · cases h
  · cases h
    simp [List.takeWhile_append_dropWhile]

theorem isNameChar_of_readName {what : Expectation} {s rest : List Char} {name : String}
    (h : readName what s = .ok (name, rest)) : ∀ c ∈ name.toList, isNameChar c = true := by
  unfold readName at h
  split at h
  · cases h
  · cases h
    intro c hc
    rw [String.toList_ofList] at hc
    exact List.all_eq_true.mp List.all_takeWhile c hc

/-- Reads what follows the opening quote of a string literal. Only a quote and a backslash can be
escaped, and the literal cannot leave its line. -/
def readQuoted : List Char → Except Stop (List Char × List Char)
  | [] => stopAt .unterminatedString []
  | '"' :: rest => .ok ([], rest)
  | '\\' :: '"' :: rest => (readQuoted rest).map fun (value, left) => ('"' :: value, left)
  | '\\' :: '\\' :: rest => (readQuoted rest).map fun (value, left) => ('\\' :: value, left)
  | ['\\'] => stopAt .unterminatedString []
  | '\\' :: c :: rest => stopAt (.invalidEscape c) ('\\' :: c :: rest)
  | c :: rest => (readQuoted rest).map fun (value, left) => (c :: value, left)

def escapeQuoted : List Char → List Char
  | [] => []
  | c :: rest =>
    if c = '"' ∨ c = '\\' then '\\' :: c :: escapeQuoted rest else c :: escapeQuoted rest

theorem readQuoted_cons {c : Char} (hq : c ≠ '"') (hb : c ≠ '\\') (rest : List Char) :
    readQuoted (c :: rest) = (readQuoted rest).map fun (value, left) => (c :: value, left) := by
  rw [readQuoted]
  · simp [hq]
  all_goals simp_all

theorem readQuoted_escapeQuoted (value rest : List Char) :
    readQuoted (escapeQuoted value ++ '"' :: rest) = .ok (value, rest) := by
  induction value with
  | nil => rfl
  | cons c value ih =>
    by_cases hq : c = '"'
    · subst hq
      simp [escapeQuoted, readQuoted, ih, Except.map]
    · by_cases hb : c = '\\'
      · subst hb
        simp [escapeQuoted, readQuoted, ih, Except.map]
      · simp [escapeQuoted, hq, hb, readQuoted_cons hq hb, ih, Except.map]

def digitsValue (digits : List Char) : Nat :=
  digits.foldl (fun n c => 10 * n + (c.toNat - '0'.toNat)) 0

def inRange (n : Int) : Bool :=
  decide (-9223372036854775808 ≤ n) && decide (n ≤ 9223372036854775807)

def readSign : List Char → Bool × List Char
  | '-' :: rest => (true, rest)
  | s => (false, s)

def readInteger (s : List Char) : Except Stop (Int × List Char) :=
  let (negative, unsigned) := readSign s
  let digits := unsigned.takeWhile Char.isDigit
  if digits.isEmpty then expected .digit unsigned
  else
    let n : Int := if negative then -digitsValue digits else digitsValue digits
    if inRange n then .ok (n, unsigned.dropWhile Char.isDigit)
    else
      let literal := if negative then '-' :: digits else digits
      stopAt (.integerOutOfRange (String.ofList literal)) s

def readValue (s : List Char) : Except Stop (Value × List Char) :=
  match s with
  | '"' :: rest => (readQuoted rest).map fun (value, left) => (.text (String.ofList value), left)
  | c :: _ =>
    if c == '-' || c.isDigit then (readInteger s).map fun (n, left) => (.integer n, left)
    else expected .value s
  | [] => expected .value s

def readChar (c : Char) (what : Expectation) (s : List Char) : Except Stop (List Char) :=
  match s with
  | d :: rest => if d = c then .ok rest else expected what s
  | [] => expected what s

def endLine (s : List Char) : Except Stop Unit :=
  match skipInline s with
  | [] => .ok ()
  | c :: rest => if c = '#' then .ok () else expected .endOfLine (c :: rest)

end RequestBook.Grammar
