import Mathlib.Data.Nat.Init
import RequestBook.Json.Reader
import RequestBook.Proofs.Result
import RequestBook.Proofs.Text.Run

namespace RequestBook.Json

open RequestBook.Text

variable {s t spaces rest : List Char} {c : Char} {value : Json}

theorem skipSpace_cons (h : isSpace c = false) : skipSpace (c :: rest) = c :: rest := by
  rw [skipSpace, List.dropWhile_cons_of_neg (by simp [h])]

def bare {s : List Char} (r : Except Failure (Json × Shorter s)) :
    Except Failure (Json × List Char) :=
  r.map fun p => (p.1, p.2.val)

def readFrom (depth : Nat) (c : Char) (rest : List Char) : Except Failure (Json × List Char) :=
  match c with
  | 'n' => (readWord ['u', 'l', 'l'] rest).map fun left => (.null, left)
  | 't' => (readWord ['r', 'u', 'e'] rest).map fun left => (.bool true, left)
  | 'f' => (readWord ['a', 'l', 's', 'e'] rest).map fun left => (.bool false, left)
  | '"' => (readString [] rest).map fun p => (.string p.1, p.2)
  | '[' =>
    match depth with
    | 0 => failOn .tooDeep (c :: rest)
    | depth + 1 => bare (readList (readValue depth) rest)
  | '\x7b' =>
    match depth with
    | 0 => failOn .tooDeep (c :: rest)
    | depth + 1 => bare (readObject (readValue depth) rest)
  | c =>
    if c == '-' || c.isDigit then (readNumber (c :: rest)).map fun p => (.number p.1, p.2)
    else failOn .expectedValue (c :: rest)

theorem bare_readValue_of_nil (h : skipSpace s = []) (depth : Nat) :
    bare (readValue depth s) = failBefore .endInValue [] := by
  rw [readValue]
  split <;> rename_i hs
  · rfl
  · rw [h] at hs
    cases hs

theorem bare_readValue_of_cons (h : skipSpace s = c :: rest) (depth : Nat) :
    bare (readValue depth s) = readFrom depth c rest := by
  rw [readValue]
  split <;> rename_i hs
  · rw [h] at hs
    cases hs
  rw [h] at hs
  cases hs
  dsimp only
  split
  · split <;> rename_i hword <;> simp [bare, Except.map, readFrom, hword]
  · split <;> rename_i hword <;> simp [bare, Except.map, readFrom, hword]
  · split <;> rename_i hword <;> simp [bare, Except.map, readFrom, hword]
  · split <;> rename_i hstring <;> simp [bare, Except.map, readFrom, hstring]
  · split
    · rfl
    · split <;> rename_i hlist <;> simp [bare, Except.map, readFrom, hlist]
  · split
    · rfl
    · split <;> rename_i hobject <;> simp [bare, Except.map, readFrom, hobject]
  · -- the last row of the match is met only where no earlier one is
    rw [readFrom]
    · split
      · split <;> rename_i hnumber <;> simp [bare, Except.map, hnumber]
      · rfl
    all_goals
      rintro rfl
      simp_all

theorem bare_readValue_congr (h : skipSpace s = skipSpace t) (depth : Nat) :
    bare (readValue depth s) = bare (readValue depth t) := by
  cases ht : skipSpace t with
  | nil => rw [bare_readValue_of_nil (h.trans ht), bare_readValue_of_nil ht]
  | cons c rest => rw [bare_readValue_of_cons (h.trans ht), bare_readValue_of_cons ht]

def wholeText (p : Json × List Char) : Except Failure Json :=
  match skipSpace p.2 with
  | [] => .ok p.1
  | c :: rest => failOn .trailingCharacters (c :: rest)

theorem readText_eq (s : List Char) : readText s = bare (readValue depthLimit s) >>= wholeText := by
  rw [readText]
  cases readValue depthLimit s <;> rfl

theorem readText_congr (h : skipSpace s = skipSpace t) : readText s = readText t := by
  rw [readText_eq, readText_eq, bare_readValue_congr h]

theorem readFrom_of_blank (hblank : isBlank c = true) (depth : Nat) (rest : List Char) :
    readFrom depth c rest = failOn .expectedValue (c :: rest) := by
  have hne {d : Char} (hd : isBlank d = false) : c ≠ d := by
    rintro rfl
    rw [hd] at hblank
    cases hblank
  have hdigit : c.isDigit = false := by
    refine Bool.eq_false_iff.mpr fun hdigit => ?_
    have hname : isNameChar c = true := by simp [isNameChar, Char.isAlphanum, hdigit]
    exact absurd hblank (Bool.eq_false_iff.mp (isBlank_of_isNameChar hname))
  rw [readFrom]
  · rw [hdigit, beq_eq_false_iff_ne.mpr (hne (by decide))]
    rfl
  all_goals exact hne (by decide)

theorem readText_ne_ok (hblank : isBlank c = true) (hspace : isSpace c = false) (rest : List Char)
    (value : Json) : readText (c :: rest) ≠ .ok value := by
  rw [readText_eq, bare_readValue_of_cons (skipSpace_cons hspace), readFrom_of_blank hblank]
  intro h
  cases h

theorem parse_eq_ok_iff_readText {text : String} :
    parse text = .ok value ↔ readText text.toList = .ok value :=
  mapError_eq_ok_iff

/-- The blanks that JSON passes over, and then what decides whether a text is JSON. -/
theorem readText_blanks_iff {blanks : List Char} (hblanks : ∀ c ∈ blanks, isBlank c = true) :
    readText (blanks ++ s) = .ok value ↔
      readText s = .ok value ∧ ∀ c ∈ blanks, isSpace c = true := by
  induction blanks with
  | nil => simp
  | cons c blanks ih =>
    rw [List.forall_mem_cons] at hblanks
    rw [List.cons_append, List.forall_mem_cons]
    cases hspace : isSpace c with
    | false => simpa using readText_ne_ok hblanks.1 hspace (blanks ++ s) value
    | true =>
      have hskip : skipSpace (c :: (blanks ++ s)) = skipSpace (blanks ++ s) :=
        List.dropWhile_cons_of_pos hspace
      rw [readText_congr hskip, ih hblanks.2]
      simp

theorem parse_eq_ok_iff {text : String} : parse text = .ok value ↔
    parse (String.ofList (trimStart text.toList)) = .ok value ∧
      ∀ c ∈ text.toList.takeWhile isBlank, isSpace c = true := by
  rw [parse_eq_ok_iff_readText, parse_eq_ok_iff_readText, String.toList_ofList,
    ← readText_blanks_iff fun c hc => List.mem_takeWhile_imp hc, trimStart,
    List.takeWhile_append_dropWhile]

end RequestBook.Json
