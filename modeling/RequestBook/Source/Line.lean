import RequestBook.Text.Trim

namespace RequestBook

/-- How a line ends; `none` is the end of the text. -/
inductive LineBreak
  | none : LineBreak
  | lf : LineBreak
  | cr : LineBreak
  | crlf : LineBreak
  deriving DecidableEq

@[simp] def LineBreak.chars : LineBreak → List Char
  | .none => []
  | .lf => ['\n']
  | .cr => ['\r']
  | .crlf => ['\r', '\n']

structure Line where
  start : Nat
  text : List Char
  ending : LineBreak
  deriving DecidableEq

namespace Line

def contents (line : Line) : List Char :=
  line.text ++ line.ending.chars

def stop (line : Line) : Nat :=
  line.start + Text.width line.text

def offsetOf (line : Line) (rest : List Char) : Nat :=
  line.start + (Text.width line.text - Text.width rest)

def isBlank (line : Line) : Bool :=
  line.text.all Text.isBlank

def isComment (line : Line) : Bool :=
  (Text.skipInline line.text).head? == some '#'

def isIndented (line : Line) : Bool :=
  line.text.head?.any Text.isInline

def divide : List Char → List (List Char × LineBreak)
  | [] => [([], .none)]
  | '\r' :: '\n' :: rest => ([], .crlf) :: divide rest
  | '\r' :: rest => ([], .cr) :: divide rest
  | '\n' :: rest => ([], .lf) :: divide rest
  | c :: rest =>
    match divide rest with
    | (text, ending) :: more => (c :: text, ending) :: more
    | [] => [([c], .none)]

def place (start : Nat) : List (List Char × LineBreak) → List Line
  | [] => []
  | (text, ending) :: more =>
    ⟨start, text, ending⟩ :: place (start + Text.width text + Text.width ending.chars) more

def split (text : List Char) : List Line :=
  place 0 (divide text)

theorem divide_ne_nil (s : List Char) : divide s ≠ [] := by
  fun_cases divide s <;> simp_all

theorem flatMap_divide (s : List Char) :
    (divide s).flatMap (fun l => l.1 ++ l.2.chars) = s := by
  fun_induction divide s with
  | case1 => rfl
  | case2 rest ih => simpa using ih
  | case3 rest _ ih => simpa using ih
  | case4 rest ih => simpa using ih
  | case5 c rest _ _ _ text ending more h ih => simpa [h] using ih
  | case6 c rest _ _ _ h => exact absurd h (divide_ne_nil rest)

theorem isLineEnd_of_mem_divide {s : List Char} {l : List Char × LineBreak} (h : l ∈ divide s) :
    ∀ c ∈ l.1, Text.isLineEnd c = false := by
  fun_induction divide s generalizing l with
  | case1 => simp_all
  | case2 rest ih =>
    rcases List.mem_cons.mp h with rfl | h
    · simp
    · exact ih h
  | case3 rest _ ih =>
    rcases List.mem_cons.mp h with rfl | h
    · simp
    · exact ih h
  | case4 rest ih =>
    rcases List.mem_cons.mp h with rfl | h
    · simp
    · exact ih h
  | case5 c rest _ hr hn text ending more heq ih =>
    rw [heq] at ih
    rcases List.mem_cons.mp h with rfl | h
    · intro d hd
      rcases List.mem_cons.mp hd with rfl | hd
      · simp [Text.isLineEnd]
        exact ⟨hn, hr⟩
      · exact ih List.mem_cons_self d hd
    · exact ih (List.mem_cons_of_mem _ h)
  | case6 c rest _ _ _ heq => exact absurd heq (divide_ne_nil rest)

theorem flatMap_contents_place (start : Nat) (ls : List (List Char × LineBreak)) :
    (place start ls).flatMap contents = ls.flatMap (fun l => l.1 ++ l.2.chars) := by
  induction ls generalizing start with
  | nil => rfl
  | cons l ls ih => simp [place, contents, ih]

theorem flatMap_contents_split (s : List Char) : (split s).flatMap contents = s := by
  rw [split, flatMap_contents_place, flatMap_divide]

end Line

end RequestBook
