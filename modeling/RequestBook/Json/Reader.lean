import RequestBook.Json.Number
import RequestBook.Json.Quoted

namespace RequestBook.Json

abbrev Shorter (s : List Char) : Type :=
  {rest : List Char // rest.length < s.length}

def isSpace (c : Char) : Bool :=
  c == ' ' || c == '\n' || c == '\t' || c == '\r'

def skipSpace (s : List Char) : List Char :=
  s.dropWhile isSpace

theorem length_skipSpace_le (s : List Char) : (skipSpace s).length ≤ s.length :=
  (List.dropWhile_suffix _).length_le

theorem length_lt_of_cons_le {c : Char} {rest s : List Char}
    (h : (c :: rest).length ≤ s.length) : rest.length < s.length :=
  h

theorem length_lt_of_lt_of_cons_le {c : Char} {left rest s : List Char}
    (hl : left.length < rest.length) (h : (c :: rest).length ≤ s.length) :
    left.length < s.length :=
  Nat.lt_trans hl h

theorem length_lt_of_lt_cons_of_cons_le {c : Char} {left rest s : List Char}
    (hl : left.length < (c :: rest).length) (h : (c :: rest).length ≤ s.length) :
    left.length < s.length :=
  Nat.lt_of_lt_of_le hl h

def readWord : List Char → List Char → Except Failure (List Char)
  | [], s => .ok s
  | _ :: _, [] => failBefore .endInValue []
  | c :: word, d :: s => if d = c then readWord word s else failOn .expectedIdent (d :: s)

theorem length_of_readWord {word s rest : List Char} (h : readWord word s = .ok rest) :
    rest.length ≤ s.length := by
  fun_induction readWord word s with
  | case1 => cases h; simp
  | case2 => cases h
  | case3 c word s ih =>
    have := ih h
    simp
    omega
  | case4 => cases h

section Nested

variable (value : (s : List Char) → Except Failure (Json × Shorter s))

def readItems (found : List Json) (s : List Char) : Except Failure (Json × Shorter s) :=
  match value s with
  | .error e => .error e
  | .ok (item, ⟨rest, hrest⟩) =>
    match h : skipSpace rest with
    | [] => failBefore .endInList []
    | c :: rest' =>
      have hle : (c :: rest').length ≤ rest.length := h ▸ length_skipSpace_le rest
      if c = ']' then
        .ok (.array (item :: found).reverse, ⟨rest', by simp at hle; omega⟩)
      else if c = ',' then
        match h' : skipSpace rest' with
        | [] => failBefore .endInValue []
        | d :: next =>
          have hle' : (d :: next).length ≤ rest'.length := h' ▸ length_skipSpace_le rest'
          if d = ']' then failOn .trailingComma (d :: next)
          else
            match readItems (item :: found) (d :: next) with
            | .ok (whole, ⟨rest, hr⟩) => .ok (whole, ⟨rest, by simp at hle; omega⟩)
            | .error e => .error e
      else failOn .expectedListCommaOrEnd (c :: rest')
termination_by s.length
decreasing_by
  simp at hle hle' ⊢
  omega

def readList (s : List Char) : Except Failure (Json × Shorter s) :=
  match h : skipSpace s with
  | [] => failBefore .endInList []
  | c :: rest =>
    have hle : (c :: rest).length ≤ s.length := h ▸ length_skipSpace_le s
    if c = ']' then .ok (.array [], ⟨rest, length_lt_of_cons_le hle⟩)
    else
      match readItems value [] (c :: rest) with
      | .ok (whole, ⟨left, hl⟩) => .ok (whole, ⟨left, length_lt_of_lt_cons_of_cons_le hl hle⟩)
      | .error e => .error e

def readMemberValue (s : List Char) : Except Failure (Json × Shorter s) :=
  match h : skipSpace s with
  | [] => failBefore .endInObject []
  | c :: rest =>
    have hle : (c :: rest).length ≤ s.length := h ▸ length_skipSpace_le s
    if c = ':' then
      match value rest with
      | .ok (v, ⟨left, hl⟩) => .ok (v, ⟨left, length_lt_of_lt_of_cons_le hl hle⟩)
      | .error e => .error e
    else failOn .expectedColon (c :: rest)

def readMembers (found : List (String × Json)) (s : List Char) :
    Except Failure (Json × Shorter s) :=
  match hk : readString [] s with
  | .error e => .error e
  | .ok (name, afterName) =>
    have hname := length_of_readString hk
    match readMemberValue value afterName with
    | .error e => .error e
    | .ok (v, ⟨rest, hrest⟩) =>
      let found := Table.place name v found
      match h : skipSpace rest with
      | [] => failBefore .endInObject []
      | c :: rest' =>
        have hle : (c :: rest').length ≤ rest.length := h ▸ length_skipSpace_le rest
        if c = '\x7d' then .ok (.object found, ⟨rest', by simp at hle; omega⟩)
        else if c = ',' then
          match h' : skipSpace rest' with
          | [] => failBefore .endInValue []
          | d :: next =>
            have hle' : (d :: next).length ≤ rest'.length := h' ▸ length_skipSpace_le rest'
            if d = '"' then
              match readMembers found next with
              | .ok (whole, ⟨rest, hr⟩) => .ok (whole, ⟨rest, by simp at hle hle'; omega⟩)
              | .error e => .error e
            else if d = '\x7d' then failOn .trailingComma (d :: next)
            else failOn .keyNotString (d :: next)
        else failOn .expectedObjectCommaOrEnd (c :: rest')
termination_by s.length
decreasing_by
  simp at hle hle' ⊢
  omega

def readObject (s : List Char) : Except Failure (Json × Shorter s) :=
  match h : skipSpace s with
  | [] => failBefore .endInObject []
  | c :: rest =>
    have hle : (c :: rest).length ≤ s.length := h ▸ length_skipSpace_le s
    if c = '\x7d' then .ok (.object [], ⟨rest, length_lt_of_cons_le hle⟩)
    else if c = '"' then
      match readMembers value [] rest with
      | .ok (whole, ⟨left, hl⟩) => .ok (whole, ⟨left, length_lt_of_lt_of_cons_le hl hle⟩)
      | .error e => .error e
    else failOn .keyNotString (c :: rest)

end Nested

def readValue (depth : Nat) (s : List Char) : Except Failure (Json × Shorter s) :=
  match h : skipSpace s with
  | [] => failBefore .endInValue []
  | c :: rest =>
    have hle : (c :: rest).length ≤ s.length := h ▸ length_skipSpace_le s
    let word (letters : List Char) (v : Json) : Except Failure (Json × Shorter s) :=
      match hw : readWord letters rest with
      | .ok left =>
        .ok (v, ⟨left, by have := length_of_readWord hw; simp at hle; omega⟩)
      | .error e => .error e
    match c with
    | 'n' => word ['u', 'l', 'l'] .null
    | 't' => word ['r', 'u', 'e'] (.bool true)
    | 'f' => word ['a', 'l', 's', 'e'] (.bool false)
    | '"' =>
      match hs : readString [] rest with
      | .ok (text, left) =>
        .ok (.string text, ⟨left, by have := length_of_readString hs; simp at hle; omega⟩)
      | .error e => .error e
    | '[' =>
      match depth with
      | 0 => failOn .tooDeep (c :: rest)
      | depth + 1 =>
        match readList (readValue depth) rest with
        | .ok (v, ⟨left, hl⟩) => .ok (v, ⟨left, by simp at hle; omega⟩)
        | .error e => .error e
    | '\x7b' =>
      match depth with
      | 0 => failOn .tooDeep (c :: rest)
      | depth + 1 =>
        match readObject (readValue depth) rest with
        | .ok (v, ⟨left, hl⟩) => .ok (v, ⟨left, by simp at hle; omega⟩)
        | .error e => .error e
    | c =>
      if c == '-' || c.isDigit then
        match hn : readNumber (c :: rest) with
        | .ok (n, left) =>
          .ok (.number n, ⟨left, by have := length_of_readNumber hn; omega⟩)
        | .error e => .error e
      else failOn .expectedValue (c :: rest)

def depthLimit : Nat := 127

def readText (text : List Char) : Except Failure Json :=
  match readValue depthLimit text with
  | .error e => .error e
  | .ok (value, ⟨rest, _⟩) =>
    match skipSpace rest with
    | [] => .ok value
    | c :: rest => failOn .trailingCharacters (c :: rest)

def parse (text : String) : Except ReadError Json :=
  (readText text.toList).mapError fun failure => failure.locate text.toList

def ofBytes? (bytes : List UInt8) : Option Json :=
  match String.fromUTF8? ⟨bytes.toArray⟩ with
  | some text => (parse text).toOption
  | none => none

end RequestBook.Json
