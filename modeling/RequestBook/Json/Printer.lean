import RequestBook.Json.Shortest
import RequestBook.Json.Value

namespace RequestBook.Json

def hexDigit (n : Nat) : Char :=
  Nat.digitChar n

def escape (c : Char) : List Char :=
  match c with
  | '"' => ['\\', '"']
  | '\\' => ['\\', '\\']
  | '\n' => ['\\', 'n']
  | '\r' => ['\\', 'r']
  | '\t' => ['\\', 't']
  | '\x08' => ['\\', 'b']
  | '\x0c' => ['\\', 'f']
  | c =>
    if c.toNat < 0x20 then
      ['\\', 'u', '0', '0', hexDigit (c.toNat / 16), hexDigit (c.toNat % 16)]
    else [c]

def quoted (s : String) : String :=
  String.ofList ('"' :: s.toList.flatMap escape ++ ['"'])

/-- A decimal with a point when its exponent is between -5 and 15, else with an exponent part. A
whole number keeps one zero after its point, and a positive exponent its sign. -/
def decimalText (d : Binary64.Decimal) : String :=
  let length := d.digits.length
  let text :=
    if 0 < d.point ∧ d.point ≤ 16 then
      let point := d.point.toNat
      if length ≤ point then d.digits ++ List.replicate (point - length) '0' ++ ['.', '0']
      else d.digits.take point ++ '.' :: d.digits.drop point
    else if -5 < d.point ∧ d.point ≤ 0 then
      '0' :: '.' :: List.replicate (-d.point).toNat '0' ++ d.digits
    else
      let fraction := if length = 1 then [] else '.' :: d.digits.drop 1
      let exponent := d.point - 1
      let sign := if exponent < 0 then '-' else '+'
      d.digits.take 1 ++ fraction ++ 'e' :: sign :: (toString exponent.natAbs).toList
  String.ofList text

def floatText (x : Binary64) : String :=
  let size := if x.isZero then "0.0" else decimalText x.shortest
  if x.negative then "-" ++ size else size

def numberText : JsonNumber → String
  | .integer n => toString n
  | .float x => floatText x

mutual

def compactParts : Json → String
  | .null => "null"
  | .bool b => if b then "true" else "false"
  | .number n => numberText n
  | .string s => quoted s
  | .array items => "[" ++ ",".intercalate (compactItems items) ++ "]"
  | .object members => "\x7b" ++ ",".intercalate (compactMembers members) ++ "\x7d"

def compactItems : List Json → List String
  | [] => []
  | item :: more => compactParts item :: compactItems more

def compactMembers : List (String × Json) → List String
  | [] => []
  | (name, value) :: more => (quoted name ++ ":" ++ compactParts value) :: compactMembers more

end

def compact (value : Json) : String :=
  compactParts value

def indent (depth : Nat) : String :=
  String.ofList (List.replicate (2 * depth) ' ')

def bracketed (opening closing : String) (depth : Nat) (items : List String) : String :=
  if items.isEmpty then opening ++ closing
  else
    let lines := items.map fun item => indent (depth + 1) ++ item
    opening ++ "\n" ++ ",\n".intercalate lines ++ "\n" ++ indent depth ++ closing

mutual

def prettyAt (depth : Nat) : Json → String
  | .array items => bracketed "[" "]" depth (prettyItems (depth + 1) items)
  | .object members => bracketed "\x7b" "\x7d" depth (prettyMembers (depth + 1) members)
  | .null => "null"
  | .bool b => if b then "true" else "false"
  | .number n => numberText n
  | .string s => quoted s

def prettyItems (depth : Nat) : List Json → List String
  | [] => []
  | item :: more => prettyAt depth item :: prettyItems depth more

def prettyMembers (depth : Nat) : List (String × Json) → List String
  | [] => []
  | (name, value) :: more =>
    (quoted name ++ ": " ++ prettyAt depth value) :: prettyMembers depth more

end

def pretty (value : Json) : String :=
  prettyAt 0 value

end RequestBook.Json
