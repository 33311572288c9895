import RequestBook.Definition
import RequestBook.Table
import RequestBook.Text.Percent

/-!
Templates: text in which `$name` stands for the value of a variable. A text is expanded once, from
left to right; at a dollar sign the longest defined name after it is replaced, and a value is never
expanded again.
-/

namespace RequestBook.Template

open RequestBook.Text

def longestDefined (value : String → Option String) (run : List Char) : Option (Nat × String) :=
  (List.range run.length).reverse.findSome? fun n =>
    (value (String.ofList (run.take (n + 1)))).map fun v => (n + 1, v)

def token? (value : String → Option String) (rest : List Char) : Option (Nat × String) :=
  longestDefined value (rest.takeWhile isNameChar)

def expand (value : String → Option String) : List Char → List Char
  | [] => []
  | c :: rest =>
    if c = '$' then
      match token? value rest with
      | some (length, v) => v.toList ++ expand value (rest.drop length)
      | none => '$' :: expand value rest
    else c :: expand value rest
termination_by s => s.length
decreasing_by
  all_goals
    simp only [List.length_drop, List.length_cons]
    omega

/-- The names that dollar signs refer to: the longest run of name characters after each. -/
def references : List Char → List (List Char)
  | [] => []
  | c :: rest =>
    let run := rest.takeWhile isNameChar
    if c = '$' ∧ run ≠ [] then run :: references rest else references rest

inductive Encoding
  | plain : Encoding
  | percent : Encoding
  deriving DecidableEq

def Encoding.apply : Encoding → String → String
  | .plain, s => s
  | .percent, s => percentEncode s

def interpolate (vars : Table Definition) (encoding : Encoding) (text : String) : String :=
  String.ofList
    (expand (fun name => (vars.get? name).map fun d => encoding.apply d.text) text.toList)

end RequestBook.Template
