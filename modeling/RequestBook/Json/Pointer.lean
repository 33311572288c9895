import RequestBook.Json.Value

namespace RequestBook.Json

def replaceTilde (code by' : Char) : List Char → List Char
  | '~' :: c :: rest =>
    if c = code then by' :: replaceTilde code by' rest else '~' :: replaceTilde code by' (c :: rest)
  | c :: rest => c :: replaceTilde code by' rest
  | [] => []

/-- The name a step stands for: `~1` is a slash and `~0` a tilde. -/
def stepName (step : List Char) : List Char :=
  replaceTilde '0' '~' (replaceTilde '1' '/' step)

def index? (step : List Char) : Option Nat :=
  if step.isEmpty || !step.all Char.isDigit || (step.head? == some '0' && step.length != 1) then
    none
  else some (step.foldl (fun n c => 10 * n + (c.toNat - '0'.toNat)) 0)

def descend (value : Json) (step : List Char) : Option Json :=
  match value with
  | .object members => members.lookup (String.ofList step)
  | .array items => (index? step).bind fun i => items[i]?
  | _ => none

def pointer? (value : Json) (pointer : String) : Option Json :=
  match List.splitOn '/' pointer.toList with
  | [] :: steps => steps.foldlM (fun v step => descend v (stepName step)) value
  | _ => none

end RequestBook.Json
