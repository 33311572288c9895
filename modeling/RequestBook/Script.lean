import RequestBook.Response
import RequestBook.Scope

/-!
Running a request's processor on its response. The evaluator of scripts comes from outside, with
whatever effects it has; it is given a snapshot of the visible variables with the response, and what
counts of its work is which variables are new or different afterwards.
-/

namespace RequestBook

inductive ScriptError
  | failed : String → ScriptError
  | timeout : ScriptError
  deriving DecidableEq

def ScriptError.message : ScriptError → String
  | .failed message => "Processor script failed: " ++ message
  | .timeout => "Processor script timed out"

structure Snapshot where
  vars : Table Json
  status : Nat
  headers : Table String
  json : Option Json
  deriving DecidableEq

abbrev Evaluator : Type :=
  String → Snapshot → Except ScriptError Snapshot

def Value.toJson : Value → Json
  | .text s => .string s
  | .integer n => .number (.integer n)

namespace Snapshot

def take (scope : Scope) (response : Response) : Snapshot :=
  { vars := scope.vars.map fun _ d => d.value.toJson
    status := response.status
    headers := response.headers
    json := response.json? }

def changes (before after : Table Json) : Table Json :=
  after.filter fun name value => before.get? name != some value

theorem get?_changes (before after : Table Json) (name : String) :
    (changes before after).get? name =
      if before.get? name = after.get? name then none else after.get? name := by
  cases h : after.get? name with
  | none => simp [changes, h]
  | some v => by_cases hb : before.get? name = some v <;> simp [changes, h, hb, Option.filter]

end Snapshot

def Scope.script? (scope : Scope) : Option String :=
  scope.processor.map Processor.script

/-- Runs the processor of the scope's request, if it has one, and gives the variables it changed. The
effects of the evaluator, failure among them, are those of `m`. -/
def runProcessor {m : Type → Type} [Monad m] (evaluate : String → Snapshot → m Snapshot)
    (scope : Scope) (response : Response) : m (Table Json) :=
  match scope.script? with
  | none => pure .empty
  | some script => do
    let before := Snapshot.take scope response
    let after ← evaluate script before
    return Snapshot.changes before.vars after.vars

end RequestBook
