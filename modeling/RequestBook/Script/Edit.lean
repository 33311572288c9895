import RequestBook.Json.Pointer
import RequestBook.Script

namespace RequestBook

inductive ScriptEdit
  | set : String → Json → ScriptEdit
  | remove : String → ScriptEdit
  | copy : String → String → ScriptEdit
  | fail : String → ScriptEdit
  | timeout : ScriptEdit

namespace ScriptEdit

def apply (snapshot : Snapshot) : ScriptEdit → Except ScriptError Snapshot
  | .set name value => .ok { snapshot with vars := snapshot.vars.insert name value }
  | .remove name => .ok { snapshot with vars := snapshot.vars.erase name }
  | .copy name pointer =>
    match snapshot.json.bind fun json => json.pointer? pointer with
    | some value => .ok { snapshot with vars := snapshot.vars.insert name value }
    | none => .error (.failed (pointer ++ " is undefined"))
  | .fail message => .error (.failed message)
  | .timeout => .error .timeout

def evaluator (edits : List ScriptEdit) : Evaluator := fun _ snapshot =>
  edits.foldlM apply snapshot

end ScriptEdit

end RequestBook
