import Mathlib.Order.Bounds.Basic
import RequestBook.Script

namespace RequestBook

namespace Table

variable {α : Type}

instance : PartialOrder (Table α) where
  le a b := ∀ name value, a.get? name = some value → b.get? name = some value
  le_refl _ _ _ h := h
  le_trans _ _ _ hab hbc name value h := hbc name value (hab name value h)
  le_antisymm _ _ hab hba :=
    ext_get? fun name => Option.ext fun value => ⟨hab name value, hba name value⟩

end Table

namespace Snapshot

structure Shows (scope : Scope) (response : Response) (snapshot : Snapshot) : Prop where
  text : ∀ name d s, scope.var? name = some d → d.value = .text s →
    snapshot.vars.get? name = some (.string s)
  integer : ∀ name d n, scope.var? name = some d → d.value = .integer n →
    snapshot.vars.get? name = some (.number (.integer n))
  hidden : ∀ name, scope.var? name = none → snapshot.vars.get? name = none
  status : snapshot.status = response.status
  headers : snapshot.headers = response.headers
  json : snapshot.json = response.json?

theorem shows_take (scope : Scope) (response : Response) :
    (take scope response).Shows scope response := by
  have hvars (name : String) : (take scope response).vars.get? name =
      (scope.var? name).map fun d => d.value.toJson := Table.get?_map _ _ _
  refine ⟨fun name d s hd hs => ?_, fun name d n hd hn => ?_, fun name hnone => ?_, rfl, rfl, rfl⟩
  · rw [hvars, hd, Option.map_some, hs, Value.toJson]
  · rw [hvars, hd, Option.map_some, hn, Value.toJson]
  · rw [hvars, hnone, Option.map_none]

/-- Laid over the variables from before, the table gives all that are defined afterwards. -/
def Settles (before after changed : Table Json) : Prop :=
  ∀ name value, after.get? name = some value → (before.overlay changed).get? name = some value

variable {before after : Table Json} {name : String} {value : Json}

theorem get?_changes_eq_some_iff : (changes before after).get? name = some value ↔
    after.get? name = some value ∧ before.get? name ≠ some value := by
  rw [get?_changes]
  split
  · rename_i hsame
    rw [hsame]
    simp
  · rename_i hother
    refine ⟨fun hvalue => ⟨hvalue, fun hbefore => hother (hbefore.trans hvalue.symm)⟩, And.left⟩

theorem isLeast_changes (before after : Table Json) :
    IsLeast {changed | Settles before after changed} (changes before after) := by
  constructor
  · intro name value hvalue
    rw [Table.get?_overlay, get?_changes, hvalue]
    split
    · assumption
    · rfl
  · intro changed hsettles name value hchanged
    obtain ⟨hafter, hbefore⟩ := get?_changes_eq_some_iff.mp hchanged
    have hover := hsettles name value hafter
    rw [Table.get?_overlay] at hover
    -- what the variables from before do not give comes from the table
    exact (Option.or_eq_some_iff.mp hover).resolve_right fun h => hbefore h.2

/-- The table reports what a script did to the variables, and nothing else. -/
structure Reports (before after changed : Table Json) : Prop where
  least : IsLeast {changed | Settles before after changed} changed
  reported : ∀ name value, after.get? name = some value → before.get? name ≠ some value →
    changed.get? name = some value
  restored : ∀ name, after.get? name = before.get? name → changed.get? name = none
  removed : ∀ name, after.get? name = none → changed.get? name = none
  /-- an integer and a floating-point number are different values -/
  retyped : ∀ name n x, before.get? name = some (.number (.integer n)) →
    after.get? name = some (.number (.float x)) → changed.get? name = some (.number (.float x))

theorem reports_changes (before after : Table Json) :
    Reports before after (changes before after) where
  least := isLeast_changes before after
  reported := fun _ _ hafter hbefore => get?_changes_eq_some_iff.mpr ⟨hafter, hbefore⟩
  restored := fun name hsame => by rw [get?_changes, if_pos hsame.symm]
  removed := fun name hnone => by rw [get?_changes, hnone, ite_self]
  retyped := fun name n x hbefore hafter =>
    get?_changes_eq_some_iff.mpr ⟨hafter, fun hsame => by
      rw [hbefore] at hsame
      cases hsame⟩

end Snapshot

/-- The evaluator, which also notes each script and snapshot that it is given. -/
def recorded (evaluate : Evaluator) (script : String) (snapshot : Snapshot) :
    ExceptT ScriptError (StateM (List (String × Snapshot))) Snapshot :=
  ExceptT.mk do
    modify (· ++ [(script, snapshot)])
    return evaluate script snapshot

inductive Processed (evaluate : Evaluator) (scope : Scope) (response : Response) :
    List (String × Snapshot) → Except ScriptError (Table Json) → Prop
  | unbound : scope.processor = none → Processed evaluate scope response [] (.ok ∅)
  | failed {p snapshot e} : scope.processor = some p → snapshot.Shows scope response →
      evaluate p.script snapshot = .error e →
      Processed evaluate scope response [(p.script, snapshot)] (.error e)
  | finished {p snapshot after changed} : scope.processor = some p →
      snapshot.Shows scope response → evaluate p.script snapshot = .ok after →
      Snapshot.Reports snapshot.vars after.vars changed →
      Processed evaluate scope response [(p.script, snapshot)] (.ok changed)

/-- A processor's script is evaluated once, on a snapshot of the visible variables, and the result is
the evaluator's error or the least table of changes; without a processor there is neither. -/
theorem processed_runProcessor (evaluate : Evaluator) (scope : Scope) (response : Response) :
    ∃ calls, Processed evaluate scope response calls (runProcessor evaluate scope response) ∧
      ∀ earlier, (runProcessor (recorded evaluate) scope response).run.run earlier =
        (runProcessor evaluate scope response, earlier ++ calls) := by
  cases hp : scope.processor with
  | none =>
    have hscript : scope.script? = none := by rw [Scope.script?, hp, Option.map_none]
    have hrun {m : Type → Type} [Monad m] (evaluate : String → Snapshot → m Snapshot) :
        runProcessor evaluate scope response = pure .empty := by rw [runProcessor, hscript]
    refine ⟨[], ?_, fun earlier => ?_⟩
    · rw [hrun]
      exact .unbound hp
    · rw [hrun, hrun, List.append_nil]
      rfl
  | some p =>
    have hscript : scope.script? = some p.script := by rw [Scope.script?, hp, Option.map_some]
    have hshows := Snapshot.shows_take scope response
    have hrun {m : Type → Type} [Monad m] (evaluate : String → Snapshot → m Snapshot) :
        runProcessor evaluate scope response = do
          let after ← evaluate p.script (Snapshot.take scope response)
          return Snapshot.changes (Snapshot.take scope response).vars after.vars := by
      rw [runProcessor, hscript]
    refine ⟨[(p.script, Snapshot.take scope response)], ?_, fun earlier => ?_⟩
    · rw [hrun]
      cases heval : evaluate p.script (Snapshot.take scope response) with
      | error e => exact .failed hp hshows heval
      | ok after => exact .finished hp hshows heval (Snapshot.reports_changes _ _)
    · rw [hrun, hrun, recorded]
      cases evaluate p.script (Snapshot.take scope response) <;> rfl

end RequestBook
