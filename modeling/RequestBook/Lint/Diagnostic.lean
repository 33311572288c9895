import RequestBook.Grammar.Error

namespace RequestBook

inductive Severity
  | error : Severity
  | warning : Severity
  deriving DecidableEq

structure Diagnostic where
  line : Nat
  column : Nat
  endLine : Option Nat
  endColumn : Option Nat
  message : String
  severity : Severity
  deriving DecidableEq

namespace Diagnostic

def error (line column : Nat) (message : String) : Diagnostic :=
  ⟨line, column, none, none, message, .error⟩

def warning (line column : Nat) (message : String) : Diagnostic :=
  ⟨line, column, none, none, message, .warning⟩

def upTo (d : Diagnostic) (endColumn : Nat) : Diagnostic :=
  { d with endLine := some d.line, endColumn := some endColumn }

def ofSyntaxError (e : SyntaxError) : Diagnostic :=
  error e.position.line e.position.column e.cause.message

def key (d : Diagnostic) : Nat × String :=
  (d.line, d.message)

def dedupeAfter (seen : List (Nat × String)) : List Diagnostic → List Diagnostic
  | [] => []
  | d :: rest =>
    if d.key ∈ seen then dedupeAfter seen rest else d :: dedupeAfter (d.key :: seen) rest

def dedupe (ds : List Diagnostic) : List Diagnostic :=
  dedupeAfter [] ds

theorem dedupeAfter_sublist (seen : List (Nat × String)) (ds : List Diagnostic) :
    (dedupeAfter seen ds).Sublist ds := by
  induction ds generalizing seen with
  | nil => simp [dedupeAfter]
  | cons d rest ih =>
    simp only [dedupeAfter]
    split
    · exact (ih seen).cons d
    · exact (ih _).cons_cons d

theorem key_notMem_of_mem_dedupeAfter {seen : List (Nat × String)} {ds : List Diagnostic}
    {d : Diagnostic} (h : d ∈ dedupeAfter seen ds) : d.key ∉ seen := by
  induction ds generalizing seen with
  | nil => simp [dedupeAfter] at h
  | cons e rest ih =>
    simp only [dedupeAfter] at h
    split at h
    · exact ih h
    · rename_i hseen
      rcases List.mem_cons.mp h with rfl | h
      · exact hseen
      · exact fun hmem => ih h (List.mem_cons_of_mem _ hmem)

theorem pairwise_key_dedupe (ds : List Diagnostic) :
    (dedupe ds).Pairwise (fun a b => a.key ≠ b.key) := by
  suffices ∀ seen, (dedupeAfter seen ds).Pairwise (fun a b => a.key ≠ b.key) from this []
  intro seen
  induction ds generalizing seen with
  | nil => simp [dedupeAfter]
  | cons d rest ih =>
    simp only [dedupeAfter]
    split
    · exact ih seen
    · refine List.pairwise_cons.mpr ⟨fun e he heq => ?_, ih _⟩
      exact key_notMem_of_mem_dedupeAfter he (heq ▸ List.mem_cons_self)

end Diagnostic

end RequestBook
