import RequestBook.Proofs.Grammar.Relocated
import RequestBook.Proofs.Source.Join

namespace RequestBook

section Shift

variable (by' : Nat)

def Request.shift (r : Request) : Request :=
  { r with headers := r.headers.map (·.shift by'), span := r.span.shift by' }

def Fault.shift (fault : Fault) : Fault :=
  ⟨fault.cause, fault.offset + by'⟩

def Relocation.shift : Relocation where
  offset := (· + by')
  char c := [c]
  isBlank_of_mem c hc d hd := by
    rw [List.mem_singleton.mp hd]
    exact hc
  char_of_not_blank _ _ := rfl

theorem Relocation.script_shift (s : List Char) : (shift by').script s = s :=
  script_of_forall _ fun _ _ => rfl

theorem Relocation.takes_shift (line : Line) : (shift by').Takes line (line.shift by') where
  text := rfl
  offset n _ := Nat.add_right_comm line.start n by'
  char _ _ := rfl
  ending := (script_shift by' line.ending.chars).symm

theorem Entry.relocate_shift : Entry.relocate (.shift by') = Entry.shift by' := by
  funext e
  cases e with
  | processor p =>
    rw [Entry.relocate, Processor.relocate, Relocation.script_shift, String.ofList_toList]
    rfl
  | definition | environment | request => rfl

namespace Grammar

def Pending.shift : Pending → Pending
  | .nothing => .nothing
  | .environment name start definitions =>
    .environment name (start + by') (definitions.map (·.shift by'))
  | .request r => .request (r.shift by')
  | .body r lines => .body (r.shift by') lines
  | .processor name start script => .processor name (start + by') script

theorem Pending.relocate_shift (pending : Pending) :
    pending.relocate (.shift by') = pending.shift by' := by
  cases pending with
  | processor name start script =>
    rw [Pending.relocate, Relocation.script_shift]
    rfl
  | nothing | environment | request | body => rfl

namespace Reading

def moved (before : List Entry) (reading : Reading) : Reading :=
  ⟨before ++ reading.entries.map (·.shift by'), reading.pending.shift by'⟩

variable (before : List Entry)

theorem relocate_shift : relocate (.shift by') before = moved by' before := by
  funext reading
  rw [relocate, Entry.relocate_shift, Pending.relocate_shift, moved]

theorem foldlM_moved (reading : Reading) (lines : List Line) :
    (lines.map (Line.shift by')).foldlM step (reading.moved by' before) =
      onBoth (moved by' before) (Fault.shift by') (lines.foldlM step reading) := by
  have hread := foldlM_relocate before reading fun line (_ : line ∈ lines) =>
    Relocation.takes_shift by' line
  rwa [relocate_shift] at hread

theorem finish_moved (reading : Reading) (total : Nat) :
    (reading.moved by' before).finish (total + by') =
      onBoth (before ++ List.map (·.shift by') ·) (Fault.shift by') (reading.finish total) := by
  have hfinish := finish_relocate (ρ := .shift by') before reading total
  rwa [relocate_shift, Entry.relocate_shift] at hfinish

end Reading

theorem readLines_moved (total : Nat) (lines : List Line) :
    readLines (total + by') (lines.map (Line.shift by')) =
      onBoth (List.map (·.shift by') ·) (Fault.shift by') (readLines total lines) := by
  have hread := readLines_relocate (.shift by')
    (fun line (_ : line ∈ lines) => Relocation.takes_shift by' line) total
  rwa [Entry.relocate_shift] at hread

end Grammar

end Shift

end RequestBook
