import M2Cell.Lib.Run
import Mathlib.Data.Set.Basic

/-!
# Latches

The purpose of a fault record, stated abstractly: a set of held faults that
grows with every report and shrinks only when faults are reset.  A fault that
is held stays so until the first reset that names it (`mem_run_of_mem`).

A concrete fault word is shown to be such a latch by an abstraction to the set
it holds, under which each of its operations is one of the two operations here.
-/

namespace M2Cell

variable {F : Type*}

/-- The operations of a latch over faults `F`. -/
inductive LatchOp (F : Type*)
  | raise (faults : Set F)
  | reset (faults : Set F)

namespace LatchOp

/-- The held faults after one operation. -/
def apply (held : Set F) : LatchOp F → Set F
  | raise faults => held ∪ faults
  | reset faults => held \ faults

/-- The operation resets the fault. -/
def Clears (fault : F) : LatchOp F → Prop
  | raise _ => False
  | reset faults => fault ∈ faults

theorem mem_apply_of_not_clears {held : Set F} {fault : F} {op : LatchOp F}
    (hop : ¬ op.Clears fault) (hheld : fault ∈ held) : fault ∈ op.apply held := by
  cases op with
  | raise faults => exact Or.inl hheld
  | reset faults => exact ⟨hheld, hop⟩

/-- A held fault stays held until it is reset. -/
theorem mem_run_of_mem {held : Set F} {fault : F} (hheld : fault ∈ held) {ops : List (LatchOp F)}
    (hops : ∀ op ∈ ops, ¬ op.Clears fault) : fault ∈ run apply held ops :=
  run_latch (fun _ => True) (fault ∈ ·) (Clears fault) (fun _ _ _ => trivial)
    (fun _ _ _ hop hmem => mem_apply_of_not_clears hop hmem) trivial hheld hops

end LatchOp

end M2Cell
