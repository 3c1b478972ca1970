import Mathlib.Data.List.Basic

/-!
# Descriptor tables

The table from descriptors to open files.  Opening a file takes the lowest
descriptor that is free (`lowest`), so a descriptor that was closed is soon that of
another file; nothing in the number tells the two apart.

The table is a list, in which a free descriptor and one beyond the end are the same to the
caller (`file`).  Closing does nothing to a descriptor that is free, as the error of `close` is
not looked at.  The three lemmas say what `file` is after each operation, and proofs about
programs with descriptors need nothing else.
-/

namespace M2Cell

/-- A table from descriptors to open files. -/
abbrev Descriptors (φ : Type*) := List (Option φ)

namespace Descriptors

variable {φ : Type*}

/-- The file of a descriptor. -/
def file (fd : ℕ) (table : Descriptors φ) : Option φ := table.getD fd none

/-- The lowest free descriptor. -/
def lowest : Descriptors φ → ℕ
  | [] => 0
  | none :: _ => 0
  | some _ :: rest => lowest rest + 1

/-- Open a file. -/
def openFile (f : φ) : Descriptors φ → Descriptors φ
  | [] => [some f]
  | none :: rest => some f :: rest
  | some g :: rest => some g :: openFile f rest

/-- Close a descriptor; nothing happens when it is free. -/
def close (fd : ℕ) (table : Descriptors φ) : Descriptors φ := table.set fd none

theorem file_lowest (table : Descriptors φ) : file (lowest table) table = none := by
  induction table with
  | nil => rfl
  | cons entry rest ih =>
      cases entry with
      | none => rfl
      | some g => exact ih

/-- **Opening** changes the lowest free descriptor only. -/
theorem file_openFile (f : φ) (table : Descriptors φ) (fd : ℕ) :
    file fd (openFile f table) = if fd = lowest table then some f else file fd table := by
  induction table generalizing fd with
  | nil =>
      cases fd with
      | zero => rfl
      | succ fd => rfl
  | cons entry rest ih =>
      cases entry with
      | none =>
          cases fd with
          | zero => rfl
          | succ fd => rfl
      | some g =>
          cases fd with
          | zero => rfl
          | succ fd =>
              have hrest := ih fd
              simp only [file, openFile, lowest, List.getD_cons_succ, Nat.add_right_cancel_iff]
                at hrest ⊢
              exact hrest

/-- **Closing** changes one descriptor only. -/
theorem file_close (fd other : ℕ) (table : Descriptors φ) :
    file other (close fd table) = if other = fd then none else file other table := by
  unfold file close
  rw [List.getD_eq_getElem?_getD, List.getD_eq_getElem?_getD, List.getElem?_set]
  by_cases h : fd = other
  · rw [if_pos h, if_pos h.symm]
    split_ifs <;> rfl
  · rw [if_neg h, if_neg (Ne.symm h)]

end Descriptors

end M2Cell
