import Mathlib.Data.List.Basic

/-!
# Vectors with unchecked access

A vector is a list whose elements are reached by their positions.  Access at a
position that is not in the vector is undefined: it ends a computation with the
failure `outside`, which the program at hand chooses.

`readLoop` and `copyLoop` are the loops over the first positions of a vector that
read, respectively overwrite, one element after the other.

A loop stays inside when its bound is at most the length of each vector that it touches
(`readLoop_of_le`, `copyLoop_of_le`).  Then its result is a list of which nothing is undefined
any more, and the whole vector is the case of equality (`readLoop_eq`, `copyLoop_eq`).
-/

namespace M2Cell

variable {α ε : Type*} (outside : ε)

/-- `vec[index]`. -/
def readAt (vec : List α) (index : ℕ) : Except ε α :=
  match vec[index]? with
  | some x => .ok x
  | none => .error outside

/-- `vec[index] = x`. -/
def writeAt (vec : List α) (index : ℕ) (x : α) : Except ε (List α) :=
  if index < vec.length then .ok (vec.set index x) else .error outside

/-- Read the elements at the positions below `size`. -/
def readLoop (vec : List α) : ℕ → Except ε (List α)
  | 0 => .ok []
  | size + 1 => do
      let elements ← readLoop vec size
      let x ← readAt outside vec size
      return elements ++ [x]

/-- Copy the elements at the positions below `size`. -/
def copyLoop (source target : List α) : ℕ → Except ε (List α)
  | 0 => .ok target
  | size + 1 => do
      let copied ← copyLoop source target size
      let x ← readAt outside source size
      writeAt outside copied size x

variable {vec source target : List α} {index size : ℕ}

theorem readAt_of_lt (h : index < vec.length) : readAt outside vec index = .ok vec[index] := by
  rw [readAt, List.getElem?_eq_getElem h]

theorem readAt_of_le (h : vec.length ≤ index) : readAt outside vec index = .error outside := by
  rw [readAt, List.getElem?_eq_none h]

theorem writeAt_of_lt (h : index < vec.length) (x : α) :
    writeAt outside vec index x = .ok (vec.set index x) :=
  if_pos h

theorem writeAt_of_le (h : vec.length ≤ index) (x : α) :
    writeAt outside vec index x = .error outside :=
  if_neg (by omega)

/-- Reading below the length of the vector stays inside. -/
theorem readLoop_of_le (h : size ≤ vec.length) :
    readLoop outside vec size = .ok (vec.take size) := by
  induction size with
  | zero => rw [readLoop, List.take_zero]
  | succ size ih =>
      have hsize : size < vec.length := h
      rw [readLoop, ih (by omega), readAt_of_lt outside hsize, ← List.take_append_getElem hsize]
      rfl

/-- Copying below the length of both vectors stays inside. -/
theorem copyLoop_of_le (hsource : size ≤ source.length) (htarget : size ≤ target.length) :
    copyLoop outside source target size = .ok (source.take size ++ target.drop size) := by
  induction size with
  | zero => rw [copyLoop, List.take_zero, List.drop_zero, List.nil_append]
  | succ size ih =>
      have hread : size < source.length := hsource
      have hwrite : size < target.length := htarget
      have hlength : (source.take size).length = size := by
        rw [List.length_take]
        omega
      have hinside : size < (source.take size ++ target.drop size).length := by
        rw [List.length_append, hlength, List.length_drop]
        omega
      have hset : (source.take size ++ target.drop size).set size source[size] =
          source.take (size + 1) ++ target.drop (size + 1) := by
        rw [List.set_append_right _ _ (by omega), hlength, Nat.sub_self,
          List.drop_eq_getElem_cons hwrite, List.set_cons_zero,
          ← List.take_append_getElem hread, List.append_assoc, List.singleton_append]
      rw [copyLoop, ih (by omega) (by omega)]
      simp only [bind, Except.bind, readAt_of_lt outside hread, writeAt_of_lt outside hinside, hset]

/-- Copying a whole vector onto one of the same length gives the vector. -/
theorem copyLoop_eq (hsource : source.length = size) (htarget : target.length = size) :
    copyLoop outside source target size = .ok source := by
  rw [copyLoop_of_le outside (Nat.le_of_eq hsource.symm) (Nat.le_of_eq htarget.symm),
    List.take_of_length_le (Nat.le_of_eq hsource),
    List.drop_of_length_le (Nat.le_of_eq htarget), List.append_nil]

/-- Reading a whole vector gives the vector. -/
theorem readLoop_eq (h : vec.length = size) : readLoop outside vec size = .ok vec := by
  rw [readLoop_of_le outside (Nat.le_of_eq h.symm), List.take_of_length_le (Nat.le_of_eq h)]

end M2Cell
