import Mathlib.Data.BitVec
import Mathlib.Data.Fintype.Basic
import Mathlib.Tactic.Common

/-!
# Words of bits

Registers, ports and fault words are machine words that the code reads and
writes one bit at a time, and combines with masks.  This file gives the
single-bit view of a `BitVec w`: `bit` is the test `word & (1 << pos)`,
`writeBit` the assignment, `setBits` a run of assignments, and `Within` says
that one word has no bit outside another.

Positions are `Fin w`, so a position outside the word cannot be written.  Every
operator on words has one lemma that pushes `bit` through it; after `simp` a
question about words is a question about the Booleans at one position.
-/

namespace M2Cell.Word

variable {w : ℕ}

/-- The bit of `x` at `pos`, read with the mask `1 << pos`. -/
def bit (x : BitVec w) (pos : Fin w) : Bool :=
  (x &&& (1#w <<< pos.val)) != 0#w

/-- `x` with the bit at `pos` set when `set` is true, and cleared otherwise. -/
def writeBit (x : BitVec w) (pos : Fin w) (set : Bool) : BitVec w :=
  if set then x ||| (1#w <<< pos.val) else x &&& ~~~(1#w <<< pos.val)

/-- `x` with the bits at every position of `positions` set, one after the other. -/
def setBits (x : BitVec w) (positions : List (Fin w)) : BitVec w :=
  positions.foldl (fun word pos => writeBit word pos true) x

/-- Every bit of `x` is a bit of `y`. -/
def Within (x y : BitVec w) : Prop :=
  ∀ pos, bit x pos = true → bit y pos = true

instance (x y : BitVec w) : Decidable (Within x y) :=
  inferInstanceAs (Decidable (∀ pos, bit x pos = true → bit y pos = true))

/-! ## `bit` through the operators -/

theorem bit_eq_getLsbD (x : BitVec w) (pos : Fin w) : bit x pos = x.getLsbD pos := by
  have hmask : 1#w <<< pos.val = BitVec.twoPow w pos := rfl
  have hpos : BitVec.twoPow w pos.val ≠ 0#w := by
    intro h
    have := congrArg (fun word => word.getLsbD pos.val) h
    simp at this
  unfold bit
  rw [hmask, BitVec.and_twoPow]
  cases x.getLsbD pos.val <;> simp [hpos]

@[ext] theorem ext_bit {x y : BitVec w} (h : ∀ pos, bit x pos = bit y pos) : x = y := by
  apply BitVec.eq_of_getLsbD_eq
  intro i hi
  simpa only [bit_eq_getLsbD] using h ⟨i, hi⟩

@[simp] theorem bit_zero (pos : Fin w) : bit 0#w pos = false := by
  simp [bit_eq_getLsbD]

@[simp] theorem bit_or (x y : BitVec w) (pos : Fin w) :
    bit (x ||| y) pos = (bit x pos || bit y pos) := by
  simp [bit_eq_getLsbD]

@[simp] theorem bit_and (x y : BitVec w) (pos : Fin w) :
    bit (x &&& y) pos = (bit x pos && bit y pos) := by
  simp [bit_eq_getLsbD]

@[simp] theorem bit_xor (x y : BitVec w) (pos : Fin w) :
    bit (x ^^^ y) pos = (bit x pos ^^ bit y pos) := by
  simp [bit_eq_getLsbD]

@[simp] theorem bit_not (x : BitVec w) (pos : Fin w) : bit (~~~x) pos = !bit x pos := by
  simp [bit_eq_getLsbD]

@[simp] theorem bit_writeBit (x : BitVec w) (pos other : Fin w) (set : Bool) :
    bit (writeBit x pos set) other = if other = pos then set else bit x other := by
  have hmask : 1#w <<< pos.val = BitVec.twoPow w pos := rfl
  unfold writeBit
  rw [hmask]
  by_cases hother : other = pos
  · subst hother
    cases set <;> simp [bit_eq_getLsbD]
  · have hne : ¬ other.val = pos.val := by
      intro h
      exact hother (Fin.ext h)
    cases set <;> simp [bit_eq_getLsbD, hother, hne]

@[simp] theorem bit_setBits (x : BitVec w) (positions : List (Fin w)) (pos : Fin w) :
    bit (setBits x positions) pos = (bit x pos || decide (pos ∈ positions)) := by
  induction positions generalizing x with
  | nil => simp [setBits]
  | cons head rest ih =>
      have hstep : setBits x (head :: rest) = setBits (writeBit x head true) rest := rfl
      rw [hstep, ih, bit_writeBit]
      by_cases hhead : pos = head <;> simp [hhead]

/-- A narrower copy of a word, widened again, keeps the low bits only. -/
theorem bit_setWidth_setWidth (x : BitVec w) (narrow : ℕ) (pos : Fin w) :
    bit ((x.setWidth narrow).setWidth w) pos = (decide (pos.val < narrow) && bit x pos) := by
  simp [bit_eq_getLsbD, BitVec.getLsbD_setWidth]

/-! ## Masks -/

theorem eq_zero_iff_bit (x : BitVec w) : x = 0#w ↔ ∀ pos, bit x pos = false := by
  constructor
  · rintro rfl pos
    exact bit_zero pos
  · intro h
    ext pos
    rw [h pos, bit_zero]

theorem ne_zero_iff_bit (x : BitVec w) : x ≠ 0#w ↔ ∃ pos, bit x pos = true := by
  rw [Ne, eq_zero_iff_bit]
  simp

/-- Two words agree under a mask: their difference has no bit of it. -/
theorem xor_and_eq_zero_iff (x y mask : BitVec w) :
    (x ^^^ y) &&& mask = 0#w ↔ ∀ pos, bit mask pos = true → bit x pos = bit y pos := by
  rw [eq_zero_iff_bit]
  apply forall_congr'
  intro pos
  cases hmask : bit mask pos <;> cases hx : bit x pos <;> cases hy : bit y pos <;>
    simp [hmask, hx, hy]

namespace Within

variable {x y z : BitVec w}

theorem refl (x : BitVec w) : Within x x := fun _ h => h

theorem trans (hxy : Within x y) (hyz : Within y z) : Within x z :=
  fun pos h => hyz pos (hxy pos h)

theorem or_left (h : Within x y) (z : BitVec w) : Within x (y ||| z) := by
  intro pos hpos
  simp [h pos hpos]

theorem or_right (h : Within x z) (y : BitVec w) : Within x (y ||| z) := by
  intro pos hpos
  simp [h pos hpos]

/-- Clearing the same mask on both sides. -/
theorem and_congr (h : Within x y) (mask : BitVec w) : Within (x &&& mask) (y &&& mask) := by
  intro pos hpos
  simp only [bit_and, Bool.and_eq_true] at hpos ⊢
  exact ⟨h pos hpos.1, hpos.2⟩

end Within

end M2Cell.Word
