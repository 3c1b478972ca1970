import Mathlib.Data.List.GetD

/-!
# Lists of cells as heaps

A heap whose cells are never freed is a list; a pointer is a position in it.  A heap
`Keeps` another one up to a relation when every cell is still there and is related to
what it was.  What holds of a pointer's cell and is closed under the relation then
holds for good, whoever wrote to the heap meanwhile.

The relation is chosen by the program: it says what a write may do to a cell.  Then each write of
the program is shown to be one of these once (`keeps_set`, `keeps_modify`), an allocation keeps
everything (`keeps_append`), and a function that writes and allocates keeps the heap by
`Keeps.trans`.  Pointers that were valid stay so (`Keeps.lt_length`).
-/

namespace M2Cell

namespace Heap

variable {α : Type*} {R : α → α → Prop} {old new third : List α} {ptr : ℕ}

/-- Every cell of `old` is still there in `new`, up to `R`. -/
def Keeps (R : α → α → Prop) (old new : List α) : Prop :=
  ∀ (ptr : ℕ) (cell : α), old[ptr]? = some cell → ∃ cell', new[ptr]? = some cell' ∧ R cell cell'

theorem Keeps.refl (hrefl : ∀ cell, R cell cell) : Keeps R old old :=
  fun _ cell h => ⟨cell, h, hrefl cell⟩

theorem Keeps.trans (htrans : ∀ a b c, R a b → R b c → R a c) (hfirst : Keeps R old new)
    (hsecond : Keeps R new third) : Keeps R old third := by
  intro ptr cell h
  obtain ⟨cell', h', hrel⟩ := hfirst ptr cell h
  obtain ⟨cell'', h'', hrel'⟩ := hsecond ptr cell' h'
  exact ⟨cell'', h'', htrans _ _ _ hrel hrel'⟩

/-- A pointer stays within the heap. -/
theorem Keeps.lt_length (h : Keeps R old new) (hptr : ptr < old.length) : ptr < new.length := by
  obtain ⟨cell, hcell, -⟩ := h ptr old[ptr] (List.getElem?_eq_getElem hptr)
  exact (List.getElem?_eq_some_iff.mp hcell).1

theorem Keeps.length_le (h : Keeps R old new) : old.length ≤ new.length := by
  apply Nat.le_of_not_lt
  intro hlt
  exact Nat.lt_irrefl _ (h.lt_length hlt)

/-- Allocating keeps the cells. -/
theorem keeps_append (hrefl : ∀ cell, R cell cell) (fresh : List α) :
    Keeps R old (old ++ fresh) := by
  intro ptr cell h
  have hptr : ptr < old.length := (List.getElem?_eq_some_iff.mp h).1
  exact ⟨cell, by rw [List.getElem?_append_left hptr, h], hrefl cell⟩

/-- Writing to a cell keeps the others. -/
theorem keeps_modify (hrefl : ∀ cell, R cell cell) {f : α → α} (hf : ∀ cell, R cell (f cell))
    (ptr : ℕ) : Keeps R old (old.modify ptr f) := by
  intro other cell h
  rw [List.getElem?_modify, h]
  by_cases heq : ptr = other
  · exact ⟨f cell, by simp [heq], hf cell⟩
  · exact ⟨cell, by simp [heq], hrefl cell⟩

theorem keeps_set (hrefl : ∀ cell, R cell cell) {cell cell' : α} (hcell : old[ptr]? = some cell)
    (hrel : R cell cell') : Keeps R old (old.set ptr cell') := by
  intro other found h
  have hptr : ptr < old.length := (List.getElem?_eq_some_iff.mp hcell).1
  by_cases heq : ptr = other
  · subst heq
    rw [hcell, Option.some.injEq] at h
    subst h
    exact ⟨cell', List.getElem?_set_self hptr, hrel⟩
  · exact ⟨found, by rw [List.getElem?_set_ne heq, h], hrefl found⟩

end Heap

end M2Cell
