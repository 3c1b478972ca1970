import M2Cell.Lib.Run
import M2Cell.Telemetry.TItemVector

/-!
# Vectors stay inside

An item that was constructed with `n` elements holds a vector of `n` elements for as
long as it lives (`exists_holds_next`).  Every operation does to that vector what it is
for, except for an access with the index `n` itself: `setVal` and `getVal` compare with
`>` and let it through to `_vals` (`step_at_size`).

A read copies the vector and a write of all its values copies element by element, and
`Follows` says of each operation what becomes of the vector and what is returned.
`Holds.step` is this for an index other than `n`, and `always_opMeets_iff` carries it
through a run: every operation of the run meets its purpose exactly when none uses the
index `n`.
-/

namespace M2Cell

open TItemVector

variable {V D : Type} {lib : JsonLibrary D} {element : VectorElement V D} {n : ℕ}

namespace TItemVector

/-- The item `itemId` holds the elements of `vec`. -/
structure Holds (itemId : String) (item : TItemVector V) (vec : List.Vector V n) : Prop where
  id_eq : item.id = itemId
  size_eq : item.size = n
  vals_eq : item.vals = vec.toList

variable {itemId : String} {item : TItemVector V} {vec : List.Vector V n}

theorem Holds.length_eq (h : item.Holds itemId vec) : item.vals.length = n := by
  rw [h.vals_eq, vec.toList_length]

/-- A new item holds its default value `n` times. -/
theorem holds_new (defaultVal : V) :
    (new itemId n defaultVal).Holds itemId (List.Vector.replicate n defaultVal) :=
  ⟨rfl, rfl, rfl⟩

/-! ## The operations -/

/-- The loops over `_size` stay in `_vals`. -/
theorem Holds.getJson_eq (h : item.Holds itemId vec) :
    item.getJson element = .ok (jsonOf element itemId vec.toList) := by
  have hlength : item.vals.length = item.size := by rw [h.length_eq, h.size_eq]
  rw [getJson, readLoop_eq _ hlength, h.id_eq, h.vals_eq]
  rfl

theorem Holds.dump_eq (h : item.Holds itemId vec) :
    item.dump lib element = .ok (lib.dump (jsonOf element itemId vec.toList)) := by
  rw [dump, h.getJson_eq]
  rfl

/-- The item does what the operation on its vector does. -/
structure Follows (itemId : String) {β : Type}
    (result : TItemVector V × Except VectorFailure β)
    (expected : List.Vector V n × Except VectorFailure β) : Prop where
  holds : result.1.Holds itemId expected.1
  returned : result.2 = expected.2

theorem Holds.setVals (h : item.Holds itemId vec) (vals : List V) :
    Follows itemId (item.setVals lib element vals) (FixedVector.setVals vals vec) := by
  unfold TItemVector.setVals FixedVector.setVals
  by_cases hlength : vals.length = n
  · have htarget : item.vals.length = item.size := by rw [h.length_eq, h.size_eq]
    have hsource : vals.length = item.size := by rw [hlength, h.size_eq]
    rw [if_neg (not_not.mpr hsource), dif_pos hlength, copyLoop_eq _ hsource htarget]
    exact ⟨⟨h.id_eq, h.size_eq, rfl⟩, rfl⟩
  · have hsize : vals.length ≠ item.size := by rwa [h.size_eq]
    rw [if_pos hsize, dif_neg hlength, h.dump_eq]
    exact ⟨h, rfl⟩

theorem Holds.setVal (h : item.Holds itemId vec) {index : ℕ} (hindex : index ≠ n) (val : V) :
    Follows itemId (item.setVal index val) (FixedVector.setVal index val vec) := by
  unfold TItemVector.setVal FixedVector.setVal
  by_cases hlt : index < n
  · have hinside : index < item.vals.length := by rwa [h.length_eq]
    rw [if_neg (by rw [h.size_eq]; omega), dif_pos hlt, writeAt_of_lt _ hinside]
    exact ⟨⟨h.id_eq, h.size_eq, by rw [h.vals_eq, List.Vector.toList_set]⟩, rfl⟩
  · rw [if_pos (by rw [h.size_eq]; omega), dif_neg hlt]
    exact ⟨h, rfl⟩

theorem Holds.getVal_eq (h : item.Holds itemId vec) {index : ℕ} (hindex : index ≠ n) :
    item.getVal lib element index = FixedVector.getVal lib element itemId index vec := by
  unfold getVal FixedVector.getVal
  by_cases hlt : index < n
  · have hinside : index < item.vals.length := by rwa [h.length_eq]
    rw [if_neg (by rw [h.size_eq]; omega), dif_pos hlt, readAt_of_lt _ hinside,
      List.Vector.get_eq_get_toList]
    simp only [h.vals_eq, List.get_eq_getElem, Fin.val_cast]
  · rw [if_pos (by rw [h.size_eq]; omega), dif_neg hlt, h.dump_eq]
    rfl

theorem Holds.setFromJson (h : item.Holds itemId vec) (js : Json D) (idExpected : Bool) :
    Follows itemId (item.setFromJson lib element js idExpected)
      (FixedVector.setFromJson element itemId js idExpected vec) := by
  unfold TItemVector.setFromJson FixedVector.setFromJson
  rw [h.id_eq]
  split_ifs
  · exact ⟨h, rfl⟩
  · cases js.fetch itemId "array" (Json.toVector? element.ofJson) with
    | ok vals => exact h.setVals vals
    | error ex =>
        dsimp only
        split_ifs <;> exact ⟨h, rfl⟩

theorem Follows.ofStatus {result : TItemVector V × Except VectorFailure Bool}
    {expected : List.Vector V n × Except VectorFailure Bool} (h : Follows itemId result expected) :
    Follows itemId (VectorResult.ofStatus result : _ × Except VectorFailure (VectorResult V))
      (VectorResult.ofStatus expected) :=
  ⟨h.holds, congrArg (Except.map VectorResult.status) h.returned⟩

/-- **An operation** does what it is for, unless its index is the size of the vector. -/
theorem Holds.step (h : item.Holds itemId vec) {op : VectorOp V D} (hop : op.index? ≠ some n) :
    Follows itemId (item.step lib element op) (FixedVector.step lib element itemId vec op) := by
  cases op with
  | setVals vals => exact (h.setVals vals).ofStatus
  | setVal index val =>
      exact (h.setVal (fun hindex => hop (congrArg some hindex)) val).ofStatus
  | getVal index =>
      refine ⟨h, congrArg (Except.map VectorResult.val) ?_⟩
      exact h.getVal_eq fun hindex => hop (congrArg some hindex)
  | setFromJson js idExpected => exact (h.setFromJson js idExpected).ofStatus

/-- **The boundary.**  With the size as index, the element after the last one is accessed. -/
theorem Holds.step_at_size (h : item.Holds itemId vec) {op : VectorOp V D}
    (hop : op.index? = some n) : item.step lib element op = (item, .error .outOfBounds) := by
  have houtside : item.vals.length ≤ n := by rw [h.length_eq]
  cases op with
  | setVals vals => cases hop
  | setFromJson js idExpected => cases hop
  | setVal index val =>
      obtain rfl : index = n := Option.some.inj hop
      have hchecked : ¬ index > item.size := by rw [h.size_eq]; omega
      rw [TItemVector.step, TItemVector.setVal, if_neg hchecked, writeAt_of_le _ houtside]
      rfl
  | getVal index =>
      obtain rfl : index = n := Option.some.inj hop
      have hchecked : ¬ index > item.size := by rw [h.size_eq]; omega
      rw [TItemVector.step, getVal, if_neg hchecked, readAt_of_le _ houtside]
      rfl

/-- No operation is for an access outside. -/
theorem step_ne_outOfBounds {op : VectorOp V D} (hop : op.index? = some n) :
    (FixedVector.step lib element itemId vec op).2 ≠ .error .outOfBounds := by
  cases op with
  | setVals vals => cases hop
  | setFromJson js idExpected => cases hop
  | setVal index val =>
      obtain rfl : index = n := Option.some.inj hop
      rw [FixedVector.step, FixedVector.setVal, dif_neg (lt_irrefl index)]
      intro h
      cases h
  | getVal index =>
      obtain rfl : index = n := Option.some.inj hop
      rw [FixedVector.step, FixedVector.getVal, dif_neg (lt_irrefl index)]
      intro h
      cases h

/-! ## Runs -/

/-- An item of `n` elements keeps them, whatever operation comes next. -/
theorem exists_holds_next (op : VectorOp V D)
    (h : ∃ vec : List.Vector V n, item.Holds itemId vec) :
    ∃ vec : List.Vector V n, (item.next lib element op).Holds itemId vec := by
  obtain ⟨vec, hvec⟩ := h
  by_cases hop : op.index? = some n
  · rw [next, hvec.step_at_size hop]
    exact ⟨vec, hvec⟩
  · exact ⟨_, (hvec.step hop).holds⟩

variable (lib element n itemId) in
/-- The item has `n` elements, and the operation does to them what it is for: the item holds
the elements of a vector, and afterwards those of the vector that `FixedVector.step` gives. -/
def OpMeets (item : TItemVector V) (op : VectorOp V D) : Prop :=
  ∃ vec : List.Vector V n, item.Holds itemId vec ∧
    Follows itemId (item.step lib element op) (FixedVector.step lib element itemId vec op)

theorem opMeets_iff {op : VectorOp V D} (h : ∃ vec : List.Vector V n, item.Holds itemId vec) :
    OpMeets lib element n itemId item op ↔ op.index? ≠ some n := by
  constructor
  · rintro ⟨vec, hvec, hmeets⟩ hop
    have hreturned := hmeets.returned
    rw [hvec.step_at_size hop] at hreturned
    exact step_ne_outOfBounds hop hreturned.symm
  · intro hop
    obtain ⟨vec, hvec⟩ := h
    exact ⟨vec, hvec, hvec.step hop⟩

/-- **Bounds of vectors.**  In a run that starts with a new item of `n` elements, all
operations do what they are for, and stay in `_vals`, exactly when none of them has the
index `n`. -/
theorem always_opMeets_iff (lib : JsonLibrary D) (element : VectorElement V D) (itemId : String)
    (n : ℕ) (defaultVal : V) (ops : List (VectorOp V D)) :
    Always (next lib element) (OpMeets lib element n itemId) (new itemId n defaultVal) ops ↔
      ∀ op ∈ ops, op.index? ≠ some n := by
  have hnew : ∃ vec : List.Vector V n, (new itemId n defaultVal).Holds itemId vec :=
    ⟨_, holds_new defaultVal⟩
  exact always_iff_forall (fun item => ∃ vec : List.Vector V n, Holds itemId item vec)
    (fun op => op.index? ≠ some n) hnew (fun _ op h => exists_holds_next op h)
    (fun _ _ h => opMeets_iff h) ops

/-- Setting the element after the last one of three. -/
theorem not_opMeets_setVal_three :
    ¬ Always (next (JsonLibrary.listed []) (.double (JsonLibrary.listed [])))
      (OpMeets (JsonLibrary.listed []) (.double (JsonLibrary.listed [])) 3 "force")
      (new "force" 3 0) [.setVal 3 1] := by
  rintro ⟨⟨vec, hvec, hmeets⟩, -⟩
  have hreturned := hmeets.returned
  rw [hvec.step_at_size rfl] at hreturned
  exact step_ne_outOfBounds rfl hreturned.symm

end TItemVector

end M2Cell
