import Mathlib.Data.Set.Basic

/-!
# Change detection with a saved copy

A model has to agree with values that anybody may write.  Each value has a
watcher, which compares it with a saved copy.  When they differ it reports, which
makes the model agree with all values; then it saves the value.  These are
separate steps, and a write may come between any two of them.

`WatchStep` lists the steps under which no change is missed.  A write must not
come between a compare that found no difference, or a report, and the save, and
it must not restore the saved value.  Under these steps the model agrees with
the values, or some watcher still has something to report (`WatchStep.settles`).
-/

namespace M2Cell

/-- Where a watcher is: it has not compared, it found a change, it found none, or
it has reported the change. -/
inductive WatchPoint
  | idle
  | changed
  | unchanged
  | reported
  deriving DecidableEq, Repr

/-- A model of type `M` and the values of type `V` that are watched, with their
saved copies. -/
structure Watch (M ι V : Type*) where
  model : M
  value : ι → V
  saved : ι → V
  point : ι → WatchPoint

variable {M ι V : Type*} {agree : M → (ι → V) → Prop} {w w' : Watch M ι V}

namespace Watch

/-- The watcher of `i` has something to report, or will find it. -/
def Pending (w : Watch M ι V) (i : ι) : Prop :=
  w.point i = .changed ∨ w.point i = .idle ∧ w.value i ≠ w.saved i

/-- The model agrees with the values, or some watcher has something to report. -/
def Settles (agree : M → (ι → V) → Prop) (w : Watch M ι V) : Prop :=
  agree w.model w.value ∨ ∃ i, w.Pending i

/-- When all watchers are idle and every copy is up to date, nothing is pending. -/
theorem Settles.agree_of_quiet (h : w.Settles agree) (hidle : ∀ i, w.point i = .idle)
    (hsaved : ∀ i, w.saved i = w.value i) : agree w.model w.value := by
  rcases h with hagree | ⟨i, hchanged | ⟨-, hvalue⟩⟩
  · exact hagree
  · simp [hidle i] at hchanged
  · exact absurd (hsaved i).symm hvalue

end Watch

/-- The steps that miss no change. -/
inductive WatchStep (agree : M → (ι → V) → Prop) (w w' : Watch M ι V) : Prop
  /-- Somebody writes the value of `i`. -/
  | write (i : ι) (hmodel : w'.model = w.model) (hvalue : ∀ j, j ≠ i → w'.value j = w.value j)
      (hsaved : w'.saved = w.saved) (hpoint : w'.point = w.point)
      (htracks : w'.value i = w.value i ∨ w.point i = .changed ∨
        w.point i = .idle ∧ w'.value i ≠ w.saved i)
  /-- The model and the values are brought into agreement. -/
  | settle (hagree : agree w'.model w'.value)
  /-- The watcher of `i` compares. -/
  | compare (i : ι) (hmodel : w'.model = w.model) (hvalue : w'.value = w.value)
      (hsaved : w'.saved = w.saved) (hpoint : ∀ j, j ≠ i → w'.point j = w.point j)
      (hidle : w.point i = .idle)
      (hfound : w'.point i = .changed ∨ w'.point i = .unchanged ∧ w.value i = w.saved i)
  /-- The watcher of `i`, which does not have to report, saves the value. -/
  | save (i : ι) (hmodel : w'.model = w.model) (hvalue : w'.value = w.value)
      (hsaved : ∀ j, j ≠ i → w'.saved j = w.saved j) (hpoint : ∀ j, j ≠ i → w'.point j = w.point j)
      (hdone : w.point i = .unchanged ∨ w.point i = .reported)

/-- Doing nothing is a write of the value that is there. -/
theorem WatchStep.refl (i : ι) (w : Watch M ι V) : WatchStep agree w w :=
  .write i rfl (fun _ _ => rfl) rfl rfl (Or.inl rfl)

/-- A pending report stays pending when its watcher and its value are left alone. -/
theorem Watch.Pending.congr {i : ι} (h : w.Pending i) (hvalue : w'.value i = w.value i)
    (hsaved : w'.saved i = w.saved i) (hpoint : w'.point i = w.point i) : w'.Pending i := by
  unfold Pending
  rw [hvalue, hsaved, hpoint]
  exact h

/-- **No change is missed.** -/
theorem WatchStep.settles (h : WatchStep agree w w') (hw : w.Settles agree) :
    w'.Settles agree := by
  have hkeep (hmodel : w'.model = w.model) (hvalue : w'.value = w.value)
      (hpending : ∀ i, w.Pending i → w'.Pending i) : w'.Settles agree := by
    rcases hw with hagree | ⟨i, hi⟩
    · exact Or.inl (by rw [hmodel, hvalue]; exact hagree)
    · exact Or.inr ⟨i, hpending i hi⟩
  cases h with
  | write i hmodel hvalue hsaved hpoint htracks =>
      rcases htracks with hsame | hchanged | ⟨hidle, hdiffers⟩
      · have hall : w'.value = w.value := by
          funext j
          by_cases hj : j = i
          · rw [hj, hsame]
          · exact hvalue j hj
        apply hkeep hmodel hall
        intro j hj
        exact hj.congr (congrFun hall j) (congrFun hsaved j) (congrFun hpoint j)
      · -- the report is still to come
        exact Or.inr ⟨i, Or.inl (by rw [hpoint, hchanged])⟩
      · exact Or.inr ⟨i, Or.inr ⟨by rw [hpoint, hidle], by rw [hsaved]; exact hdiffers⟩⟩
  | settle hagree => exact Or.inl hagree
  | compare i hmodel hvalue hsaved hpoint hidle hfound =>
      apply hkeep hmodel hvalue
      intro j hj
      by_cases hji : j = i
      · subst hji
        rcases hfound with hchanged | ⟨-, hsame⟩
        · exact Or.inl hchanged
        · rcases hj with hchanged | ⟨-, hdiffers⟩
          · simp [hidle] at hchanged
          · exact absurd hsame hdiffers
      · exact hj.congr (congrFun hvalue j) (congrFun hsaved j) (hpoint j hji)
  | save i hmodel hvalue hsaved hpoint hdone =>
      apply hkeep hmodel hvalue
      intro j hj
      by_cases hji : j = i
      · subst hji
        rcases hj with hchanged | ⟨hidle, -⟩
        · rcases hdone with h | h <;> simp [hchanged] at h
        · rcases hdone with h | h <;> simp [hidle] at h
      · exact hj.congr (congrFun hvalue j) (hsaved j hji) (hpoint j hji)

end M2Cell
