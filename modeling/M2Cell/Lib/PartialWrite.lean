import Mathlib.Data.PNat.Basic

/-!
# Writing in parts

A loop that writes a text with calls that each write some of it: at least one
byte, and not more than is left, or fail.  `calls k` says what the call number `k`
does.  The loop writes the whole text exactly when no call fails before the calls
ahead of it have written it (`returns_writeAll_iff`).

A call that succeeds is ready to write some bytes, never none, and what is written is cut at the
end of the text.  `ready k` adds up what the calls before the call `k` are ready to write, and it
grows with `k` (`ready_mono`).  With it the condition does not speak about the loop: the text is
written when the first failing call comes after enough was ready (`Completes`).  The statement
for any call and any number of bytes written (`returns_writeFrom_iff`) is the one that goes
through by induction.
-/

namespace M2Cell

namespace PartialWrite

variable (calls : ℕ → Option ℕ+) (length : ℕ)

/-- The bytes that a call is ready to write. -/
def chunk (k : ℕ) : ℕ :=
  match calls k with
  | some bytes => bytes
  | none => 0

/-- The bytes that the calls before the call `k` are ready to write. -/
def ready : ℕ → ℕ
  | 0 => 0
  | k + 1 => ready k + chunk calls k

/-- Go on with the call `k` after `written` bytes: the bytes that are written in the
end, and whether no call failed. -/
def writeFrom (written k : ℕ) : ℕ × Bool :=
  if written < length then
    match calls k with
    | some bytes => writeFrom (written + min (bytes : ℕ) (length - written)) (k + 1)
    | none => (written, false)
  else (written, true)
termination_by length - written
decreasing_by
  have hpos := bytes.pos
  omega

/-- Write a text of the given length. -/
def writeAll : ℕ × Bool := writeFrom calls length 0 0

/-- Every failing call comes after the text is written. -/
def Completes : Prop := ∀ k, calls k = none → length ≤ ready calls k

variable {calls length}

theorem ready_mono {k l : ℕ} (h : k ≤ l) : ready calls k ≤ ready calls l := by
  induction l with
  | zero =>
      have hk : k = 0 := by omega
      rw [hk]
  | succ l ih =>
      rcases Nat.lt_or_ge l k with hlt | hge
      · have hk : k = l + 1 := by omega
        rw [hk]
      · have hstep : ready calls l ≤ ready calls (l + 1) := Nat.le_add_right _ _
        exact (ih hge).trans hstep

/-- **The loop** from the call `k` on. -/
theorem returns_writeFrom_iff {written k : ℕ} (hwritten : written = min length (ready calls k)) :
    (writeFrom calls length written k).2 = true ↔
      ∀ l, k ≤ l → calls l = none → length ≤ ready calls l := by
  induction written, k using writeFrom.induct calls length with
  | case1 written k hlt bytes hcall ih =>
      have hready : ready calls (k + 1) = ready calls k + bytes := by
        simp only [ready, chunk, hcall]
      rw [writeFrom, if_pos hlt]
      simp only [hcall]
      rw [ih (by omega)]
      constructor
      · intro h l hle hnone
        have hne : l ≠ k := by
          rintro rfl
          rw [hcall] at hnone
          cases hnone
        exact h l (by omega) hnone
      · intro h l hle hnone
        exact h l (by omega) hnone
  | case2 written k hlt hcall =>
      rw [writeFrom, if_pos hlt]
      simp only [hcall, Bool.false_eq_true, false_iff]
      intro h
      have hle := h k (le_refl k) hcall
      omega
  | case3 written k hge =>
      rw [writeFrom, if_neg hge]
      refine iff_of_true rfl fun l hle _ => ?_
      have hmono : ready calls k ≤ ready calls l := ready_mono hle
      omega

theorem returns_writeAll_iff : (writeAll calls length).2 = true ↔ Completes calls length := by
  rw [writeAll, returns_writeFrom_iff (by simp [ready])]
  exact ⟨fun h k => h k (Nat.zero_le k), fun h k _ => h k⟩

theorem written_writeFrom_of_returns {written k : ℕ} (hle : written ≤ length)
    (h : (writeFrom calls length written k).2 = true) :
    (writeFrom calls length written k).1 = length := by
  induction written, k using writeFrom.induct calls length with
  | case1 written k hlt bytes hcall ih =>
      rw [writeFrom, if_pos hlt] at h ⊢
      simp only [hcall] at h ⊢
      exact ih (by omega) h
  | case2 written k hlt hcall =>
      rw [writeFrom, if_pos hlt] at h
      simp [hcall] at h
  | case3 written k hge =>
      rw [writeFrom, if_neg hge]
      show written = length
      omega

/-- A loop that returns has written everything. -/
theorem written_of_completes (h : Completes calls length) : (writeAll calls length).1 = length :=
  written_writeFrom_of_returns (Nat.zero_le length) (returns_writeAll_iff.mpr h)

end PartialWrite

end M2Cell
