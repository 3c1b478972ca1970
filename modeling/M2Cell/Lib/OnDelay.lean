import Mathlib.Algebra.Order.Group.Defs
import Mathlib.Algebra.Group.Basic
import Mathlib.Tactic.Common
import Mathlib.Order.Lattice

/-!
# On-delay timers

An on-delay timer reads an input from time to time.  Its output goes off with the
input, and comes on when the input has been high for longer than a delay.

A history is the list of the readings, newest first.  `SwitchedOn` says of a
history that the output is on after it, for a timer that starts with the output
on; `switchedOn_high` and `switchedOn_low` are its recursion, which an
implementation follows.
-/

namespace M2Cell.OnDelay

variable {K : Type*}

/-- The readings since the input went high, newest first. -/
def highs (history : List (K × Bool)) : List (K × Bool) := history.takeWhile Prod.snd

/-- When the input went high, if it is high. -/
def riseTime (history : List (K × Bool)) : Option K := (highs history).getLast?.map Prod.fst

@[simp] theorem highs_low (t : K) (history : List (K × Bool)) :
    highs ((t, false) :: history) = [] := rfl

@[simp] theorem highs_high (t : K) (history : List (K × Bool)) :
    highs ((t, true) :: history) = (t, true) :: highs history := rfl

theorem riseTime_high (t : K) (history : List (K × Bool)) :
    riseTime ((t, true) :: history) = some ((riseTime history).getD t) := by
  unfold riseTime
  rw [highs_high, List.getLast?_cons]
  cases (highs history).getLast? <;> rfl

variable [AddCommGroup K] [LinearOrder K]

/-- The output is on: the input was never low, or it has been high for longer than the delay. -/
def SwitchedOn (delay : K) (history : List (K × Bool)) : Prop :=
  (∀ reading ∈ history, reading.2 = true) ∨
    ∃ first last, riseTime history = some first ∧ (history.head?.map Prod.fst) = some last ∧
      delay < last - first

variable {delay t : K} {history : List (K × Bool)}

/-- With the input low the output is off. -/
theorem switchedOn_low : ¬ SwitchedOn delay ((t, false) :: history) := by
  rintro (hall | ⟨first, last, hfirst, -⟩)
  · exact absurd (hall _ List.mem_cons_self) (by simp)
  · simp [riseTime] at hfirst

/-- With the input high the output stays on, or comes on after the delay. -/
theorem switchedOn_high [IsOrderedAddMonoid K] (hle : ∀ reading ∈ history, reading.1 ≤ t) :
    SwitchedOn delay ((t, true) :: history) ↔
      SwitchedOn delay history ∨ delay < t - (riseTime history).getD t := by
  constructor
  · rintro (hall | ⟨first, last, hfirst, hlast, hdelay⟩)
    · exact Or.inl (Or.inl fun reading h => hall reading (List.mem_cons_of_mem _ h))
    · rw [riseTime_high, Option.some.injEq] at hfirst
      have hlast' : t = last := by simpa using hlast
      rw [hfirst, hlast']
      exact Or.inr hdelay
  · have hlate (h : delay < t - (riseTime history).getD t) :
        SwitchedOn delay ((t, true) :: history) :=
      Or.inr ⟨_, t, riseTime_high t history, rfl, h⟩
    rintro ((hall | ⟨first, last, hfirst, hlast, hdelay⟩) | hdelay)
    · refine Or.inl fun reading h => ?_
      obtain rfl | h := List.mem_cons.mp h
      · rfl
      · exact hall reading h
    · apply hlate
      rw [hfirst, Option.getD_some]
      cases history with
      | nil => simp at hlast
      | cons newest rest =>
          rw [List.head?_cons, Option.map_some, Option.some.injEq] at hlast
          have hnewest : last ≤ t := hlast ▸ hle newest List.mem_cons_self
          exact hdelay.trans_le (sub_le_sub_right hnewest first)
    · exact hlate hdelay

end M2Cell.OnDelay
