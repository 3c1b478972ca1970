import Mathlib.Data.List.Basic
import Mathlib.Order.Lattice
import Mathlib.Order.MinMax

/-!
# High-water marks

A receiver of numbered messages keeps the largest number it has seen, its mark,
and takes a number only when it is above the mark.  A number that is not taken
leaves the mark alone.

The mark is the largest of everything seen: a number is above it when it is above
each of them (`mark_lt_iff`).  So the numbers taken are strictly increasing, in
whatever order the messages come (`taken_pairwise`), and the messages of other
senders change the decision exactly when one of them is not smaller
(`fresh_iff_of_own`).
-/

namespace M2Cell

namespace HighWater

variable {ν : Type*} [LinearOrder ν]

/-- The mark after a number. -/
def next (mark number : ν) : ν := if number ≤ mark then mark else number

/-- The mark after a list of numbers. -/
def mark (start : ν) (numbers : List ν) : ν := numbers.foldl next start

/-- The numbers that are taken. -/
def taken (start : ν) : List ν → List ν
  | [] => []
  | number :: rest =>
      if number ≤ start then taken start rest else number :: taken (next start number) rest

theorem next_eq_max (mark number : ν) : next mark number = max mark number := by
  unfold next
  split_ifs with h
  · exact (max_eq_left h).symm
  · exact (max_eq_right (le_of_not_ge h)).symm

theorem le_next (mark number : ν) : mark ≤ next mark number := by
  rw [next_eq_max]
  exact le_max_left mark number

@[simp] theorem mark_nil (start : ν) : mark start [] = start := rfl

@[simp] theorem mark_cons (start number : ν) (rest : List ν) :
    mark start (number :: rest) = mark (next start number) rest := rfl

theorem mark_append (start : ν) (first second : List ν) :
    mark start (first ++ second) = mark (mark start first) second :=
  List.foldl_append

/-- A number is above the mark when it is above the start and everything seen. -/
theorem mark_lt_iff (start : ν) (numbers : List ν) (number : ν) :
    mark start numbers < number ↔ start < number ∧ ∀ seen ∈ numbers, seen < number := by
  induction numbers generalizing start with
  | nil => simp
  | cons head rest ih =>
      rw [mark_cons, ih, next_eq_max, max_lt_iff, List.forall_mem_cons, and_assoc]

theorem le_mark (start : ν) (numbers : List ν) : start ≤ mark start numbers := by
  by_contra hlt
  exact lt_irrefl _ ((mark_lt_iff start numbers start).mp (not_le.mp hlt)).1

theorem mem_le_mark {start : ν} {numbers : List ν} {number : ν} (hmem : number ∈ numbers) :
    number ≤ mark start numbers := by
  by_contra hlt
  exact lt_irrefl _ (((mark_lt_iff start numbers number).mp (not_le.mp hlt)).2 number hmem)

/-- The mark is the start or one of the numbers seen. -/
theorem mark_mem (start : ν) (numbers : List ν) :
    mark start numbers = start ∨ mark start numbers ∈ numbers := by
  induction numbers generalizing start with
  | nil => exact Or.inl rfl
  | cons number rest ih =>
      rcases ih (next start number) with hsame | hmem
      · rw [mark_cons, hsame, next]
        split_ifs
        · exact Or.inl rfl
        · exact Or.inr List.mem_cons_self
      · exact Or.inr (List.mem_cons_of_mem _ hmem)

/-! ## What is taken -/

theorem lt_of_mem_taken {start number : ν} {numbers : List ν}
    (hmem : number ∈ taken start numbers) : start < number := by
  induction numbers generalizing start with
  | nil => cases hmem
  | cons head rest ih =>
      unfold taken at hmem
      split_ifs at hmem with hhead
      · exact ih hmem
      · rcases List.mem_cons.mp hmem with rfl | hrest
        · exact lt_of_not_ge hhead
        · exact lt_of_le_of_lt (le_next start head) (ih hrest)

/-- **The numbers taken are strictly increasing.** -/
theorem taken_pairwise (start : ν) (numbers : List ν) :
    (taken start numbers).Pairwise (· < ·) := by
  induction numbers generalizing start with
  | nil => exact List.Pairwise.nil
  | cons head rest ih =>
      unfold taken
      split_ifs with hhead
      · exact ih start
      · refine List.pairwise_cons.mpr ⟨?_, ih _⟩
        intro number hmem
        have hlt := lt_of_mem_taken hmem
        rwa [next, if_neg hhead] at hlt

/-! ## Several senders -/

section senders

variable {ι : Type*} (number? : ι → Option ν)

/-- The mark after messages of which some have no number. -/
theorem mark_filterMap_lt_iff (start : ν) (messages : List ι) (n : ν) :
    mark start (messages.filterMap number?) < n ↔
      start < n ∧ ∀ message ∈ messages, ∀ k, number? message = some k → k < n := by
  rw [mark_lt_iff]
  apply and_congr_right
  intro _
  constructor
  · intro h message hmem k hk
    exact h k (List.mem_filterMap.mpr ⟨message, hmem, hk⟩)
  · intro h k hk
    obtain ⟨message, hmem, hsome⟩ := List.mem_filterMap.mp hk
    exact h message hmem k hsome

variable (own : ι → Prop) [DecidablePred own]

/-- What is fresh among all messages is fresh among those of its own sender. -/
theorem own_fresh_of_fresh {start n : ν} {messages : List ι}
    (hall : mark start (messages.filterMap number?) < n) :
    mark start ((messages.filter (own ·)).filterMap number?) < n := by
  rw [mark_filterMap_lt_iff] at hall ⊢
  exact ⟨hall.1, fun message hmem => hall.2 message (List.mem_filter.mp hmem).1⟩

/-- **Interference.**  A number that is fresh among the messages of its own sender
is fresh among all messages exactly when those of the others are smaller. -/
theorem fresh_iff_of_own {start n : ν} {messages : List ι}
    (hown : mark start ((messages.filter (own ·)).filterMap number?) < n) :
    mark start (messages.filterMap number?) < n ↔
      ∀ message ∈ messages, ¬ own message → ∀ k, number? message = some k → k < n := by
  rw [mark_filterMap_lt_iff] at hown ⊢
  constructor
  · intro hall message hmem _
    exact hall.2 message hmem
  · intro hother
    refine ⟨hown.1, fun message hmem => ?_⟩
    by_cases hm : own message
    · exact hown.2 message (List.mem_filter.mpr ⟨hmem, decide_eq_true hm⟩)
    · exact hother message hmem hm

end senders

end HighWater

end M2Cell
