import Mathlib.Data.List.Basic
import Mathlib.Data.List.Perm.Basic

/-!
# Ledgers

Items come in one after the other, and each of them is kept for later, given out, or
spent.  A ledger is the list of the items with what has become of each.  Giving out what
is kept (`give`) loses nothing and gives nothing twice: what is given and kept together
stays the same (`given_give`), and the items themselves do not change (`items_settle`).

Only what is kept can get a new fate, so a fate is settled once; a condition on the values says
which of the kept ones are meant (`settle`).  The lists of what is kept and given are in the order
in which the items came.  What is kept under another condition is untouched when nothing is kept
anew (`kept_settle`), which is how a program that keeps its items apart by a key is described.
-/

namespace M2Cell

/-- What has become of an item. -/
inductive Fate (β : Type*)
  | kept (value : β)
  | given (value : β)
  | spent

namespace Fate

variable {β : Type*}

/-- The value, unless it is spent. -/
def value? : Fate β → Option β
  | kept value => some value
  | given value => some value
  | spent => none

def given? : Fate β → Option β
  | given value => some value
  | _ => none

/-- The value that is kept and meets a condition. -/
def kept? (cond : β → Bool) : Fate β → Option β
  | kept value => if cond value then some value else none
  | _ => none

/-- A kept value that meets a condition gets a new fate. -/
def settle (cond : β → Bool) (become : β → Fate β) : Fate β → Fate β
  | kept value => if cond value then become value else kept value
  | fate => fate

end Fate

namespace Ledger

variable {α β : Type*}

/-- The kept values that meet a condition, the oldest first. -/
def kept (cond : β → Bool) (ledger : List (α × Fate β)) : List β :=
  ledger.filterMap fun entry => entry.2.kept? cond

/-- The values that are given out. -/
def given (ledger : List (α × Fate β)) : List β :=
  ledger.filterMap fun entry => entry.2.given?

/-- The values that are not spent, in the order in which they came. -/
def values (ledger : List (α × Fate β)) : List β :=
  ledger.filterMap fun entry => entry.2.value?

/-- Settle the fate of the kept values that meet a condition. -/
def settle (cond : β → Bool) (become : β → Fate β) (ledger : List (α × Fate β)) :
    List (α × Fate β) :=
  ledger.map fun entry => (entry.1, entry.2.settle cond become)

/-- Give out the kept values that meet a condition. -/
def give (cond : β → Bool) : List (α × Fate β) → List (α × Fate β) := settle cond .given

/-- Spend the kept values that meet a condition. -/
def spend (cond : β → Bool) : List (α × Fate β) → List (α × Fate β) := settle cond fun _ => .spent

variable (cond cond' : β → Bool) (become : β → Fate β) (ledger : List (α × Fate β))

/-! ## One entry more -/

theorem kept_concat (item : α) (fate : Fate β) :
    kept cond (ledger ++ [(item, fate)]) = kept cond ledger ++ (fate.kept? cond).toList := by
  unfold kept
  rw [List.filterMap_append]
  cases h : fate.kept? cond <;> simp [h]

theorem given_concat (item : α) (fate : Fate β) :
    given (ledger ++ [(item, fate)]) = given ledger ++ fate.given?.toList := by
  unfold given
  rw [List.filterMap_append]
  cases h : fate.given? <;> simp [h]

/-! ## Settling -/

theorem items_settle : (settle cond become ledger).map Prod.fst = ledger.map Prod.fst := by
  unfold settle
  rw [List.map_map]
  rfl

/-- What is kept under another condition stays, when nothing is kept anew. -/
theorem kept_settle (hbecome : ∀ value, (become value).kept? cond' = none) :
    kept cond' (settle cond become ledger) =
      kept (fun value => cond' value && !cond value) ledger := by
  unfold kept settle
  rw [List.filterMap_map]
  apply List.filterMap_congr
  rintro ⟨item, fate⟩ -
  cases fate with
  | kept value =>
      by_cases h : cond value = true
      · have hnone := hbecome value
        simpa [Fate.settle, Fate.kept?, h] using hnone
      · simp [Fate.settle, Fate.kept?, h]
  | given value => rfl
  | spent => rfl

theorem kept_give : kept cond' (give cond ledger) =
    kept (fun value => cond' value && !cond value) ledger :=
  kept_settle cond cond' _ ledger fun _ => rfl

theorem kept_spend : kept cond' (spend cond ledger) =
    kept (fun value => cond' value && !cond value) ledger :=
  kept_settle cond cond' _ ledger fun _ => rfl

theorem given_spend : given (spend cond ledger) = given ledger := by
  unfold given spend settle
  rw [List.filterMap_map]
  apply List.filterMap_congr
  rintro ⟨item, fate⟩ -
  cases fate with
  | kept value => by_cases h : cond value = true <;> simp [Fate.settle, Fate.given?, h]
  | given value => rfl
  | spent => rfl

/-- **Giving out** what is kept loses nothing and gives nothing twice. -/
theorem given_give : (given (give cond ledger)).Perm (given ledger ++ kept cond ledger) := by
  induction ledger with
  | nil => exact List.Perm.refl _
  | cons entry rest ih =>
      obtain ⟨item, fate⟩ := entry
      simp only [given, kept, give, settle, List.map_cons, List.filterMap_cons] at ih ⊢
      cases fate with
      | kept value =>
          by_cases h : cond value = true
          · simp only [Fate.settle, h, if_true, Fate.given?, Fate.kept?]
            exact (ih.cons value).trans List.perm_middle.symm
          · simp only [Fate.settle, h, Bool.false_eq_true, if_false, Fate.given?, Fate.kept?]
            exact ih
      | given value => exact ih.cons value
      | spent => exact ih

end Ledger

end M2Cell
