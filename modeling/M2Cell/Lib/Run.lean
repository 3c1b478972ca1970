import Mathlib.Data.List.Basic

/-!
# Runs of a step function

A system is a step function `step : σ → α → σ`; a run is the list of the
operations it performs.  `run_invariant` lifts what every step preserves to
every run, and `run_latch` lifts what every step preserves *unless the operation
clears it*: such a fact holds until the first clearing operation, whatever comes
in between.

`Always` is a predicate on the pairs (state, operation) that a run goes through.
It states a condition on the steps of a run, and the rules below carry a fact
along under it.  `Sometime` says that one of the pairs meets it.
-/

namespace M2Cell

variable {σ α : Type*}

/-- The state after the operations `ops`, started in `s`. -/
def run (step : σ → α → σ) (s : σ) (ops : List α) : σ :=
  ops.foldl step s

/-- `cond` holds of every operation of the run and the state it starts in. -/
def Always (step : σ → α → σ) (cond : σ → α → Prop) : σ → List α → Prop
  | _, [] => True
  | s, op :: rest => cond s op ∧ Always step cond (step s op) rest

/-- `cond` holds of some operation of the run and the state it starts in. -/
def Sometime (step : σ → α → σ) (cond : σ → α → Prop) : σ → List α → Prop
  | _, [] => False
  | s, op :: rest => cond s op ∨ Sometime step cond (step s op) rest

variable {step : σ → α → σ}

@[simp] theorem run_nil (s : σ) : run step s [] = s := rfl

@[simp] theorem run_cons (s : σ) (op : α) (rest : List α) :
    run step s (op :: rest) = run step (step s op) rest := rfl

theorem run_append (s : σ) (first second : List α) :
    run step s (first ++ second) = run step (run step s first) second :=
  List.foldl_append

@[simp] theorem run_concat (s : σ) (ops : List α) (op : α) :
    run step s (ops ++ [op]) = step (run step s ops) op := by
  rw [run_append, run_cons, run_nil]

/-! ## Invariants -/

theorem run_invariant (inv : σ → Prop) (hstep : ∀ s op, inv s → inv (step s op)) {s : σ}
    (hs : inv s) (ops : List α) : inv (run step s ops) := by
  induction ops generalizing s with
  | nil => exact hs
  | cons op rest ih => exact ih (hstep s op hs)

/-- **Latching.**  Under an invariant, a fact that every operation keeps unless
it clears it holds after any run without a clearing operation. -/
theorem run_latch (inv held : σ → Prop) (clears : α → Prop)
    (hinv : ∀ s op, inv s → inv (step s op))
    (hstep : ∀ s op, inv s → ¬ clears op → held s → held (step s op)) {s : σ} (hs : inv s)
    (hheld : held s) {ops : List α} (hops : ∀ op ∈ ops, ¬ clears op) :
    held (run step s ops) := by
  induction ops generalizing s with
  | nil => exact hheld
  | cons op rest ih =>
      have hop : ¬ clears op := hops op List.mem_cons_self
      exact ih (hinv s op hs) (hstep s op hs hop hheld)
        fun other hother => hops other (List.mem_cons_of_mem _ hother)

/-! ## Abstraction -/

/-- A function under which every step is an abstract step maps runs to abstract runs. -/
theorem run_map {τ β : Type*} {absStep : τ → β → τ} (abs : σ → τ) (absOp : α → β)
    (hstep : ∀ s op, abs (step s op) = absStep (abs s) (absOp op)) (s : σ) (ops : List α) :
    abs (run step s ops) = run absStep (abs s) (ops.map absOp) := by
  induction ops generalizing s with
  | nil => rfl
  | cons op rest ih => rw [run_cons, ih, hstep, List.map_cons, run_cons]

/-! ## Conditions on the steps of a run -/

variable {cond : σ → α → Prop}

theorem always_append (s : σ) (first second : List α) :
    Always step cond s (first ++ second) ↔
      Always step cond s first ∧ Always step cond (run step s first) second := by
  induction first generalizing s with
  | nil => simp [Always]
  | cons op rest ih => simp [Always, ih, and_assoc]

/-- The condition at the operation that follows a prefix of the run. -/
theorem Always.at_split {s : σ} {first rest : List α} {op : α}
    (h : Always step cond s (first ++ op :: rest)) : cond (run step s first) op :=
  ((always_append s first (op :: rest)).mp h).2.1

/-- Two conditions at once. -/
theorem always_and {cond' : σ → α → Prop} (s : σ) (ops : List α) :
    Always step (fun s op => cond s op ∧ cond' s op) s ops ↔
      Always step cond s ops ∧ Always step cond' s ops := by
  induction ops generalizing s with
  | nil => simp [Always]
  | cons op rest ih => simp [Always, ih, and_and_and_comm]

/-- A run meets a condition when every split of it does. -/
theorem always_iff_split (s : σ) (ops : List α) :
    Always step cond s ops ↔
      ∀ first op rest, ops = first ++ op :: rest → cond (run step s first) op := by
  constructor
  · rintro h first op rest rfl
    exact h.at_split
  · intro h
    induction ops generalizing s with
    | nil => trivial
    | cons head tail ih =>
        refine ⟨h [] head tail rfl, ih (step s head) ?_⟩
        intro first op rest hsplit
        exact h (head :: first) op rest (by rw [hsplit, List.cons_append])

instance decidableAlways [∀ s op, Decidable (cond s op)] :
    ∀ (s : σ) (ops : List α), Decidable (Always step cond s ops)
  | _, [] => inferInstanceAs (Decidable True)
  | s, op :: rest =>
      have := decidableAlways (step s op) rest
      inferInstanceAs (Decidable (cond s op ∧ Always step cond (step s op) rest))

instance decidableSometime [∀ s op, Decidable (cond s op)] :
    ∀ (s : σ) (ops : List α), Decidable (Sometime step cond s ops)
  | _, [] => inferInstanceAs (Decidable False)
  | s, op :: rest =>
      have := decidableSometime (step s op) rest
      inferInstanceAs (Decidable (cond s op ∨ Sometime step cond (step s op) rest))

/-- Under an invariant of the run, the condition sometimes holds exactly when the
operations contain one that meets it in every state of the invariant. -/
theorem sometime_iff_exists (inv : σ → Prop) (late : α → Prop) {s : σ} (hs : inv s)
    {ops : List α} (hstep : ∀ s, ∀ op ∈ ops, inv s → inv (step s op))
    (hcond : ∀ s, ∀ op ∈ ops, inv s → (cond s op ↔ late op)) :
    Sometime step cond s ops ↔ ∃ op ∈ ops, late op := by
  induction ops generalizing s with
  | nil => simp [Sometime]
  | cons op rest ih =>
      have hrest := ih (hstep s op List.mem_cons_self hs)
        (fun s other hother => hstep s other (List.mem_cons_of_mem _ hother))
        (fun s other hother => hcond s other (List.mem_cons_of_mem _ hother))
      rw [Sometime, hcond s op List.mem_cons_self hs, hrest, List.exists_mem_cons_iff]

/-- Under an invariant of the run, a condition that depends on the operation alone holds
of the run exactly when it holds of every operation. -/
theorem always_iff_forall (inv : σ → Prop) (good : α → Prop) {s : σ} (hs : inv s)
    (hstep : ∀ s op, inv s → inv (step s op)) (hcond : ∀ s op, inv s → (cond s op ↔ good op))
    (ops : List α) : Always step cond s ops ↔ ∀ op ∈ ops, good op := by
  induction ops generalizing s with
  | nil => simp [Always]
  | cons op rest ih => rw [Always, hcond s op hs, ih (hstep s op hs), List.forall_mem_cons]

/-- An invariant that every step keeps under the condition. -/
theorem Always.invariant (inv : σ → Prop)
    (hstep : ∀ s op, inv s → cond s op → inv (step s op)) {s : σ} (hs : inv s) {ops : List α}
    (h : Always step cond s ops) : inv (run step s ops) := by
  induction ops generalizing s with
  | nil => exact hs
  | cons op rest ih => exact ih (hstep s op hs h.1) h.2

/-- **A fact that every step keeps exactly under the condition** holds after every step
of the runs that meet the condition, and of no others. -/
theorem always_iff_of_step (inv : σ → Prop)
    (hstep : ∀ s op, inv s → (inv (step s op) ↔ cond s op)) {s : σ} (hs : inv s)
    (ops : List α) : Always step (fun s op => inv (step s op)) s ops ↔ Always step cond s ops := by
  induction ops generalizing s with
  | nil => exact Iff.rfl
  | cons op rest ih =>
      constructor
      · intro h
        have hcond := (hstep s op hs).mp h.1
        exact ⟨hcond, (ih h.1).mp h.2⟩
      · intro h
        have hnext := (hstep s op hs).mpr h.1
        exact ⟨hnext, (ih hnext).mpr h.2⟩

/-- A fact holds in every state of a run when it holds at first and after every step. -/
theorem forall_prefix_iff (inv : σ → Prop) (s : σ) (ops : List α) :
    (∀ first rest, ops = first ++ rest → inv (run step s first)) ↔
      inv s ∧ Always step (fun s op => inv (step s op)) s ops := by
  induction ops generalizing s with
  | nil =>
      constructor
      · intro h
        exact ⟨h [] [] rfl, trivial⟩
      · rintro ⟨hs, -⟩ first rest hsplit
        rw [(List.append_eq_nil_iff.mp hsplit.symm).1]
        exact hs
  | cons op rest ih =>
      constructor
      · intro h
        have hrest := (ih (step s op)).mp fun first others hsplit =>
          h (op :: first) others (by rw [hsplit, List.cons_append])
        exact ⟨h [] (op :: rest) rfl, hrest⟩
      · rintro ⟨hs, hrest⟩ first others hsplit
        cases first with
        | nil => exact hs
        | cons head first =>
            rw [List.cons_append, List.cons.injEq] at hsplit
            obtain ⟨rfl, hsplit⟩ := hsplit
            exact (ih (step s op)).mpr hrest first others hsplit

/-- A condition that implies another one under an invariant. -/
theorem Always.imp {cond' : σ → α → Prop} (inv : σ → Prop)
    (hstep : ∀ s op, inv s → cond s op → inv (step s op) ∧ cond' s op) {s : σ} (hs : inv s)
    {ops : List α} (h : Always step cond s ops) : Always step cond' s ops := by
  induction ops generalizing s with
  | nil => trivial
  | cons op rest ih =>
      obtain ⟨hnext, hcond⟩ := hstep s op hs h.1
      exact ⟨hcond, ih hnext h.2⟩

/-- A condition on a part of the state that steps on its own. -/
theorem always_map {τ : Type*} {absStep : τ → α → τ} (absCond : τ → α → Prop) (abs : σ → τ)
    (hstep : ∀ s op, abs (step s op) = absStep (abs s) op) (s : σ) (ops : List α) :
    Always step (fun s op => absCond (abs s) op) s ops ↔ Always absStep absCond (abs s) ops := by
  induction ops generalizing s with
  | nil => exact Iff.rfl
  | cons op rest ih => rw [Always, Always, ih, hstep]

/-! ## Outputs -/

section outputs

variable {β γ : Type*} {out : σ → α → Option β}

/-- The last output of a run in which some operations have one. -/
def lastOutput (step : σ → α → σ) (out : σ → α → Option β) : σ → List α → Option β
  | _, [] => none
  | s, op :: rest => (lastOutput step out (step s op) rest).or (out s op)

theorem lastOutput_concat (s : σ) (ops : List α) (op : α) :
    lastOutput step out s (ops ++ [op]) =
      (out (run step s ops) op).or (lastOutput step out s ops) := by
  induction ops generalizing s with
  | nil => simp [lastOutput]
  | cons head rest ih => rw [List.cons_append, lastOutput, ih, Option.or_assoc]; rfl

/-- Without a last output, no operation had one. -/
theorem always_of_lastOutput_eq_none {s : σ} {ops : List α} (h : lastOutput step out s ops = none) :
    Always step (fun s op => out s op = none) s ops := by
  induction ops generalizing s with
  | nil => trivial
  | cons op rest ih =>
      rw [lastOutput, Option.or_eq_none_iff] at h
      exact ⟨h.2, ih h.1⟩

/-- **A part of the state that only outputs write** is what the last output wrote. -/
theorem view_run (view : σ → γ) (write : β → γ)
    (hstep : ∀ s op, view (step s op) = ((out s op).map write).getD (view s)) (s : σ)
    (ops : List α) :
    view (run step s ops) = ((lastOutput step out s ops).map write).getD (view s) := by
  induction ops generalizing s with
  | nil => rfl
  | cons op rest ih =>
      rw [run_cons, ih, hstep, lastOutput]
      cases lastOutput step out (step s op) rest <;> rfl

end outputs

/-! ## All outputs -/

section allOutputs

variable {β : Type*} (out : σ → α → List β)

/-- The outputs of a run, in order. -/
def outputs (step : σ → α → σ) (out : σ → α → List β) : σ → List α → List β
  | _, [] => []
  | s, op :: rest => out s op ++ outputs step out (step s op) rest

theorem outputs_concat (s : σ) (ops : List α) (op : α) :
    outputs step out s (ops ++ [op]) = outputs step out s ops ++ out (run step s ops) op := by
  induction ops generalizing s with
  | nil => simp [outputs]
  | cons head rest ih => rw [List.cons_append, outputs, ih, outputs, List.append_assoc, run_cons]

end allOutputs

end M2Cell
