import M2Cell.Lib.Run
import Mathlib.Logic.Function.Basic
import Mathlib.Algebra.BigOperators.Group.Finset.Basic
import Mathlib.Algebra.Order.BigOperators.Group.Finset

/-!
# Mutexes that are taken in an order

Threads take mutexes and give them back, and check whether they hold them.  A mutex
remembers its holder: it is written after the mutex is taken and cleared before it is
given back, and the checks read it.

## The code

`LockCode` is code as far as mutexes go, and `LockCode.Runs` lists the operations of one
run of it: one branch of each `choice`, and any number of passes of each `loop`.  A
thread makes calls of such code one after the other (`LockCalls`).

Code fits an order when it takes a mutex only while those it has come before it, and its
checks are right when it runs alone (`LockCode.Fits`, which is decidable).  What fits has
runs that are `Ordered`, a property of the operations alone.

## The threads

A state says who owns each mutex, who is shown as its holder, and what each thread has
left to do.  The owner and the holder of a mutex differ for a moment when it is taken and
when it is given back, so a thread is in one of the three places of `ThreadOk`.  A step
keeps this for the thread that makes it, by one lemma for each operation
(`Sound.goOn` for the checks, `Sound.acquire`, `Sound.setHolder`, `Sound.clearHolder`,
`Sound.release`), and for the others because nothing that concerns them changes (`Same`).

* `Sound.run`: no check fails, in any run of any number of threads.
* `Sound.exists_canStep`: some thread can go on as long as one has something to do.  A
  thread that waits leads to the owner of the mutex, and from there to one that waits for
  a later mutex, until one does not wait.
* `Sound.completes`: with finitely many threads every run can be completed.
-/

namespace M2Cell

variable {M T : Type*}

/-! ## Code and its runs -/

/-- Code as far as mutexes are concerned. -/
inductive LockCode (M : Type*)
  | skip
  /-- Throw unless the thread is the holder. -/
  | checkHeld (m : M)
  /-- Throw when the thread is the holder. -/
  | checkNotHeld (m : M)
  /-- Take the mutex, and give it back at the end of the body. -/
  | guarded (m : M) (body : LockCode M)
  | seq (first second : LockCode M)
  | choice (one other : LockCode M)
  /-- Any number of passes. -/
  | loop (body : LockCode M)

/-- What is done in one step. -/
inductive LockOp (M : Type*)
  | checkHeld (m : M)
  | checkNotHeld (m : M)
  | acquire (m : M)
  | setHolder (m : M)
  | clearHolder (m : M)
  | release (m : M)

namespace LockCode

/-- The parts one after the other. -/
def block (parts : List (LockCode M)) : LockCode M := parts.foldr seq skip

/-- The code, or nothing. -/
def maybe (code : LockCode M) : LockCode M := .choice code .skip

/-- The operations of a run of the code. -/
inductive Runs : LockCode M → List (LockOp M) → Prop
  | skip : Runs .skip []
  | checkHeld (m : M) : Runs (.checkHeld m) [.checkHeld m]
  | checkNotHeld (m : M) : Runs (.checkNotHeld m) [.checkNotHeld m]
  | guarded (m : M) {body : LockCode M} {ops : List (LockOp M)} (h : Runs body ops) :
      Runs (.guarded m body)
        (.acquire m :: .setHolder m :: (ops ++ [.clearHolder m, .release m]))
  | seq {first second : LockCode M} {ops ops' : List (LockOp M)} (h : Runs first ops)
      (h' : Runs second ops') : Runs (.seq first second) (ops ++ ops')
  | one {one other : LockCode M} {ops : List (LockOp M)} (h : Runs one ops) :
      Runs (.choice one other) ops
  | other {one other : LockCode M} {ops : List (LockOp M)} (h : Runs other ops) :
      Runs (.choice one other) ops
  | done (body : LockCode M) : Runs (.loop body) []
  | pass {body : LockCode M} {ops ops' : List (LockOp M)} (h : Runs body ops)
      (h' : Runs (.loop body) ops') : Runs (.loop body) (ops ++ ops')

/-- The code can run when the thread holds the mutexes of the list. -/
def Fits (rank : M → ℕ) : LockCode M → List M → Prop
  | skip, _ => True
  | checkHeld m, held => m ∈ held
  | checkNotHeld m, held => m ∉ held
  | guarded m body, held => (∀ other ∈ held, rank other < rank m) ∧ body.Fits rank (m :: held)
  | seq first second, held => first.Fits rank held ∧ second.Fits rank held
  | choice one other, held => one.Fits rank held ∧ other.Fits rank held
  | loop body, held => body.Fits rank held

instance decidableFits [DecidableEq M] (rank : M → ℕ) :
    ∀ (code : LockCode M) (held : List M), Decidable (code.Fits rank held)
  | skip, _ => inferInstanceAs (Decidable True)
  | checkHeld m, held => inferInstanceAs (Decidable (m ∈ held))
  | checkNotHeld m, held => inferInstanceAs (Decidable (m ∉ held))
  | guarded m body, held =>
      have := decidableFits rank body (m :: held)
      inferInstanceAs (Decidable ((∀ other ∈ held, rank other < rank m) ∧
        body.Fits rank (m :: held)))
  | seq first second, held =>
      have := decidableFits rank first held
      have := decidableFits rank second held
      inferInstanceAs (Decidable (first.Fits rank held ∧ second.Fits rank held))
  | choice one other, held =>
      have := decidableFits rank one held
      have := decidableFits rank other held
      inferInstanceAs (Decidable (one.Fits rank held ∧ other.Fits rank held))
  | loop body, held => decidableFits rank body held

end LockCode

/-- Operations that are in order, for a thread that holds the mutexes of the list, the last
one first. -/
inductive Ordered (rank : M → ℕ) : List M → List (LockOp M) → Prop
  | done : Ordered rank [] []
  | lock {held : List M} {m : M} {ops : List (LockOp M)}
      (hrank : ∀ other ∈ held, rank other < rank m) (h : Ordered rank (m :: held) ops) :
      Ordered rank held (.acquire m :: .setHolder m :: ops)
  | unlock {held : List M} {m : M} {ops : List (LockOp M)} (h : Ordered rank held ops) :
      Ordered rank (m :: held) (.clearHolder m :: .release m :: ops)
  | checkHeld {held : List M} {m : M} {ops : List (LockOp M)} (hm : m ∈ held)
      (h : Ordered rank held ops) : Ordered rank held (.checkHeld m :: ops)
  | checkNotHeld {held : List M} {m : M} {ops : List (LockOp M)} (hm : m ∉ held)
      (h : Ordered rank held ops) : Ordered rank held (.checkNotHeld m :: ops)

variable {rank : M → ℕ} {held : List M}

/-- A run of fitting code is in order. -/
theorem LockCode.Fits.ordered {code : LockCode M} (h : code.Fits rank held)
    {ops : List (LockOp M)} (hruns : code.Runs ops) {rest : List (LockOp M)}
    (hrest : Ordered rank held rest) : Ordered rank held (ops ++ rest) := by
  induction hruns generalizing held rest with
  | skip => exact hrest
  | checkHeld m => exact .checkHeld h hrest
  | checkNotHeld m => exact .checkNotHeld h hrest
  | guarded m _ ih =>
      have hbody := ih h.2 (Ordered.unlock hrest)
      simp only [List.cons_append, List.append_assoc, List.nil_append]
      exact .lock h.1 hbody
  | seq _ _ ih ih' =>
      rw [List.append_assoc]
      exact ih h.1 (ih' h.2 hrest)
  | one _ ih => exact ih h.1 hrest
  | other _ ih => exact ih h.2 hrest
  | done body => exact hrest
  | pass _ _ ih ih' =>
      rw [List.append_assoc]
      exact ih h (ih' h hrest)

/-- Calls of code from a set, one after the other. -/
inductive LockCalls (entry : LockCode M → Prop) : List (LockOp M) → Prop
  | nil : LockCalls entry []
  | cons {code : LockCode M} {ops rest : List (LockOp M)} (hentry : entry code)
      (hruns : code.Runs ops) (hrest : LockCalls entry rest) : LockCalls entry (ops ++ rest)

theorem LockCalls.ordered {entry : LockCode M → Prop}
    (hentry : ∀ code, entry code → code.Fits rank []) {ops : List (LockOp M)}
    (h : LockCalls entry ops) : Ordered rank [] ops := by
  induction h with
  | nil => exact .done
  | cons hcode hruns _ ih => exact (hentry _ hcode).ordered hruns ih

/-! ## Threads -/

/-- The mutexes, and what the threads have left to do. -/
structure LockState (M T : Type*) where
  owner : M → Option T
  holder : M → Option T
  todo : T → List (LockOp M)
  /-- A check of the thread has thrown. -/
  failed : T → Bool

namespace LockState

/-- No mutex is taken. -/
def start (todo : T → List (LockOp M)) : LockState M T :=
  ⟨fun _ => none, fun _ => none, todo, fun _ => false⟩

section step

variable [DecidableEq M] [DecidableEq T]

/-- The thread goes on. -/
def next (s : LockState M T) (t : T) (ops : List (LockOp M)) : LockState M T :=
  { s with todo := Function.update s.todo t ops }

/-- A check of the thread throws. -/
def fail (s : LockState M T) (t : T) : LockState M T :=
  { s.next t [] with failed := Function.update s.failed t true }

/-- One step of a thread, which waits for a mutex that is taken. -/
def step (s : LockState M T) (t : T) : LockState M T :=
  match s.todo t with
  | [] => s
  | .checkHeld m :: ops => if s.holder m = some t then s.next t ops else s.fail t
  | .checkNotHeld m :: ops => if s.holder m = some t then s.fail t else s.next t ops
  | .acquire m :: ops =>
      if s.owner m = none then { s.next t ops with owner := Function.update s.owner m (some t) }
      else s
  | .setHolder m :: ops =>
      { s.next t ops with holder := Function.update s.holder m (some t) }
  | .clearHolder m :: ops => { s.next t ops with holder := Function.update s.holder m none }
  | .release m :: ops => { s.next t ops with owner := Function.update s.owner m none }

end step

/-- The thread has something to do, and does not wait. -/
def CanStep (s : LockState M T) (t : T) : Prop :=
  s.todo t ≠ [] ∧ ∀ m ops, s.todo t = .acquire m :: ops → s.owner m = none

/-! ## The invariant -/

section invariant

variable {s s' : LockState M T} {t other : T} {m : M} {ops : List (LockOp M)}

/-- The mutexes that the thread owns, and those of which it is the holder. -/
structure Holds (rank : M → ℕ) (s : LockState M T) (t : T) (owned shown : List M) : Prop where
  owner : ∀ m, s.owner m = some t ↔ m ∈ owned
  holder : ∀ m, s.holder m = some t ↔ m ∈ shown
  sorted : owned.Pairwise fun m other => rank other < rank m

/-- Where a thread is: between two operations, or within the taking or the giving back of
a mutex. -/
inductive ThreadOk (rank : M → ℕ) (s : LockState M T) (t : T) : Prop
  | rest (held : List M) (h : Holds rank s t held held) (hops : Ordered rank held (s.todo t))
  | taken (held : List M) (m : M) (ops : List (LockOp M)) (h : Holds rank s t (m :: held) held)
      (htodo : s.todo t = .setHolder m :: ops) (hops : Ordered rank (m :: held) ops)
  | leaving (held : List M) (m : M) (ops : List (LockOp M)) (h : Holds rank s t (m :: held) held)
      (htodo : s.todo t = .release m :: ops) (hops : Ordered rank held ops)

/-- All threads are so, and no check has failed. -/
structure Sound (rank : M → ℕ) (s : LockState M T) : Prop where
  threads : ∀ t, ThreadOk rank s t
  failed : ∀ t, s.failed t = false

theorem Holds.notMem (h : Holds rank s t (m :: held) held) : m ∉ held := fun hmem =>
  Nat.lt_irrefl _ (List.rel_of_pairwise_cons h.sorted hmem)

/-- The holder of a mutex owns it. -/
theorem ThreadOk.owner_of_holder (h : ThreadOk rank s t) (hholder : s.holder m = some t) :
    s.owner m = some t := by
  cases h with
  | rest held h hops => exact (h.owner m).mpr ((h.holder m).mp hholder)
  | taken held m' ops h htodo hops =>
      exact (h.owner m).mpr (List.mem_cons_of_mem _ ((h.holder m).mp hholder))
  | leaving held m' ops h htodo hops =>
      exact (h.owner m).mpr (List.mem_cons_of_mem _ ((h.holder m).mp hholder))

/-- What concerns a thread is unchanged. -/
structure Same (s s' : LockState M T) (t : T) : Prop where
  owner : ∀ m, s'.owner m = some t ↔ s.owner m = some t
  holder : ∀ m, s'.holder m = some t ↔ s.holder m = some t
  todo : s'.todo t = s.todo t

theorem Holds.of_same {owned shown : List M} (h : Holds rank s t owned shown)
    (hsame : Same s s' t) : Holds rank s' t owned shown :=
  ⟨fun m => (hsame.owner m).trans (h.owner m), fun m => (hsame.holder m).trans (h.holder m),
    h.sorted⟩

theorem ThreadOk.of_same (h : ThreadOk rank s t) (hsame : Same s s' t) : ThreadOk rank s' t := by
  cases h with
  | rest held h hops => exact .rest held (h.of_same hsame) (hsame.todo ▸ hops)
  | taken held m ops h htodo hops =>
      exact .taken held m ops (h.of_same hsame) (hsame.todo.trans htodo) hops
  | leaving held m ops h htodo hops =>
      exact .leaving held m ops (h.of_same hsame) (hsame.todo.trans htodo) hops

/-- At the start no thread has a mutex. -/
theorem sound_start {todo : T → List (LockOp M)} (htodo : ∀ t, Ordered rank [] (todo t)) :
    Sound rank (start todo) where
  threads t := .rest [] ⟨fun m => by simp [start], fun m => by simp [start], .nil⟩ (htodo t)
  failed _ := rfl

/-- Writing an entry that was not of the thread, and is not afterwards. -/
theorem update_eq_some_iff [DecidableEq M] {table : M → Option T} {entry : Option T}
    (hold : table m ≠ some other) (hnew : entry ≠ some other) (m' : M) :
    Function.update table m entry m' = some other ↔ table m' = some other := by
  by_cases hm : m' = m
  · subst hm
    rw [Function.update_self]
    exact iff_of_false hnew hold
  · rw [Function.update_of_ne hm]

theorem same_next [DecidableEq T] (s : LockState M T) (ops : List (LockOp M)) (hne : other ≠ t) :
    Same s (s.next t ops) other :=
  ⟨fun _ => Iff.rfl, fun _ => Iff.rfl, Function.update_of_ne hne ..⟩

/-- It is enough to look at the thread that has stepped. -/
theorem Sound.of_same (h : Sound rank s) (hthread : ThreadOk rank s' t)
    (hothers : ∀ other, other ≠ t → Same s s' other) (hfailed : s'.failed = s.failed) :
    Sound rank s' := by
  refine ⟨fun other => ?_, fun other => by rw [hfailed, h.failed other]⟩
  by_cases hne : other = t
  · rw [hne]
    exact hthread
  · exact (h.threads other).of_same (hothers other hne)

/-- An entry of one thread is not one of another. -/
theorem some_ne_of_ne (hne : other ≠ t) : some t ≠ some other := fun heq =>
  hne (Option.some.inj heq).symm

variable [DecidableEq M] [DecidableEq T]

/-- A check that is right. -/
theorem Sound.goOn (h : Sound rank s) (hholds : Holds rank s t held held)
    (hops : Ordered rank held ops) (hstep : s.step t = s.next t ops) :
    Sound rank (s.step t) := by
  rw [hstep]
  refine h.of_same (.rest held ⟨hholds.owner, hholds.holder, hholds.sorted⟩ ?_)
    (fun other hne => same_next s ops hne) rfl
  simp only [next, Function.update_self]
  exact hops

/-- A mutex that is free is taken; for one that is not the thread waits. -/
theorem Sound.acquire (h : Sound rank s) (hholds : Holds rank s t held held)
    (htodo : s.todo t = .acquire m :: .setHolder m :: ops)
    (hrank : ∀ other ∈ held, rank other < rank m) (hops : Ordered rank (m :: held) ops) :
    Sound rank (s.step t) := by
  by_cases hfree : s.owner m = none
  · have hstep : s.step t = { s.next t (.setHolder m :: ops) with
        owner := Function.update s.owner m (some t) } := by
      simp only [LockState.step, htodo, hfree, if_true]
    rw [hstep]
    have howner (m' : M) :
        Function.update s.owner m (some t) m' = some t ↔ m' ∈ m :: held := by
      by_cases hm : m' = m
      · subst hm
        simp
      · simp only [Function.update_of_ne hm, List.mem_cons, hm, false_or]
        exact hholds.owner m'
    have hothers (other : T) (hne : other ≠ t) (m' : M) :
        Function.update s.owner m (some t) m' = some other ↔ s.owner m' = some other := by
      refine update_eq_some_iff ?_ (some_ne_of_ne hne) m'
      rw [hfree]
      exact fun heq => by cases heq
    exact h.of_same (.taken held m ops
      ⟨howner, hholds.holder, List.pairwise_cons.mpr ⟨hrank, hholds.sorted⟩⟩
      (Function.update_self ..) hops)
      (fun other hne => ⟨hothers other hne, fun _ => Iff.rfl, Function.update_of_ne hne ..⟩) rfl
  · have hstep : s.step t = s := by simp only [LockState.step, htodo, if_neg hfree]
    rw [hstep]
    exact h

/-- The owner of a mutex is shown as its holder. -/
theorem Sound.setHolder (h : Sound rank s) (hholds : Holds rank s t (m :: held) held)
    (htodo : s.todo t = .setHolder m :: ops) (hops : Ordered rank (m :: held) ops) :
    Sound rank (s.step t) := by
  have howner := (hholds.owner m).mpr List.mem_cons_self
  have hstep : s.step t = { s.next t ops with
      holder := Function.update s.holder m (some t) } := by
    simp only [LockState.step, htodo]
  rw [hstep]
  have hholder (m' : M) :
      Function.update s.holder m (some t) m' = some t ↔ m' ∈ m :: held := by
    by_cases hm : m' = m
    · subst hm
      simp
    · simp only [Function.update_of_ne hm, List.mem_cons, hm, false_or]
      exact hholds.holder m'
  have hothers (other : T) (hne : other ≠ t) (m' : M) :
      Function.update s.holder m (some t) m' = some other ↔ s.holder m' = some other := by
    refine update_eq_some_iff (fun hholder => ?_) (some_ne_of_ne hne) m'
    -- another holder would own the mutex
    have hother := (h.threads other).owner_of_holder hholder
    rw [howner] at hother
    exact some_ne_of_ne hne hother
  refine h.of_same (.rest (m :: held) ⟨hholds.owner, hholder, hholds.sorted⟩ ?_)
    (fun other hne => ⟨fun _ => Iff.rfl, hothers other hne, Function.update_of_ne hne ..⟩) rfl
  simp only [next, Function.update_self]
  exact hops

/-- The holder of a mutex is shown no more. -/
theorem Sound.clearHolder (h : Sound rank s)
    (hholds : Holds rank s t (m :: held) (m :: held))
    (htodo : s.todo t = .clearHolder m :: .release m :: ops) (hops : Ordered rank held ops) :
    Sound rank (s.step t) := by
  have hmine := (hholds.holder m).mpr List.mem_cons_self
  have hnotMem : m ∉ held := fun hmem =>
    Nat.lt_irrefl _ (List.rel_of_pairwise_cons hholds.sorted hmem)
  have hstep : s.step t = { s.next t (.release m :: ops) with
      holder := Function.update s.holder m none } := by
    simp only [LockState.step, htodo]
  rw [hstep]
  have hholder (m' : M) : Function.update s.holder m none m' = some t ↔ m' ∈ held := by
    by_cases hm : m' = m
    · subst hm
      simp [hnotMem]
    · simp only [Function.update_of_ne hm]
      rw [hholds.holder m', List.mem_cons, or_iff_right hm]
  have hothers (other : T) (hne : other ≠ t) (m' : M) :
      Function.update s.holder m none m' = some other ↔ s.holder m' = some other := by
    refine update_eq_some_iff ?_ (fun heq => by cases heq) m'
    rw [hmine]
    exact some_ne_of_ne hne
  exact h.of_same (.leaving held m ops ⟨hholds.owner, hholder, hholds.sorted⟩
    (Function.update_self ..) hops)
    (fun other hne => ⟨fun _ => Iff.rfl, hothers other hne, Function.update_of_ne hne ..⟩) rfl

/-- A mutex is given back. -/
theorem Sound.release (h : Sound rank s) (hholds : Holds rank s t (m :: held) held)
    (htodo : s.todo t = .release m :: ops) (hops : Ordered rank held ops) :
    Sound rank (s.step t) := by
  have hmine := (hholds.owner m).mpr List.mem_cons_self
  have hstep : s.step t = { s.next t ops with
      owner := Function.update s.owner m none } := by
    simp only [LockState.step, htodo]
  rw [hstep]
  have howner (m' : M) : Function.update s.owner m none m' = some t ↔ m' ∈ held := by
    by_cases hm : m' = m
    · subst hm
      simp [hholds.notMem]
    · simp only [Function.update_of_ne hm]
      rw [hholds.owner m', List.mem_cons, or_iff_right hm]
  have hothers (other : T) (hne : other ≠ t) (m' : M) :
      Function.update s.owner m none m' = some other ↔ s.owner m' = some other := by
    refine update_eq_some_iff ?_ (fun heq => by cases heq) m'
    rw [hmine]
    exact some_ne_of_ne hne
  refine h.of_same (.rest held ⟨howner, hholds.holder, hholds.sorted.of_cons⟩ ?_)
    (fun other hne => ⟨hothers other hne, fun _ => Iff.rfl, Function.update_of_ne hne ..⟩) rfl
  simp only [next, Function.update_self]
  exact hops

/-- **A step of a thread** keeps the others as they are. -/
theorem Sound.step (h : Sound rank s) (t : T) : Sound rank (s.step t) := by
  cases h.threads t with
  | rest held hholds hops =>
      cases htodo : s.todo t with
      | nil =>
          have hstep : s.step t = s := by simp only [LockState.step, htodo]
          rw [hstep]
          exact h
      | cons op rest =>
          rw [htodo] at hops
          cases hops with
          | checkHeld hm hops =>
              have hholder := (hholds.holder _).mpr hm
              have hstep : s.step t = s.next t rest := by
                simp only [LockState.step, htodo, hholder, if_true]
              exact h.goOn hholds hops hstep
          | checkNotHeld hm hops =>
              have hholder := mt (hholds.holder _).mp hm
              have hstep : s.step t = s.next t rest := by
                simp only [LockState.step, htodo, if_neg hholder]
              exact h.goOn hholds hops hstep
          | lock hrank hops => exact h.acquire hholds htodo hrank hops
          | unlock hops => exact h.clearHolder hholds htodo hops
  | taken held m ops hholds htodo hops => exact h.setHolder hholds htodo hops
  | leaving held m ops hholds htodo hops => exact h.release hholds htodo hops

theorem Sound.run (h : Sound rank s) (ts : List T) : Sound rank (M2Cell.run LockState.step s ts) :=
  run_invariant (Sound rank) (fun _ t hs => hs.step t) h ts

end invariant

/-! ## Progress -/

section progress

variable {s : LockState M T} {t : T}

/-- Only taking a mutex waits. -/
theorem canStep_of_cons {op : LockOp M} {ops : List (LockOp M)} (htodo : s.todo t = op :: ops)
    (hop : ∀ m, op ≠ .acquire m) : s.CanStep t := by
  refine ⟨by simp [htodo], fun m ops' hnext => ?_⟩
  rw [htodo] at hnext
  exact absurd (List.cons.inj hnext).1 (hop m)

/-- A thread that waits for a mutex leads to one that can go on: the owner of the mutex
has something to do, and if it waits too, then for a mutex that comes later. -/
theorem Sound.exists_canStep_of_waits (h : Sound rank s) {bound : ℕ} (hbound : ∀ m, rank m ≤ bound)
    {m : M} {ops : List (LockOp M)} (hwaits : s.todo t = .acquire m :: ops) :
    ∃ other, s.CanStep other := by
  obtain ⟨distance, hdistance⟩ : ∃ distance, bound - rank m = distance := ⟨_, rfl⟩
  induction distance using Nat.strongRecOn generalizing t m ops with
  | ind distance ih =>
      cases howner : s.owner m with
      | none =>
          refine ⟨t, by simp [hwaits], fun m' ops' hnext => ?_⟩
          rw [hwaits] at hnext
          cases hnext
          exact howner
      | some other =>
          cases h.threads other with
          | taken held m' ops' hholds htodo hops =>
              exact ⟨other, canStep_of_cons htodo fun m heq => by cases heq⟩
          | leaving held m' ops' hholds htodo hops =>
              exact ⟨other, canStep_of_cons htodo fun m heq => by cases heq⟩
          | rest held hholds hops =>
              have hmem := (hholds.owner m).mp howner
              cases htodo : s.todo other with
              | nil =>
                  rw [htodo] at hops
                  cases hops
                  cases hmem
              | cons op rest =>
                  rw [htodo] at hops
                  cases hops with
                  | @lock _ m' ops' hrank hops =>
                      -- the owner waits for a later mutex
                      have hlt := hrank m hmem
                      have hle := hbound m'
                      exact ih (bound - rank m') (by omega) htodo rfl
                  | unlock hops =>
                      exact ⟨other, canStep_of_cons htodo fun m heq => by cases heq⟩
                  | checkHeld hm hops =>
                      exact ⟨other, canStep_of_cons htodo fun m heq => by cases heq⟩
                  | checkNotHeld hm hops =>
                      exact ⟨other, canStep_of_cons htodo fun m heq => by cases heq⟩

/-- **No deadlock**: some thread can go on as long as one has something to do. -/
theorem Sound.exists_canStep (h : Sound rank s) {bound : ℕ} (hbound : ∀ m, rank m ≤ bound)
    (hleft : s.todo t ≠ []) : ∃ other, s.CanStep other := by
  by_cases hwaits : ∃ m ops, s.todo t = .acquire m :: ops
  · obtain ⟨m, ops, htodo⟩ := hwaits
    exact h.exists_canStep_of_waits hbound htodo
  · exact ⟨t, hleft, fun m ops htodo => absurd ⟨m, ops, htodo⟩ hwaits⟩

/-- A thread that can go on has less to do afterwards. -/
theorem length_step_lt [DecidableEq M] [DecidableEq T] (h : s.CanStep t) :
    ((s.step t).todo t).length < (s.todo t).length := by
  cases htodo : s.todo t with
  | nil => exact absurd htodo h.1
  | cons op ops =>
      cases op with
      | acquire m =>
          have hfree := h.2 m ops htodo
          simp [step, htodo, hfree, next]
      | checkHeld m =>
          simp only [step, htodo]
          split_ifs <;> simp [next, fail]
      | checkNotHeld m =>
          simp only [step, htodo]
          split_ifs <;> simp [next, fail]
      | _ => simp [step, htodo, next]

/-- The other threads have as much to do as before. -/
theorem todo_step_of_ne [DecidableEq M] [DecidableEq T] {other : T} (hne : other ≠ t) :
    (s.step t).todo other = s.todo other := by
  simp only [step]
  split
  · rfl
  · split_ifs <;> exact Function.update_of_ne hne ..
  · split_ifs <;> exact Function.update_of_ne hne ..
  · split_ifs
    · exact Function.update_of_ne hne ..
    · rfl
  · exact Function.update_of_ne hne ..
  · exact Function.update_of_ne hne ..
  · exact Function.update_of_ne hne ..

/-- **Every run can be completed**, when there are finitely many threads. -/
theorem Sound.completes [DecidableEq M] [DecidableEq T] [Fintype T] (h : Sound rank s) {bound : ℕ}
    (hbound : ∀ m, rank m ≤ bound) :
    ∃ rest : List T, ∀ t, (M2Cell.run LockState.step s rest).todo t = [] := by
  obtain ⟨left, hleft⟩ : ∃ left, ∑ t, (s.todo t).length = left := ⟨_, rfl⟩
  induction left using Nat.strongRecOn generalizing s with
  | ind left ih =>
      by_cases hdone : ∀ t, s.todo t = []
      · exact ⟨[], hdone⟩
      · obtain ⟨t, ht⟩ := not_forall.mp hdone
        obtain ⟨other, hcan⟩ := h.exists_canStep hbound ht
        have hless : ∑ t, ((s.step other).todo t).length < ∑ t, (s.todo t).length := by
          refine Finset.sum_lt_sum (fun t _ => ?_) ⟨other, Finset.mem_univ _, length_step_lt hcan⟩
          by_cases hne : t = other
          · rw [hne]
            exact (length_step_lt hcan).le
          · rw [todo_step_of_ne hne]
        obtain ⟨rest, hrest⟩ := ih _ (hleft ▸ hless) (h.step other) rfl
        exact ⟨other :: rest, hrest⟩

/-- A thread that is done has given back what it took. -/
theorem Sound.owner_of_done (h : Sound rank s) (hdone : s.todo t = []) (m : M) :
    s.owner m ≠ some t := by
  cases h.threads t with
  | rest held hholds hops =>
      rw [hdone] at hops
      cases hops
      rw [Ne, hholds.owner m]
      exact List.not_mem_nil
  | taken held m' ops hholds htodo hops =>
      rw [hdone] at htodo
      cases htodo
  | leaving held m' ops hholds htodo hops =>
      rw [hdone] at htodo
      cases htodo

end progress

end LockState

end M2Cell
