import M2Cell.Util.ThreadPool

/-!
# The limit of the thread pool

`_poolThreadCount` is the number of `PoolEventThread` objects.  A thread that leaves the
pool goes to the joiner, which joins one thread after the other; the object of a thread
goes when it was joined.

`leavePool()`, which a command calls on its own thread, waits while there are more threads
than `_maxThreadCount`, and lets `_mxPool` go before it leaves.  `_resize`, which creates
the threads, holds `_poolMutex` and does not look at the count.

`LimitedPool` has the pool of `M2Cell.Util.ThreadPool` as a field and adds the count, the limit
and the joiner.  A step of the pool is a step here (`poolStep`), unless the command of its thread
waits in `leavePool()`.  `release` hands the thread to the joiner in the step in which it takes
it out of the pool, and `resize` may raise the limit (`raisedMax`).  Which steps happen by
themselves, because a `_resize` is due, is said by `IsResize`.
-/

namespace M2Cell

namespace ThreadPool

/-- The thread whose command goes on with an action. -/
def goesOn : PoolAction → Option ℕ
  | .leavePool t _ => some t
  | .finish t => some t
  | _ => none

/-- The target of the `_resize` that holds the mutex, or 0. -/
def heldTarget (s : ThreadPool) : ℕ := (s.poolMutex.map PoolHolder.target).getD 0

/-- The `release` of the thread finds it in the pool. -/
def Erases (t : ℕ) (s : ThreadPool) : Prop :=
  (s.thread t).point.releases = true ∧ s.poolMutex = none ∧ t ∈ s.pool

instance (t : ℕ) (s : ThreadPool) : Decidable (s.Erases t) :=
  inferInstanceAs (Decidable (_ ∧ _ ∧ _))

end ThreadPool

/-- A `ThreadPool` with its limit and the joiner. -/
structure LimitedPool where
  pool : ThreadPool
  /-- `_poolThreadCount`. -/
  poolThreadCount : ℕ
  /-- `_maxThreadCount`. -/
  maxThreadCount : ℕ
  /-- The threads of the joiner, the one that it joins in front. -/
  joiner : List ℕ
  /-- The threads in `_waitIfAtMaxThreadPoolCount`. -/
  waiting : List ℕ

/-- The steps. -/
inductive LimitAction
  /-- A step of the pool. -/
  | pool (action : PoolAction)
  /-- The command of the thread calls `leavePool()` of its thread. -/
  | leavePool (thread : ℕ)
  /-- `_waitIfAtMaxThreadPoolCount` of the thread returns. -/
  | endWait (thread : ℕ)
  /-- The joiner joins its first thread and lets go of it. -/
  | join

namespace LimitedPool

/-- `newThreadPool`, up to its `_resize`. -/
def newThreadPool (thrdCount maxThreadCount : ℕ) : LimitedPool where
  pool := .start thrdCount
  poolThreadCount := 0
  maxThreadCount := maxThreadCount
  joiner := []
  waiting := []

/-- `_maxThreadCount` after `resize`. -/
def raisedMax (targetThrdCount : ℕ) (s : LimitedPool) : ℕ :=
  if s.maxThreadCount ≤ targetThrdCount then targetThrdCount + 1 else s.maxThreadCount

/-- A step of the pool. -/
def poolStep (s : LimitedPool) (action : PoolAction) : LimitedPool :=
  let moved := { s with pool := s.pool.step action }
  match action with
  | .resize targetThrdCount => { moved with maxThreadCount := s.raisedMax targetThrdCount }
  | .newPoolEventThread =>
      -- `_incrPoolThreadCount` of the constructor
      if s.pool.pool.length < s.pool.heldTarget then
        { moved with poolThreadCount := s.poolThreadCount + 1 }
      else moved
  | .release t => if s.pool.Erases t then { moved with joiner := s.joiner ++ [t] } else moved
  | _ => moved

/-- `leavePool()`, up to where it waits. -/
def leavePool (t : ℕ) (s : LimitedPool) : LimitedPool :=
  match (s.pool.thread t).point with
  | .running _ =>
      if t ∈ s.waiting then s
      else
        { s with
          pool := s.pool.setThread t { s.pool.thread t with eLoop := false }
          waiting := s.waiting ++ [t] }
  | _ => s

/-- The rest of `leavePool()`, for the command that runs. -/
def endWait (t : ℕ) (s : LimitedPool) : LimitedPool :=
  match (s.pool.thread t).point with
  | .running id =>
      if t ∈ s.waiting ∧ s.poolThreadCount ≤ s.maxThreadCount then
        { s with pool := s.pool.step (.leavePool t id), waiting := s.waiting.erase t }
      else s
  | _ => s

/-- A turn of `joinLoop`: it waits for the first thread, and drops the last pointer to it. -/
def join (s : LimitedPool) : LimitedPool :=
  match s.joiner with
  | [] => s
  | t :: rest =>
      if (s.pool.thread t).point = .ended then
        -- `_decrPoolThreadCount` of the destructor
        { s with joiner := rest, poolThreadCount := s.poolThreadCount - 1 }
      else s

/-- One step.  The command of a thread that waits in `leavePool()` does not go on. -/
def step (s : LimitedPool) : LimitAction → LimitedPool
  | .pool action =>
      if ∃ t ∈ ThreadPool.goesOn action, t ∈ s.waiting then s else s.poolStep action
  | .leavePool t => s.leavePool t
  | .endWait t => s.endWait t
  | .join => s.join

/-- The limit is kept. -/
def Limited (s : LimitedPool) : Prop := s.poolThreadCount ≤ s.maxThreadCount

instance (s : LimitedPool) : Decidable s.Limited := inferInstanceAs (Decidable (_ ≤ _))

end LimitedPool

/-- The steps of the `_resize` calls that are due: they begin, create threads and end. -/
def LimitAction.IsResize : LimitAction → Prop
  | .pool .beginResize => True
  | .pool .newPoolEventThread => True
  | .pool .endResize => True
  | .pool (.beginRelease _) => True
  | _ => False

end M2Cell
