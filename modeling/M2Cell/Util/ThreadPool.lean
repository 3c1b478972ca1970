import M2Cell.Lib.Run
import Mathlib.Logic.Function.Basic

/-!
# The thread pool

The threads of a `ThreadPool` take their commands from one `CommandQueue`.  A thread
goes round the loop of `EventThread::_handleCmds`; it is at one of the points of
`PoolPoint`.  It leaves the loop after an END command, or after `leavePool` from within
the command that it runs; `finishup` then takes it out of `_pool`, once.

`ThreadPool::_resize` holds `_poolMutex` while it creates threads or puts an END command
on the queue, and it has read the target when it begins.  `resize` sets the target first
and calls `_resize` then, and `release` calls `_resize` after it has let the mutex go.

The commands that are queued are numbered.  An action of a thread that is not at its
point does nothing, and one that waits for the mutex does nothing while it is held.
-/

namespace M2Cell

/-- What is on the queue. -/
inductive PoolCmd
  /-- The command of `queEnd`. -/
  | msgEnd
  | cmd (id : ℕ)
  deriving DecidableEq, Repr

/-- How far a thread is.  `back` is the command in which it goes on after `release`. -/
inductive PoolPoint
  /-- At the condition of the loop. -/
  | looping
  /-- In `getCmd`. -/
  | waiting
  | holding (cmd : PoolCmd)
  /-- In the action of the command. -/
  | running (id : ℕ)
  /-- In `leavePool`, before `finishup`. -/
  | leaving (id : ℕ)
  /-- After the loop, before `finishup`. -/
  | closing
  /-- In `release`, before it takes the thread out of the pool. -/
  | releasing (back : Option ℕ)
  /-- In the `_resize` of `release`. -/
  | resizing (back : Option ℕ)
  | ended
  deriving DecidableEq, Repr

/-- A `PoolEventThread`. -/
structure PoolThread where
  point : PoolPoint
  eLoop : Bool
  /-- `_finishupOnce`. -/
  finishupOnce : Bool
  deriving DecidableEq, Repr

/-- A `_resize` that holds `_poolMutex`. -/
structure PoolHolder where
  target : ℕ
  /-- The thread whose `release` called it, if any. -/
  caller : Option ℕ
  deriving DecidableEq, Repr

/-- A `ThreadPool`, its queue and its threads. -/
structure ThreadPool where
  targetThrdCount : ℕ
  /-- `_pool`, with the numbers of the threads. -/
  pool : List ℕ
  poolMutex : Option PoolHolder
  /-- The calls of `resize` whose `_resize` has not begun. -/
  resizes : ℕ
  qu : List PoolCmd
  thread : ℕ → PoolThread
  /-- The number of threads that were created. -/
  created : ℕ
  /-- The number of commands that were queued. -/
  queued : ℕ
  /-- The commands whose action has begun. -/
  started : List ℕ
  /-- The commands whose action has returned. -/
  finished : List ℕ

/-- The steps of the pool. -/
inductive PoolAction
  | queCmd
  /-- `resize`, up to its `_resize`. -/
  | resize (targetThrdCount : ℕ)
  /-- The `_resize` of a `resize` begins. -/
  | beginResize
  /-- `_resize` creates a thread. -/
  | newPoolEventThread
  /-- `_resize` sends an END if there are too many threads, and returns. -/
  | endResize
  | checkLoop (thread : ℕ)
  | getCmd (thread : ℕ)
  | runAction (thread : ℕ)
  /-- The command of the thread calls `leavePool` of its thread, for the command `id`. -/
  | leavePool (thread id : ℕ)
  | finishup (thread : ℕ)
  | release (thread : ℕ)
  /-- The `_resize` of a `release` begins. -/
  | beginRelease (thread : ℕ)
  /-- The action of the thread's command returns. -/
  | finish (thread : ℕ)

namespace PoolPoint

/-- Where a thread goes on after `finishup`. -/
def after : Option ℕ → PoolPoint
  | none => .ended
  | some id => .running id

/-- The command that a thread has taken from the queue and not begun. -/
def held : PoolPoint → Option ℕ
  | .holding (.cmd id) => some id
  | _ => none

/-- The command in whose action the thread is. -/
def current : PoolPoint → Option ℕ
  | .running id => some id
  | .leaving id => some id
  | .releasing back => back
  | .resizing back => back
  | _ => none

/-- In `release`. -/
def releases : PoolPoint → Bool
  | .releasing _ => true
  | _ => false

/-- In the `_resize` of `release`. -/
def resizes : PoolPoint → Bool
  | .resizing _ => true
  | _ => false

end PoolPoint

namespace ThreadPool

/-- A pool that is made with a target; `newThreadPool` calls `_resize`. -/
def start (targetThrdCount : ℕ) : ThreadPool where
  targetThrdCount := targetThrdCount
  pool := []
  poolMutex := none
  resizes := 1
  qu := []
  thread _ := ⟨.ended, false, true⟩
  created := 0
  queued := 0
  started := []
  finished := []

/-- Write a thread. -/
def setThread (t : ℕ) (thread : PoolThread) (s : ThreadPool) : ThreadPool :=
  { s with thread := Function.update s.thread t thread }

/-- Move a thread. -/
def move (t : ℕ) (point : PoolPoint) (s : ThreadPool) : ThreadPool :=
  s.setThread t { s.thread t with point := point }

/-- `PoolEventThread::newPoolEventThread` and `run`. -/
def newPoolEventThread (s : ThreadPool) : ThreadPool :=
  { s.setThread s.created ⟨.looping, true, false⟩ with
    pool := s.pool ++ [s.created]
    created := s.created + 1 }

/-- `_resize` lets the mutex go, and the thread whose `release` called it goes on. -/
def unlock (caller : Option ℕ) (s : ThreadPool) : ThreadPool :=
  match caller with
  | none => { s with poolMutex := none }
  | some t =>
      match (s.thread t).point with
      | .resizing back => { s with poolMutex := none }.move t (.after back)
      | _ => { s with poolMutex := none }

/-- The end of `_resize`: an END command if there are too many threads. -/
def endResize (holder : PoolHolder) (s : ThreadPool) : ThreadPool :=
  if holder.target < s.pool.length then
    unlock holder.caller { s with qu := s.qu ++ [.msgEnd] }
  else s.unlock holder.caller

/-- `PoolEventThread::finishup`, up to `release`. -/
def finishup (t : ℕ) (back : Option ℕ) (s : ThreadPool) : ThreadPool :=
  if (s.thread t).finishupOnce then s.move t (.after back)
  else s.setThread t { s.thread t with finishupOnce := true, point := .releasing back }

/-- One step of the pool. -/
def step (s : ThreadPool) : PoolAction → ThreadPool
  | .queCmd => { s with qu := s.qu ++ [.cmd s.queued], queued := s.queued + 1 }
  | .resize targetThrdCount =>
      { s with targetThrdCount := targetThrdCount, resizes := s.resizes + 1 }
  | .beginResize =>
      if 0 < s.resizes ∧ s.poolMutex = none then
        { s with resizes := s.resizes - 1, poolMutex := some ⟨s.targetThrdCount, none⟩ }
      else s
  | .newPoolEventThread =>
      match s.poolMutex with
      | some holder => if s.pool.length < holder.target then s.newPoolEventThread else s
      | none => s
  | .endResize =>
      match s.poolMutex with
      | some holder => if s.pool.length < holder.target then s else s.endResize holder
      | none => s
  | .checkLoop t =>
      match (s.thread t).point with
      | .looping => s.move t (if (s.thread t).eLoop then .waiting else .closing)
      | _ => s
  | .getCmd t =>
      match (s.thread t).point, s.qu with
      | .waiting, cmd :: rest => { s with qu := rest }.move t (.holding cmd)
      | _, _ => s
  | .runAction t =>
      match (s.thread t).point with
      -- any thread may answer the command of `queEnd`
      | .holding .msgEnd => s.setThread t { s.thread t with eLoop := false, point := .looping }
      | .holding (.cmd id) => { s with started := s.started ++ [id] }.move t (.running id)
      | _ => s
  | .leavePool t id =>
      match (s.thread t).point with
      | .running current =>
          -- the loop ends in any case; `finishup` only comes when the command is the current one
          s.setThread t
            { s.thread t with
              eLoop := false
              point := if id = current then .leaving current else .running current }
      | _ => s
  | .finishup t =>
      match (s.thread t).point with
      | .leaving id => s.finishup t (some id)
      | .closing => s.finishup t none
      | _ => s
  | .release t =>
      match (s.thread t).point with
      | .releasing back =>
          if s.poolMutex = none then
            if t ∈ s.pool then { s with pool := s.pool.erase t }.move t (.resizing back)
            -- "thread not found": no `_resize`
            else s.move t (.after back)
          else s
      | _ => s
  | .beginRelease t =>
      match (s.thread t).point with
      | .resizing _ =>
          if s.poolMutex = none then { s with poolMutex := some ⟨s.targetThrdCount, some t⟩ }
          else s
      | _ => s
  | .finish t =>
      match (s.thread t).point with
      | .running id => { s with finished := s.finished ++ [id] }.move t .looping
      | _ => s

@[simp] theorem thread_setThread (t : ℕ) (thread : PoolThread) (s : ThreadPool) :
    (s.setThread t thread).thread t = thread :=
  Function.update_self ..

theorem thread_setThread_of_ne {t other : ℕ} (hne : other ≠ t) (thread : PoolThread)
    (s : ThreadPool) : (s.setThread t thread).thread other = s.thread other :=
  Function.update_of_ne hne ..

/-- Every thread of the pool waits at an empty queue, and no `resize` or `release` is
under way. -/
structure Quiescent (s : ThreadPool) : Prop where
  waiting : ∀ t ∈ s.pool, (s.thread t).point = .waiting
  empty : s.qu = []
  resizes : s.resizes = 0
  unlocked : s.poolMutex = none
  released : ∀ t < s.created, (s.thread t).point.releases = false ∧
    (s.thread t).point.resizes = false

/-- The pool has its target, and every command was begun once; its action has returned
once, or the command is in its action on a thread that is not in the pool any more. -/
structure Settled (s : ThreadPool) : Prop where
  size : s.pool.length = s.targetThrdCount
  started : ∀ id < s.queued, s.started.count id = 1
  finished : ∀ id < s.queued, s.finished.count id = 1 ∨
    s.finished.count id = 0 ∧ ∃ t, t ∉ s.pool ∧ (s.thread t).point.current = some id

end ThreadPool

end M2Cell
