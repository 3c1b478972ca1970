import M2Cell.Util.ThreadPool
import Mathlib.Data.Nat.Count

/-!
# The size of the thread pool and the runs of its commands

`PoolStep` lists what a step does, and the three parts of the invariant are proved from it.
`ThreadsInv` is about single threads: a thread that accepts commands has not been told
to stop, and a thread that has not been released is in the pool.  `SizeInv` ties the
threads above the target to the END commands on the queue and to the threads that are
on their way out: when no `_resize` is due or under way and the pool is too large,
there is one of them.  `OnceInv` counts where each command is: on the queue, with a
thread that has not begun it, or begun; and if it is begun, in its action or returned.

`settled_of_quiescent` is the statement about runs.
-/

namespace M2Cell

namespace PoolPoint

/-- The thread waits for a command, or has one that it has not begun. -/
def accepts : PoolPoint → Bool
  | .waiting => true
  | .holding _ => true
  | _ => false

/-- The thread is about to call `finishup`. -/
def stops : PoolPoint → Bool
  | .leaving _ => true
  | .closing => true
  | _ => false

end PoolPoint

namespace ThreadPool

open PoolPoint

variable {s : ThreadPool} {t : ℕ}

/-! ## Counting the members of a family -/

section count

variable {α : Type*} {p : α → Prop} [DecidablePred p]

theorem count_update_of_le (f : ℕ → α) {i n : ℕ} (h : n ≤ i) (a : α) :
    Nat.count (fun j => p (Function.update f i a j)) n = Nat.count (fun j => p (f j)) n := by
  induction n with
  | zero => rw [Nat.count_zero, Nat.count_zero]
  | succ n ih =>
      rw [Nat.count_succ, Nat.count_succ, ih (by omega), Function.update_of_ne (by omega)]

/-- A member that is changed counts as what it is now. -/
theorem count_update (f : ℕ → α) {i n : ℕ} (h : i < n) (a : α) :
    Nat.count (fun j => p (Function.update f i a j)) n + (if p (f i) then 1 else 0) =
      Nat.count (fun j => p (f j)) n + (if p a then 1 else 0) := by
  induction n with
  | zero => exact absurd h (Nat.not_lt_zero i)
  | succ n ih =>
      rw [Nat.count_succ, Nat.count_succ]
      rcases Nat.lt_succ_iff_lt_or_eq.mp h with hlt | heq
      · have hrest := ih hlt
        rw [Function.update_of_ne hlt.ne']
        omega
      · subst heq
        rw [count_update_of_le f le_rfl a, Function.update_self]
        omega

end count

/-! ## What a step does -/

/-- The steps of the pool that change something, each with what it relies on. -/
inductive PoolStep (s : ThreadPool) : ThreadPool → Prop
  | stay : PoolStep s s
  | queCmd : PoolStep s { s with qu := s.qu ++ [.cmd s.queued], queued := s.queued + 1 }
  | resize (target : ℕ) :
      PoolStep s { s with targetThrdCount := target, resizes := s.resizes + 1 }
  /-- A `_resize` locks the mutex and reads the target. -/
  | lock (resizes : ℕ) (caller : Option ℕ) :
      PoolStep s { s with resizes := resizes, poolMutex := some ⟨s.targetThrdCount, caller⟩ }
  | create (holder : PoolHolder) (hlocked : s.poolMutex = some holder) :
      PoolStep s s.newPoolEventThread
  | endResize (holder : PoolHolder) (hlocked : s.poolMutex = some holder)
      (hgrown : ¬ s.pool.length < holder.target) : PoolStep s (s.endResize holder)
  | waits (t : ℕ) (hpoint : (s.thread t).point = .looping) (heLoop : (s.thread t).eLoop = true) :
      PoolStep s (s.move t .waiting)
  | closes (t : ℕ) (hpoint : (s.thread t).point = .looping)
      (heLoop : (s.thread t).eLoop = false) : PoolStep s (s.move t .closing)
  | getCmd (t : ℕ) (cmd : PoolCmd) (rest : List PoolCmd)
      (hpoint : (s.thread t).point = .waiting) (hqu : s.qu = cmd :: rest) :
      PoolStep s ({ s with qu := rest }.move t (.holding cmd))
  /-- An END command runs. -/
  | ends (t : ℕ) (hpoint : (s.thread t).point = .holding .msgEnd) :
      PoolStep s (s.setThread t { s.thread t with eLoop := false, point := .looping })
  | starts (t id : ℕ) (hpoint : (s.thread t).point = .holding (.cmd id)) :
      PoolStep s ({ s with started := s.started ++ [id] }.move t (.running id))
  /-- `leavePool`, for the current command or for another one. -/
  | leaves (t current : ℕ) (point : PoolPoint) (hpoint : (s.thread t).point = .running current)
      (hafter : point = .leaving current ∨ point = .running current) :
      PoolStep s (s.setThread t { s.thread t with eLoop := false, point := point })
  | finishup (t : ℕ) (point : PoolPoint) (hpoint : (s.thread t).point = point)
      (hstops : point.stops = true) : PoolStep s (s.finishup t point.current)
  | erases (t : ℕ) (back : Option ℕ) (hpoint : (s.thread t).point = .releasing back) :
      PoolStep s ({ s with pool := s.pool.erase t }.move t (.resizing back))
  | notFound (t : ℕ) (back : Option ℕ) (hpoint : (s.thread t).point = .releasing back)
      (hmem : t ∉ s.pool) : PoolStep s (s.move t (.after back))
  | finish (t id : ℕ) (hpoint : (s.thread t).point = .running id) :
      PoolStep s ({ s with finished := s.finished ++ [id] }.move t .looping)

theorem poolStep_step (s : ThreadPool) (action : PoolAction) : PoolStep s (s.step action) := by
  cases action with
  | queCmd => exact .queCmd
  | resize target => exact .resize target
  | beginResize =>
      simp only [step]
      split_ifs
      · exact .lock (s.resizes - 1) none
      · exact .stay
  | newPoolEventThread =>
      simp only [step]
      split
      · rename_i holder hlocked
        split_ifs
        · exact .create holder hlocked
        · exact .stay
      · exact .stay
  | endResize =>
      simp only [step]
      split
      · rename_i holder hlocked
        split_ifs with hgrown
        · exact .stay
        · exact .endResize holder hlocked hgrown
      · exact .stay
  | checkLoop t =>
      simp only [step]
      split
      · rename_i hpoint
        split_ifs with heLoop
        · exact .waits t hpoint heLoop
        · exact .closes t hpoint (Bool.eq_false_iff.mpr heLoop)
      · exact .stay
  | getCmd t =>
      simp only [step]
      split
      · rename_i cmd rest hpoint hqu
        exact .getCmd t cmd rest hpoint hqu
      · exact .stay
  | runAction t =>
      simp only [step]
      split
      · rename_i hpoint
        exact .ends t hpoint
      · rename_i id hpoint
        exact .starts t id hpoint
      · exact .stay
  | leavePool t id =>
      simp only [step]
      split
      · rename_i current hpoint
        refine .leaves t current _ hpoint ?_
        split_ifs
        · exact Or.inl rfl
        · exact Or.inr rfl
      · exact .stay
  | finishup t =>
      simp only [step]
      split
      · rename_i id hpoint
        exact .finishup t (.leaving id) hpoint rfl
      · rename_i hpoint
        exact .finishup t .closing hpoint rfl
      · exact .stay
  | release t =>
      simp only [step]
      split
      · rename_i back hpoint
        -- a thread that is not in the pool releases nothing
        split_ifs with hunlocked hmem
        · exact .erases t back hpoint
        · exact .notFound t back hpoint hmem
        · exact .stay
      · exact .stay
  | beginRelease t =>
      simp only [step]
      split
      · split_ifs
        · exact .lock s.resizes (some t)
        · exact .stay
      · exact .stay
  | finish t =>
      simp only [step]
      split
      · rename_i id hpoint
        exact .finish t id hpoint
      · exact .stay

/-! ## Threads -/

/-- The thread is told to go on when it takes commands, is not told so when it leaves the
pool, and is in the pool until it is released. -/
structure ThreadOk (member : Prop) (thread : PoolThread) : Prop where
  accepting : thread.point.accepts = true → thread.eLoop = true
  stopped : thread.point.stops = true → thread.eLoop = false
  closed : thread.finishupOnce = true → thread.eLoop = false
  released : thread.point.releases = true → thread.finishupOnce = true
  member : thread.finishupOnce = false ∨ thread.point.releases = true → member

/-- All threads are so, and those that are not created have not begun. -/
structure ThreadsInv (s : ThreadPool) : Prop where
  ok : ∀ t, ThreadOk (t ∈ s.pool) (s.thread t)
  fresh : ∀ t, s.created ≤ t → (s.thread t).point = .ended

theorem threadsInv_start (targetThrdCount : ℕ) : ThreadsInv (start targetThrdCount) where
  ok t := by
    refine ⟨fun h => Bool.noConfusion h, fun _ => rfl, fun _ => rfl, fun _ => rfl, fun h => ?_⟩
    rcases h with h | h <;> exact Bool.noConfusion h
  fresh t _ := rfl

theorem ThreadsInv.lt_created (h : ThreadsInv s) {point : PoolPoint}
    (hpoint : (s.thread t).point = point) (hne : point ≠ .ended) : t < s.created := by
  by_contra hge
  exact hne (hpoint.symm.trans (h.fresh t (not_lt.mp hge)))

/-- A thread that is created is written. -/
theorem ThreadsInv.setThread (h : ThreadsInv s) (hlt : t < s.created) {thread : PoolThread}
    (hok : ThreadOk (t ∈ s.pool) thread) : ThreadsInv (s.setThread t thread) where
  ok u := by
    by_cases hu : u = t
    · rw [hu, thread_setThread]
      exact hok
    · rw [thread_setThread_of_ne hu]
      exact h.ok u
  fresh u hle := by
    have hu : u ≠ t := fun heq => absurd hle (not_le.mpr (heq ▸ hlt))
    rw [thread_setThread_of_ne hu]
    exact h.fresh u hle

/-- A thread that is told to go on has not been released. -/
theorem ThreadOk.once {member : Prop} {thread : PoolThread} (h : ThreadOk member thread)
    (heLoop : thread.eLoop = true) : thread.finishupOnce = false := by
  by_contra honce
  rw [h.closed (Bool.eq_true_of_not_eq_false honce)] at heLoop
  exact Bool.noConfusion heLoop

theorem ThreadOk.member_of {member : Prop} {thread : PoolThread} {point : PoolPoint}
    (h : ThreadOk member thread) (hreleases : point.releases = false)
    (hor : thread.finishupOnce = false ∨ point.releases = true) : member := by
  rw [hreleases] at hor
  exact h.member (Or.inl (hor.resolve_right Bool.false_ne_true))

/-- A thread goes on, and not to `release`. -/
theorem ThreadOk.move {member : Prop} {thread : PoolThread} {point : PoolPoint}
    (h : ThreadOk member thread) (haccepts : point.accepts = true → thread.eLoop = true)
    (hstops : point.stops = true → thread.eLoop = false) (hreleases : point.releases = false) :
    ThreadOk member { thread with point := point } where
  accepting := haccepts
  stopped := hstops
  closed := h.closed
  released hpoint := absurd (hreleases.symm.trans hpoint) Bool.false_ne_true
  member := h.member_of hreleases

/-- A thread is told to stop. -/
theorem ThreadOk.stop {member : Prop} {thread : PoolThread} {point : PoolPoint}
    (h : ThreadOk member thread) (haccepts : point.accepts = false)
    (hreleases : point.releases = false) :
    ThreadOk member { thread with eLoop := false, point := point } where
  accepting hpoint := absurd (haccepts.symm.trans hpoint) Bool.false_ne_true
  stopped _ := rfl
  closed _ := rfl
  released hpoint := absurd (hreleases.symm.trans hpoint) Bool.false_ne_true
  member := h.member_of hreleases

theorem ThreadOk.after {member : Prop} {thread : PoolThread} (h : ThreadOk member thread)
    (back : Option ℕ) : ThreadOk member { thread with point := .after back } := by
  cases back with
  | none => exact h.move Bool.noConfusion Bool.noConfusion rfl
  | some id => exact h.move Bool.noConfusion Bool.noConfusion rfl

/-- The thread leaves `finishup`. -/
theorem ThreadsInv.after (h : ThreadsInv s) {point : PoolPoint}
    (hpoint : (s.thread t).point = point) (hne : point ≠ .ended) (back : Option ℕ) :
    ThreadsInv (s.move t (.after back)) :=
  h.setThread (h.lt_created hpoint hne) ((h.ok t).after back)

theorem ThreadsInv.newPoolEventThread (h : ThreadsInv s) : ThreadsInv s.newPoolEventThread where
  ok u := by
    by_cases hu : u = s.created
    · have hthread : s.newPoolEventThread.thread u = ⟨.looping, true, false⟩ := by
        rw [hu]
        exact thread_setThread ..
      rw [hthread]
      refine ⟨fun _ => rfl, Bool.noConfusion, Bool.noConfusion, Bool.noConfusion, fun _ => ?_⟩
      rw [hu]
      exact List.mem_append_right _ (List.mem_singleton_self _)
    · have hthread : s.newPoolEventThread.thread u = s.thread u := thread_setThread_of_ne hu ..
      have hok := h.ok u
      rw [hthread]
      exact ⟨hok.accepting, hok.stopped, hok.closed, hok.released,
        fun hor => List.mem_append_left _ (hok.member hor)⟩
  fresh u hle := by
    have hu : u ≠ s.created := (Nat.lt_of_succ_le hle).ne'
    have hthread : s.newPoolEventThread.thread u = s.thread u := thread_setThread_of_ne hu ..
    rw [hthread]
    exact h.fresh u (Nat.le_of_succ_le hle)

theorem ThreadsInv.unlock (h : ThreadsInv s) (caller : Option ℕ) :
    ThreadsInv (s.unlock caller) := by
  have hunlocked : ThreadsInv { s with poolMutex := none } := ⟨h.ok, h.fresh⟩
  unfold ThreadPool.unlock
  split
  · exact hunlocked
  · split
    · rename_i hpoint
      exact hunlocked.after hpoint PoolPoint.noConfusion _
    · exact hunlocked

theorem ThreadsInv.endResize (h : ThreadsInv s) (holder : PoolHolder) :
    ThreadsInv (s.endResize holder) := by
  unfold ThreadPool.endResize
  split_ifs
  · have hsent : ThreadsInv { s with qu := s.qu ++ [.msgEnd] } := ⟨h.ok, h.fresh⟩
    exact hsent.unlock holder.caller
  · exact h.unlock holder.caller

theorem ThreadsInv.finishup (h : ThreadsInv s) (hstops : (s.thread t).point.stops = true)
    (back : Option ℕ) : ThreadsInv (s.finishup t back) := by
  have hlt : t < s.created := by
    refine h.lt_created rfl fun hended => ?_
    rw [hended] at hstops
    exact Bool.noConfusion hstops
  have hok := h.ok t
  unfold ThreadPool.finishup
  split_ifs with honce
  · exact h.setThread hlt (hok.after back)
  · rw [Bool.not_eq_true] at honce
    exact h.setThread hlt ⟨Bool.noConfusion, Bool.noConfusion, fun _ => hok.stopped hstops,
      fun _ => rfl, fun _ => hok.member (Or.inl honce)⟩

/-- `release` takes the thread out of the pool. -/
theorem ThreadsInv.release (h : ThreadsInv s) {back : Option ℕ}
    (hpoint : (s.thread t).point = .releasing back) :
    ThreadsInv ({ s with pool := s.pool.erase t }.move t (.resizing back)) where
  ok u := by
    by_cases hu : u = t
    · rw [hu]
      have hok := h.ok t
      have honce : (s.thread t).finishupOnce = true := hok.released (by rw [hpoint]; rfl)
      rw [ThreadPool.move, thread_setThread]
      refine ⟨Bool.noConfusion, Bool.noConfusion, hok.closed, Bool.noConfusion, fun hor => ?_⟩
      rw [honce] at hor
      rcases hor with hfalse | hfalse <;> exact Bool.noConfusion hfalse
    · have hok := h.ok u
      rw [ThreadPool.move, thread_setThread_of_ne hu]
      exact ⟨hok.accepting, hok.stopped, hok.closed, hok.released,
        fun hor => (List.mem_erase_of_ne hu).mpr (hok.member hor)⟩
  fresh u hle := by
    have hu : u ≠ t := by
      rintro rfl
      rw [h.fresh u hle] at hpoint
      exact PoolPoint.noConfusion hpoint
    rw [ThreadPool.move, thread_setThread_of_ne hu]
    exact h.fresh u hle

theorem ThreadsInv.step {s' : ThreadPool} (h : ThreadsInv s) (hstep : PoolStep s s') :
    ThreadsInv s' := by
  cases hstep with
  | stay => exact h
  | queCmd => exact ⟨h.ok, h.fresh⟩
  | resize => exact ⟨h.ok, h.fresh⟩
  | lock => exact ⟨h.ok, h.fresh⟩
  | create => exact h.newPoolEventThread
  | endResize holder => exact h.endResize holder
  | waits t hpoint heLoop =>
      refine h.setThread (h.lt_created hpoint PoolPoint.noConfusion) ?_
      exact (h.ok t).move (fun _ => heLoop) Bool.noConfusion rfl
  | closes t hpoint heLoop =>
      refine h.setThread (h.lt_created hpoint PoolPoint.noConfusion) ?_
      exact (h.ok t).move Bool.noConfusion (fun _ => heLoop) rfl
  | getCmd t cmd rest hpoint _ =>
      -- only a thread that goes on takes a command
      have hqu : ThreadsInv { s with qu := rest } := ⟨h.ok, h.fresh⟩
      have heLoop : (s.thread t).eLoop = true := (h.ok t).accepting (by rw [hpoint]; rfl)
      refine hqu.setThread (h.lt_created hpoint PoolPoint.noConfusion) ?_
      exact (h.ok t).move (fun _ => heLoop) Bool.noConfusion rfl
  | ends t hpoint =>
      exact h.setThread (h.lt_created hpoint PoolPoint.noConfusion) ((h.ok t).stop rfl rfl)
  | starts t id hpoint =>
      have hbegun : ThreadsInv { s with started := s.started ++ [id] } := ⟨h.ok, h.fresh⟩
      refine hbegun.setThread (h.lt_created hpoint PoolPoint.noConfusion) ?_
      exact (h.ok t).move Bool.noConfusion Bool.noConfusion rfl
  | leaves t current point hpoint hafter =>
      refine h.setThread (h.lt_created hpoint PoolPoint.noConfusion) ?_
      rcases hafter with rfl | rfl
      · exact (h.ok t).stop rfl rfl
      · exact (h.ok t).stop rfl rfl
  | finishup t point hpoint hstops =>
      subst hpoint
      exact h.finishup hstops _
  | erases t back hpoint => exact h.release hpoint
  | notFound t back hpoint _ => exact h.after hpoint PoolPoint.noConfusion back
  | finish t id hpoint =>
      have hdone : ThreadsInv { s with finished := s.finished ++ [id] } := ⟨h.ok, h.fresh⟩
      refine hdone.setThread (h.lt_created hpoint PoolPoint.noConfusion) ?_
      exact (h.ok t).move Bool.noConfusion Bool.noConfusion rfl

/-! ## The size of the pool -/

/-- The thread is on its way out of the pool. -/
def Ending (thread : PoolThread) : Prop :=
  thread.point = .holding .msgEnd ∨ (thread.eLoop = false ∧ thread.finishupOnce = false) ∨
    thread.point.releases = true

/-- There are too many threads, and an END command or a thread on its way out. -/
def Surplus (s : ThreadPool) : Prop :=
  s.targetThrdCount < s.pool.length ∧ (.msgEnd ∈ s.qu ∨ ∃ t, Ending (s.thread t))

/-- A `_resize` under way has read the target, or another one is to come; and when none is
under way or to come, the pool has its target or threads that will leave. -/
structure SizeInv (s : ThreadPool) : Prop where
  target : ∀ holder, s.poolMutex = some holder →
    0 < s.resizes ∨ holder.target = s.targetThrdCount
  settled : s.poolMutex = none → s.resizes = 0 →
    (∀ t < s.created, (s.thread t).point.resizes = false) →
      s.pool.length = s.targetThrdCount ∨ s.Surplus

theorem sizeInv_start (targetThrdCount : ℕ) : SizeInv (start targetThrdCount) where
  target _ h := absurd h.symm (Option.some_ne_none _)
  settled _ h := absurd h one_ne_zero

/-- A thread is written; if it is on its way out, it stays so. -/
theorem SizeInv.setThread (h : SizeInv s) {thread : PoolThread}
    (hresizes : (s.thread t).point.resizes = false)
    (hending : Ending (s.thread t) → Ending thread) : SizeInv (s.setThread t thread) where
  target := h.target
  settled hunlocked hdue hnone := by
    have hbefore (u : ℕ) (hu : u < s.created) : (s.thread u).point.resizes = false := by
      by_cases hut : u = t
      · rw [hut]
        exact hresizes
      · rw [← thread_setThread_of_ne hut thread s]
        exact hnone u hu
    refine (h.settled hunlocked hdue hbefore).imp id fun ⟨hlt, hor⟩ => ⟨hlt, hor.imp id ?_⟩
    rintro ⟨u, hu⟩
    by_cases hut : u = t
    · rw [hut] at hu
      refine ⟨t, ?_⟩
      rw [thread_setThread]
      exact hending hu
    · refine ⟨u, ?_⟩
      rw [thread_setThread_of_ne hut]
      exact hu

/-- A thread that neither holds an END command nor is in `release` is on its way out when
it is told to stop and not released yet. -/
theorem Ending.stopped {thread : PoolThread} (h : Ending thread)
    (hholding : thread.point ≠ .holding .msgEnd) (hreleases : thread.point.releases = false) :
    thread.eLoop = false ∧ thread.finishupOnce = false := by
  rcases h with hpoint | hstopped | hpoint
  · exact absurd hpoint hholding
  · exact hstopped
  · exact absurd (hreleases.symm.trans hpoint) Bool.false_ne_true

/-- A thread goes on with its flags as they are. -/
theorem SizeInv.move (h : SizeInv s) {point : PoolPoint} (hpoint : (s.thread t).point = point)
    (hresizes : point.resizes = false) (hholding : point ≠ .holding .msgEnd)
    (hreleases : point.releases = false) (after : PoolPoint) : SizeInv (s.move t after) := by
  subst hpoint
  exact h.setThread hresizes fun hending => Or.inr (Or.inl (hending.stopped hholding hreleases))

/-- A thread takes a command: an END command sends it on its way out. -/
theorem SizeInv.getCmd (h : SizeInv s) (hthreads : ThreadsInv s) {cmd : PoolCmd}
    {rest : List PoolCmd} (hpoint : (s.thread t).point = .waiting) (hqu : s.qu = cmd :: rest) :
    SizeInv ({ s with qu := rest }.move t (.holding cmd)) where
  target := h.target
  settled hunlocked hdue hnone := by
    have hbefore (u : ℕ) (hu : u < s.created) : (s.thread u).point.resizes = false := by
      by_cases hut : u = t
      · rw [hut, hpoint]
        rfl
      · have hafter := hnone u hu
        rwa [ThreadPool.move, thread_setThread_of_ne hut] at hafter
    refine (h.settled hunlocked hdue hbefore).imp id fun ⟨hlt, hor⟩ => ⟨hlt, ?_⟩
    rcases hor with hmem | ⟨u, hu⟩
    · -- the END command is the one that is taken, or it stays on the queue
      rw [hqu] at hmem
      rcases List.mem_cons.mp hmem with hcmd | hrest
      · refine Or.inr ⟨t, Or.inl ?_⟩
        rw [ThreadPool.move, thread_setThread, hcmd]
      · exact Or.inl hrest
    · -- a thread that waits is not on its way out
      refine Or.inr ⟨u, ?_⟩
      have hut : u ≠ t := by
        rintro rfl
        have hstopped := hu.stopped (by rw [hpoint]; exact PoolPoint.noConfusion)
          (by rw [hpoint]; rfl)
        have heLoop : (s.thread u).eLoop = true := (hthreads.ok u).accepting (by rw [hpoint]; rfl)
        rw [hstopped.1] at heLoop
        exact Bool.noConfusion heLoop
      rw [ThreadPool.move, thread_setThread_of_ne hut]
      exact hu

/-- What `_resize` leaves alone when it lets the mutex go. -/
theorem unlock_fields (caller : Option ℕ) :
    (s.unlock caller).pool = s.pool ∧ (s.unlock caller).poolMutex = none ∧
      (s.unlock caller).targetThrdCount = s.targetThrdCount ∧
      (s.unlock caller).resizes = s.resizes ∧ (s.unlock caller).qu = s.qu := by
  unfold ThreadPool.unlock
  split
  · exact ⟨rfl, rfl, rfl, rfl, rfl⟩
  · split <;> exact ⟨rfl, rfl, rfl, rfl, rfl⟩

/-- The `_resize` that returns leaves the pool at its target, or with an END command. -/
theorem SizeInv.endResize (h : SizeInv s) {holder : PoolHolder}
    (hlocked : s.poolMutex = some holder) (hgrown : ¬ s.pool.length < holder.target) :
    SizeInv (s.endResize holder) := by
  have hread (hdue : s.resizes = 0) : holder.target = s.targetThrdCount :=
    (h.target holder hlocked).resolve_left (by omega)
  unfold ThreadPool.endResize
  split_ifs with hlt
  · obtain ⟨hpool, hunlocked, htarget, hresizes, hqu⟩ :=
      unlock_fields (s := { s with qu := s.qu ++ [.msgEnd] }) holder.caller
    refine ⟨fun other hother => ?_, fun _ hdue _ => Or.inr ⟨?_, Or.inl ?_⟩⟩
    · exact absurd (hunlocked.symm.trans hother).symm (Option.some_ne_none other)
    · rw [hpool, htarget]
      exact (hread (hresizes.symm.trans hdue)).symm.trans_lt hlt
    · rw [hqu]
      exact List.mem_append_right _ (List.mem_singleton_self _)
  · obtain ⟨hpool, hunlocked, htarget, hresizes, -⟩ := unlock_fields (s := s) holder.caller
    refine ⟨fun other hother => ?_, fun _ hdue _ => Or.inl ?_⟩
    · exact absurd (hunlocked.symm.trans hother).symm (Option.some_ne_none other)
    · have htarget' := hread (hresizes.symm.trans hdue)
      rw [hpool, htarget]
      omega

theorem SizeInv.finishup (h : SizeInv s) {point : PoolPoint}
    (hpoint : (s.thread t).point = point) (hstops : point.stops = true) (back : Option ℕ) :
    SizeInv (s.finishup t back) := by
  have hresizes : point.resizes = false := by
    cases point <;> first | rfl | exact Bool.noConfusion hstops
  have hreleases : point.releases = false := by
    cases point <;> first | rfl | exact Bool.noConfusion hstops
  have hholding : point ≠ .holding .msgEnd := by
    rintro rfl
    exact Bool.noConfusion hstops
  unfold ThreadPool.finishup
  split_ifs
  · exact h.move hpoint hresizes hholding hreleases _
  · subst hpoint
    exact h.setThread hresizes fun _ => Or.inr (Or.inr rfl)

/-- A thread is taken out of the pool; its `_resize` is to come. -/
theorem SizeInv.release (h : SizeInv s) (hlt : t < s.created) (back : Option ℕ) :
    SizeInv ({ s with pool := s.pool.erase t }.move t (.resizing back)) where
  target := h.target
  settled _ _ hnone := by
    have hresizing := hnone t hlt
    rw [ThreadPool.move, thread_setThread] at hresizing
    exact Bool.noConfusion hresizing

/-- A `_resize` begins with the target as it is. -/
theorem SizeInv.begin {resizes : ℕ} (caller : Option ℕ) :
    SizeInv { s with resizes := resizes, poolMutex := some ⟨s.targetThrdCount, caller⟩ } where
  target _ hlocked := Or.inr (congrArg PoolHolder.target (Option.some.inj hlocked).symm)
  settled hunlocked := absurd hunlocked (Option.some_ne_none _)

theorem SizeInv.step {s' : ThreadPool} (h : SizeInv s) (hthreads : ThreadsInv s)
    (hstep : PoolStep s s') : SizeInv s' := by
  cases hstep with
  | stay => exact h
  | queCmd =>
      refine ⟨h.target, fun hunlocked hdue hnone => ?_⟩
      refine (h.settled hunlocked hdue hnone).imp id fun ⟨hlt, hor⟩ => ⟨hlt, hor.imp ?_ id⟩
      exact List.mem_append_left _
  | resize target =>
      refine ⟨fun _ _ => Or.inl (Nat.succ_pos _), fun _ hdue => ?_⟩
      exact absurd hdue (Nat.succ_ne_zero _)
  | lock _ caller => exact SizeInv.begin caller
  | create holder hlocked =>
      refine ⟨h.target, fun hunlocked => ?_⟩
      exact absurd (hlocked.symm.trans hunlocked) (Option.some_ne_none holder)
  | endResize holder hlocked hgrown => exact h.endResize hlocked hgrown
  | waits t hpoint _ => exact h.move hpoint rfl PoolPoint.noConfusion rfl _
  | closes t hpoint _ => exact h.move hpoint rfl PoolPoint.noConfusion rfl _
  | getCmd t cmd rest hpoint hqu => exact h.getCmd hthreads hpoint hqu
  | ends t hpoint =>
      have hok := hthreads.ok t
      have heLoop : (s.thread t).eLoop = true := hok.accepting (by rw [hpoint]; rfl)
      exact h.setThread (by rw [hpoint]; rfl) fun _ => Or.inr (Or.inl ⟨rfl, hok.once heLoop⟩)
  | starts t id hpoint =>
      have hbegun : SizeInv { s with started := s.started ++ [id] } := ⟨h.target, h.settled⟩
      exact hbegun.move hpoint rfl (by simp) rfl _
  | leaves t current point hpoint _ =>
      refine h.setThread (by rw [hpoint]; rfl) fun hending => Or.inr (Or.inl ⟨rfl, ?_⟩)
      have hstopped := hending.stopped (by rw [hpoint]; exact PoolPoint.noConfusion)
        (by rw [hpoint]; rfl)
      exact hstopped.2
  | finishup t point hpoint hstops => exact h.finishup hpoint hstops _
  | erases t back hpoint =>
      exact h.release (hthreads.lt_created hpoint PoolPoint.noConfusion) back
  | notFound t back hpoint hmem =>
      -- a thread that is released is in the pool until then
      refine absurd ((hthreads.ok t).member (Or.inr ?_)) hmem
      rw [hpoint]
      rfl
  | finish t id hpoint =>
      have hdone : SizeInv { s with finished := s.finished ++ [id] } := ⟨h.target, h.settled⟩
      exact hdone.move hpoint rfl PoolPoint.noConfusion rfl _

/-! ## The runs of the commands -/

/-- The threads that have the command and have not begun it. -/
def holders (id : ℕ) (s : ThreadPool) : ℕ :=
  Nat.count (fun t => (s.thread t).point.held = some id) s.created

/-- The threads in the action of the command. -/
def runners (id : ℕ) (s : ThreadPool) : ℕ :=
  Nat.count (fun t => (s.thread t).point.current = some id) s.created

/-- Each command is at one place. -/
structure OnceInv (s : ThreadPool) : Prop where
  queued : ∀ id, s.qu.count (.cmd id) + s.holders id + s.started.count id =
    if id < s.queued then 1 else 0
  running : ∀ id, s.runners id + s.finished.count id = s.started.count id

theorem onceInv_start (targetThrdCount : ℕ) : OnceInv (start targetThrdCount) where
  queued _ := rfl
  running _ := rfl

/-- How often a place for one command has the command. -/
def tally (id : ℕ) (place : Option ℕ) : ℕ := if place = some id then 1 else 0

@[simp] theorem tally_none (id : ℕ) : tally id none = 0 := if_neg (Option.some_ne_none id).symm

theorem count_concat (ids : List ℕ) (id other : ℕ) :
    (ids ++ [id]).count other = ids.count other + tally other (some id) := by
  simp only [List.count_append, List.count_singleton, tally, Option.some.injEq, beq_iff_eq]

theorem count_cmd_cons (cmd : PoolCmd) (rest : List PoolCmd) (id : ℕ) :
    (cmd :: rest).count (.cmd id) =
      rest.count (.cmd id) + tally id (PoolPoint.holding cmd).held := by
  cases cmd with
  | msgEnd => simp [held]
  | cmd other => simp [List.count_cons, held, tally]

theorem count_cmd_concat_msgEnd (qu : List PoolCmd) (id : ℕ) :
    (qu ++ [PoolCmd.msgEnd]).count (.cmd id) = qu.count (.cmd id) := by
  simp [List.count_append]

/-- A thread that is written counts as what it is now. -/
theorem holders_setThread (hlt : t < s.created) (thread : PoolThread) (id : ℕ) :
    (s.setThread t thread).holders id + tally id (s.thread t).point.held =
      s.holders id + tally id thread.point.held :=
  count_update (p := fun thread : PoolThread => thread.point.held = some id) s.thread hlt thread

theorem runners_setThread (hlt : t < s.created) (thread : PoolThread) (id : ℕ) :
    (s.setThread t thread).runners id + tally id (s.thread t).point.current =
      s.runners id + tally id thread.point.current :=
  count_update (p := fun thread : PoolThread => thread.point.current = some id) s.thread hlt thread

theorem holders_move (hlt : t < s.created) {before : PoolPoint}
    (hpoint : (s.thread t).point = before) (after : PoolPoint) (id : ℕ) :
    (s.move t after).holders id + tally id before.held = s.holders id + tally id after.held := by
  rw [← hpoint]
  exact holders_setThread hlt _ id

theorem runners_move (hlt : t < s.created) {before : PoolPoint}
    (hpoint : (s.thread t).point = before) (after : PoolPoint) (id : ℕ) :
    (s.move t after).runners id + tally id before.current =
      s.runners id + tally id after.current := by
  rw [← hpoint]
  exact runners_setThread hlt _ id

/-- A thread goes on with the command that it has. -/
theorem OnceInv.setThread (h : OnceInv s) (hlt : t < s.created) {before : PoolPoint}
    (hpoint : (s.thread t).point = before) {thread : PoolThread}
    (hheld : thread.point.held = before.held)
    (hcurrent : thread.point.current = before.current) : OnceInv (s.setThread t thread) where
  queued id := by
    have hcount := holders_setThread hlt thread id
    rw [hpoint, hheld, Nat.add_right_cancel_iff] at hcount
    rw [hcount]
    exact h.queued id
  running id := by
    have hcount := runners_setThread hlt thread id
    rw [hpoint, hcurrent, Nat.add_right_cancel_iff] at hcount
    rw [hcount]
    exact h.running id

theorem held_after (back : Option ℕ) : (PoolPoint.after back).held = none := by
  cases back <;> rfl

theorem current_after (back : Option ℕ) : (PoolPoint.after back).current = back := by
  cases back <;> rfl

/-- A command is queued. -/
theorem OnceInv.queCmd (h : OnceInv s) :
    OnceInv { s with qu := s.qu ++ [.cmd s.queued], queued := s.queued + 1 } where
  queued id := by
    have hold := h.queued id
    have hnew : (s.qu ++ [PoolCmd.cmd s.queued]).count (.cmd id) =
        s.qu.count (.cmd id) + tally id (some s.queued) := by
      simp [List.count_append, List.count_singleton, tally]
    show (s.qu ++ [PoolCmd.cmd s.queued]).count (.cmd id) + s.holders id + s.started.count id =
      if id < s.queued + 1 then 1 else 0
    rw [hnew]
    by_cases hid : s.queued = id
    · subst hid
      rw [if_neg (lt_irrefl _)] at hold
      rw [tally, if_pos rfl, if_pos (Nat.lt_succ_self _)]
      omega
    · rw [tally, if_neg fun heq => hid (Option.some.inj heq)]
      have hiff : id < s.queued + 1 ↔ id < s.queued := by omega
      simp only [hiff]
      omega
  running := h.running

theorem OnceInv.newPoolEventThread (h : OnceInv s) : OnceInv s.newPoolEventThread where
  queued id := by
    have hholders : s.newPoolEventThread.holders id = s.holders id := by
      rw [holders, ThreadPool.newPoolEventThread, Nat.count_succ]
      rw [if_neg (by rw [thread_setThread]; exact (Option.some_ne_none id).symm)]
      exact count_update_of_le (p := fun thread : PoolThread => thread.point.held = some id)
        s.thread le_rfl _
    rw [hholders]
    exact h.queued id
  running id := by
    have hrunners : s.newPoolEventThread.runners id = s.runners id := by
      rw [runners, ThreadPool.newPoolEventThread, Nat.count_succ]
      rw [if_neg (by rw [thread_setThread]; exact (Option.some_ne_none id).symm)]
      exact count_update_of_le (p := fun thread : PoolThread => thread.point.current = some id)
        s.thread le_rfl _
    rw [hrunners]
    exact h.running id

/-- A command goes from the queue to a thread. -/
theorem OnceInv.getCmd (h : OnceInv s) (hlt : t < s.created) {cmd : PoolCmd}
    {rest : List PoolCmd} (hpoint : (s.thread t).point = .waiting) (hqu : s.qu = cmd :: rest) :
    OnceInv ({ s with qu := rest }.move t (.holding cmd)) where
  queued id := by
    have hold := h.queued id
    have hcount : (s.move t (.holding cmd)).holders id + 0 = _ := holders_move hlt hpoint _ id
    show rest.count (.cmd id) + (s.move t (.holding cmd)).holders id + s.started.count id =
      if id < s.queued then 1 else 0
    rw [hqu, count_cmd_cons] at hold
    omega
  running id := by
    have hold := h.running id
    have hcount : (s.move t (.holding cmd)).runners id + 0 = s.runners id + 0 :=
      runners_move hlt hpoint _ id
    show (s.move t (.holding cmd)).runners id + s.finished.count id = s.started.count id
    omega

/-- The action of a command begins. -/
theorem OnceInv.runAction (h : OnceInv s) (hlt : t < s.created) {id : ℕ}
    (hpoint : (s.thread t).point = .holding (.cmd id)) :
    OnceInv ({ s with started := s.started ++ [id] }.move t (.running id)) where
  queued other := by
    have hold := h.queued other
    have hcount : (s.move t (.running id)).holders other + tally other (some id) =
        s.holders other + 0 := holders_move hlt hpoint _ other
    show s.qu.count (.cmd other) + (s.move t (.running id)).holders other +
      (s.started ++ [id]).count other = if other < s.queued then 1 else 0
    rw [count_concat]
    omega
  running other := by
    have hold := h.running other
    have hcount : (s.move t (.running id)).runners other + 0 =
        s.runners other + tally other (some id) := runners_move hlt hpoint _ other
    show (s.move t (.running id)).runners other + s.finished.count other =
      (s.started ++ [id]).count other
    rw [count_concat]
    omega

/-- The action of a command returns. -/
theorem OnceInv.finish (h : OnceInv s) (hlt : t < s.created) {id : ℕ}
    (hpoint : (s.thread t).point = .running id) :
    OnceInv ({ s with finished := s.finished ++ [id] }.move t .looping) where
  queued other := by
    have hold := h.queued other
    have hcount : (s.move t .looping).holders other + 0 = s.holders other + 0 :=
      holders_move hlt hpoint _ other
    show s.qu.count (.cmd other) + (s.move t .looping).holders other + s.started.count other =
      if other < s.queued then 1 else 0
    omega
  running other := by
    have hold := h.running other
    have hcount : (s.move t .looping).runners other + tally other (some id) =
        s.runners other + 0 := runners_move hlt hpoint _ other
    show (s.move t .looping).runners other + (s.finished ++ [id]).count other =
      s.started.count other
    rw [count_concat]
    omega

theorem OnceInv.unlock (h : OnceInv s) (hthreads : ThreadsInv s) (caller : Option ℕ) :
    OnceInv (s.unlock caller) := by
  have hunlocked : OnceInv { s with poolMutex := none } := ⟨h.queued, h.running⟩
  unfold ThreadPool.unlock
  split
  · exact hunlocked
  · split
    · rename_i back hpoint
      have hlt := hthreads.lt_created hpoint PoolPoint.noConfusion
      exact hunlocked.setThread hlt hpoint (held_after back) (current_after back)
    · exact hunlocked

theorem OnceInv.endResize (h : OnceInv s) (hthreads : ThreadsInv s) (holder : PoolHolder) :
    OnceInv (s.endResize holder) := by
  unfold ThreadPool.endResize
  split_ifs
  · have hsent : OnceInv { s with qu := s.qu ++ [.msgEnd] } := by
      refine ⟨fun id => ?_, h.running⟩
      show (s.qu ++ [PoolCmd.msgEnd]).count (.cmd id) + s.holders id + s.started.count id =
        if id < s.queued then 1 else 0
      rw [count_cmd_concat_msgEnd]
      exact h.queued id
    exact hsent.unlock ⟨hthreads.ok, hthreads.fresh⟩ holder.caller
  · exact h.unlock hthreads holder.caller

theorem OnceInv.finishup (h : OnceInv s) (hlt : t < s.created) {point : PoolPoint}
    (hpoint : (s.thread t).point = point) (hstops : point.stops = true) :
    OnceInv (s.finishup t point.current) := by
  have hheld : point.held = none := by
    cases point <;> first | rfl | exact Bool.noConfusion hstops
  unfold ThreadPool.finishup
  split_ifs
  · exact h.setThread hlt hpoint ((held_after _).trans hheld.symm) (current_after _)
  · exact h.setThread hlt hpoint hheld.symm rfl

theorem OnceInv.step {s' : ThreadPool} (h : OnceInv s) (hthreads : ThreadsInv s)
    (hstep : PoolStep s s') : OnceInv s' := by
  cases hstep with
  | stay => exact h
  | queCmd => exact h.queCmd
  | resize => exact ⟨h.queued, h.running⟩
  | lock => exact ⟨h.queued, h.running⟩
  | create => exact h.newPoolEventThread
  | endResize holder => exact h.endResize hthreads holder
  | waits t hpoint _ =>
      exact h.setThread (hthreads.lt_created hpoint PoolPoint.noConfusion) hpoint rfl rfl
  | closes t hpoint _ =>
      exact h.setThread (hthreads.lt_created hpoint PoolPoint.noConfusion) hpoint rfl rfl
  | getCmd t cmd rest hpoint hqu =>
      exact h.getCmd (hthreads.lt_created hpoint PoolPoint.noConfusion) hpoint hqu
  | ends t hpoint =>
      exact h.setThread (hthreads.lt_created hpoint PoolPoint.noConfusion) hpoint rfl rfl
  | starts t id hpoint =>
      exact h.runAction (hthreads.lt_created hpoint PoolPoint.noConfusion) hpoint
  | leaves t current point hpoint hafter =>
      have hlt := hthreads.lt_created hpoint PoolPoint.noConfusion
      rcases hafter with rfl | rfl
      · exact h.setThread hlt hpoint rfl rfl
      · exact h.setThread hlt hpoint rfl rfl
  | finishup t point hpoint hstops =>
      refine h.finishup (hthreads.lt_created hpoint ?_) hpoint hstops
      rintro rfl
      exact Bool.noConfusion hstops
  | erases t back hpoint =>
      have herased : OnceInv { s with pool := s.pool.erase t } := ⟨h.queued, h.running⟩
      exact herased.setThread (hthreads.lt_created hpoint PoolPoint.noConfusion) hpoint rfl rfl
  | notFound t back hpoint _ =>
      exact h.setThread (hthreads.lt_created hpoint PoolPoint.noConfusion) hpoint
        (held_after back) (current_after back)
  | finish t id hpoint =>
      exact h.finish (hthreads.lt_created hpoint PoolPoint.noConfusion) hpoint

/-! ## Runs -/

/-- What holds in every reachable state. -/
structure PoolInv (s : ThreadPool) : Prop where
  threads : ThreadsInv s
  size : SizeInv s
  once : OnceInv s

theorem poolInv_run (targetThrdCount : ℕ) (actions : List PoolAction) :
    PoolInv (run step (start targetThrdCount) actions) := by
  refine run_invariant PoolInv (fun s action h => ?_) ?_ actions
  · have hstep := poolStep_step s action
    exact ⟨h.threads.step hstep, h.size.step h.threads hstep, h.once.step h.threads hstep⟩
  · exact ⟨threadsInv_start _, sizeInv_start _, onceInv_start _⟩

theorem ThreadsInv.mem_pool_of_accepts (h : ThreadsInv s)
    (haccepts : (s.thread t).point.accepts = true) : t ∈ s.pool :=
  (h.ok t).member (Or.inl ((h.ok t).once ((h.ok t).accepting haccepts)))

/-- In a quiescent state no thread is on its way out of the pool. -/
theorem Quiescent.not_ending (hquiescent : s.Quiescent) (h : ThreadsInv s) (t : ℕ) :
    ¬ Ending (s.thread t) := by
  rintro (hholding | ⟨heLoop, honce⟩ | hreleases)
  · have hwaiting := hquiescent.waiting t (h.mem_pool_of_accepts (by rw [hholding]; rfl))
    rw [hholding] at hwaiting
    exact PoolPoint.noConfusion hwaiting
  · have hwaiting := hquiescent.waiting t ((h.ok t).member (Or.inl honce))
    rw [(h.ok t).accepting (by rw [hwaiting]; rfl)] at heLoop
    exact Bool.noConfusion heLoop
  · have hlt : t < s.created := by
      refine h.lt_created rfl fun hended => ?_
      rw [hended] at hreleases
      exact Bool.noConfusion hreleases
    exact absurd ((hquiescent.released t hlt).1.symm.trans hreleases) Bool.false_ne_true

theorem Quiescent.holders_eq_zero (hquiescent : s.Quiescent) (h : ThreadsInv s) (id : ℕ) :
    s.holders id = 0 := by
  refine (Nat.count_iff_forall_not).mpr fun t _ hheld => ?_
  cases hpoint : (s.thread t).point with
  | holding cmd =>
      have hwaiting := hquiescent.waiting t (h.mem_pool_of_accepts (by rw [hpoint]; rfl))
      rw [hpoint] at hwaiting
      exact PoolPoint.noConfusion hwaiting
  | _ =>
      rw [hpoint] at hheld
      exact absurd hheld.symm (Option.some_ne_none id)

theorem PoolInv.settled (h : PoolInv s) (hquiescent : s.Quiescent) : s.Settled := by
  have hstarted (id : ℕ) (hid : id < s.queued) : s.started.count id = 1 := by
    have hcount := h.once.queued id
    have hholders := hquiescent.holders_eq_zero h.threads id
    rw [hquiescent.empty, List.count_nil, hholders, if_pos hid] at hcount
    omega
  refine ⟨?_, hstarted, fun id hid => ?_⟩
  · refine (h.size.settled hquiescent.unlocked hquiescent.resizes fun t hlt =>
      (hquiescent.released t hlt).2).resolve_right ?_
    rintro ⟨_, hmem | ⟨t, hending⟩⟩
    · rw [hquiescent.empty] at hmem
      exact absurd hmem List.not_mem_nil
    · exact hquiescent.not_ending h.threads t hending
  · have hcount := h.once.running id
    rw [hstarted id hid] at hcount
    rcases Nat.eq_zero_or_pos (s.runners id) with hzero | hpos
    · exact Or.inl (by omega)
    · refine Or.inr ⟨by omega, ?_⟩
      by_contra hnone
      push Not at hnone
      have hzero : s.runners id = 0 := by
        refine (Nat.count_iff_forall_not).mpr fun t _ hcurrent => ?_
        have hmem : t ∈ s.pool := by
          by_contra hout
          exact hnone t hout hcurrent
        rw [hquiescent.waiting t hmem] at hcurrent
        exact absurd hcurrent.symm (Option.some_ne_none id)
      omega

/-- **The pool settles.**  In every reachable state in which every thread of the pool
waits at an empty queue and no `resize` or `release` is under way, the pool has as many
threads as its target, and every command was begun exactly once; its action has returned
exactly once, or the command is still in it, on a thread that has left the pool. -/
theorem settled_of_quiescent (targetThrdCount : ℕ) (actions : List PoolAction)
    (hquiescent : (run step (start targetThrdCount) actions).Quiescent) :
    (run step (start targetThrdCount) actions).Settled :=
  (poolInv_run targetThrdCount actions).settled hquiescent

/-- A pool of two that is shrunk to one: the END command is taken after the command. -/
theorem settled_shrunk :
    (run step (start 2)
      [.beginResize, .newPoolEventThread, .newPoolEventThread, .endResize, .queCmd, .resize 1,
        .beginResize, .endResize, .checkLoop 0, .checkLoop 1, .getCmd 0, .runAction 0, .getCmd 1,
        .runAction 1, .checkLoop 1, .finishup 1, .release 1, .beginRelease 1, .endResize, .finish 0,
        .checkLoop 0]).Settled :=
  settled_of_quiescent 2 _ ⟨by decide +kernel, by decide +kernel, by decide +kernel,
    by decide +kernel, by decide +kernel⟩

/-- A command that leaves the pool may be in its action while the pool waits. -/
theorem not_finished_leftPool :
    ∃ actions, (run step (start 1) actions).Quiescent ∧
      ¬ ∀ id < (run step (start 1) actions).queued,
        (run step (start 1) actions).finished.count id = 1 :=
  ⟨[.beginResize, .newPoolEventThread, .endResize, .queCmd, .checkLoop 0, .getCmd 0, .runAction 0,
      .leavePool 0 0, .finishup 0, .release 0, .beginRelease 0, .newPoolEventThread, .endResize,
      .checkLoop 1],
    ⟨by decide +kernel, by decide +kernel, by decide +kernel, by decide +kernel,
      by decide +kernel⟩, by decide +kernel⟩

end ThreadPool

end M2Cell
