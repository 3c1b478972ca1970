import M2Cell.Control.Mutexes

/-!
# No deadlock, and no check that fails

The mutexes have an order in which the functions take them (`rank`): that of the TCP/IP
connections, that of the model, those of the power subsystems, and the others, that of
the simulator last.  What the threads call fits this order as long as no loop of
`asyncWriteToAllComConn` drops the last owner of a connection (`fits_of_mem_entries`,
which looks at the code of each entry).  So no check of a `VMutex` throws, and no thread
waits forever (`calls_complete`, by the results on mutexes that are taken in an order).

A loop that does drop a last owner takes `_mapMtx`, which it holds, once more.  Then the
thread waits for itself (`relocks`).
-/

namespace M2Cell

namespace Mutex

/-- The place of a mutex in the order. -/
def rank : Mutex → ℕ
  | tcpIpConnectedMtx => 0
  | modelMtx => 1
  | powerStateMtx _ => 2
  | simMtx => 4
  | _ => 3

theorem rank_le (m : Mutex) : m.rank ≤ 4 := by
  unfold rank
  split <;> omega

/-- Every function that a thread calls takes the mutexes in order, and its checks are right,
unless a broadcast drops a last owner. -/
theorem fits_of_mem_entries {code : Code} (h : code ∈ entries false) : code.Fits rank [] := by
  have hall : ∀ code ∈ entries false, code.Fits rank [] := by decide
  exact hall code h

variable {T : Type*} [DecidableEq T]

theorem sound_run (threads : T → Calls false) (ts : List T) :
    (run LockState.step (startCalls threads) ts).Sound rank := by
  refine LockState.Sound.run (LockState.sound_start fun t => ?_) ts
  exact (threads t).calls.ordered fun _ hcode => fits_of_mem_entries hcode

/-- **The threads do not block each other.**  Whatever the threads call and in whatever
order they go on, as long as no broadcast drops the last owner of a connection: no check of
a mutex has thrown, the holder of a mutex owns it, a thread that is done has given back what
it took, some thread can go on as long as one has something to do, and the run can be
completed. -/
theorem calls_complete [Fintype T] (threads : T → Calls false) (ts : List T) :
    let s := run LockState.step (startCalls threads) ts
    (∀ t, s.failed t = false) ∧
      (∀ m t, s.holder m = some t → s.owner m = some t) ∧
      (∀ t, s.todo t = [] → ∀ m, s.owner m ≠ some t) ∧
      (∀ t, s.todo t ≠ [] → ∃ other, s.CanStep other) ∧
      ∃ rest, ∀ t, (run LockState.step s rest).todo t = [] := by
  intro s
  have hsound : s.Sound rank := sound_run threads ts
  exact ⟨hsound.failed, fun m t hholder => (hsound.threads t).owner_of_holder hholder,
    fun t hdone m => hsound.owner_of_done hdone m,
    fun t hleft => hsound.exists_canStep rank_le hleft, hsound.completes rank_le⟩

/-! ## The last owner -/

/-- The operations of a broadcast that drops the last owner of a connection: within it,
`eraseConnection` takes the mutex of the map again. -/
def droppingOps : List (LockOp Mutex) :=
  [.acquire mapMtx, .setHolder mapMtx, .acquire mapMtx, .setHolder mapMtx, .clearHolder mapMtx,
    .release mapMtx, .clearHolder mapMtx, .release mapMtx]

theorem runs_droppingOps : (actionSwitchCommandSource true).Runs droppingOps := by
  have herase : eraseConnection.Runs
      [.acquire mapMtx, .setHolder mapMtx, .clearHolder mapMtx, .release mapMtx] :=
    .seq (.guarded mapMtx .skip) (.seq (.other .skip) .skip)
  have hshutdown : shutdownConn.Runs
      [.acquire mapMtx, .setHolder mapMtx, .clearHolder mapMtx, .release mapMtx] :=
    .one (.seq (.other .skip) (.seq (.one herase) .skip))
  exact .one (.guarded mapMtx (.pass (.one hshutdown) (.done _)))

/-- The command of one thread, which drops a last owner. -/
def droppingCalls : Calls true where
  todo := droppingOps
  calls := by
    have hmem : actionSwitchCommandSource true ∈ entries true := by simp [entries]
    exact .cons hmem runs_droppingOps .nil

/-- **The thread waits for itself.**  A broadcast that drops the last owner of a connection
takes the mutex of the map while it holds it, and from there on nothing goes on. -/
theorem relocks : ∃ ts : List Unit,
    (run LockState.step (startCalls fun _ : Unit => droppingCalls) ts).todo () ≠ [] ∧
      ∀ t, ¬ (run LockState.step (startCalls fun _ : Unit => droppingCalls) ts).CanStep t := by
  refine ⟨[(), ()], by decide, fun t hcan => ?_⟩
  have hfree := hcan.2 mapMtx (droppingOps.drop 3) rfl
  exact absurd hfree (by decide)

end Mutex

end M2Cell
