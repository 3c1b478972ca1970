import M2Cell.Telemetry.TelemetryCom

/-!
# The sockets of the telemetry server

A handler closes its socket in several places, and the number it closes the second
time may be that of another connection.  A run in which every use of a socket is one
of the handler's own connection, and every accepted connection is closed once, is
exactly a run in which no handler uses its socket after one of its own closes and no
connection is dropped (`proper_iff`).  No handler comes to its end in such a run:
both of its threads close the socket there (`two_le_closes`).

What a thread of a handler does is said once (`step_ofHandler`): it goes on, with its socket as
it was, or it closes it (`Effect`).  Two invariants build on that.  `Inv` holds in every run; in
it a descriptor leads back to the one connection that may own it, and a connection that was
closed does not own its number any more.  `Exact` holds in the runs of clean steps; there every
socket that is still open is with its owner.  A first close takes nothing from another handler
(`Exact.closeSock`), and a new connection gets a number that is free (`Exact.accept`).

For the converse a step that is proper is clean (`clean_of_proper`): after a close of its own a
handler cannot find its connection at the number again.
-/

namespace M2Cell

namespace ServerConnectionHandler

variable {h : ServerConnectionHandler}

/-- The threads that are at their end. -/
def doneThreads (h : ServerConnectionHandler) : ℕ :=
  (if h.handlerThread = .done then 1 else 0) + if h.readerThread = .done then 1 else 0

/-- No thread works on the handler yet. -/
structure Idle (h : ServerConnectionHandler) : Prop where
  handlerThread : h.handlerThread = .notStarted
  readerThread : h.readerThread = .notStarted
  call : ∀ caller, h.call caller = .notCalled
  closes : h.closes = 0

theorem idle_absent : absent.Idle := ⟨rfl, rfl, fun _ => rfl, rfl⟩

/-- A step of a thread keeps the socket of its handler. -/
structure Kept (h h' : ServerConnectionHandler) : Prop where
  sock : h'.sock = h.sock
  dropped : h'.dropped = h.dropped
  closes : h'.closes = h.closes

theorem Kept.refl (h : ServerConnectionHandler) : Kept h h := ⟨rfl, rfl, rfl⟩

/-- Writing a handler that is kept keeps every handler. -/
theorem kept_update {handler : ℕ → ServerConnectionHandler} {connection : ℕ}
    (hkept : Kept (handler connection) h) (other : ℕ) :
    Kept (handler other) (Function.update handler connection h other) := by
  by_cases hother : other = connection
  · subst hother
    rwa [Function.update_self]
  · rw [Function.update_of_ne hother]
    exact Kept.refl _

theorem sock_handled (acceptLoop : Bool) : (h.handled acceptLoop).sock = h.sock := by
  cases acceptLoop <;> rfl

theorem closes_handled (acceptLoop : Bool) : (h.handled acceptLoop).closes = h.closes := by
  cases acceptLoop <;> rfl

theorem Idle.doneThreads_handled (hidle : h.Idle) (acceptLoop : Bool) :
    (h.handled acceptLoop).doneThreads = 0 := by
  cases acceptLoop with
  | true => rfl
  | false => simp [doneThreads, handled, hidle.handlerThread, hidle.readerThread]

end ServerConnectionHandler

namespace TelemetryCom

open ServerConnectionHandler

variable {t : TelemetryCom} {connection : ℕ} {h h' : ServerConnectionHandler}

/-! ## What a step does -/

/-- What a thread of a handler does in a step that is at its point. -/
inductive Effect (t : TelemetryCom) (action : TelemetryAction) : TelemetryCom → Prop
  /-- The handler goes on. -/
  | goesOn (connection : ℕ) (h : ServerConnectionHandler)
      (hstarted : ¬ (t.handler connection).Idle) (hkept : Kept (t.handler connection) h)
      (hdone : h.doneThreads ≤ (t.handler connection).doneThreads) :
      Effect t action (t.setHandler connection h)
  /-- The handler closes its socket. -/
  | closes (connection : ℕ) (h : ServerConnectionHandler)
      (hstarted : ¬ (t.handler connection).Idle) (hkept : Kept (t.handler connection) h)
      (hdone : h.doneThreads ≤ (t.handler connection).doneThreads + 1)
      (huse : t.socketUse action = some connection) : Effect t action (t.closeSock connection h)

/-- The actions of the threads of handlers. -/
def OfHandler : TelemetryAction → Prop
  | .checkHandler _ => True
  | .send _ _ => True
  | .endPass _ => True
  | .hShutdown _ => True
  | .closeHandler _ => True
  | .checkReader _ => True
  | .read _ _ => True
  | .closeReader _ => True
  | .outerShutdown _ _ => True
  | .remove _ => True
  | _ => False

theorem step_hShutdown (connection : ℕ) :
    t.step (.hShutdown connection) = t ∨
      Effect t (.hShutdown connection) (t.step (.hShutdown connection)) := by
  cases hpoint : (t.handler connection).handlerThread with
  | shutdown step =>
      have hstarted : ¬ (t.handler connection).Idle := by
        intro hidle
        rw [hidle.handlerThread] at hpoint
        cases hpoint
      right
      cases step with
      | flag =>
          simp only [TelemetryCom.step, hpoint, nextStep, hShutdown, put, Bool.false_eq_true,
            if_false]
          exact .goesOn _ _ hstarted ⟨rfl, rfl, rfl⟩ (by simp [doneThreads, hpoint])
      | shutdown =>
          simp only [TelemetryCom.step, hpoint, nextStep, hShutdown, put, Bool.false_eq_true,
            if_false]
          exact .goesOn _ _ hstarted ⟨rfl, rfl, rfl⟩ (by simp [doneThreads, hpoint])
      | close =>
          simp only [TelemetryCom.step, hpoint, nextStep, hShutdown, put, if_true]
          exact .closes _ _ hstarted ⟨rfl, rfl, rfl⟩ (by simp [doneThreads, hpoint])
            (by simp [socketUse, hpoint])
  | _ => exact Or.inl (by simp only [TelemetryCom.step, hpoint])

theorem step_outerShutdown (connection : ℕ) (caller : HShutdownCaller) :
    t.step (.outerShutdown connection caller) = t ∨
      Effect t (.outerShutdown connection caller) (t.step (.outerShutdown connection caller)) := by
  cases hpoint : (t.handler connection).call caller with
  | notCalled =>
      simp only [TelemetryCom.step, hpoint]
      split_ifs with hcall
      · refine Or.inr (.goesOn _ _ (fun hidle => hcall.2.1 hidle.handlerThread) ⟨rfl, rfl, rfl⟩ ?_)
        exact Nat.le_refl _
      · exact Or.inl rfl
  | running step =>
      have hstarted : ¬ (t.handler connection).Idle := by
        intro hidle
        rw [hidle.call] at hpoint
        cases hpoint
      right
      cases step with
      | flag =>
          simp only [TelemetryCom.step, hpoint, nextStep, hShutdown, put, Bool.false_eq_true,
            if_false]
          exact .goesOn _ _ hstarted ⟨rfl, rfl, rfl⟩ (Nat.le_refl _)
      | shutdown =>
          simp only [TelemetryCom.step, hpoint, nextStep, hShutdown, put, Bool.false_eq_true,
            if_false]
          exact .goesOn _ _ hstarted ⟨rfl, rfl, rfl⟩ (Nat.le_refl _)
      | close =>
          simp only [TelemetryCom.step, hpoint, nextStep, hShutdown, put, if_true]
          exact .closes _ _ hstarted ⟨rfl, rfl, rfl⟩ (Nat.le_succ _) (by simp [socketUse, hpoint])
  | returned => exact Or.inl (by simp only [TelemetryCom.step, hpoint])

/-- A step that goes on when its thread is at its point. -/
theorem goesOn_or_same {action : TelemetryAction} {p : Prop} [Decidable p]
    (hstarted : p → ¬ (t.handler connection).Idle) (hkept : Kept (t.handler connection) h)
    (hdone : p → h.doneThreads ≤ (t.handler connection).doneThreads) :
    (if p then t.setHandler connection h else t) = t ∨
      Effect t action (if p then t.setHandler connection h else t) := by
  split_ifs with hpoint
  · exact Or.inr (.goesOn connection h (hstarted hpoint) hkept (hdone hpoint))
  · exact Or.inl rfl

/-- A step that closes the socket when its thread is at its point. -/
theorem closes_or_same {action : TelemetryAction} {p : Prop} [Decidable p]
    (hstarted : p → ¬ (t.handler connection).Idle) (hkept : Kept (t.handler connection) h)
    (hdone : p → h.doneThreads ≤ (t.handler connection).doneThreads + 1)
    (huse : p → t.socketUse action = some connection) :
    (if p then t.closeSock connection h else t) = t ∨
      Effect t action (if p then t.closeSock connection h else t) := by
  split_ifs with hpoint
  · exact Or.inr (.closes connection h (hstarted hpoint) hkept (hdone hpoint) (huse hpoint))
  · exact Or.inl rfl

/-- **A step of a handler's thread** closes its socket, or keeps it. -/
theorem step_ofHandler (action : TelemetryAction) (hof : OfHandler action) :
    t.step action = t ∨ Effect t action (t.step action) := by
  -- a thread that is at a point has begun
  have hhandler {connection : ℕ} {point : HandlerPoint} (hne : point ≠ .notStarted)
      (hpoint : (t.handler connection).handlerThread = point) : ¬ (t.handler connection).Idle :=
    fun hidle => hne (hpoint.symm.trans hidle.handlerThread)
  have hreader {connection : ℕ} {point : ReaderPoint} (hne : point ≠ .notStarted)
      (hpoint : (t.handler connection).readerThread = point) : ¬ (t.handler connection).Idle :=
    fun hidle => hne (hpoint.symm.trans hidle.readerThread)
  cases action with
  | hShutdown connection => exact step_hShutdown connection
  | outerShutdown connection caller => exact step_outerShutdown connection caller
  | checkHandler connection =>
      refine goesOn_or_same (hhandler (by simp)) ⟨rfl, rfl, rfl⟩ ?_
      intro hpoint
      cases (t.handler connection).connLoop <;> simp [doneThreads, hpoint]
  | send connection failed =>
      refine goesOn_or_same (hhandler (by simp)) ⟨rfl, rfl, rfl⟩ ?_
      intro hpoint
      cases failed <;> simp [doneThreads, hpoint]
  | endPass connection =>
      refine goesOn_or_same (hhandler (by simp)) ⟨rfl, rfl, rfl⟩ ?_
      intro hpoint
      simp [doneThreads, hpoint]
  | closeHandler connection =>
      refine closes_or_same (hhandler (by simp)) ⟨rfl, rfl, rfl⟩ ?_ ?_
      · intro hpoint
        simp only [doneThreads, hpoint, reduceCtorEq, if_true, if_false]
        omega
      · intro hpoint
        simp [socketUse, hpoint]
  | checkReader connection =>
      refine goesOn_or_same (hreader (by simp)) ⟨rfl, rfl, rfl⟩ ?_
      intro hpoint
      cases (t.handler connection).connLoop <;> simp [doneThreads, hpoint]
  | read connection failed =>
      refine goesOn_or_same (hreader (by simp)) ⟨rfl, rfl, rfl⟩ ?_
      intro hpoint
      cases failed <;> simp [doneThreads, hpoint]
  | closeReader connection =>
      refine closes_or_same (hreader (by simp)) ⟨rfl, rfl, rfl⟩ ?_ ?_
      · intro hpoint
        simp only [doneThreads, hpoint, reduceCtorEq, if_true, if_false]
        omega
      · intro hpoint
        simp [socketUse, hpoint]
  | remove connection =>
      refine goesOn_or_same ?_ ⟨rfl, rfl, rfl⟩ fun _ => Nat.le_refl _
      intro hfinished
      exact hhandler (by simp) hfinished.1
  | checkServer | accept | acceptFails | handle | shutdownCom | openOther | closeOther =>
      exact hof.elim

/-! ## What every run keeps -/

/-- In every state that is reached. -/
structure Inv (t : TelemetryCom) : Prop where
  absent : ∀ connection, t.connSeq ≤ connection → t.handler connection = absent
  /-- A connection has the descriptor that was returned for it, or none. -/
  owner : ∀ fd connection, t.fds.file fd = some (.conn connection) →
    connection < t.connSeq ∧ fd = (t.handler connection).sock
  closed : ∀ connection, 0 < (t.handler connection).closes →
    t.fds.file (t.handler connection).sock ≠ some (.conn connection)
  done : ∀ connection, (t.handler connection).doneThreads ≤ (t.handler connection).closes
  accepted : ∀ connection, t.server = .accepted connection →
    connection < t.connSeq ∧ (t.handler connection).Idle

theorem inv_start : start.Inv where
  absent _ _ := rfl
  owner fd connection hfile := by
    cases fd with
    | zero => cases hfile
    | succ fd => simp [start, Descriptors.file] at hfile
  closed _ hcloses := absurd hcloses (Nat.lt_irrefl 0)
  done _ := Nat.le_refl 0
  accepted _ haccepted := by cases haccepted

/-- A connection with a thread or a file is below the next number. -/
theorem Inv.lt_connSeq (hinv : t.Inv) (hstarted : ¬ (t.handler connection).Idle) :
    connection < t.connSeq := by
  by_contra hge
  rw [hinv.absent connection (Nat.le_of_not_lt hge)] at hstarted
  exact hstarted idle_absent

/-- What a step may do to a handler whose socket was returned by `accept`. -/
structure Written (t t' : TelemetryCom) (connection : ℕ) : Prop where
  lt : connection < t.connSeq
  sock : (t'.handler connection).sock = (t.handler connection).sock
  done : (t'.handler connection).doneThreads ≤ (t'.handler connection).closes
  closed : 0 < (t'.handler connection).closes →
    t'.fds.file (t'.handler connection).sock ≠ some (.conn connection)

/-- A step that accepts nothing keeps the invariant: no descriptor becomes that of a
connection. -/
theorem Inv.of_written (hinv : t.Inv) {t' : TelemetryCom} (hconnSeq : t'.connSeq = t.connSeq)
    (hfile : ∀ fd connection, t'.fds.file fd = some (.conn connection) →
      t.fds.file fd = some (.conn connection))
    (hhandler : ∀ connection, t'.handler connection = t.handler connection ∨
      Written t t' connection)
    (haccepted : ∀ connection, t'.server = .accepted connection →
      t.server = .accepted connection ∧ t'.handler connection = t.handler connection) :
    t'.Inv where
  -- a handler that was written is one of a connection that exists
  absent connection hconnection := by
    rw [hconnSeq] at hconnection
    rcases hhandler connection with hsame | hwritten
    · rw [hsame]
      exact hinv.absent connection hconnection
    · exact absurd hwritten.lt (Nat.not_lt_of_le hconnection)
  owner fd connection hconn := by
    obtain ⟨hlt, hfd⟩ := hinv.owner fd connection (hfile fd connection hconn)
    refine ⟨hconnSeq ▸ hlt, ?_⟩
    rcases hhandler connection with hsame | hwritten
    · rw [hsame]
      exact hfd
    · rw [hwritten.sock]
      exact hfd
  closed connection hcloses := by
    rcases hhandler connection with hsame | hwritten
    · rw [hsame] at hcloses ⊢
      intro hconn
      exact hinv.closed connection hcloses (hfile _ _ hconn)
    · exact hwritten.closed hcloses
  done connection := by
    rcases hhandler connection with hsame | hwritten
    · rw [hsame]
      exact hinv.done connection
    · exact hwritten.done
  accepted connection hserver := by
    obtain ⟨hbefore, hsame⟩ := haccepted connection hserver
    rw [hconnSeq, hsame]
    exact hinv.accepted connection hbefore

/-- A step that writes no handler and accepts nothing keeps the invariant. -/
theorem Inv.of_frame (hinv : t.Inv) {t' : TelemetryCom} (hconnSeq : t'.connSeq = t.connSeq)
    (hhandler : t'.handler = t.handler)
    (hfile : ∀ fd connection, t'.fds.file fd = some (.conn connection) →
      t.fds.file fd = some (.conn connection))
    (haccepted : ∀ connection, t'.server = .accepted connection →
      t.server = .accepted connection) : t'.Inv :=
  hinv.of_written hconnSeq hfile (fun connection => Or.inl (congrFun hhandler connection))
    fun connection hserver => ⟨haccepted connection hserver, congrFun hhandler connection⟩

@[simp] theorem handler_setHandler_self :
    (t.setHandler connection h).handler connection = h := Function.update_self ..

theorem handler_setHandler_of_ne {other : ℕ} (hne : other ≠ connection) :
    (t.setHandler connection h).handler other = t.handler other := Function.update_of_ne hne ..

@[simp] theorem handler_closeSock_self :
    (t.closeSock connection h).handler connection = { h with closes := h.closes + 1 } :=
  Function.update_self ..

theorem handler_closeSock_of_ne {other : ℕ} (hne : other ≠ connection) :
    (t.closeSock connection h).handler other = t.handler other := Function.update_of_ne hne ..

theorem file_closeSock (fd : ℕ) :
    (t.closeSock connection h).fds.file fd = if fd = h.sock then none else t.fds.file fd :=
  Descriptors.file_close ..

/-- A handler that is not written keeps what `accept` left. -/
theorem Inv.not_accepted (hinv : t.Inv) (hstarted : ¬ (t.handler connection).Idle) {other : ℕ}
    (haccepted : t.server = .accepted other) : other ≠ connection := by
  rintro rfl
  exact hstarted (hinv.accepted other haccepted).2

/-- A step that writes one handler. -/
theorem same_or_written {t' : TelemetryCom}
    (hhandler : t'.handler = Function.update t.handler connection h)
    (hwritten : Written t t' connection) (other : ℕ) :
    t'.handler other = t.handler other ∨ Written t t' other := by
  by_cases hother : other = connection
  · subst hother
    exact Or.inr hwritten
  · left
    rw [hhandler, Function.update_of_ne hother]

theorem Inv.effect (hinv : t.Inv) {action : TelemetryAction} {t' : TelemetryCom}
    (heffect : Effect t action t') : t'.Inv := by
  cases heffect with
  | goesOn connection h hstarted hkept hdone =>
      have hwritten : Written t (t.setHandler connection h) connection := by
        refine ⟨hinv.lt_connSeq hstarted, ?_, ?_, ?_⟩
        · rw [handler_setHandler_self, hkept.sock]
        · rw [handler_setHandler_self, hkept.closes]
          exact Nat.le_trans hdone (hinv.done connection)
        · rw [handler_setHandler_self, hkept.closes, hkept.sock]
          exact hinv.closed connection
      refine hinv.of_written rfl (fun _ _ => id) (same_or_written rfl hwritten) ?_
      intro other hserver
      have hbefore : t.server = .accepted other := hserver
      exact ⟨hbefore, handler_setHandler_of_ne (hinv.not_accepted hstarted hbefore)⟩
  | closes connection h hstarted hkept hdone huse =>
      -- the thread closes its socket and is done
      have hwritten : Written t (t.closeSock connection h) connection := by
        refine ⟨hinv.lt_connSeq hstarted, ?_, ?_, ?_⟩
        · rw [handler_closeSock_self]
          exact hkept.sock
        · have hbefore := hinv.done connection
          have hcloses := hkept.closes
          rw [handler_closeSock_self]
          show h.doneThreads ≤ h.closes + 1
          omega
        · intro _
          rw [handler_closeSock_self, file_closeSock, if_pos rfl]
          simp
      refine hinv.of_written rfl ?_ (same_or_written rfl hwritten) ?_
      · intro fd other hconn
        rw [file_closeSock] at hconn
        split_ifs at hconn
        exact hconn
      · intro other hserver
        have hbefore : t.server = .accepted other := hserver
        exact ⟨hbefore, handler_closeSock_of_ne (hinv.not_accepted hstarted hbefore)⟩

/-- `accept` gives the new connection a descriptor that was free. -/
theorem file_accept (fd : ℕ) :
    t.accept.fds.file fd =
      if fd = t.fds.lowest then some (.conn t.connSeq) else t.fds.file fd :=
  Descriptors.file_openFile ..

theorem handler_accept_of_ne {other : ℕ} (hne : other ≠ t.connSeq) :
    t.accept.handler other = t.handler other := Function.update_of_ne hne ..

@[simp] theorem handler_accept_self :
    t.accept.handler t.connSeq = { absent with sock := t.fds.lowest } := Function.update_self ..

theorem Inv.accept (hinv : t.Inv) : t.accept.Inv where
  absent other hother := by
    have hle : t.connSeq + 1 ≤ other := hother
    have hne : other ≠ t.connSeq := by omega
    rw [handler_accept_of_ne hne]
    exact hinv.absent other (Nat.le_of_succ_le hle)
  owner fd other hconn := by
    rw [file_accept] at hconn
    split_ifs at hconn with hfd
    -- the new descriptor is the new connection's, all others are where they were
    · obtain rfl : t.connSeq = other := by simpa using hconn
      exact ⟨Nat.lt_succ_self _, by rw [handler_accept_self, hfd]⟩
    · obtain ⟨hlt, hsock⟩ := hinv.owner fd other hconn
      exact ⟨Nat.lt_succ_of_lt hlt, by rw [handler_accept_of_ne (Nat.ne_of_lt hlt), hsock]⟩
  closed other hcloses := by
    by_cases hother : other = t.connSeq
    · subst hother
      rw [handler_accept_self] at hcloses
      exact absurd hcloses (Nat.lt_irrefl 0)
    · rw [handler_accept_of_ne hother] at hcloses ⊢
      rw [file_accept]
      split_ifs
      · intro hconn
        exact hother (by simpa using hconn.symm)
      · exact hinv.closed other hcloses
  done other := by
    by_cases hother : other = t.connSeq
    · subst hother
      rw [handler_accept_self]
      exact Nat.le_refl 0
    · rw [handler_accept_of_ne hother]
      exact hinv.done other
  accepted other haccepted := by
    obtain rfl : t.connSeq = other := by simpa [TelemetryCom.accept] using haccepted
    refine ⟨Nat.lt_succ_self _, ?_⟩
    rw [handler_accept_self]
    exact ⟨rfl, rfl, fun _ => rfl, rfl⟩

@[simp] theorem handler_handle_self :
    (t.handle connection).handler connection = (t.handler connection).handled t.acceptLoop :=
  Function.update_self ..

theorem Inv.handle (hinv : t.Inv) (haccepted : t.server = .accepted connection) :
    (t.handle connection).Inv := by
  obtain ⟨hlt, hidle⟩ := hinv.accepted connection haccepted
  have hwritten : Written t (t.handle connection) connection := by
    refine ⟨hlt, ?_, ?_, ?_⟩
    · rw [handler_handle_self, sock_handled]
    · rw [handler_handle_self, hidle.doneThreads_handled]
      exact Nat.zero_le _
    · intro hcloses
      rw [handler_handle_self, closes_handled, hidle.closes] at hcloses
      exact absurd hcloses (Nat.lt_irrefl 0)
  refine hinv.of_written rfl (fun _ _ => id) (same_or_written rfl hwritten) ?_
  intro other hserver
  cases hserver

theorem step_inv (hinv : t.Inv) (action : TelemetryAction) : (t.step action).Inv := by
  have hof (hof : OfHandler action) : (t.step action).Inv := by
    rcases step_ofHandler action hof with hsame | heffect
    · rw [hsame]
      exact hinv
    · exact hinv.effect heffect
  cases action with
  | checkServer =>
      simp only [TelemetryCom.step]
      split_ifs with hloop hserver
      · exact hinv.of_frame rfl rfl (fun _ _ => id) nofun
      · exact hinv.of_frame rfl rfl (fun _ _ => id) nofun
      · exact hinv
  | accept =>
      simp only [TelemetryCom.step]
      split_ifs
      · exact hinv.accept
      · exact hinv
  | acceptFails =>
      simp only [TelemetryCom.step]
      split_ifs
      · exact hinv.of_frame rfl rfl (fun _ _ => id) nofun
      · exact hinv
  | handle =>
      cases hserver : t.server with
      | accepted connection =>
          simp only [TelemetryCom.step, hserver]
          exact hinv.handle hserver
      | _ => simpa only [TelemetryCom.step, hserver] using hinv
  | shutdownCom => exact hinv.of_frame rfl rfl (fun _ _ => id) fun _ => id
  | openOther =>
      refine hinv.of_frame rfl rfl ?_ fun _ => id
      intro fd connection hconn
      rw [TelemetryCom.step, Descriptors.file_openFile] at hconn
      split_ifs at hconn
      · cases hconn
      · exact hconn
  | closeOther fd =>
      simp only [TelemetryCom.step]
      split_ifs
      · refine hinv.of_frame rfl rfl ?_ fun _ => id
        intro other connection hconn
        rw [Descriptors.file_close] at hconn
        split_ifs at hconn
        exact hconn
      · exact hinv
  | _ => exact hof trivial

theorem inv_run (actions : List TelemetryAction) : (run step start actions).Inv :=
  run_invariant Inv (fun _ action hinv => step_inv hinv action) inv_start actions

/-- **Both threads close the socket**: a handler whose threads are at their end has
closed its number twice, in every run. -/
theorem two_le_closes (actions : List TelemetryAction) (connection : ℕ)
    (hfinished : ((run step start actions).handler connection).Finished) :
    2 ≤ ((run step start actions).handler connection).closes := by
  have hdone := (inv_run actions).done connection
  rw [doneThreads, if_pos hfinished.1, if_pos hfinished.2] at hdone
  exact hdone

/-! ## Sockets and their owners -/

/-- The handler that uses its socket in a step has the file of its connection there. -/
def Owned (t : TelemetryCom) (action : TelemetryAction) : Prop :=
  ∀ connection ∈ t.socketUse action,
    t.fds.file (t.handler connection).sock = some (.conn connection)

/-- No accepted descriptor is closed twice, and it is closed when it is done with. -/
def ClosedOnce (t : TelemetryCom) : Prop :=
  ∀ connection < t.connSeq,
    (t.handler connection).closes ≤ 1 ∧
      ((t.handler connection).Finished ∨ (t.handler connection).dropped = true →
        (t.handler connection).closes = 1)

/-- The use of a socket is its owner's, and the descriptors are closed once afterwards. -/
def Proper (t : TelemetryCom) (action : TelemetryAction) : Prop :=
  t.Owned action ∧ (t.step action).ClosedOnce

/-- The handler that uses its socket has not closed it before, and no accepted
connection finds `_acceptLoop` cleared. -/
def Clean (t : TelemetryCom) (action : TelemetryAction) : Prop :=
  (∀ connection ∈ t.socketUse action, (t.handler connection).closes = 0) ∧
    (action = .handle → ∀ connection, t.server = .accepted connection → t.acceptLoop = true)

instance (t : TelemetryCom) (action : TelemetryAction) : Decidable (t.Owned action) :=
  inferInstanceAs (Decidable (∀ connection ∈ t.socketUse action, _))

instance (t : TelemetryCom) : Decidable t.ClosedOnce :=
  inferInstanceAs (Decidable (∀ connection < t.connSeq, _ ∧ (_ ∨ _ → _)))

instance (t : TelemetryCom) (action : TelemetryAction) : Decidable (t.Proper action) :=
  inferInstanceAs (Decidable (_ ∧ _))

/-- In every state of a run of clean steps. -/
structure Exact (t : TelemetryCom) : Prop where
  opened : ∀ connection < t.connSeq, (t.handler connection).closes = 0 →
    t.fds.file (t.handler connection).sock = some (.conn connection)
  closes : ∀ connection, (t.handler connection).closes ≤ 1
  kept : ∀ connection, (t.handler connection).dropped = false

theorem exact_start : start.Exact where
  opened _ hlt := absurd hlt (Nat.not_lt_zero _)
  closes _ := Nat.zero_le 1
  kept _ := rfl

theorem Exact.of_kept (hexact : t.Exact) {t' : TelemetryCom} (hconnSeq : t'.connSeq = t.connSeq)
    (hhandler : ∀ connection, Kept (t.handler connection) (t'.handler connection))
    (hfile : ∀ fd connection, t.fds.file fd = some (.conn connection) →
      t'.fds.file fd = some (.conn connection)) : t'.Exact where
  opened connection hlt hcloses := by
    rw [hconnSeq] at hlt
    rw [(hhandler connection).closes] at hcloses
    rw [(hhandler connection).sock]
    exact hfile _ _ (hexact.opened connection hlt hcloses)
  closes connection := by
    rw [(hhandler connection).closes]
    exact hexact.closes connection
  kept connection := by
    rw [(hhandler connection).dropped]
    exact hexact.kept connection

/-- Closing the socket of a handler for the first time closes no other handler's. -/
theorem Exact.closeSock (hexact : t.Exact) (hlt : connection < t.connSeq)
    (hfirst : (t.handler connection).closes = 0) (hkept : Kept (t.handler connection) h) :
    (t.closeSock connection h).Exact where
  opened other hother hcloses := by
    by_cases hsame : other = connection
    · subst hsame
      rw [handler_closeSock_self] at hcloses
      exact absurd hcloses (Nat.succ_ne_zero _)
    · rw [handler_closeSock_of_ne hsame] at hcloses ⊢
      have hopened := hexact.opened other hother hcloses
      -- two open sockets of one number would both be with their owners
      have hsock : (t.handler other).sock ≠ h.sock := by
        intro hsock
        rw [hsock, hkept.sock, hexact.opened connection hlt hfirst] at hopened
        exact hsame (by simpa using hopened.symm)
      rw [file_closeSock, if_neg hsock]
      exact hopened
  closes other := by
    by_cases hsame : other = connection
    · subst hsame
      have hcloses : h.closes = 0 := hkept.closes.trans hfirst
      rw [handler_closeSock_self]
      change h.closes + 1 ≤ 1
      omega
    · rw [handler_closeSock_of_ne hsame]
      exact hexact.closes other
  kept other := by
    by_cases hsame : other = connection
    · subst hsame
      rw [handler_closeSock_self]
      exact hkept.dropped.trans (hexact.kept other)
    · rw [handler_closeSock_of_ne hsame]
      exact hexact.kept other

theorem Exact.effect (hexact : t.Exact) (hinv : t.Inv) {action : TelemetryAction}
    (hclean : t.Clean action) {t' : TelemetryCom} (heffect : Effect t action t') : t'.Exact := by
  cases heffect with
  | goesOn connection h hstarted hkept hdone =>
      exact hexact.of_kept rfl (kept_update hkept) fun _ _ => id
  | closes connection h hstarted hkept hdone huse =>
      exact hexact.closeSock (hinv.lt_connSeq hstarted) (hclean.1 connection huse) hkept

theorem Exact.accept (hexact : t.Exact) : t.accept.Exact where
  opened other hother hcloses := by
    by_cases hsame : other = t.connSeq
    · subst hsame
      rw [handler_accept_self, file_accept, if_pos rfl]
    · have hlt : other < t.connSeq := by
        have hle : other < t.connSeq + 1 := hother
        omega
      rw [handler_accept_of_ne hsame] at hcloses ⊢
      have hopened := hexact.opened other hlt hcloses
      have hsock : (t.handler other).sock ≠ t.fds.lowest := by
        intro hsock
        rw [hsock, Descriptors.file_lowest] at hopened
        cases hopened
      rw [file_accept, if_neg hsock]
      exact hopened
  closes other := by
    by_cases hsame : other = t.connSeq
    · subst hsame
      rw [handler_accept_self]
      exact Nat.zero_le 1
    · rw [handler_accept_of_ne hsame]
      exact hexact.closes other
  kept other := by
    by_cases hsame : other = t.connSeq
    · subst hsame
      rw [handler_accept_self]
      rfl
    · rw [handler_accept_of_ne hsame]
      exact hexact.kept other

theorem Exact.handle (hexact : t.Exact) (hloop : t.acceptLoop = true) :
    (t.handle connection).Exact := by
  have hkept : Kept (t.handler connection) ((t.handler connection).handled t.acceptLoop) := by
    rw [hloop]
    exact ⟨rfl, rfl, rfl⟩
  exact hexact.of_kept rfl (kept_update hkept) fun _ _ => id

theorem Exact.of_handler_eq (hexact : t.Exact) {t' : TelemetryCom}
    (hconnSeq : t'.connSeq = t.connSeq) (hhandler : t'.handler = t.handler)
    (hfile : ∀ fd connection, t.fds.file fd = some (.conn connection) →
      t'.fds.file fd = some (.conn connection)) : t'.Exact :=
  hexact.of_kept hconnSeq (fun connection => congrFun hhandler connection ▸ Kept.refl _) hfile

/-- **A clean step** leaves every open socket with its owner. -/
theorem step_exact (hexact : t.Exact) (hinv : t.Inv) {action : TelemetryAction}
    (hclean : t.Clean action) : (t.step action).Exact := by
  have hof (hof : OfHandler action) : (t.step action).Exact := by
    rcases step_ofHandler action hof with hsame | heffect
    · rw [hsame]
      exact hexact
    · exact hexact.effect hinv hclean heffect
  cases action with
  | checkServer =>
      simp only [TelemetryCom.step]
      split_ifs
      · exact hexact.of_handler_eq rfl rfl fun _ _ => id
      · exact hexact.of_handler_eq rfl rfl fun _ _ => id
      · exact hexact
  | accept =>
      simp only [TelemetryCom.step]
      split_ifs
      · exact hexact.accept
      · exact hexact
  | acceptFails =>
      simp only [TelemetryCom.step]
      split_ifs
      · exact hexact.of_handler_eq rfl rfl fun _ _ => id
      · exact hexact
  | handle =>
      cases hserver : t.server with
      | accepted connection =>
          simp only [TelemetryCom.step, hserver]
          exact hexact.handle (hclean.2 rfl connection hserver)
      | _ => simpa only [TelemetryCom.step, hserver] using hexact
  | shutdownCom => exact hexact.of_handler_eq rfl rfl fun _ _ => id
  | openOther =>
      refine hexact.of_handler_eq rfl rfl ?_
      intro fd connection hconn
      -- the number was free
      have hfd : fd ≠ t.fds.lowest := by
        rintro rfl
        rw [Descriptors.file_lowest] at hconn
        cases hconn
      rw [TelemetryCom.step, Descriptors.file_openFile, if_neg hfd]
      exact hconn
  | closeOther fd =>
      simp only [TelemetryCom.step]
      split_ifs with hother
      · refine hexact.of_handler_eq rfl rfl ?_
        intro other connection hconn
        have hne : other ≠ fd := by
          rintro rfl
          rw [hother] at hconn
          cases hconn
        rw [Descriptors.file_close, if_neg hne]
        exact hconn
      · exact hexact
  | _ => exact hof trivial

/-! ## The runs in which the sockets stay with their owners -/

/-- A handler that uses its socket has been started. -/
theorem not_idle_of_socketUse {action : TelemetryAction}
    (huse : connection ∈ t.socketUse action) : ¬ (t.handler connection).Idle := by
  intro hidle
  have hhandler := hidle.handlerThread
  have hreader := hidle.readerThread
  have hcall := hidle.call
  cases action <;> grind [socketUse]

theorem Exact.proper (hexact : t.Exact) (hinv : t.Inv) {action : TelemetryAction}
    (hclean : t.Clean action) : t.Proper action := by
  constructor
  · intro connection huse
    exact hexact.opened connection (hinv.lt_connSeq (not_idle_of_socketUse huse))
      (hclean.1 connection huse)
  · have hnext := step_exact hexact hinv hclean
    intro connection hlt
    refine ⟨hnext.closes connection, ?_⟩
    rintro (hfinished | hdropped)
    · have hdone := (step_inv hinv action).done connection
      rw [doneThreads, if_pos hfinished.1, if_pos hfinished.2] at hdone
      have hcloses := hnext.closes connection
      omega
    · rw [hnext.kept connection] at hdropped
      cases hdropped

/-- A step with its owner's socket that leaves each descriptor closed once is clean. -/
theorem clean_of_proper (hinv : t.Inv) {action : TelemetryAction} (hproper : t.Proper action) :
    t.Clean action := by
  constructor
  · intro connection huse
    by_contra hcloses
    exact hinv.closed connection (Nat.pos_of_ne_zero hcloses) (hproper.1 connection huse)
  · rintro rfl connection hserver
    by_contra hloop
    obtain ⟨hlt, hidle⟩ := hinv.accepted connection hserver
    have hstep : t.step .handle = t.handle connection := by
      simp only [TelemetryCom.step, hserver]
    have hdropped : (t.handle connection).handler connection =
        { t.handler connection with dropped := true } := by
      rw [handler_handle_self, handled, if_neg hloop]
    have honce := hproper.2
    rw [hstep] at honce
    have hcloses := (honce connection hlt).2 (Or.inr (by rw [hdropped]))
    rw [hdropped] at hcloses
    exact absurd (hidle.closes.symm.trans hcloses) Nat.zero_ne_one

/-- **A socket stays with its owner**, and is closed once, in exactly the runs in which
no handler uses it after one of its own closes and no connection is dropped. -/
theorem proper_iff (actions : List TelemetryAction) :
    Always step Proper start actions ↔ Always step Clean start actions := by
  constructor
  · exact Always.imp Inv
      (fun _ action hinv hproper => ⟨step_inv hinv action, clean_of_proper hinv hproper⟩) inv_start
  · refine Always.imp (fun t => t.Inv ∧ t.Exact) ?_ ⟨inv_start, exact_start⟩
    rintro t action ⟨hinv, hexact⟩ hclean
    exact ⟨⟨step_inv hinv action, step_exact hexact hinv hclean⟩, hexact.proper hinv hclean⟩

/-- The reader closes the socket of a client that has gone, its descriptor is that of the
next client, and the handler sends there. -/
theorem not_proper_reused :
    ¬ Always step Proper start
      [.checkServer, .accept, .handle, .checkHandler 0, .checkReader 0, .read 0 true,
        .closeReader 0, .checkServer, .accept, .handle, .send 0 false] := by
  decide +kernel

end TelemetryCom

end M2Cell
