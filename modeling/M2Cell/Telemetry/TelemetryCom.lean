import M2Cell.Lib.Descriptors
import M2Cell.Lib.Run

/-!
# The telemetry server

The sockets of a `TelemetryCom` while its threads use them.  The server thread
accepts connections and makes a `ServerConnectionHandler` for each of them, which
starts a handler thread (`_servConnHandler`, which sends) and a reader thread
(`_servConnReader`).  `servConnHShutdown` is called by the handler thread after a
failed `send`, by `shutdownCom` and by the destructor, each in its own thread.

Every one of them closes `_servConnHSock`, which is a number.  A `TelemetryAction`
is one step of a thread; one that is not at its point does nothing.  Handlers are
numbered by the connections that were accepted for them, and the rest of the program
opens and closes descriptors as well.
-/

namespace M2Cell

/-- What a descriptor refers to. -/
inductive File
  /-- A connection of the telemetry server. -/
  | conn (connection : ℕ)
  /-- Something else: the listening socket, the sockets of the command server. -/
  | other
  deriving DecidableEq, Repr

/-- The steps of `servConnHShutdown`. -/
inductive HShutdownStep
  /-- `_connLoop` is to be cleared. -/
  | flag
  | shutdown
  | close
  deriving DecidableEq, Repr

/-- How far `_server` is. -/
inductive ServerPoint
  /-- At the condition of the loop. -/
  | loop
  | accepting
  /-- `accept` has returned the socket of a connection. -/
  | accepted (connection : ℕ)
  | done
  deriving DecidableEq, Repr

/-- How far `_servConnHandler` is. -/
inductive HandlerPoint
  | notStarted
  /-- At the condition of the loop. -/
  | loop
  /-- In the loop over the items. -/
  | sending
  /-- In `servConnHShutdown`. -/
  | shutdown (step : HShutdownStep)
  | closing
  | done
  deriving DecidableEq, Repr

/-- How far `_servConnReader` is. -/
inductive ReaderPoint
  | notStarted
  /-- At the condition of the loop. -/
  | loop
  | reading
  | closing
  | done
  deriving DecidableEq, Repr

/-- How far a call of `servConnHShutdown` from outside is. -/
inductive CallPoint
  | notCalled
  | running (step : HShutdownStep)
  | returned
  deriving DecidableEq, Repr

/-- The callers of `servConnHShutdown` from outside. -/
inductive HShutdownCaller
  | shutdownCom
  | destructor
  deriving DecidableEq, Repr

/-- A `ServerConnectionHandler`. -/
structure ServerConnectionHandler where
  /-- `_servConnHSock`. -/
  sock : ℕ
  /-- `_connLoop`. -/
  connLoop : Bool
  handlerThread : HandlerPoint
  readerThread : ReaderPoint
  call : HShutdownCaller → CallPoint
  /-- It was joined and removed. -/
  removed : Bool
  /-- The server thread has dropped the connection. -/
  dropped : Bool
  /-- How often its threads have called `close` for the socket. -/
  closes : ℕ

/-- A `TelemetryCom`. -/
structure TelemetryCom where
  fds : Descriptors File
  handler : ℕ → ServerConnectionHandler
  /-- The number of the next connection. -/
  connSeq : ℕ
  server : ServerPoint
  /-- `_acceptLoop`. -/
  acceptLoop : Bool
  /-- `_shutdownComCalled`. -/
  shutdownComCalled : Bool

/-- The steps of the threads. -/
inductive TelemetryAction
  | checkServer
  /-- `accept` returns a socket. -/
  | accept
  | acceptFails
  /-- The server thread goes on with the socket. -/
  | handle
  /-- `shutdownCom` clears `_acceptLoop`. -/
  | shutdownCom
  | checkHandler (connection : ℕ)
  | send (connection : ℕ) (failed : Bool)
  /-- The loop over the items is at its end. -/
  | endPass (connection : ℕ)
  | hShutdown (connection : ℕ)
  | closeHandler (connection : ℕ)
  | checkReader (connection : ℕ)
  | read (connection : ℕ) (failed : Bool)
  | closeReader (connection : ℕ)
  /-- The call or the next step of `servConnHShutdown` from outside. -/
  | outerShutdown (connection : ℕ) (caller : HShutdownCaller)
  /-- The threads of a handler are joined and it is removed. -/
  | remove (connection : ℕ)
  /-- The rest of the program opens a descriptor. -/
  | openOther
  | closeOther (fd : ℕ)
  deriving DecidableEq, Repr

namespace ServerConnectionHandler

/-- A handler that is not made. -/
def absent : ServerConnectionHandler where
  sock := 0
  connLoop := true
  handlerThread := .notStarted
  readerThread := .notStarted
  call _ := .notCalled
  removed := false
  dropped := false
  closes := 0

/-- The handler for a socket that `accept` has returned: its threads start.  Without
`_acceptLoop` there is none, and the socket is dropped. -/
def handled (acceptLoop : Bool) (h : ServerConnectionHandler) : ServerConnectionHandler :=
  if acceptLoop then { h with handlerThread := .loop, readerThread := .loop }
  else { h with dropped := true }

/-- Both threads are at their end. -/
def Finished (h : ServerConnectionHandler) : Prop :=
  h.handlerThread = .done ∧ h.readerThread = .done

instance (h : ServerConnectionHandler) : Decidable h.Finished :=
  inferInstanceAs (Decidable (_ ∧ _))

end ServerConnectionHandler

namespace TelemetryCom

/-- The server listens. -/
def start : TelemetryCom where
  fds := [some .other]
  handler _ := .absent
  connSeq := 0
  server := .loop
  acceptLoop := true
  shutdownComCalled := false

/-- Write a handler. -/
def setHandler (connection : ℕ) (h : ServerConnectionHandler) (t : TelemetryCom) : TelemetryCom :=
  { t with handler := Function.update t.handler connection h }

/-- Close the socket of a handler, which is `h` afterwards. -/
def closeSock (connection : ℕ) (h : ServerConnectionHandler) (t : TelemetryCom) : TelemetryCom :=
  { t with
    fds := t.fds.close h.sock
    handler := Function.update t.handler connection { h with closes := h.closes + 1 } }

/-- `accept` returns the lowest free descriptor. -/
def accept (t : TelemetryCom) : TelemetryCom :=
  { t with
    fds := t.fds.openFile (.conn t.connSeq)
    handler :=
      Function.update t.handler t.connSeq
        { ServerConnectionHandler.absent with sock := t.fds.lowest }
    connSeq := t.connSeq + 1
    server := .accepted t.connSeq }

/-- The server thread checks `_acceptLoop` and makes the handler. -/
def handle (connection : ℕ) (t : TelemetryCom) : TelemetryCom :=
  { t.setHandler connection ((t.handler connection).handled t.acceptLoop) with server := .loop }

/-- `servConnHShutdown` may be called from outside: `shutdownCom` joins the server
thread first, and the destructor calls `shutdownCom`. -/
def MayCall (t : TelemetryCom) : HShutdownCaller → Prop
  | .shutdownCom => t.shutdownComCalled ∧ t.server = .done
  | .destructor => t.shutdownComCalled

instance (t : TelemetryCom) : ∀ caller, Decidable (t.MayCall caller)
  | .shutdownCom => inferInstanceAs (Decidable (_ ∧ _))
  | .destructor => inferInstanceAs (Decidable (_ = true))

/-- The next step of `servConnHShutdown` in a handler: the handler, and whether the
socket is closed. -/
def hShutdown (step : HShutdownStep) (h : ServerConnectionHandler) :
    ServerConnectionHandler × Bool :=
  match step with
  | .flag => ({ h with connLoop := false }, false)
  | .shutdown => (h, false)
  | .close => (h, true)

/-- The step after a step of `servConnHShutdown`. -/
def nextStep : HShutdownStep → Option HShutdownStep
  | .flag => some .shutdown
  | .shutdown => some .close
  | .close => none

/-- Write a handler, and close its socket if asked to. -/
def put (connection : ℕ) (result : ServerConnectionHandler × Bool) (t : TelemetryCom) :
    TelemetryCom :=
  if result.2 then t.closeSock connection result.1 else t.setHandler connection result.1

/-- One step of a thread. -/
def step (t : TelemetryCom) : TelemetryAction → TelemetryCom
  | .checkServer =>
      if t.server = .loop then
        { t with server := if t.acceptLoop then .accepting else .done }
      else t
  | .accept => if t.server = .accepting then t.accept else t
  | .acceptFails =>
      if t.server = .accepting then { t with server := .loop, acceptLoop := false } else t
  | .handle =>
      match t.server with
      | .accepted connection => t.handle connection
      | _ => t
  | .shutdownCom => { t with acceptLoop := false, shutdownComCalled := true }
  | .checkHandler connection =>
      let h := t.handler connection
      if h.handlerThread = .loop then
        t.setHandler connection
          { h with handlerThread := if h.connLoop then .sending else .closing }
      else t
  | .send connection failed =>
      let h := t.handler connection
      if h.handlerThread = .sending then
        t.setHandler connection
          { h with handlerThread := if failed then .shutdown .flag else .sending }
      else t
  | .endPass connection =>
      let h := t.handler connection
      if h.handlerThread = .sending then t.setHandler connection { h with handlerThread := .loop }
      else t
  | .hShutdown connection =>
      let h := t.handler connection
      match h.handlerThread with
      | .shutdown step =>
          let next := match nextStep step with
            | some next => HandlerPoint.shutdown next
            | none => .loop
          t.put connection (hShutdown step { h with handlerThread := next })
      | _ => t
  | .closeHandler connection =>
      let h := t.handler connection
      if h.handlerThread = .closing then
        t.closeSock connection { h with handlerThread := .done }
      else t
  | .checkReader connection =>
      let h := t.handler connection
      if h.readerThread = .loop then
        t.setHandler connection
          { h with readerThread := if h.connLoop then .reading else .closing }
      else t
  | .read connection failed =>
      let h := t.handler connection
      if h.readerThread = .reading then
        t.setHandler connection { h with readerThread := if failed then .closing else .loop }
      else t
  | .closeReader connection =>
      let h := t.handler connection
      if h.readerThread = .closing then
        t.closeSock connection { h with readerThread := .done }
      else t
  | .outerShutdown connection caller =>
      let h := t.handler connection
      match h.call caller with
      | .notCalled =>
          if t.MayCall caller ∧ h.handlerThread ≠ .notStarted ∧ !h.removed then
            t.setHandler connection
              { h with call := Function.update h.call caller (.running .flag) }
          else t
      | .running step =>
          let next := match nextStep step with
            | some next => CallPoint.running next
            | none => .returned
          t.put connection (hShutdown step { h with call := Function.update h.call caller next })
      | .returned => t
  | .remove connection =>
      let h := t.handler connection
      if h.Finished then t.setHandler connection { h with removed := true } else t
  | .openOther => { t with fds := t.fds.openFile .other }
  | .closeOther fd => if t.fds.file fd = some .other then { t with fds := t.fds.close fd } else t

/-- The connection whose handler uses its socket in a step: `send`, `read`,
`shutdown` or `close`. -/
def socketUse (t : TelemetryCom) : TelemetryAction → Option ℕ
  | .send connection _ =>
      if (t.handler connection).handlerThread = .sending then some connection else none
  | .hShutdown connection =>
      match (t.handler connection).handlerThread with
      | .shutdown .shutdown => some connection
      | .shutdown .close => some connection
      | _ => none
  | .closeHandler connection =>
      if (t.handler connection).handlerThread = .closing then some connection else none
  | .read connection _ =>
      if (t.handler connection).readerThread = .reading then some connection else none
  | .closeReader connection =>
      if (t.handler connection).readerThread = .closing then some connection else none
  | .outerShutdown connection caller =>
      match (t.handler connection).call caller with
      | .running .shutdown => some connection
      | .running .close => some connection
      | _ => none
  | _ => none

end TelemetryCom

end M2Cell
