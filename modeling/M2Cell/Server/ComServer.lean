import M2Cell.State.Globals
import M2Cell.Control.PowerSystem
import M2Cell.Server.ConnectionMap

/-!
# The command server

The connections of a `ComServer` while its threads accept, serve and shut them
down.  `_handleAccept` goes through the points of `AcceptPoint`, and
`ComConnection::shutdown`, which runs once for each connection, through those of
`ShutdownPoint`.  Each step of a thread is a `ServerAction`; one that is not at its
point does nothing.

`ComConnection::shutdown` is called by the destructor, when no handler owns the
connection, and by `ComServer::shutdown`, for the connections that it has copied
from the map.

The points stand where another thread can come in between: before and after each mutex is
taken, and between the write of `_connectionActive` and the count that goes with it.  A shutdown
reads and clears that flag in one step, as the source exchanges it.  The map with its reports is
a `ConnectionMap`, and `map_run` says that a run of the server is, on its map, a run of that; so
what is proved about the map holds of the server.
-/

namespace M2Cell

/-- How far `_handleAccept` is for a connection. -/
inductive AcceptPoint
  /-- The connection is not made. -/
  | absent
  /-- `async_accept` is under way. -/
  | waiting
  /-- The server is neither stopped nor shut down; `ok` when there is no error code. -/
  | entered (ok : Bool)
  /-- The connection is in the map and the size was read. -/
  | inserted (ok : Bool) (connectionSize : ℕ)
  /-- The size is reported. -/
  | reported (ok : Bool)
  /-- `_connectionActive` is set. -/
  | active
  /-- `setTcpIpConnected(true)` is done. -/
  | counted
  /-- Only `_beginAccept` is left; `listening` when a command is awaited. -/
  | ending (ok listening : Bool)
  /-- The handler is done and a command is awaited. -/
  | receiving
  /-- The handler returned at once. -/
  | refused
  /-- No handler owns the connection any more. -/
  | released (ok : Bool)
  deriving DecidableEq, Repr

/-- How far `ComConnection::shutdown` is. -/
inductive ShutdownPoint
  /-- It was not called. -/
  | uncalled
  /-- `_shutdown` is set. -/
  | flagged
  /-- `_connectionActive` was set, and is not any more. -/
  | counting
  /-- `eraseConnection` is next. -/
  | erasing
  /-- The connection is not in the map any more and the size was read. -/
  | erased (connectionSize : ℕ)
  | closed
  deriving DecidableEq, Repr

/-- A `ComConnection` and its threads. -/
structure ComConnection where
  accept : AcceptPoint
  shutdown : ShutdownPoint
  /-- `_connectionActive`. -/
  connectionActive : Bool
  deriving DecidableEq, Repr

/-- A `ComServer` and what its threads share. -/
structure ComServer where
  /-- `_state` is `STOPPED`. -/
  stopped : Bool
  /-- `_shutdown`. -/
  shutdown : Bool
  /-- `ComServer::shutdown` has to copy the map. -/
  copying : Bool
  /-- The copied connections that are to be shut down. -/
  vect : Finset ℕ
  connections : Finset ℕ
  /-- The sizes of the map that were read and are not reported yet. -/
  reports : List ℕ
  conn : ℕ → ComConnection
  connIdSeq : ℕ
  globals : Globals
  system : System

/-- The steps of the threads. -/
inductive ServerAction
  /-- The check at the start of `_handleAccept`. -/
  | handleAccept (connId : ℕ) (ok : Bool)
  | emplace (connId : ℕ)
  | reportAccept (connId : ℕ) (clock : Clocks)
  /-- The start of `beginProtocol`. -/
  | setActive (connId : ℕ)
  | countUp (connId : ℕ) (clock : Clocks)
  /-- The welcome and `_receiveCommand`, or the log of the error. -/
  | finish (connId : ℕ)
  | beginAccept (connId : ℕ)
  /-- The last asynchronous operation ends. -/
  | release (connId : ℕ)
  /-- The destructor calls `ComConnection::shutdown`. -/
  | destroy (connId : ℕ)
  /-- `ComServer::shutdown` sets `_shutdown`. -/
  | shutdown
  | copyConnections
  /-- `ComServer::shutdown` calls `ComConnection::shutdown`. -/
  | shutdownConn (connId : ℕ)
  | takeActive (connId : ℕ)
  | countDown (connId : ℕ) (clock : Clocks)
  | eraseConnection (connId : ℕ)
  | reportErase (connId : ℕ) (clock : Clocks)
  /-- `run` ends. -/
  | stop

namespace ComConnection

/-- A connection that is not made yet. -/
def absent : ComConnection := ⟨.absent, .uncalled, false⟩

/-- A new connection. -/
def new : ComConnection := ⟨.waiting, .uncalled, false⟩

end ComConnection

namespace ComServer

/-- The server after the first `_beginAccept` of `run`. -/
def start (port : OutputPortBits) : ComServer where
  stopped := false
  shutdown := false
  copying := false
  vect := ∅
  connections := ∅
  reports := []
  conn := Function.update (fun _ => .absent) 0 .new
  connIdSeq := 1
  globals := .new
  system := .new port

/-- The map and the faults. -/
def map (s : ComServer) : ConnectionMap := ⟨s.connections, s.reports, s.system.faultMgr⟩

/-- Move the accept handler of a connection. -/
def moveAccept (connId : ℕ) (point : AcceptPoint) (s : ComServer) : ComServer :=
  { s with conn := Function.update s.conn connId { s.conn connId with accept := point } }

/-- Move the shutdown of a connection. -/
def moveShutdown (connId : ℕ) (point : ShutdownPoint) (s : ComServer) : ComServer :=
  { s with conn := Function.update s.conn connId { s.conn connId with shutdown := point } }

/-- Write `_connectionActive`. -/
def setConnectionActive (connId : ℕ) (active : Bool) (s : ComServer) : ComServer :=
  { s with conn := Function.update s.conn connId { s.conn connId with connectionActive := active } }

/-- Write the map and the sizes that were read. -/
def setMap (m : ConnectionMap) (s : ComServer) : ComServer :=
  { s with connections := m.connections, reports := m.reports }

/-- `reportComConnectionCount` with a size that was read. -/
def report (connectionSize : ℕ) (clock : Clocks) (s : ComServer) : ComServer :=
  if connectionSize ∈ s.reports then
    { s with
      reports := s.reports.erase connectionSize
      system := s.system.reportComConnectionCount clock connectionSize }
  else s

/-- `Globals::setTcpIpConnected`. -/
def setTcpIpConnected (clock : Clocks) (connecting : Bool) (s : ComServer) : ComServer :=
  let result := s.globals.setTcpIpConnected clock connecting s.system
  { s with globals := result.1, system := result.2 }

/-- `_beginAccept`. -/
def beginAccept (s : ComServer) : ComServer :=
  if s.stopped || s.shutdown then s
  else { s with
    conn := Function.update s.conn s.connIdSeq .new
    connIdSeq := s.connIdSeq + 1 }

/-- `ComConnection::shutdown` sets `_shutdown`, or returns when it was set. -/
def shutdownConn (connId : ℕ) (s : ComServer) : ComServer :=
  if (s.conn connId).shutdown = .uncalled then s.moveShutdown connId .flagged else s

/-- One step of a thread. -/
def step (s : ComServer) : ServerAction → ComServer
  | .handleAccept connId ok =>
      if (s.conn connId).accept = .waiting ∧ (s.conn connId).shutdown = .uncalled then
        s.moveAccept connId (if s.stopped || s.shutdown then .refused else .entered ok)
      else s
  | .emplace connId =>
      match (s.conn connId).accept with
      | .entered ok =>
          let m := s.map.emplace connId
          (s.setMap m).moveAccept connId (.inserted ok m.connections.card)
      | _ => s
  | .reportAccept connId clock =>
      match (s.conn connId).accept with
      | .inserted ok connectionSize =>
          (s.report connectionSize clock).moveAccept connId (.reported ok)
      | _ => s
  | .setActive connId =>
      if (s.conn connId).accept = .reported true then
        (s.setConnectionActive connId true).moveAccept connId .active
      else s
  | .countUp connId clock =>
      if (s.conn connId).accept = .active then
        (s.setTcpIpConnected clock true).moveAccept connId .counted
      else s
  | .finish connId =>
      match (s.conn connId).accept with
      -- `_receiveCommand` returns at once when the connection is shut down
      | .counted => s.moveAccept connId (.ending true ((s.conn connId).shutdown == .uncalled))
      | .reported false => s.moveAccept connId (.ending false false)
      | _ => s
  | .beginAccept connId =>
      match (s.conn connId).accept with
      | .ending ok listening =>
          (s.moveAccept connId (if listening then .receiving else .released ok)).beginAccept
      | _ => s
  | .release connId =>
      if (s.conn connId).accept = .receiving then s.moveAccept connId (.released true) else s
  | .destroy connId =>
      match (s.conn connId).accept with
      | .waiting => s.shutdownConn connId
      | .refused => s.shutdownConn connId
      | .released _ => s.shutdownConn connId
      | _ => s
  | .shutdown => if s.shutdown then s else { s with shutdown := true, copying := true }
  | .copyConnections =>
      if s.copying then { s with copying := false, vect := s.connections } else s
  | .shutdownConn connId =>
      if connId ∈ s.vect then { s with vect := s.vect.erase connId }.shutdownConn connId else s
  | .takeActive connId =>
      if (s.conn connId).shutdown = .flagged then
        (s.setConnectionActive connId false).moveShutdown connId
          (if (s.conn connId).connectionActive then .counting else .erasing)
      else s
  | .countDown connId clock =>
      if (s.conn connId).shutdown = .counting then
        (s.setTcpIpConnected clock false).moveShutdown connId .erasing
      else s
  | .eraseConnection connId =>
      if (s.conn connId).shutdown = .erasing then
        let m := s.map.erase connId
        (s.setMap m).moveShutdown connId
          (if connId ∈ s.connections then .erased m.connections.card else .closed)
      else s
  | .reportErase connId clock =>
      match (s.conn connId).shutdown with
      | .erased connectionSize => (s.report connectionSize clock).moveShutdown connId .closed
      | _ => s
  | .stop => { s with stopped := true }

/-! ## The map of the server -/

theorem map_report (s : ComServer) (connectionSize : ℕ) (clock : Clocks) :
    (s.report connectionSize clock).map = s.map.report connectionSize := by
  unfold report ConnectionMap.report
  by_cases hmem : connectionSize ∈ s.reports
  · simp [map, hmem, System.reportComConnectionCount]
  · simp [map, hmem]

/-- A step of the server is a step of its map, or leaves the map alone. -/
theorem map_step (s : ComServer) (action : ServerAction) :
    (s.step action).map = s.map ∨ ∃ mapAction, (s.step action).map = s.map.step mapAction := by
  cases action with
  | emplace connId =>
      simp only [step]
      split
      · exact Or.inr ⟨.emplace connId, rfl⟩
      · exact Or.inl rfl
  | reportAccept connId clock =>
      simp only [step]
      split
      · exact Or.inr ⟨.report _, s.map_report _ clock⟩
      · exact Or.inl rfl
  | eraseConnection connId =>
      simp only [step]
      split_ifs with herasing hmem
      · refine Or.inr ⟨.erase connId, ?_⟩
        simp [map, setMap, moveShutdown, ConnectionMap.step, ConnectionMap.erase, hmem]
      · refine Or.inr ⟨.erase connId, ?_⟩
        simp [map, setMap, moveShutdown, ConnectionMap.step, ConnectionMap.erase, hmem]
      · exact Or.inl rfl
  | reportErase connId clock =>
      simp only [step]
      split
      · exact Or.inr ⟨.report _, s.map_report _ clock⟩
      · exact Or.inl rfl
  | countUp connId clock =>
      simp only [step]
      split_ifs
      · refine Or.inl ?_
        simp [map, moveAccept, setTcpIpConnected]
      · exact Or.inl rfl
  | countDown connId clock =>
      simp only [step]
      split_ifs
      · refine Or.inl ?_
        simp [map, moveShutdown, setTcpIpConnected]
      · exact Or.inl rfl
  | beginAccept connId =>
      simp only [step]
      split
      · unfold beginAccept
        split_ifs <;> exact Or.inl rfl
      · exact Or.inl rfl
  | finish connId =>
      simp only [step]
      split <;> exact Or.inl rfl
  | destroy connId =>
      simp only [step, shutdownConn]
      split <;> first | (split_ifs <;> exact Or.inl rfl) | exact Or.inl rfl
  | handleAccept | setActive | release | shutdown | copyConnections | takeActive =>
      simp only [step]
      split_ifs <;> exact Or.inl rfl
  | shutdownConn connId =>
      simp only [step, shutdownConn]
      split_ifs <;> exact Or.inl rfl
  | stop => exact Or.inl rfl

/-- **A run of the server** is, on its map, a run of the connection map. -/
theorem map_run (s : ComServer) (actions : List ServerAction) :
    ∃ mapActions, (run step s actions).map = run ConnectionMap.step s.map mapActions := by
  induction actions generalizing s with
  | nil => exact ⟨[], rfl⟩
  | cons action rest ih =>
      obtain ⟨mapActions, hrest⟩ := ih (s.step action)
      rcases s.map_step action with hsame | ⟨mapAction, hstep⟩
      · exact ⟨mapActions, by rw [run_cons, hrest, hsame]⟩
      · exact ⟨mapAction :: mapActions, by rw [run_cons, run_cons, hrest, hstep]⟩

end ComServer

end M2Cell
