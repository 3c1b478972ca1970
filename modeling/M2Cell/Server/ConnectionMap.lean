import M2Cell.FaultMgr.FaultMgr
import M2Cell.Lib.Run

/-!
# The connection map

`ComServer::_connections` and the reports about it.  An accept handler and
`eraseConnection` change the map and read its size under `_mapMtx`, and report the
size to the `FaultMgr` after they have released the mutex.  In between other
threads may change the map and report their own sizes.

So a report is two steps: a change of the map, which leaves a size to be reported, and the report
of one of these sizes, in any order.  `_commConnectionFault` is what the size that was reported
last says, and the fault bit of the summary goes with it.  Whether that agrees with the map is
the subject of `M2Cell.Proofs.ConnectionFault`; the map of the whole server, with the threads
that work on its connections, is in `M2Cell.Server.ComServer`.
-/

namespace M2Cell

/-- The map with the reports under way. -/
structure ConnectionMap where
  /-- The keys of `_connections`. -/
  connections : Finset ℕ
  /-- The sizes that were read and are not reported yet. -/
  reports : List ℕ
  faultMgr : FaultMgr

/-- The steps of `_handleAccept` and `eraseConnection` that concern the map. -/
inductive ConnectionAction
  | emplace (connId : ℕ)
  | erase (connId : ℕ)
  | report (connectionSize : ℕ)

namespace ConnectionMap

/-- The server starts without connections. -/
def start : ConnectionMap := ⟨∅, [], .new⟩

/-- Insert a connection and read the size. -/
def emplace (connId : ℕ) (m : ConnectionMap) : ConnectionMap :=
  { m with
    connections := insert connId m.connections
    reports := m.reports ++ [(insert connId m.connections).card] }

/-- Erase a connection and read the size. -/
def erase (connId : ℕ) (m : ConnectionMap) : ConnectionMap :=
  if connId ∈ m.connections then
    { m with
      connections := m.connections.erase connId
      reports := m.reports ++ [(m.connections.erase connId).card] }
  else m

/-- Report a size that was read. -/
def report (connectionSize : ℕ) (m : ConnectionMap) : ConnectionMap :=
  if connectionSize ∈ m.reports then
    { m with
      reports := m.reports.erase connectionSize
      faultMgr := (m.faultMgr.reportComConnectionCount connectionSize).1 }
  else m

/-- One step of a thread. -/
def step (m : ConnectionMap) : ConnectionAction → ConnectionMap
  | .emplace connId => m.emplace connId
  | .erase connId => m.erase connId
  | .report connectionSize => m.report connectionSize

/-- The size that a step reports. -/
def reported (m : ConnectionMap) : ConnectionAction → Option ℕ
  | .report connectionSize => if connectionSize ∈ m.reports then some connectionSize else none
  | _ => none

/-- `_commConnectionFault`. -/
def commConnectionFault (m : ConnectionMap) : Bool := m.faultMgr.commConnectionFault

/-- The `CRIO_COMM_FAULT` bit of the system summary. -/
def crioCommFault (m : ConnectionMap) : Bool :=
  Word.bit m.faultMgr.getSummaryFaults FaultStatusBits.crioCommFault

end ConnectionMap

end M2Cell
