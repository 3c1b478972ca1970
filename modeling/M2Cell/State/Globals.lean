import M2Cell.State.Model

/-!
# Globals

The values that the whole program shares.  `setTcpIpConnected` counts the active
connections and moves the `Model`: to `OFFLINE` when none is left, to `STANDBY`
with the first one.

The source changes the count and the state of the `Model` under one mutex, so the function is one
step here.  It is cut in two (`countAfter`, `stateAfter`), because the proofs about the counters
look at the count and those about the power at the state that is asked for.  The `Model` is asked
whether its state changes or not, and it may refuse: what comes of the request is
`System.changeState`.  A missing client is not reported to the `FaultMgr` here; that comes from
the map of connections.
-/

namespace M2Cell

/-- `Globals`, as far as the server reads it. -/
structure Globals where
  hardPointList : List ℤ
  temperatureOffsetsRing : List ℚ
  temperatureOffsetsIntake : List ℚ
  temperatureOffsetsExhaust : List ℚ
  tcpIpConnectedCount : ℤ
  commandableByDds : Bool
  interlock : Bool
  telemetrySource : ℤ
  summaryState : ℤ
  digitalInput : BitVec 32
  digitalOutput : BitVec 32
  closedLoopControlMode : ℤ
  deriving DecidableEq

namespace Globals

/-- The default values. -/
def new : Globals where
  hardPointList := [6, 16, 26, 74, 76, 78]
  temperatureOffsetsRing := List.replicate 12 21
  temperatureOffsetsIntake := [0, 0]
  temperatureOffsetsExhaust := [0, 0]
  tcpIpConnectedCount := 0
  commandableByDds := true
  interlock := true
  telemetrySource := 1
  summaryState := 5
  digitalInput := 0x9F00FFFF#32
  digitalOutput := 0x1C#32
  closedLoopControlMode := 1

/-- The count that `setTcpIpConnected` writes. -/
def countAfter (connecting : Bool) (originalCount : ℤ) : ℤ :=
  if connecting then originalCount + 1 else originalCount - 1

/-- The state that `setTcpIpConnected` asks the `Model` for. -/
def stateAfter (originalCount count : ℤ) : Option StateEnum :=
  if count ≤ 0 then some .offline
  else if originalCount ≤ 0 ∧ count > 0 then some .standby
  else none

/-- `setTcpIpConnected`. -/
def setTcpIpConnected (clock : Clocks) (connecting : Bool) (g : Globals) (s : System) :
    Globals × System :=
  let count := countAfter connecting g.tcpIpConnectedCount
  ({ g with tcpIpConnectedCount := count },
    match stateAfter g.tcpIpConnectedCount count with
    | some newState => (s.changeState clock newState).1
    | none => s)

@[simp] theorem faultMgr_setTcpIpConnected (clock : Clocks) (connecting : Bool) (g : Globals)
    (s : System) : (g.setTcpIpConnected clock connecting s).2.faultMgr = s.faultMgr := by
  simp only [setTcpIpConnected]
  split
  · exact (System.offOrSame_changeState clock s _).faultMgr
  · rfl

/-- `getTcpIpConnected`. -/
def getTcpIpConnected (g : Globals) : Bool := decide (g.tcpIpConnectedCount > 0)

/-- `setSummaryState`. -/
def setSummaryState (val : ℤ) (g : Globals) : Globals := { g with summaryState := val }

end Globals

end M2Cell
