import M2Cell.Control.DaqThread
import M2Cell.State.Globals
import Mathlib.Logic.Function.Basic

/-!
# The shutdown of the system

`Model::systemShutdown` goes to `OFFLINE`, turns all power off and stops the loops,
in a thread of its own.  Meanwhile power commands, changes of the number of
connections, reports to the `FaultMgr` and the DAQ threads go on.

`NCmdPower::action` reads the state of the `Model` and then calls `cmdPower` of the
state that it has read.  Nothing is held in between, and `cmdPower` does not look
at the `Model` again: `read` keeps what each client has read.

The three parts of `systemShutdown` are three steps, each at its own point
(`SystemShutdownPoint`), with anything in between: the source sleeps a second before the last
one.  The DAQ threads are those of `M2Cell.Control.DaqThread`, and their loop goes on until the
last part has told it to stop.  When nothing comes between the reading and the command, the two
are the command of `PowerSystem` (`step_cmdPower_readState`).
-/

namespace M2Cell

/-- `State::cmdPower` of a state: only `STANDBY` and `IDLE` obey. -/
def StateEnum.cmdPower (state : StateEnum) (clock : Clocks) (powerType : PowerSystemType)
    (on : Bool) (s : System) : System × Bool :=
  match state with
  | .standby => PowerSystem.cmdPowerBase clock powerType on s
  | .idle => PowerSystem.cmdPowerBase clock powerType on s
  | _ => (s, false)

/-- How far `systemShutdown` is. -/
inductive SystemShutdownPoint
  | notCalled
  /-- The state was changed to `OFFLINE`, if the `Model` accepted it. -/
  | offline
  /-- Everything was turned off. -/
  | turnedOff
  /-- The loops are stopped. -/
  | stopped
  deriving DecidableEq, Repr

/-- The program while it may be shut down. -/
structure Program where
  system : System
  globals : Globals
  daq : DaqThreads
  /-- The state that a client's `NCmdPower` has read. -/
  read : ℕ → Option StateEnum
  shutdown : SystemShutdownPoint

/-- The steps of the threads. -/
inductive ProgramAction
  /-- The first step of `systemShutdown`. -/
  | enterOffline (clock : Clocks)
  | turnOffAll (clock : Clocks)
  | stopLoops
  /-- `NCmdPower::action` of a client reads the current state. -/
  | readState (client : ℕ)
  /-- It calls `cmdPower` of the state it has read. -/
  | cmdPower (client : ℕ) (powerType : PowerSystemType) (status : Bool) (clock : Clocks)
  | setTcpIpConnected (connecting : Bool) (clock : Clocks)
  | reportComConnectionCount (count : ℕ) (clock : Clocks)
  | daq (action : DaqAction)

namespace Program

/-- The program before any of the steps. -/
def start (system : System) (globals : Globals) : Program where
  system := system
  globals := globals
  daq := .new
  read _ := none
  shutdown := .notCalled

/-- `cmdPower` of the state that a client has read. -/
def cmdPower (client : ℕ) (powerType : PowerSystemType) (status : Bool) (clock : Clocks)
    (p : Program) : Program :=
  match p.read client with
  | none => p
  | some state =>
      { p with
        system := (state.cmdPower clock powerType status p.system).1
        read := Function.update p.read client none }

/-- One step of a thread. -/
def step (p : Program) : ProgramAction → Program
  | .enterOffline clock =>
      if p.shutdown = .notCalled then
        { p with system := (p.system.changeState clock .offline).1, shutdown := .offline }
      else p
  | .turnOffAll clock =>
      if p.shutdown = .offline then
        { p with system := p.system.turnOffAll clock, shutdown := .turnedOff }
      else p
  | .stopLoops =>
      if p.shutdown = .turnedOff then
        { p with daq := { p.daq with loop := false }, shutdown := .stopped }
      else p
  | .readState client =>
      { p with read := Function.update p.read client (some p.system.currentState) }
  | .cmdPower client powerType status clock => p.cmdPower client powerType status clock
  | .setTcpIpConnected connecting clock =>
      let result := p.globals.setTcpIpConnected clock connecting p.system
      { p with globals := result.1, system := result.2 }
  | .reportComConnectionCount count clock =>
      { p with system := p.system.reportComConnectionCount clock count }
  | .daq action =>
      let result := DaqThreads.step (p.daq, p.system) action
      { p with daq := result.1, system := result.2 }

/-- `NCmdPower::action` with nothing in between is the command to the `Model`. -/
theorem step_cmdPower_readState (p : Program) (client : ℕ) (powerType : PowerSystemType)
    (status : Bool) (clock : Clocks) :
    ((p.step (.readState client)).step (.cmdPower client powerType status clock)).system =
      (PowerSystem.cmdPower clock powerType status p.system).1 := by
  have hread : (p.step (.readState client)).read client = some p.system.currentState :=
    Function.update_self ..
  simp only [step, cmdPower] at hread ⊢
  rw [hread]
  rfl

end Program

end M2Cell
