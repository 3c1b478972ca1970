import M2Cell.Control.PowerSystem
import M2Cell.Lib.Run

/-!
# The DAQ threads

The thread of the `FpgaIo` reads the system information and queues a
`_daqInfoRead` for the thread of the `PowerSystem`; a third thread queues
`_daqTimeoutCheck`.  The thread of the `PowerSystem` takes a command from the queue
and does its steps one after another, with other threads in between.  `stopLoop`
ends the loop of the `FpgaIo` and nothing else.

`run_processDaqSteps` says that the steps of `_processDaq` with nothing in between
are `PowerSystem.processDaq`.

The steps of a command are a list that is worked off (`commandSteps`, `perform`).  What a step
hands on to a later one is kept beside the list: the information that was read, the faults that
were set so far, and whether the pair of states has changed.  The cuts are where the source gives
a mutex back, and around the comparison and the assignment of the saved pair, which hold none.
-/

namespace M2Cell

/-- The commands of the queue. -/
inductive DaqCommand
  | daqInfoRead
  | daqTimeoutCheck
  deriving DecidableEq, Repr

/-- The steps of a command. -/
inductive DaqStep
  | getSysInfo
  /-- A `setPowerOff` of `_checkTimeout`. -/
  | setPowerOff (ty : PowerSystemType)
  | reportTimeout
  | reportHealth
  | checkMotorComm
  | processFaults (ty : PowerSystemType)
  /-- The comparison of the pair of states with the saved one. -/
  | compare (ty : PowerSystemType)
  | report (ty : PowerSystemType)
  | savePrev (ty : PowerSystemType)
  | processTarg (ty : PowerSystemType)
  | updatePowerFaults
  deriving DecidableEq, Repr

/-- The threads that process the DAQ data. -/
structure DaqThreads where
  /-- `FpgaIo::_loop`. -/
  loop : Bool
  /-- The thread of the `FpgaIo` is past the condition of its loop. -/
  iterating : Bool
  /-- `FpgaIo::_sysInfo`. -/
  sysInfo : SysInfo
  queue : List DaqCommand
  /-- The steps that are left of the command. -/
  todo : List DaqStep
  /-- The copy that the command works on. -/
  info : SysInfo
  currentFaults : FaultStatusBits
  /-- The last comparison found a change. -/
  changed : Bool
  deriving DecidableEq

/-- What the threads do. -/
inductive DaqAction
  | checkLoop
  | readWriteFpga (info : SysInfo)
  | queueTimeoutCheck
  /-- The next command is taken; its data are so old. -/
  | takeCommand (diffInSeconds : ℚ)
  | perform (clock : Clocks)

namespace DaqThreads

/-- The threads at their start. -/
def new : DaqThreads where
  loop := true
  iterating := false
  sysInfo := ⟨0, 0, 0, 0, 0, 0⟩
  queue := []
  todo := []
  info := ⟨0, 0, 0, 0, 0, 0⟩
  currentFaults := 0
  changed := false

/-! ## The steps of a command -/

/-- `_checkTimeout`. -/
def checkTimeoutSteps (diffInSeconds : ℚ) : List DaqStep :=
  if diffInSeconds > 1.5 then [.setPowerOff .motor, .setPowerOff .comm, .reportTimeout] else []

/-- `PowerSubsystem::processDaq`. -/
def subsystemSteps (ty : PowerSystemType) : List DaqStep :=
  [.processFaults ty, .compare ty, .report ty, .savePrev ty, .processTarg ty]

/-- `PowerSystem::_processDaq`. -/
def processDaqSteps : List DaqStep :=
  [.reportHealth, .checkMotorComm] ++ subsystemSteps .motor ++ subsystemSteps .comm ++
    [.updatePowerFaults]

/-- `_daqInfoRead` and `_daqTimeoutCheck`. -/
def commandSteps (diffInSeconds : ℚ) : DaqCommand → List DaqStep
  | .daqInfoRead => .getSysInfo :: checkTimeoutSteps diffInSeconds ++ processDaqSteps
  | .daqTimeoutCheck =>
      if diffInSeconds > 1.5 then
        checkTimeoutSteps diffInSeconds ++ .getSysInfo :: processDaqSteps
      else []

/-- One step of a command. -/
def perform (clock : Clocks) (t : DaqThreads × System) : DaqStep → DaqThreads × System
  | .getSysInfo => ({ t.1 with info := t.1.sysInfo }, t.2)
  | .setPowerOff ty => (t.1, t.2.setPowerOff ty clock)
  | .reportTimeout =>
      (t.1, t.2.updatePowerFaults clock
        (FaultStatusBits.setBitAt 0 FaultStatusBits.powerSystemTimeout) .powerSubsystem)
  | .reportHealth =>
      ({ t.1 with currentFaults := PowerSystem.healthFaults t.1.info t.2 },
        PowerSystem.reportHealth clock t.1.info t.2)
  | .checkMotorComm => (t.1, PowerSystem.checkMotorComm clock t.1.info t.2)
  | .processFaults ty => (t.1, t.2.processFaults ty clock t.1.info)
  | .compare ty => ({ t.1 with changed := t.2.stateChanged ty }, t.2)
  | .report ty => (t.1, if t.1.changed then t.2.reportStateChange ty clock else t.2)
  | .savePrev ty => (t.1, t.2.savePrev ty)
  | .processTarg ty =>
      let result := t.2.processTarg ty clock t.1.currentFaults
      ({ t.1 with currentFaults := result.2 }, result.1)
  | .updatePowerFaults => (t.1, t.2.updatePowerFaults clock t.1.currentFaults .powerSubsystem)

/-- One action. -/
def step (t : DaqThreads × System) : DaqAction → DaqThreads × System
  | .checkLoop => ({ t.1 with iterating := t.1.iterating || t.1.loop }, t.2)
  | .readWriteFpga info =>
      if t.1.iterating then
        ({ t.1 with iterating := false, sysInfo := info, queue := t.1.queue ++ [.daqInfoRead] },
          t.2)
      else t
  | .queueTimeoutCheck => ({ t.1 with queue := t.1.queue ++ [.daqTimeoutCheck] }, t.2)
  | .takeCommand diffInSeconds =>
      match t.1.todo, t.1.queue with
      | [], command :: queue =>
          ({ t.1 with todo := commandSteps diffInSeconds command, queue := queue }, t.2)
      | _, _ => t
  | .perform clock =>
      match t.1.todo with
      | [] => t
      | next :: todo => perform clock ({ t.1 with todo := todo }, t.2) next

/-! ## The steps together -/

variable (clock : Clocks) (d : DaqThreads) (s : System)

theorem run_subsystemSteps (ty : PowerSystemType) :
    (run (perform clock) (d, s) (subsystemSteps ty)).2 =
        (s.processDaq ty clock d.info d.currentFaults).1 ∧
      (run (perform clock) (d, s) (subsystemSteps ty)).1.info = d.info ∧
      (run (perform clock) (d, s) (subsystemSteps ty)).1.currentFaults =
        (s.processDaq ty clock d.info d.currentFaults).2 := by
  refine ⟨?_, rfl, ?_⟩ <;>
    simp only [subsystemSteps, run_cons, run_nil, perform, System.processDaq, System.prepareDaq]

/-- **The steps of one `_processDaq`** with nothing in between are the whole of it. -/
theorem run_processDaqSteps :
    (run (perform clock) (d, s) processDaqSteps).2 = PowerSystem.processDaq clock d.info s := by
  unfold processDaqSteps
  rw [run_append, run_append, run_append]
  set start := run (perform clock) (d, s) [.reportHealth, .checkMotorComm] with hstart
  have hinfo : start.1.info = d.info := rfl
  have hfaults : start.1.currentFaults = PowerSystem.healthFaults d.info s := rfl
  have hsystem : start.2 = PowerSystem.startDaq clock d.info s := rfl
  obtain ⟨hmotor, hmotorInfo, hmotorFaults⟩ := run_subsystemSteps clock start.1 start.2 .motor
  set motor := run (perform clock) (start.1, start.2) (subsystemSteps .motor)
  rw [hinfo, hfaults, hsystem] at hmotor hmotorFaults
  rw [hinfo] at hmotorInfo
  obtain ⟨hcomm, -, hcommFaults⟩ := run_subsystemSteps clock motor.1 motor.2 .comm
  set comm := run (perform clock) (motor.1, motor.2) (subsystemSteps .comm)
  rw [hmotorInfo, hmotorFaults, hmotor] at hcomm hcommFaults
  change comm.2.updatePowerFaults clock comm.1.currentFaults .powerSubsystem = _
  rw [hcomm, hcommFaults]
  rfl

/-- The steps of `_checkTimeout` with nothing in between. -/
theorem run_checkTimeoutSteps (diffInSeconds : ℚ) :
    run (perform clock) (d, s) (checkTimeoutSteps diffInSeconds) =
      (d, (PowerSystem.checkTimeout clock diffInSeconds s).1) := by
  unfold checkTimeoutSteps PowerSystem.checkTimeout
  by_cases htimedOut : diffInSeconds > 1.5
  · simp only [htimedOut, if_true, decide_true]
    rfl
  · simp only [htimedOut, if_false, decide_false, Bool.false_eq_true]
    rfl

end DaqThreads

end M2Cell
