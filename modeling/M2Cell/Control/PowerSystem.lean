import M2Cell.State.Model

/-!
# The PowerSystem

The member functions that reach beyond one subsystem.  `System.processDaq` is
`PowerSubsystem::processDaq`, in the steps in which the source runs it: the fault
check, the comparison with the saved pair of states, the report to the `Model`,
the assignment of the pair and the state machine.  `PowerSystem.processDaq` is
`PowerSystem::_processDaq`, which runs it for the motor and then for comm.

The end of the file says what the two kinds of DAQ processing leave alone: they
turn nothing on and keep the output bits coupled (`descends_processDaq`).

The parts of `_processDaq` have names of their own (`reportHealth`, `checkMotorComm`, `startDaq`,
`motorDaq`, `commDaq`), each the system up to there, because the proofs ask what holds between
them.  A member function of the `FaultMgr` that goes to safe mode is applied by `applyFaultMgr`,
the one place where a report of faults becomes a change of the power.  Every part descends, and
so does the whole.
-/

namespace M2Cell

open FaultStatusBits PowerSubsystemConfig

namespace System

variable (ty : PowerSystemType) (clock : Clocks)

/-! ## `PowerSubsystem::processDaq` -/

/-- The fault check. -/
def processFaults (info : SysInfo) (s : System) : System :=
  s.store ty ((s.call ty 0).processFaults ty (s.checkForFaults ty) info (clock ty).stamp)

/-- The comparison with the saved pair of states. -/
def stateChanged (s : System) : Bool :=
  (s.sub ty).targPowerStatePrev != (s.sub ty).targPowerState ||
    (s.sub ty).actualPowerStatePrev != (s.sub ty).actualPowerState

/-- `_reportStateChange`: report to the Model when there is a context. -/
def reportStateChange (s : System) : System :=
  if (s.sub ty).context then s.reportPowerSystemStateChange clock else s

/-- The assignment of the saved pair. -/
def savePrev (s : System) : System :=
  s.store ty
    { s.call ty 0 with
      sub :=
        { s.sub ty with
          targPowerStatePrev := (s.sub ty).targPowerState
          actualPowerStatePrev := (s.sub ty).actualPowerState } }

/-- The state machine, which adds to `faultsSet`. -/
def processTarg (faultsSet : FaultStatusBits) (s : System) : System × FaultStatusBits :=
  let c := (s.call ty faultsSet).processTarg ty (clock ty)
  (s.store ty c, c.faultsSet)

/-- `processDaq` up to the state machine. -/
def prepareDaq (info : SysInfo) (s : System) : System :=
  let s := s.processFaults ty clock info
  (if s.stateChanged ty then s.reportStateChange ty clock else s).savePrev ty

/-- `PowerSubsystem::processDaq`.  Its return value is always `FAULT`. -/
def processDaq (info : SysInfo) (faultsSet : FaultStatusBits) (s : System) :
    System × FaultStatusBits :=
  (s.prepareDaq ty clock info).processTarg ty clock faultsSet

/-! ## The fault manager in the system -/

/-- Store the result of a member function of the `FaultMgr`, and go to safe mode
if it asks for it. -/
def applyFaultMgr (result : FaultMgr × Bool) (s : System) : System :=
  let s := { s with faultMgr := result.1 }
  if result.2 then (s.goToSafeMode clock).1 else s

/-- `FaultMgr::updatePowerFaults`. -/
def updatePowerFaults (currentFaults : FaultStatusBits) (subsystem : CrioSubsystem)
    (s : System) : System :=
  s.applyFaultMgr clock (s.faultMgr.updatePowerFaults currentFaults subsystem)

/-- `FaultMgr::reportComConnectionCount`. -/
def reportComConnectionCount (count : ℕ) (s : System) : System :=
  s.applyFaultMgr clock (s.faultMgr.reportComConnectionCount count)

end System

namespace PowerSystem

variable (clock : Clocks)

/-! ## Commands -/

/-- `powerMotor`. -/
def powerMotor (on : Bool) (s : System) : System × Bool :=
  if on ∧ s.comm.actualPowerState ≠ .on then (s, false)
  else if on then s.setPowerOn .motor clock
  else (s.setPowerOff .motor clock, true)

/-- `powerComm`. -/
def powerComm (on : Bool) (s : System) : System × Bool :=
  -- the motor goes off first
  let s := if !on ∧ s.motor.actualPowerState ≠ .off then s.setPowerOff .motor clock else s
  if on then s.setPowerOn .comm clock
  else (s.setPowerOff .comm clock, true)

/-- `State::cmdPowerBase`. -/
def cmdPowerBase (powerType : PowerSystemType) (on : Bool) (s : System) : System × Bool :=
  match powerType with
  | .motor => powerMotor clock on s
  | .comm => powerComm clock on s

/-- `State::cmdPower` of the current state: only `STANDBY` and `IDLE` obey. -/
def cmdPower (powerType : PowerSystemType) (on : Bool) (s : System) : System × Bool :=
  match s.currentState with
  | .standby => cmdPowerBase clock powerType on s
  | .idle => cmdPowerBase clock powerType on s
  | _ => (s, false)

/-- `writeCrioInterlockEnable`. -/
def writeCrioInterlockEnable (set : Bool) (s : System) : System :=
  { s with
    outputPort := OutputPortBits.writeBit s.outputPort OutputPortBits.crioInterlockEnable set }

/-! ## `_processDaq` -/

/-- The power supplies share the load. -/
def powerLoadOk (info : SysInfo) : Bool :=
  InputPortBits.getBitAtPos info.inputPort InputPortBits.redundancyOk &&
    InputPortBits.getBitAtPos info.inputPort InputPortBits.loadDistributionOk

/-- The power supplies are healthy.  The boost current inputs are active low. -/
def powerSupplyOk (boostCurrentFaultEnabled : Bool) (info : SysInfo) : Bool :=
  let powerSupply1DcOk := InputPortBits.getBitAtPos info.inputPort InputPortBits.powerSupply1DcOk
  let powerSupply2DcOk := InputPortBits.getBitAtPos info.inputPort InputPortBits.powerSupply2DcOk
  let powerSupply1BoostCurrentOn :=
    !InputPortBits.getBitAtPos info.inputPort InputPortBits.powerSupply1CurrentOk
  let powerSupply2BoostCurrentOn :=
    !InputPortBits.getBitAtPos info.inputPort InputPortBits.powerSupply2CurrentOk
  powerSupply1DcOk && powerSupply2DcOk &&
    !(boostCurrentFaultEnabled && (powerSupply1BoostCurrentOn || powerSupply2BoostCurrentOn))

/-- `_processDaqHealthTelemetry`. -/
def processDaqHealthTelemetry (boostCurrentFaultEnabled : Bool) (info : SysInfo)
    (currentFaults : FaultStatusBits) : FaultStatusBits :=
  let currentFaults :=
    if !powerLoadOk info then setBitAt currentFaults powerSupplyLoadShareErr else currentFaults
  if !powerSupplyOk boostCurrentFaultEnabled info then setBitAt currentFaults powerHealthFault
  else currentFaults

/-- The health faults that `_processDaq` starts with. -/
def healthFaults (info : SysInfo) (s : System) : FaultStatusBits :=
  processDaqHealthTelemetry s.boostCurrentFaultEnabled info 0

/-- Tell the `FaultMgr` about health faults at once. -/
def reportHealth (info : SysInfo) (s : System) : System :=
  if healthFaults info s ≠ 0#64 then s.updatePowerFaults clock (healthFaults info s) .powerSubsystem
  else s

/-- Turn the motor off when its power bit was read back without that of comm. -/
def checkMotorComm (info : SysInfo) (s : System) : System :=
  let motorPowerOn := OutputPortBits.getBitAtPos info.outputPort OutputPortBits.motorPowerOn
  let commPowerOn := OutputPortBits.getBitAtPos info.outputPort OutputPortBits.ilcCommPowerOn
  if motorPowerOn && !commPowerOn then s.setPowerOff .motor clock else s

/-- `_processDaq` before the two subsystems: report health faults, check the motor. -/
def startDaq (info : SysInfo) (s : System) : System :=
  checkMotorComm clock info (reportHealth clock info s)

/-- `processDaq` of the motor within `_processDaq`. -/
def motorDaq (info : SysInfo) (s : System) : System × FaultStatusBits :=
  (startDaq clock info s).processDaq .motor clock info (healthFaults info s)

/-- `processDaq` of comm, and of the motor before it, within `_processDaq`. -/
def commDaq (info : SysInfo) (s : System) : System × FaultStatusBits :=
  (motorDaq clock info s).1.processDaq .comm clock info (motorDaq clock info s).2

/-- `_processDaq`.  The two statuses it compares at its end are only logged. -/
def processDaq (info : SysInfo) (s : System) : System :=
  (commDaq clock info s).1.updatePowerFaults clock (commDaq clock info s).2 .powerSubsystem

/-- `_checkTimeout`. -/
def checkTimeout (diffInSeconds : ℚ) (s : System) : System × Bool :=
  let timedOut := decide (diffInSeconds > 1.5)
  if timedOut then
    let s := (s.setPowerOff .motor clock).setPowerOff .comm clock
    (s.updatePowerFaults clock (setBitAt 0 powerSystemTimeout) .powerSubsystem, timedOut)
  else (s, timedOut)

end PowerSystem

namespace System

/-! ## One `processDaq` -/

section daq

variable (ty : PowerSystemType) (clock : Clocks) (info : SysInfo) (faultsSet : FaultStatusBits)
  (s : System)

theorem confined_processFaults : Confined ty s (s.processFaults ty clock info) := by
  apply confined_store s
  intro pos hpower hreset
  unfold Call.processFaults
  dsimp only
  split_ifs <;> simp [hpower, hreset]

theorem descends_processFaults : Descends s (s.processFaults ty clock info) where
  targ ty' := by
    rcases ty.eq_or_eq_other ty' with rfl | rfl
    · simp only [processFaults, sub_store, Call.processFaults]
      split_ifs <;> simp
    · simp [processFaults]
  spare pos hpos := (confined_processFaults ty clock info s).spare hpos
  powerOff := by
    apply (confined_processFaults ty clock info s).powerOff
    intro hs
    simp only [PowerOff, processFaults, sub_store, outputPort_store, Call.processFaults]
    split_ifs
    · simp
    · exact hs
  low := by
    apply (confined_processFaults ty clock info s).low
    intro hs
    simp only [processFaults, outputPort_store, Call.processFaults]
    split_ifs
    · simp
    · exact hs
  actual ty' := by
    rcases ty.eq_or_eq_other ty' with rfl | rfl
    · simp only [processFaults, sub_store, Call.processFaults]
      split_ifs <;> simp
    · simp [processFaults]
  coupled hs := by
    refine (confined_processFaults ty clock info s).coupled hs ?_
    simp only [processFaults, sub_store, outputPort_store, Call.processFaults]
    split_ifs
    · exact Call.coupled_setPowerOff _ _
    · exact (hs ty).congr rfl rfl rfl rfl

/-- The fault check turns the subsystem off when there are faults. -/
theorem powerOff_processFaults (hfaults : s.checkForFaults ty = true) :
    PowerOff ty (s.processFaults ty clock info) := by
  simp [PowerOff, processFaults, Call.processFaults, hfaults]

theorem offOrSame_reportStateChange : OffOrSame s (s.reportStateChange ty clock) :=
  .ite (offOrSame_reportPowerSystemStateChange clock s) (.refl s)

theorem confined_savePrev : Confined ty s (s.savePrev ty) :=
  confined_store s fun _ _ _ => rfl

theorem descends_savePrev : Descends s (s.savePrev ty) where
  targ ty' := by
    rcases ty.eq_or_eq_other ty' with rfl | rfl <;> simp [savePrev]
  spare pos hpos := (confined_savePrev ty s).spare hpos
  powerOff := by
    apply (confined_savePrev ty s).powerOff
    intro hs
    simpa [PowerOff, savePrev] using hs
  low := (confined_savePrev ty s).low id
  actual ty' := by
    rcases ty.eq_or_eq_other ty' with rfl | rfl <;> simp [savePrev]
  coupled hs := (confined_savePrev ty s).coupled hs (by
    simp only [savePrev, sub_store, outputPort_store]
    exact (hs ty).congr rfl rfl rfl rfl)

theorem follows_processTarg :
    Call.Follows ty (s.call ty faultsSet) ((s.call ty faultsSet).processTarg ty (clock ty)) :=
  Call.follows_processTarg _ _

theorem confined_processTarg : Confined ty s (s.processTarg ty clock faultsSet).1 :=
  confined_store s (follows_processTarg ty clock faultsSet s).port

theorem descends_processTarg : Descends s (s.processTarg ty clock faultsSet).1 :=
  descends_store s (follows_processTarg ty clock faultsSet s)

/-- What follows the fault check in `processDaq`. -/
theorem descends_afterFaults :
    Descends (s.processFaults ty clock info) (s.processDaq ty clock info faultsSet).1 := by
  have hreport := (offOrSame_reportStateChange ty clock (s.processFaults ty clock info)).descends
  exact ((Descends.ite hreport (.refl _)).trans (descends_savePrev ty _)).trans
    (descends_processTarg ty clock faultsSet _)

/-- **`PowerSubsystem::processDaq` turns nothing on.** -/
theorem descends_processDaq : Descends s (s.processDaq ty clock info faultsSet).1 :=
  (descends_processFaults ty clock info s).trans (descends_afterFaults ty clock info faultsSet s)

/-- With faults the call ends with the power off. -/
theorem powerOff_processDaq (hfaults : s.checkForFaults ty = true) :
    PowerOff ty (s.processDaq ty clock info faultsSet).1 :=
  (descends_afterFaults ty clock info faultsSet s).powerOff ty
    (powerOff_processFaults ty clock info s hfaults)

end daq

/-! ## The fault manager -/

section faultMgr

variable (ty : PowerSystemType) (clock : Clocks) (info : SysInfo) (faultsSet : FaultStatusBits)
  (s : System)

@[simp] theorem faultMgr_processDaq :
    (s.processDaq ty clock info faultsSet).1.faultMgr = s.faultMgr := by
  have hreport := offOrSame_reportStateChange ty clock (s.processFaults ty clock info)
  simp only [processDaq, prepareDaq, processTarg, savePrev, faultMgr_store]
  split_ifs
  · exact hreport.faultMgr.trans (by simp [processFaults])
  · simp [processFaults]

theorem descends_applyFaultMgr (result : FaultMgr × Bool) :
    Descends s (s.applyFaultMgr clock result) := by
  have hmgr : Descends s { s with faultMgr := result.1 } :=
    { targ := fun ty => by cases ty <;> exact Or.inl rfl
      spare := fun _ _ => rfl
      powerOff := fun ty hs => by cases ty <;> exact hs
      low := fun _ hs => hs
      actual := fun ty hs => by cases ty <;> exact hs
      coupled := fun hs ty => by
        have h := hs ty
        cases ty <;> exact h }
  exact .ite (hmgr.trans (offOrSame_goToSafeMode clock _).descends) hmgr

@[simp] theorem faultMgr_applyFaultMgr (result : FaultMgr × Bool) :
    (s.applyFaultMgr clock result).faultMgr = result.1 := by
  unfold applyFaultMgr
  dsimp only
  split_ifs
  · exact (offOrSame_goToSafeMode clock _).faultMgr
  · rfl

/-- When the fault manager asks for it, all power is off afterwards. -/
theorem safe_applyFaultMgr {result : FaultMgr × Bool} (h : result.2 = true) :
    (s.applyFaultMgr clock result).TargetsOff ∧ (s.applyFaultMgr clock result).Coupled := by
  simp only [applyFaultMgr, h, if_true]
  exact safe_goToSafeMode clock _

end faultMgr

end System

namespace PowerSystem

variable (clock : Clocks) (info : SysInfo) (s : System)

theorem descends_reportHealth : System.Descends s (reportHealth clock info s) :=
  .ite (System.descends_applyFaultMgr clock s _) (.refl s)

theorem descends_checkMotorComm : System.Descends s (checkMotorComm clock info s) :=
  .ite (System.descends_setPowerOff s .motor clock) (.refl s)

/-- The two subsystems and the second report turn nothing on. -/
theorem descends_afterStart :
    System.Descends (startDaq clock info s) (processDaq clock info s) := by
  have hmotor := System.descends_processDaq .motor clock info (healthFaults info s)
    (startDaq clock info s)
  have hcomm := System.descends_processDaq .comm clock info (motorDaq clock info s).2
    (motorDaq clock info s).1
  have hreport := System.descends_applyFaultMgr clock (commDaq clock info s).1
    ((commDaq clock info s).1.faultMgr.updatePowerFaults (commDaq clock info s).2 .powerSubsystem)
  exact (hmotor.trans hcomm).trans hreport

/-- What follows the report of the health faults turns nothing on. -/
theorem descends_afterHealth :
    System.Descends (reportHealth clock info s) (processDaq clock info s) :=
  (descends_checkMotorComm clock info (reportHealth clock info s)).trans
    (descends_afterStart clock info s)

/-- **`PowerSystem::_processDaq` turns nothing on.** -/
theorem descends_processDaq : System.Descends s (processDaq clock info s) :=
  (descends_reportHealth clock info s).trans (descends_afterHealth clock info s)

/-! ### The fault manager within `_processDaq` -/

theorem faultMgr_reportHealth :
    (reportHealth clock info s).faultMgr =
      if healthFaults info s ≠ 0#64 then
        (s.faultMgr.updatePowerFaults (healthFaults info s) .powerSubsystem).1
      else s.faultMgr := by
  unfold reportHealth
  split_ifs <;> simp [System.updatePowerFaults]

@[simp] theorem faultMgr_startDaq :
    (startDaq clock info s).faultMgr = (reportHealth clock info s).faultMgr := by
  unfold startDaq checkMotorComm
  dsimp only
  split_ifs <;> simp

@[simp] theorem faultMgr_motorDaq :
    (motorDaq clock info s).1.faultMgr = (reportHealth clock info s).faultMgr := by
  simp [motorDaq]

@[simp] theorem faultMgr_commDaq :
    (commDaq clock info s).1.faultMgr = (reportHealth clock info s).faultMgr := by
  simp [commDaq]

theorem faultMgr_processDaq :
    (processDaq clock info s).faultMgr =
      ((reportHealth clock info s).faultMgr.updatePowerFaults (commDaq clock info s).2
        .powerSubsystem).1 := by
  simp [processDaq, System.updatePowerFaults]

end PowerSystem

end M2Cell
