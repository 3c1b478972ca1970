import M2Cell.Control.PowerSubsystemConfig

/-!
# One power subsystem

`PowerSubsystem` is the state machine behind motor power and comm power.  A
member function reads and writes three things: the subsystem, the output port of
the FPGA and the `faultsSet` argument.  `Call` is the record of the three, and
every member function is a function on it.

`_processPowerOn` switches over the actual state.  Its longer cases are
definitions of their own (`processOn`, `processTurningOn`, `processReset`); the
fall-through from `OFF` and `TURNING_OFF` is a call of the next case.

A `Clock` holds the clock readings of one call: `now` is the local variable of
`_processPowerOn` and `_processPowerOff`, and `stamp` the reading that a new
target or a new phase of `ON` stores.  No call stores two different stamps.

The file ends with what each of the small operations does to the fields and to
the bits of the port; nothing later unfolds them.
-/

namespace M2Cell

open FaultStatusBits PowerSubsystemConfig

/-- The clock readings of one call. -/
structure Clock where
  now : Time
  stamp : Time
  deriving DecidableEq, Repr

/-- The voltage of a subsystem in a telemetry record. -/
def SysInfo.voltage (ty : PowerSystemType) (info : SysInfo) : ℚ :=
  match ty with
  | .motor => info.motorVoltage
  | .comm => info.commVoltage

/-- The current of a subsystem in a telemetry record. -/
def SysInfo.current (ty : PowerSystemType) (info : SysInfo) : ℚ :=
  match ty with
  | .motor => info.motorCurrent
  | .comm => info.commCurrent

/-- `PowerSubsystem`, without the two time stamps that are never read.  `context`
says whether `_context` points to a `Context`. -/
structure PowerSubsystem where
  sysInfo : SysInfo
  phase : ℤ
  phaseStartTime : Time
  telemCounter : ℤ
  targPowerState : PowerState
  actualPowerState : PowerState
  targPowerStatePrev : PowerState
  actualPowerStatePrev : PowerState
  context : Bool
  deriving DecidableEq, Repr

namespace PowerSubsystem

/-- The default values of the fields. -/
def default : PowerSubsystem where
  sysInfo := ⟨0, 0, 0, 0, 0, 0⟩
  phase := 1
  phaseStartTime := 0
  telemCounter := 0
  targPowerState := .off
  actualPowerState := .unknown
  targPowerStatePrev := .unknown
  actualPowerStatePrev := .unknown
  context := false

variable (ty : PowerSystemType) (sub : PowerSubsystem)

def getVoltage : ℚ :=
  match ty with
  | .motor => sub.sysInfo.motorVoltage
  | .comm => sub.sysInfo.commVoltage

def getCurrent : ℚ :=
  match ty with
  | .motor => sub.sysInfo.motorCurrent
  | .comm => sub.sysInfo.commCurrent

def getRelayControlOutputOn : Bool :=
  OutputPortBits.getBitAtPos sub.sysInfo.outputPort (psCfg ty).outputPowerOnBitPos

def getCrioReadyOutputOn : Bool :=
  match ty with
  | .motor => OutputPortBits.getBitAtPos sub.sysInfo.outputPort OutputPortBits.crioInterlockEnable
  | .comm => true

/-- The interlock input is active low. -/
def getInterlockRelayControlOutputOn : Bool :=
  match ty with
  | .motor => !InputPortBits.getBitAtPos sub.sysInfo.inputPort InputPortBits.interlockPowerRelay
  | .comm => true

/-- The value that `_powerShouldBeOn` returns. -/
def outputIsOn : Bool :=
  sub.getRelayControlOutputOn ty && sub.getCrioReadyOutputOn ty &&
    sub.getInterlockRelayControlOutputOn ty

theorem getVoltage_eq : sub.getVoltage ty = sub.sysInfo.voltage ty := by
  cases ty <;> rfl

theorem getCurrent_eq : sub.getCurrent ty = sub.sysInfo.current ty := by
  cases ty <;> rfl

/-- The mask of `_checkForFaults`: all faults of the subsystem but the breaker fault. -/
def checkForFaultsMask : FaultStatusBits :=
  unsetBitAt (psCfg ty).subsystemFaultMask (psCfg ty).breakerFault

end PowerSubsystem

/-- What a member function of a subsystem reads and writes. -/
structure Call where
  sub : PowerSubsystem
  outputPort : OutputPortBits
  faultsSet : FaultStatusBits
  deriving DecidableEq, Repr

namespace Call

variable (ty : PowerSystemType)

/-- `FpgaIo::writeOutputPortBitPos`. -/
def writeOutputPortBitPos (pos : Fin 8) (set : Bool) (c : Call) : Call :=
  { c with outputPort := OutputPortBits.writeBit c.outputPort pos set }

/-- `faultsSet.setBitAt`. -/
def setFault (pos : FaultBit) (c : Call) : Call :=
  { c with faultsSet := setBitAt c.faultsSet pos }

/-- Write `_actualPowerState`, `_phase` and `_phaseStartTime`. -/
def enter (actual : PowerState) (phase : ℤ) (time : Time) (c : Call) : Call :=
  { c with
    sub := { c.sub with actualPowerState := actual, phase := phase, phaseStartTime := time } }

/-! ## Commands -/

/-- `_setPowerOff`. -/
def setPowerOff (stamp : Time) (c : Call) : Call :=
  let c := c.writeOutputPortBitPos (psCfg ty).outputBreakerBitPos true
  let c := c.writeOutputPortBitPos (psCfg ty).outputPowerOnBitPos false
  if c.sub.targPowerState ≠ .off then
    { c with
      sub := { c.sub with targPowerState := .off, phase := 1, phaseStartTime := stamp } }
  else c

/-- `_setPowerOn`; `faults` is the result of `_checkForFaults`. -/
def setPowerOn (faults : Bool) (stamp : Time) (c : Call) : Call × Bool :=
  if faults then (c.setPowerOff ty stamp, false)
  else if !c.sub.getCrioReadyOutputOn ty then (c.setPowerOff ty stamp, false)
  else
    let c := c.writeOutputPortBitPos (psCfg ty).outputBreakerBitPos true
    let c := c.writeOutputPortBitPos (psCfg ty).outputPowerOnBitPos true
    ({ c with
        sub :=
          { c.sub with targPowerState := .on, phase := 1, phaseStartTime := stamp, telemCounter := 0 } },
      true)

/-! ## Processing one DAQ read -/

/-- `_powerShouldBeOn`; its result is `outputIsOn`. -/
def powerShouldBeOn (c : Call) : Call :=
  if c.sub.getRelayControlOutputOn ty && c.sub.getCrioReadyOutputOn ty then
    if c.sub.getInterlockRelayControlOutputOn ty then c else c.setFault interlockFault
  else c

/-- `_updateFaults`. -/
def updateFaults (stamp : Time) (c : Call) : Call :=
  ((c.setFault (psCfg ty).voltageFault).setFault hardwareFault).setPowerOff ty stamp

/-- `_checkForPowerOnBreakerFault`. -/
def checkForPowerOnBreakerFault (stamp : Time) (voltage : ℚ) (c : Call) : Call × Bool :=
  if voltage ≥ (psCfg ty).breakerOperatingVoltage then
    let breakerStatus := (psCfg ty).checkBreakers c.sub.sysInfo
    if breakerStatus = .good then (c, false)
    else if breakerStatus.toInt ≤ SysStatus.fault.toInt then
      ((c.setFault (psCfg ty).breakerFault).setPowerOff ty stamp, true)
    else (c.setFault (psCfg ty).breakerWarn, false)
  -- the power should be on and stable by this point
  else (c.updateFaults ty stamp, true)

/-- The case `ON` of `_processPowerOn`, after the breaker check: phase 1 waits for
the voltage to settle, phase 2 watches the low voltage limits. -/
def processOnPhase (clock : Clock) (voltage : ℚ) (c : Call) : Call :=
  if c.sub.phase ≤ 1 then
    let minTimeToStablize :=
      (psCfg ty).voltageSettlingTime - (psCfg ty).breakerOperatingVoltageRiseTime
    if timePassedSec c.sub.phaseStartTime clock.now > minTimeToStablize then
      c.enter c.sub.actualPowerState 2 clock.stamp
    else c
  else if c.sub.phase = 2 then
    let c := if voltage < (psCfg ty).minVoltageWarn then c.setFault (psCfg ty).voltageWarn else c
    if voltage < (psCfg ty).minVoltageFault then
      (c.setFault (psCfg ty).voltageFault).setPowerOff ty clock.stamp
    else c
  else c

/-- The case `ON` of `_processPowerOn`. -/
def processOn (clock : Clock) (outputIsOn : Bool) (voltage : ℚ) (c : Call) : Call :=
  if !outputIsOn then c.setPowerOff ty clock.stamp
  else
    let (c, breakerFault) := c.checkForPowerOnBreakerFault ty clock.stamp voltage
    -- the check has turned the power off already
    if breakerFault then c.setPowerOff ty clock.stamp
    else c.processOnPhase ty clock voltage

/-- Phase 1 of `TURNING_ON`: count ten telemetry reads. -/
def countTelemetry (clock : Clock) (c : Call) : Call :=
  if c.sub.phase = 1 then
    let c := { c with sub := { c.sub with telemCounter := c.sub.telemCounter + 1 } }
    if c.sub.telemCounter ≥ 10 then c.enter c.sub.actualPowerState 2 clock.now else c
  else c

/-- Phase 3 of `TURNING_ON`: check the breakers, and reset them if need be. -/
def processBreakers (clock : Clock) (voltage : ℚ) (c : Call) : Call :=
  if voltage < (psCfg ty).breakerOperatingVoltage then c.updateFaults ty clock.stamp
  else if (psCfg ty).checkBreakers c.sub.sysInfo = .good then c.enter .on 1 clock.now
  else
    (c.enter .reset 1 clock.now).writeOutputPortBitPos (psCfg ty).outputBreakerBitPos false

/-- The case `TURNING_ON` of `_processPowerOn`.  The time in phase is taken before
phase 1 can end, so phase 2 is measured from the start of phase 1 once. -/
def processTurningOn (clock : Clock) (outputIsOn : Bool) (voltage : ℚ) (c : Call) : Call :=
  let timeSincePhaseStart := timePassedSec c.sub.phaseStartTime clock.now
  let c := c.countTelemetry clock
  if c.sub.phase > 1 ∧ !outputIsOn then c.setPowerOff ty clock.stamp
  else if c.sub.phase = 2 then
    if timeSincePhaseStart > (psCfg ty).outputOnMaxDelay then
      (c.enter c.sub.actualPowerState 3 clock.now).processBreakers ty clock voltage
    else c
  else if c.sub.phase ≥ 3 then c.processBreakers ty clock voltage
  else c

/-- The case `RESET` of `_processPowerOn`. -/
def processReset (clock : Clock) (outputIsOn : Bool) (voltage : ℚ) (c : Call) : Call :=
  if !outputIsOn then
    (c.writeOutputPortBitPos (psCfg ty).outputBreakerBitPos true).setPowerOff ty clock.stamp
  else if voltage < (psCfg ty).breakerOperatingVoltage then c.updateFaults ty clock.stamp
  else
    let timeSincePhaseStart := timePassedSec c.sub.phaseStartTime clock.now
    if timeSincePhaseStart > (psCfg ty).resetBreakerPulseWidth then
      let c := c.writeOutputPortBitPos (psCfg ty).outputBreakerBitPos true
      -- the breakers get as long again to clear
      if timeSincePhaseStart > (psCfg ty).resetBreakerPulseWidth * 2 then
        let (c, breakerFault) := c.checkForPowerOnBreakerFault ty clock.stamp voltage
        if breakerFault then c else c.enter .on c.sub.phase clock.now
      else c
    else c

/-- The switch of `_processPowerOn` over the actual state. -/
def processActual (clock : Clock) (outputIsOn : Bool) (voltage : ℚ) (c : Call) : Call :=
  match c.sub.actualPowerState with
  | .on => c.processOn ty clock outputIsOn voltage
  -- `OFF` and `TURNING_OFF` fall through to `TURNING_ON`
  | .off => (c.enter .turningOn 1 clock.now).processTurningOn ty clock outputIsOn voltage
  | .turningOff => (c.enter .turningOn 1 clock.now).processTurningOn ty clock outputIsOn voltage
  | .turningOn => c.processTurningOn ty clock outputIsOn voltage
  | .reset => c.processReset ty clock outputIsOn voltage
  | .unknown => c.setPowerOff ty clock.stamp

/-- `_processPowerOn`. -/
def processPowerOn (clock : Clock) (c : Call) : Call :=
  let outputIsOn := c.sub.outputIsOn ty
  let c := c.powerShouldBeOn ty
  let voltage := c.sub.getVoltage ty
  if voltage > (psCfg ty).maxVoltageFault then
    (c.setFault (psCfg ty).voltageFault).setPowerOff ty clock.stamp
  else
    let c := if voltage > (psCfg ty).maxVoltageWarn then c.setFault (psCfg ty).voltageWarn else c
    if c.sub.getCurrent ty > (psCfg ty).maxCurrent then
      (c.setFault (psCfg ty).excessiveCurrent).setPowerOff ty clock.stamp
    else c.processActual ty clock outputIsOn voltage

/-- The case `TURNING_OFF` of `_processPowerOff`. -/
def processTurningOff (clock : Clock) (c : Call) : Call :=
  if c.sub.getVoltage ty < (psCfg ty).voltageOffLevel then c.enter .off c.sub.phase clock.now
  else if timePassedSec c.sub.phaseStartTime clock.now > (psCfg ty).outputOffMaxDelay then
    ((c.setFault (psCfg ty).relayFault).setFault (psCfg ty).relayInUse).setPowerOff ty clock.stamp
  else c

/-- `_processPowerOff`.  Four states fall through to `TURNING_OFF` after they set
`_phaseStartTime`; none of them sets `_actualPowerState`. -/
def processPowerOff (clock : Clock) (c : Call) : Call :=
  if c.sub.getRelayControlOutputOn ty then c.setPowerOff ty clock.stamp
  else
    match c.sub.actualPowerState with
    | .off => c
    | .turningOff => c.processTurningOff ty clock
    -- the actual state stays what it was
    | _ =>
        let c := c.setPowerOff ty clock.stamp
        (c.enter c.sub.actualPowerState c.sub.phase clock.now).processTurningOff ty clock

/-- The switch of `processDaq` over the target, which runs under `_powerStateMtx`. -/
def processTarg (clock : Clock) (c : Call) : Call :=
  match c.sub.targPowerState with
  | .on => c.processPowerOn ty clock
  | .off => c.processPowerOff ty clock
  -- the other states are invalid as targets
  | _ => (c.setPowerOff ty clock.stamp).processPowerOff ty clock

/-- The start of `processDaq`: take the new information and turn off on faults. -/
def processFaults (faults : Bool) (info : SysInfo) (stamp : Time) (c : Call) : Call :=
  let c := { c with sub := { c.sub with sysInfo := info } }
  if faults then c.setPowerOff ty stamp else c

/-! ## What the small operations write -/

section fields

variable (c : Call) (ty : PowerSystemType) (stamp : Time)

@[simp] theorem sub_writeOutputPortBitPos (pos : Fin 8) (set : Bool) :
    (c.writeOutputPortBitPos pos set).sub = c.sub := rfl

@[simp] theorem faultsSet_writeOutputPortBitPos (pos : Fin 8) (set : Bool) :
    (c.writeOutputPortBitPos pos set).faultsSet = c.faultsSet := rfl

@[simp] theorem bit_writeOutputPortBitPos (pos other : Fin 8) (set : Bool) :
    OutputPortBits.getBitAtPos (c.writeOutputPortBitPos pos set).outputPort other =
      if other = pos then set else OutputPortBits.getBitAtPos c.outputPort other :=
  OutputPortBits.getBitAtPos_writeBit _ _ _ _

@[simp] theorem sub_setFault (pos : FaultBit) : (c.setFault pos).sub = c.sub := rfl

@[simp] theorem outputPort_setFault (pos : FaultBit) :
    (c.setFault pos).outputPort = c.outputPort := rfl

@[simp] theorem bit_setFault (pos other : FaultBit) :
    Word.bit (c.setFault pos).faultsSet other =
      (decide (other = pos) || Word.bit c.faultsSet other) :=
  bit_setBitAt _ _ _

@[simp] theorem outputPort_enter (actual : PowerState) (phase : ℤ) (time : Time) :
    (c.enter actual phase time).outputPort = c.outputPort := rfl

@[simp] theorem faultsSet_enter (actual : PowerState) (phase : ℤ) (time : Time) :
    (c.enter actual phase time).faultsSet = c.faultsSet := rfl

@[simp] theorem actualPowerState_enter (actual : PowerState) (phase : ℤ) (time : Time) :
    (c.enter actual phase time).sub.actualPowerState = actual := rfl

@[simp] theorem phase_enter (actual : PowerState) (phase : ℤ) (time : Time) :
    (c.enter actual phase time).sub.phase = phase := rfl

@[simp] theorem phaseStartTime_enter (actual : PowerState) (phase : ℤ) (time : Time) :
    (c.enter actual phase time).sub.phaseStartTime = time := rfl

@[simp] theorem targPowerState_enter (actual : PowerState) (phase : ℤ) (time : Time) :
    (c.enter actual phase time).sub.targPowerState = c.sub.targPowerState := rfl

@[simp] theorem sysInfo_enter (actual : PowerState) (phase : ℤ) (time : Time) :
    (c.enter actual phase time).sub.sysInfo = c.sub.sysInfo := rfl

/-! `setPowerOff` writes the target, the phase and the two output bits. -/

@[simp] theorem targPowerState_setPowerOff :
    (c.setPowerOff ty stamp).sub.targPowerState = .off := by
  unfold setPowerOff
  by_cases h : c.sub.targPowerState = .off <;> simp [h]

@[simp] theorem actualPowerState_setPowerOff :
    (c.setPowerOff ty stamp).sub.actualPowerState = c.sub.actualPowerState := by
  unfold setPowerOff
  by_cases h : c.sub.targPowerState = .off <;> simp [h]

@[simp] theorem sysInfo_setPowerOff : (c.setPowerOff ty stamp).sub.sysInfo = c.sub.sysInfo := by
  unfold setPowerOff
  by_cases h : c.sub.targPowerState = .off <;> simp [h]

@[simp] theorem targPowerStatePrev_setPowerOff :
    (c.setPowerOff ty stamp).sub.targPowerStatePrev = c.sub.targPowerStatePrev := by
  unfold setPowerOff
  by_cases h : c.sub.targPowerState = .off <;> simp [h]

@[simp] theorem actualPowerStatePrev_setPowerOff :
    (c.setPowerOff ty stamp).sub.actualPowerStatePrev = c.sub.actualPowerStatePrev := by
  unfold setPowerOff
  by_cases h : c.sub.targPowerState = .off <;> simp [h]

@[simp] theorem context_setPowerOff : (c.setPowerOff ty stamp).sub.context = c.sub.context := by
  unfold setPowerOff
  by_cases h : c.sub.targPowerState = .off <;> simp [h]

@[simp] theorem faultsSet_setPowerOff : (c.setPowerOff ty stamp).faultsSet = c.faultsSet := by
  unfold setPowerOff
  by_cases h : c.sub.targPowerState = .off <;> simp [h]

@[simp] theorem bit_setPowerOff (pos : Fin 8) :
    OutputPortBits.getBitAtPos (c.setPowerOff ty stamp).outputPort pos =
      if pos = (psCfg ty).outputPowerOnBitPos then false
      else if pos = (psCfg ty).outputBreakerBitPos then true
      else OutputPortBits.getBitAtPos c.outputPort pos := by
  unfold setPowerOff
  by_cases h : c.sub.targPowerState = .off <;> simp [h, writeOutputPortBitPos]

/-- With the target already off, `setPowerOff` changes nothing in the subsystem. -/
theorem sub_setPowerOff_of_off (h : c.sub.targPowerState = .off) :
    (c.setPowerOff ty stamp).sub = c.sub := by
  simp [setPowerOff, h]

end fields

end Call

end M2Cell
