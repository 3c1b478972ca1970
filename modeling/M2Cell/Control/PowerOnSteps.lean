import M2Cell.Control.Coupling
import Mathlib.Tactic.Linarith

/-!
# Turning on, step by step

What one call of `_processPowerOn` does to a subsystem whose target is on, one
lemma for each way through it.  Above the limits the power goes off
(`processPowerOn_of_over`); within them the call is the case of the actual state
(`processPowerOn_of_within`), up to faults that were set before.

`TURNING_ON` counts reads, waits, and gives a verdict, which is `processBreakers`.
`RESET` holds the breaker bit low, restores it, and judges the breakers.

The lemmas come in two sizes.  The small ones say what a call is under the condition that leads
there (`processTurningOn_few`, `processTurningOn_wait`, `processTurningOn_verdict`,
`processReset_hold`, `processReset_restore`, `processReset_judge`), for the proofs that follow a
subsystem through its phases.  The large ones list what a call can come to whatever holds
(`processTurningOn_cases`, `processBreakers_cases`, `processReset_cases`,
`checkForPowerOnBreakerFault_cases`), for invariants.  Whoever gives up has the target off and
the breaker bit high (`GaveUp`).
-/

namespace M2Cell

open FaultStatusBits PowerSubsystemConfig

namespace Call

variable {ty : PowerSystemType} {c : Call} {clock : Clock} {outputIsOn : Bool} {voltage : ℚ}

/-- The output bit that resets the breakers; it is active low. -/
def breakerBit (ty : PowerSystemType) (c : Call) : Bool :=
  OutputPortBits.getBitAtPos c.outputPort (psCfg ty).outputBreakerBitPos

/-- Voltage and current are not above the fault levels. -/
def WithinLimits (ty : PowerSystemType) (c : Call) : Prop :=
  c.sub.sysInfo.voltage ty ≤ (psCfg ty).maxVoltageFault ∧
    c.sub.sysInfo.current ty ≤ (psCfg ty).maxCurrent

instance decidableWithinLimits (ty : PowerSystemType) (c : Call) : Decidable (c.WithinLimits ty) :=
  inferInstanceAs (Decidable (_ ∧ _))

/-- The target went off and the breaker bit is high. -/
structure GaveUp (ty : PowerSystemType) (c r : Call) : Prop where
  targ : r.sub.targPowerState = .off
  actual : r.sub.actualPowerState = c.sub.actualPowerState
  breakerBit : r.breakerBit ty = true

variable (ty) in
theorem gaveUp_setPowerOff (c : Call) (stamp : Time) : GaveUp ty c (c.setPowerOff ty stamp) :=
  ⟨by simp, by simp, by simp [breakerBit, (outputBits_disjoint ty).1.symm]⟩

theorem GaveUp.of_actual {d r : Call} (h : GaveUp ty d r)
    (hactual : d.sub.actualPowerState = c.sub.actualPowerState) : GaveUp ty c r :=
  ⟨h.targ, h.actual.trans hactual, h.breakerBit⟩

variable (ty) in
theorem gaveUp_updateFaults (c : Call) (stamp : Time) : GaveUp ty c (c.updateFaults ty stamp) :=
  (gaveUp_setPowerOff ty _ stamp).of_actual rfl

/-! ## `_processPowerOn` -/

/-- `outputIsOn` reads the relay bit and, for the motor, the two interlock bits. -/
theorem outputIsOn_eq_true_iff (sub : PowerSubsystem) :
    sub.outputIsOn ty = true ↔
      OutputPortBits.getBitAtPos sub.sysInfo.outputPort (psCfg ty).outputPowerOnBitPos = true ∧
        (ty = .motor →
          OutputPortBits.getBitAtPos sub.sysInfo.outputPort OutputPortBits.crioInterlockEnable =
              true ∧
            InputPortBits.getBitAtPos sub.sysInfo.inputPort InputPortBits.interlockPowerRelay =
              false) := by
  cases ty <;>
    simp [PowerSubsystem.outputIsOn, PowerSubsystem.getRelayControlOutputOn,
      PowerSubsystem.getCrioReadyOutputOn, PowerSubsystem.getInterlockRelayControlOutputOn,
      and_assoc]

@[simp] theorem sub_powerShouldBeOn (c : Call) : (c.powerShouldBeOn ty).sub = c.sub := by
  unfold powerShouldBeOn
  split_ifs <;> rfl

theorem outputPort_powerShouldBeOn (c : Call) :
    (c.powerShouldBeOn ty).outputPort = c.outputPort := by
  unfold powerShouldBeOn
  split_ifs <;> rfl

/-- With the outputs on, `_powerShouldBeOn` sets no fault. -/
theorem powerShouldBeOn_of_outputIsOn (h : c.sub.outputIsOn ty = true) :
    c.powerShouldBeOn ty = c := by
  simp only [PowerSubsystem.outputIsOn, Bool.and_eq_true] at h
  simp [powerShouldBeOn, h.1, h.2]

variable (ty) in
/-- **What `_processPowerOn` comes to**, up to faults that were set before: above a limit the
power goes off, and within them the call is the case of the actual state. -/
theorem processPowerOn_cases (clock : Clock) (c : Call) :
    (¬ c.WithinLimits ty ∧ ∃ d : Call, d.sub = c.sub ∧
        c.processPowerOn ty clock = d.setPowerOff ty clock.stamp) ∨
      (c.WithinLimits ty ∧ ∃ d : Call, d.sub = c.sub ∧ d.outputPort = c.outputPort ∧
        (c.sub.outputIsOn ty = true →
          d = if c.sub.sysInfo.voltage ty > (psCfg ty).maxVoltageWarn then
            c.setFault (psCfg ty).voltageWarn else c) ∧
        c.processPowerOn ty clock =
          d.processActual ty clock (c.sub.outputIsOn ty) (c.sub.sysInfo.voltage ty)) := by
  have hsub : (c.powerShouldBeOn ty).sub = c.sub := sub_powerShouldBeOn c
  unfold processPowerOn
  dsimp only
  rw [hsub, PowerSubsystem.getVoltage_eq]
  -- `d` has the faults that are set before the limits are looked at
  generalize hd : (if c.sub.sysInfo.voltage ty > (psCfg ty).maxVoltageWarn
    then (c.powerShouldBeOn ty).setFault (psCfg ty).voltageWarn else c.powerShouldBeOn ty) = d
  have hd' : d.sub = c.sub := by
    rw [← hd]
    split_ifs <;> exact hsub
  rw [hd', PowerSubsystem.getCurrent_eq]
  by_cases hvoltage : c.sub.sysInfo.voltage ty > (psCfg ty).maxVoltageFault
  · rw [if_pos hvoltage]
    have hover : ¬ c.WithinLimits ty := fun h => absurd h.1 (not_le.mpr hvoltage)
    exact Or.inl ⟨hover, (c.powerShouldBeOn ty).setFault (psCfg ty).voltageFault, hsub, rfl⟩
  rw [if_neg hvoltage]
  by_cases hcurrent : c.sub.sysInfo.current ty > (psCfg ty).maxCurrent
  · rw [if_pos hcurrent]
    have hover : ¬ c.WithinLimits ty := fun h => absurd h.2 (not_le.mpr hcurrent)
    exact Or.inl ⟨hover, d.setFault (psCfg ty).excessiveCurrent, hd', rfl⟩
  rw [if_neg hcurrent]
  refine Or.inr ⟨⟨not_lt.mp hvoltage, not_lt.mp hcurrent⟩, d, hd', ?_, ?_, rfl⟩
  · rw [← hd]
    split_ifs <;> exact outputPort_powerShouldBeOn c
  · intro houtput
    rw [← hd, powerShouldBeOn_of_outputIsOn houtput]

/-- Above a limit the power goes off. -/
theorem processPowerOn_of_over (clock : Clock) (h : ¬ c.WithinLimits ty) :
    GaveUp ty c (c.processPowerOn ty clock) := by
  obtain ⟨-, d, hsub, hcall⟩ | ⟨hwithin, -⟩ := processPowerOn_cases ty clock c
  · rw [hcall]
    exact (gaveUp_setPowerOff ty d clock.stamp).of_actual (congrArg _ hsub)
  · exact absurd hwithin h

/-- Within the limits the call is the case of the actual state. -/
theorem processPowerOn_of_within (clock : Clock) (h : c.WithinLimits ty) :
    ∃ d : Call, d.sub = c.sub ∧ d.outputPort = c.outputPort ∧
      (c.sub.outputIsOn ty = true → c.sub.sysInfo.voltage ty ≤ (psCfg ty).maxVoltageWarn →
        d = c) ∧
      c.processPowerOn ty clock =
        d.processActual ty clock (c.sub.outputIsOn ty) (c.sub.sysInfo.voltage ty) := by
  obtain ⟨hover, -⟩ | ⟨-, d, hsub, hport, hsame, hcall⟩ := processPowerOn_cases ty clock c
  · exact absurd h hover
  · refine ⟨d, hsub, hport, ?_, hcall⟩
    intro houtput hwarn
    rw [hsame houtput, if_neg (not_lt.mpr hwarn)]

/-! ## `ON` -/

variable (ty) in
/-- In `ON` the call keeps the actual state; with the target on it keeps the count
and the breaker bit as well. -/
theorem processOn_spec (c : Call) (clock : Clock) (outputIsOn : Bool) (voltage : ℚ) :
    (c.processOn ty clock outputIsOn voltage).sub.actualPowerState = c.sub.actualPowerState ∧
      ((c.processOn ty clock outputIsOn voltage).sub.targPowerState = .off ∨
        (c.processOn ty clock outputIsOn voltage).sub.targPowerState = c.sub.targPowerState ∧
        (c.processOn ty clock outputIsOn voltage).sub.telemCounter = c.sub.telemCounter ∧
        (c.processOn ty clock outputIsOn voltage).outputPort = c.outputPort) := by
  unfold processOn
  cases outputIsOn with
  | false => exact ⟨by simp, Or.inl (by simp)⟩
  | true =>
      simp only [Bool.not_true, Bool.false_eq_true, if_false]
      -- the breaker check turns the power off or changes the faults only
      have hcheck : (c.checkForPowerOnBreakerFault ty clock.stamp voltage).1.sub.actualPowerState =
            c.sub.actualPowerState ∧
          ((c.checkForPowerOnBreakerFault ty clock.stamp voltage).2 = false →
            (c.checkForPowerOnBreakerFault ty clock.stamp voltage).1.sub = c.sub ∧
            (c.checkForPowerOnBreakerFault ty clock.stamp voltage).1.outputPort = c.outputPort) := by
        unfold checkForPowerOnBreakerFault
        dsimp only
        split_ifs <;> simp [updateFaults]
      generalize c.checkForPowerOnBreakerFault ty clock.stamp voltage = check at hcheck
      obtain ⟨d, breakerFault⟩ := check
      obtain ⟨hactual, hsame⟩ := hcheck
      cases breakerFault with
      | true => exact ⟨by simpa using hactual, Or.inl (by simp)⟩
      | false =>
          obtain ⟨hsub, hport⟩ := hsame rfl
          dsimp only at hsub hport hactual ⊢
          simp only [Bool.false_eq_true, if_false]
          unfold processOnPhase
          dsimp only
          split_ifs <;> simp [hsub, hport, enter]

/-! ## `TURNING_ON` -/

/-- The call ends phase 1, or phase 1 is over. -/
def PhaseOneEnds (c : Call) : Prop :=
  c.sub.phase = 1 ∧ 10 ≤ c.sub.telemCounter + 1 ∨ c.sub.phase = 2

/-- The time since `_phaseStartTime`. -/
def timeInPhase (clock : Clock) (c : Call) : ℚ := timePassedSec c.sub.phaseStartTime clock.now

/-- One more telemetry read. -/
def count (c : Call) : Call :=
  { c with sub := { c.sub with telemCounter := c.sub.telemCounter + 1 } }

theorem countTelemetry_of_few (hphase : c.sub.phase = 1) (hcount : c.sub.telemCounter + 1 < 10) :
    c.countTelemetry clock = c.count := by
  have hfew : ¬ c.sub.telemCounter + 1 ≥ 10 := by omega
  simp [countTelemetry, count, hphase, hfew]

theorem countTelemetry_of_ten (hphase : c.sub.phase = 1) (hcount : 10 ≤ c.sub.telemCounter + 1) :
    c.countTelemetry clock = c.count.enter c.sub.actualPowerState 2 clock.now := by
  simp [countTelemetry, count, hphase, hcount, enter]

theorem countTelemetry_of_two (hphase : c.sub.phase = 2) : c.countTelemetry clock = c := by
  simp [countTelemetry, hphase]

/-- Counting telemetry reads leaves the information and the faults alone. -/
theorem countTelemetry_spec (c : Call) (clock : Clock) :
    (c.countTelemetry clock).sub.sysInfo = c.sub.sysInfo ∧
      (c.countTelemetry clock).faultsSet = c.faultsSet := by
  unfold countTelemetry
  dsimp only
  split_ifs <;> exact ⟨rfl, rfl⟩

/-- Reads in phase 1. -/
theorem processTurningOn_few (hphase : c.sub.phase = 1) (hcount : c.sub.telemCounter + 1 < 10) :
    c.processTurningOn ty clock outputIsOn voltage = c.count := by
  have hphase' : c.count.sub.phase = 1 := hphase
  simp [processTurningOn, countTelemetry_of_few hphase hcount, hphase']

theorem phase_countTelemetry (h : c.PhaseOneEnds) : (c.countTelemetry clock).sub.phase = 2 := by
  rcases h with ⟨hphase, hcount⟩ | hphase
  · rw [countTelemetry_of_ten hphase hcount, phase_enter]
  · rw [countTelemetry_of_two hphase, hphase]

/-- After phase 1 the outputs must be on. -/
theorem processTurningOn_output_off (h : c.PhaseOneEnds) :
    GaveUp ty c (c.processTurningOn ty clock false voltage) := by
  have hphase : (c.countTelemetry clock).sub.phase = 2 := phase_countTelemetry h
  have hgave := gaveUp_setPowerOff ty (c.countTelemetry clock) clock.stamp
  simp only [processTurningOn, hphase]
  exact hgave.of_actual (actualPowerState_countTelemetry c clock)

/-- The wait of phase 2. -/
theorem processTurningOn_wait (h : c.PhaseOneEnds)
    (htime : ¬ c.timeInPhase clock > (psCfg ty).outputOnMaxDelay) :
    c.processTurningOn ty clock true voltage = c.countTelemetry clock := by
  have hphase : (c.countTelemetry clock).sub.phase = 2 := phase_countTelemetry h
  unfold timeInPhase at htime
  simp [processTurningOn, hphase, htime]

/-- The verdict of phase 3. -/
theorem processTurningOn_verdict (h : c.PhaseOneEnds)
    (htime : c.timeInPhase clock > (psCfg ty).outputOnMaxDelay) :
    c.processTurningOn ty clock true voltage =
      ((c.countTelemetry clock).enter c.sub.actualPowerState 3 clock.now).processBreakers ty clock
        voltage := by
  have hphase : (c.countTelemetry clock).sub.phase = 2 := phase_countTelemetry h
  unfold timeInPhase at htime
  simp [processTurningOn, hphase, htime, actualPowerState_countTelemetry]

variable (ty) in
/-- The verdict: give up, go to `ON`, or start a reset of the breakers. -/
theorem processBreakers_cases (c : Call) (clock : Clock) (voltage : ℚ) :
    voltage < (psCfg ty).breakerOperatingVoltage ∧ GaveUp ty c (c.processBreakers ty clock voltage) ∨
      c.processBreakers ty clock voltage = c.enter .on 1 clock.now ∨
      c.processBreakers ty clock voltage =
        (c.enter .reset 1 clock.now).writeOutputPortBitPos (psCfg ty).outputBreakerBitPos false := by
  unfold processBreakers
  split_ifs with hvoltage
  · exact Or.inl ⟨hvoltage, gaveUp_updateFaults ty c clock.stamp⟩
  · exact Or.inr (Or.inl rfl)
  · exact Or.inr (Or.inr rfl)

variable (ty) in
/-- Whatever the phase, a call in `TURNING_ON` keeps the actual state or gives a verdict. -/
theorem processTurningOn_cases (c : Call) (clock : Clock) (outputIsOn : Bool) (voltage : ℚ) :
    (c.processTurningOn ty clock outputIsOn voltage).sub.actualPowerState =
        c.sub.actualPowerState ∨
      ∃ d : Call, d.sub.actualPowerState = c.sub.actualPowerState ∧
        c.processTurningOn ty clock outputIsOn voltage = d.processBreakers ty clock voltage := by
  have hcount := actualPowerState_countTelemetry c clock
  unfold processTurningOn
  dsimp only
  split_ifs
  · exact Or.inl (by rw [actualPowerState_setPowerOff, hcount])
  · exact Or.inr ⟨_, by rw [actualPowerState_enter, hcount], rfl⟩
  · exact Or.inl hcount
  · exact Or.inr ⟨_, hcount, rfl⟩
  · exact Or.inl hcount

theorem outputOnMaxDelay_pos (ty : PowerSystemType) : 0 < (psCfg ty).outputOnMaxDelay := by
  cases ty <;> norm_num [psCfg, setupMotor, setupComm, outputOnMaxDelay]

/-! ## `RESET` -/

/-- The outputs went off, or the voltage is too low. -/
theorem processReset_gaveUp
    (h : outputIsOn = true → voltage < (psCfg ty).breakerOperatingVoltage) :
    GaveUp ty c (c.processReset ty clock outputIsOn voltage) := by
  unfold processReset
  cases outputIsOn with
  | false => exact (gaveUp_setPowerOff ty _ clock.stamp).of_actual rfl
  | true =>
      simp only [Bool.not_true, Bool.false_eq_true, if_false, h rfl, if_true]
      exact gaveUp_updateFaults ty c clock.stamp

theorem processReset_hold (hvoltage : ¬ voltage < (psCfg ty).breakerOperatingVoltage)
    (htime : ¬ c.timeInPhase clock > (psCfg ty).resetBreakerPulseWidth) :
    c.processReset ty clock true voltage = c := by
  unfold timeInPhase at htime
  simp [processReset, hvoltage, htime]

theorem processReset_restore (hvoltage : ¬ voltage < (psCfg ty).breakerOperatingVoltage)
    (htime : c.timeInPhase clock > (psCfg ty).resetBreakerPulseWidth)
    (htwice : ¬ c.timeInPhase clock > (psCfg ty).resetBreakerPulseWidth * 2) :
    c.processReset ty clock true voltage =
      c.writeOutputPortBitPos (psCfg ty).outputBreakerBitPos true := by
  unfold timeInPhase at htime htwice
  simp [processReset, hvoltage, htime, htwice]

/-- The breakers operate below the fault level. -/
theorem breakerOperatingVoltage_lt (ty : PowerSystemType) :
    (psCfg ty).breakerOperatingVoltage < (psCfg ty).maxVoltageFault := by
  cases ty <;> norm_num [psCfg, setupMotor, setupComm, maxVoltageFault]

theorem resetBreakerPulseWidth_pos (ty : PowerSystemType) :
    0 < (psCfg ty).resetBreakerPulseWidth := by
  cases ty <;> norm_num [psCfg, setupMotor, setupComm]

/-- A breaker check at operating voltage gives up or keeps everything but the faults. -/
theorem checkForPowerOnBreakerFault_cases (c : Call) (stamp : Time)
    (hvoltage : ¬ voltage < (psCfg ty).breakerOperatingVoltage) :
    (c.checkForPowerOnBreakerFault ty stamp voltage).2 = true ∧
        GaveUp ty c (c.checkForPowerOnBreakerFault ty stamp voltage).1 ∨
      (c.checkForPowerOnBreakerFault ty stamp voltage).2 = false ∧
        (c.checkForPowerOnBreakerFault ty stamp voltage).1.sub = c.sub ∧
        (c.checkForPowerOnBreakerFault ty stamp voltage).1.outputPort = c.outputPort := by
  unfold checkForPowerOnBreakerFault
  simp only [ge_iff_le, not_lt.mp hvoltage, if_true]
  split_ifs
  · exact Or.inr ⟨rfl, rfl, rfl⟩
  · exact Or.inl ⟨rfl, (gaveUp_setPowerOff ty _ stamp).of_actual rfl⟩
  · exact Or.inr ⟨rfl, rfl, rfl⟩

/-- The judgement: it goes to `ON` or gives up. -/
theorem processReset_judge (hvoltage : ¬ voltage < (psCfg ty).breakerOperatingVoltage)
    (htwice : c.timeInPhase clock > (psCfg ty).resetBreakerPulseWidth * 2) :
    GaveUp ty c (c.processReset ty clock true voltage) ∨
      (c.processReset ty clock true voltage).sub.actualPowerState = .on := by
  -- after twice the pulse width the bit was restored, so the breakers are judged
  have htime : c.timeInPhase clock > (psCfg ty).resetBreakerPulseWidth := by
    have hpos := resetBreakerPulseWidth_pos ty
    linarith
  unfold timeInPhase at htime htwice
  simp only [processReset, Bool.not_true, Bool.false_eq_true, if_false, hvoltage, htime, htwice,
    if_true]
  have hcheck := checkForPowerOnBreakerFault_cases
    (c.writeOutputPortBitPos (psCfg ty).outputBreakerBitPos true) clock.stamp hvoltage
  generalize Call.checkForPowerOnBreakerFault ty clock.stamp voltage
    (c.writeOutputPortBitPos (psCfg ty).outputBreakerBitPos true) = check at hcheck ⊢
  obtain ⟨d, breakerFault⟩ := check
  rcases hcheck with ⟨hfault, hgave⟩ | ⟨hfault, -, -⟩
  · dsimp only at hfault hgave ⊢
    rw [hfault, if_pos rfl]
    exact Or.inl (hgave.of_actual rfl)
  · dsimp only at hfault ⊢
    rw [hfault, if_neg Bool.false_ne_true]
    exact Or.inr rfl

variable (ty) in
/-- A call in `RESET` gives up, goes to `ON` or stays. -/
theorem processReset_cases (c : Call) (clock : Clock) (outputIsOn : Bool) (voltage : ℚ) :
    GaveUp ty c (c.processReset ty clock outputIsOn voltage) ∨
      (c.processReset ty clock outputIsOn voltage).sub.actualPowerState = .on ∨
      (c.processReset ty clock outputIsOn voltage).sub = c.sub := by
  by_cases hgave : outputIsOn = true → voltage < (psCfg ty).breakerOperatingVoltage
  · exact Or.inl (processReset_gaveUp hgave)
  · push Not at hgave
    obtain ⟨rfl, hvoltage⟩ := hgave
    rw [← not_lt] at hvoltage
    by_cases htime : c.timeInPhase clock > (psCfg ty).resetBreakerPulseWidth
    · by_cases htwice : c.timeInPhase clock > (psCfg ty).resetBreakerPulseWidth * 2
      · rcases processReset_judge hvoltage htwice with hjudged | hon
        · exact Or.inl hjudged
        · exact Or.inr (Or.inl hon)
      · exact Or.inr (Or.inr (by rw [processReset_restore hvoltage htime htwice]; rfl))
    · exact Or.inr (Or.inr (by rw [processReset_hold hvoltage htime]))

/-! ## With the target off -/

theorem actualPowerState_processTurningOff (ty : PowerSystemType) (c : Call) (clock : Clock) :
    (c.processTurningOff ty clock).sub.actualPowerState = .off ∨
      (c.processTurningOff ty clock).sub.actualPowerState = c.sub.actualPowerState := by
  unfold processTurningOff
  split_ifs <;> simp

theorem actualPowerState_processPowerOff (ty : PowerSystemType) (c : Call) (clock : Clock) :
    (c.processPowerOff ty clock).sub.actualPowerState = .off ∨
      (c.processPowerOff ty clock).sub.actualPowerState = c.sub.actualPowerState := by
  have hfall := actualPowerState_processTurningOff ty
    ((c.setPowerOff ty clock.stamp).enter (c.setPowerOff ty clock.stamp).sub.actualPowerState
      (c.setPowerOff ty clock.stamp).sub.phase clock.now) clock
  rw [actualPowerState_enter, actualPowerState_setPowerOff] at hfall
  unfold processPowerOff
  split_ifs
  · exact Or.inr (by simp)
  · cases hactual : c.sub.actualPowerState with
    | off => exact Or.inl hactual
    | turningOff => simpa [hactual] using actualPowerState_processTurningOff ty c clock
    | unknown => simpa [hactual] using hfall
    | turningOn => simpa [hactual] using hfall
    | reset => simpa [hactual] using hfall
    | on => simpa [hactual] using hfall

/-- A target that is not on brings the actual state to `OFF` at most. -/
theorem actualPowerState_processTarg_of_not_on (ty : PowerSystemType) (c : Call) (clock : Clock)
    (htarg : c.sub.targPowerState ≠ .on) :
    (c.processTarg ty clock).sub.actualPowerState = .off ∨
      (c.processTarg ty clock).sub.actualPowerState = c.sub.actualPowerState := by
  have hinvalid := actualPowerState_processPowerOff ty (c.setPowerOff ty clock.stamp) clock
  rw [actualPowerState_setPowerOff] at hinvalid
  unfold processTarg
  cases hstate : c.sub.targPowerState with
  | on => exact absurd hstate htarg
  | off => exact actualPowerState_processPowerOff ty c clock
  | unknown => exact hinvalid
  | turningOn => exact hinvalid
  | reset => exact hinvalid
  | turningOff => exact hinvalid

end Call

end M2Cell
