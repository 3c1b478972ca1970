import M2Cell.Control.PowerSubsystem
import M2Cell.Lib.Ramp
import M2Cell.Lib.Rounding

/-!
# The simulated power subsystem

`SimPowerSubsystem` stands in for the hardware of one power subsystem.  While
the power bit of the output port is high the voltage rises, at a rate that is
1.3 times what is needed to reach the nominal voltage in `outputOnMaxDelay`;
otherwise it falls.  The current is proportional to the voltage while the
breaker is closed.

The voltage is a double to which each step adds a double, so the rounding of the
additions adds up.  `round64` stands after each operation of `_setup` and of
`calcVoltageCurrent`; comparisons are exact.  The values are between a
nanosecond's gain and some hundred volts, far from overflow and underflow.

The breaker opens as soon as its reset bit is low, and closes some time after
the bit is high again.  `calcBreakers` writes its inputs once for each change,
so that they can be changed from outside in between.  The writes are those of
`breakerWrites`, one bit each; when they reach the input port is up to the
simulator.

`calcVoltage_near` says that an unforced step of the voltage is a step of a ramp,
up to `voltageTolerance`.
-/

namespace M2Cell

open PowerSubsystemConfig

namespace InputPortBits

/-- `InputPortBits::writeBit`.  A position outside the word throws and writes nothing. -/
def writeBit (port : InputPortBits) (pos : ℕ) (set : Bool) : InputPortBits :=
  if h : pos < 32 then Word.writeBit port ⟨pos, h⟩ set else port

theorem getBitAtPos_writeBit (port : InputPortBits) {pos : ℕ} (hpos : pos < 32) (other : ℕ)
    (set : Bool) :
    getBitAtPos (writeBit port pos set) other =
      if other = pos then set else getBitAtPos port other := by
  unfold getBitAtPos writeBit
  by_cases hother : other < 32
  · rw [dif_pos hpos, dif_pos hother, dif_pos hother, Word.bit_writeBit]
    simp only [Fin.mk.injEq]
  · have hne : other ≠ pos := by omega
    rw [dif_neg hother, dif_neg hother, if_neg hne]

/-- Writes at other positions leave a bit alone. -/
theorem getBitAtPos_writeBit_of_ne (port : InputPortBits) {pos other : ℕ} (hne : other ≠ pos)
    (set : Bool) : getBitAtPos (writeBit port pos set) other = getBitAtPos port other := by
  by_cases hpos : pos < 32
  · rw [getBitAtPos_writeBit port hpos, if_neg hne]
  · rw [writeBit, dif_neg hpos]

end InputPortBits

/-- `SimPowerSubsystem`; the fields that `_setup` computes are functions of the type. -/
structure SimPowerSubsystem where
  voltage : ℚ
  current : ℚ
  breakerClosed : Bool
  breakerClosedPrev : Bool
  breakerClosedTarg : Bool
  breakerClosedTargTs : Time
  overVoltage : Bool
  overCurrent : Bool
  deriving DecidableEq, Repr

namespace SimPowerSubsystem

/-- The default values of the fields. -/
def new : SimPowerSubsystem where
  voltage := 0
  current := 0
  breakerClosed := true
  breakerClosedPrev := false
  breakerClosedTarg := true
  breakerClosedTargTs := 0
  overVoltage := false
  overCurrent := false

variable (ty : PowerSystemType)

/-! ## Configuration -/

/-- `_powerOnBitPos`. -/
def powerOnBitPos : PowerSystemType → Fin 8
  | .motor => OutputPortBits.motorPowerOn
  | .comm => OutputPortBits.ilcCommPowerOn

/-- `_breakerResetPos`. -/
def breakerResetPos : PowerSystemType → Fin 8
  | .motor => OutputPortBits.resetMotorBreakers
  | .comm => OutputPortBits.resetCommBreakers

open InputPortBits in
/-- `_breakerBitPositions`. -/
def breakerBitPositions : PowerSystemType → List ℕ
  | .motor =>
      [j1W9_1MtrPwrBrkrOk, j1W9_2MtrPwrBrkrOk, j1W9_3MtrPwrBrkrOk, j2W10_1MtrPwrBrkrOk,
        j2W10_2MtrPwrBrkrOk, j2W10_3MtrPwrBrkrOk, j3W11_1MtrPwrBrkrOk, j3W11_2MtrPwrBrkrOk,
        j3W11_3MtrPwrBrkrOk]
  | .comm =>
      [j1W12_1CommPwrBrkrOk, j1W12_2CommPwrBrkrOk, j2W13_1CommPwrBrkrOk, j2W13_2CommPwrBrkrOk,
        j3W14_1CommPwrBrkrOk, j3W14_2CommPwrBrkrOk]

/-- The result of an operation on doubles. -/
@[irreducible] def round64 (x : ℚ) : ℚ := roundTo 53 x

/-! `_setup` -/

def voltageNominal : ℚ := (psCfg ty).nominalVoltage

def rateIncrease : ℚ := round64 1.3

def voltageChangeRateOn : ℚ :=
  round64 (round64 (voltageNominal ty / (psCfg ty).outputOnMaxDelay) * rateIncrease)

def voltageChangeRateOff : ℚ :=
  round64 (round64 (voltageNominal ty / (psCfg ty).outputOffMaxDelay) * rateIncrease)

def currentMax : ℚ := (psCfg ty).maxCurrent

def currentGain : ℚ := round64 (0.75 * round64 (currentMax ty / voltageNominal ty))

def breakerCloseTimeSec : ℚ := round64 ((psCfg ty).breakerOnTime * 0.5)

/-! ## One step -/

variable (sub : SimPowerSubsystem)

/-- The first part of `calcBreakers`: the reset bit opens the breaker. -/
def calcBreakerTarg (reset : Bool) (ts : Time) : SimPowerSubsystem :=
  if reset ≠ sub.breakerClosedTarg then
    { sub with breakerClosedTargTs := ts, breakerClosedTarg := reset }
  else sub

/-- The second part of `calcBreakers`: the breaker follows its target. -/
def calcBreakerClosed (ts : Time) : SimPowerSubsystem :=
  if !sub.breakerClosed then
    if sub.breakerClosedTarg then
      -- the clock counts whole nanoseconds, which no rounding takes across a quarter of a second
      if timePassedSec sub.breakerClosedTargTs ts > breakerCloseTimeSec ty then
        { sub with breakerClosed := true }
      else sub
    else sub
  else if !sub.breakerClosedTarg then { sub with breakerClosed := false }
  else sub

/-- The writes of the breaker inputs, in their order. -/
def breakerWrites (closed : Bool) : List (ℕ × Bool) :=
  (breakerBitPositions ty).map fun bPos => (bPos, closed)

/-- `calcBreakers`: the subsystem after it, and the input bits that it writes. -/
def calcBreakers (outputPort : OutputPortBits) (ts : Time) :
    SimPowerSubsystem × List (ℕ × Bool) :=
  let sub := (sub.calcBreakerTarg (OutputPortBits.getBitAtPos outputPort (breakerResetPos ty))
    ts).calcBreakerClosed ty ts
  -- the inputs are written once for each change
  if sub.breakerClosed ≠ sub.breakerClosedPrev then
    ({ sub with breakerClosedPrev := sub.breakerClosed }, breakerWrites ty sub.breakerClosed)
  else (sub, [])

/-- `voltNom` of `calcVoltageCurrent`. -/
def voltNom : ℚ :=
  if sub.overVoltage then round64 (voltageNominal ty * 10) else voltageNominal ty

/-- The voltage that `calcVoltageCurrent` computes. -/
def calcVoltage (powerOn : Bool) (timeDiff : ℚ) : ℚ :=
  if powerOn then
    let voltage :=
      if sub.voltage < sub.voltNom ty then
        let voltage := round64 (sub.voltage + round64 (voltageChangeRateOn ty * timeDiff))
        if voltage > sub.voltNom ty then sub.voltNom ty else voltage
      else sub.voltage
    if voltage > sub.voltNom ty then sub.voltNom ty else voltage
  else
    let voltage :=
      if sub.voltage > 0 then round64 (sub.voltage - round64 (voltageChangeRateOff ty * timeDiff))
      else sub.voltage
    if voltage < 0 then 0 else voltage

/-- The current that `calcVoltageCurrent` computes from the new voltage. -/
def calcCurrent (voltage : ℚ) : ℚ :=
  if sub.breakerClosed then
    let current := round64 (voltage * currentGain ty)
    if sub.overCurrent then round64 (current * 10) else current
  else 0

/-- `calcVoltageCurrent`. -/
def calcVoltageCurrent (outputPort : OutputPortBits) (timeDiff : ℚ) : SimPowerSubsystem :=
  let powerOn := OutputPortBits.getBitAtPos outputPort (powerOnBitPos ty)
  let voltage := sub.calcVoltage ty powerOn timeDiff
  { sub with voltage := voltage, current := sub.calcCurrent ty voltage }

/-! ## The configuration agrees with that of the controller -/

theorem powerOnBitPos_eq : powerOnBitPos ty = (psCfg ty).outputPowerOnBitPos := by
  cases ty <;> rfl

theorem breakerResetPos_eq : breakerResetPos ty = (psCfg ty).outputBreakerBitPos := by
  cases ty <;> rfl

theorem breakerBitPositions_lt {ty : PowerSystemType} {pos : ℕ}
    (hpos : pos ∈ breakerBitPositions ty) : pos < 32 := by
  have hall : ∀ pos ∈ breakerBitPositions ty, pos < 32 := by
    cases ty <;> decide
  exact hall pos hpos

/-- The two subsystems have no breaker input in common. -/
theorem breakerBitPositions_disjoint {pos : ℕ} (hpos : pos ∈ breakerBitPositions ty) :
    pos ∉ breakerBitPositions ty.other := by
  have hall : ∀ pos ∈ breakerBitPositions ty, pos ∉ breakerBitPositions ty.other := by
    cases ty <;> decide
  exact hall pos hpos

theorem voltageNominal_pos : 0 < voltageNominal ty := by
  cases ty <;> norm_num [voltageNominal, psCfg, setupMotor, setupComm]

theorem outputOnMaxDelay_pos : 0 < (psCfg ty).outputOnMaxDelay := by
  cases ty <;> norm_num [outputOnMaxDelay, psCfg, setupMotor, setupComm]

theorem outputOffMaxDelay_pos : 0 < (psCfg ty).outputOffMaxDelay := by
  cases ty <;> norm_num [outputOffMaxDelay, psCfg, setupMotor, setupComm]

theorem currentMax_pos : 0 < currentMax ty := by
  cases ty <;> norm_num [currentMax, psCfg, setupMotor, setupComm]

/-- The rates are 1.3 times what the delays ask for, but for their rounding. -/
theorem le_voltageChangeRateOn :
    voltageNominal ty / (psCfg ty).outputOnMaxDelay * 1.29 ≤ voltageChangeRateOn ty := by
  cases ty <;> decide +kernel

theorem le_voltageChangeRateOff :
    voltageNominal ty / (psCfg ty).outputOffMaxDelay * 1.29 ≤ voltageChangeRateOff ty := by
  cases ty <;> decide +kernel

theorem voltageChangeRateOn_pos : 0 < voltageChangeRateOn ty := by
  have hrate := div_pos (voltageNominal_pos ty) (outputOnMaxDelay_pos ty)
  exact (mul_pos hrate (by norm_num)).trans_le (le_voltageChangeRateOn ty)

theorem voltageChangeRateOff_pos : 0 < voltageChangeRateOff ty := by
  have hrate := div_pos (voltageNominal_pos ty) (outputOffMaxDelay_pos ty)
  exact (mul_pos hrate (by norm_num)).trans_le (le_voltageChangeRateOff ty)

theorem currentGain_pos : 0 < currentGain ty := by
  cases ty <;> decide +kernel

/-- At the nominal voltage the current is a little less than four fifths of the limit. -/
theorem voltageNominal_mul_currentGain_le :
    voltageNominal ty * currentGain ty ≤ 0.78 * currentMax ty := by
  cases ty <;> decide +kernel

/-! ## The voltage is a ramp -/

variable {ty} {sub}

/-- Half a unit in the last place, of a number between one and two. -/
def unitRoundoff : ℚ := 1 / 2 ^ 53

theorem unitRoundoff_nonneg : 0 ≤ unitRoundoff := by norm_num [unitRoundoff]

theorem within_round64 (x : ℚ) : Within unitRoundoff 1 x (round64 x) := by
  rw [round64]
  exact within_roundTo 53 x

theorem round64_nonneg {x : ℚ} (hx : 0 ≤ x) : 0 ≤ round64 x := by
  have herror := (within_round64 x).abs_sub_le hx (e := 1) (by norm_num [unitRoundoff])
  have hlow := (abs_le.mp herror).1
  linarith

/-- How far one step of the voltage can be off. -/
def voltageTolerance (ty : PowerSystemType) : ℚ := 1 / 2 ^ 48 * voltageNominal ty

theorem voltageTolerance_nonneg (ty : PowerSystemType) : 0 ≤ voltageTolerance ty :=
  mul_nonneg (by norm_num) (voltageNominal_pos ty).le

/-- What is added to the voltage, or taken from it, in a step of the length `dt`. -/
theorem within_gain (rate dt : ℚ) :
    Within unitRoundoff 2 (rate * dt) (round64 (rate * round64 dt)) := by
  have hproduct := (within_round64 dt).mul_left rate
  have hboth := hproduct.trans unitRoundoff_nonneg (within_round64 (rate * round64 dt))
  exact hboth

theorem error_add {rate dt voltage : ℚ} (hgain : 0 ≤ rate * dt) (hvoltage : 0 ≤ voltage) :
    |round64 (voltage + round64 (rate * round64 dt)) - (voltage + rate * dt)| * 4 ≤
      1 / 2 ^ 48 * (voltage + rate * dt) := by
  have hgained := (within_gain rate dt).add_left unitRoundoff_nonneg hvoltage hgain
  have hsum := hgained.trans unitRoundoff_nonneg (within_round64 _)
  have herror := hsum.abs_sub_le (e := 1 / 2 ^ 51) (add_nonneg hvoltage hgain)
    (by norm_num [unitRoundoff])
  linarith

theorem error_sub {rate dt voltage : ℚ} (hloss : 0 ≤ rate * dt) (hvoltage : 0 ≤ voltage) :
    |round64 (voltage - round64 (rate * round64 dt)) - (voltage - rate * dt)| * 4 ≤
      1 / 2 ^ 48 * (voltage + rate * dt) := by
  have hpart := (within_gain rate dt).abs_sub_le (e := 1 / 2 ^ 51) hloss
    (by norm_num [unitRoundoff])
  have hdiff := within_round64 (voltage - round64 (rate * round64 dt))
  rw [Within, pow_one, add_sub_cancel_left, unitRoundoff] at hdiff
  generalize round64 (rate * round64 dt) = loss at *
  generalize round64 (voltage - loss) = result at *
  obtain ⟨hlow, hhigh⟩ := abs_le.mp hpart
  have hsize : |voltage - loss| ≤ voltage + 2 * (rate * dt) :=
    abs_le.mpr ⟨by linarith, by linarith⟩
  have htriangle := abs_sub_le result (voltage - loss) (voltage - rate * dt)
  have hsame : |voltage - loss - (voltage - rate * dt)| = |loss - rate * dt| := by
    rw [sub_sub_sub_cancel_left, abs_sub_comm]
  rw [hsame] at htriangle
  linarith

/-- Where an unforced voltage is after the time `dt`. -/
def ramp (ty : PowerSystemType) (powerOn : Bool) (dt voltage : ℚ) : ℚ :=
  if powerOn then rampUp (voltageNominal ty) (voltageChangeRateOn ty) dt voltage
  else rampDown (voltageChangeRateOff ty) dt voltage

/-- The voltage at the end of a ramp. -/
def rampEnd (ty : PowerSystemType) (powerOn : Bool) : ℚ := if powerOn then voltageNominal ty else 0

/-- An unforced voltage is cut off at its limits. -/
theorem calcVoltage_eq {powerOn : Bool} {timeDiff : ℚ} (hunforced : sub.overVoltage = false)
    (hnonneg : 0 ≤ sub.voltage) (hle : sub.voltage ≤ voltageNominal ty) :
    sub.calcVoltage ty powerOn timeDiff =
      if sub.voltage = rampEnd ty powerOn then rampEnd ty powerOn
      else if powerOn then
        min (voltageNominal ty)
          (round64 (sub.voltage + round64 (voltageChangeRateOn ty * timeDiff)))
      else max 0 (round64 (sub.voltage - round64 (voltageChangeRateOff ty * timeDiff))) := by
  have hlimit : sub.voltNom ty = voltageNominal ty := by
    rw [voltNom, hunforced]
    rfl
  cases powerOn with
  | true =>
      simp only [calcVoltage, rampEnd, hlimit, if_true]
      generalize round64 (sub.voltage + round64 (voltageChangeRateOn ty * timeDiff)) = sum
      by_cases hend : sub.voltage = voltageNominal ty
      · simp [hend]
      · have hlow : sub.voltage < voltageNominal ty := lt_of_le_of_ne hle hend
        rw [if_pos hlow, if_neg hend, min_def]
        split_ifs <;> linarith
  | false =>
      simp only [calcVoltage, rampEnd, Bool.false_eq_true, if_false]
      generalize round64 (sub.voltage - round64 (voltageChangeRateOff ty * timeDiff)) = diff
      by_cases hend : sub.voltage = 0
      · simp [hend]
      · have hhigh : sub.voltage > 0 := lt_of_le_of_ne hnonneg (Ne.symm hend)
        rw [if_pos hhigh, if_neg hend, max_def]
        split_ifs <;> linarith

/-- The nominal voltage is a double, so that no rounding takes a voltage above it. -/
theorem round64_le_voltageNominal {x : ℚ} (hx : x ≤ voltageNominal ty) :
    round64 x ≤ voltageNominal ty := by
  have hnominal : voltageNominal ty = (24 : ℕ) := by cases ty <;> rfl
  rw [hnominal] at hx ⊢
  rw [round64]
  exact roundTo_le (by norm_num) hx

/-- An unforced voltage stays within its limits. -/
theorem calcVoltage_bounds {powerOn : Bool} {timeDiff : ℚ} (htime : 0 ≤ timeDiff)
    (hunforced : sub.overVoltage = false) (hnonneg : 0 ≤ sub.voltage)
    (hle : sub.voltage ≤ voltageNominal ty) :
    0 ≤ sub.calcVoltage ty powerOn timeDiff ∧
      sub.calcVoltage ty powerOn timeDiff ≤ voltageNominal ty := by
  have hnominal := (voltageNominal_pos ty).le
  have hon := round64_nonneg (mul_nonneg (voltageChangeRateOn_pos ty).le htime)
  have hoff := round64_nonneg (mul_nonneg (voltageChangeRateOff_pos ty).le htime)
  rw [calcVoltage_eq hunforced hnonneg hle]
  split_ifs with hend hpower
  · rw [← hend]
    exact ⟨hnonneg, hle⟩
  · exact ⟨le_min hnominal (round64_nonneg (by linarith)), min_le_left _ _⟩
  · exact ⟨le_max_left _ _, max_le hnominal (round64_le_voltageNominal (by linarith))⟩

/-- A ramp that starts at its end stays there. -/
theorem near_rampEnd {powerOn : Bool} {dt e : ℚ} (htime : 0 ≤ dt) (he : 0 ≤ e) :
    Near (ramp ty powerOn dt) (rampEnd ty powerOn) e (rampEnd ty powerOn) := by
  cases powerOn with
  | true =>
      have hgain := mul_nonneg (voltageChangeRateOn_pos ty).le htime
      have hrise : voltageNominal ty ≤ voltageNominal ty + e + voltageChangeRateOn ty * dt := by
        linarith
      exact ⟨min_le_left _ _, le_min le_rfl hrise⟩
  | false =>
      have hloss := mul_nonneg (voltageChangeRateOff_pos ty).le htime
      have hfall : 0 - e - voltageChangeRateOff ty * dt ≤ 0 := by linarith
      exact ⟨max_le le_rfl hfall, le_max_left _ _⟩

/-- **A step of the voltage** is a step of a ramp, up to the tolerance; a voltage that has
reached the end stays there. -/
theorem calcVoltage_near (powerOn : Bool) {dt : ℚ} (htime : 0 ≤ dt)
    (hunforced : sub.overVoltage = false) (hnonneg : 0 ≤ sub.voltage)
    (hle : sub.voltage ≤ voltageNominal ty) :
    Near (ramp ty powerOn dt) sub.voltage (voltageTolerance ty)
        (sub.calcVoltage ty powerOn (round64 dt)) ∧
      (sub.voltage = rampEnd ty powerOn →
        sub.calcVoltage ty powerOn (round64 dt) = rampEnd ty powerOn) := by
  rw [calcVoltage_eq hunforced hnonneg hle]
  refine ⟨?_, fun hend => if_pos hend⟩
  by_cases hend : sub.voltage = rampEnd ty powerOn
  · rw [if_pos hend, hend]
    exact near_rampEnd htime (voltageTolerance_nonneg ty)
  rw [if_neg hend]
  cases powerOn with
  | true =>
      have hgain := mul_nonneg (voltageChangeRateOn_pos ty).le htime
      rw [if_pos rfl]
      exact near_rampUp_of_error (by norm_num) (by norm_num) hnonneg hle (error_add hgain hnonneg)
  | false =>
      have hloss := mul_nonneg (voltageChangeRateOff_pos ty).le htime
      rw [if_neg (by simp)]
      exact near_rampDown_of_error (by norm_num) (by norm_num) hnonneg hle (error_sub hloss hnonneg)

/-! ## The breaker -/

/-- Since when the reset bit is what it is, if it is `reset` at the time `ts`. -/
def resetSince (sub : SimPowerSubsystem) (reset : Bool) (ts : Time) : Time :=
  if reset = sub.breakerClosedTarg then sub.breakerClosedTargTs else ts

/-- The breaker is closed after it has seen the reset bit `reset` at the time `ts`. -/
def closes (sub : SimPowerSubsystem) (ty : PowerSystemType) (reset : Bool) (ts : Time) : Bool :=
  reset && (sub.breakerClosed ||
    decide (timePassedSec (sub.resetSince reset ts) ts > breakerCloseTimeSec ty))

theorem calcBreakerTarg_eq (sub : SimPowerSubsystem) (reset : Bool) (ts : Time) :
    sub.calcBreakerTarg reset ts =
      { sub with breakerClosedTarg := reset, breakerClosedTargTs := sub.resetSince reset ts } := by
  unfold calcBreakerTarg resetSince
  by_cases h : reset = sub.breakerClosedTarg
  · rw [if_neg (not_not.mpr h), if_pos h, h]
  · rw [if_pos h, if_neg h]

theorem calcBreakerClosed_eq (sub : SimPowerSubsystem) (ty : PowerSystemType) (ts : Time) :
    sub.calcBreakerClosed ty ts =
      { sub with
        breakerClosed := sub.breakerClosedTarg && (sub.breakerClosed ||
          decide (timePassedSec sub.breakerClosedTargTs ts > breakerCloseTimeSec ty)) } := by
  obtain ⟨voltage, current, closed, prev, targ, targTs, overVoltage, overCurrent⟩ := sub
  by_cases htime : timePassedSec targTs ts > breakerCloseTimeSec ty <;> cases closed <;>
    cases targ <;> simp [calcBreakerClosed, htime]

/-- **What `calcBreakers` does.**  The breaker opens with the reset bit and closes when the
bit has been high for long enough; its inputs are written when it has changed. -/
theorem calcBreakers_eq (sub : SimPowerSubsystem) (ty : PowerSystemType)
    (outputPort : OutputPortBits) (ts : Time) {reset : Bool}
    (hreset : OutputPortBits.getBitAtPos outputPort (breakerResetPos ty) = reset) :
    sub.calcBreakers ty outputPort ts =
      ({ sub with
          breakerClosed := sub.closes ty reset ts
          breakerClosedPrev := sub.closes ty reset ts
          breakerClosedTarg := reset
          breakerClosedTargTs := sub.resetSince reset ts },
        if sub.closes ty reset ts = sub.breakerClosedPrev then []
        else breakerWrites ty (sub.closes ty reset ts)) := by
  unfold calcBreakers
  dsimp only
  rw [hreset, calcBreakerTarg_eq, calcBreakerClosed_eq]
  change (if sub.closes ty reset ts ≠ sub.breakerClosedPrev then _ else _) = _
  by_cases hprev : sub.closes ty reset ts = sub.breakerClosedPrev
  · rw [if_neg (not_not.mpr hprev), if_pos hprev, ← hprev]
    rfl
  · rw [if_pos hprev, if_neg hprev]
    rfl

/-- `calcBreakers` leaves the voltage and the switches alone. -/
theorem voltage_calcBreakers (sub : SimPowerSubsystem) (ty : PowerSystemType)
    (outputPort : OutputPortBits) (ts : Time) :
    (sub.calcBreakers ty outputPort ts).1.voltage = sub.voltage ∧
      (sub.calcBreakers ty outputPort ts).1.overVoltage = sub.overVoltage ∧
      (sub.calcBreakers ty outputPort ts).1.overCurrent = sub.overCurrent := by
  rw [calcBreakers_eq sub ty outputPort ts rfl]
  exact ⟨rfl, rfl, rfl⟩

theorem mem_breakerWrites {closed set : Bool} {pos : ℕ} :
    (pos, set) ∈ breakerWrites ty closed ↔ pos ∈ breakerBitPositions ty ∧ set = closed := by
  simp [breakerWrites, eq_comm]

/-- What `calcBreakers` writes: nothing, or all the inputs of the breaker. -/
theorem mem_calcBreakers {sub : SimPowerSubsystem} {outputPort : OutputPortBits} {ts : Time}
    {write : ℕ × Bool} (h : write ∈ (sub.calcBreakers ty outputPort ts).2) :
    write.1 ∈ breakerBitPositions ty ∧
      write.2 = (sub.calcBreakers ty outputPort ts).1.breakerClosed := by
  rw [calcBreakers_eq sub ty outputPort ts rfl] at h ⊢
  dsimp only at h ⊢
  split_ifs at h
  · exact absurd h List.not_mem_nil
  · exact mem_breakerWrites.mp h

end SimPowerSubsystem

end M2Cell
