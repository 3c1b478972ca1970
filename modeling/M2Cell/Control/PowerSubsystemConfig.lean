import M2Cell.FaultMgr.FaultStatusBits
import Mathlib.Tactic.NormNum
import Mathlib.Algebra.Order.Ring.Rat

/-!
# The configuration of a power subsystem

`PowerSubsystemConfig` holds what differs between the motor and the comm
subsystem: delays, voltage and current limits, the output bits, the breaker
inputs and the fault bits.  The two constructors `setupMotor` and `setupComm`
carry the values of the source; `psCfg` selects one by the type of the
subsystem.

Breakers come in feeds of three inputs.  One low input of a feed is a warning,
two are a fault, and a group of feeds is as bad as its worst feed
(`BreakerFeedGroup.checkBreakers_spec`).
-/

namespace M2Cell

/-! ## Breakers -/

/-- `BreakerFeedGroup::Feed`: the positions of the three breaker inputs of a feed. -/
structure Feed where
  bit0Pos : ℕ
  bit1Pos : ℕ
  bit2Pos : ℕ
  deriving DecidableEq, Repr

namespace Feed

/-- How many of the three inputs are high. -/
def highCount (feed : Feed) (input : InputPortBits) : ℕ :=
  (InputPortBits.getBitAtPos input feed.bit0Pos).toNat +
    (InputPortBits.getBitAtPos input feed.bit1Pos).toNat +
    (InputPortBits.getBitAtPos input feed.bit2Pos).toNat

/-- `Feed::checkBreakers`, without the string of the low inputs. -/
def checkBreakers (feed : Feed) (input : InputPortBits) : SysStatus :=
  if feed.highCount input = 3 then .good
  else if feed.highCount input = 2 then .warn
  else .fault

end Feed

/-- `BreakerFeedGroup`: three feeds. -/
structure BreakerFeedGroup where
  feed1 : Feed
  feed2 : Feed
  feed3 : Feed
  deriving DecidableEq, Repr

namespace BreakerFeedGroup

/-- `_feeds`. -/
def feeds (group : BreakerFeedGroup) : List Feed := [group.feed1, group.feed2, group.feed3]

/-- Keep the worse of two statuses. -/
def worse (result status : SysStatus) : SysStatus :=
  if status.toInt < result.toInt then status else result

/-- `checkBreakers`: the worst status of the feeds. -/
def checkBreakers (group : BreakerFeedGroup) (info : SysInfo) : SysStatus :=
  group.feeds.foldl (fun result feed => worse result (feed.checkBreakers info.inputPort)) .good

end BreakerFeedGroup

/-! ## Configuration values -/

/-- `PowerSubsystemConfig`.  Times are seconds, voltages volts, currents amps. -/
structure PowerSubsystemConfig where
  systemType : PowerSystemType
  relayCloseDelay : ℚ
  breakerOnTime : ℚ
  interlockOutputOnDelay : ℚ
  relayOpenDelay : ℚ
  interlockOutputOffDelay : ℚ
  resetBreakerPulseWidth : ℚ
  breakerOperatingVoltage : ℚ
  nominalVoltage : ℚ
  breakerOperatingVoltageRiseTime : ℚ
  voltageSettlingTime : ℚ
  voltageOffLevel : ℚ
  maxCurrent : ℚ
  breakerFeedGroup : BreakerFeedGroup
  outputPowerOnBitPos : Fin 8
  outputBreakerBitPos : Fin 8
  voltageFault : FaultBit
  voltageWarn : FaultBit
  excessiveCurrent : FaultBit
  relayFault : FaultBit
  breakerFault : FaultBit
  breakerWarn : FaultBit
  relayInUse : FaultBit

namespace PowerSubsystemConfig

open FaultStatusBits InputPortBits OutputPortBits

/-- `_setupMotor`. -/
def setupMotor : PowerSubsystemConfig where
  systemType := .motor
  relayCloseDelay := 0.050
  breakerOnTime := 0.5
  interlockOutputOnDelay := 0.050
  relayOpenDelay := 0.030
  interlockOutputOffDelay := 0.050
  resetBreakerPulseWidth := 0.400
  breakerOperatingVoltage := 19
  nominalVoltage := 24
  breakerOperatingVoltageRiseTime := 0.085
  voltageSettlingTime := 0.020
  voltageOffLevel := 12
  maxCurrent := 20
  breakerFeedGroup :=
    { feed1 := ⟨j1W9_1MtrPwrBrkrOk, j1W9_2MtrPwrBrkrOk, j1W9_3MtrPwrBrkrOk⟩
      feed2 := ⟨j2W10_1MtrPwrBrkrOk, j2W10_2MtrPwrBrkrOk, j2W10_3MtrPwrBrkrOk⟩
      feed3 := ⟨j3W11_1MtrPwrBrkrOk, j3W11_2MtrPwrBrkrOk, j3W11_3MtrPwrBrkrOk⟩ }
  outputPowerOnBitPos := motorPowerOn
  outputBreakerBitPos := resetMotorBreakers
  voltageFault := motorVoltageFault
  voltageWarn := motorVoltageWarn
  excessiveCurrent := motorOverCurrent
  relayFault := powerRelayOpenFault
  breakerFault := motorMultiBreakerFault
  breakerWarn := singleBreakerTrip
  relayInUse := motorRelay

/-- `_setupComm`.  The third input of each feed does not exist and reads high. -/
def setupComm : PowerSubsystemConfig where
  systemType := .comm
  relayCloseDelay := 0.050
  breakerOnTime := 0.5
  interlockOutputOnDelay := 0
  relayOpenDelay := 0.030
  interlockOutputOffDelay := 0
  resetBreakerPulseWidth := 0.400
  breakerOperatingVoltage := 19
  nominalVoltage := 24
  breakerOperatingVoltageRiseTime := 0.030
  voltageSettlingTime := 0.020
  voltageOffLevel := 12
  maxCurrent := 10
  breakerFeedGroup :=
    { feed1 := ⟨j1W12_1CommPwrBrkrOk, j1W12_2CommPwrBrkrOk, alwaysHigh⟩
      feed2 := ⟨j2W13_1CommPwrBrkrOk, j2W13_2CommPwrBrkrOk, alwaysHigh⟩
      feed3 := ⟨j3W14_1CommPwrBrkrOk, j3W14_2CommPwrBrkrOk, alwaysHigh⟩ }
  outputPowerOnBitPos := ilcCommPowerOn
  outputBreakerBitPos := resetCommBreakers
  voltageFault := commVoltageFault
  voltageWarn := commVoltageWarn
  excessiveCurrent := commOverCurrent
  relayFault := powerRelayOpenFault
  breakerFault := commMultiBreakerFault
  breakerWarn := singleBreakerTrip
  relayInUse := commRelay

/-- The constructor. -/
def psCfg : PowerSystemType → PowerSubsystemConfig
  | .motor => setupMotor
  | .comm => setupComm

def subsystemFaultMask (cfg : PowerSubsystemConfig) : FaultStatusBits :=
  getMaskPowerSubsystemFaults cfg.systemType

/-! `_setupCalculated` -/

def minVoltageWarn (cfg : PowerSubsystemConfig) : ℚ := cfg.nominalVoltage * 0.95

def maxVoltageWarn (cfg : PowerSubsystemConfig) : ℚ := cfg.nominalVoltage * 1.05

def minVoltageFault (cfg : PowerSubsystemConfig) : ℚ := cfg.nominalVoltage * 0.90

def maxVoltageFault (cfg : PowerSubsystemConfig) : ℚ := cfg.nominalVoltage * 1.10

/-- `outputOnMaxDelay`. -/
def outputOnMaxDelay (cfg : PowerSubsystemConfig) : ℚ :=
  match cfg.systemType with
  | .motor => cfg.relayCloseDelay + cfg.breakerOnTime + cfg.interlockOutputOnDelay
  | .comm => cfg.relayCloseDelay + cfg.breakerOnTime

/-- `outputOffMaxDelay`. -/
def outputOffMaxDelay (cfg : PowerSubsystemConfig) : ℚ :=
  match cfg.systemType with
  | .motor => cfg.relayOpenDelay + cfg.interlockOutputOffDelay
  | .comm => cfg.relayOpenDelay

/-- `checkBreakers`. -/
def checkBreakers (cfg : PowerSubsystemConfig) (info : SysInfo) : SysStatus :=
  cfg.breakerFeedGroup.checkBreakers info

end PowerSubsystemConfig

/-! ## What the breaker check finds -/

theorem Feed.checkBreakers_ne_fault_iff (feed : Feed) (input : InputPortBits) :
    feed.checkBreakers input ≠ .fault ↔ 2 ≤ feed.highCount input := by
  have hle : feed.highCount input ≤ 3 := by
    unfold Feed.highCount
    have h0 := Bool.toNat_le (InputPortBits.getBitAtPos input feed.bit0Pos)
    have h1 := Bool.toNat_le (InputPortBits.getBitAtPos input feed.bit1Pos)
    have h2 := Bool.toNat_le (InputPortBits.getBitAtPos input feed.bit2Pos)
    omega
  unfold Feed.checkBreakers
  split_ifs with h3 h2 <;> simp <;> omega

/-- The statuses that a breaker check gives. -/
def IsBreakerStatus (status : SysStatus) : Prop :=
  status = .good ∨ status = .warn ∨ status = .fault

theorem Feed.isBreakerStatus_checkBreakers (feed : Feed) (input : InputPortBits) :
    IsBreakerStatus (feed.checkBreakers input) := by
  unfold Feed.checkBreakers IsBreakerStatus
  split_ifs <;> simp

namespace BreakerFeedGroup

/-- The worse of two breaker statuses is a fault when one of them is. -/
theorem worse_spec {result status : SysStatus} (hresult : IsBreakerStatus result)
    (hstatus : IsBreakerStatus status) :
    IsBreakerStatus (worse result status) ∧
      (worse result status ≠ .fault ↔ result ≠ .fault ∧ status ≠ .fault) := by
  unfold IsBreakerStatus at *
  rcases hresult with rfl | rfl | rfl <;> rcases hstatus with rfl | rfl | rfl <;> decide

/-- **The worst feed decides.**  A group is not at fault exactly when every feed
has two high inputs. -/
theorem checkBreakers_spec (group : BreakerFeedGroup) (info : SysInfo) :
    IsBreakerStatus (group.checkBreakers info) ∧
      (group.checkBreakers info ≠ .fault ↔
        ∀ feed ∈ group.feeds, 2 ≤ feed.highCount info.inputPort) := by
  have haux (feeds : List Feed) (result : SysStatus) (hresult : IsBreakerStatus result) :
      IsBreakerStatus (feeds.foldl (fun result feed =>
          worse result (feed.checkBreakers info.inputPort)) result) ∧
        (feeds.foldl (fun result feed =>
            worse result (feed.checkBreakers info.inputPort)) result ≠ .fault ↔
          result ≠ .fault ∧ ∀ feed ∈ feeds, 2 ≤ feed.highCount info.inputPort) := by
    induction feeds generalizing result with
    | nil => exact ⟨hresult, by simp⟩
    | cons feed rest ih =>
        have hworse := worse_spec hresult (feed.isBreakerStatus_checkBreakers info.inputPort)
        have hrest := ih _ hworse.1
        refine ⟨hrest.1, hrest.2.trans ?_⟩
        rw [hworse.2, Feed.checkBreakers_ne_fault_iff]
        simp [and_assoc]
  have hgood := haux group.feeds .good (Or.inl rfl)
  exact ⟨hgood.1, hgood.2.trans (by simp)⟩

end BreakerFeedGroup

/-! ## What the two configurations have in common -/

namespace PowerSubsystemConfig

@[simp] theorem systemType_psCfg (ty : PowerSystemType) : (psCfg ty).systemType = ty := by
  cases ty <;> rfl

/-- Neither output bit of a subsystem is one of the other subsystem's. -/
theorem outputBits_disjoint (ty : PowerSystemType) :
    (psCfg ty).outputPowerOnBitPos ≠ (psCfg ty).outputBreakerBitPos ∧
      (psCfg ty).outputPowerOnBitPos ≠ (psCfg ty.other).outputPowerOnBitPos ∧
      (psCfg ty).outputPowerOnBitPos ≠ (psCfg ty.other).outputBreakerBitPos ∧
      (psCfg ty).outputBreakerBitPos ≠ (psCfg ty.other).outputPowerOnBitPos ∧
      (psCfg ty).outputBreakerBitPos ≠ (psCfg ty.other).outputBreakerBitPos := by
  cases ty <;> decide

end PowerSubsystemConfig

end M2Cell
