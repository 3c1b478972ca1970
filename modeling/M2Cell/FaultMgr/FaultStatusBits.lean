import M2Cell.Control.Defs

/-!
# Fault words

`FaultStatusBits` is a 64-bit word with one bit for each fault, warning or
piece of information.  The positions carry the values of the enumeration in
`FaultStatusBits.h`; they are `Fin 64`, so the `range_error` of `setBit64`
cannot occur.

The masks are built the way the static member functions build them, bit by bit
from a start value.  What later proofs need to know about them is proved here
once, by evaluating the masks: which bits belong to a mask and which masks are
disjoint.
-/

namespace M2Cell

/-- `FaultStatusBits`: one bit for each fault, warning or information. -/
abbrev FaultStatusBits := BitVec 64

/-- A position in a fault word. -/
abbrev FaultBit := Fin 64

namespace FaultStatusBits

def staleDataWarn : FaultBit := 0
def staleDataFault : FaultBit := 1
def actuatorFault : FaultBit := 3
def excessiveForce : FaultBit := 4
def actuatorLimitCl : FaultBit := 6
def inclinometerWLut : FaultBit := 7
def motorVoltageFault : FaultBit := 9
def motorVoltageWarn : FaultBit := 10
def commVoltageFault : FaultBit := 11
def commVoltageWarn : FaultBit := 12
def motorOverCurrent : FaultBit := 13
def commOverCurrent : FaultBit := 14
def powerRelayOpenFault : FaultBit := 15
def powerHealthFault : FaultBit := 16
def commMultiBreakerFault : FaultBit := 17
def motorMultiBreakerFault : FaultBit := 18
def singleBreakerTrip : FaultBit := 19
def powerSupplyLoadShareErr : FaultBit := 20
def inclinometerRangeErr : FaultBit := 22
def mirrorTempSensorFault : FaultBit := 23
def axialActuatorEncoderRangeFault : FaultBit := 26
def tangentActuatorEncoderRangeFault : FaultBit := 27
def motorRelay : FaultBit := 28
def commRelay : FaultBit := 29
def hardwareFault : FaultBit := 30
def interlockFault : FaultBit := 31
def tangentLoadCellFault : FaultBit := 32
def elevationAngleDiffFault : FaultBit := 33
def powerSystemTimeout : FaultBit := 35
def parameterFileReadFault : FaultBit := 55
def ilcStateTransitionFault : FaultBit := 56
def crioCommFault : FaultBit := 57
def lossOfTmaCommOnEnableFault : FaultBit := 59
def crioTimingFault : FaultBit := 61
def userGeneratedFault : FaultBit := 63

/-- `setBitAt`: set the bit at `pos`. -/
def setBitAt (bitmap : FaultStatusBits) (pos : FaultBit) : FaultStatusBits :=
  Word.writeBit bitmap pos true

/-- `unsetBitAt`: clear the bit at `pos`. -/
def unsetBitAt (bitmap : FaultStatusBits) (pos : FaultBit) : FaultStatusBits :=
  Word.writeBit bitmap pos false

@[simp] theorem bit_setBitAt (bitmap : FaultStatusBits) (pos other : FaultBit) :
    Word.bit (setBitAt bitmap pos) other = (decide (other = pos) || Word.bit bitmap other) := by
  by_cases h : other = pos <;> simp [setBitAt, h]

@[simp] theorem bit_unsetBitAt (bitmap : FaultStatusBits) (pos other : FaultBit) :
    Word.bit (unsetBitAt bitmap pos) other = (!decide (other = pos) && Word.bit bitmap other) := by
  by_cases h : other = pos <;> simp [unsetBitAt, h]

/-! ## Masks -/

def getMaskClosedLoopControl : FaultStatusBits := 0

def getMaskOpenLoopControl : FaultStatusBits :=
  Word.setBits getMaskClosedLoopControl
    [actuatorLimitCl, inclinometerWLut, crioTimingFault, inclinometerRangeErr,
      mirrorTempSensorFault, elevationAngleDiffFault]

def getMaskTelemetryOnlyControl : FaultStatusBits :=
  Word.setBits getMaskOpenLoopControl
    [actuatorFault, excessiveForce, motorVoltageFault, motorOverCurrent, motorMultiBreakerFault,
      axialActuatorEncoderRangeFault, tangentActuatorEncoderRangeFault, ilcStateTransitionFault]

/-- The faults, as opposed to warnings and information. -/
def getMaskFaults : FaultStatusBits :=
  Word.setBits getMaskTelemetryOnlyControl
    [commVoltageFault, commOverCurrent, powerRelayOpenFault, powerHealthFault,
      commMultiBreakerFault, powerSupplyLoadShareErr, interlockFault, tangentLoadCellFault,
      lossOfTmaCommOnEnableFault, crioCommFault, userGeneratedFault, parameterFileReadFault,
      powerSystemTimeout]

/-- The faults of one power subsystem. -/
def getMaskPowerSubsystemFaults : PowerSystemType → FaultStatusBits
  | .comm =>
      Word.setBits 0 [commVoltageFault, commOverCurrent, powerRelayOpenFault, commMultiBreakerFault]
  | .motor =>
      Word.setBits 0
        [motorVoltageFault, motorOverCurrent, powerRelayOpenFault, motorMultiBreakerFault]

def getPowerSubsystemFaultManagerAffectedFaultMask : FaultStatusBits :=
  Word.setBits 0
    [motorVoltageFault, motorOverCurrent, motorMultiBreakerFault, commVoltageFault,
      commOverCurrent, powerRelayOpenFault, powerHealthFault, commMultiBreakerFault,
      powerSupplyLoadShareErr, interlockFault, powerSystemTimeout]

def getPowerSubsystemFaultManagerAffectedWarningMask : FaultStatusBits :=
  Word.setBits 0
    [motorVoltageWarn, commVoltageWarn, singleBreakerTrip, motorRelay, commRelay, hardwareFault]

def getMaskHealthFaults : FaultStatusBits :=
  Word.setBits 0 [powerHealthFault, powerSupplyLoadShareErr]

/-! ## What the masks contain -/

/-- No affected warning is a fault. -/
theorem not_maskFaults_of_affectedWarning {pos : FaultBit}
    (h : Word.bit getPowerSubsystemFaultManagerAffectedWarningMask pos = true) :
    Word.bit getMaskFaults pos = false := by
  revert pos
  decide +kernel

/-- The affected warnings in the low half of the low word are the two voltage warnings. -/
theorem affectedWarning_low_iff (pos : FaultBit) :
    pos.val < 16 ∧ Word.bit getPowerSubsystemFaultManagerAffectedWarningMask pos = true ↔
      pos = motorVoltageWarn ∨ pos = commVoltageWarn := by
  revert pos
  decide +kernel

end FaultStatusBits

end M2Cell
