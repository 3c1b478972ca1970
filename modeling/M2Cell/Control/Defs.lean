import M2Cell.Lib.Word
import Mathlib.Data.Rat.Defs

/-!
# Ports, states and telemetry of the power hardware

The enumerations of `control_defs.h`, the two ports of the FPGA and the
`SysInfo` record that one telemetry read delivers.

A port is a word of the width the code uses: 8 output bits, 32 input bits.  An
output position is a `Fin 8`, so the `range_error` of `writeBit` cannot occur.
An input position stays a plain number, because the code also uses the two
positions `alwaysHigh` and `alwaysLow` outside the word.

Voltages and currents are rational numbers.  Times are rational seconds on the
steady clock.
-/

namespace M2Cell

/-- A reading of the steady clock, in seconds. -/
abbrev Time := ℚ

/-- `util::timePassedSec`: the time passed between `start` and `stop`, in seconds. -/
def timePassedSec (start stop : Time) : ℚ := stop - start

/-! ## Enumerations -/

/-- `PowerSystemType`.  The third value of the enumeration makes the
`PowerSubsystemConfig` constructor throw, so no subsystem has it. -/
inductive PowerSystemType
  | motor
  | comm
  deriving DecidableEq, Repr

namespace PowerSystemType

/-- The other subsystem. -/
def other : PowerSystemType → PowerSystemType
  | motor => comm
  | comm => motor

@[simp] theorem other_ne (ty : PowerSystemType) : ty.other ≠ ty := by
  cases ty <;> decide

theorem eq_or_eq_other (ty ty' : PowerSystemType) : ty' = ty ∨ ty' = ty.other := by
  cases ty <;> cases ty' <;> decide

theorem forall_iff {p : PowerSystemType → Prop} : (∀ ty, p ty) ↔ p .motor ∧ p .comm := by
  constructor
  · intro h
    exact ⟨h .motor, h .comm⟩
  · rintro ⟨hmotor, hcomm⟩ ty
    cases ty with
    | motor => exact hmotor
    | comm => exact hcomm

instance {p : PowerSystemType → Prop} [DecidablePred p] : Decidable (∀ ty, p ty) :=
  decidable_of_iff' _ forall_iff

end PowerSystemType

/-- `PowerState`, for targets as well as for actual states. -/
inductive PowerState
  | unknown
  | off
  | turningOn
  | reset
  | on
  | turningOff
  deriving DecidableEq, Repr

/-- `SysStatus`; smaller is worse. -/
inductive SysStatus
  | critical
  | fault
  | warn
  | good
  | waiting
  deriving DecidableEq, Repr

/-- The numeric value of a `SysStatus`. -/
def SysStatus.toInt : SysStatus → ℤ
  | critical => -3
  | fault => -2
  | warn => -1
  | good => 0
  | waiting => 1

/-! ## The output port -/

/-- `OutputPortBits`: the 8 bits written to the FPGA. -/
abbrev OutputPortBits := BitVec 8

namespace OutputPortBits

def motorPowerOn : Fin 8 := 0
def ilcCommPowerOn : Fin 8 := 1
def crioInterlockEnable : Fin 8 := 2
def resetMotorBreakers : Fin 8 := 3
def resetCommBreakers : Fin 8 := 4

/-- Return the bit of `port` at `pos`. -/
def getBitAtPos (port : OutputPortBits) (pos : Fin 8) : Bool := Word.bit port pos

/-- Write the bit of `port` at `pos`. -/
def writeBit (port : OutputPortBits) (pos : Fin 8) (set : Bool) : OutputPortBits :=
  Word.writeBit port pos set

@[simp] theorem getBitAtPos_writeBit (port : OutputPortBits) (pos other : Fin 8) (set : Bool) :
    getBitAtPos (writeBit port pos set) other = if other = pos then set else getBitAtPos port other :=
  Word.bit_writeBit port pos other set

end OutputPortBits

/-! ## The input port -/

/-- `InputPortBits`: the 32 bits read from the FPGA. -/
abbrev InputPortBits := BitVec 32

namespace InputPortBits

def redundancyOk : ℕ := 0
def loadDistributionOk : ℕ := 1
def powerSupply2DcOk : ℕ := 2
def powerSupply1DcOk : ℕ := 3
def powerSupply2CurrentOk : ℕ := 4
def powerSupply1CurrentOk : ℕ := 5
def j1W9_1MtrPwrBrkrOk : ℕ := 6
def j1W9_2MtrPwrBrkrOk : ℕ := 7
def j1W9_3MtrPwrBrkrOk : ℕ := 8
def j2W10_1MtrPwrBrkrOk : ℕ := 9
def j2W10_2MtrPwrBrkrOk : ℕ := 10
def j2W10_3MtrPwrBrkrOk : ℕ := 11
def j3W11_1MtrPwrBrkrOk : ℕ := 12
def j3W11_2MtrPwrBrkrOk : ℕ := 13
def j3W11_3MtrPwrBrkrOk : ℕ := 14
def j1W12_1CommPwrBrkrOk : ℕ := 15
def j1W12_2CommPwrBrkrOk : ℕ := 24
def j2W13_1CommPwrBrkrOk : ℕ := 25
def j2W13_2CommPwrBrkrOk : ℕ := 26
def j3W14_1CommPwrBrkrOk : ℕ := 27
def j3W14_2CommPwrBrkrOk : ℕ := 28
def interlockPowerRelay : ℕ := 31
def alwaysHigh : ℕ := 100000
def alwaysLow : ℕ := 100001

/-- Return the bit of `port` at `pos`; a position outside the word reads low,
except for `alwaysHigh`. -/
def getBitAtPos (port : InputPortBits) (pos : ℕ) : Bool :=
  if h : pos < 32 then Word.bit port ⟨pos, h⟩ else pos == alwaysHigh

end InputPortBits

/-! ## Telemetry -/

/-- `SysInfo`: what one read of the FPGA delivers. -/
structure SysInfo where
  outputPort : OutputPortBits
  inputPort : InputPortBits
  motorVoltage : ℚ
  motorCurrent : ℚ
  commVoltage : ℚ
  commCurrent : ℚ
  deriving DecidableEq, Repr

end M2Cell
