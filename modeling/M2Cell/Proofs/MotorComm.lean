import M2Cell.Control.Operations

/-!
# Motor power and comm power

The motor may only have power while comm has.  `_processDaq` sees to it by the
bits that it reads back: when comm is off at its start, the motor is off at its
end (`motor_follows_comm`), because the bits agree with the targets in every run.

The commands look at the actual state of the other subsystem, which lags behind
its target.  `motorNeedsComm_command_iff` says for each command from which
states it keeps the motor behind comm.

A command changes the targets in one place, so its statement is a comparison of the targets
before and after: `motorNeedsComm_powerMotor_iff` and `motorNeedsComm_powerComm_iff`, with the
two ways of being refused.  For `_processDaq` the bits of the record are those of the port at its
start; the motor bit with the comm bit low turns the motor off before anything else is looked at
(`powerOff_motor_processDaq`), and what comes after only turns power off.
-/

namespace M2Cell

open PowerSubsystemConfig

namespace System

/-- The motor target is `ON` only together with the comm target. -/
def MotorNeedsComm (s : System) : Prop :=
  (s.sub .motor).targPowerState = .on → (s.sub .comm).targPowerState = .on

instance (s : System) : Decidable s.MotorNeedsComm :=
  inferInstanceAs (Decidable (_ → _))

/-! ## Commands -/

/-- The states from which a command leaves the motor behind comm. -/
def CommandKeepsOrder (powerType : PowerSystemType) (on : Bool) (s : System) : Prop :=
  match powerType, on with
  | .motor, false => True
  | .motor, true =>
      if (s.sub .comm).actualPowerState = .on then
        (s.sub .comm).targPowerState = .on ∨ s.checkForFaults .motor = true ∨
          (s.sub .motor).getCrioReadyOutputOn .motor = false
      else s.MotorNeedsComm
  | .comm, false =>
      (s.sub .motor).targPowerState ≠ .on ∨ (s.sub .motor).actualPowerState ≠ .off
  | .comm, true => (s.sub .motor).targPowerState ≠ .on ∨ s.checkForFaults .comm = false

variable (s : System) (clock : Clocks)

/-- A `setPowerOn` in terms of targets. -/
theorem targPowerState_setPowerOn_iff (ty : PowerSystemType) :
    ((s.setPowerOn ty clock).1.sub ty).targPowerState = .on ↔
      s.checkForFaults ty = false ∧ (s.sub ty).getCrioReadyOutputOn ty = true := by
  obtain ⟨hok, htarg, -⟩ := setPowerOn_spec s ty clock
  rw [htarg, hok]
  cases s.checkForFaults ty <;> cases (s.sub ty).getCrioReadyOutputOn ty <;> simp

theorem motorNeedsComm_powerMotor_iff (on : Bool) :
    (PowerSystem.powerMotor clock on s).1.MotorNeedsComm ↔ s.CommandKeepsOrder .motor on := by
  cases on with
  | false =>
      have hoff := targPowerState_setPowerOff s .motor clock
      simp [PowerSystem.powerMotor, CommandKeepsOrder, MotorNeedsComm, hoff]
  | true =>
      have hcomm : ((s.setPowerOn .motor clock).1.sub .comm).targPowerState =
          (s.sub .comm).targPowerState := by
        rw [show PowerSystemType.comm = PowerSystemType.motor.other from rfl,
          (confined_setPowerOn s .motor clock).other]
      have hmotor := targPowerState_setPowerOn_iff s clock .motor
      by_cases hactual : (s.sub .comm).actualPowerState = .on
      · have hpower : (PowerSystem.powerMotor clock true s).1 = (s.setPowerOn .motor clock).1 := by
          have hcommActual : s.comm.actualPowerState = .on := hactual
          simp [PowerSystem.powerMotor, hcommActual]
        rw [hpower, MotorNeedsComm, hcomm, hmotor]
        simp only [CommandKeepsOrder, hactual, if_true]
        cases s.checkForFaults .motor <;>
          cases (s.sub .motor).getCrioReadyOutputOn .motor <;> simp
      · have hpower : (PowerSystem.powerMotor clock true s).1 = s := by
          have hcommActual : s.comm.actualPowerState ≠ .on := hactual
          simp [PowerSystem.powerMotor, hcommActual]
        rw [hpower]
        simp [CommandKeepsOrder, hactual]

theorem motorNeedsComm_powerComm_iff (on : Bool) :
    (PowerSystem.powerComm clock on s).1.MotorNeedsComm ↔ s.CommandKeepsOrder .comm on := by
  cases on with
  | false =>
      -- comm is off afterwards, so the motor must be
      have hafter (t : System) : (t.setPowerOff .comm clock).MotorNeedsComm ↔
          (t.sub .motor).targPowerState ≠ .on := by
        have hmotor : (t.setPowerOff .comm clock).sub .motor = t.sub .motor :=
          (confined_setPowerOff t .comm clock).other
        rw [MotorNeedsComm, hmotor, targPowerState_setPowerOff]
        simp
      by_cases hactual : (s.sub .motor).actualPowerState = .off
      · have hpower : (PowerSystem.powerComm clock false s).1 = s.setPowerOff .comm clock := by
          have hmotorActual : s.motor.actualPowerState = .off := hactual
          simp [PowerSystem.powerComm, hmotorActual]
        rw [hpower, hafter]
        simp [CommandKeepsOrder, hactual]
      · have hpower : (PowerSystem.powerComm clock false s).1 =
            (s.setPowerOff .motor clock).setPowerOff .comm clock := by
          have hmotorActual : s.motor.actualPowerState ≠ .off := hactual
          simp [PowerSystem.powerComm, hmotorActual]
        rw [hpower, hafter]
        simp [CommandKeepsOrder, hactual]
  | true =>
      have hmotor : ((s.setPowerOn .comm clock).1.sub .motor) = s.sub .motor :=
        (confined_setPowerOn s .comm clock).other
      have hcomm := targPowerState_setPowerOn_iff s clock .comm
      have hready : (s.sub .comm).getCrioReadyOutputOn .comm = true := rfl
      have hpower : (PowerSystem.powerComm clock true s).1 = (s.setPowerOn .comm clock).1 := by
        simp [PowerSystem.powerComm]
      rw [hpower, MotorNeedsComm, hmotor, hcomm]
      simp only [CommandKeepsOrder, hready, and_true]
      tauto

/-- **When a command keeps the motor behind comm.**  `powerMotor` and `powerComm`
leave the motor target `ON` only with the comm target `ON` if and only if the
state before the command allows it. -/
theorem motorNeedsComm_command_iff (powerType : PowerSystemType) (on : Bool) :
    (PowerSystem.cmdPowerBase clock powerType on s).1.MotorNeedsComm ↔
      s.CommandKeepsOrder powerType on := by
  cases powerType with
  | motor => exact motorNeedsComm_powerMotor_iff s clock on
  | comm => exact motorNeedsComm_powerComm_iff s clock on

/-- Telemetry with every input high and the given output bits and comm voltage. -/
def commTelemetry (port : OutputPortBits) (commVoltage : ℚ) : SysInfo :=
  ⟨port, BitVec.allOnes 32, 0, 0, commVoltage, 0⟩

/-- A clock that reads the same for both subsystems. -/
def clockAt (time : Time) : Clocks := fun _ => ⟨time, time⟩

/-- Comm is brought up: one DAQ call finds it off, ten more turn it on.  The CRIO
bit and the reset bits of the port stay high. -/
def bringUpComm : List Op :=
  [.reportComConnectionCount 1 (clockAt 0), .processDaq (commTelemetry 0x1C 0) (clockAt 0),
    .powerComm true (clockAt 1)] ++
  List.replicate 9 (.processDaq (commTelemetry 0x1E 24) (clockAt 1)) ++
  [.processDaq (commTelemetry 0x1E 24) (clockAt 2)]

/-- Comm is `ON` and commanded off; before the next DAQ call the motor is
commanded on. -/
theorem not_motorNeedsComm_powerMotor :
    ¬ ∀ (port : OutputPortBits) (ops : List Op) (powerType : PowerSystemType) (on : Bool)
      (clock : Clocks),
      (PowerSystem.cmdPowerBase clock powerType on (run step (new port) ops)).1.MotorNeedsComm := by
  intro h
  have hmotor := h 4 (bringUpComm ++ [.powerComm false (clockAt 3)]) .motor true (clockAt 3)
  exact absurd hmotor (by decide +kernel)

/-! ## DAQ cycles -/

/-- When comm is off at the start of a `_processDaq`, the motor is off at its end. -/
theorem powerOff_motor_processDaq {s : System} {clock : Clocks} {info : SysInfo} (hs : s.Coupled)
    (hinfo : info.outputPort = s.outputPort) (hcomm : (s.sub .comm).targPowerState = .off) :
    PowerOff .motor (PowerSystem.processDaq clock info s) := by
  have hstart : PowerOff .motor (PowerSystem.startDaq clock info s) := by
    have hcommBit : OutputPortBits.getBitAtPos info.outputPort OutputPortBits.ilcCommPowerOn =
        false := by
      rw [hinfo]
      exact (hs .comm).power_off hcomm
    unfold PowerSystem.startDaq PowerSystem.checkMotorComm
    dsimp only
    rw [hcommBit]
    -- with the motor bit high the motor is turned off
    cases hmotorBit : OutputPortBits.getBitAtPos info.outputPort OutputPortBits.motorPowerOn with
    | true =>
        have hoff := coupled_setPowerOff (PowerSystem.reportHealth clock info s) .motor clock
        have htarg := targPowerState_setPowerOff (PowerSystem.reportHealth clock info s) .motor clock
        exact ⟨htarg, hoff.power_off htarg⟩
    | false =>
        -- the motor is off already
        rw [hinfo] at hmotorBit
        exact (PowerSystem.descends_reportHealth clock info s).powerOff .motor
          ⟨(hs .motor).targ_off hmotorBit, hmotorBit⟩
  exact (PowerSystem.descends_afterStart clock info s).powerOff .motor hstart

/-- The operation is a `_processDaq` that reads back the output port as it is. -/
def ReadsBack (s : System) : Op → Prop
  | .processDaq info _ => info.outputPort = s.outputPort
  | _ => True

instance decidableReadsBack (s : System) : ∀ op, Decidable (s.ReadsBack op)
  | .processDaq info _ => inferInstanceAs (Decidable (info.outputPort = s.outputPort))
  | .setPowerOn _ _ => inferInstanceAs (Decidable True)
  | .setPowerOff _ _ => inferInstanceAs (Decidable True)
  | .subsystemDaq _ _ _ _ => inferInstanceAs (Decidable True)
  | .powerMotor _ _ => inferInstanceAs (Decidable True)
  | .powerComm _ _ => inferInstanceAs (Decidable True)
  | .cmdPower _ _ _ => inferInstanceAs (Decidable True)
  | .checkTimeout _ _ => inferInstanceAs (Decidable True)
  | .updatePowerFaults _ _ _ => inferInstanceAs (Decidable True)
  | .reportMotionEngineTimeout _ => inferInstanceAs (Decidable True)
  | .reportComConnectionCount _ _ => inferInstanceAs (Decidable True)
  | .resetFaults _ => inferInstanceAs (Decidable True)
  | .enableFaultsInMask _ => inferInstanceAs (Decidable True)
  | .changeState _ _ => inferInstanceAs (Decidable True)
  | .goToSafeMode _ => inferInstanceAs (Decidable True)
  | .finishSetup => inferInstanceAs (Decidable True)
  | .setContext _ _ => inferInstanceAs (Decidable True)
  | .writeCrioInterlockEnable _ => inferInstanceAs (Decidable True)

/-- **The motor does not outlive comm by more than one DAQ cycle.**  In a run in
which every `_processDaq` reads back the output port as it is at its start: a
`_processDaq` that starts with the comm target off ends with the motor off, and
when a `_processDaq` turned comm off and comm stays off, the next one ends with
the motor off. -/
theorem motor_follows_comm (port : OutputPortBits) :
    (∀ (ops : List Op) (info : SysInfo) (clock : Clocks),
      Always step ReadsBack (new port) (ops ++ [.processDaq info clock]) →
      ((run step (new port) ops).sub .comm).targPowerState = .off →
      PowerOff .motor (run step (new port) (ops ++ [.processDaq info clock]))) ∧
    (∀ (ops between : List Op) (info info' : SysInfo) (clock clock' : Clocks),
      Always step ReadsBack (new port)
        (ops ++ .processDaq info clock :: between ++ [.processDaq info' clock']) →
      ((run step (new port) ops).sub .comm).targPowerState = .on →
      (∀ first second, between = first ++ second →
        ((run step (new port) (ops ++ .processDaq info clock :: first)).sub .comm).targPowerState =
          .off) →
      PowerOff .motor (run step (new port)
        (ops ++ .processDaq info clock :: between ++ [.processDaq info' clock']))) := by
  have hcycle (ops : List Op) (info : SysInfo) (clock : Clocks)
      (hreads : Always step ReadsBack (new port) (ops ++ [.processDaq info clock]))
      (hcomm : ((run step (new port) ops).sub .comm).targPowerState = .off) :
      PowerOff .motor (run step (new port) (ops ++ [.processDaq info clock])) := by
    rw [run_concat]
    exact powerOff_motor_processDaq (wellFormed_run port ops).coupled hreads.at_split hcomm
  constructor
  · exact hcycle
  intro ops between info info' clock clock' hreads _ hoff
  -- comm is off at the start of the second cycle
  exact hcycle (ops ++ .processDaq info clock :: between) info' clock' hreads
    (hoff between [] (by simp))

/-- Comm is up, and the motor is commanded on. -/
def bringUpMotor : List Op := bringUpComm ++ [.powerMotor true (clockAt 3)]

/-- The read of a record without comm voltage turns comm off and leaves the motor on; the
next read turns the motor off. -/
theorem motor_follows_comm_voltage :
    ((run step (new 4) (bringUpMotor ++ [.processDaq (commTelemetry 0x1F 0) (clockAt 4)])).sub
        .motor).targPowerState = .on ∧
      PowerOff .motor (run step (new 4) (bringUpMotor ++
        .processDaq (commTelemetry 0x1F 0) (clockAt 4) :: [] ++
        [.processDaq (commTelemetry 0x1D 0) (clockAt 5)])) := by
  refine ⟨by decide +kernel, ?_⟩
  have hreads : Always step ReadsBack (new 4) (bringUpMotor ++
      .processDaq (commTelemetry 0x1F 0) (clockAt 4) :: [] ++
      [.processDaq (commTelemetry 0x1D 0) (clockAt 5)]) := by
    decide +kernel
  have hcomm : ((run step (new 4) bringUpMotor).sub .comm).targPowerState = .on := by
    decide +kernel
  refine (motor_follows_comm 4).2 bringUpMotor [] (commTelemetry 0x1F 0) (commTelemetry 0x1D 0)
    (clockAt 4) (clockAt 5) hreads hcomm fun first second hsplit => ?_
  obtain ⟨rfl, rfl⟩ := List.append_eq_nil_iff.mp hsplit.symm
  decide +kernel

end System

end M2Cell
