import M2Cell.Proofs.FaultSummary
import M2Cell.Proofs.MotorComm

/-!
# Power and the health of the supplies

`_processDaq` reports a health fault at once, so that the Model goes to safe
mode.  `updatePowerFaults` returns early when the faults are those of the last
report, and then the Model is not told.  The bits of the health faults are not in
the masks that `setPowerOn` looks at, so a command between two such cycles turns
the power on.

`powerOff_health_run` gives the runs in which the power is off at the end of
every cycle with a health fault: whenever such a cycle starts with a target on,
its health faults differ from the last report.
-/

namespace M2Cell

open FaultStatusBits

namespace FaultMgr

/-- When `updatePowerFaults` goes to safe mode. -/
theorem updatePowerFaults_snd (fm : FaultMgr) (currentFaults : FaultStatusBits) :
    (fm.updatePowerFaults currentFaults .powerSubsystem).2 =
      (decide (fm.ReportsChange currentFaults) && currentFaults &&& getMaskHealthFaults != 0#64) := by
  rw [← fm.reportPowerFaults_snd currentFaults]
  unfold updatePowerFaults
  generalize fm.reportPowerFaults currentFaults = report
  obtain ⟨power, changed⟩ := report
  cases changed <;> rfl

end FaultMgr

namespace System

/-- `_processDaqHealthTelemetry` raises `POWER_HEALTH_FAULT`. -/
def RaisesHealth (info : SysInfo) (s : System) : Prop :=
  Word.bit (PowerSystem.healthFaults info s) powerHealthFault = true

instance (info : SysInfo) (s : System) : Decidable (s.RaisesHealth info) :=
  inferInstanceAs (Decidable (_ = _))

/-- At the end of every `_processDaq` of the run that raises a health fault, all
power is off. -/
def HealthTurnsOff (s : System) (ops : List Op) : Prop :=
  ∀ first info clock rest, ops = first ++ .processDaq info clock :: rest →
    (run step s first).RaisesHealth info →
    ∀ ty, PowerOff ty (run step s (first ++ [.processDaq info clock]))

/-- A `_processDaq` that raises a health fault reports something new, or starts
with both targets off. -/
def ReportsHealth (s : System) : Op → Prop
  | .processDaq info _ =>
      s.RaisesHealth info →
        s.faultMgr.ReportsChange (PowerSystem.healthFaults info s) ∨ s.TargetsOff
  | _ => True

variable {s : System} {info : SysInfo} (clock : Clocks)

/-- `POWER_HEALTH_FAULT` is raised exactly when the power supplies are not healthy. -/
theorem raisesHealth_iff :
    s.RaisesHealth info ↔ PowerSystem.powerSupplyOk s.boostCurrentFaultEnabled info = false := by
  unfold RaisesHealth PowerSystem.healthFaults PowerSystem.processDaqHealthTelemetry
  cases PowerSystem.powerSupplyOk s.boostCurrentFaultEnabled info <;>
    cases PowerSystem.powerLoadOk info <;> decide

/-- A health fault that is new turns all power off at once. -/
theorem powerOff_reportHealth (hhealth : s.RaisesHealth info)
    (hchange : s.faultMgr.ReportsChange (PowerSystem.healthFaults info s)) (ty : PowerSystemType) :
    PowerOff ty (PowerSystem.reportHealth clock info s) := by
  have hne : PowerSystem.healthFaults info s ≠ 0#64 :=
    (Word.ne_zero_iff_bit _).mpr ⟨powerHealthFault, hhealth⟩
  have hmask : PowerSystem.healthFaults info s &&& getMaskHealthFaults ≠ 0#64 := by
    have hbit : Word.bit getMaskHealthFaults powerHealthFault = true := by decide
    exact (Word.ne_zero_iff_bit _).mpr ⟨powerHealthFault, by rw [Word.bit_and, hbit, hhealth]; rfl⟩
  have hsafe : (s.faultMgr.updatePowerFaults (PowerSystem.healthFaults info s)
      .powerSubsystem).2 = true := by
    simp [FaultMgr.updatePowerFaults_snd, hchange, hmask]
  obtain ⟨hoff, hcoupled⟩ := safe_applyFaultMgr clock s hsafe
  rw [PowerSystem.reportHealth, if_pos hne]
  exact ⟨hoff ty, (hcoupled ty).power_off (hoff ty)⟩

/-- One `_processDaq` that reports its health faults. -/
theorem powerOff_health_processDaq (hs : s.WellFormed) (hhealth : s.RaisesHealth info)
    (hreports : s.faultMgr.ReportsChange (PowerSystem.healthFaults info s) ∨ s.TargetsOff)
    (ty : PowerSystemType) : PowerOff ty (PowerSystem.processDaq clock info s) := by
  rcases hreports with hchange | hoff
  · exact (PowerSystem.descends_afterHealth clock info s).powerOff ty
      (powerOff_reportHealth clock hhealth hchange ty)
  · exact (PowerSystem.descends_processDaq clock info s).powerOff ty
      ⟨hoff ty, (hs.coupled ty).power_off (hoff ty)⟩

/-- **No power while the supplies are unhealthy.**  In a run in which every
`_processDaq` with a health fault reports something new or starts with both
targets off, all power is off at the end of each of them. -/
theorem powerOff_health_run (port : OutputPortBits) (ops : List Op)
    (hreports : Always step ReportsHealth (new port) ops) : (new port).HealthTurnsOff ops := by
  rintro first info clock rest rfl hhealth ty
  rw [run_concat]
  exact powerOff_health_processDaq clock (wellFormed_run port first) hhealth
    (hreports.at_split hhealth) ty

/-- Telemetry of a power supply that is not healthy: its DC input is low. -/
def unhealthyTelemetry (port : OutputPortBits) : SysInfo :=
  { commTelemetry port 0 with
    inputPort := ~~~(BitVec.twoPow 32 InputPortBits.powerSupply1DcOk) }

/-- The `Model` is brought to `STANDBY`, with a connection. -/
def bringUpModel : List Op :=
  [.finishSetup, .changeState .standby (clockAt 0), .reportComConnectionCount 1 (clockAt 0)]

/-- The first cycle with a health fault turns all power off. -/
theorem powerOff_health_comm :
    (new 4).HealthTurnsOff (bringUpModel ++
      [.cmdPower .comm true (clockAt 1), .processDaq (unhealthyTelemetry 0x1E) (clockAt 2)]) :=
  powerOff_health_run 4 _
    ⟨trivial, trivial, trivial, trivial, fun _ => Or.inl (by decide +kernel), trivial⟩

/-- Comm is commanded on between two cycles with the same health fault. -/
theorem not_healthTurnsOff :
    ¬ ∀ (port : OutputPortBits) (start ops : List Op),
      (run step (new port) start).currentState ≠ .startup →
      (∀ op ∈ ops, (∃ info clock, op = .processDaq info clock) ∨
        ∃ powerType on clock, op = .cmdPower powerType on clock) →
      (run step (new port) start).HealthTurnsOff ops := by
  intro h
  have hoff := h 4 bringUpModel
    [.processDaq (unhealthyTelemetry 0x1C) (clockAt 1), .cmdPower .comm true (clockAt 2),
      .processDaq (unhealthyTelemetry 0x1E) (clockAt 3)]
    (by decide +kernel) (by simp)
    [.processDaq (unhealthyTelemetry 0x1C) (clockAt 1), .cmdPower .comm true (clockAt 2)]
    (unhealthyTelemetry 0x1E) (clockAt 3) [] rfl (by decide +kernel) .comm
  exact absurd hoff.1 (by decide +kernel)

end System

end M2Cell
