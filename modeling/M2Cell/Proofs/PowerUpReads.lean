import M2Cell.Control.FaultsSet
import M2Cell.Control.Operations
import M2Cell.Proofs.PowerOnCompletes

/-!
# Reads while the power comes up

`PowerOnCompletes` asks for healthy telemetry from the first read on.  The hardware takes its
time, so the first records show a low relay and the next ones a low voltage.  A subsystem
minds neither: nine reads are only counted, the wait needs the outputs, and the voltage and
the breakers matter for the verdict alone (`Fits`, `climbs_of_fits`).

`Stage` says where a subsystem is on its way: it rests in `OFF`, or it has risen for a number
of reads.  A whole `_processDaq` moves both subsystems on and reports no fault, when the record
fits the stages of both (`Steady.processDaq`).

Between two reads other operations may come in.  Those that are `Harmless` neither touch a
subsystem nor send the Model to where all power is off, and they gate no power
(`Steady.harmless`): a report that a client is connected, a timeout of the motion engine, a
reset of faults, the end of the setup, the interlock, and a change to a state that leaves the
power alone.
-/

namespace M2Cell

open PowerSubsystemConfig

namespace Call

variable {ty : PowerSystemType} {c : Call} {clock : Clock} {reads : ℕ} {tenth : Time}

/-- The record that was read is good enough for where the subsystem is after `reads` reads. -/
structure Fits (ty : PowerSystemType) (clock : Clock) (reads : ℕ) (c : Call) : Prop where
  voltage_le : c.sub.sysInfo.voltage ty ≤ (psCfg ty).maxVoltageWarn
  current_le : c.sub.sysInfo.current ty ≤ (psCfg ty).maxCurrent
  interlock : c.sub.getInterlockRelayControlOutputOn ty = true
  output : 9 ≤ reads → c.sub.outputIsOn ty = true
  healthy : c.sub.actualPowerState = .on ∨
      9 ≤ reads ∧ c.timeInPhase clock > (psCfg ty).outputOnMaxDelay →
    HealthyTelemetry ty c.sub.sysInfo

/-- Within the limits of warnings, and with the interlock closed, the call is the case of the
actual state, whether the outputs are on or not. -/
theorem processPowerOn_of_fits (h : Fits ty clock reads c) :
    c.processPowerOn ty clock =
      c.processActual ty clock (c.sub.outputIsOn ty) (c.sub.sysInfo.voltage ty) := by
  have hshould : c.powerShouldBeOn ty = c := by
    rw [powerShouldBeOn, if_pos h.interlock, ite_self]
  have hwarn : ¬ c.sub.sysInfo.voltage ty > (psCfg ty).maxVoltageWarn := not_lt.mpr h.voltage_le
  have hfault : ¬ c.sub.sysInfo.voltage ty > (psCfg ty).maxVoltageFault :=
    not_lt.mpr (h.voltage_le.trans (voltages_ordered ty).2.2.le)
  have hcurrent : ¬ c.sub.sysInfo.current ty > (psCfg ty).maxCurrent := not_lt.mpr h.current_le
  unfold processPowerOn
  dsimp only
  rw [hshould, PowerSubsystem.getVoltage_eq, PowerSubsystem.getCurrent_eq, if_neg hfault,
    if_neg hwarn, if_neg hcurrent]

/-- Where a subsystem with the target on is after `reads` reads, of which the first came at the
time `first` and the tenth at the time `tenth`. -/
structure Climbing (reads : ℕ) (first tenth : Time) (sub : PowerSubsystem) : Prop where
  rising : Rising reads tenth sub
  turning : sub.actualPowerState = .turningOn →
    0 < reads ∧ (sub.phase = 1 → sub.phaseStartTime = first)

/-- What one read does to it. -/
structure Climbs (ty : PowerSystemType) (clock : Clock) (reads : ℕ) (first tenth : Time)
    (c r : Call) : Prop where
  rises : Rises ty clock reads tenth c r
  first : r.sub.actualPowerState = .turningOn → r.sub.phase = 1 →
    r.sub.phaseStartTime = if reads = 0 then clock.now else first
  verdict : r.sub.actualPowerState = .on → c.sub.actualPowerState = .on ∨
    9 ≤ reads ∧ c.timeInPhase clock > (psCfg ty).outputOnMaxDelay

/-- A read that is only counted. -/
theorem rises_few (htarg : c.sub.targPowerState = .on) (hactual : c.sub.actualPowerState = .turningOn)
    (hphase : c.sub.phase = 1) (hcount : c.sub.telemCounter = reads) (hfew : reads < 9) :
    Rises ty clock reads tenth c c.count := by
  refine ⟨rising_turningOn htarg hactual (Or.inl ⟨hphase, by omega, ?_⟩), rfl, fun hon => ?_,
    fun hten => by omega⟩
  · simp [count, hcount]
  · rw [hactual] at hon
    exact absurd hon (by decide)

/-- A read in the wait of phase 2, or the one that starts it. -/
theorem rises_wait (htarg : c.sub.targPowerState = .on)
    (hactual : c.sub.actualPowerState = .turningOn)
    (hstage : c.sub.phase = 1 ∧ reads = 9 ∧ c.sub.telemCounter = reads ∨
      c.sub.phase = 2 ∧ 10 ≤ reads ∧ c.sub.phaseStartTime = tenth)
    (htime : ¬ c.timeInPhase clock > (psCfg ty).outputOnMaxDelay) :
    (c.countTelemetry clock).sub.phase = 2 ∧
      Rises ty clock reads tenth c (c.countTelemetry clock) := by
  have hnot : ¬ c.sub.actualPowerState = .on := by
    rw [hactual]
    decide
  obtain ⟨hone, hlast, hcount⟩ | ⟨htwo, hten, hstart⟩ := hstage
  · have hends : c.PhaseOneEnds := Or.inl ⟨hone, by omega⟩
    have hphase : (c.countTelemetry clock).sub.phase = 2 := phase_countTelemetry hends
    refine ⟨hphase, rising_turningOn (by simpa using htarg) (by simpa using hactual)
      (Or.inr ⟨hphase, by omega, ?_⟩), (countTelemetry_spec c clock).2,
      fun hon => absurd hon hnot, fun hten => by omega⟩
    rw [countTelemetry_of_ten hone (by omega), phaseStartTime_enter, if_pos hlast]
  · have hlast : reads ≠ 9 := by omega
    rw [countTelemetry_of_two htwo]
    refine ⟨htwo, rising_turningOn htarg hactual
      (Or.inr ⟨htwo, by omega, by rw [if_neg hlast, hstart]⟩), rfl, fun hon => absurd hon hnot,
      fun _ hlate => absurd ?_ htime⟩
    rw [timeInPhase, hstart]
    exact hlate

variable {first : Time}

/-- A read in `TURNING_ON`. -/
theorem climbs_turningOn (h : Fits ty clock reads c) (hclimbing : Climbing reads first tenth c.sub)
    (hactual : c.sub.actualPowerState = .turningOn) :
    Climbs ty clock reads first tenth c
      (c.processTurningOn ty clock (c.sub.outputIsOn ty) (c.sub.sysInfo.voltage ty)) := by
  have htarg := hclimbing.rising.targ
  have hstage := hclimbing.rising.2
  obtain ⟨hsome, hfirst⟩ := hclimbing.turning hactual
  rw [hactual] at hstage
  -- with nine reads before it this one ends the count, and then only the wait is left
  by_cases hnine : 9 ≤ reads
  · have hlate : c.sub.phase = 1 ∧ reads = 9 ∧ c.sub.telemCounter = reads ∨
        c.sub.phase = 2 ∧ 10 ≤ reads ∧ c.sub.phaseStartTime = tenth :=
      hstage.imp_left fun ⟨hone, hfew, hcount⟩ => ⟨hone, by omega, hcount⟩
    have hends : c.PhaseOneEnds := by
      obtain ⟨hone, hlast, hcount⟩ | ⟨htwo, -, -⟩ := hlate
      · exact Or.inl ⟨hone, by omega⟩
      · exact Or.inr htwo
    rw [h.output hnine]
    -- when the wait is over the voltage decides
    by_cases htime : c.timeInPhase clock > (psCfg ty).outputOnMaxDelay
    · have hhealthy := h.healthy (Or.inr ⟨hnine, htime⟩)
      have hrises : Rises ty clock reads tenth c _ := rises_verdict hhealthy htarg hnine hends htime
      refine ⟨hrises, fun hturning hone => ?_, fun _ => Or.inr ⟨hnine, htime⟩⟩
      have hrisen := hrises.rising.2
      rw [hturning] at hrisen
      obtain ⟨-, hfew, -⟩ | ⟨htwo, -⟩ := hrisen
      · omega
      · rw [hone] at htwo
        exact absurd htwo (by decide)
    · obtain ⟨htwo, hrises⟩ := rises_wait htarg hactual hlate htime
      rw [processTurningOn_wait hends htime]
      refine ⟨hrises, fun _ hone => ?_, fun hon => ?_⟩
      · rw [hone] at htwo
        exact absurd htwo (by decide)
      · rw [actualPowerState_countTelemetry, hactual] at hon
        exact absurd hon (by decide)
  · obtain ⟨hone, -, hcount⟩ | ⟨-, hten, -⟩ := hstage
    -- one read more; the phase began with the first
    · rw [processTurningOn_few hone (by omega)]
      refine ⟨rises_few htarg hactual hone hcount (by omega), fun _ _ => ?_, fun hon => ?_⟩
      · rw [if_neg hsome.ne']
        exact hfirst hone
      · change c.sub.actualPowerState = .on at hon
        rw [hactual] at hon
        exact absurd hon (by decide)
    · omega

/-- **One read of a record that fits.** -/
theorem climbs_of_fits (h : Fits ty clock reads c) (hclimbing : Climbing reads first tenth c.sub) :
    Climbs ty clock reads first tenth c (c.processPowerOn ty clock) := by
  have hstage := hclimbing.rising.2
  cases hactual : c.sub.actualPowerState with
  | off =>
      -- the first read goes to `TURNING_ON`, which counts it at once
      rw [hactual] at hstage
      obtain ⟨rfl, hcount⟩ := hstage
      have hfew : (c.enter .turningOn 1 clock.now).sub.telemCounter + 1 < 10 := by
        change c.sub.telemCounter + 1 < 10
        omega
      have hrises : Rises ty clock 0 tenth (c.enter .turningOn 1 clock.now)
          (c.enter .turningOn 1 clock.now).count :=
        rises_few hclimbing.rising.targ rfl rfl hcount (by omega)
      rw [processPowerOn_of_fits h, processActual, hactual]
      dsimp only
      rw [processTurningOn_few (phase_enter c .turningOn 1 clock.now) hfew]
      refine ⟨⟨hrises.rising, rfl, fun hon => ?_, fun hten => by omega⟩, fun _ _ => rfl,
        fun hon => ?_⟩
      · rw [hactual] at hon
        exact absurd hon (by decide)
      · exact absurd (show PowerState.turningOn = .on from hon) (by decide)
  | turningOn =>
      rw [processPowerOn_of_fits h, processActual, hactual]
      exact climbs_turningOn h hclimbing hactual
  | on =>
      have hrises : Rises ty clock reads tenth c _ :=
        rises_processPowerOn (h.healthy (Or.inl hactual)) hclimbing.rising
      refine ⟨hrises, fun hturning => ?_, fun _ => Or.inl hactual⟩
      rw [hrises.on hactual] at hturning
      exact absurd hturning (by decide)
  | unknown | reset | turningOff =>
      rw [hactual] at hstage
      exact hstage.elim

/-- What the read does to the subsystem. -/
structure Moves (ty : PowerSystemType) (clock : Clock) (reads : ℕ) (first tenth : Time)
    (sub sub' : PowerSubsystem) : Prop where
  climbing : Climbing (reads + 1) (if reads = 0 then clock.now else first)
    (if reads = 9 then clock.now else tenth) sub'
  on : sub.actualPowerState = .on → sub'.actualPowerState = .on
  late : 10 ≤ reads → timePassedSec tenth clock.now > (psCfg ty).outputOnMaxDelay →
    sub'.actualPowerState = .on
  verdict : sub'.actualPowerState = .on → sub.actualPowerState = .on ∨
    9 ≤ reads ∧ timePassedSec sub.phaseStartTime clock.now > (psCfg ty).outputOnMaxDelay

theorem Climbs.moves {r : Call} (h : Climbs ty clock reads first tenth c r) :
    Moves ty clock reads first tenth c.sub r.sub where
  climbing := ⟨h.rises.rising, fun hturning => ⟨by omega, h.first hturning⟩⟩
  on := h.rises.on
  late := h.rises.late
  verdict := h.verdict

end Call

/-! ## One subsystem -/

/-- Where a subsystem is: it rests in `OFF`, or it has risen for a number of reads, with the
times of the first and the tenth. -/
inductive Stage
  | resting
  | risen (reads : ℕ) (first tenth : Time)

namespace Stage

/-- The subsystem is at the stage. -/
def Of : Stage → PowerSubsystem → Prop
  | .resting, sub => sub.targPowerState = .off ∧ sub.actualPowerState = .off
  | .risen reads first tenth, sub => Call.Climbing reads first tenth sub

/-- The stage after one more read. -/
def next (now : Time) : Stage → Stage
  | .resting => .resting
  | .risen reads first tenth =>
      .risen (reads + 1) (if reads = 0 then now else first) (if reads = 9 then now else tenth)

/-- The record fits the stage; at rest every record does. -/
def Fits (ty : PowerSystemType) (clock : Clock) (info : SysInfo) (sub : PowerSubsystem) :
    Stage → Prop
  | .resting => True
  | .risen reads _ _ => Call.Fits ty clock reads ⟨{ sub with sysInfo := info }, 0, 0⟩

/-- One read moves the subsystem on; at rest it stays there. -/
def Moves (ty : PowerSystemType) (clock : Clock) (sub sub' : PowerSubsystem) : Stage → Prop
  | .resting => Stage.resting.Of sub'
  | .risen reads first tenth => Call.Moves ty clock reads first tenth sub sub'

theorem Moves.of {ty : PowerSystemType} {clock : Clock} {sub sub' : PowerSubsystem} {stage : Stage}
    (h : stage.Moves ty clock sub sub') : (stage.next clock.now).Of sub' := by
  cases stage with
  | resting => exact h
  | risen reads first tenth => exact h.climbing

end Stage

namespace System

variable {s : System} {ty : PowerSystemType} (clock : Clocks) (info : SysInfo)
  (faultsSet : FaultStatusBits)

/-- A Model that does not want the power off is only moved by a report. -/
theorem reportChange_of_model (ty : PowerSystemType) (hmodel : ¬ s.PowerMustBeOff) :
    ∃ state, s.reportChange ty clock = { s with currentState := state } := by
  have hnot : ¬ (s.PowerMustBeOff ∧ ¬ s.TargetsOff) := fun h => hmodel h.1
  unfold reportChange reportStateChange
  rw [reportPowerSystemStateChange_eq, if_neg hnot]
  split_ifs
  · exact ⟨s.reportedState, rfl⟩
  · exact ⟨s.currentState, rfl⟩
  · exact ⟨s.currentState, rfl⟩

theorem sub_reportChange (ty ty' : PowerSystemType) (hmodel : ¬ s.PowerMustBeOff) :
    (s.reportChange ty clock).sub ty' = s.sub ty' := by
  obtain ⟨state, hreport⟩ := reportChange_of_model clock ty hmodel
  rw [hreport]
  cases ty' <;> rfl

theorem not_powerMustBeOff_processFaults (ty : PowerSystemType) (hmodel : ¬ s.PowerMustBeOff) :
    ¬ (s.processFaults ty clock info).PowerMustBeOff := by
  simpa [processFaults, PowerMustBeOff] using hmodel

/-- A `processDaq` does not bring the Model to where all power is off. -/
theorem not_powerMustBeOff_processDaq (ty : PowerSystemType) (hmodel : ¬ s.PowerMustBeOff) :
    ¬ (s.processDaq ty clock info faultsSet).1.PowerMustBeOff := by
  intro hmust
  have hreported : ((s.processFaults ty clock info).reportChange ty clock).PowerMustBeOff := by
    simpa [processDaq, processTarg, prepareDaq_eq, savePrev, PowerMustBeOff] using hmust
  exact not_powerMustBeOff_processFaults clock info ty hmodel
    (powerMustBeOff_reportChange _ clock hreported)

/-- Without a report that turns all power off a `processDaq` leaves the other subsystem alone. -/
theorem sub_other_processDaq (ty : PowerSystemType) (hmodel : ¬ s.PowerMustBeOff) :
    (s.processDaq ty clock info faultsSet).1.sub ty.other = s.sub ty.other := by
  have hreport := sub_reportChange clock ty ty.other
    (not_powerMustBeOff_processFaults clock info ty hmodel)
  simp only [processDaq, processTarg, prepareDaq_eq, savePrev, sub_other_store]
  rw [hreport, processFaults, sub_other_store]

/-- A `processDaq` at rest. -/
theorem resting_processDaq (hrest : Stage.resting.Of (s.sub ty)) (hmodel : ¬ s.PowerMustBeOff) :
    Stage.resting.Of ((s.processDaq ty clock info faultsSet).1.sub ty) ∧
      (s.processDaq ty clock info faultsSet).2 = faultsSet := by
  obtain ⟨htarg, hactual⟩ := hrest
  have hfaults : Stage.resting.Of ((s.processFaults ty clock info).sub ty) := by
    simp only [processFaults, sub_store, Call.processFaults]
    -- faults turn off what is off already
    split_ifs
    · simp [Stage.Of, hactual]
    · exact ⟨htarg, hactual⟩
  rw [← sub_reportChange clock ty ty (not_powerMustBeOff_processFaults clock info ty hmodel)]
    at hfaults
  have hprepared : Stage.resting.Of ((s.prepareDaq ty clock info).sub ty) := by
    rw [prepareDaq_eq, savePrev, sub_store]
    exact hfaults
  obtain ⟨htarg', hactual'⟩ := hprepared
  simp only [processDaq, processTarg, sub_store, Call.processTarg, sub_call, htarg',
    Call.processPowerOff, hactual']
  split_ifs
  · exact ⟨⟨by simp, by simpa using hactual'⟩, by simp⟩
  · exact ⟨⟨htarg', hactual'⟩, rfl⟩

/-- **A `processDaq` moves the subsystem one stage on** and sets no fault. -/
theorem stage_processDaq {stage : Stage} (hstage : stage.Of (s.sub ty))
    (hfits : stage.Fits ty (clock ty) info (s.sub ty)) (hmodel : ¬ s.PowerMustBeOff)
    (hfaults : stage ≠ .resting → s.checkForFaults ty = false) :
    stage.Moves ty (clock ty) (s.sub ty) ((s.processDaq ty clock info faultsSet).1.sub ty) ∧
      (s.processDaq ty clock info faultsSet).2 = faultsSet := by
  cases stage with
  | resting => exact resting_processDaq clock info faultsSet hstage hmodel
  | risen reads first tenth =>
      have hfree : s.Unhindered ty := ⟨hfaults (by simp), fun h => hmodel h.2.2⟩
      have hcall := processDaq_of_unhindered ty clock info faultsSet s hstage.rising.targ hfree
      have hfits' : Call.Fits ty (clock ty) reads (s.daqCall ty info faultsSet) :=
        ⟨hfits.voltage_le, hfits.current_le, hfits.interlock, hfits.output, hfits.healthy⟩
      have hclimbing : Call.Climbing reads first tenth (s.daqCall ty info faultsSet).sub :=
        ⟨hstage.rising, hstage.turning⟩
      have hclimbs := Call.climbs_of_fits hfits' hclimbing
      rw [← hcall] at hclimbs
      have hmoves := hclimbs.moves
      exact ⟨⟨hmoves.climbing, hmoves.on, hmoves.late, hmoves.verdict⟩, hclimbs.rises.faultsSet⟩

end System

/-! ## A read without faults -/

namespace FaultMgr

variable (fm : FaultMgr) (subsystem : CrioSubsystem)

/-- A report of no faults never goes to safe mode. -/
theorem updatePowerFaults_zero_snd : (fm.updatePowerFaults 0 subsystem).2 = false := by
  unfold updatePowerFaults
  generalize fm.reportPowerFaults 0 = report
  obtain ⟨power, changed⟩ := report
  cases changed with
  | false => rfl
  | true => cases subsystem <;> rfl

/-- A report of no faults gates no subsystem. -/
theorem check_updatePowerFaults_zero {mask : FaultStatusBits}
    (hfree : fm.checkForPowerSubsystemFaults mask = false) :
    (fm.updatePowerFaults 0 subsystem).1.checkForPowerSubsystemFaults mask = false := by
  simp only [checkForPowerSubsystemFaults, Bool.or_eq_false_iff, bne_eq_false_iff_eq,
    Word.eq_zero_iff_bit, Word.bit_and, Word.bit_or, Bool.and_eq_false_iff,
    commConnectionFault_updatePowerFaults, powerFaultMgr_updatePowerFaults] at hfree ⊢
  obtain ⟨hconnected, hbits⟩ := hfree
  refine ⟨hconnected, fun pos => ?_⟩
  -- no current fault is there that could come into the summary
  have hsummary : Word.bit (fm.reportPowerFaults 0).1.summaryFaults pos = true →
      Word.bit fm.powerFaultMgr.summaryFaults pos = true := by
    change Word.bit
      (fm.powerFaultMgr.setCurrentFaults 0).toBasicFaultMgr.updateFaults.1.summaryFaults pos = true → _
    rw [BasicFaultMgr.summaryFaults_updateFaults]
    split_ifs
    · intro h
      rw [Word.bit_or, Word.bit_and, Bool.or_eq_true] at h
      obtain hboth | hcurrent := h
      · exact ((Bool.and_eq_true _ _).mp hboth).1
      · have hzero : Word.bit (0 : FaultStatusBits) pos = true := hcurrent
        rw [show (0 : FaultStatusBits) = 0#64 from rfl, Word.bit_zero] at hzero
        exact absurd hzero (by decide)
    · exact id
  have hcurrent : Word.bit (fm.reportPowerFaults 0).1.currentFaults pos = false := by
    have hkept : (fm.reportPowerFaults 0).1.currentFaults = 0#64 := by
      change (fm.powerFaultMgr.setCurrentFaults 0).toBasicFaultMgr.updateFaults.1.currentFaults = _
      unfold BasicFaultMgr.updateFaults
      split <;> rfl
    rw [hkept, Word.bit_zero]
  have henable : (fm.reportPowerFaults 0).1.faultEnableMask = fm.powerFaultMgr.faultEnableMask :=
    PowerFaultMgr.faultEnableMask_updateFaults _
  rw [hcurrent, henable]
  obtain hmasked | ⟨-, hclear⟩ := hbits pos
  · exact Or.inl hmasked
  · refine Or.inr ⟨rfl, ?_⟩
    by_contra hset
    rw [hsummary (by simpa using hset)] at hclear
    exact absurd hclear (by decide)

end FaultMgr

/-- A report of no faults writes the fault manager only. -/
theorem System.updatePowerFaults_zero (s : System) (clock : Clocks) (subsystem : CrioSubsystem) :
    (∀ ty, (s.updatePowerFaults clock 0 subsystem).sub ty = s.sub ty) ∧
      (s.updatePowerFaults clock 0 subsystem).currentState = s.currentState := by
  rw [System.updatePowerFaults, System.applyFaultMgr, FaultMgr.updatePowerFaults_zero_snd]
  exact ⟨fun ty => by cases ty <;> rfl, rfl⟩

/-- Both subsystems are at their stages, and nothing hinders those that have risen. -/
structure Steady (stages : PowerSystemType → Stage) (s : System) : Prop where
  stage : ∀ ty, (stages ty).Of (s.sub ty)
  model : ¬ s.PowerMustBeOff
  faults : ∀ ty, stages ty ≠ .resting → s.checkForFaults ty = false

/-- The record fits the stages of both subsystems. -/
structure FitsAll (stages : PowerSystemType → Stage) (clock : Clocks) (info : SysInfo) (s : System) :
    Prop where
  fits : ∀ ty, (stages ty).Fits ty (clock ty) info (s.sub ty)
  health : PowerSystem.healthFaults info s = 0
  motor : stages .motor ≠ .resting →
    OutputPortBits.getBitAtPos info.outputPort OutputPortBits.ilcCommPowerOn = true

namespace Steady

variable {stages : PowerSystemType → Stage} {s : System} {clock : Clocks} {info : SysInfo}

/-- Whatever leaves the subsystems that have risen alone. -/
theorem congr {r : System} (h : Steady stages s) (hrest : ∀ ty, stages ty = .resting →
      Stage.resting.Of (r.sub ty)) (hrisen : ∀ ty, stages ty ≠ .resting → r.sub ty = s.sub ty)
    (hmodel : r.currentState = s.currentState) (hmgr : r.faultMgr = s.faultMgr) :
    Steady stages r where
  stage ty := by
    by_cases hty : stages ty = .resting
    · rw [hty]
      exact hrest ty hty
    · rw [hrisen ty hty]
      exact h.stage ty
  model := by
    unfold System.PowerMustBeOff
    rw [hmodel]
    exact h.model
  faults ty hty := by
    rw [System.checkForFaults, hmgr]
    exact h.faults ty hty

/-- The start of `_processDaq`. -/
theorem startDaq (h : Steady stages s) (hfits : FitsAll stages clock info s) :
    Steady stages (PowerSystem.startDaq clock info s) ∧
      ∀ ty, stages ty ≠ .resting → (PowerSystem.startDaq clock info s).sub ty = s.sub ty := by
  have hhealth : PowerSystem.reportHealth clock info s = s := by
    have hnone : ¬ PowerSystem.healthFaults info s ≠ 0#64 := not_not.mpr hfits.health
    rw [PowerSystem.reportHealth, if_neg hnone]
  unfold PowerSystem.startDaq PowerSystem.checkMotorComm
  rw [hhealth]
  dsimp only
  -- the motor may be on alone in the record only if its stage is to rest
  split_ifs with halone
  · have hmotor : stages .motor = .resting := by
      by_contra hrisen
      rw [hfits.motor hrisen] at halone
      simp at halone
    have hrisen (ty : PowerSystemType) (hty : stages ty ≠ .resting) :
        (s.setPowerOff .motor clock).sub ty = s.sub ty := by
      cases ty with
      | motor => exact absurd hmotor hty
      | comm => rfl
    refine ⟨h.congr (fun ty hty => ?_) hrisen (by simp [System.setPowerOff])
      (by simp [System.setPowerOff]), hrisen⟩
    have hstage := h.stage ty
    rw [hty] at hstage
    cases ty with
    | motor => exact ⟨by simp [System.setPowerOff], by simpa using hstage.2⟩
    | comm => exact hstage
  · exact ⟨h, fun _ _ => rfl⟩

/-- **A whole `_processDaq`** moves both subsystems one stage on. -/
theorem processDaq (h : Steady stages s) (hfits : FitsAll stages clock info s) :
    Steady (fun ty => (stages ty).next (clock ty).now) (PowerSystem.processDaq clock info s) ∧
      ∀ ty, (stages ty).Moves ty (clock ty) (s.sub ty)
        ((PowerSystem.processDaq clock info s).sub ty) := by
  obtain ⟨hstart, hkept⟩ := h.startDaq hfits
  -- what comes before a `processDaq` leaves a subsystem that has risen alone
  have hstay (ty : PowerSystemType) (r : System) (hr : stages ty ≠ .resting → r.sub ty = s.sub ty) :
      (stages ty).Fits ty (clock ty) info (r.sub ty) := by
    by_cases hty : stages ty = .resting
    · rw [hty]
      trivial
    · rw [hr hty]
      exact hfits.fits ty
  have hfrom (ty : PowerSystemType) {sub sub' : PowerSubsystem}
      (hsub : stages ty ≠ .resting → sub = s.sub ty)
      (hmoves : (stages ty).Moves ty (clock ty) sub sub') :
      (stages ty).Moves ty (clock ty) (s.sub ty) sub' := by
    by_cases hty : stages ty = .resting
    · rw [hty] at hmoves ⊢
      exact hmoves
    · rw [← hsub hty]
      exact hmoves
  obtain ⟨hmotor, hnone⟩ := System.stage_processDaq clock info (PowerSystem.healthFaults info s)
    (hstart.stage .motor) (hstay .motor _ (hkept .motor)) hstart.model (hstart.faults .motor)
  -- the turn of the motor leaves the comm subsystem, the Model and the gates alone
  have hcommKept : (PowerSystem.motorDaq clock info s).1.sub .comm =
      (PowerSystem.startDaq clock info s).sub .comm :=
    System.sub_other_processDaq clock info _ .motor hstart.model
  have hkept' (hty : stages .comm ≠ .resting) :
      (PowerSystem.motorDaq clock info s).1.sub .comm = s.sub .comm :=
    hcommKept.trans (hkept .comm hty)
  have hmodel : ¬ (PowerSystem.motorDaq clock info s).1.PowerMustBeOff :=
    System.not_powerMustBeOff_processDaq clock info _ .motor hstart.model
  have hfree (hty : stages .comm ≠ .resting) :
      (PowerSystem.motorDaq clock info s).1.checkForFaults .comm = false := by
    have hmgr : (PowerSystem.motorDaq clock info s).1.faultMgr =
        (PowerSystem.startDaq clock info s).faultMgr := by simp
    rw [System.checkForFaults, hmgr]
    exact hstart.faults .comm hty
  obtain ⟨hcomm, hnone'⟩ := System.stage_processDaq clock info
    (PowerSystem.motorDaq clock info s).2 (hcommKept ▸ hstart.stage .comm)
    (hstay .comm _ hkept') hmodel hfree
  have hmotorKept : (PowerSystem.commDaq clock info s).1.sub .motor =
      (PowerSystem.motorDaq clock info s).1.sub .motor :=
    System.sub_other_processDaq clock info _ .comm hmodel
  have hfaults : (PowerSystem.commDaq clock info s).2 = 0 := by
    rw [PowerSystem.commDaq, hnone', PowerSystem.motorDaq, hnone, hfits.health]
  obtain ⟨hsub, hstate⟩ := System.updatePowerFaults_zero (PowerSystem.commDaq clock info s).1 clock
    .powerSubsystem
  rw [← hfaults, ← PowerSystem.processDaq] at hsub hstate
  have hmoves (ty : PowerSystemType) : (stages ty).Moves ty (clock ty) (s.sub ty)
      ((PowerSystem.processDaq clock info s).sub ty) := by
    rw [hsub ty]
    cases ty with
    | motor => exact hfrom .motor (hkept .motor) (hmotorKept ▸ hmotor)
    | comm => exact hfrom .comm hkept' hcomm
  -- the report at the end has no fault in it
  refine ⟨⟨fun ty => (hmoves ty).of, ?_, fun ty hty => ?_⟩, hmoves⟩
  · rw [System.PowerMustBeOff, hstate]
    exact System.not_powerMustBeOff_processDaq clock info _ .comm hmodel
  · have hrisen : stages ty ≠ .resting := by
      intro hrest
      rw [hrest] at hty
      exact hty rfl
    have hbefore := hstart.faults ty hrisen
    rw [System.checkForFaults, PowerSystem.faultMgr_startDaq] at hbefore
    rw [System.checkForFaults, PowerSystem.faultMgr_processDaq, hfaults]
    exact FaultMgr.check_updatePowerFaults_zero _ _ hbefore

end Steady

/-! ## Operations between two reads -/

/-- The operation leaves the power alone and gates none. -/
def Op.Harmless : Op → Prop
  | .reportComConnectionCount count _ => 1 ≤ count
  | .reportMotionEngineTimeout _ => True
  | .resetFaults _ => True
  | .changeState newState _ => newState ≠ .startup ∧ newState ≠ .offline
  | .finishSetup => True
  | .writeCrioInterlockEnable _ => True
  | _ => False

instance decidableHarmless : ∀ op : Op, Decidable op.Harmless
  | .setPowerOn _ _ => inferInstanceAs (Decidable False)
  | .setPowerOff _ _ => inferInstanceAs (Decidable False)
  | .subsystemDaq _ _ _ _ => inferInstanceAs (Decidable False)
  | .powerMotor _ _ => inferInstanceAs (Decidable False)
  | .powerComm _ _ => inferInstanceAs (Decidable False)
  | .cmdPower _ _ _ => inferInstanceAs (Decidable False)
  | .processDaq _ _ => inferInstanceAs (Decidable False)
  | .checkTimeout _ _ => inferInstanceAs (Decidable False)
  | .updatePowerFaults _ _ _ => inferInstanceAs (Decidable False)
  | .reportMotionEngineTimeout _ => inferInstanceAs (Decidable True)
  | .reportComConnectionCount count _ => inferInstanceAs (Decidable (1 ≤ count))
  | .resetFaults _ => inferInstanceAs (Decidable True)
  | .enableFaultsInMask _ => inferInstanceAs (Decidable False)
  | .changeState newState _ => inferInstanceAs (Decidable (newState ≠ .startup ∧ newState ≠ .offline))
  | .goToSafeMode _ => inferInstanceAs (Decidable False)
  | .finishSetup => inferInstanceAs (Decidable True)
  | .setContext _ _ => inferInstanceAs (Decidable False)
  | .writeCrioInterlockEnable _ => inferInstanceAs (Decidable True)

/-- A reset of faults gates no subsystem. -/
theorem FaultMgr.check_resetFaults {fm : FaultMgr} {mask : FaultStatusBits}
    (hfree : fm.checkForPowerSubsystemFaults mask = false) (resetMask : FaultStatusBits) :
    (fm.resetFaults resetMask).checkForPowerSubsystemFaults mask = false := by
  simp only [checkForPowerSubsystemFaults, Bool.or_eq_false_iff, bne_eq_false_iff_eq,
    Word.eq_zero_iff_bit, Word.bit_and, Word.bit_or, Bool.and_eq_false_iff] at hfree ⊢
  refine ⟨hfree.1, fun pos => ?_⟩
  obtain hmasked | ⟨hcurrent, hsummary⟩ := hfree.2 pos
  · exact Or.inl hmasked
  · refine Or.inr ⟨?_, ?_⟩
    · change Word.bit (fm.powerFaultMgr.currentFaults &&& ~~~resetMask) pos = false
      rw [Word.bit_and, hcurrent, Bool.false_and]
    · change Word.bit (fm.powerFaultMgr.summaryFaults &&& ~~~resetMask) pos = false
      rw [Word.bit_and, hsummary, Bool.false_and]

namespace System

variable (s : System)

/-- A change to a state that leaves the power alone writes the state only. -/
theorem changeState_of_harmless (clock : Clocks) {newState : StateEnum}
    (hstate : newState ≠ .startup ∧ newState ≠ .offline) :
    ∃ state, (state = s.currentState ∨ state = newState) ∧
      (s.changeState clock newState).1 = { s with currentState := state } := by
  have henter (s : System) : s.enterState clock newState = s := by
    cases newState with
    | startup => exact absurd rfl hstate.1
    | offline => exact absurd rfl hstate.2
    | _ => rfl
  unfold changeState
  simp only [henter]
  split_ifs
  · exact ⟨s.currentState, Or.inl rfl, rfl⟩
  · exact ⟨s.currentState, Or.inl rfl, rfl⟩
  · exact ⟨newState, Or.inr rfl, rfl⟩
  · exact ⟨s.currentState, Or.inl rfl, rfl⟩

/-- What a harmless operation does. -/
theorem step_of_harmless {op : Op} (hop : op.Harmless) :
    (∀ ty, (s.step op).sub ty = s.sub ty) ∧
      (¬ s.PowerMustBeOff → ¬ (s.step op).PowerMustBeOff) ∧
      ∀ ty, s.checkForFaults ty = false → (s.step op).checkForFaults ty = false := by
  cases op with
  | reportComConnectionCount count clock =>
      -- with a client the report resets what the connection has set
      have hconnected : decide (count < 1) = false := by
        rw [decide_eq_false_iff_not]
        exact not_lt.mpr hop
      have hreport : s.step (.reportComConnectionCount count clock) =
          { s with
            faultMgr := { s.faultMgr with commConnectionFault := false }.resetFaults
              FaultMgr.commMask } := by
        simp only [step, reportComConnectionCount, FaultMgr.reportComConnectionCount, hconnected,
          applyFaultMgr]
        rfl
      rw [hreport]
      refine ⟨fun ty => by cases ty <;> rfl, id, fun ty hfree => ?_⟩
      have hgate : ({ s.faultMgr with commConnectionFault := false } :
          FaultMgr).checkForPowerSubsystemFaults (PowerSubsystem.checkForFaultsMask ty) = false := by
        rw [checkForFaults, FaultMgr.checkForPowerSubsystemFaults, Bool.or_eq_false_iff] at hfree
        rw [FaultMgr.checkForPowerSubsystemFaults, Bool.or_eq_false_iff]
        exact ⟨rfl, hfree.2⟩
      exact FaultMgr.check_resetFaults hgate FaultMgr.commMask
  | reportMotionEngineTimeout errorLvl =>
      exact ⟨fun ty => by cases ty <;> rfl, id, fun _ hfree => hfree⟩
  | resetFaults mask =>
      exact ⟨fun ty => by cases ty <;> rfl, id, fun _ hfree =>
        FaultMgr.check_resetFaults hfree mask⟩
  | changeState newState clock =>
      obtain ⟨state, hstate, hstep⟩ := changeState_of_harmless s clock hop
      simp only [step, hstep]
      refine ⟨fun ty => by cases ty <;> rfl, fun hmodel => ?_, fun _ hfree => hfree⟩
      obtain rfl | rfl := hstate
      · exact hmodel
      · exact not_or.mpr hop
  | finishSetup => exact ⟨fun ty => by cases ty <;> rfl, id, fun _ hfree => hfree⟩
  | writeCrioInterlockEnable set =>
      exact ⟨fun ty => by cases ty <;> rfl, id, fun _ hfree => hfree⟩
  | _ => exact hop.elim

end System

/-- **A harmless operation** keeps both subsystems at their stages. -/
theorem Steady.harmless {stages : PowerSystemType → Stage} {s : System}
    (h : Steady stages s) {op : Op} (hop : op.Harmless) : Steady stages (s.step op) := by
  obtain ⟨hsub, hmodel, hfaults⟩ := s.step_of_harmless hop
  refine ⟨fun ty => ?_, hmodel h.model, fun ty hty => hfaults ty (h.faults ty hty)⟩
  rw [hsub ty]
  exact h.stage ty

end M2Cell
