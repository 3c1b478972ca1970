import M2Cell.Proofs.MotorComm

/-!
# A relay that is stuck

With the target off, the output bit read back low and the voltage still high,
`_processPowerOff` should report an open relay after `outputOffMaxDelay`.  The
time is measured from `_phaseStartTime` in the actual state `TURNING_OFF`.  But
the other states fall through to that case after they set `_phaseStartTime` to
the present, and the actual state stays what it was, so the next call does the
same again.

`stuckRelay_detected_iff` says that the relay is detected exactly when the run
starts in `TURNING_OFF`, and `actual_ne_turningOff_run` that no run of the
system gets there.

There is one lemma for each of the two behaviours of the state machine
(`processTarg_turningOff`, `processTarg_fall`) and, with what comes before and after it in
`processDaq`, one for each step of a run (`daqStep_turningOff`, `daqStep_fall`).  Each of them
gives back the condition that it started from, so a run is `sometime_iff_exists` with that
condition as the invariant.
-/

namespace M2Cell

open FaultStatusBits PowerSubsystemConfig

/-- The arguments and clock readings of one `PowerSubsystem::processDaq`. -/
structure DaqCall where
  info : SysInfo
  faultsSet : FaultStatusBits
  clock : Clocks

/-- The telemetry of a stuck relay: the output bit is read back low and the
voltage is not.  The fault that names the relay is not set by the caller. -/
structure DaqCall.Stuck (ty : PowerSystemType) (daq : DaqCall) : Prop where
  relay : OutputPortBits.getBitAtPos daq.info.outputPort (psCfg ty).outputPowerOnBitPos = false
  voltage : (psCfg ty).voltageOffLevel ≤ daq.info.voltage ty
  clear : Word.bit daq.faultsSet (psCfg ty).relayInUse = false

namespace Call

variable {ty : PowerSystemType} (c : Call) (clock : Clock)

/-- One call of the state machine with a stuck relay, in `TURNING_OFF`. -/
theorem processTarg_turningOff (htarg : c.sub.targPowerState = .off)
    (hactual : c.sub.actualPowerState = .turningOff)
    (hrelay : c.sub.getRelayControlOutputOn ty = false)
    (hvoltage : (psCfg ty).voltageOffLevel ≤ c.sub.sysInfo.voltage ty) :
    (c.processTarg ty clock).sub = c.sub ∧
      (c.processTarg ty clock).faultsSet =
        if timePassedSec c.sub.phaseStartTime clock.now > (psCfg ty).outputOffMaxDelay then
          setBitAt (setBitAt c.faultsSet (psCfg ty).relayFault) (psCfg ty).relayInUse
        else c.faultsSet := by
  have hcall : c.processTarg ty clock = c.processTurningOff ty clock := by
    simp [processTarg, htarg, processPowerOff, hrelay, hactual]
  rw [hcall]
  unfold processTurningOff
  rw [PowerSubsystem.getVoltage_eq, if_neg (not_lt.mpr hvoltage)]
  by_cases htime : timePassedSec c.sub.phaseStartTime clock.now > (psCfg ty).outputOffMaxDelay
  · rw [if_pos htime, if_pos htime]
    rw [sub_setPowerOff_of_off _ _ _ (by simpa using htarg), faultsSet_setPowerOff]
    exact ⟨rfl, rfl⟩
  · rw [if_neg htime, if_neg htime]
    exact ⟨rfl, rfl⟩

theorem outputOffMaxDelay_nonneg (ty : PowerSystemType) : 0 ≤ (psCfg ty).outputOffMaxDelay := by
  cases ty <;> norm_num [outputOffMaxDelay, psCfg, setupMotor, setupComm]

/-- One call of the state machine with a stuck relay, in any other state but `OFF`. -/
theorem processTarg_fall (htarg : c.sub.targPowerState = .off)
    (hoff : c.sub.actualPowerState ≠ .off) (hactual : c.sub.actualPowerState ≠ .turningOff)
    (hrelay : c.sub.getRelayControlOutputOn ty = false)
    (hvoltage : (psCfg ty).voltageOffLevel ≤ c.sub.sysInfo.voltage ty) :
    (c.processTarg ty clock).sub.actualPowerState = c.sub.actualPowerState ∧
      (c.processTarg ty clock).faultsSet = c.faultsSet := by
  have hsame : (c.setPowerOff ty clock.stamp).sub = c.sub := sub_setPowerOff_of_off c ty _ htarg
  have hcall : c.processTarg ty clock =
      ((c.setPowerOff ty clock.stamp).enter c.sub.actualPowerState c.sub.phase
        clock.now).processTurningOff ty clock := by
    simp only [processTarg, htarg, processPowerOff, hrelay, Bool.false_eq_true, if_false]
    cases hstart : c.sub.actualPowerState <;> simp_all
  rw [hcall]
  unfold processTurningOff
  -- the phase has just been started anew
  have htime : ¬ timePassedSec clock.now clock.now > (psCfg ty).outputOffMaxDelay := by
    simpa [timePassedSec] using outputOffMaxDelay_nonneg ty
  rw [PowerSubsystem.getVoltage_eq, sysInfo_enter, sysInfo_setPowerOff,
    if_neg (not_lt.mpr hvoltage), phaseStartTime_enter, if_neg htime]
  simp

end Call

namespace System

/-! ## Runs of one subsystem -/

/-- The system after one `processDaq` of the subsystem. -/
def daqStep (ty : PowerSystemType) (s : System) (daq : DaqCall) : System :=
  (s.processDaq ty daq.clock daq.info daq.faultsSet).1

/-- The call sets the relay fault and names the relay. -/
def DetectsRelay (ty : PowerSystemType) (s : System) (daq : DaqCall) : Prop :=
  Word.bit (s.processDaq ty daq.clock daq.info daq.faultsSet).2 (psCfg ty).relayFault = true ∧
    Word.bit (s.processDaq ty daq.clock daq.info daq.faultsSet).2 (psCfg ty).relayInUse = true

instance (ty : PowerSystemType) (s : System) (daq : DaqCall) : Decidable (s.DetectsRelay ty daq) :=
  inferInstanceAs (Decidable (_ ∧ _))

/-- Some call of the run detects the relay. -/
def RelayDetected (ty : PowerSystemType) (s : System) (calls : List DaqCall) : Prop :=
  Sometime (daqStep ty) (DetectsRelay ty) s calls

instance (ty : PowerSystemType) (s : System) (calls : List DaqCall) :
    Decidable (s.RelayDetected ty calls) :=
  inferInstanceAs (Decidable (Sometime _ _ _ _))

/-- The calls go on for more than `outputOffMaxDelay` after `start`. -/
def SpansOffDelay (ty : PowerSystemType) (start : Time) (calls : List DaqCall) : Prop :=
  ∃ daq ∈ calls, timePassedSec start (daq.clock ty).now > (psCfg ty).outputOffMaxDelay

variable {ty : PowerSystemType} {s : System} {daq : DaqCall}

/-- With the target off, turning everything off does not change the subsystem. -/
theorem sub_reportStateChange_of_off {clock : Clocks} (htarg : (s.sub ty).targPowerState = .off) :
    (s.reportStateChange ty clock).sub ty = s.sub ty := by
  have hoff (t : System) (on : PowerSystemType) (ht : t.sub ty = s.sub ty) :
      (t.setPowerOff on clock).sub ty = s.sub ty := by
    rcases on.eq_or_eq_other ty with rfl | rfl
    · simp only [setPowerOff, sub_store]
      rw [Call.sub_setPowerOff_of_off _ _ _ (by simpa [ht] using htarg), sub_call, ht]
    · rw [(confined_setPowerOff t on clock).other, ht]
  unfold reportStateChange
  rw [reportPowerSystemStateChange_eq]
  split_ifs
  · exact hoff _ .comm (hoff s .motor rfl)
  · cases ty <;> rfl
  · rfl

/-- With the target off, the start of `processDaq` only stores the information. -/
theorem sub_prepareDaq_of_off (clock : Clocks) (info : SysInfo)
    (htarg : (s.sub ty).targPowerState = .off) :
    ((s.prepareDaq ty clock info).sub ty).sysInfo = info ∧
      ((s.prepareDaq ty clock info).sub ty).targPowerState = .off ∧
      ((s.prepareDaq ty clock info).sub ty).actualPowerState = (s.sub ty).actualPowerState ∧
      ((s.prepareDaq ty clock info).sub ty).phaseStartTime = (s.sub ty).phaseStartTime := by
  have hfaults : (s.processFaults ty clock info).sub ty = { s.sub ty with sysInfo := info } := by
    simp only [processFaults, sub_store, Call.processFaults]
    split_ifs
    · exact Call.sub_setPowerOff_of_off _ _ _ htarg
    · rfl
  have htarg' : ((s.processFaults ty clock info).sub ty).targPowerState = .off := by
    rw [hfaults]
    exact htarg
  unfold prepareDaq
  dsimp only
  simp only [savePrev, sub_store]
  split_ifs
  · rw [sub_reportStateChange_of_off htarg', hfaults]
    exact ⟨rfl, htarg, rfl, rfl⟩
  · rw [hfaults]
    exact ⟨rfl, htarg, rfl, rfl⟩

/-- What the state machine is called with when the relay is stuck. -/
theorem call_prepareDaq_of_stuck (htarg : (s.sub ty).targPowerState = .off)
    (hstuck : daq.Stuck ty) :
    ∃ c : Call, (s.prepareDaq ty daq.clock daq.info).call ty daq.faultsSet = c ∧
      c.faultsSet = daq.faultsSet ∧ c.sub.targPowerState = .off ∧
      c.sub.actualPowerState = (s.sub ty).actualPowerState ∧
      c.sub.phaseStartTime = (s.sub ty).phaseStartTime ∧
      c.sub.getRelayControlOutputOn ty = false ∧
      (psCfg ty).voltageOffLevel ≤ c.sub.sysInfo.voltage ty := by
  obtain ⟨hinfo, htarg', hactual, hphase⟩ := sub_prepareDaq_of_off daq.clock daq.info htarg
  refine ⟨_, rfl, rfl, htarg', hactual, hphase, ?_, ?_⟩
  · rw [sub_call, PowerSubsystem.getRelayControlOutputOn, hinfo, hstuck.relay]
  · rw [sub_call, hinfo]
    exact hstuck.voltage

/-- One call in `TURNING_OFF`: the subsystem stays there, with the same start of
the phase, and the relay is detected when the delay has passed. -/
theorem daqStep_turningOff (htarg : (s.sub ty).targPowerState = .off)
    (hactual : (s.sub ty).actualPowerState = .turningOff) (hstuck : daq.Stuck ty) :
    ((s.daqStep ty daq).sub ty).targPowerState = .off ∧
      ((s.daqStep ty daq).sub ty).actualPowerState = .turningOff ∧
      ((s.daqStep ty daq).sub ty).phaseStartTime = (s.sub ty).phaseStartTime ∧
      (s.DetectsRelay ty daq ↔ timePassedSec (s.sub ty).phaseStartTime (daq.clock ty).now >
        (psCfg ty).outputOffMaxDelay) := by
  obtain ⟨c, hc, hset, htarg', hactual', hphase, hrelay, hvoltage⟩ :=
    call_prepareDaq_of_stuck htarg hstuck
  obtain ⟨hsub, hfaults⟩ := Call.processTarg_turningOff c (daq.clock ty) htarg'
    (hactual'.trans hactual) hrelay hvoltage
  have hstep : (s.daqStep ty daq).sub ty = c.sub := by
    simp only [daqStep, processDaq, processTarg, sub_store, hc, hsub]
  refine ⟨by rw [hstep, htarg'], by rw [hstep, hactual', hactual], by rw [hstep, hphase], ?_⟩
  simp only [DetectsRelay, processDaq, processTarg, hc, hfaults, hphase, hset]
  split_ifs with htime
  · simp [htime]
  · simp [htime, hstuck.clear]

/-- One call in another state but `OFF`: the subsystem stays in it, and the relay
is not detected. -/
theorem daqStep_fall (htarg : (s.sub ty).targPowerState = .off)
    (hoff : (s.sub ty).actualPowerState ≠ .off)
    (hactual : (s.sub ty).actualPowerState ≠ .turningOff) (hstuck : daq.Stuck ty) :
    ((s.daqStep ty daq).sub ty).targPowerState = .off ∧
      ((s.daqStep ty daq).sub ty).actualPowerState = (s.sub ty).actualPowerState ∧
      ¬ s.DetectsRelay ty daq := by
  obtain ⟨c, hc, hset, htarg', hactual', -, hrelay, hvoltage⟩ :=
    call_prepareDaq_of_stuck htarg hstuck
  rw [← hactual'] at hoff hactual
  obtain ⟨hsame, hfaults⟩ := Call.processTarg_fall c (daq.clock ty) htarg' hoff hactual hrelay
    hvoltage
  refine ⟨(descends_processDaq ty daq.clock daq.info daq.faultsSet s).targ_off htarg, ?_, ?_⟩
  · simp only [daqStep, processDaq, processTarg, sub_store, hc, hsame, hactual']
  · simp [DetectsRelay, processDaq, processTarg, hc, hfaults, hset, hstuck.clear]

/-! ## Runs with a stuck relay -/

/-- **When a stuck relay is detected.**  The target of the subsystem is off, its
actual state is not, and every call finds the relay stuck.  If the calls go on
for more than the delay after the time `offTime` at which the target became off,
some call detects the relay: this is so if and only if the run starts in
`TURNING_OFF` and the calls go on for more than the delay after its
`_phaseStartTime`. -/
theorem stuckRelay_detected_iff (ty : PowerSystemType) (s : System) (offTime : Time)
    (calls : List DaqCall) (htarg : (s.sub ty).targPowerState = .off)
    (hoff : (s.sub ty).actualPowerState ≠ .off) (hstuck : ∀ daq ∈ calls, daq.Stuck ty) :
    (SpansOffDelay ty offTime calls → s.RelayDetected ty calls) ↔
      (SpansOffDelay ty offTime calls → (s.sub ty).actualPowerState = .turningOff ∧
        SpansOffDelay ty (s.sub ty).phaseStartTime calls) := by
  apply imp_congr_right
  intro _
  by_cases hactual : (s.sub ty).actualPowerState = .turningOff
  · -- the start of the phase is the same in every state of the run
    have hdetected : s.RelayDetected ty calls ↔
        SpansOffDelay ty (s.sub ty).phaseStartTime calls := by
      refine sometime_iff_exists (fun t => (t.sub ty).targPowerState = .off ∧
        (t.sub ty).actualPowerState = .turningOff ∧
        (t.sub ty).phaseStartTime = (s.sub ty).phaseStartTime) _ ⟨htarg, hactual, rfl⟩ ?_ ?_
      · rintro t daq hdaq ⟨ht, hta, htp⟩
        obtain ⟨ht', hta', htp', -⟩ := daqStep_turningOff ht hta (hstuck daq hdaq)
        exact ⟨ht', hta', htp'.trans htp⟩
      · rintro t daq hdaq ⟨ht, hta, htp⟩
        rw [← htp]
        exact (daqStep_turningOff ht hta (hstuck daq hdaq)).2.2.2
    rw [hdetected, and_iff_right hactual]
  · -- the subsystem stays in the state that it is in
    have hdetected : s.RelayDetected ty calls ↔ ∃ daq ∈ calls, False := by
      refine sometime_iff_exists (fun t => (t.sub ty).targPowerState = .off ∧
        (t.sub ty).actualPowerState = (s.sub ty).actualPowerState) _ ⟨htarg, rfl⟩ ?_ ?_
      · rintro t daq hdaq ⟨ht, hta⟩
        rw [← hta] at hoff hactual
        obtain ⟨ht', hta', -⟩ := daqStep_fall ht hoff hactual (hstuck daq hdaq)
        exact ⟨ht', hta'.trans hta⟩
      · rintro t daq hdaq ⟨ht, hta⟩
        rw [← hta] at hoff hactual
        exact iff_of_false (daqStep_fall ht hoff hactual (hstuck daq hdaq)).2.2 id
    rw [hdetected]
    simp [hactual]

/-- **No run of the system gets to `TURNING_OFF`.** -/
theorem actual_ne_turningOff_run (port : OutputPortBits) (ops : List Op) (ty : PowerSystemType) :
    ((run step (new port) ops).sub ty).actualPowerState ≠ .turningOff :=
  (wellFormed_run port ops).actual ty

/-- A call that reads the output bits of comm low and 24 volts. -/
def stuckComm (time : Time) : DaqCall := ⟨commTelemetry 0x1C 24, 0, clockAt time⟩

theorem stuck_stuckComm (time : Time) : (stuckComm time).Stuck .comm where
  relay := (by decide :
    OutputPortBits.getBitAtPos 0x1C (psCfg .comm).outputPowerOnBitPos = false)
  voltage := by
    norm_num [psCfg, setupComm, stuckComm, commTelemetry, SysInfo.voltage]
  clear := (by decide : Word.bit 0 (psCfg .comm).relayInUse = false)

theorem spansOffDelay_stuckComm (start : Time) (hstart : start ≤ 3) :
    SpansOffDelay .comm start [stuckComm 4, stuckComm 20, stuckComm 40] := by
  refine ⟨stuckComm 40, by simp, ?_⟩
  norm_num [stuckComm, clockAt, timePassedSec, outputOffMaxDelay, psCfg, setupComm]
  calc (3 / 100 : ℚ) < 40 - 3 := by norm_num
    _ ≤ 40 - start := sub_le_sub_left hstart 40

/-- In `TURNING_OFF` the relay is detected. -/
theorem stuckRelay_detected_turningOff :
    RelayDetected .comm ((new 4).setSub .comm { (new 4).comm with actualPowerState := .turningOff })
      [stuckComm 4, stuckComm 20, stuckComm 40] :=
  (stuckRelay_detected_iff .comm _ 0 _ (by decide +kernel) (by decide +kernel)
    (by simp [stuck_stuckComm])).mpr
      (fun _ => ⟨rfl, spansOffDelay_stuckComm 0 (by norm_num)⟩)
      (spansOffDelay_stuckComm 0 (by norm_num))

/-- Comm is `ON` and commanded off, and its relay stays closed: no call detects it. -/
theorem not_stuckRelay_detected :
    ¬ ∀ (ty : PowerSystemType) (port : OutputPortBits) (ops : List Op) (clock : Clocks)
      (calls : List DaqCall),
      ((run step (new port) ops).sub ty).targPowerState = .on →
      ((run step (new port) (ops ++ [.setPowerOff ty clock])).sub ty).actualPowerState ≠ .off →
      (∀ daq ∈ calls, daq.Stuck ty) → 2 ≤ calls.length →
      SpansOffDelay ty (clock ty).stamp calls →
      (run step (new port) (ops ++ [.setPowerOff ty clock])).RelayDetected ty calls := by
  intro h
  have hdetected := h .comm 4 bringUpComm (clockAt 3) [stuckComm 4, stuckComm 20, stuckComm 40]
    (by decide +kernel) (by decide +kernel) (by simp [stuck_stuckComm]) (by decide)
    (spansOffDelay_stuckComm 3 le_rfl)
  exact absurd hdetected (by decide +kernel)

end System

end M2Cell
