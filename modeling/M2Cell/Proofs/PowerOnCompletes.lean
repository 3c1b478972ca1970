import M2Cell.Control.PowerEvents

/-!
# Power-on completes

On healthy telemetry a subsystem that was `OFF` when `setPowerOn` was accepted
reaches `ON` and stays there, and no call reports a fault.  The reads may come at
any times: nine of them count up in phase 1, the tenth starts phase 2 or ends it,
and the first one that comes later than `outputOnMaxDelay` after the tenth finds
the subsystem `ON` or brings it there.

`Rising` is where the subsystem is after a number of reads.  `rises` moves it by
one read, and the run lemmas follow from it.  A subsystem with a context reports
to the `Model`, which turns all power off in `STARTUP` and `OFFLINE`; so the
`Model` must not be in one of these states (`ModelAllows`).
-/

namespace M2Cell

open PowerSubsystemConfig

/-- Telemetry on which a subsystem turns on without a fault or a warning. -/
structure HealthyTelemetry (ty : PowerSystemType) (info : SysInfo) : Prop where
  relay : OutputPortBits.getBitAtPos info.outputPort (psCfg ty).outputPowerOnBitPos = true
  crioReady : ty = .motor →
    OutputPortBits.getBitAtPos info.outputPort OutputPortBits.crioInterlockEnable = true
  interlock : ty = .motor →
    InputPortBits.getBitAtPos info.inputPort InputPortBits.interlockPowerRelay = false
  breakers : ∀ feed ∈ (psCfg ty).breakerFeedGroup.feeds, feed.highCount info.inputPort = 3
  voltage_ge : (psCfg ty).minVoltageWarn ≤ info.voltage ty
  voltage_le : info.voltage ty ≤ (psCfg ty).maxVoltageWarn
  current_le : info.current ty ≤ (psCfg ty).maxCurrent

instance decidableHealthyTelemetry (ty : PowerSystemType) (info : SysInfo) :
    Decidable (HealthyTelemetry ty info) :=
  decidable_of_iff
    (OutputPortBits.getBitAtPos info.outputPort (psCfg ty).outputPowerOnBitPos = true ∧
      (ty = .motor →
        OutputPortBits.getBitAtPos info.outputPort OutputPortBits.crioInterlockEnable = true) ∧
      (ty = .motor →
        InputPortBits.getBitAtPos info.inputPort InputPortBits.interlockPowerRelay = false) ∧
      (∀ feed ∈ (psCfg ty).breakerFeedGroup.feeds, feed.highCount info.inputPort = 3) ∧
      (psCfg ty).minVoltageWarn ≤ info.voltage ty ∧
      info.voltage ty ≤ (psCfg ty).maxVoltageWarn ∧ info.current ty ≤ (psCfg ty).maxCurrent)
    ⟨fun ⟨hrelay, hcrio, hinterlock, hbreakers, hge, hle, hcurrent⟩ =>
        ⟨hrelay, hcrio, hinterlock, hbreakers, hge, hle, hcurrent⟩,
      fun h => ⟨h.relay, h.crioReady, h.interlock, h.breakers, h.voltage_ge, h.voltage_le,
        h.current_le⟩⟩

/-- With all inputs of its feeds high, the breaker check is good. -/
theorem BreakerFeedGroup.checkBreakers_good (group : BreakerFeedGroup) (info : SysInfo)
    (h : ∀ feed ∈ group.feeds, feed.highCount info.inputPort = 3) :
    group.checkBreakers info = .good := by
  have hfeed (feed : Feed) (hmem : feed ∈ group.feeds) :
      feed.checkBreakers info.inputPort = .good := by
    rw [Feed.checkBreakers, if_pos (h feed hmem)]
  have h1 := hfeed group.feed1 (by simp [feeds])
  have h2 := hfeed group.feed2 (by simp [feeds])
  have h3 := hfeed group.feed3 (by simp [feeds])
  simp [checkBreakers, feeds, h1, h2, h3, worse]

/-- The limits lie in order. -/
theorem PowerSubsystemConfig.voltages_ordered (ty : PowerSystemType) :
    (psCfg ty).breakerOperatingVoltage < (psCfg ty).minVoltageFault ∧
      (psCfg ty).minVoltageFault < (psCfg ty).minVoltageWarn ∧
      (psCfg ty).maxVoltageWarn < (psCfg ty).maxVoltageFault := by
  cases ty <;>
    norm_num [psCfg, setupMotor, setupComm, minVoltageFault, minVoltageWarn, maxVoltageWarn,
      maxVoltageFault]

namespace Call

variable {ty : PowerSystemType} {c r : Call} {clock : Clock} {voltage : ℚ}

/-! ## Calls on healthy telemetry -/

/-- On healthy telemetry the call is the case of the actual state. -/
theorem processPowerOn_of_healthy (h : HealthyTelemetry ty c.sub.sysInfo) (clock : Clock) :
    c.processPowerOn ty clock = c.processActual ty clock true (c.sub.sysInfo.voltage ty) := by
  have houtput : c.sub.outputIsOn ty = true :=
    (outputIsOn_eq_true_iff c.sub).mpr ⟨h.relay, fun hty => ⟨h.crioReady hty, h.interlock hty⟩⟩
  have hvoltage := h.voltage_le.trans (voltages_ordered ty).2.2.le
  obtain ⟨d, -, -, hsame, hcall⟩ := processPowerOn_of_within clock ⟨hvoltage, h.current_le⟩
  rw [hcall, hsame houtput h.voltage_le, houtput]

/-- Where a subsystem with the target on is after `reads` healthy reads, of which the
tenth came at the time `tenth`. -/
def Rising (reads : ℕ) (tenth : Time) (sub : PowerSubsystem) : Prop :=
  sub.targPowerState = .on ∧
    match sub.actualPowerState with
    | .off => reads = 0 ∧ sub.telemCounter = 0
    | .turningOn =>
        sub.phase = 1 ∧ reads < 10 ∧ sub.telemCounter = reads ∨
          sub.phase = 2 ∧ 10 ≤ reads ∧ sub.phaseStartTime = tenth
    | .on => 10 ≤ reads
    | _ => False

theorem Rising.targ {reads : ℕ} {tenth : Time} {sub : PowerSubsystem}
    (h : Rising reads tenth sub) : sub.targPowerState = .on := h.1

theorem rising_turningOn {reads : ℕ} {tenth : Time} {sub : PowerSubsystem}
    (htarg : sub.targPowerState = .on) (hactual : sub.actualPowerState = .turningOn)
    (h : sub.phase = 1 ∧ reads < 10 ∧ sub.telemCounter = reads ∨
      sub.phase = 2 ∧ 10 ≤ reads ∧ sub.phaseStartTime = tenth) : Rising reads tenth sub := by
  refine ⟨htarg, ?_⟩
  rw [hactual]
  exact h

theorem rising_on {reads : ℕ} {tenth : Time} {sub : PowerSubsystem}
    (htarg : sub.targPowerState = .on) (hactual : sub.actualPowerState = .on)
    (h : 10 ≤ reads) : Rising reads tenth sub := by
  refine ⟨htarg, ?_⟩
  rw [hactual]
  exact h

/-- What one healthy read does: it moves the subsystem on, reports no fault, keeps
`ON`, and reaches it when the wait of phase 2 is over. -/
structure Rises (ty : PowerSystemType) (clock : Clock) (reads : ℕ) (tenth : Time) (c r : Call) :
    Prop where
  rising : Rising (reads + 1) (if reads = 9 then clock.now else tenth) r.sub
  faultsSet : r.faultsSet = c.faultsSet
  on : c.sub.actualPowerState = .on → r.sub.actualPowerState = .on
  late : 10 ≤ reads → timePassedSec tenth clock.now > (psCfg ty).outputOnMaxDelay →
    r.sub.actualPowerState = .on

variable {reads : ℕ} {tenth : Time}

/-- A verdict on healthy telemetry is `ON`. -/
theorem processBreakers_of_healthy (h : HealthyTelemetry ty c.sub.sysInfo) (clock : Clock) :
    c.processBreakers ty clock (c.sub.sysInfo.voltage ty) = c.enter .on 1 clock.now := by
  have hvoltage : ¬ c.sub.sysInfo.voltage ty < (psCfg ty).breakerOperatingVoltage := by
    obtain ⟨hoperating, hfault, -⟩ := voltages_ordered ty
    exact not_lt.mpr ((hoperating.trans hfault).le.trans h.voltage_ge)
  have hgood : (psCfg ty).checkBreakers c.sub.sysInfo = .good :=
    BreakerFeedGroup.checkBreakers_good _ _ h.breakers
  rw [processBreakers, if_neg hvoltage, if_pos hgood]

/-- In `ON` a healthy read reports nothing and at most starts phase 2. -/
theorem processOn_of_healthy (h : HealthyTelemetry ty c.sub.sysInfo) (clock : Clock) :
    (c.processOn ty clock true (c.sub.sysInfo.voltage ty)).sub.targPowerState =
        c.sub.targPowerState ∧
      (c.processOn ty clock true (c.sub.sysInfo.voltage ty)).faultsSet = c.faultsSet := by
  obtain ⟨hoperating, hfault, -⟩ := voltages_ordered ty
  have hvoltage : (psCfg ty).breakerOperatingVoltage ≤ c.sub.sysInfo.voltage ty :=
    (hoperating.trans hfault).le.trans h.voltage_ge
  have hgood : (psCfg ty).checkBreakers c.sub.sysInfo = .good :=
    BreakerFeedGroup.checkBreakers_good _ _ h.breakers
  have hwarn : ¬ c.sub.sysInfo.voltage ty < (psCfg ty).minVoltageWarn := not_lt.mpr h.voltage_ge
  have hlow : ¬ c.sub.sysInfo.voltage ty < (psCfg ty).minVoltageFault :=
    not_lt.mpr (hfault.le.trans h.voltage_ge)
  have hcheck : c.checkForPowerOnBreakerFault ty clock.stamp (c.sub.sysInfo.voltage ty) =
      (c, false) := by
    simp only [checkForPowerOnBreakerFault, ge_iff_le, hvoltage, if_true, hgood]
  simp only [processOn, Bool.not_true, Bool.false_eq_true, if_false, hcheck, processOnPhase, hwarn,
    hlow]
  split_ifs <;> exact ⟨rfl, rfl⟩

/-- The wait of phase 2 is over. -/
theorem rises_verdict (h : HealthyTelemetry ty c.sub.sysInfo) (htarg : c.sub.targPowerState = .on)
    (hreads : 9 ≤ reads) (hends : c.PhaseOneEnds)
    (htime : c.timeInPhase clock > (psCfg ty).outputOnMaxDelay) :
    Rises ty clock reads tenth c
      (c.processTurningOn ty clock true (c.sub.sysInfo.voltage ty)) := by
  rw [processTurningOn_verdict hends htime]
  obtain ⟨hinfo, hfaults⟩ := countTelemetry_spec c clock
  have hon := processBreakers_of_healthy
    (c := (c.countTelemetry clock).enter c.sub.actualPowerState 3 clock.now)
    (by rw [sysInfo_enter, hinfo]; exact h) clock
  rw [sysInfo_enter, hinfo] at hon
  rw [hon]
  refine ⟨rising_on (by simpa using htarg) rfl (by omega), hfaults, fun _ => rfl, fun _ _ => rfl⟩

/-- `TURNING_ON`. -/
theorem rises_processTurningOn (h : HealthyTelemetry ty c.sub.sysInfo)
    (hrising : Rising reads tenth c.sub) (hturning : c.sub.actualPowerState = .turningOn) :
    Rises ty clock reads tenth c
      (c.processTurningOn ty clock true (c.sub.sysInfo.voltage ty)) := by
  obtain ⟨htarg, hstage⟩ := hrising
  rw [hturning] at hstage
  have hnot : c.sub.actualPowerState ≠ .on := by
    rw [hturning]
    decide
  by_cases htime : c.timeInPhase clock > (psCfg ty).outputOnMaxDelay
  -- the wait is over: the tenth read judges at once, and so does every later one
  · rcases hstage with ⟨hone, hfew, hcount⟩ | ⟨htwo, hten, hstart⟩
    · by_cases hlast : reads = 9
      · exact rises_verdict h htarg (by omega) (Or.inl ⟨hone, by omega⟩) htime
      · rw [processTurningOn_few hone (by omega)]
        refine ⟨rising_turningOn htarg hturning (Or.inl ⟨hone, by omega, ?_⟩), rfl,
          fun hon => absurd hon hnot, fun hten => by omega⟩
        simp [count, hcount]
    · exact rises_verdict h htarg (by omega) (Or.inr htwo) htime
  -- not yet: the tenth read begins phase 2
  · rcases hstage with ⟨hone, hfew, hcount⟩ | ⟨htwo, hten, hstart⟩
    · by_cases hlast : reads = 9
      · have hends : c.PhaseOneEnds := Or.inl ⟨hone, by omega⟩
        rw [processTurningOn_wait hends htime]
        refine ⟨rising_turningOn (by simpa using htarg) (by simpa using hturning)
          (Or.inr ⟨phase_countTelemetry hends, by omega, ?_⟩), (countTelemetry_spec c clock).2,
          fun hon => absurd hon hnot, fun hten => by omega⟩
        rw [countTelemetry_of_ten hone (by omega), phaseStartTime_enter, if_pos hlast]
      · rw [processTurningOn_few hone (by omega)]
        refine ⟨rising_turningOn htarg hturning (Or.inl ⟨hone, by omega, ?_⟩), rfl,
          fun hon => absurd hon hnot, fun hten => by omega⟩
        simp [count, hcount]
    · rw [processTurningOn_wait (Or.inr htwo) htime, countTelemetry_of_two htwo]
      have hnine : reads ≠ 9 := by omega
      refine ⟨rising_turningOn htarg hturning (Or.inr ⟨htwo, by omega, by rw [if_neg hnine, hstart]⟩),
        rfl, fun hon => absurd hon hnot, fun _ hlate => absurd ?_ htime⟩
      rw [timeInPhase, hstart]
      exact hlate

/-- **One healthy read.** -/
theorem rises_processPowerOn (h : HealthyTelemetry ty c.sub.sysInfo)
    (hrising : Rising reads tenth c.sub) :
    Rises ty clock reads tenth c (c.processPowerOn ty clock) := by
  rw [processPowerOn_of_healthy h]
  have hstage := hrising.2
  unfold processActual
  cases hactual : c.sub.actualPowerState with
  | off =>
      rw [hactual] at hstage
      obtain ⟨hzero, hcount⟩ := hstage
      have hfew : (c.enter .turningOn 1 clock.now).sub.telemCounter + 1 < 10 := by
        change c.sub.telemCounter + 1 < 10
        omega
      simp only
      rw [processTurningOn_few (phase_enter c .turningOn 1 clock.now) hfew]
      refine ⟨rising_turningOn hrising.targ rfl (Or.inl ⟨rfl, by omega, ?_⟩), rfl,
        fun hon => ?_, fun hten => by omega⟩
      · change c.sub.telemCounter + 1 = _
        rw [hcount, hzero]
        rfl
      · rw [hactual] at hon
        exact absurd hon (by decide)
  | turningOn => exact rises_processTurningOn h hrising hactual
  | on =>
      rw [hactual] at hstage
      obtain ⟨htarg, hfaults⟩ := processOn_of_healthy h clock
      have hon := (processOn_spec ty c clock true (c.sub.sysInfo.voltage ty)).1.trans hactual
      exact ⟨rising_on (htarg.trans hrising.targ) hon (le_trans hstage (Nat.le_succ _)), hfaults,
        fun _ => hon, fun _ _ => hon⟩
  | unknown =>
      rw [hactual] at hstage
      exact hstage.elim
  | reset =>
      rw [hactual] at hstage
      exact hstage.elim
  | turningOff =>
      rw [hactual] at hstage
      exact hstage.elim

end Call

/-! ## Runs of healthy reads -/

/-- One `processDaq`: the fault manager at that time, the telemetry, the faults set so
far and the clock. -/
structure Read where
  faultMgr : FaultMgr
  info : SysInfo
  faultsSet : FaultStatusBits
  clock : Clocks

namespace System

variable (ty : PowerSystemType)

/-- The read is healthy, and no fault gates the subsystem. -/
def Healthy (e : Read) : Prop :=
  HealthyTelemetry ty e.info ∧
    e.faultMgr.checkForPowerSubsystemFaults (PowerSubsystem.checkForFaultsMask ty) = false

instance decidableHealthy (e : Read) : Decidable (Healthy ty e) :=
  inferInstanceAs (Decidable (_ ∧ _))

/-- The state in which a read finds the system. -/
def beforeRead (s : System) (e : Read) : System := { s with faultMgr := e.faultMgr }

/-- `processDaq` on a read. -/
def readStep (s : System) (e : Read) : System :=
  ((s.beforeRead e).processDaq ty e.clock e.info e.faultsSet).1

/-- The call sets no bit in `faultsSet`. -/
def SetsNoFault (s : System) (e : Read) : Prop :=
  ((s.beforeRead e).processDaq ty e.clock e.info e.faultsSet).2 = e.faultsSet

/-- No report makes the Model turn the power off: the subsystem has no context, or
the Model is not in `STARTUP` or `OFFLINE`. -/
def ModelAllows (s : System) : Prop := (s.sub ty).context = false ∨ ¬ s.PowerMustBeOff

/-- The time of the tenth read. -/
def tenthTime (events : List Read) : Time :=
  (events[9]?.map fun e => (e.clock ty).now).getD 0

variable {ty}

theorem tenthTime_concat (events : List Read) (e : Read) :
    tenthTime ty (events ++ [e]) =
      if events.length = 9 then (e.clock ty).now else tenthTime ty events := by
  unfold tenthTime
  by_cases hnine : events.length = 9
  · rw [if_pos hnine, List.getElem?_append_right (by omega)]
    simp [hnine]
  · rw [if_neg hnine]
    by_cases hfew : events.length < 9
    · rw [List.getElem?_eq_none (by simp; omega), List.getElem?_eq_none (by omega)]
    · rw [List.getElem?_append_left (by omega)]

/-- A report moves the Model neither to nor from `STARTUP` and `OFFLINE`. -/
theorem powerMustBeOff_reportChange (s : System) (clock : Clocks)
    (h : (s.reportChange ty clock).PowerMustBeOff) : s.PowerMustBeOff := by
  unfold reportChange reportStateChange at h
  rw [reportPowerSystemStateChange_eq] at h
  split_ifs at h with hchanged hcontext hmust
  · exact hmust.1
  · cases hstate : s.currentState with
    | startup => exact Or.inl hstate
    | offline => exact Or.inr hstate
    | standby | idle | inMotion | pause =>
        by_cases hon : s.AllOn <;> simp [PowerMustBeOff, reportedState, hstate, hon] at h
  · exact h
  · exact h

/-- A `processDaq` keeps what allows the target to stay on. -/
theorem modelAllows_processDaq (s : System) (clock : Clocks) (info : SysInfo)
    (faultsSet : FaultStatusBits) (h : s.ModelAllows ty) :
    (s.processDaq ty clock info faultsSet).1.ModelAllows ty := by
  have hreport : OffOrSame (s.processFaults ty clock info)
      ((s.processFaults ty clock info).reportChange ty clock) :=
    .ite (offOrSame_reportStateChange ty clock _) (.refl _)
  have hmachine := (follows_processTarg ty clock faultsSet (s.prepareDaq ty clock info)).context
  rcases h with hcontext | hmodel
  · left
    have hfaults : ((s.processFaults ty clock info).sub ty).context = false := by
      simp only [processFaults, sub_store, Call.processFaults]
      split_ifs <;> simpa using hcontext
    have hprepare : ((s.prepareDaq ty clock info).sub ty).context = false := by
      rw [prepareDaq_eq]
      simpa [savePrev] using (hreport.context ty).trans hfaults
    simp only [processDaq, processTarg, sub_store]
    exact hmachine.trans hprepare
  · right
    intro hmust
    have hreported : ((s.processFaults ty clock info).reportChange ty clock).PowerMustBeOff := by
      simpa [processDaq, processTarg, prepareDaq_eq, savePrev, PowerMustBeOff] using hmust
    have hfaults := powerMustBeOff_reportChange _ clock hreported
    exact hmodel (by simpa [processFaults, PowerMustBeOff] using hfaults)

@[simp] theorem sub_beforeRead (s : System) (e : Read) (ty : PowerSystemType) :
    (s.beforeRead e).sub ty = s.sub ty := by
  cases ty <;> rfl

/-- **One healthy read in the system.** -/
theorem rises_readStep {s : System} {e : Read} {reads : ℕ} {tenth : Time}
    (hrising : Call.Rising reads tenth (s.sub ty)) (hmodel : s.ModelAllows ty)
    (hhealthy : Healthy ty e) :
    Call.Rises ty (e.clock ty) reads tenth ((s.beforeRead e).daqCall ty e.info e.faultsSet)
        ((s.beforeRead e).daqResult ty e.clock e.info e.faultsSet) ∧
      (readStep ty s e).ModelAllows ty := by
  have hmodel' : (s.beforeRead e).ModelAllows ty := by
    unfold ModelAllows at hmodel ⊢
    rw [sub_beforeRead]
    exact hmodel
  have htarg : ((s.beforeRead e).sub ty).targPowerState = .on := by
    rw [sub_beforeRead]
    exact hrising.targ
  have hfree : (s.beforeRead e).Unhindered ty := by
    refine ⟨hhealthy.2, ?_⟩
    rintro ⟨-, hcontext, hmust⟩
    rcases hmodel' with hnone | hstate
    · rw [hnone] at hcontext
      exact absurd hcontext (by decide)
    · exact hstate hmust
  refine ⟨?_, modelAllows_processDaq _ _ _ _ hmodel'⟩
  rw [processDaq_of_unhindered ty e.clock e.info e.faultsSet _ htarg hfree]
  have hstart : Call.Rising reads tenth ((s.beforeRead e).daqCall ty e.info e.faultsSet).sub := by
    rw [← sub_beforeRead s e ty] at hrising
    exact hrising
  exact Call.rises_processPowerOn hhealthy.1 hstart

/-- Where the subsystem is after healthy reads. -/
structure Risen (ty : PowerSystemType) (s : System) (events : List Read) (r : System) : Prop where
  rising : Call.Rising events.length (tenthTime ty events) (r.sub ty)
  model : r.ModelAllows ty
  faults : Always (readStep ty) (SetsNoFault ty) s events

/-- **A run of healthy reads.** -/
theorem risen_run {s : System} (hrising : Call.Rising 0 0 (s.sub ty)) (hmodel : s.ModelAllows ty)
    (events : List Read) (hhealthy : ∀ e ∈ events, Healthy ty e) :
    Risen ty s events (run (readStep ty) s events) := by
  induction events using List.reverseRecOn with
  | nil => exact ⟨hrising, hmodel, trivial⟩
  | append_singleton events e ih =>
      have hbefore := ih fun e he => hhealthy e (List.mem_append_left _ he)
      have he := hhealthy e (by simp)
      obtain ⟨hrises, hallows⟩ := rises_readStep hbefore.rising hbefore.model he
      rw [run_concat]
      refine ⟨?_, hallows, ?_⟩
      · rw [List.length_append, tenthTime_concat]
        exact hrises.rising
      · rw [always_append]
        exact ⟨hbefore.faults, hrises.faultsSet, trivial⟩

/-- The first read that comes late enough after the tenth finds the subsystem `ON` or
brings it there, and every further read keeps it. -/
theorem on_run {s : System} (hrising : Call.Rising 0 0 (s.sub ty)) (hmodel : s.ModelAllows ty)
    (first : List Read) (late : Read) (rest : List Read)
    (hhealthy : ∀ e ∈ first ++ late :: rest, Healthy ty e) (hten : 10 ≤ first.length)
    (hlate : timePassedSec (tenthTime ty first) (late.clock ty).now >
      (psCfg ty).outputOnMaxDelay) :
    ((run (readStep ty) s (first ++ late :: rest)).sub ty).actualPowerState = .on := by
  induction rest using List.reverseRecOn with
  | nil =>
      have hbefore := risen_run hrising hmodel first fun e he =>
        hhealthy e (List.mem_append_left _ he)
      obtain ⟨hrises, -⟩ := rises_readStep hbefore.rising hbefore.model (hhealthy late (by simp))
      rw [run_concat]
      exact hrises.late hten hlate
  | append_singleton rest e ih =>
      have hhealthy' : ∀ e ∈ first ++ late :: rest, Healthy ty e := by
        intro other hother
        refine hhealthy other ?_
        rw [← List.cons_append, ← List.append_assoc]
        exact List.mem_append_left _ hother
      have hon := ih hhealthy'
      have hbefore := risen_run hrising hmodel _ hhealthy'
      obtain ⟨hrises, -⟩ := rises_readStep hbefore.rising hbefore.model (hhealthy e (by simp))
      rw [← List.cons_append, ← List.append_assoc, run_concat]
      refine hrises.on ?_
      rw [← sub_beforeRead _ e ty] at hon
      exact hon

/-- **Power-on completes.**  After a `setPowerOn` that was accepted in `OFF`, healthy
reads, of which one comes later than the delay after the tenth, end `ON`; no call
sets a fault, and healthy reads keep it so. -/
theorem powerOn_completes (s : System) (clock : Clocks) (events more : List Read)
    (tenth late : Read) (haccepted : (s.setPowerOn ty clock).2 = true)
    (hoff : (s.sub ty).actualPowerState = .off) (hmodel : s.ModelAllows ty)
    (hhealthy : ∀ e ∈ events ++ more, Healthy ty e) (htenth : events[9]? = some tenth)
    (hlate : late ∈ events.drop 10)
    (hdelay : timePassedSec (tenth.clock ty).now (late.clock ty).now >
      (psCfg ty).outputOnMaxDelay) :
    (((run (readStep ty) (s.setPowerOn ty clock).1 (events ++ more)).sub ty).targPowerState = .on ∧
      ((run (readStep ty) (s.setPowerOn ty clock).1 (events ++ more)).sub ty).actualPowerState =
        .on) ∧
      Always (readStep ty) (SetsNoFault ty) (s.setPowerOn ty clock).1 (events ++ more) := by
  have hon := turnedOn_setPowerOn ty clock s haccepted
  have hrising : Call.Rising 0 0 ((s.setPowerOn ty clock).1.sub ty) := by
    rw [hon.sub]
    refine ⟨rfl, ?_⟩
    simp only [hoff]
    exact ⟨trivial, trivial⟩
  have hmodel' : (s.setPowerOn ty clock).1.ModelAllows ty := by
    unfold ModelAllows PowerMustBeOff at hmodel ⊢
    rw [hon.sub]
    simpa [setPowerOn] using hmodel
  obtain ⟨before, after, hsplit⟩ := List.append_of_mem hlate
  -- the late read comes after the first ten
  have hevents : events ++ more = (events.take 10 ++ before) ++ late :: (after ++ more) := by
    rw [← List.cons_append, ← List.append_assoc, List.append_assoc (events.take 10), ← hsplit,
      List.take_append_drop]
  have hlength : 10 ≤ events.length := (List.getElem?_eq_some_iff.mp htenth).1
  have htime : tenthTime ty (events.take 10 ++ before) = (tenth.clock ty).now := by
    have hfirst : (events.take 10 ++ before)[9]? = some tenth := by
      rw [List.getElem?_append_left (by simp; omega), List.getElem?_take_of_lt (by omega), htenth]
    simp [tenthTime, hfirst]
  have hrun := risen_run hrising hmodel' (events ++ more) hhealthy
  refine ⟨⟨hrun.rising.targ, ?_⟩, hrun.faults⟩
  rw [hevents] at hhealthy ⊢
  exact on_run hrising hmodel' _ late _ hhealthy (by simp; omega) (by rw [htime]; exact hdelay)

/-- Comm power with a context, `OFF` after a first read, and one client. -/
def commOff (currentState : StateEnum) : System :=
  { (((new 7).setContext .comm true).processDaq .comm (fun _ => ⟨0, 0⟩) ⟨0, 0, 0, 0, 0, 0⟩ 0).1 with
    faultMgr := (FaultMgr.new.reportComConnectionCount 1).1
    currentState := currentState }

/-- Healthy telemetry, read every 100 ms. -/
def healthyRead (i : ℕ) : Read where
  faultMgr := (FaultMgr.new.reportComConnectionCount 1).1
  info := ⟨7, ~~~(BitVec.twoPow 32 InputPortBits.interlockPowerRelay), 24, 0, 24, 0⟩
  faultsSet := 0
  clock _ := ⟨i / 10, i / 10⟩

/-- Comm power turns on in `STANDBY`. -/
theorem powerOn_completes_standby :
    (((run (readStep .comm) ((commOff .standby).setPowerOn .comm fun _ => ⟨0, 0⟩).1
          ((List.range 16).map healthyRead ++ [healthyRead 16])).sub .comm).targPowerState = .on ∧
      ((run (readStep .comm) ((commOff .standby).setPowerOn .comm fun _ => ⟨0, 0⟩).1
          ((List.range 16).map healthyRead ++ [healthyRead 16])).sub .comm).actualPowerState =
        .on) ∧
      Always (readStep .comm) (SetsNoFault .comm)
        ((commOff .standby).setPowerOn .comm fun _ => ⟨0, 0⟩).1
        ((List.range 16).map healthyRead ++ [healthyRead 16]) := by
  have hlate : ((List.range 16).map healthyRead |>.drop 10)[5]? = some (healthyRead 15) := rfl
  exact powerOn_completes (commOff .standby) _ _ _ (healthyRead 9) (healthyRead 15)
    (by decide +kernel) (by decide +kernel) (Or.inr (by decide +kernel)) (by decide +kernel) rfl
    (List.mem_of_getElem? hlate) (by decide +kernel)

/-- In `OFFLINE` the `Model` turns comm power off again at the first report, although
the `setPowerOn` was accepted and all telemetry is healthy. -/
theorem not_powerOn_completes_offline :
    ((commOff .offline).setPowerOn .comm fun _ => ⟨0, 0⟩).2 = true ∧
      ((commOff .offline).sub .comm).actualPowerState = .off ∧
      (∀ e ∈ (List.range 16).map healthyRead, Healthy .comm e) ∧
      ((run (readStep .comm) ((commOff .offline).setPowerOn .comm fun _ => ⟨0, 0⟩).1
        ((List.range 16).map healthyRead)).sub .comm).targPowerState = .off := by
  decide +kernel

end System

end M2Cell
