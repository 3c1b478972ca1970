import M2Cell.Control.Operations
import M2Cell.Control.PowerOnSteps

/-!
# Power that is on was checked

A DAQ call that leaves a subsystem `ON` has checked the telemetry: the voltage
and the current, the bits read back from the ports and the breakers
(`GoodTelemetry`), and it has added no fault (`OnlyWarns`).

`ON` is kept or reached in three cases of `_processPowerOn`, and each makes its
own selection of the checks in its own order.  For each case there is one lemma
that reads the checks off a call that ended with the target on
(`processOn_on`, `processTurningOn_on`, `processReset_on`), and
`processPowerOn_on` puts the cases together.

With the target off a call can still end in `ON`: `_processPowerOff` leaves the actual state
alone while the voltage falls, and it has written the power bit then (`processPowerOff_on`).
`processTarg_on` is the switch over the target with both possibilities.  What comes before the
switch has only stored the information when the target is on at the end
(`sub_prepareDaq_of_on`), so that the state machine has seen the subsystem as it was.
-/

namespace M2Cell

open FaultStatusBits PowerSubsystemConfig

/-- The telemetry on which a subsystem may be `ON`. -/
structure GoodTelemetry (ty : PowerSystemType) (info : SysInfo) : Prop where
  voltage_ge : (psCfg ty).breakerOperatingVoltage ≤ info.voltage ty
  voltage_le : info.voltage ty ≤ (psCfg ty).maxVoltageFault
  current_le : info.current ty ≤ (psCfg ty).maxCurrent
  relay : OutputPortBits.getBitAtPos info.outputPort (psCfg ty).outputPowerOnBitPos = true
  crioReady : ty = .motor →
    OutputPortBits.getBitAtPos info.outputPort OutputPortBits.crioInterlockEnable = true
  interlock : ty = .motor →
    InputPortBits.getBitAtPos info.inputPort InputPortBits.interlockPowerRelay = false
  breakers : ∀ feed ∈ (psCfg ty).breakerFeedGroup.feeds, 2 ≤ feed.highCount info.inputPort

/-- The faults that turn a subsystem off, or report that it should not be on. -/
def powerOnFaults (ty : PowerSystemType) : List FaultBit :=
  [(psCfg ty).voltageFault, (psCfg ty).excessiveCurrent, (psCfg ty).breakerFault, hardwareFault,
    interlockFault]

/-- What a DAQ call that ends `ON` has checked and reported: `sub` is the
subsystem before the call, `before` and `after` are the values of `faultsSet`. -/
structure PowerOnChecked (ty : PowerSystemType) (sub : PowerSubsystem) (info : SysInfo)
    (before after : FaultStatusBits) : Prop where
  telemetry : GoodTelemetry ty info
  stable : sub.actualPowerState = .on → sub.phase = 2 →
    (psCfg ty).minVoltageFault ≤ info.voltage ty
  faults : ∀ pos ∈ powerOnFaults ty, Word.bit after pos = Word.bit before pos

namespace Call

variable {ty : PowerSystemType} {c d r : Call}

/-! ## Warnings -/

/-- A call that adds no fault bit but the two warnings. -/
def OnlyWarns (ty : PowerSystemType) (c r : Call) : Prop :=
  ∀ pos, pos ≠ (psCfg ty).voltageWarn → pos ≠ (psCfg ty).breakerWarn →
    Word.bit r.faultsSet pos = Word.bit c.faultsSet pos

theorem OnlyWarns.refl (c : Call) : OnlyWarns ty c c := fun _ _ _ => rfl

theorem OnlyWarns.trans (h : OnlyWarns ty c d) (h' : OnlyWarns ty d r) : OnlyWarns ty c r :=
  fun pos hvoltage hbreaker => (h' pos hvoltage hbreaker).trans (h pos hvoltage hbreaker)

theorem onlyWarns_voltageWarn (c : Call) : OnlyWarns ty c (c.setFault (psCfg ty).voltageWarn) :=
  fun pos hvoltage _ => by simp [hvoltage]

theorem onlyWarns_breakerWarn (c : Call) : OnlyWarns ty c (c.setFault (psCfg ty).breakerWarn) :=
  fun pos _ hbreaker => by simp [hbreaker]

theorem OnlyWarns.ite {p : Prop} [Decidable p] (hd : OnlyWarns ty c d) (hr : OnlyWarns ty c r) :
    OnlyWarns ty c (if p then d else r) := by
  split
  · exact hd
  · exact hr

theorem OnlyWarns.of_faultsSet (h : r.faultsSet = c.faultsSet) : OnlyWarns ty c r :=
  fun pos _ _ => by rw [h]

/-- The warnings are none of the faults. -/
theorem OnlyWarns.faults (h : OnlyWarns ty c r) :
    ∀ pos ∈ powerOnFaults ty, Word.bit r.faultsSet pos = Word.bit c.faultsSet pos := by
  intro pos hpos
  refine h pos ?_ ?_
  · revert pos
    cases ty <;> decide
  · revert pos
    cases ty <;> decide

/-! ## The breaker check -/

/-- The breakers of a subsystem are not at fault. -/
def BreakersHold (ty : PowerSystemType) (c : Call) : Prop :=
  ∀ feed ∈ (psCfg ty).breakerFeedGroup.feeds, 2 ≤ feed.highCount c.sub.sysInfo.inputPort

theorem breakersHold_iff : BreakersHold ty c ↔ (psCfg ty).checkBreakers c.sub.sysInfo ≠ .fault :=
  (((psCfg ty).breakerFeedGroup.checkBreakers_spec c.sub.sysInfo).2).symm

/-- A breaker check without a fault found the voltage high enough and the
breakers holding; it changed nothing but the breaker warning. -/
theorem checkForPowerOnBreakerFault_false {stamp : Time} {voltage : ℚ}
    (h : (c.checkForPowerOnBreakerFault ty stamp voltage).2 = false) :
    (psCfg ty).breakerOperatingVoltage ≤ voltage ∧ BreakersHold ty c ∧
      OnlyWarns ty c (c.checkForPowerOnBreakerFault ty stamp voltage).1 ∧
      (c.checkForPowerOnBreakerFault ty stamp voltage).1.sub = c.sub := by
  unfold checkForPowerOnBreakerFault at h ⊢
  by_cases hvoltage : voltage ≥ (psCfg ty).breakerOperatingVoltage
  · simp only [hvoltage, if_true] at h ⊢
    by_cases hgood : (psCfg ty).checkBreakers c.sub.sysInfo = .good
    · simp only [hgood, if_true]
      exact ⟨trivial, breakersHold_iff.mpr (by simp [hgood]), .refl c, trivial⟩
    · simp only [hgood, if_false] at h ⊢
      by_cases hfault : ((psCfg ty).checkBreakers c.sub.sysInfo).toInt ≤ SysStatus.fault.toInt
      · simp [hfault] at h
      · simp only [hfault, if_false]
        refine ⟨trivial, breakersHold_iff.mpr ?_, onlyWarns_breakerWarn c, rfl⟩
        intro heq
        exact hfault (by rw [heq])
  · simp [hvoltage] at h

/-- A breaker check that found a fault turned the power off. -/
theorem checkForPowerOnBreakerFault_true {stamp : Time} {voltage : ℚ}
    (h : (c.checkForPowerOnBreakerFault ty stamp voltage).2 = true) :
    (c.checkForPowerOnBreakerFault ty stamp voltage).1.sub.targPowerState = .off := by
  unfold checkForPowerOnBreakerFault at h ⊢
  dsimp only at h ⊢
  split_ifs at h ⊢ <;> simp_all [updateFaults]

/-! ## The cases of `_processPowerOn` -/

/-- What the state machine checked when it ends with the subsystem `ON`. -/
structure Checked (ty : PowerSystemType) (outputIsOn : Bool) (voltage : ℚ) (c r : Call) :
    Prop where
  output_on : outputIsOn = true
  voltage_ge : (psCfg ty).breakerOperatingVoltage ≤ voltage
  breakers : BreakersHold ty c
  stable : c.sub.actualPowerState = .on → c.sub.phase = 2 → (psCfg ty).minVoltageFault ≤ voltage
  warns : OnlyWarns ty c r

theorem processOnPhase_on {clock : Clock} {voltage : ℚ}
    (htarg : (c.processOnPhase ty clock voltage).sub.targPowerState = .on) :
    (c.sub.phase = 2 → (psCfg ty).minVoltageFault ≤ voltage) ∧
      OnlyWarns ty c (c.processOnPhase ty clock voltage) := by
  unfold processOnPhase at htarg ⊢
  by_cases hfirst : c.sub.phase ≤ 1
  · simp only [hfirst, if_true]
    exact ⟨fun hphase => absurd hfirst (by omega), .ite (.refl c) (.refl c)⟩
  · simp only [hfirst, if_false] at htarg ⊢
    by_cases hsecond : c.sub.phase = 2
    · simp only [hsecond, if_true] at htarg ⊢
      by_cases hlow : voltage < (psCfg ty).minVoltageFault
      · simp [hlow] at htarg
      · simp only [hlow, if_false]
        exact ⟨fun _ => not_lt.mp hlow, .ite (onlyWarns_voltageWarn c) (.refl c)⟩
    · simp only [hsecond, if_false]
      exact ⟨fun h => h.elim, .refl c⟩

/-- `ON` is kept. -/
theorem processOn_on {clock : Clock} {outputIsOn : Bool} {voltage : ℚ}
    (htarg : (c.processOn ty clock outputIsOn voltage).sub.targPowerState = .on) :
    Checked ty outputIsOn voltage c (c.processOn ty clock outputIsOn voltage) := by
  unfold processOn at htarg ⊢
  cases houtput : outputIsOn with
  | false => simp [houtput] at htarg
  | true =>
      cases hfault : (c.checkForPowerOnBreakerFault ty clock.stamp voltage).2 with
      | true => simp [houtput, hfault] at htarg
      | false =>
          simp only [houtput, hfault, Bool.not_true, Bool.false_eq_true, if_false] at htarg ⊢
          obtain ⟨hvoltage, hbreakers, hwarns, hsub⟩ := checkForPowerOnBreakerFault_false hfault
          obtain ⟨hstable, hwarns'⟩ := processOnPhase_on htarg
          rw [hsub] at hstable
          exact ⟨rfl, hvoltage, hbreakers, fun _ => hstable, hwarns.trans hwarns'⟩

theorem processBreakers_on {clock : Clock} {voltage : ℚ}
    (htarg : (c.processBreakers ty clock voltage).sub.targPowerState = .on)
    (hactual : (c.processBreakers ty clock voltage).sub.actualPowerState = .on) :
    (psCfg ty).breakerOperatingVoltage ≤ voltage ∧ BreakersHold ty c ∧
      OnlyWarns ty c (c.processBreakers ty clock voltage) := by
  unfold processBreakers at htarg hactual ⊢
  by_cases hvoltage : voltage < (psCfg ty).breakerOperatingVoltage
  · simp [hvoltage, updateFaults] at htarg
  · by_cases hgood : (psCfg ty).checkBreakers c.sub.sysInfo = .good
    · simp only [hvoltage, hgood, if_true, if_false]
      exact ⟨not_lt.mp hvoltage, breakersHold_iff.mpr (by simp [hgood]), .refl c⟩
    · simp [hvoltage, hgood] at hactual

/-- `ON` is reached from `TURNING_ON`. -/
theorem processTurningOn_on {clock : Clock} {outputIsOn : Bool} {voltage : ℚ}
    (hstart : c.sub.actualPowerState = .turningOn)
    (htarg : (c.processTurningOn ty clock outputIsOn voltage).sub.targPowerState = .on)
    (hactual : (c.processTurningOn ty clock outputIsOn voltage).sub.actualPowerState = .on) :
    Checked ty outputIsOn voltage c (c.processTurningOn ty clock outputIsOn voltage) := by
  obtain ⟨hinfo, hfaults⟩ := countTelemetry_spec c clock
  -- every way to `ON` leads through the breaker check of phase 3
  have hbreakers {d : Call} (hd : d.sub.sysInfo = c.sub.sysInfo) (hd' : d.faultsSet = c.faultsSet)
      (htarg : (d.processBreakers ty clock voltage).sub.targPowerState = .on)
      (hactual : (d.processBreakers ty clock voltage).sub.actualPowerState = .on)
      (houtput : outputIsOn = true) :
      Checked ty outputIsOn voltage c (d.processBreakers ty clock voltage) := by
    obtain ⟨hvoltage, hhold, hwarns⟩ := processBreakers_on htarg hactual
    refine ⟨houtput, hvoltage, ?_, ?_, (OnlyWarns.of_faultsSet hd').trans hwarns⟩
    · unfold BreakersHold at hhold ⊢
      rwa [hd] at hhold
    · simp [hstart]
  unfold processTurningOn at htarg hactual ⊢
  dsimp only at htarg hactual ⊢
  by_cases hoff : (c.countTelemetry clock).sub.phase > 1 ∧ !outputIsOn
  · simp [hoff] at htarg
  · simp only [hoff, if_false] at htarg hactual ⊢
    by_cases hsecond : (c.countTelemetry clock).sub.phase = 2
    · simp only [hsecond, if_true] at htarg hactual ⊢
      by_cases htime : timePassedSec c.sub.phaseStartTime clock.now > (psCfg ty).outputOnMaxDelay
      · simp only [htime, if_true] at htarg hactual ⊢
        exact hbreakers hinfo hfaults htarg hactual (by simpa [hsecond] using hoff)
      · simp [htime, hstart] at hactual
    · simp only [hsecond, if_false] at htarg hactual ⊢
      by_cases hthird : (c.countTelemetry clock).sub.phase ≥ 3
      · simp only [hthird, if_true] at htarg hactual ⊢
        have hlate : (c.countTelemetry clock).sub.phase > 1 := by omega
        exact hbreakers hinfo hfaults htarg hactual (by simpa [hlate] using hoff)
      · simp [hthird, hstart] at hactual

/-- `ON` is reached from `RESET`. -/
theorem processReset_on {clock : Clock} {outputIsOn : Bool} {voltage : ℚ}
    (hstart : c.sub.actualPowerState = .reset)
    (htarg : (c.processReset ty clock outputIsOn voltage).sub.targPowerState = .on)
    (hactual : (c.processReset ty clock outputIsOn voltage).sub.actualPowerState = .on) :
    Checked ty outputIsOn voltage c (c.processReset ty clock outputIsOn voltage) := by
  unfold processReset at htarg hactual ⊢
  dsimp only at htarg hactual ⊢
  generalize hd : c.writeOutputPortBitPos (psCfg ty).outputBreakerBitPos true = d at *
  have hsub : d.sub = c.sub := by rw [← hd]; rfl
  have hfaults : d.faultsSet = c.faultsSet := by rw [← hd]; rfl
  cases houtput : outputIsOn with
  | false => simp [houtput] at htarg
  | true =>
      by_cases hlow : voltage < (psCfg ty).breakerOperatingVoltage
      · simp [houtput, hlow, updateFaults] at htarg
      · simp only [houtput, hlow, Bool.not_true, Bool.false_eq_true, if_false] at htarg hactual ⊢
        by_cases hpulse : timePassedSec c.sub.phaseStartTime clock.now >
            (psCfg ty).resetBreakerPulseWidth
        · simp only [hpulse, if_true] at htarg hactual ⊢
          by_cases htwice : timePassedSec c.sub.phaseStartTime clock.now >
              (psCfg ty).resetBreakerPulseWidth * 2
          · simp only [htwice, if_true] at htarg hactual ⊢
            cases hfault : (d.checkForPowerOnBreakerFault ty clock.stamp voltage).2 with
            | true =>
                simp [hfault, checkForPowerOnBreakerFault_true hfault] at htarg
            | false =>
                simp only [Bool.false_eq_true, if_false]
                obtain ⟨hvoltage, hhold, hwarns, -⟩ := checkForPowerOnBreakerFault_false hfault
                refine ⟨rfl, hvoltage, ?_, by simp [hstart], ?_⟩
                · unfold BreakersHold at hhold ⊢
                  rwa [hsub] at hhold
                · exact (OnlyWarns.of_faultsSet hfaults).trans hwarns
          · simp [htwice, hsub, hstart] at hactual
        · simp [hpulse, hstart] at hactual

/-- The three ways to be `ON` after the switch over the actual state. -/
theorem processActual_on {clock : Clock} {outputIsOn : Bool} {voltage : ℚ}
    (htarg : (c.processActual ty clock outputIsOn voltage).sub.targPowerState = .on)
    (hactual : (c.processActual ty clock outputIsOn voltage).sub.actualPowerState = .on) :
    Checked ty outputIsOn voltage c (c.processActual ty clock outputIsOn voltage) := by
  unfold processActual at htarg hactual ⊢
  -- from `OFF` and `TURNING_OFF` the call continues in `TURNING_ON`
  have hfall (hstart : c.sub.actualPowerState ≠ .on)
      (htarg : ((c.enter .turningOn 1 clock.now).processTurningOn ty clock outputIsOn
        voltage).sub.targPowerState = .on)
      (hactual : ((c.enter .turningOn 1 clock.now).processTurningOn ty clock outputIsOn
        voltage).sub.actualPowerState = .on) :
      Checked ty outputIsOn voltage c
        ((c.enter .turningOn 1 clock.now).processTurningOn ty clock outputIsOn voltage) := by
    have hchecked := processTurningOn_on rfl htarg hactual
    exact ⟨hchecked.output_on, hchecked.voltage_ge, hchecked.breakers,
      fun hon => absurd hon hstart, hchecked.warns⟩
  cases hstart : c.sub.actualPowerState with
  | on =>
      simp only [hstart] at htarg ⊢
      exact processOn_on htarg
  | off =>
      simp only [hstart] at htarg hactual ⊢
      exact hfall (by simp [hstart]) htarg hactual
  | turningOff =>
      simp only [hstart] at htarg hactual ⊢
      exact hfall (by simp [hstart]) htarg hactual
  | turningOn =>
      simp only [hstart] at htarg hactual ⊢
      exact processTurningOn_on hstart htarg hactual
  | reset =>
      simp only [hstart] at htarg hactual ⊢
      exact processReset_on hstart htarg hactual
  | unknown => simp [hstart] at htarg

/-- **What `_processPowerOn` checked when it ends `ON`.** -/
theorem processPowerOn_on {clock : Clock}
    (htarg : (c.processPowerOn ty clock).sub.targPowerState = .on)
    (hactual : (c.processPowerOn ty clock).sub.actualPowerState = .on) :
    PowerOnChecked ty c.sub c.sub.sysInfo c.faultsSet (c.processPowerOn ty clock).faultsSet := by
  obtain ⟨-, d, -, hcall⟩ | ⟨hwithin, d, hsub, -, hsame, hcall⟩ := processPowerOn_cases ty clock c
  · rw [hcall, targPowerState_setPowerOff] at htarg
    cases htarg
  · rw [hcall] at htarg hactual ⊢
    have hchecked := processActual_on htarg hactual
    have hbits := (outputIsOn_eq_true_iff c.sub).mp hchecked.output_on
    have hwarns : OnlyWarns ty c d := by
      rw [hsame hchecked.output_on]
      exact .ite (onlyWarns_voltageWarn c) (.refl c)
    have hbreakers := hchecked.breakers
    have hstable := hchecked.stable
    unfold BreakersHold at hbreakers
    rw [hsub] at hbreakers hstable
    exact
      ⟨⟨hchecked.voltage_ge, hwithin.1, hwithin.2, hbits.1, fun h => (hbits.2 h).1,
        fun h => (hbits.2 h).2, hbreakers⟩, hstable, (hwarns.trans hchecked.warns).faults⟩

/-! ## Calls that end with the target off -/

/-- A call with the target off that ends with the subsystem still `ON` has
written the power bit. -/
theorem processPowerOff_on {clock : Clock}
    (hactual : (c.processPowerOff ty clock).sub.actualPowerState = .on) :
    OutputPortBits.getBitAtPos (c.processPowerOff ty clock).outputPort
      (psCfg ty).outputPowerOnBitPos = false := by
  -- the states that fall through to `TURNING_OFF` call `_setPowerOff` first
  have hfall : Follows ty (c.setPowerOff ty clock.stamp)
      (((c.setPowerOff ty clock.stamp).enter (c.setPowerOff ty clock.stamp).sub.actualPowerState
        (c.setPowerOff ty clock.stamp).sub.phase clock.now).processTurningOff ty clock) :=
    (follows_enter_same _ _ _).trans (follows_processTurningOff _ clock (by simp))
  have hlow := hfall.power (by simp) (hfall.targ_off (by simp))
  unfold processPowerOff at hactual ⊢
  by_cases hrelay : c.sub.getRelayControlOutputOn ty = true
  · simp [hrelay]
  · simp only [hrelay] at hactual ⊢
    cases hstart : c.sub.actualPowerState with
    | off => simp [hstart] at hactual
    | turningOff =>
        simp only [hstart] at hactual
        rcases actualPowerState_processTurningOff ty c clock with hoff | hsame
        · simp [hoff] at hactual
        · simp [hsame, hstart] at hactual
    | unknown => exact hlow
    | turningOn => exact hlow
    | reset => exact hlow
    | on => exact hlow

/-- A subsystem that is `ON` after the state machine has the target on, or the
target off and the power bit low. -/
theorem processTarg_on {clock : Clock}
    (hactual : (c.processTarg ty clock).sub.actualPowerState = .on) :
    (c.processTarg ty clock).sub.targPowerState = .on ∨
      (c.processTarg ty clock).sub.targPowerState = .off ∧
        OutputPortBits.getBitAtPos (c.processTarg ty clock).outputPort
          (psCfg ty).outputPowerOnBitPos = false := by
  have hfollows : Follows ty c (c.processTarg ty clock) := follows_processTarg c clock
  have hinvalid : Follows ty (c.setPowerOff ty clock.stamp)
      ((c.setPowerOff ty clock.stamp).processPowerOff ty clock) :=
    follows_processPowerOff _ clock (by simp)
  have hlow := hinvalid.power (by simp) (hinvalid.targ_off (by simp))
  have hoff := hinvalid.targ_off (by simp)
  unfold processTarg at hactual hfollows ⊢
  cases htarg : c.sub.targPowerState with
  | on =>
      simp only [htarg] at hfollows ⊢
      rcases hfollows.targ with hsame | hoff'
      · exact Or.inl (hsame.trans htarg)
      · exact Or.inr ⟨hoff', hfollows.power (by simp [htarg]) hoff'⟩
  | off =>
      simp only [htarg] at hactual hfollows ⊢
      exact Or.inr ⟨hfollows.targ_off htarg, processPowerOff_on hactual⟩
  | unknown => exact Or.inr ⟨hoff, hlow⟩
  | turningOn => exact Or.inr ⟨hoff, hlow⟩
  | reset => exact Or.inr ⟨hoff, hlow⟩
  | turningOff => exact Or.inr ⟨hoff, hlow⟩

end Call

namespace System

/-! ## The whole call -/

variable {ty : PowerSystemType} {clock : Clocks} {info : SysInfo} {s : System}

/-- With the target on after it, the fault check only stored the information. -/
theorem sub_processFaults_of_on
    (htarg : ((s.processFaults ty clock info).sub ty).targPowerState = .on) :
    (s.processFaults ty clock info).sub ty = { s.sub ty with sysInfo := info } := by
  cases hfaults : s.checkForFaults ty with
  | true => simp [(powerOff_processFaults ty clock info s hfaults).1] at htarg
  | false => simp [processFaults, Call.processFaults, hfaults]

/-- With the target on, nothing before the state machine changed the subsystem
but its information and the saved pair of states. -/
theorem sub_prepareDaq_of_on
    (htarg : ((s.prepareDaq ty clock info).sub ty).targPowerState = .on) :
    ((s.prepareDaq ty clock info).sub ty).sysInfo = info ∧
      ((s.prepareDaq ty clock info).sub ty).actualPowerState = (s.sub ty).actualPowerState ∧
      ((s.prepareDaq ty clock info).sub ty).phase = (s.sub ty).phase := by
  unfold prepareDaq at htarg ⊢
  dsimp only at htarg ⊢
  have hreport : OffOrSame (s.processFaults ty clock info)
      (if (s.processFaults ty clock info).stateChanged ty = true then
        (s.processFaults ty clock info).reportStateChange ty clock
      else s.processFaults ty clock info) :=
    .ite (offOrSame_reportStateChange ty clock _) (.refl _)
  generalize (if (s.processFaults ty clock info).stateChanged ty = true then
    (s.processFaults ty clock info).reportStateChange ty clock
    else s.processFaults ty clock info) = t at *
  simp only [savePrev, sub_store] at htarg ⊢
  rcases hreport.power with ⟨hsub, -⟩ | ⟨hoff, -⟩
  · rw [hsub ty] at htarg ⊢
    rw [sub_processFaults_of_on htarg]
    exact ⟨rfl, rfl, rfl⟩
  · simp [hoff ty] at htarg

/-- **Power is never left on on bad telemetry.**  When a DAQ call ends with
target and actual state `ON`, the telemetry was good, the voltage was above the
fault level if power had been stable before, and no fault was added.  When it
ends with the actual state `ON` and any of this fails, the target is `OFF` and
the power bit is low. -/
theorem processDaq_powerOnChecked (s : System) (ty : PowerSystemType) (clock : Clocks)
    (info : SysInfo) (faultsSet : FaultStatusBits) :
    (((s.processDaq ty clock info faultsSet).1.sub ty).targPowerState = .on ∧
        ((s.processDaq ty clock info faultsSet).1.sub ty).actualPowerState = .on →
      PowerOnChecked ty (s.sub ty) info faultsSet (s.processDaq ty clock info faultsSet).2) ∧
    (((s.processDaq ty clock info faultsSet).1.sub ty).actualPowerState = .on →
      ¬ PowerOnChecked ty (s.sub ty) info faultsSet (s.processDaq ty clock info faultsSet).2 →
      PowerOff ty (s.processDaq ty clock info faultsSet).1) := by
  unfold processDaq
  generalize hprepare : s.prepareDaq ty clock info = t
  simp only [PowerOff, processTarg, sub_store, outputPort_store]
  have hon (htarg : ((t.call ty faultsSet).processTarg ty (clock ty)).sub.targPowerState = .on)
      (hactual : ((t.call ty faultsSet).processTarg ty (clock ty)).sub.actualPowerState = .on) :
      PowerOnChecked ty (s.sub ty) info faultsSet
        ((t.call ty faultsSet).processTarg ty (clock ty)).faultsSet := by
    -- a target that is on at the end was on before, so the switch took `_processPowerOn`
    have hstart : (t.sub ty).targPowerState = .on :=
      (follows_processTarg ty clock faultsSet t).targ_on htarg
    have hswitch : (t.call ty faultsSet).processTarg ty (clock ty) =
        (t.call ty faultsSet).processPowerOn ty (clock ty) := by
      simp [Call.processTarg, hstart]
    rw [hswitch] at htarg hactual ⊢
    have hchecked := Call.processPowerOn_on htarg hactual
    rw [← hprepare] at hstart
    obtain ⟨hinfo, hsame, hphase⟩ := sub_prepareDaq_of_on hstart
    rw [hprepare] at hinfo hsame hphase
    simp only [sub_call, faultsSet_call, hinfo] at hchecked
    exact ⟨hchecked.telemetry, fun h h' => hchecked.stable (hsame.trans h) (hphase.trans h'),
      hchecked.faults⟩
  constructor
  · rintro ⟨htarg, hactual⟩
    exact hon htarg hactual
  · intro hactual hfail
    rcases Call.processTarg_on hactual with htarg | hoff
    · exact absurd (hon htarg hactual) hfail
    · exact hoff

/-- The motor is on and stable, and there is a client. -/
def motorStable : System :=
  { new 7 with
    faultMgr := (FaultMgr.new.reportComConnectionCount 1).1
    motor :=
      { PowerSubsystem.default with
        targPowerState := .on, actualPowerState := .on, phase := 2 } }

/-- Telemetry of a motor without an interlock, at 24 volts. -/
def motorTelemetry : SysInfo :=
  ⟨7, ~~~(BitVec.twoPow 32 InputPortBits.interlockPowerRelay), 24, 0, 24, 0⟩

/-- The motor stays on, on telemetry that was checked. -/
theorem processDaq_powerOnChecked_stable :
    PowerOnChecked .motor (motorStable.sub .motor) motorTelemetry 0
      (motorStable.processDaq .motor (fun _ => ⟨1, 1⟩) motorTelemetry 0).2 :=
  (processDaq_powerOnChecked motorStable .motor (fun _ => ⟨1, 1⟩) motorTelemetry 0).1
    (by decide +kernel)

end System

end M2Cell
