import M2Cell.Control.PowerEvents

/-!
# The settling time of the outputs

`TURNING_ON` counts ten telemetry reads in phase 1 and waits `outputOnMaxDelay` in
phase 2 before phase 3 gives its verdict.  The wait is measured with the time
since `_phaseStartTime` that was taken before phase 1 could end.  A tenth read
that comes late finds this time over already: the call ends phase 1 and goes on
to phase 3 at once (`LateTenthRead`).

`History` records what the statement about a run needs beyond the state: the reads
since the last `setPowerOn` and the time at which `_phase` became 2.  The
invariant `Counting` ties it to the subsystem, and `settling_iff` says that the
outputs get their time in exactly the runs without a late tenth read.
-/

namespace M2Cell

open PowerSubsystemConfig

/-- What a run leaves behind: the `processDaq` calls since the last `setPowerOn`,
and the time at which `_phase` became 2. -/
structure History where
  reads : ℕ
  phaseTwo : Time
  deriving DecidableEq, Repr

/-- The history after a `processDaq` that took the phase from `phase` to `phase'`. -/
def History.read (phase phase' : ℤ) (now : Time) (history : History) : History where
  reads := history.reads + 1
  phaseTwo := if phase' = 2 ∧ phase ≠ 2 then now else history.phaseTwo

namespace Call

variable {ty : PowerSystemType} {c r : Call} {clock : Clock} {history : History}

/-! ## The verdict of phase 3 -/

/-- The states in which `_processPowerOn` is in the case `TURNING_ON`. -/
def Starting (state : PowerState) : Prop :=
  state = .off ∨ state = .turningOff ∨ state = .turningOn

instance (state : PowerState) : Decidable (Starting state) :=
  inferInstanceAs (Decidable (_ ∨ _))

/-- The voltage cannot operate the breakers, and nothing else is a reason to turn off. -/
def OnlyVoltageLow (ty : PowerSystemType) (c : Call) : Prop :=
  c.sub.sysInfo.voltage ty < (psCfg ty).breakerOperatingVoltage ∧
    c.sub.outputIsOn ty = true ∧ c.sub.sysInfo.current ty ≤ (psCfg ty).maxCurrent

instance decidableOnlyVoltageLow (ty : PowerSystemType) (c : Call) :
    Decidable (c.OnlyVoltageLow ty) :=
  inferInstanceAs (Decidable (_ ∧ _))

/-- The call went through phase 3: it left `TURNING_ON` for `ON` or `RESET`, or gave
up because of the voltage. -/
def Verdict (ty : PowerSystemType) (c r : Call) : Prop :=
  Starting c.sub.actualPowerState ∧
    (r.sub.actualPowerState = .on ∨ r.sub.actualPowerState = .reset ∨
      r.sub.targPowerState = .off ∧ c.OnlyVoltageLow ty)

instance decidableVerdict (ty : PowerSystemType) (c r : Call) : Decidable (Verdict ty c r) :=
  inferInstanceAs (Decidable (_ ∧ _))

/-- The time since `_phase` became 2; it is zero when this call makes it 2. -/
def timeInPhaseTwo (clock : Clock) (history : History) (c : Call) : ℚ :=
  if c.sub.actualPowerState = .turningOn ∧ c.sub.phase = 2 then
    timePassedSec history.phaseTwo clock.now
  else 0

/-- Ten reads were counted, and the outputs had their time to settle. -/
def Settled (ty : PowerSystemType) (clock : Clock) (history : History) (c : Call) : Prop :=
  10 ≤ history.reads + 1 ∧ c.timeInPhaseTwo clock history > (psCfg ty).outputOnMaxDelay

instance decidableSettled (ty : PowerSystemType) (clock : Clock) (history : History) (c : Call) :
    Decidable (c.Settled ty clock history) :=
  inferInstanceAs (Decidable (_ ∧ _))

/-- The tenth read of phase 1, with the outputs on, comes later than the delay of
phase 2 after the start of phase 1. -/
def LateTenthRead (ty : PowerSystemType) (clock : Clock) (c : Call) : Prop :=
  c.sub.actualPowerState = .turningOn ∧ c.sub.phase = 1 ∧ 10 ≤ c.sub.telemCounter + 1 ∧
    c.WithinLimits ty ∧ c.sub.outputIsOn ty = true ∧
    c.timeInPhase clock > (psCfg ty).outputOnMaxDelay

instance decidableLateTenthRead (ty : PowerSystemType) (clock : Clock) (c : Call) :
    Decidable (c.LateTenthRead ty clock) :=
  inferInstanceAs (Decidable (_ ∧ _))

/-! ## One call of `_processPowerOn` -/

/-- **The count of the reads and the start of phase 2**, as the history has them.  A
subsystem whose target is on counts from zero, and in phase 2 it has counted ten. -/
def Counting (sub : PowerSubsystem) (history : History) : Prop :=
  sub.targPowerState = .on →
    (sub.actualPowerState = .off ∨ sub.actualPowerState = .turningOff → sub.telemCounter = 0) ∧
    (sub.actualPowerState = .turningOn →
      sub.phase = 1 ∧ sub.telemCounter ≤ 9 ∧ sub.telemCounter ≤ history.reads ∨
      sub.phase = 2 ∧ 10 ≤ history.reads ∧ sub.phaseStartTime = history.phaseTwo)

theorem counting_of_not_on {sub : PowerSubsystem} (h : sub.targPowerState ≠ .on) :
    Counting sub history := fun hon => absurd hon h

theorem GaveUp.counting (h : GaveUp ty c r) : Counting r.sub history :=
  counting_of_not_on (by rw [h.targ]; decide)

theorem counting_of_not_starting {sub : PowerSubsystem} (h : ¬ Starting sub.actualPowerState) :
    Counting sub history := by
  intro _
  constructor
  · intro hoff
    exact absurd (by tauto) h
  · intro hturning
    exact absurd (Or.inr (Or.inr hturning)) h

/-- What a call does to the settling time: the invariant is kept, and the verdict
comes at its time exactly when the call is not a late tenth read. -/
structure Settles (ty : PowerSystemType) (clock : Clock) (history : History) (c r : Call) :
    Prop where
  counting : Counting r.sub (history.read c.sub.phase r.sub.phase clock.now)
  settled : (Verdict ty c r → c.Settled ty clock history) ↔ ¬ c.LateTenthRead ty clock

/-- A call without a verdict that is no late tenth read. -/
theorem settles_of_not (hcounting : Counting r.sub (history.read c.sub.phase r.sub.phase clock.now))
    (hverdict : ¬ Verdict ty c r) (hlate : ¬ c.LateTenthRead ty clock) :
    Settles ty clock history c r :=
  ⟨hcounting, iff_of_true (fun h => absurd h hverdict) hlate⟩

/-- Giving up is a verdict only when the voltage is the reason. -/
theorem GaveUp.not_verdict (h : GaveUp ty c r) (hlow : ¬ c.OnlyVoltageLow ty) :
    ¬ Verdict ty c r := by
  rintro ⟨hstart, hon | hreset | ⟨-, hvoltage⟩⟩
  · rw [← h.actual, hon] at hstart
    exact absurd hstart (by decide)
  · rw [← h.actual, hreset] at hstart
    exact absurd hstart (by decide)
  · exact hlow hvoltage

/-- Only the subsystem of the call before matters. -/
theorem Settles.congr {d : Call} (h : Settles ty clock history d r) (hsub : d.sub = c.sub) :
    Settles ty clock history c r := by
  have hcounting := h.counting
  have hsettled := h.settled
  unfold Verdict OnlyVoltageLow Settled timeInPhaseTwo LateTenthRead WithinLimits timeInPhase
    at hsettled
  rw [hsub] at hcounting hsettled
  exact ⟨hcounting, hsettled⟩

theorem not_verdict_of_on (htarg : r.sub.targPowerState = .on)
    (hactual : Starting r.sub.actualPowerState) : ¬ Verdict ty c r := by
  rintro ⟨-, hon | hreset | ⟨hoff, -⟩⟩
  · rw [hon] at hactual
    exact absurd hactual (by decide)
  · rw [hreset] at hactual
    exact absurd hactual (by decide)
  · simp [htarg] at hoff

/-- A verdict of phase 3 leaves `TURNING_ON`, or gives up because of the voltage. -/
theorem verdict_processBreakers (d : Call) (clock : Clock) (hstart : Starting c.sub.actualPowerState)
    (houtput : c.sub.outputIsOn ty = true) (hwithin : c.WithinLimits ty) :
    Verdict ty c (d.processBreakers ty clock (c.sub.sysInfo.voltage ty)) := by
  refine ⟨hstart, ?_⟩
  rcases processBreakers_cases ty d clock (c.sub.sysInfo.voltage ty) with
    ⟨hvoltage, hgave⟩ | hon | hreset
  · exact Or.inr (Or.inr ⟨hgave.targ, hvoltage, houtput, hwithin.2⟩)
  · exact Or.inl (by rw [hon, actualPowerState_enter])
  · exact Or.inr (Or.inl (by rw [hreset]; rfl))

theorem counting_processBreakers (d : Call) {voltage : ℚ} :
    Counting (d.processBreakers ty clock voltage).sub history := by
  rcases processBreakers_cases ty d clock voltage with ⟨-, hgave⟩ | hon | hreset
  · exact hgave.counting
  · refine counting_of_not_starting ?_
    rw [hon, actualPowerState_enter]
    decide
  · refine counting_of_not_starting ?_
    rw [hreset, sub_writeOutputPortBitPos, actualPowerState_enter]
    decide

/-- The verdict comes in time from phase 2, and too early from phase 1. -/
theorem settled_iff_not_lateTenthRead (htarg : c.sub.targPowerState = .on)
    (hwithin : c.WithinLimits ty) (hturning : c.sub.actualPowerState = .turningOn)
    (hcounting : Counting c.sub history) (houtput : c.sub.outputIsOn ty = true)
    (hends : c.PhaseOneEnds) (htime : c.timeInPhase clock > (psCfg ty).outputOnMaxDelay) :
    c.Settled ty clock history ↔ ¬ c.LateTenthRead ty clock := by
  rcases (hcounting htarg).2 hturning with ⟨hone, -, -⟩ | ⟨htwo, hreads, hstart⟩
  · -- phase 2 begins in the call that ends it
    have hten : 10 ≤ c.sub.telemCounter + 1 := by
      unfold PhaseOneEnds at hends
      omega
    refine iff_of_false ?_ (not_not.mpr ⟨hturning, hone, hten, hwithin, houtput, htime⟩)
    rintro ⟨-, hdelay⟩
    have hzero : c.timeInPhaseTwo clock history = 0 := by simp [timeInPhaseTwo, hone]
    have hpos := outputOnMaxDelay_pos ty
    linarith
  · have hsince : c.timeInPhaseTwo clock history = c.timeInPhase clock := by
      simp [timeInPhaseTwo, timeInPhase, hturning, htwo, hstart]
    refine iff_of_true ⟨by omega, hsince ▸ htime⟩ ?_
    rintro ⟨-, hone, -⟩
    omega

/-- After the tenth read the call waits in phase 2. -/
theorem counting_countTelemetry (htarg : c.sub.targPowerState = .on)
    (hturning : c.sub.actualPowerState = .turningOn) (hcounting : Counting c.sub history)
    (hends : c.PhaseOneEnds) :
    Counting (c.countTelemetry clock).sub
      (history.read c.sub.phase (c.countTelemetry clock).sub.phase clock.now) := by
  intro _
  refine ⟨fun hoff => ?_, fun _ => Or.inr ⟨phase_countTelemetry hends, ?_⟩⟩
  · rw [actualPowerState_countTelemetry, hturning] at hoff
    simp at hoff
  · rw [phase_countTelemetry hends]
    rcases (hcounting htarg).2 hturning with ⟨hone, -, hreads⟩ | ⟨htwo, hreads, hstart⟩
    · have hten : 10 ≤ c.sub.telemCounter + 1 := by
        unfold PhaseOneEnds at hends
        omega
      have hnow : (c.countTelemetry clock).sub.phaseStartTime = clock.now := by
        rw [countTelemetry_of_ten hone hten, phaseStartTime_enter]
      refine ⟨?_, by simp [hnow, History.read, hone]⟩
      simp only [History.read]
      omega
    · rw [countTelemetry_of_two htwo]
      refine ⟨?_, by simp [History.read, htwo, hstart]⟩
      simp only [History.read]
      omega

/-- `TURNING_ON`, with the target on. -/
theorem settles_processTurningOn (htarg : c.sub.targPowerState = .on)
    (hwithin : c.WithinLimits ty) (hturning : c.sub.actualPowerState = .turningOn)
    (hcounting : Counting c.sub history) :
    Settles ty clock history c
      (c.processTurningOn ty clock (c.sub.outputIsOn ty) (c.sub.sysInfo.voltage ty)) := by
  have hphases := (hcounting htarg).2 hturning
  have hstarting : Starting c.sub.actualPowerState := Or.inr (Or.inr hturning)
  -- in phase 1 the read is counted, unless it is the tenth
  by_cases hfew : c.sub.phase = 1 ∧ c.sub.telemCounter + 1 < 10
  · obtain ⟨hone, hcount⟩ := hfew
    rw [processTurningOn_few hone hcount]
    refine settles_of_not ?_ (not_verdict_of_on htarg hstarting) ?_
    · intro _
      refine ⟨fun hoff => ?_, fun _ => Or.inl ⟨hone, ?_, ?_⟩⟩
      · have hsame : c.count.sub.actualPowerState = c.sub.actualPowerState := rfl
        simp [hsame, hturning] at hoff
      · have hcounted : c.count.sub.telemCounter = c.sub.telemCounter + 1 := rfl
        omega
      · have hcounted : c.count.sub.telemCounter = c.sub.telemCounter + 1 := rfl
        simp only [hcounted, History.read, Nat.cast_add, Nat.cast_one]
        omega
    · rintro ⟨-, -, hten, -⟩
      omega
  · have hends : c.PhaseOneEnds := by
      unfold PhaseOneEnds
      omega
    cases houtput : c.sub.outputIsOn ty with
    | false =>
        have hgave : GaveUp ty c
            (c.processTurningOn ty clock false (c.sub.sysInfo.voltage ty)) :=
          processTurningOn_output_off hends
        refine settles_of_not hgave.counting (hgave.not_verdict ?_) ?_
        · rintro ⟨-, hon, -⟩
          simp [houtput] at hon
        · rintro ⟨-, -, -, -, hon, -⟩
          simp [houtput] at hon
    | true =>
        by_cases htime : c.timeInPhase clock > (psCfg ty).outputOnMaxDelay
        -- the verdict, from the phase start that was read before the count wrote it
        · rw [processTurningOn_verdict hends htime]
          have hsettled := settled_iff_not_lateTenthRead htarg hwithin hturning hcounting houtput
            hends htime
          have hverdict := verdict_processBreakers ((c.countTelemetry clock).enter
            c.sub.actualPowerState 3 clock.now) clock hstarting houtput hwithin
          exact ⟨counting_processBreakers _, (forall_prop_of_true hverdict).trans hsettled⟩
        · rw [processTurningOn_wait hends htime]
          refine settles_of_not ?_ (not_verdict_of_on (by simpa using htarg) ?_) ?_
          · exact counting_countTelemetry htarg hturning hcounting hends
          · rw [actualPowerState_countTelemetry]
            exact hstarting
          · rintro ⟨-, -, -, -, -, hlate⟩
            exact htime hlate

/-- `OFF` and `TURNING_OFF` begin phase 1, and the read is the first one. -/
theorem settles_of_off (htarg : c.sub.targPowerState = .on)
    (hoff : c.sub.actualPowerState = .off ∨ c.sub.actualPowerState = .turningOff)
    (hcounting : Counting c.sub history) (outputIsOn : Bool) (voltage : ℚ) :
    Settles ty clock history c
      ((c.enter .turningOn 1 clock.now).processTurningOn ty clock outputIsOn voltage) := by
  have hzero : c.sub.telemCounter = 0 := (hcounting htarg).1 hoff
  have hfirst : (c.enter .turningOn 1 clock.now).sub.telemCounter = 0 := hzero
  rw [processTurningOn_few (phase_enter c .turningOn 1 clock.now) (by omega)]
  have hone : (c.enter .turningOn 1 clock.now).count.sub.telemCounter = 1 := by
    change c.sub.telemCounter + 1 = 1
    omega
  refine settles_of_not ?_ (not_verdict_of_on htarg (Or.inr (Or.inr rfl))) ?_
  · intro _
    refine ⟨fun h => ?_, fun _ => Or.inl ⟨rfl, by omega, ?_⟩⟩
    · have hturning : (c.enter .turningOn 1 clock.now).count.sub.actualPowerState = .turningOn := rfl
      simp [hturning] at h
    · simp only [hone, History.read]
      omega
  · rintro ⟨hturning, -⟩
    rw [hturning] at hoff
    simp at hoff

/-- A call that began outside of `TURNING_ON` and ended there, or with the target off. -/
theorem settles_of_not_starting (hstart : ¬ Starting c.sub.actualPowerState)
    (hcounting : Counting r.sub (history.read c.sub.phase r.sub.phase clock.now)) :
    Settles ty clock history c r := by
  refine settles_of_not hcounting (fun hverdict => hstart hverdict.1) ?_
  rintro ⟨hturning, -⟩
  exact hstart (Or.inr (Or.inr hturning))

/-- **One call of `_processPowerOn`.** -/
theorem settles_processPowerOn (htarg : c.sub.targPowerState = .on)
    (hcounting : Counting c.sub history) :
    Settles ty clock history c (c.processPowerOn ty clock) := by
  by_cases hwithin : c.WithinLimits ty
  · obtain ⟨d, hsub, -, -, hcall⟩ := processPowerOn_of_within clock hwithin
    rw [hcall]
    unfold processActual
    have hwithin' : d.WithinLimits ty := by
      unfold WithinLimits
      rwa [hsub]
    have hcounting' : Counting d.sub history := hsub ▸ hcounting
    have htarg' : d.sub.targPowerState = .on := hsub ▸ htarg
    refine Settles.congr (d := d) ?_ hsub
    rw [← hsub]
    cases hactual : d.sub.actualPowerState with
    -- the count starts, or the power is off
    | off => exact settles_of_off htarg' (Or.inl hactual) hcounting' _ _
    | turningOff => exact settles_of_off htarg' (Or.inr hactual) hcounting' _ _
    | turningOn => exact settles_processTurningOn htarg' hwithin' hactual hcounting'
    | on =>
        refine settles_of_not_starting (by rw [hactual]; decide) (counting_of_not_starting ?_)
        rw [(processOn_spec ty d clock _ _).1, hactual]
        decide
    | reset =>
        refine settles_of_not_starting (by rw [hactual]; decide) ?_
        rcases processReset_cases ty d clock (d.sub.outputIsOn ty)
          (d.sub.sysInfo.voltage ty) with hgave | hon | hsame
        · exact hgave.counting
        · refine counting_of_not_starting ?_
          rw [hon]
          decide
        · refine counting_of_not_starting ?_
          rw [hsame, hactual]
          decide
    | unknown =>
        exact settles_of_not_starting (by rw [hactual]; decide)
          (gaveUp_setPowerOff ty d clock.stamp).counting
  · have hgave := processPowerOn_of_over clock hwithin
    refine settles_of_not hgave.counting (hgave.not_verdict ?_) ?_
    · rintro ⟨hlow, -, hcurrent⟩
      exact hwithin ⟨(hlow.trans (breakerOperatingVoltage_lt ty)).le, hcurrent⟩
    · rintro ⟨-, -, -, hin, -⟩
      exact hwithin hin

end Call

/-! ## Runs -/

namespace System

open Call

variable (ty : PowerSystemType)

/-- The history after an event. -/
def record (s : System) (history : History) : PowerEvent → History
  | .setPowerOn ty' _ => if ty' = ty then { history with reads := 0 } else history
  | .processDaq ty' info faultsSet clock =>
      if ty' = ty then
        history.read (s.sub ty).phase ((s.processDaq ty clock info faultsSet).1.sub ty).phase
          (clock ty).now
      else history
  | _ => history

/-- One event, with the history of the subsystem `ty`. -/
def historyStep (x : System × History) (e : PowerEvent) : System × History :=
  (x.1.powerStep e, x.1.record ty x.2 e)

/-- A `processDaq` that goes through phase 3 has counted ten reads, and the outputs
had their time to settle. -/
def SettledVerdict (x : System × History) : PowerEvent → Prop
  | .processDaq ty' info faultsSet clock =>
      ty' = ty → (x.1.sub ty).targPowerState = .on → x.1.Unhindered ty →
        Verdict ty (x.1.daqCall ty info faultsSet) (x.1.daqResult ty clock info faultsSet) →
        (x.1.daqCall ty info faultsSet).Settled ty (clock ty) x.2
  | _ => True

/-- The event is a late tenth read. -/
def ReadsTenthLate (s : System) : PowerEvent → Prop
  | .processDaq ty' info faultsSet clock =>
      ty' = ty ∧ (s.sub ty).targPowerState = .on ∧ s.Unhindered ty ∧
        (s.daqCall ty info faultsSet).LateTenthRead ty (clock ty)
  | _ => False

instance decidableSettledVerdict (x : System × History) :
    ∀ e, Decidable (SettledVerdict ty x e)
  | .setPowerOn _ _ => inferInstanceAs (Decidable True)
  | .setPowerOff _ _ => inferInstanceAs (Decidable True)
  | .processDaq _ _ _ _ => inferInstanceAs (Decidable (_ → _))
  | .elsewhere _ _ _ => inferInstanceAs (Decidable True)

instance decidableReadsTenthLate (s : System) : ∀ e, Decidable (s.ReadsTenthLate ty e)
  | .setPowerOn _ _ => inferInstanceAs (Decidable False)
  | .setPowerOff _ _ => inferInstanceAs (Decidable False)
  | .processDaq _ _ _ _ => inferInstanceAs (Decidable (_ ∧ _))
  | .elsewhere _ _ _ => inferInstanceAs (Decidable False)

variable {ty}

/-- One event keeps the invariant, and its verdict comes in time exactly when it is
not a late tenth read. -/
theorem counting_historyStep (x : System × History) (e : PowerEvent)
    (hcounting : Counting (x.1.sub ty) x.2) :
    Counting ((historyStep ty x e).1.sub ty) (historyStep ty x e).2 ∧
      (SettledVerdict ty x e ↔ ¬ x.1.ReadsTenthLate ty e) := by
  obtain ⟨s, history⟩ := x
  -- only a read that runs `_processPowerOn` counts or judges
  by_cases hruns : s.RunsPowerOn ty e
  · cases e with
    | setPowerOn ty' clock => exact hruns.elim
    | setPowerOff ty' clock => exact hruns.elim
    | elsewhere faultMgr currentState setupFinished => exact hruns.elim
    | processDaq ty' info faultsSet clock =>
        obtain ⟨rfl, htarg, hfree⟩ := hruns
        have hresult := processDaq_of_unhindered ty' clock info faultsSet s htarg hfree
        have hsettles : Settles ty' (clock ty') history (s.daqCall ty' info faultsSet)
            (s.daqResult ty' clock info faultsSet) := by
          rw [hresult]
          exact settles_processPowerOn htarg hcounting
        have hcounted := hsettles.counting
        have hsettled := hsettles.settled
        refine ⟨?_, ?_⟩
        · simp only [historyStep, powerStep, record, if_true]
          exact hcounted
        · simp only [SettledVerdict, ReadsTenthLate, true_and, htarg, hfree, forall_const]
          exact hsettled
  · refine ⟨?_, ?_⟩
    · rcases powerStep_cases ty s e with haccepts | hruns' | ⟨hother, hkept⟩ | hdown
      · cases e with
        | setPowerOn ty' clock =>
            obtain ⟨rfl, haccepted⟩ := haccepts
            have hon := (turnedOn_setPowerOn ty' clock s haccepted).sub
            simp only [historyStep, powerStep, record, if_true, hon]
            intro _
            exact ⟨fun _ => rfl, fun _ => Or.inl ⟨rfl, by simp, by simp⟩⟩
        | setPowerOff ty' clock => exact haccepts.elim
        | processDaq ty' info faultsSet clock => exact haccepts.elim
        | elsewhere faultMgr currentState setupFinished => exact haccepts.elim
      · exact absurd hruns' hruns
      -- an event that does not concern the subsystem
      · have hsame : s.record ty history e = history := by
          cases e <;> simp_all [record, PowerEvent.Concerns]
        simp only [historyStep, hkept.1, hsame]
        exact hcounting
      · exact counting_of_not_on hdown.1
    · cases e with
      | setPowerOn ty' clock => simp [SettledVerdict, ReadsTenthLate]
      | setPowerOff ty' clock => simp [SettledVerdict, ReadsTenthLate]
      | elsewhere faultMgr currentState setupFinished => simp [SettledVerdict, ReadsTenthLate]
      | processDaq ty' info faultsSet clock =>
          refine iff_of_true ?_ ?_
          · intro hty htarg hfree
            exact absurd ⟨hty, htarg, hfree⟩ hruns
          · rintro ⟨hty, htarg, hfree, -⟩
            exact hruns ⟨hty, htarg, hfree⟩

/-- **The outputs get their full settling time in exactly the runs in which no tenth
read comes late.** -/
theorem settling_iff (s : System) (history : History) (events : List PowerEvent)
    (hoff : (s.sub ty).targPowerState ≠ .on) :
    Always (historyStep ty) (SettledVerdict ty) (s, history) events ↔
      Always powerStep (fun s e => ¬ s.ReadsTenthLate ty e) s events := by
  have hstart : Counting (s.sub ty) history := counting_of_not_on hoff
  have hcond : Always (historyStep ty) (fun x e => ¬ x.1.ReadsTenthLate ty e) (s, history) events ↔
      Always powerStep (fun s e => ¬ s.ReadsTenthLate ty e) s events :=
    always_map (fun s e => ¬ s.ReadsTenthLate ty e) Prod.fst (fun _ _ => rfl) (s, history) events
  rw [← hcond]
  have hstep (x : System × History) (e : PowerEvent) (hx : Counting (x.1.sub ty) x.2) :=
    counting_historyStep x e hx
  constructor
  · exact Always.imp (fun x : System × History => Counting (x.1.sub ty) x.2)
      (fun x e hx hsettled => ⟨(hstep x e hx).1, (hstep x e hx).2.mp hsettled⟩) hstart
  · exact Always.imp (fun x : System × History => Counting (x.1.sub ty) x.2)
      (fun x e hx hlate => ⟨(hstep x e hx).1, (hstep x e hx).2.mpr hlate⟩) hstart

/-- Comm power reads as off, is turned on at time 0, and healthy telemetry is read
every `period` seconds. -/
def commReads (period : ℚ) (count : ℕ) : List PowerEvent :=
  [.processDaq .comm ⟨0, 0, 0, 0, 0, 0⟩ 0 fun _ => ⟨0, 0⟩,
    .elsewhere (FaultMgr.new.reportComConnectionCount 1).1 .standby true,
    .setPowerOn .comm fun _ => ⟨0, 0⟩] ++
  (List.range count).map fun i => .processDaq .comm
    ⟨7, ~~~(BitVec.twoPow 32 InputPortBits.interlockPowerRelay), 24, 0, 24, 0⟩ 0
    fun _ => ⟨period * i, period * i⟩

/-- Reads every 50 ms come early enough: the verdict waits for the delay. -/
theorem settling_iff_fastReads :
    Always (historyStep .comm) (SettledVerdict .comm) (new 7, ⟨0, 0⟩) (commReads 0.05 30) :=
  (settling_iff (new 7) ⟨0, 0⟩ (commReads 0.05 30) (by decide)).mpr (by decide +kernel)

/-- Reads every 100 ms: the tenth one ends phase 1 and phase 2 in one call. -/
theorem not_settled_slowReads :
    ¬ Always (historyStep .comm) (SettledVerdict .comm) (new 7, ⟨0, 0⟩) (commReads 0.1 10) := by
  decide +kernel

end System

end M2Cell
