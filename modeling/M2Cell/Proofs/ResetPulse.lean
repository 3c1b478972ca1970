import M2Cell.Control.PowerEvents

/-!
# The reset pulse of the breakers

`RESET` holds the breaker bit low, restores it when more than
`resetBreakerPulseWidth` has passed, and judges the breakers when more than twice
that has passed.  Both times run from the start of `RESET`, so the bit has been
high for as long as it was low only if the read that restored it came early
enough.  A read that comes late restores the bit and judges in the same call, and
a `setPowerOn` cuts the pulse short.

`PulseHistory` records the edges of the bit.  `LawfulPulse` is the pulse that a
judgement needs; `SoundPulse` are the steps after which it had one, and
`reset_pulse` is the run lemma.
-/

namespace M2Cell

open PowerSubsystemConfig

namespace Call

variable {ty : PowerSystemType} {c r : Call} {clock : Clock}

/-! ## The judgement -/

/-- The outputs are on, the breakers operate, and no limit is exceeded. -/
def Operating (ty : PowerSystemType) (c : Call) : Prop :=
  c.WithinLimits ty ∧ c.sub.outputIsOn ty = true ∧
    (psCfg ty).breakerOperatingVoltage ≤ c.sub.sysInfo.voltage ty

instance decidableOperating (ty : PowerSystemType) (c : Call) : Decidable (c.Operating ty) :=
  inferInstanceAs (Decidable (_ ∧ _))

/-- The call ended `RESET` by judging the breakers: it went to `ON`, or turned the
power off although the breakers operate, which is a breaker fault. -/
def Judged (ty : PowerSystemType) (c r : Call) : Prop :=
  c.sub.actualPowerState = .reset ∧
    (r.sub.actualPowerState = .on ∨ r.sub.targPowerState = .off ∧ c.Operating ty)

instance decidableJudged (ty : PowerSystemType) (c r : Call) : Decidable (Judged ty c r) :=
  inferInstanceAs (Decidable (_ ∧ _))

/-- The call comes late enough in `RESET` to judge the breakers. -/
def JudgingRead (ty : PowerSystemType) (clock : Clock) (c : Call) : Prop :=
  c.sub.actualPowerState = .reset ∧ c.Operating ty ∧
    c.timeInPhase clock > (psCfg ty).resetBreakerPulseWidth * 2

instance decidableJudgingRead (ty : PowerSystemType) (clock : Clock) (c : Call) :
    Decidable (c.JudgingRead ty clock) :=
  inferInstanceAs (Decidable (_ ∧ _))

theorem GaveUp.not_judged (h : GaveUp ty c r) (hoperating : ¬ c.Operating ty) :
    ¬ Judged ty c r := by
  rintro ⟨hreset, hon | ⟨-, hoff⟩⟩
  · rw [h.actual, hreset] at hon
    exact absurd hon (by decide)
  · exact hoperating hoff

/-- What a call in `RESET` does to the bit and the state. -/
structure Resets (ty : PowerSystemType) (clock : Clock) (c r : Call) : Prop where
  judged : Judged ty c r → c.JudgingRead ty clock
  outcome : GaveUp ty c r ∨ r.sub.actualPowerState = .on ∨
    r.sub = c.sub ∧ r.breakerBit ty =
      if c.timeInPhase clock > (psCfg ty).resetBreakerPulseWidth then true else c.breakerBit ty

theorem resets_of_gaveUp (h : GaveUp ty c r) (hoperating : ¬ c.Operating ty) :
    Resets ty clock c r :=
  ⟨fun hjudged => absurd hjudged (h.not_judged hoperating), Or.inl h⟩

/-- A call that stays in `RESET` does not judge. -/
theorem resets_of_stays (htarg : c.sub.targPowerState = .on)
    (hreset : c.sub.actualPowerState = .reset) (hsub : r.sub = c.sub)
    (hbit : r.breakerBit ty =
      if c.timeInPhase clock > (psCfg ty).resetBreakerPulseWidth then true else c.breakerBit ty) :
    Resets ty clock c r := by
  refine ⟨?_, Or.inr (Or.inr ⟨hsub, hbit⟩)⟩
  rintro ⟨-, hon | ⟨hoff, -⟩⟩
  · rw [hsub, hreset] at hon
    exact absurd hon (by decide)
  · rw [hsub, htarg] at hoff
    exact absurd hoff (by decide)

/-- **One call of `_processPowerOn` in `RESET`.** -/
theorem resets_processPowerOn (htarg : c.sub.targPowerState = .on)
    (hreset : c.sub.actualPowerState = .reset) :
    Resets ty clock c (c.processPowerOn ty clock) := by
  by_cases hwithin : c.WithinLimits ty
  · obtain ⟨d, hsub, hport, -, hcall⟩ := processPowerOn_of_within clock hwithin
    have hswitch : c.processPowerOn ty clock =
        d.processReset ty clock (c.sub.outputIsOn ty) (c.sub.sysInfo.voltage ty) := by
      rw [hcall]
      simp only [processActual, hsub, hreset]
    rw [hswitch]
    have htimes : d.timeInPhase clock = c.timeInPhase clock := by simp only [timeInPhase, hsub]
    by_cases hoperating : c.Operating ty
    · have ⟨_, houtput, hvoltage⟩ := hoperating
      rw [← not_lt] at hvoltage
      rw [houtput]
      -- the reset bit is held for one pulse width, and judged after two
      by_cases htime : c.timeInPhase clock > (psCfg ty).resetBreakerPulseWidth
      · by_cases htwice : c.timeInPhase clock > (psCfg ty).resetBreakerPulseWidth * 2
        · refine ⟨fun _ => ⟨hreset, hoperating, htwice⟩, ?_⟩
          rcases processReset_judge hvoltage (htimes ▸ htwice) with hgave | hon
          · exact Or.inl (hgave.of_actual (congrArg _ hsub))
          · exact Or.inr (Or.inl hon)
        · rw [processReset_restore hvoltage (htimes ▸ htime) (htimes ▸ htwice)]
          refine resets_of_stays htarg hreset hsub ?_
          simp [breakerBit, htime]
      · rw [processReset_hold hvoltage (htimes ▸ htime)]
        refine resets_of_stays htarg hreset hsub ?_
        simp [breakerBit, htime, hport]
    -- outside its limits the subsystem is turned off, which sets the bit again
    · have hgave : GaveUp ty d
          (d.processReset ty clock (c.sub.outputIsOn ty) (c.sub.sysInfo.voltage ty)) := by
        refine processReset_gaveUp fun houtput => ?_
        by_contra hvoltage
        exact hoperating ⟨hwithin, houtput, not_lt.mp hvoltage⟩
      exact resets_of_gaveUp (hgave.of_actual (congrArg _ hsub)) hoperating
  · exact resets_of_gaveUp (processPowerOn_of_over clock hwithin) fun h => hwithin h.1

/-- A verdict that enters `RESET` starts the timer and lowers the bit. -/
theorem processBreakers_enters_reset {voltage : ℚ} (hother : c.sub.actualPowerState ≠ .reset)
    (hreset : (c.processBreakers ty clock voltage).sub.actualPowerState = .reset) :
    (c.processBreakers ty clock voltage).sub.phaseStartTime = clock.now ∧
      (c.processBreakers ty clock voltage).breakerBit ty = false := by
  rcases processBreakers_cases ty c clock voltage with ⟨-, hgave⟩ | hon | henters
  · rw [hgave.actual] at hreset
    exact absurd hreset hother
  · rw [hon, actualPowerState_enter] at hreset
    exact absurd hreset (by decide)
  · rw [henters]
    exact ⟨rfl, by simp [breakerBit]⟩

/-- **Into `RESET`.**  The call that enters it starts the timer and lowers the bit. -/
theorem processPowerOn_enters_reset (hother : c.sub.actualPowerState ≠ .reset)
    (hreset : (c.processPowerOn ty clock).sub.actualPowerState = .reset) :
    (c.processPowerOn ty clock).sub.phaseStartTime = clock.now ∧
      (c.processPowerOn ty clock).breakerBit ty = false := by
  by_cases hwithin : c.WithinLimits ty
  · obtain ⟨d, hsub, -, -, hcall⟩ := processPowerOn_of_within clock hwithin
    rw [hcall] at hreset ⊢
    have hother' : d.sub.actualPowerState ≠ .reset := hsub ▸ hother
    -- `OFF`, `TURNING_OFF` and `TURNING_ON` get there by a verdict
    have hturning (e : Call) (he : e.sub.actualPowerState ≠ .reset) (outputIsOn : Bool)
        (voltage : ℚ)
        (h : (e.processTurningOn ty clock outputIsOn voltage).sub.actualPowerState = .reset) :
        (e.processTurningOn ty clock outputIsOn voltage).sub.phaseStartTime = clock.now ∧
          (e.processTurningOn ty clock outputIsOn voltage).breakerBit ty = false := by
      rcases processTurningOn_cases ty e clock outputIsOn voltage with hsame | ⟨f, hf, hverdict⟩
      · exact absurd (hsame.symm.trans h) he
      · rw [hverdict] at h ⊢
        exact processBreakers_enters_reset (hf ▸ he) h
    unfold processActual at hreset ⊢
    cases hactual : d.sub.actualPowerState with
    | on =>
        simp only [hactual] at hreset
        rw [(processOn_spec ty d clock _ _).1, hactual] at hreset
        exact absurd hreset (by decide)
    | off =>
        simp only [hactual] at hreset ⊢
        exact hturning _ (by simp) _ _ hreset
    | turningOff =>
        simp only [hactual] at hreset ⊢
        exact hturning _ (by simp) _ _ hreset
    | turningOn =>
        simp only [hactual] at hreset ⊢
        exact hturning d hother' _ _ hreset
    | reset => exact absurd hactual hother'
    | unknown =>
        simp only [hactual, actualPowerState_setPowerOff] at hreset
        exact absurd hreset (by decide)
  · rw [(processPowerOn_of_over clock hwithin).actual] at hreset
    exact absurd hreset hother

end Call

/-! ## The history of a run -/

/-- The edges of the breaker bit, and the first call on the subsystem that came more
than the pulse width after `RESET` began. -/
structure PulseHistory where
  fell : Option Time
  /-- The first rise since the bit fell. -/
  rose : Option Time
  lateCall : Option Time
  deriving DecidableEq, Repr

namespace PulseHistory

/-- The bit went from `before` to `after`. -/
def edge (before after : Bool) (time : Time) (history : PulseHistory) : PulseHistory :=
  if before ∧ !after then { history with fell := some time, rose := none }
  else if !before ∧ after then { history with rose := some time }
  else history

@[simp] theorem edge_same (bit : Bool) (time : Time) (history : PulseHistory) :
    history.edge bit bit time = history := by
  cases bit <;> rfl

@[simp] theorem edge_fall (time : Time) (history : PulseHistory) :
    history.edge true false time = { history with fell := some time, rose := none } := rfl

@[simp] theorem edge_rise (time : Time) (history : PulseHistory) :
    history.edge false true time = { history with rose := some time } := rfl

/-- The bit was low for longer than `width`, and has been high for longer than it. -/
def LawfulPulse (width : ℚ) (now : Time) (history : PulseHistory) : Prop :=
  match history.fell, history.rose with
  | some fell, some rose => timePassedSec fell rose > width ∧ timePassedSec rose now > width
  | _, _ => False

instance decidableLawfulPulse (width : ℚ) (now : Time) (history : PulseHistory) :
    Decidable (history.LawfulPulse width now) := by
  unfold LawfulPulse
  split <;> infer_instance

end PulseHistory

namespace System

variable (ty : PowerSystemType)

/-- The event is a call on the subsystem in `RESET`, more than the pulse width after
`_phaseStartTime`. -/
def LateCall (s : System) (e : PowerEvent) : Prop :=
  e.Concerns ty ∧ (s.sub ty).targPowerState = .on ∧ (s.sub ty).actualPowerState = .reset ∧
    timePassedSec (s.sub ty).phaseStartTime (e.time ty) > (psCfg ty).resetBreakerPulseWidth

instance decidableLateCall (s : System) (e : PowerEvent) : Decidable (s.LateCall ty e) :=
  inferInstanceAs (Decidable (_ ∧ _))

/-- The first late call of this `RESET`, after the event. -/
def lateCall (s : System) (history : PulseHistory) (e : PowerEvent) : Option Time :=
  if (s.sub ty).actualPowerState ≠ .reset then none
  else if history.lateCall = none ∧ s.LateCall ty e then some (e.time ty)
  else history.lateCall

/-- One event, with the history of the breaker bit. -/
def pulseStep (x : System × PulseHistory) (e : PowerEvent) : System × PulseHistory :=
  (x.1.powerStep e,
    { x.2.edge (x.1.breakerBit ty) ((x.1.powerStep e).breakerBit ty) (e.time ty) with
      lateCall := x.1.lateCall ty x.2 e })

/-- Whenever a `processDaq` ends `RESET` by judging the breakers, the bit had its pulse. -/
def ResetPulse (x : System × PulseHistory) : PowerEvent → Prop
  | .processDaq ty' info faultsSet clock =>
      ty' = ty → (x.1.sub ty).targPowerState = .on → x.1.Unhindered ty →
        Call.Judged ty (x.1.daqCall ty info faultsSet) (x.1.daqResult ty clock info faultsSet) →
        x.2.LawfulPulse (psCfg ty).resetBreakerPulseWidth (clock ty).now
  | _ => True

/-- No `setPowerOn` cuts the pulse short, and a read that judges the breakers comes
more than the pulse width after the first late call of the `RESET`. -/
def SoundPulse (x : System × PulseHistory) : PowerEvent → Prop
  | .setPowerOn ty' clock =>
      ty' = ty → (x.1.setPowerOn ty clock).2 = true → (x.1.sub ty).actualPowerState = .reset →
        x.1.lateCall ty x.2 (.setPowerOn ty' clock) ≠ none
  | .processDaq ty' info faultsSet clock =>
      ty' = ty → (x.1.sub ty).targPowerState = .on → x.1.Unhindered ty →
        (x.1.daqCall ty info faultsSet).JudgingRead ty (clock ty) →
        ∃ late ∈ x.2.lateCall,
          timePassedSec late (clock ty).now > (psCfg ty).resetBreakerPulseWidth
  | _ => True

instance decidableResetPulse (x : System × PulseHistory) : ∀ e, Decidable (ResetPulse ty x e)
  | .setPowerOn _ _ => inferInstanceAs (Decidable True)
  | .setPowerOff _ _ => inferInstanceAs (Decidable True)
  | .processDaq _ _ _ _ => inferInstanceAs (Decidable (_ → _))
  | .elsewhere _ _ _ => inferInstanceAs (Decidable True)

instance decidableSoundPulse (x : System × PulseHistory) : ∀ e, Decidable (SoundPulse ty x e)
  | .setPowerOn _ _ => inferInstanceAs (Decidable (_ → _))
  | .setPowerOff _ _ => inferInstanceAs (Decidable True)
  | .processDaq _ _ _ _ => inferInstanceAs (Decidable (_ → _))
  | .elsewhere _ _ _ => inferInstanceAs (Decidable True)

/-! ## The invariant -/

/-- In `RESET` with the target on and no late call yet, the bit fell when the phase
started.  From the first late call on, the bit is high, and it rose with that call. -/
structure InPulse (x : System × PulseHistory) : Prop where
  coupled : x.1.Coupled
  low : (x.1.sub ty).actualPowerState = .reset → (x.1.sub ty).targPowerState = .on →
    x.2.lateCall = none →
      x.1.breakerBit ty = false ∧ x.2.fell = some (x.1.sub ty).phaseStartTime
  high : (x.1.sub ty).actualPowerState = .reset → ∀ late, x.2.lateCall = some late →
    x.1.breakerBit ty = true ∧ x.2.rose = some late ∧
      ∃ fell, x.2.fell = some fell ∧ timePassedSec fell late > (psCfg ty).resetBreakerPulseWidth

variable {ty} {x : System × PulseHistory} {e : PowerEvent}

/-- The bit is low on the way to `ON` in `RESET` only. -/
theorem breakerBit_of_coupled {s : System} (hs : s.Coupled)
    (hother : ¬ ((s.sub ty).targPowerState = .on ∧ (s.sub ty).actualPowerState = .reset)) :
    s.breakerBit ty = true := by
  by_contra hlow
  exact hother ((hs ty).reset (by simpa [breakerBit] using hlow))

theorem lateCall_ne_none (hreset : (x.1.sub ty).actualPowerState = .reset)
    (hcall : x.1.LateCall ty e) : x.1.lateCall ty x.2 e ≠ none := by
  unfold lateCall
  rw [if_neg (not_not.mpr hreset)]
  split_ifs with hfirst
  · simp
  · exact fun hnone => hfirst ⟨hnone, hcall⟩

/-- An event in `RESET` that ends with the bit high, at or after the first late call. -/
theorem InPulse.high_step (h : InPulse ty x)
    (hreset : (x.1.sub ty).actualPowerState = .reset)
    (hbit : (x.1.powerStep e).breakerBit ty = true) (late : Time)
    (hlate : (pulseStep ty x e).2.lateCall = some late) :
    (pulseStep ty x e).2.rose = some late ∧
      ∃ fell, (pulseStep ty x e).2.fell = some fell ∧
        timePassedSec fell late > (psCfg ty).resetBreakerPulseWidth := by
  simp only [pulseStep, lateCall, hreset, ne_eq, not_true_eq_false, if_false] at hlate ⊢
  rw [hbit]
  cases hbefore : x.2.lateCall with
  | some before =>
      obtain ⟨hhigh, hrose, hfell⟩ := h.high hreset before hbefore
      simp only [hbefore, reduceCtorEq, false_and, if_false, Option.some.injEq] at hlate
      rw [hhigh, PulseHistory.edge_same, ← hlate]
      exact ⟨hrose, hfell⟩
  | none =>
      by_cases hcall : x.1.LateCall ty e
      · simp only [hbefore, hcall, and_self, if_true, Option.some.injEq] at hlate
        obtain ⟨hlow, hfell⟩ := h.low hreset hcall.2.1 hbefore
        rw [hlow, PulseHistory.edge_rise, ← hlate]
        exact ⟨rfl, _, hfell, hcall.2.2.2⟩
      · simp [hbefore, hcall] at hlate

/-- A step that leaves the subsystem, its bit and the late call alone. -/
theorem InPulse.of_same (h : InPulse ty x) (hcoupled : (x.1.powerStep e).Coupled)
    (hactual : ((x.1.powerStep e).sub ty).actualPowerState = (x.1.sub ty).actualPowerState)
    (htarg : ((x.1.powerStep e).sub ty).targPowerState = (x.1.sub ty).targPowerState)
    (hstart : ((x.1.powerStep e).sub ty).phaseStartTime = (x.1.sub ty).phaseStartTime)
    (hbit : (x.1.powerStep e).breakerBit ty = x.1.breakerBit ty) (hcall : ¬ x.1.LateCall ty e) :
    InPulse ty (pulseStep ty x e) := by
  have hlate (hreset : (x.1.sub ty).actualPowerState = .reset) :
      x.1.lateCall ty x.2 e = x.2.lateCall := by
    simp [lateCall, hreset, hcall]
  refine ⟨hcoupled, ?_, ?_⟩
  · intro hreset hon hnone
    simp only [pulseStep, hactual, htarg, hstart, hbit, PulseHistory.edge_same]
      at hreset hon hnone ⊢
    exact h.low hreset hon ((hlate hreset).symm.trans hnone)
  · intro hreset late hsome
    simp only [pulseStep, hactual, hbit, PulseHistory.edge_same] at hreset hsome ⊢
    exact h.high hreset late ((hlate hreset).symm.trans hsome)

/-- A step from `RESET` that ends with the bit high: there was a late call, or the
target is not on. -/
theorem InPulse.of_high (h : InPulse ty x) (hcoupled : (x.1.powerStep e).Coupled)
    (hreset : ((x.1.powerStep e).sub ty).actualPowerState = .reset →
      (x.1.sub ty).actualPowerState = .reset)
    (hbit : (x.1.powerStep e).breakerBit ty = true)
    (hlate : ((x.1.powerStep e).sub ty).actualPowerState = .reset →
      ((x.1.powerStep e).sub ty).targPowerState = .on → x.1.lateCall ty x.2 e ≠ none) :
    InPulse ty (pulseStep ty x e) :=
  ⟨hcoupled, fun hactual hon hnone => absurd hnone (hlate hactual hon),
    fun hactual late hsome => ⟨hbit, h.high_step (hreset hactual) hbit late hsome⟩⟩

/-- A `processDaq` that runs `_processPowerOn` keeps the invariant. -/
theorem InPulse.processDaq {s : System} {history : PulseHistory} (h : InPulse ty (s, history))
    (info : SysInfo) (faultsSet : FaultStatusBits) (clock : Clocks)
    (htarg : (s.sub ty).targPowerState = .on) (hfree : s.Unhindered ty) :
    InPulse ty (pulseStep ty (s, history) (.processDaq ty info faultsSet clock)) := by
  have hcoupled := coupled_powerStep s (.processDaq ty info faultsSet clock) h.coupled
  have hcall := processDaq_of_unhindered ty clock info faultsSet s htarg hfree
  have hsub : ((s.powerStep (.processDaq ty info faultsSet clock)).sub ty) =
      ((s.daqCall ty info faultsSet).processPowerOn ty (clock ty)).sub :=
    congrArg Call.sub hcall
  have hport : (s.powerStep (.processDaq ty info faultsSet clock)).breakerBit ty =
      ((s.daqCall ty info faultsSet).processPowerOn ty (clock ty)).breakerBit ty :=
    by rw [← hcall]; rfl
  by_cases hreset : (s.sub ty).actualPowerState = .reset
  · have hresets : Call.Resets ty (clock ty) (s.daqCall ty info faultsSet)
        ((s.daqCall ty info faultsSet).processPowerOn ty (clock ty)) :=
      Call.resets_processPowerOn htarg hreset
    rcases hresets.outcome with hgave | hon | ⟨hsame, hbit⟩
    · refine h.of_high hcoupled (fun _ => hreset) (by rw [hport, hgave.breakerBit]) ?_
      intro _ hon
      rw [hsub, hgave.targ] at hon
      exact absurd hon (by decide)
    · have hother : ((s.powerStep (.processDaq ty info faultsSet clock)).sub
          ty).actualPowerState ≠ .reset := by
        rw [hsub, hon]
        decide
      exact h.of_high hcoupled (fun _ => hreset)
        (breakerBit_of_coupled hcoupled fun hboth => hother hboth.2)
        fun hactual => absurd hactual hother
    · by_cases htime : (s.daqCall ty info faultsSet).timeInPhase (clock ty) >
          (psCfg ty).resetBreakerPulseWidth
      · have hlate : s.LateCall ty (.processDaq ty info faultsSet clock) :=
          ⟨rfl, htarg, hreset, htime⟩
        rw [if_pos htime] at hbit
        exact h.of_high hcoupled (fun _ => hreset) (hport.trans hbit)
          fun _ _ => lateCall_ne_none hreset hlate
      · rw [if_neg htime] at hbit
        rw [hsame] at hsub
        refine h.of_same hcoupled ?_ ?_ ?_ (hport.trans hbit) ?_
        · rw [hsub]; rfl
        · rw [hsub]; rfl
        · rw [hsub]; rfl
        · rintro ⟨-, -, -, hlate⟩
          exact htime hlate
  · -- a verdict enters `RESET` and begins the pulse
    have hnone : s.lateCall ty history (.processDaq ty info faultsSet clock) = none := by
      simp [lateCall, hreset]
    refine ⟨hcoupled, ?_, ?_⟩
    · intro hactual _ _
      simp only [pulseStep] at hactual ⊢
      rw [hsub] at hactual ⊢
      obtain ⟨hstart, hbit⟩ := Call.processPowerOn_enters_reset hreset hactual
      have hbefore : s.breakerBit ty = true :=
        breakerBit_of_coupled h.coupled fun hboth => hreset hboth.2
      rw [hport, hbit, hbefore, hstart]
      exact ⟨rfl, rfl⟩
    · intro _ late hlate
      simp only [pulseStep, hnone] at hlate
      exact absurd hlate (by simp)

/-- **One sound event keeps the invariant.** -/
theorem InPulse.step (h : InPulse ty x) (hsound : SoundPulse ty x e) :
    InPulse ty (pulseStep ty x e) := by
  obtain ⟨s, history⟩ := x
  have hcoupled := coupled_powerStep s e h.coupled
  rcases powerStep_cases ty s e with haccepts | hruns | ⟨hother, hkept⟩ | hdown
  · cases e with
    | setPowerOn ty' clock =>
        obtain ⟨rfl, haccepted⟩ := haccepts
        have hon := turnedOn_setPowerOn ty' clock s haccepted
        refine h.of_high hcoupled ?_ hon.breakerBit ?_
        · intro hactual
          rwa [powerStep, hon.sub] at hactual
        · intro hactual _
          rw [powerStep, hon.sub] at hactual
          exact hsound rfl haccepted hactual
    | setPowerOff ty' clock => exact haccepts.elim
    | processDaq ty' info faultsSet clock => exact haccepts.elim
    | elsewhere faultMgr currentState setupFinished => exact haccepts.elim
  · cases e with
    | setPowerOn ty' clock => exact hruns.elim
    | setPowerOff ty' clock => exact hruns.elim
    | elsewhere faultMgr currentState setupFinished => exact hruns.elim
    | processDaq ty' info faultsSet clock =>
        obtain ⟨rfl, htarg, hfree⟩ := hruns
        exact h.processDaq info faultsSet clock htarg hfree
  · obtain ⟨hsub, hbit⟩ := hkept
    exact h.of_same hcoupled (by rw [hsub]) (by rw [hsub]) (by rw [hsub]) hbit
      fun hcall => hother hcall.1
  · obtain ⟨htarg, hactual⟩ := hdown
    refine h.of_high hcoupled ?_ (breakerBit_of_coupled hcoupled fun hboth => htarg hboth.1)
      fun _ hon => absurd hon htarg
    intro hreset
    rcases hactual with hoff | hsame
    · rw [hoff] at hreset
      exact absurd hreset (by decide)
    · rw [← hsame, hreset]

/-- **One sound event judges after a lawful pulse.** -/
theorem InPulse.resetPulse (h : InPulse ty x) (hsound : SoundPulse ty x e) :
    ResetPulse ty x e := by
  cases e with
  | setPowerOn ty' clock => trivial
  | setPowerOff ty' clock => trivial
  | elsewhere faultMgr currentState setupFinished => trivial
  | processDaq ty' info faultsSet clock =>
      intro hty htarg hfree hjudged
      rw [processDaq_of_unhindered ty clock info faultsSet x.1 htarg hfree] at hjudged
      have hjudging := (Call.resets_processPowerOn htarg hjudged.1).judged hjudged
      obtain ⟨late, hlate, hlong⟩ := hsound hty htarg hfree hjudging
      obtain ⟨-, hrose, fell, hfell, hwidth⟩ := h.high hjudged.1 late hlate
      simp only [PulseHistory.LawfulPulse, hrose, hfell]
      exact ⟨hwidth, hlong⟩

/-- **The reset pulse.**  In a run in which no `setPowerOn` cuts a pulse short and no
read judges the breakers too soon after the bit was restored, the bit was low for
longer than the pulse width, and then high for longer than it, whenever a
`processDaq` ends `RESET` by judging the breakers. -/
theorem reset_pulse (ty : PowerSystemType) (s : System) (history : PulseHistory)
    (events : List PowerEvent) (hs : s.Coupled) (hstart : (s.sub ty).actualPowerState ≠ .reset)
    (hsound : Always (pulseStep ty) (SoundPulse ty) (s, history) events) :
    Always (pulseStep ty) (ResetPulse ty) (s, history) events := by
  have hinv : InPulse ty (s, history) :=
    ⟨hs, fun hreset => absurd hreset hstart, fun hreset => absurd hreset hstart⟩
  exact Always.imp (InPulse ty) (fun x e h hsound => ⟨h.step hsound, h.resetPulse hsound⟩) hinv
    hsound

/-- Comm power is turned on with one breaker tripped.  The tenth read, at 0.9 s,
starts a reset; then telemetry is read at the times `times`. -/
def resetReads (times : List ℚ) : List PowerEvent :=
  [.processDaq .comm ⟨0, 0, 0, 0, 0, 0⟩ 0 fun _ => ⟨0, 0⟩,
    .elsewhere (FaultMgr.new.reportComConnectionCount 1).1 .standby true,
    .setPowerOn .comm fun _ => ⟨0, 0⟩] ++
  (([0, 0.1, 0.2, 0.3, 0.4, 0.5, 0.6, 0.7, 0.8, 0.9] : List ℚ) ++ times).map fun time =>
    .processDaq .comm
      ⟨7, ~~~(BitVec.twoPow 32 InputPortBits.interlockPowerRelay |||
        BitVec.twoPow 32 InputPortBits.j1W12_1CommPwrBrkrOk), 24, 0, 24, 0⟩ 0
      fun _ => ⟨time, time⟩

/-- The bit is restored after 0.41 s and the breakers are judged 0.41 s later. -/
theorem reset_pulse_twoReads :
    Always (pulseStep .comm) (ResetPulse .comm) (new 7, ⟨none, none, none⟩)
      (resetReads [1.31, 1.72]) :=
  reset_pulse .comm (new 7) ⟨none, none, none⟩ (resetReads [1.31, 1.72]) (coupled_new 7)
    (by decide) (by decide +kernel)

/-- One read a second after the reset began restores the bit and judges at once. -/
theorem not_resetPulse_oneRead :
    ¬ Always (pulseStep .comm) (ResetPulse .comm) (new 7, ⟨none, none, none⟩)
      (resetReads [1.9]) := by
  decide +kernel

end System

end M2Cell
