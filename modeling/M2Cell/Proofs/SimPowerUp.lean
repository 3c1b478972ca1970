import M2Cell.Proofs.SimVoltage
import M2Cell.Proofs.SimBreakers

/-!
# The simulated hardware comes up

When the new output port asks for the power of a subsystem and leaves its breakers
alone, the iterations bring the voltage up and close the breaker.  An iteration that
has begun before may still work with the old output port, so the second one that
ends is the first that is certain to have read the new one (`Energizing`).

From then on the voltage follows a ramp, and the breaker is closed after
`breakerCloseTimeSec` (`Energized`).  A record that is new enough shows both.

A breaker closes when it has seen its reset bit high for long enough.  Before the step of the
breaker in an iteration that has read the bit nothing is known about it; after that step it is
`Closing`, and stays so as long as the bit is held (`closing_step`).  `energizing_step` follows
an iteration from the write on: it has read the new port, it has come past the breaker, it has
ended (`iterations_step`).  The record shows the power because the voltage and the breaker come
before the step that publishes (`Energized.showsPower_info`).
-/

namespace M2Cell

open SimPowerSubsystem PowerSubsystemConfig

namespace SimCore

variable {s : SimCore} {ty : PowerSystemType}

/-! ## Breakers whose inputs nobody writes -/

/-- The action begins no write of an input. -/
def WritesNoInput : SimAction → Prop
  | .beginWriteInputPortBit _ _ => False
  | _ => True

instance decidableWritesNoInput : ∀ a, Decidable (WritesNoInput a)
  | .beginWriteInputPortBit _ _ => inferInstanceAs (Decidable False)
  | .beginIteration _ => inferInstanceAs (Decidable True)
  | .perform => inferInstanceAs (Decidable True)
  | .writeBreakerBit => inferInstanceAs (Decidable True)
  | .setNewOutputPort _ => inferInstanceAs (Decidable True)
  | .writeNewOutputPortBit _ _ => inferInstanceAs (Decidable True)
  | .endWriteInputPortBit => inferInstanceAs (Decidable True)
  | .forceOverVoltage _ _ => inferInstanceAs (Decidable True)
  | .forceOverCurrent _ _ => inferInstanceAs (Decidable True)
  | .stop => inferInstanceAs (Decidable True)

theorem WritesNoInput.keepsInputs {a : SimAction} (h : WritesNoInput a) (ty : PowerSystemType) :
    KeepsInputs ty a := by
  cases a with
  | beginWriteInputPortBit pos set => exact h.elim
  | _ => trivial

/-- What holds of a breaker in every state. -/
structure BreakerOk (ty : PowerSystemType) (s : SimCore) : Prop where
  opens : (s.sub ty).breakerClosedTarg = false → (s.sub ty).breakerClosed = false
  since : (s.sub ty).breakerClosed = true ∨ (s.sub ty).breakerClosedTargTs ≤ s.timestamp
  inputs : s.Inputs ty
  alone : s.portWrite = none

theorem breakerOk_new (unset : SimInfo) (startTime : Time) :
    (new unset startTime).BreakerOk ty where
  opens h := absurd (show true = false from h) (by decide)
  since := Or.inl rfl
  inputs := inputs_of_open (pending_new unset startTime) nofun rfl
  alone := rfl

theorem portWrite_step (hs : s.portWrite = none) {a : SimAction} (ha : WritesNoInput a) :
    (s.step a).portWrite = none := by
  have hmove := portMove_step s a
  generalize s.step a = r at hmove
  cases hmove with
  | keep a r hports hwrites hwrite hnext => exact hwrite.trans hs
  | calcBreakers ty todo hnone htodo => exact hs
  | load hnone => exact hs
  | store inputPort pos set rest hloaded hwrites => exact hs
  | beginWrite pos set hnone hpos => exact ha.elim
  | endWrite write hwrite => rfl

theorem apart_of_alone (hs : s.portWrite = none) (a : SimAction) : s.Apart a := by
  cases a with
  | writeBreakerBit => exact fun _ => by rw [hs, Option.isNone_none]
  | _ => trivial

theorem breakerOk_step (hs : s.BreakerOk ty) {a : SimAction} (hforward : s.Forward a)
    (ha : WritesNoInput a) : (s.step a).BreakerOk ty := by
  have htime := timestamp_le_step hforward
  have hinputs := inputs_step hs.inputs (ha.keepsInputs ty) (apart_of_alone hs.alone a)
  have halone := portWrite_step hs.alone ha
  -- the step of this breaker, or one that leaves it alone
  obtain ⟨todo, rfl, hnone, htodo, hsub⟩ | ⟨-, hclosed, hprev, htarg, hsince⟩ := breaker_step ty s a
  · rw [calcBreakers_eq _ _ _ _ rfl] at hsub
    generalize OutputPortBits.getBitAtPos s.outputPort (breakerResetPos ty) = reset at hsub
    refine ⟨fun hlow => ?_, ?_, hinputs, halone⟩
    · rw [hsub] at hlow ⊢
      dsimp only at hlow ⊢
      rw [closes, hlow, Bool.false_and]
    · rw [hsub]
      by_cases hsame : reset = (s.sub ty).breakerClosedTarg
      · obtain hbefore | hbefore := hs.since
        · have hnot : ¬ (s.sub ty).breakerClosedTarg = false := fun hlow => by
            rw [hs.opens hlow] at hbefore
            exact absurd hbefore (by decide)
          left
          have htarg : (s.sub ty).breakerClosedTarg = true := by simpa using hnot
          simp [closes, hsame, hbefore, htarg]
        · right
          rw [resetSince, if_pos hsame]
          exact hbefore.trans htime
      · right
        rw [resetSince, if_neg hsame]
        exact htime
  · refine ⟨?_, ?_, hinputs, halone⟩
    · rw [htarg, hclosed]
      exact hs.opens
    · rw [hclosed, hsince]
      exact hs.since.imp_right fun h => h.trans htime

/-! ## Closing a breaker -/

/-- The breaker has seen the reset bit high, and is closed as soon as that is long enough ago. -/
structure Closing (ty : PowerSystemType) (s : SimCore) : Prop where
  targ : (s.sub ty).breakerClosedTarg = true
  prev : (s.sub ty).breakerClosedPrev = (s.sub ty).breakerClosed
  closes : .calcBreakers ty ∉ s.todo → (s.sub ty).breakerClosed = true ∨
    s.timestamp - (s.sub ty).breakerClosedTargTs ≤ breakerCloseTimeSec ty

/-- Outside its own step a breaker does not get older. -/
theorem not_mem_todo_of_step {a : SimAction}
    (hother : a = .perform → s.next ≠ some (.calcBreakers ty))
    (hdone : .calcBreakers ty ∉ (s.step a).todo) :
    .calcBreakers ty ∉ s.todo ∧ (s.step a).timestamp = s.timestamp ∧
      ((s.step a).todo ≠ [] → s.todo ≠ []) := by
  have hmoves := moves_step s a
  generalize s.step a = r at hmoves hdone
  cases hmoves with
  | begins timestamp hidle =>
      have hmem : SimStep.calcBreakers ty ∈ iterationSteps := by cases ty <;> decide
      exact absurd hmem hdone
  | performs next todo hnone htodo =>
      have hne : SimStep.calcBreakers ty ≠ next := by
        intro h
        apply hother rfl
        rw [next_eq hnone htodo, h]
      refine ⟨?_, timestamp_performStep, fun _ => htodo ▸ List.cons_ne_nil _ _⟩
      rw [htodo, List.mem_cons, not_or]
      exact ⟨hne, hdone⟩
  | outside a r hnext hkeeps =>
      rw [hkeeps.todo] at hdone ⊢
      exact ⟨hdone, hkeeps.timestamp, id⟩

/-- The step of the breaker, with the reset bit high. -/
theorem closing_calcBreakers {todo : List SimStep} (hnone : s.breakerWrites = [])
    (htodo : s.todo = .calcBreakers ty :: todo)
    (hreset : OutputPortBits.getBitAtPos s.outputPort (breakerResetPos ty) = true)
    (hsub : (s.step .perform).sub ty =
      ((s.sub ty).calcBreakers ty s.outputPort s.timestamp).1) :
    (s.step .perform).Closing ty := by
  rw [calcBreakers_eq _ _ _ _ hreset] at hsub
  have htime : (s.step .perform).timestamp = s.timestamp := by
    rw [step_perform hnone htodo, timestamp_performStep]
  refine ⟨by rw [hsub], by rw [hsub], fun _ => ?_⟩
  rw [hsub, htime]
  dsimp only
  by_cases hlate : timePassedSec ((s.sub ty).resetSince true s.timestamp) s.timestamp >
      breakerCloseTimeSec ty
  · left
    simp [closes, hlate]
  · right
    exact not_lt.mp hlate

theorem closing_step (hs : s.Closing ty) (hordered : s.Ordered)
    (hreset : s.Held (breakerResetPos ty) true) (a : SimAction) : (s.step a).Closing ty := by
  obtain ⟨todo, rfl, hnone, htodo, hsub⟩ | ⟨hother, hclosed, hprev, htarg, hsince⟩ :=
    breaker_step ty s a
  · exact closing_calcBreakers hnone htodo (hreset.at_step hordered htodo (by simp)) hsub
  · refine ⟨htarg.trans hs.targ, ?_, fun hdone => ?_⟩
    · rw [hprev, hclosed, hs.prev]
    · obtain ⟨hbefore, htime, -⟩ := not_mem_todo_of_step hother hdone
      rw [hclosed, hsince, htime]
      exact hs.closes hbefore

/-! ## The first iterations after a write -/

/-- The new output port asks for the power, and `written` iterations had ended when it did so. -/
structure Energizing (ty : PowerSystemType) (written : ℕ) (s : SimCore) : Prop where
  power : OutputPortBits.getBitAtPos s.newOutput (powerOnBitPos ty) = true
  reset : OutputPortBits.getBitAtPos s.newOutput (breakerResetPos ty) = true
  held : written < s.iterations →
    s.Held (powerOnBitPos ty) true ∧ s.Held (breakerResetPos ty) true
  closing : written + 1 < s.iterations ∨
    written < s.iterations ∧ s.todo ≠ [] ∧ .calcBreakers ty ∉ s.todo → s.Closing ty

theorem energizing_start (hpower : OutputPortBits.getBitAtPos s.newOutput (powerOnBitPos ty) = true)
    (hreset : OutputPortBits.getBitAtPos s.newOutput (breakerResetPos ty) = true) :
    s.Energizing ty s.iterations where
  power := hpower
  reset := hreset
  held h := absurd h (lt_irrefl _)
  closing h := by omega

/-- An iteration ends, or the count stays. -/
theorem iterations_step (hs : s.Ordered) (a : SimAction) :
    (s.step a).iterations = s.iterations ∨
      (s.step a).iterations = s.iterations + 1 ∧ s.todo = [.advance] ∧ (s.step a).todo = [] := by
  have hmoves := moves_step s a
  generalize s.step a = r at hmoves
  cases hmoves with
  | begins timestamp hidle => exact Or.inl rfl
  | performs next todo hnone htodo =>
      have hsuffix := hs.todo
      rw [htodo] at hsuffix
      have hlast := (iterationSteps_spec hsuffix).2.2.1
      simp only [iterations_performStep]
      split_ifs with hnext
      · have hnil := hlast.mpr hnext
        exact Or.inr ⟨rfl, by rw [htodo, hnext, hnil], hnil⟩
      · exact Or.inl rfl
  | outside a r hnext hkeeps => exact Or.inl hkeeps.iterations

variable {written : ℕ}

theorem energizing_step (hs : s.Energizing ty written) (hordered : s.Ordered) {a : SimAction}
    (hpower : KeepsBit (powerOnBitPos ty) true a) (hreset : KeepsBit (breakerResetPos ty) true a) :
    (s.step a).Energizing ty written := by
  have hpower' := newOutput_keeps hs.power hpower
  have hreset' := newOutput_keeps hs.reset hreset
  refine ⟨hpower', hreset', fun h => ?_, fun h => ?_⟩
  · obtain hsame | ⟨-, -, hidle⟩ := iterations_step hordered a
    · obtain ⟨hheld, hheld'⟩ := hs.held (hsame ▸ h)
      exact ⟨held_step hheld hpower, held_step hheld' hreset⟩
    · exact ⟨held_of_idle hidle hpower', held_of_idle hidle hreset'⟩
  · obtain hsame | ⟨hcount, hlast, hidle⟩ := iterations_step hordered a
    · rw [hsame] at h
      have hheld : s.Held (breakerResetPos ty) true := by
        apply (hs.held _).2
        omega
      -- whole iterations have gone by, or this one has come past the breaker
      obtain hmany | ⟨hsome, hbusy, hdone⟩ := h
      · exact closing_step (hs.closing (Or.inl hmany)) hordered hheld a
      · obtain ⟨todo, rfl, hnone, htodo, hsub⟩ | ⟨hother, -⟩ := breaker_step ty s a
        · exact closing_calcBreakers hnone htodo (hheld.at_step hordered htodo (by simp)) hsub
        · obtain ⟨hbefore, -, hbusy'⟩ := not_mem_todo_of_step hother hdone
          have hclosing := hs.closing (Or.inr ⟨hsome, hbusy' hbusy, hbefore⟩)
          exact closing_step hclosing hordered hheld a
    · have hsome : written < s.iterations := by
        rw [hcount, hidle] at h
        obtain hmany | ⟨-, hbusy, -⟩ := h
        · omega
        · exact absurd rfl hbusy
      have hclosing := hs.closing (Or.inr ⟨hsome, by simp [hlast], by simp [hlast]⟩)
      exact closing_step hclosing hordered (hs.held hsome).2 a

/-! ## Powered hardware -/

/-- What a record of powered hardware shows, besides its voltage. -/
structure ShowsPower (ty : PowerSystemType) (start : Time) (info : SimInfo) : Prop where
  relay : OutputPortBits.getBitAtPos info.outputPort (powerOnBitPos ty) = true
  breakers : breakerCloseTimeSec ty < info.timestamp - start → InputsHigh ty info.inputPort

/-- The hardware has worked with the power bit and the reset bit high since the time `start`,
when the voltage had been computed `count` times. -/
structure Energized (ty : PowerSystemType) (start : Time) (first : ℚ) (count : ℕ) (before : SimInfo)
    (s : SimCore) : Prop where
  ramping : s.Ramping ty true start first count before
  reset : s.Held (breakerResetPos ty) true
  closing : s.Closing ty
  since : (s.sub ty).breakerClosed = true ∨ (s.sub ty).breakerClosedTargTs ≤ start
  inputs : s.Inputs ty
  alone : s.portWrite = none
  record : s.simInfo = before ∨ ShowsPower ty start s.simInfo

/-- When two iterations have ended since the write, the hardware is powered. -/
theorem Energizing.energized (hs : s.Energizing ty written) (hbounded : s.Bounded ty)
    (hok : s.BreakerOk ty) (hidle : s.todo = []) (htwo : written + 2 ≤ s.iterations) :
    s.Energized ty s.timestamp (s.sub ty).voltage s.iterations s.simInfo := by
  obtain ⟨hpower, hreset⟩ := hs.held (by omega)
  have hramping := ramping_start hbounded hpower
  rw [voltageTime_of_nil hidle, voltageCount_of_nil hidle] at hramping
  exact ⟨hramping, hreset, hs.closing (Or.inl (by omega)), hok.since, hok.inputs, hok.alone,
    Or.inl rfl⟩

variable {start : Time} {first : ℚ} {count : ℕ} {before : SimInfo}

/-- The record that an iteration of powered hardware publishes. -/
theorem Energized.showsPower_info (hs : s.Energized ty start first count before)
    {todo : List SimStep} (hnone : s.breakerWrites = []) (htodo : s.todo = .publish :: todo) :
    ShowsPower ty start s.info := by
  have hordered := hs.ramping.bounded.ordered
  have hsuffix := hordered.todo
  rw [htodo] at hsuffix
  have hdone : .calcBreakers ty ∉ s.todo := by
    rw [htodo, (iterationSteps_spec hsuffix).2.2.2.mp rfl]
    simp
  refine ⟨hs.ramping.powered.at_step hordered htodo (by simp), fun hlate => ?_⟩
  change breakerCloseTimeSec ty < s.timestamp - start at hlate
  have hclosed : (s.sub ty).breakerClosed = true := by
    -- an open breaker would have been high for long enough
    obtain hclosed | hsince := hs.since
    · exact hclosed
    · obtain hclosed | hyoung := hs.closing.closes hdone
      · exact hclosed
      · have hlong : breakerCloseTimeSec ty < s.timestamp - (s.sub ty).breakerClosedTargTs :=
          hlate.trans_le (sub_le_sub_left hsince _)
        exact absurd hyoung (not_le.mpr hlong)
  exact hs.inputs.inputsHigh (hs.closing.prev.trans hclosed) hnone

/-- **One action on powered hardware.** -/
theorem energized_step (hs : s.Energized ty start first count before) {a : SimAction}
    (hforward : s.Forward a) (hallows : AllowsVoltage ty a)
    (hpower : KeepsBit (powerOnBitPos ty) true a) (hreset : KeepsBit (breakerResetPos ty) true a)
    (ha : WritesNoInput a) : (s.step a).Energized ty start first count before := by
  have hordered := hs.ramping.bounded.ordered
  have hrecord : (s.step a).simInfo = before ∨ ShowsPower ty start (s.step a).simInfo := by
    obtain hsame | ⟨⟨todo, -, hnone, htodo⟩, hinfo⟩ := simInfo_step s a
    · rw [hsame]
      exact hs.record
    · rw [hinfo]
      exact Or.inr (hs.showsPower_info hnone htodo)
  refine ⟨ramping_step hs.ramping hforward hallows hpower, held_step hs.reset hreset,
    closing_step hs.closing hordered hs.reset a, ?_,
    inputs_step hs.inputs (ha.keepsInputs ty) (apart_of_alone hs.alone a),
    portWrite_step hs.alone ha, hrecord⟩
  obtain ⟨todo, -, -, htodo, hsub⟩ | ⟨-, hclosed, -, -, hsince⟩ := breaker_step ty s a
  · have hbit := hs.reset.at_step hordered htodo (by simp)
    rw [hsub, calcBreakers_eq _ _ _ _ hbit]
    dsimp only
    rw [resetSince, if_pos hs.closing.targ.symm]
    exact hs.since.imp_left fun hclosed => by simp [closes, hclosed]
  · rw [hclosed, hsince]
    exact hs.since

end SimCore

end M2Cell
