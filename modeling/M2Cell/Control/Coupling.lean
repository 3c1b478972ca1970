import M2Cell.Control.PowerSubsystem

/-!
# Targets and output bits

Two output bits belong to a subsystem: the power bit and the (active low) reset
bit of its breakers.  `Coupled` says that they agree with its target: power is
on exactly when the target is `ON`, and the breakers are only being reset while
the subsystem is in `RESET` on its way to `ON`.

`Follows` is what the state machine may do during one DAQ call.  It turns the
target off or keeps it, writes no output bit but its own two, only adds faults,
and it keeps `Coupled`.  The relation is transitive and every piece of the state
machine satisfies it, so `follows_processTarg` is put together from the pieces in
the order in which the source runs them.
-/

namespace M2Cell

open PowerSubsystemConfig

/-- The output bits of a subsystem agree with its target. -/
structure Coupled (ty : PowerSystemType) (sub : PowerSubsystem) (port : OutputPortBits) :
    Prop where
  targ : sub.targPowerState = .on ∨ sub.targPowerState = .off
  power : OutputPortBits.getBitAtPos port (psCfg ty).outputPowerOnBitPos = true ↔
    sub.targPowerState = .on
  reset : OutputPortBits.getBitAtPos port (psCfg ty).outputBreakerBitPos = false →
    sub.targPowerState = .on ∧ sub.actualPowerState = .reset

namespace Coupled

variable {ty : PowerSystemType} {sub : PowerSubsystem} {port : OutputPortBits}

theorem power_off (h : Coupled ty sub port) (htarg : sub.targPowerState = .off) :
    OutputPortBits.getBitAtPos port (psCfg ty).outputPowerOnBitPos = false := by
  have hne : ¬ sub.targPowerState = .on := by simp [htarg]
  simpa using mt h.power.mp hne

theorem targ_off (h : Coupled ty sub port)
    (hbit : OutputPortBits.getBitAtPos port (psCfg ty).outputPowerOnBitPos = false) :
    sub.targPowerState = .off := by
  rcases h.targ with hon | hoff
  · simp [h.power.mpr hon] at hbit
  · exact hoff

/-- Only the target, the actual state and the two bits matter. -/
theorem congr {sub' : PowerSubsystem} {port' : OutputPortBits} (h : Coupled ty sub port)
    (htarg : sub'.targPowerState = sub.targPowerState)
    (hactual : sub'.actualPowerState = sub.actualPowerState)
    (hpower : OutputPortBits.getBitAtPos port' (psCfg ty).outputPowerOnBitPos =
      OutputPortBits.getBitAtPos port (psCfg ty).outputPowerOnBitPos)
    (hreset : OutputPortBits.getBitAtPos port' (psCfg ty).outputBreakerBitPos =
      OutputPortBits.getBitAtPos port (psCfg ty).outputBreakerBitPos) :
    Coupled ty sub' port' where
  targ := by rw [htarg]; exact h.targ
  power := by rw [htarg, hpower]; exact h.power
  reset := by rw [htarg, hactual, hreset]; exact h.reset

end Coupled

namespace Call

variable {ty : PowerSystemType}

/-- `setPowerOff` couples any state. -/
theorem coupled_setPowerOff (c : Call) (stamp : Time) :
    Coupled ty (c.setPowerOff ty stamp).sub (c.setPowerOff ty stamp).outputPort where
  targ := by simp
  power := by simp
  reset := by simp [(outputBits_disjoint ty).1.symm]

/-- A `setPowerOn` that returns true sets the target; any other turns it off. -/
theorem setPowerOn_spec (c : Call) (faults : Bool) (stamp : Time) :
    (c.setPowerOn ty faults stamp).2 = (!faults && c.sub.getCrioReadyOutputOn ty) ∧
      ((c.setPowerOn ty faults stamp).1.sub.targPowerState =
        if (c.setPowerOn ty faults stamp).2 then .on else .off) ∧
      Coupled ty (c.setPowerOn ty faults stamp).1.sub
        (c.setPowerOn ty faults stamp).1.outputPort := by
  unfold setPowerOn
  cases faults with
  | true => exact ⟨rfl, by simp, coupled_setPowerOff c stamp⟩
  | false =>
      cases hready : c.sub.getCrioReadyOutputOn ty with
      | false => exact ⟨rfl, by simp, by simpa using coupled_setPowerOff c stamp⟩
      | true =>
          refine ⟨rfl, by simp, ?_⟩
          constructor <;> simp [writeOutputPortBitPos, (outputBits_disjoint ty).1.symm]

/-- `setPowerOn` writes only the two bits of the subsystem. -/
theorem port_setPowerOn (c : Call) (faults : Bool) (stamp : Time) (pos : Fin 8)
    (hpower : pos ≠ (psCfg ty).outputPowerOnBitPos)
    (hreset : pos ≠ (psCfg ty).outputBreakerBitPos) :
    OutputPortBits.getBitAtPos (c.setPowerOn ty faults stamp).1.outputPort pos =
      OutputPortBits.getBitAtPos c.outputPort pos := by
  unfold setPowerOn
  split_ifs <;> simp [writeOutputPortBitPos, hpower, hreset]

/-! ## What the state machine may do -/

/-- What the state machine of a subsystem may do during one DAQ call. -/
structure Follows (ty : PowerSystemType) (c r : Call) : Prop where
  sysInfo : r.sub.sysInfo = c.sub.sysInfo
  targPrev : r.sub.targPowerStatePrev = c.sub.targPowerStatePrev
  actualPrev : r.sub.actualPowerStatePrev = c.sub.actualPowerStatePrev
  context : r.sub.context = c.sub.context
  targ : r.sub.targPowerState = c.sub.targPowerState ∨ r.sub.targPowerState = .off
  /-- No case of the state machine enters `TURNING_OFF`. -/
  actual : c.sub.actualPowerState ≠ .turningOff → r.sub.actualPowerState ≠ .turningOff
  port : ∀ pos, pos ≠ (psCfg ty).outputPowerOnBitPos → pos ≠ (psCfg ty).outputBreakerBitPos →
    OutputPortBits.getBitAtPos r.outputPort pos = OutputPortBits.getBitAtPos c.outputPort pos
  faults : Word.Within c.faultsSet r.faultsSet
  /-- Whenever the target goes off the power bit goes low. -/
  power :
    (c.sub.targPowerState = .off →
      OutputPortBits.getBitAtPos c.outputPort (psCfg ty).outputPowerOnBitPos = false) →
    r.sub.targPowerState = .off →
      OutputPortBits.getBitAtPos r.outputPort (psCfg ty).outputPowerOnBitPos = false
  /-- A low power bit stays low, whatever the target is. -/
  low : OutputPortBits.getBitAtPos c.outputPort (psCfg ty).outputPowerOnBitPos = false →
    OutputPortBits.getBitAtPos r.outputPort (psCfg ty).outputPowerOnBitPos = false
  coupled : Coupled ty c.sub c.outputPort → Coupled ty r.sub r.outputPort

namespace Follows

variable {c d r : Call}

theorem refl (c : Call) : Follows ty c c :=
  ⟨rfl, rfl, rfl, rfl, Or.inl rfl, id, fun _ _ _ => rfl, Word.Within.refl _, id, id, id⟩

theorem trans (h : Follows ty c d) (h' : Follows ty d r) : Follows ty c r where
  sysInfo := h'.sysInfo.trans h.sysInfo
  targPrev := h'.targPrev.trans h.targPrev
  actualPrev := h'.actualPrev.trans h.actualPrev
  context := h'.context.trans h.context
  targ := by
    rcases h'.targ with hsame | hoff
    · rw [hsame]; exact h.targ
    · exact Or.inr hoff
  actual hc := h'.actual (h.actual hc)
  port pos hpower hreset := (h'.port pos hpower hreset).trans (h.port pos hpower hreset)
  faults := h.faults.trans h'.faults
  power hc := h'.power (h.power hc)
  low hc := h'.low (h.low hc)
  coupled hc := h'.coupled (h.coupled hc)

/-- A target that is off stays off. -/
theorem targ_off (h : Follows ty c r) (htarg : c.sub.targPowerState = .off) :
    r.sub.targPowerState = .off := by
  rcases h.targ with hsame | hoff
  · rw [hsame, htarg]
  · exact hoff

/-- A target that is on at the end was on all along. -/
theorem targ_on (h : Follows ty c r) (htarg : r.sub.targPowerState = .on) :
    c.sub.targPowerState = .on := by
  rcases h.targ with hsame | hoff
  · rw [← hsame, htarg]
  · simp [hoff] at htarg

theorem ite {p : Prop} [Decidable p] (hd : Follows ty c d) (hr : Follows ty c r) :
    Follows ty c (if p then d else r) := by
  split
  · exact hd
  · exact hr

end Follows

/-! ### The small operations -/

section pieces

variable (c : Call)

theorem follows_setPowerOff (stamp : Time) : Follows ty c (c.setPowerOff ty stamp) where
  sysInfo := by simp
  targPrev := by simp
  actualPrev := by simp
  context := by simp
  targ := by simp
  actual := by simp
  port pos hpower hreset := by simp [hpower, hreset]
  faults := by rw [faultsSet_setPowerOff]; exact Word.Within.refl _
  power := by simp
  low := by simp
  coupled _ := coupled_setPowerOff c stamp

theorem follows_setFault (pos : FaultBit) : Follows ty c (c.setFault pos) where
  sysInfo := rfl
  targPrev := rfl
  actualPrev := rfl
  context := rfl
  targ := Or.inl rfl
  actual := id
  port _ _ _ := rfl
  faults other hother := by simp [hother]
  power hc := hc
  low hc := hc
  coupled hc := hc

/-- A new actual state keeps the coupling unless the breakers are being reset. -/
theorem follows_enter {actual : PowerState}
    (hreset : OutputPortBits.getBitAtPos c.outputPort (psCfg ty).outputBreakerBitPos = true ∨
      c.sub.actualPowerState ≠ .reset ∨ actual = .reset)
    (hactual : actual = c.sub.actualPowerState ∨ actual ≠ .turningOff) (phase : ℤ) (time : Time) :
    Follows ty c (c.enter actual phase time) where
  sysInfo := rfl
  targPrev := rfl
  actualPrev := rfl
  context := rfl
  targ := Or.inl rfl
  actual hc := by
    rcases hactual with hsame | hne
    · rw [actualPowerState_enter, hsame]
      exact hc
    · exact hne
  port _ _ _ := rfl
  faults := Word.Within.refl _
  power hc := hc
  low hc := hc
  coupled hc :=
    { targ := hc.targ
      power := hc.power
      reset := fun hlow => by
        have hold := hc.reset hlow
        rcases hreset with hhigh | hne | heq
        · rw [outputPort_enter] at hlow
          simp [hhigh] at hlow
        · exact absurd hold.2 hne
        · exact ⟨hold.1, heq⟩ }

/-- Writing the phase alone keeps the coupling. -/
theorem follows_enter_same (phase : ℤ) (time : Time) :
    Follows ty c (c.enter c.sub.actualPowerState phase time) := by
  by_cases hreset : c.sub.actualPowerState = .reset
  · exact follows_enter c (Or.inr (Or.inr hreset)) (Or.inl rfl) phase time
  · exact follows_enter c (Or.inr (Or.inl hreset)) (Or.inl rfl) phase time

/-- The reset bit may always be written high. -/
theorem follows_writeReset_high :
    Follows ty c (c.writeOutputPortBitPos (psCfg ty).outputBreakerBitPos true) where
  sysInfo := rfl
  targPrev := rfl
  actualPrev := rfl
  context := rfl
  targ := Or.inl rfl
  actual := id
  port pos _ hreset := by simp [hreset]
  faults := Word.Within.refl _
  power := by simp [(outputBits_disjoint ty).1]
  low := by simp [(outputBits_disjoint ty).1]
  coupled hc :=
    { targ := hc.targ
      power := by simpa [(outputBits_disjoint ty).1] using hc.power
      reset := by simp }

/-- The reset bit may be written low on the way to `ON` in `RESET`. -/
theorem follows_writeReset_low (htarg : c.sub.targPowerState = .on)
    (hactual : c.sub.actualPowerState = .reset) :
    Follows ty c (c.writeOutputPortBitPos (psCfg ty).outputBreakerBitPos false) where
  sysInfo := rfl
  targPrev := rfl
  actualPrev := rfl
  context := rfl
  targ := Or.inl rfl
  actual := id
  port pos _ hreset := by simp [hreset]
  faults := Word.Within.refl _
  power := by simp [(outputBits_disjoint ty).1]
  low := by simp [(outputBits_disjoint ty).1]
  coupled hc :=
    { targ := hc.targ
      power := by simpa [(outputBits_disjoint ty).1] using hc.power
      reset := fun _ => ⟨htarg, hactual⟩ }

/-! ### The state machine -/

theorem follows_powerShouldBeOn : Follows ty c (c.powerShouldBeOn ty) := by
  unfold powerShouldBeOn
  exact .ite (.ite (.refl c) (follows_setFault c _)) (.refl c)

theorem follows_updateFaults (stamp : Time) : Follows ty c (c.updateFaults ty stamp) :=
  ((follows_setFault c _).trans (follows_setFault _ _)).trans (follows_setPowerOff _ stamp)

theorem follows_checkForPowerOnBreakerFault (stamp : Time) (voltage : ℚ) :
    Follows ty c (c.checkForPowerOnBreakerFault ty stamp voltage).1 := by
  unfold checkForPowerOnBreakerFault
  dsimp only
  split_ifs
  · exact .refl c
  · exact (follows_setFault c _).trans (follows_setPowerOff _ stamp)
  · exact follows_setFault c _
  · exact follows_updateFaults c stamp

theorem follows_processOnPhase (clock : Clock) (voltage : ℚ) :
    Follows ty c (c.processOnPhase ty clock voltage) := by
  unfold processOnPhase
  have hwarn : Follows ty c
      (if voltage < (psCfg ty).minVoltageWarn then c.setFault (psCfg ty).voltageWarn else c) :=
    .ite (follows_setFault c _) (.refl c)
  refine .ite (.ite (follows_enter_same c _ _) (.refl c)) (.ite (.ite ?_ hwarn) (.refl c))
  exact (hwarn.trans (follows_setFault _ _)).trans (follows_setPowerOff _ _)

theorem follows_processOn (clock : Clock) (outputIsOn : Bool) (voltage : ℚ) :
    Follows ty c (c.processOn ty clock outputIsOn voltage) := by
  have hcheck : Follows ty c (c.checkForPowerOnBreakerFault ty clock.stamp voltage).1 :=
    follows_checkForPowerOnBreakerFault c clock.stamp voltage
  unfold processOn
  refine .ite (follows_setPowerOff c _) (.ite ?_ ?_)
  · exact hcheck.trans (follows_setPowerOff _ _)
  · exact hcheck.trans (follows_processOnPhase _ clock voltage)

theorem follows_countTelemetry (clock : Clock) : Follows ty c (c.countTelemetry clock) := by
  have hcount : Follows ty c
      { c with sub := { c.sub with telemCounter := c.sub.telemCounter + 1 } } :=
    ⟨rfl, rfl, rfl, rfl, Or.inl rfl, id, fun _ _ _ => rfl, Word.Within.refl _, id, id,
      fun hc => hc.congr rfl rfl rfl rfl⟩
  unfold countTelemetry
  exact .ite (.ite (hcount.trans (follows_enter_same _ _ _)) hcount) (.refl c)

/-- Counting changes neither the target nor the actual state. -/
@[simp] theorem targPowerState_countTelemetry (clock : Clock) :
    (c.countTelemetry clock).sub.targPowerState = c.sub.targPowerState := by
  unfold countTelemetry
  dsimp only
  split_ifs <;> rfl

@[simp] theorem actualPowerState_countTelemetry (clock : Clock) :
    (c.countTelemetry clock).sub.actualPowerState = c.sub.actualPowerState := by
  unfold countTelemetry
  dsimp only
  split_ifs <;> rfl

theorem follows_processBreakers (clock : Clock) (voltage : ℚ)
    (htarg : c.sub.targPowerState = .on) (hactual : c.sub.actualPowerState ≠ .reset) :
    Follows ty c (c.processBreakers ty clock voltage) := by
  unfold processBreakers
  refine .ite (follows_updateFaults c _) (.ite ?_ ?_)
  · exact follows_enter c (Or.inr (Or.inl hactual)) (Or.inr (by decide)) _ _
  · have henter : Follows ty c (c.enter .reset 1 clock.now) :=
      follows_enter c (Or.inr (Or.inr rfl)) (Or.inr (by decide)) _ _
    exact henter.trans (follows_writeReset_low _ htarg rfl)

theorem follows_processTurningOn (clock : Clock) (outputIsOn : Bool) (voltage : ℚ)
    (htarg : c.sub.targPowerState = .on) (hactual : c.sub.actualPowerState ≠ .reset) :
    Follows ty c (c.processTurningOn ty clock outputIsOn voltage) := by
  have hcount : Follows ty c (c.countTelemetry clock) := follows_countTelemetry c clock
  unfold processTurningOn
  refine .ite (hcount.trans (follows_setPowerOff _ _))
    (.ite (.ite ?_ hcount) (.ite ?_ hcount))
  · refine (hcount.trans (follows_enter_same _ _ _)).trans (follows_processBreakers _ clock _ ?_ ?_)
    · simpa using htarg
    · simpa using hactual
  · refine hcount.trans (follows_processBreakers _ clock _ ?_ ?_)
    · simpa using htarg
    · simpa using hactual

theorem follows_processReset (clock : Clock) (outputIsOn : Bool) (voltage : ℚ) :
    Follows ty c (c.processReset ty clock outputIsOn voltage) := by
  have hhigh : Follows ty c (c.writeOutputPortBitPos (psCfg ty).outputBreakerBitPos true) :=
    follows_writeReset_high c
  have hcheck := hhigh.trans (follows_checkForPowerOnBreakerFault _ clock.stamp voltage)
  unfold processReset
  refine .ite (hhigh.trans (follows_setPowerOff _ _))
    (.ite (follows_updateFaults c _) (.ite (.ite (.ite hcheck ?_) hhigh) (.refl c)))
  -- the reset bit was restored before the breakers were checked again
  refine hcheck.trans (follows_enter _ (Or.inl ?_) (Or.inr (by decide)) _ _)
  unfold checkForPowerOnBreakerFault
  dsimp only
  split_ifs <;> simp [updateFaults, (outputBits_disjoint ty).1.symm]

theorem follows_processActual (clock : Clock) (outputIsOn : Bool) (voltage : ℚ)
    (htarg : c.sub.targPowerState = .on) :
    Follows ty c (c.processActual ty clock outputIsOn voltage) := by
  unfold processActual
  cases hactual : c.sub.actualPowerState with
  | on => exact follows_processOn c clock outputIsOn voltage
  | off =>
      have henter : Follows ty c (c.enter .turningOn 1 clock.now) :=
        follows_enter c (Or.inr (Or.inl (by simp [hactual]))) (Or.inr (by decide)) _ _
      exact henter.trans (follows_processTurningOn _ clock outputIsOn voltage htarg (by simp))
  | turningOff =>
      have henter : Follows ty c (c.enter .turningOn 1 clock.now) :=
        follows_enter c (Or.inr (Or.inl (by simp [hactual]))) (Or.inr (by decide)) _ _
      exact henter.trans (follows_processTurningOn _ clock outputIsOn voltage htarg (by simp))
  | turningOn =>
      exact follows_processTurningOn c clock outputIsOn voltage htarg (by simp [hactual])
  | reset => exact follows_processReset c clock outputIsOn voltage
  | unknown => exact follows_setPowerOff c _

theorem follows_processPowerOn (clock : Clock) (htarg : c.sub.targPowerState = .on) :
    Follows ty c (c.processPowerOn ty clock) := by
  have hstart : Follows ty c (c.powerShouldBeOn ty) := follows_powerShouldBeOn c
  unfold processPowerOn
  generalize hd : c.powerShouldBeOn ty = d at hstart
  have htargd : d.sub.targPowerState = .on := by
    rw [← hd]
    unfold powerShouldBeOn
    split_ifs <;> exact htarg
  have hwarn : Follows ty c (if d.sub.getVoltage ty > (psCfg ty).maxVoltageWarn
      then d.setFault (psCfg ty).voltageWarn else d) :=
    .ite (hstart.trans (follows_setFault _ _)) hstart
  refine .ite ((hstart.trans (follows_setFault _ _)).trans (follows_setPowerOff _ _))
    (.ite ((hwarn.trans (follows_setFault _ _)).trans (follows_setPowerOff _ _)) ?_)
  refine hwarn.trans (follows_processActual _ clock _ _ ?_)
  split_ifs <;> exact htargd

theorem follows_processTurningOff (clock : Clock) (htarg : c.sub.targPowerState = .off) :
    Follows ty c (c.processTurningOff ty clock) := by
  have hfaults : Follows ty c
      ((c.setFault (psCfg ty).relayFault).setFault (psCfg ty).relayInUse) :=
    (follows_setFault c _).trans (follows_setFault _ _)
  unfold processTurningOff
  refine .ite ?_ (.ite (hfaults.trans (follows_setPowerOff _ _)) (.refl c))
  exact
    { sysInfo := rfl
      targPrev := rfl
      actualPrev := rfl
      context := rfl
      targ := Or.inl rfl
      actual := by simp
      port := fun _ _ _ => rfl
      faults := Word.Within.refl _
      power := id
      low := id
      coupled := fun hc =>
        { targ := hc.targ
          power := hc.power
          reset := fun hlow => by simp [(hc.reset hlow).1] at htarg } }

theorem follows_processPowerOff (clock : Clock) (htarg : c.sub.targPowerState = .off) :
    Follows ty c (c.processPowerOff ty clock) := by
  have hoff : Follows ty c (c.setPowerOff ty clock.stamp) := follows_setPowerOff c _
  have hfall : Follows ty c
      (((c.setPowerOff ty clock.stamp).enter (c.setPowerOff ty clock.stamp).sub.actualPowerState
        (c.setPowerOff ty clock.stamp).sub.phase clock.now).processTurningOff ty clock) :=
    (hoff.trans (follows_enter_same _ _ _)).trans (follows_processTurningOff _ clock (by simp))
  unfold processPowerOff
  refine .ite hoff ?_
  cases hactual : c.sub.actualPowerState with
  | off => exact .refl c
  | turningOff => exact follows_processTurningOff c clock htarg
  | unknown => exact hfall
  | turningOn => exact hfall
  | reset => exact hfall
  | on => exact hfall

/-- **The state machine of `processDaq`.** -/
theorem follows_processTarg (clock : Clock) : Follows ty c (c.processTarg ty clock) := by
  have hinvalid : Follows ty c ((c.setPowerOff ty clock.stamp).processPowerOff ty clock) :=
    (follows_setPowerOff c _).trans (follows_processPowerOff _ clock (by simp))
  unfold processTarg
  cases htarg : c.sub.targPowerState with
  | on => exact follows_processPowerOn c clock htarg
  | off => exact follows_processPowerOff c clock htarg
  | unknown => exact hinvalid
  | turningOn => exact hinvalid
  | reset => exact hinvalid
  | turningOff => exact hinvalid

end pieces

end Call

end M2Cell
