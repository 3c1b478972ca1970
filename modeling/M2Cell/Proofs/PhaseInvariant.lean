import M2Cell.Control.Interleaving
import M2Cell.Control.PowerEvents

/-!
# The phase of a subsystem

`_phase`, `_telemCounter` and the two power states are written in many places, most of
which write only some of them.  `PhaseInv` is what holds between them after each call.
Within a call of `processDaq` the phase may be 3, but then the target is on: the verdict
of `TURNING_ON` sets the phase with the actual state, or turns the power off, which sets
the phase with the target (`phaseInv_setPowerOff_of_on`).

The operations of the system work on the subsystems by these calls only, so the
invariant holds in all runs: of calls in any order, of calls whose parts are
interleaved, and of the operations of the whole system.
-/

namespace M2Cell

open PowerSubsystemConfig

/-- What holds between the phase, the counter and the power states. -/
structure PhaseInv (sub : PowerSubsystem) : Prop where
  phase : sub.phase = 1 ∨ sub.phase = 2
  targ_off : sub.targPowerState = .off → sub.phase = 1
  phase_two : sub.phase = 2 → sub.targPowerState = .on ∧
    (sub.actualPowerState = .turningOn ∨ sub.actualPowerState = .on)
  reset : sub.actualPowerState = .reset → sub.phase = 1
  telemCounter : sub.targPowerState = .on →
    sub.actualPowerState = .off ∨ sub.actualPowerState = .turningOn →
      sub.phase = 1 → sub.telemCounter < 10
  /-- An attempt that has not left `OFF` starts to count at 0. -/
  fresh : sub.targPowerState = .on → sub.actualPowerState = .off → sub.telemCounter = 0

section subsystem

variable {sub sub' : PowerSubsystem}

/-- With the target off, phase 1 is enough. -/
theorem PhaseInv.of_off (htarg : sub.targPowerState = .off) (hphase : sub.phase = 1) :
    PhaseInv sub where
  phase := Or.inl hphase
  targ_off _ := hphase
  phase_two htwo := by rw [hphase] at htwo; cases htwo
  reset _ := hphase
  telemCounter hon := by rw [htarg] at hon; cases hon
  fresh hon := by rw [htarg] at hon; cases hon

/-- Phase 1 is enough in `ON` and `RESET` as well. -/
theorem PhaseInv.of_phase_one (hphase : sub.phase = 1)
    (hactual : sub.actualPowerState ≠ .off ∧ sub.actualPowerState ≠ .turningOn) :
    PhaseInv sub where
  phase := Or.inl hphase
  targ_off _ := hphase
  phase_two htwo := by rw [hphase] at htwo; cases htwo
  reset _ := hphase
  telemCounter _ hup := by
    rcases hup with h | h
    · exact absurd h hactual.1
    · exact absurd h hactual.2
  fresh _ hoff := absurd hoff hactual.1

/-- Phase 2 with the target on. -/
theorem PhaseInv.of_phase_two (htarg : sub.targPowerState = .on) (hphase : sub.phase = 2)
    (hactual : sub.actualPowerState = .turningOn ∨ sub.actualPowerState = .on) :
    PhaseInv sub where
  phase := Or.inr hphase
  targ_off hoff := by rw [htarg] at hoff; cases hoff
  phase_two _ := ⟨htarg, hactual⟩
  reset hreset := by rcases hactual with h | h <;> rw [h] at hreset <;> cases hreset
  telemCounter _ _ hone := by rw [hphase] at hone; cases hone
  fresh _ hoff := by rcases hactual with h | h <;> rw [h] at hoff <;> cases hoff

/-- Phase 1 with nothing counted. -/
theorem PhaseInv.of_start (hphase : sub.phase = 1) (hcounter : sub.telemCounter = 0) :
    PhaseInv sub where
  phase := Or.inl hphase
  targ_off _ := hphase
  phase_two htwo := by rw [hphase] at htwo; cases htwo
  reset _ := hphase
  telemCounter _ _ _ := by rw [hcounter]; decide
  fresh _ _ := hcounter

/-- The invariant reads four fields. -/
theorem PhaseInv.congr (h : PhaseInv sub) (hphase : sub'.phase = sub.phase)
    (htarg : sub'.targPowerState = sub.targPowerState)
    (hactual : sub'.actualPowerState = sub.actualPowerState)
    (hcounter : sub'.telemCounter = sub.telemCounter) : PhaseInv sub' := by
  obtain ⟨h1, h2, h3, h4, h5, h6⟩ := h
  rw [← hphase] at h1 h2 h3 h4 h5
  rw [← htarg] at h2 h3 h5 h6
  rw [← hactual] at h3 h4 h5 h6
  rw [← hcounter] at h5 h6
  exact ⟨h1, h2, h3, h4, h5, h6⟩

end subsystem

/-! ## The calls -/

namespace Call

variable {ty : PowerSystemType} {c : Call} {clock : Clock} {stamp : Time} {outputIsOn : Bool}
  {voltage : ℚ}

/-- Turning off a target that is on sets the phase, whatever it was. -/
theorem phaseInv_setPowerOff_of_on (htarg : c.sub.targPowerState = .on) :
    PhaseInv (c.setPowerOff ty stamp).sub := by
  refine .of_off (targPowerState_setPowerOff c ty stamp) ?_
  simp [setPowerOff, htarg]

theorem phaseInv_setPowerOff (h : PhaseInv c.sub) : PhaseInv (c.setPowerOff ty stamp).sub := by
  by_cases htarg : c.sub.targPowerState = .off
  · rw [sub_setPowerOff_of_off c ty stamp htarg]
    exact h
  · refine .of_off (targPowerState_setPowerOff c ty stamp) ?_
    simp [setPowerOff, htarg]

theorem phaseInv_setPowerOn (faults : Bool) (h : PhaseInv c.sub) :
    PhaseInv (c.setPowerOn ty faults stamp).1.sub := by
  unfold setPowerOn
  split_ifs
  · exact phaseInv_setPowerOff h
  · exact phaseInv_setPowerOff h
  · exact .of_start rfl rfl

theorem phaseInv_processFaults (faults : Bool) (info : SysInfo) (h : PhaseInv c.sub) :
    PhaseInv (c.processFaults ty faults info stamp).sub := by
  have hinfo : PhaseInv { c.sub with sysInfo := info } := h.congr rfl rfl rfl rfl
  unfold processFaults
  dsimp only
  split_ifs
  · exact phaseInv_setPowerOff hinfo
  · exact hinfo

/-! ### The target on -/

theorem phaseInv_updateFaults (htarg : c.sub.targPowerState = .on) :
    PhaseInv (c.updateFaults ty stamp).sub :=
  phaseInv_setPowerOff_of_on htarg

variable (ty) in
/-- The breaker check turns off, or leaves the subsystem alone. -/
theorem phaseInv_checkForPowerOnBreakerFault (stamp : Time) (voltage : ℚ)
    (htarg : c.sub.targPowerState = .on) :
    ((c.checkForPowerOnBreakerFault ty stamp voltage).2 = true ∧
        PhaseInv (c.checkForPowerOnBreakerFault ty stamp voltage).1.sub) ∨
      ((c.checkForPowerOnBreakerFault ty stamp voltage).2 = false ∧
        (c.checkForPowerOnBreakerFault ty stamp voltage).1.sub = c.sub) := by
  unfold checkForPowerOnBreakerFault
  dsimp only
  split_ifs
  · exact Or.inr ⟨rfl, rfl⟩
  · exact Or.inl ⟨rfl, phaseInv_setPowerOff_of_on htarg⟩
  · exact Or.inr ⟨rfl, rfl⟩
  · exact Or.inl ⟨rfl, phaseInv_updateFaults htarg⟩

theorem phaseInv_processOnPhase (htarg : c.sub.targPowerState = .on)
    (hactual : c.sub.actualPowerState = .on) (h : PhaseInv c.sub) :
    PhaseInv (c.processOnPhase ty clock voltage).sub := by
  unfold processOnPhase
  dsimp only
  split_ifs
  · exact .of_phase_two htarg rfl (Or.inr hactual)
  · exact h
  · exact phaseInv_setPowerOff_of_on htarg
  · exact phaseInv_setPowerOff_of_on htarg
  · exact h
  · exact h
  · exact h

theorem phaseInv_processOn (htarg : c.sub.targPowerState = .on)
    (hactual : c.sub.actualPowerState = .on) (h : PhaseInv c.sub) :
    PhaseInv (c.processOn ty clock outputIsOn voltage).sub := by
  have hcheck := phaseInv_checkForPowerOnBreakerFault ty clock.stamp voltage htarg
  unfold processOn
  split_ifs
  · exact phaseInv_setPowerOff h
  · rcases hcheck with ⟨hfault, hinv⟩ | ⟨hfault, hsub⟩
    · simp only [hfault, if_true]
      exact phaseInv_setPowerOff hinv
    · simp only [hfault, Bool.false_eq_true, if_false]
      rw [← hsub] at htarg hactual h
      exact phaseInv_processOnPhase htarg hactual h

/-- The verdict of phase 3. -/
theorem phaseInv_processBreakers (htarg : c.sub.targPowerState = .on) :
    PhaseInv (c.processBreakers ty clock voltage).sub := by
  unfold processBreakers
  split_ifs
  · exact phaseInv_updateFaults htarg
  · exact .of_phase_one rfl ⟨PowerState.noConfusion, PowerState.noConfusion⟩
  · exact .of_phase_one rfl ⟨PowerState.noConfusion, PowerState.noConfusion⟩

/-- Counting ends phase 1 at the tenth read. -/
theorem phaseInv_countTelemetry (clock : Clock) (htarg : c.sub.targPowerState = .on)
    (hactual : c.sub.actualPowerState = .turningOn) (hphase : c.sub.phase = 1 ∨ c.sub.phase = 2) :
    PhaseInv (c.countTelemetry clock).sub ∧
      (c.countTelemetry clock).sub.targPowerState = .on := by
  rcases hphase with hone | htwo
  · by_cases hcount : c.sub.telemCounter + 1 < 10
    · rw [countTelemetry_of_few hone hcount]
      refine ⟨?_, htarg⟩
      exact
        { phase := Or.inl hone
          targ_off := fun _ => hone
          phase_two := fun htwo => absurd (hone.symm.trans htwo) (by decide)
          reset := fun _ => hone
          telemCounter := fun _ _ _ => hcount
          fresh := fun _ hoff => absurd (hactual.symm.trans hoff) (by decide) }
    · rw [countTelemetry_of_ten hone (not_lt.mp hcount)]
      exact ⟨.of_phase_two htarg rfl (Or.inl hactual), htarg⟩
  · rw [countTelemetry_of_two htwo]
    exact ⟨.of_phase_two htarg htwo (Or.inl hactual), htarg⟩

theorem phaseInv_processTurningOn (htarg : c.sub.targPowerState = .on)
    (hactual : c.sub.actualPowerState = .turningOn) (hphase : c.sub.phase = 1 ∨ c.sub.phase = 2) :
    PhaseInv (c.processTurningOn ty clock outputIsOn voltage).sub := by
  obtain ⟨hcounted, hstill⟩ := phaseInv_countTelemetry clock htarg hactual hphase
  unfold processTurningOn
  dsimp only
  split_ifs
  · exact phaseInv_setPowerOff hcounted
  · exact phaseInv_processBreakers hstill
  · exact hcounted
  · exact phaseInv_processBreakers hstill
  · exact hcounted

theorem phaseInv_processReset (htarg : c.sub.targPowerState = .on)
    (hactual : c.sub.actualPowerState = .reset) (h : PhaseInv c.sub) :
    PhaseInv (c.processReset ty clock outputIsOn voltage).sub := by
  have hrestored :
      (c.writeOutputPortBitPos (psCfg ty).outputBreakerBitPos true).sub.targPowerState = .on :=
    htarg
  have hcheck := phaseInv_checkForPowerOnBreakerFault ty clock.stamp voltage hrestored
  unfold processReset
  dsimp only
  split_ifs with houtput hvoltage hwidth htwice hfault
  · exact phaseInv_setPowerOff h
  · exact phaseInv_updateFaults htarg
  · rcases hcheck with ⟨-, hinv⟩ | ⟨hnone, -⟩
    · exact hinv
    · rw [hnone] at hfault
      cases hfault
  · rcases hcheck with ⟨hsome, -⟩ | ⟨-, hsub⟩
    · exact absurd hsome hfault
    · -- `RESET` was phase 1, and `ON` begins with it
      refine .of_phase_one ?_ ⟨PowerState.noConfusion, PowerState.noConfusion⟩
      rw [phase_enter, hsub]
      exact h.reset hactual
  · exact h
  · exact h

theorem phaseInv_processActual (htarg : c.sub.targPowerState = .on) (h : PhaseInv c.sub) :
    PhaseInv (c.processActual ty clock outputIsOn voltage).sub := by
  unfold processActual
  cases hactual : c.sub.actualPowerState with
  | on => exact phaseInv_processOn htarg hactual h
  | off => exact phaseInv_processTurningOn htarg rfl (Or.inl rfl)
  | turningOff => exact phaseInv_processTurningOn htarg rfl (Or.inl rfl)
  | turningOn => exact phaseInv_processTurningOn htarg hactual h.phase
  | reset => exact phaseInv_processReset htarg hactual h
  | unknown => exact phaseInv_setPowerOff h

theorem phaseInv_processPowerOn (htarg : c.sub.targPowerState = .on) (h : PhaseInv c.sub) :
    PhaseInv (c.processPowerOn ty clock).sub := by
  obtain ⟨-, d, hsub, hcall⟩ | ⟨-, d, hsub, -, -, hcall⟩ := processPowerOn_cases ty clock c
  · rw [hcall]
    exact phaseInv_setPowerOff_of_on (hsub ▸ htarg)
  · rw [hcall]
    exact phaseInv_processActual (hsub ▸ htarg) (hsub ▸ h)

/-! ### The target off -/

theorem phaseInv_processTurningOff (htarg : c.sub.targPowerState = .off) (h : PhaseInv c.sub) :
    PhaseInv (c.processTurningOff ty clock).sub := by
  unfold processTurningOff
  split_ifs
  · exact .of_off htarg (h.targ_off htarg)
  · exact phaseInv_setPowerOff h
  · exact h

theorem phaseInv_processPowerOff (htarg : c.sub.targPowerState = .off) (h : PhaseInv c.sub) :
    PhaseInv (c.processPowerOff ty clock).sub := by
  have hfall : PhaseInv (((c.setPowerOff ty clock.stamp).enter
      (c.setPowerOff ty clock.stamp).sub.actualPowerState
      (c.setPowerOff ty clock.stamp).sub.phase clock.now).processTurningOff ty clock).sub := by
    have hoff : PhaseInv (c.setPowerOff ty clock.stamp).sub := phaseInv_setPowerOff h
    exact phaseInv_processTurningOff (targPowerState_setPowerOff c ty clock.stamp)
      (hoff.congr rfl rfl rfl rfl)
  unfold processPowerOff
  split_ifs
  · exact phaseInv_setPowerOff h
  · cases hactual : c.sub.actualPowerState with
    | off => exact h
    | turningOff => exact phaseInv_processTurningOff htarg h
    | unknown | turningOn | reset | on => exact hfall

/-- **The state machine** keeps the invariant. -/
theorem phaseInv_processTarg (h : PhaseInv c.sub) : PhaseInv (c.processTarg ty clock).sub := by
  have hinvalid : PhaseInv ((c.setPowerOff ty clock.stamp).processPowerOff ty clock).sub :=
    phaseInv_processPowerOff (targPowerState_setPowerOff c ty clock.stamp) (phaseInv_setPowerOff h)
  unfold processTarg
  cases htarg : c.sub.targPowerState with
  | on => exact phaseInv_processPowerOn htarg h
  | off => exact phaseInv_processPowerOff htarg h
  | unknown | turningOn | reset | turningOff => exact hinvalid

end Call

/-! ## The system -/

namespace System

/-- Both subsystems keep the invariant. -/
def PhasesInv (s : System) : Prop := ∀ ty, PhaseInv (s.sub ty)

variable {s r : System} (ty : PowerSystemType) (clock : Clocks)

theorem PhasesInv.congr (h : s.PhasesInv) (hsub : ∀ ty, r.sub ty = s.sub ty) : r.PhasesInv := by
  intro ty
  rw [hsub ty]
  exact h ty

/-- A call, put back into the system. -/
theorem PhasesInv.store (h : s.PhasesInv) {c : Call} (hc : PhaseInv c.sub) :
    (s.store ty c).PhasesInv := by
  intro ty'
  rcases ty.eq_or_eq_other ty' with rfl | rfl
  · rwa [sub_store]
  · rw [sub_other_store]
    exact h ty.other

theorem PhasesInv.ite {p : Prop} [Decidable p] (hs : s.PhasesInv) (hr : r.PhasesInv) :
    (if p then s else r).PhasesInv := by
  split
  · exact hs
  · exact hr

theorem phasesInv_setPowerOff (h : s.PhasesInv) : (s.setPowerOff ty clock).PhasesInv :=
  h.store ty (Call.phaseInv_setPowerOff (h ty))

theorem phasesInv_setPowerOn (h : s.PhasesInv) : (s.setPowerOn ty clock).1.PhasesInv :=
  h.store ty (Call.phaseInv_setPowerOn _ (h ty))

/-- **The constructed system** has the invariant. -/
theorem phasesInv_new (port : OutputPortBits) : (new port).PhasesInv := by
  have hunset : (newUnset port).PhasesInv := by
    intro ty
    cases ty <;> exact .of_off rfl rfl
  exact phasesInv_setPowerOff .comm _ (phasesInv_setPowerOff .motor _ hunset)

/-! ### The Model -/

theorem phasesInv_turnOffAll (h : s.PhasesInv) : (s.turnOffAll clock).PhasesInv :=
  phasesInv_setPowerOff .comm clock (phasesInv_setPowerOff .motor clock h)

theorem phasesInv_currentState (newState : StateEnum) (h : s.PhasesInv) :
    ({ s with currentState := newState } : System).PhasesInv :=
  h.congr fun ty => by cases ty <;> rfl

theorem phasesInv_enterState (newState : StateEnum) (h : s.PhasesInv) :
    (s.enterState clock newState).PhasesInv := by
  unfold enterState
  split
  · exact phasesInv_turnOffAll clock h
  · exact phasesInv_turnOffAll clock h
  · exact h

theorem phasesInv_changeState (newState : StateEnum) (h : s.PhasesInv) :
    (s.changeState clock newState).1.PhasesInv := by
  unfold changeState
  split_ifs
  · exact phasesInv_enterState clock newState h
  · exact h
  · exact phasesInv_enterState clock newState (phasesInv_currentState newState h)
  · exact h

theorem phasesInv_goToSafeMode (h : s.PhasesInv) : (s.goToSafeMode clock).1.PhasesInv := by
  have hoff := phasesInv_turnOffAll clock h
  unfold goToSafeMode goToASafeState
  split_ifs <;> exact phasesInv_changeState clock _ hoff

theorem phasesInv_reportStateChange (h : s.PhasesInv) :
    (s.reportStateChange ty clock).PhasesInv := by
  unfold reportStateChange
  rw [reportPowerSystemStateChange_eq]
  exact .ite (.ite (phasesInv_turnOffAll clock h) (phasesInv_currentState _ h)) h

/-! ### `processDaq` -/

theorem phasesInv_processFaults (info : SysInfo) (h : s.PhasesInv) :
    (s.processFaults ty clock info).PhasesInv :=
  h.store ty (Call.phaseInv_processFaults _ info (h ty))

theorem phasesInv_savePrev (h : s.PhasesInv) : (s.savePrev ty).PhasesInv :=
  h.store ty ((h ty).congr rfl rfl rfl rfl)

theorem phasesInv_processTarg (faultsSet : FaultStatusBits) (h : s.PhasesInv) :
    (s.processTarg ty clock faultsSet).1.PhasesInv :=
  h.store ty (Call.phaseInv_processTarg (h ty))

theorem phasesInv_processDaq (info : SysInfo) (faultsSet : FaultStatusBits) (h : s.PhasesInv) :
    (s.processDaq ty clock info faultsSet).1.PhasesInv := by
  have hfaults := phasesInv_processFaults ty clock info h
  have hreport : PhasesInv (if (s.processFaults ty clock info).stateChanged ty then
      (s.processFaults ty clock info).reportStateChange ty clock
      else s.processFaults ty clock info) :=
    .ite (phasesInv_reportStateChange ty clock hfaults) hfaults
  exact phasesInv_processTarg ty clock faultsSet (phasesInv_savePrev ty hreport)

/-! ### Runs -/

/-- Every call keeps the invariant. -/
theorem phasesInv_powerStep (s : System) (e : PowerEvent) (h : s.PhasesInv) :
    (s.powerStep e).PhasesInv := by
  cases e with
  | setPowerOn ty clock => exact phasesInv_setPowerOn ty clock h
  | setPowerOff ty clock => exact phasesInv_setPowerOff ty clock h
  | processDaq ty info faultsSet clock => exact phasesInv_processDaq ty clock info faultsSet h
  | elsewhere faultMgr currentState setupFinished => exact h.congr fun ty => by cases ty <;> rfl

end System

/-- Every action of the threads keeps it, between the parts of a `processDaq` as well. -/
theorem Threads.phasesInv_step (t : Threads) (a : Action) (h : t.system.PhasesInv) :
    (t.step a).system.PhasesInv := by
  cases a with
  | setPowerOn ty clock => exact System.phasesInv_setPowerOn ty clock h
  | setPowerOff ty clock => exact System.phasesInv_setPowerOff ty clock h
  | goToSafeMode clock => exact System.phasesInv_goToSafeMode clock h
  | goOffline clock => exact System.phasesInv_changeState clock .offline h
  | faultMgr op => exact h.congr fun ty => by cases ty <;> rfl
  | checkFaults ty info clock =>
      simp only [step]
      split_ifs
      · exact System.phasesInv_processFaults ty clock info h
      · exact h
  | compare ty =>
      simp only [step]
      split_ifs <;> exact h
  | report ty clock =>
      simp only [step]
      split_ifs
      · exact System.phasesInv_reportStateChange ty clock h
      · exact h
  | savePrev ty =>
      simp only [step]
      split_ifs
      · exact System.phasesInv_savePrev ty h
      · exact h
  | processTarg ty faultsSet clock =>
      simp only [step]
      split_ifs
      · exact System.phasesInv_processTarg ty clock faultsSet h
      · exact h

/-- **Phases.**  After any calls of `setPowerOn`, `setPowerOff` and `processDaq`, with any
information, clocks and fault managers, both subsystems keep the invariant; and so they do
when other threads act between the parts of a `processDaq`.  A `setPowerOn` that is accepted
starts with phase 1 and nothing counted. -/
theorem phaseInv_run (port : OutputPortBits) (faultMgr : FaultMgr) (ty : PowerSystemType)
    (events : List PowerEvent) (actions : List Action) :
    PhaseInv ((run System.powerStep (System.new port) events).sub ty) ∧
      PhaseInv ((run Threads.step
        ⟨{ System.new port with faultMgr := faultMgr }, fun _ => .idle⟩ actions).system.sub ty) ∧
      ∀ (clock : Clocks) (s : System), (s.setPowerOn ty clock).2 = true →
        ((s.setPowerOn ty clock).1.sub ty).phase = 1 ∧
          ((s.setPowerOn ty clock).1.sub ty).telemCounter = 0 := by
  have hnew := System.phasesInv_new port
  have hstart : ({ System.new port with faultMgr := faultMgr } : System).PhasesInv :=
    hnew.congr fun ty => by cases ty <;> rfl
  refine ⟨?_, ?_, ?_⟩
  · exact run_invariant System.PhasesInv System.phasesInv_powerStep hnew events ty
  · exact run_invariant (fun t : Threads => t.system.PhasesInv) Threads.phasesInv_step hstart
      actions ty
  · intro clock s haccepted
    rw [(System.turnedOn_setPowerOn ty clock s haccepted).sub]
    exact ⟨rfl, rfl⟩

end M2Cell
