import M2Cell.Control.ClosedLoop
import M2Cell.Control.FaultsSet
import M2Cell.Proofs.SimVoltage

/-!
# Power goes off in the closed loop

When the target of a subsystem is `OFF` and no operation under way turns it on, the next write
of the `FpgaIo` takes the low power bit to the hardware, the voltage falls on a ramp, and the
first read of a record that is new enough brings the actual state to `OFF`, where it stays
(`power_goes_off`).  Neither commands nor reads of other records, in any order, hold it up.

With no `PowerSystem` registered the hardware loses its power in the same way, whatever the
targets are (`power_goes_off_unregistered`).  It takes a pass of the `FpgaIo` that began after
the registration was lost: a pass that had begun before still writes what it found.  And it
takes commands that turn nothing on, since the `FpgaIo` turns the bits off one by one and not
under the locks of the power system.

Both rest on `Falling`: what a run keeps in which every write of the `FpgaIo` has the power bit
low (`Dims`).  The simulator falls by `SimCore.ramping_step`, and a record that is read shows
either what was there before or the ramp.  That the writes are dim follows from two invariants:

- `Governed`, with a `PowerSystem`: the output bits agree with the targets, in the system and in
  what the operation under way makes of it, so a write between the two is low as well;
- `Unserved`, without one: the step that turns the bit off is still to come in this pass, or the
  bit is low in both.
-/

namespace M2Cell

open PowerSubsystemConfig SimPowerSubsystem

/-! ## Reads with the target off -/

namespace Call

variable {ty : PowerSystemType} {c : Call} {clock : Clock}

/-- Without a relay and below the off level the actual state is `OFF`. -/
theorem actual_processPowerOff (hrelay : c.sub.getRelayControlOutputOn ty = false)
    (hvoltage : c.sub.getVoltage ty < (psCfg ty).voltageOffLevel) :
    (c.processPowerOff ty clock).sub.actualPowerState = .off := by
  have hfall (d : Call) (hinfo : d.sub.sysInfo = c.sub.sysInfo) :
      (d.processTurningOff ty clock).sub.actualPowerState = .off := by
    rw [PowerSubsystem.getVoltage_eq, ← hinfo, ← PowerSubsystem.getVoltage_eq] at hvoltage
    rw [processTurningOff, if_pos hvoltage, actualPowerState_enter]
  have hstart := hfall
    ((c.setPowerOff ty clock.stamp).enter (c.setPowerOff ty clock.stamp).sub.actualPowerState
      (c.setPowerOff ty clock.stamp).sub.phase clock.now) (by simp)
  simp only [processPowerOff, hrelay, Bool.false_eq_true, if_false]
  cases hactual : c.sub.actualPowerState with
  | off => exact hactual
  | turningOff => exact hfall c rfl
  | unknown | turningOn | reset | on => exact hstart

end Call

namespace System

variable {ty : PowerSystemType} {s t r : System}

theorem Down.trans (h : s.Down ty t) (h' : t.Down ty r) : s.Down ty r := by
  refine ⟨h'.1, ?_⟩
  obtain hoff | hsame := h'.2
  · exact Or.inl hoff
  · rw [hsame]
    exact h.2

/-- A step that turns nothing on and keeps the actual state. -/
theorem Descends.down (h : Descends s r) (htarg : (s.sub ty).targPowerState = .off)
    (hactual : (r.sub ty).actualPowerState = (s.sub ty).actualPowerState) : s.Down ty r := by
  refine ⟨?_, Or.inr hactual⟩
  rw [h.targ_off htarg]
  decide

theorem actual_applyFaultMgr (clock : Clocks) (result : FaultMgr × Bool) (s : System)
    (ty : PowerSystemType) :
    ((s.applyFaultMgr clock result).sub ty).actualPowerState = (s.sub ty).actualPowerState := by
  have hmgr : ({ s with faultMgr := result.1 } : System).sub ty = s.sub ty := by
    cases ty <;> rfl
  unfold applyFaultMgr
  dsimp only
  split_ifs
  · rw [(offOrSame_goToSafeMode clock _).actual ty, hmgr]
  · rw [hmgr]

variable (clock : Clocks) (info : SysInfo) (faultsSet : FaultStatusBits)

theorem targ_prepareDaq_off (htarg : (s.sub ty).targPowerState = .off) :
    ((s.prepareDaq ty clock info).sub ty).targPowerState = .off := by
  have hfaults := (descends_processFaults ty clock info s).targ_off htarg
  have hreport := (descends_reportChange ty clock _).targ_off hfaults
  exact (descends_savePrev ty _).targ_off hreport

/-- **The read that turns off.** -/
theorem actual_processDaq (htarg : (s.sub ty).targPowerState = .off)
    (hrelay : OutputPortBits.getBitAtPos info.outputPort (psCfg ty).outputPowerOnBitPos = false)
    (hvoltage : info.voltage ty < (psCfg ty).voltageOffLevel) :
    ((s.processDaq ty clock info faultsSet).1.sub ty).actualPowerState = .off := by
  have hoff := targ_prepareDaq_off clock info htarg
  have hinfo := sysInfo_prepareDaq ty clock info s
  simp only [processDaq, processTarg, sub_store, Call.processTarg, sub_call, hoff]
  apply Call.actual_processPowerOff
  · rw [PowerSubsystem.getRelayControlOutputOn, sub_call, hinfo]
    exact hrelay
  · rw [PowerSubsystem.getVoltage_eq, sub_call, hinfo]
    exact hvoltage

/-- A `processDaq` of either subsystem, with the target off. -/
theorem down_processDaq (ty' : PowerSystemType) (htarg : (s.sub ty).targPowerState = .off) :
    s.Down ty (s.processDaq ty' clock info faultsSet).1 := by
  obtain rfl | rfl := ty.eq_or_eq_other ty'
  · apply down_processDaq_of_not
    simp [htarg]
  · obtain hkept | hdown := processDaq_other ty clock info faultsSet s
    · refine ⟨?_, Or.inr (by rw [hkept.1])⟩
      rw [hkept.1, htarg]
      decide
    · exact hdown

end System

namespace PowerSystem

variable {ty : PowerSystemType} {s : System} (clock : Clocks) (info : SysInfo)

theorem down_startDaq (htarg : (s.sub ty).targPowerState = .off) :
    s.Down ty (startDaq clock info s) := by
  have hhealth : s.Down ty (reportHealth clock info s) := by
    apply (descends_reportHealth clock info s).down htarg
    unfold reportHealth
    split_ifs
    · exact System.actual_applyFaultMgr clock _ s ty
    · rfl
  have hoff := (descends_reportHealth clock info s).targ_off htarg
  refine hhealth.trans ((descends_checkMotorComm clock info _).down hoff ?_)
  unfold checkMotorComm
  dsimp only
  split_ifs <;> simp

theorem down_checkTimeout (diffInSeconds : ℚ) (htarg : (s.sub ty).targPowerState = .off) :
    ((checkTimeout clock diffInSeconds s).1.sub ty).targPowerState = .off ∧
      s.Down ty (checkTimeout clock diffInSeconds s).1 := by
  have hoff := (System.descends_setPowerOff s .motor clock).trans
    (System.descends_setPowerOff _ .comm clock)
  simp only [checkTimeout, decide_eq_true_eq]
  split_ifs
  · have hreport : System.Descends s
        (((s.setPowerOff .motor clock).setPowerOff .comm clock).updatePowerFaults clock
          (FaultStatusBits.setBitAt 0 FaultStatusBits.powerSystemTimeout) .powerSubsystem) :=
      hoff.trans (System.descends_applyFaultMgr clock _ _)
    refine ⟨hreport.targ_off htarg, hreport.down htarg ?_⟩
    rw [System.updatePowerFaults, System.actual_applyFaultMgr, System.actualPowerState_setPowerOff,
      System.actualPowerState_setPowerOff]
  · exact ⟨htarg, (System.Descends.refl s).down htarg rfl⟩

/-- The parts of `_processDaq`, with the target off. -/
theorem down_parts (htarg : (s.sub ty).targPowerState = .off) :
    ((startDaq clock info s).sub ty).targPowerState = .off ∧
      ((motorDaq clock info s).1.sub ty).targPowerState = .off ∧
      (motorDaq clock info s).1.Down ty (processDaq clock info s) ∧
      s.Down ty (processDaq clock info s) := by
  have hstart := ((descends_reportHealth clock info s).trans
    (descends_checkMotorComm clock info _)).targ_off htarg
  have hmotor := System.down_processDaq clock info (healthFaults info s) .motor hstart
  have hmotorTarg := (System.descends_processDaq .motor clock info (healthFaults info s) _).targ_off
    hstart
  have hcomm := System.down_processDaq clock info (motorDaq clock info s).2 .comm hmotorTarg
  have hcommTarg :=
    (System.descends_processDaq .comm clock info (motorDaq clock info s).2 _).targ_off hmotorTarg
  have hreport : (commDaq clock info s).1.Down ty (processDaq clock info s) :=
    (System.descends_applyFaultMgr clock _ _).down hcommTarg
      (System.actual_applyFaultMgr clock _ _ ty)
  have hrest : (motorDaq clock info s).1.Down ty (processDaq clock info s) := hcomm.trans hreport
  exact ⟨hstart, hmotorTarg, hrest, (down_startDaq clock info htarg).trans (hmotor.trans hrest)⟩

/-- **A whole `_processDaq` that turns off.** -/
theorem actual_processDaq (htarg : (s.sub ty).targPowerState = .off)
    (hrelay : OutputPortBits.getBitAtPos info.outputPort (psCfg ty).outputPowerOnBitPos = false)
    (hvoltage : info.voltage ty < (psCfg ty).voltageOffLevel) :
    ((processDaq clock info s).sub ty).actualPowerState = .off := by
  obtain ⟨hstart, hmotor, hrest, -⟩ := down_parts clock info htarg
  cases ty with
  | motor =>
      have hoff := System.actual_processDaq clock info (healthFaults info s) hstart hrelay hvoltage
      obtain hdown | hsame := hrest.2
      · exact hdown
      · exact hsame.trans hoff
  | comm =>
      have hoff := System.actual_processDaq clock info (motorDaq clock info s).2 hmotor hrelay
        hvoltage
      exact (System.actual_applyFaultMgr clock _ _ .comm).trans hoff

end PowerSystem

/-- The operation does not turn power on. -/
def Op.TurnsNothingOn (op : Op) : Prop := op.turnsOn = none

instance decidableTurnsNothingOn (op : Op) : Decidable op.TurnsNothingOn :=
  inferInstanceAs (Decidable (_ = _))

/-- A command that may turn power on turns it off. -/
theorem Op.TurnsNothingOn.eq_false {on : Bool} {ty : PowerSystemType}
    (h : (if on then some ty else none) = none) : on = false := by
  simpa using h

namespace System

variable (s : System)

/-- Only the thread of the `PowerSystem` moves an actual state. -/
theorem actual_command {op : Op} (hop : op.IsCommand) (ty : PowerSystemType) :
    ((s.step op).sub ty).actualPowerState = (s.sub ty).actualPowerState := by
  have hmotor (clock : Clocks) (on : Bool) (s : System) :
      ((PowerSystem.powerMotor clock on s).1.sub ty).actualPowerState =
        (s.sub ty).actualPowerState := by
    unfold PowerSystem.powerMotor
    split_ifs <;> simp
  have hcomm (clock : Clocks) (on : Bool) (s : System) :
      ((PowerSystem.powerComm clock on s).1.sub ty).actualPowerState =
        (s.sub ty).actualPowerState := by
    unfold PowerSystem.powerComm
    dsimp only
    split_ifs <;> simp
  cases op with
  | setPowerOn ty' clock => simp [step]
  | setPowerOff ty' clock => simp [step]
  | subsystemDaq ty' info faultsSet clock => exact hop.elim
  | powerMotor on clock => exact hmotor clock on s
  | powerComm on clock => exact hcomm clock on s
  | cmdPower powerType on clock =>
      have hbase : ((PowerSystem.cmdPowerBase clock powerType on s).1.sub ty).actualPowerState =
          (s.sub ty).actualPowerState := by
        cases powerType with
        | motor => exact hmotor clock on s
        | comm => exact hcomm clock on s
      simp only [step, PowerSystem.cmdPower]
      split
      · exact hbase
      · exact hbase
      · rfl
  | processDaq info clock => exact hop.elim
  | checkTimeout diffInSeconds clock => exact hop.elim
  | updatePowerFaults currentFaults subsystem clock => exact hop.elim
  | reportComConnectionCount count clock => exact actual_applyFaultMgr clock _ s ty
  | changeState newState clock => exact (offOrSame_changeState clock s newState).actual ty
  | goToSafeMode clock => exact (offOrSame_goToSafeMode clock s).actual ty
  | setContext ty' context =>
      obtain rfl | rfl := ty'.eq_or_eq_other ty <;> simp [step, setContext]
  | reportMotionEngineTimeout errorLvl => cases ty <;> rfl
  | resetFaults mask => cases ty <;> rfl
  | enableFaultsInMask mask => cases ty <;> rfl
  | finishSetup => cases ty <;> rfl
  | writeCrioInterlockEnable set => cases ty <;> rfl

/-- An operation that turns nothing on leaves a low power bit low. -/
theorem low_step (op : Op) (hop : op.TurnsNothingOn) {ty : PowerSystemType}
    (hs : OutputPortBits.getBitAtPos s.outputPort (psCfg ty).outputPowerOnBitPos = false) :
    OutputPortBits.getBitAtPos (s.step op).outputPort (psCfg ty).outputPowerOnBitPos = false := by
  have hmotor (clock : Clocks) : Descends s (PowerSystem.powerMotor clock false s).1 := by
    simpa [PowerSystem.powerMotor] using descends_setPowerOff s .motor clock
  have hcomm (clock : Clocks) : Descends s (PowerSystem.powerComm clock false s).1 := by
    have hoff := descends_setPowerOff s .motor clock
    simp only [PowerSystem.powerComm, Bool.not_false, Bool.false_eq_true, if_false]
    split_ifs
    · exact hoff.trans (descends_setPowerOff _ .comm clock)
    · exact descends_setPowerOff s .comm clock
  cases op with
  | setPowerOn ty' clock => exact absurd hop (Option.some_ne_none ty')
  | setPowerOff ty' clock => exact (descends_setPowerOff s ty' clock).low ty hs
  | subsystemDaq ty' info faultsSet clock =>
      exact (descends_processDaq ty' clock info faultsSet s).low ty hs
  | powerMotor on clock =>
      obtain rfl := Op.TurnsNothingOn.eq_false hop
      exact (hmotor clock).low ty hs
  | powerComm on clock =>
      obtain rfl := Op.TurnsNothingOn.eq_false hop
      exact (hcomm clock).low ty hs
  | cmdPower powerType on clock =>
      obtain rfl := Op.TurnsNothingOn.eq_false hop
      have hbase : Descends s (PowerSystem.cmdPowerBase clock powerType false s).1 := by
        cases powerType with
        | motor => exact hmotor clock
        | comm => exact hcomm clock
      simp only [step, PowerSystem.cmdPower]
      split
      · exact hbase.low ty hs
      · exact hbase.low ty hs
      · exact hs
  | processDaq info clock => exact (PowerSystem.descends_processDaq clock info s).low ty hs
  | checkTimeout diffInSeconds clock =>
      have hoff := (descends_setPowerOff s .motor clock).trans
        (descends_setPowerOff _ .comm clock)
      simp only [step, PowerSystem.checkTimeout, decide_eq_true_eq]
      split_ifs
      · exact (hoff.trans (descends_applyFaultMgr clock _ _)).low ty hs
      · exact hs
  | updatePowerFaults currentFaults subsystem clock =>
      exact (descends_applyFaultMgr clock s _).low ty hs
  | reportComConnectionCount count clock => exact (descends_applyFaultMgr clock s _).low ty hs
  | changeState newState clock => exact (offOrSame_changeState clock s newState).descends.low ty hs
  | goToSafeMode clock => exact (offOrSame_goToSafeMode clock s).descends.low ty hs
  | setContext ty' context =>
      have hport : (s.step (.setContext ty' context)).outputPort = s.outputPort := by
        simp [step, setContext]
      rw [hport]
      exact hs
  | writeCrioInterlockEnable set =>
      have hne : (psCfg ty).outputPowerOnBitPos ≠ OutputPortBits.crioInterlockEnable := by
        cases ty <;> decide
      simp only [step, PowerSystem.writeCrioInterlockEnable, OutputPortBits.getBitAtPos_writeBit]
      rw [if_neg hne]
      exact hs
  | reportMotionEngineTimeout errorLvl => exact hs
  | resetFaults mask => exact hs
  | enableFaultsInMask mask => exact hs
  | finishSetup => exact hs

end System

namespace ClosedLoop

variable {s : ClosedLoop} {ty : PowerSystemType}

/-! ## What holds before -/

/-- The action is one of the program and does not force the voltage of the subsystem. -/
def Unforcing (ty : PowerSystemType) : LoopAction → Prop
  | .sim a => InProgram (.sim a) ∧ SimCore.AllowsVoltage ty a
  | a => InProgram a

instance decidableUnforcing (ty : PowerSystemType) : ∀ a, Decidable (Unforcing ty a)
  | .sim a => inferInstanceAs (Decidable (InProgram (.sim a) ∧ SimCore.AllowsVoltage ty a))
  | .beginPass => inferInstanceAs (Decidable (InProgram .beginPass))
  | .fpga written => inferInstanceAs (Decidable (InProgram (.fpga written)))
  | .daqInfoRead t clock => inferInstanceAs (Decidable (InProgram (.daqInfoRead t clock)))
  | .daqTimeoutCheck t clock => inferInstanceAs (Decidable (InProgram (.daqTimeoutCheck t clock)))
  | .processOld clock => inferInstanceAs (Decidable (InProgram (.processOld clock)))
  | .command op => inferInstanceAs (Decidable (InProgram (.command op)))
  | .finish => inferInstanceAs (Decidable (InProgram .finish))
  | .registerPowerSys r => inferInstanceAs (Decidable (InProgram (.registerPowerSys r)))

theorem Unforcing.inProgram {a : LoopAction} (ha : Unforcing ty a) : InProgram a := by
  cases a with
  | sim a => exact ha.1
  | _ => exact ha

/-- When the action registers a `PowerSystem` or takes it away, the result is `registered`. -/
def StaysRegistered (registered : Bool) : LoopAction → Prop
  | .registerPowerSys registered' => registered' = registered
  | _ => True

instance decidableStaysRegistered (registered : Bool) :
    ∀ a, Decidable (StaysRegistered registered a)
  | .registerPowerSys registered' => inferInstanceAs (Decidable (registered' = registered))
  | .sim _ => inferInstanceAs (Decidable True)
  | .beginPass => inferInstanceAs (Decidable True)
  | .fpga _ => inferInstanceAs (Decidable True)
  | .daqInfoRead _ _ => inferInstanceAs (Decidable True)
  | .daqTimeoutCheck _ _ => inferInstanceAs (Decidable True)
  | .processOld _ => inferInstanceAs (Decidable True)
  | .command _ => inferInstanceAs (Decidable True)
  | .finish => inferInstanceAs (Decidable True)

theorem registered_step {registered : Bool} (hs : s.registered = registered) {a : LoopAction}
    (ha : StaysRegistered registered a) : (s.step a).registered = registered := by
  cases a with
  | registerPowerSys registered' => exact ha
  | fpga written =>
      simp only [step]
      split
      · exact hs
      · next next pass hpass => cases next <;> exact hs
  | beginPass | daqInfoRead daqReadTime clock | daqTimeoutCheck now clock | processOld clock
  | command op =>
      simp only [step]
      split_ifs <;> exact hs
  | sim a => exact hs
  | finish => exact hs

/-- The simulator, and the record that was read, before anything is asked of the power. -/
structure Tracked (ty : PowerSystemType) (sim : SimCore) (sysInfo : SimInfo) : Prop where
  bounded : sim.Bounded ty
  published : 0 < sim.iterations
  dated : sim.Dated
  read : sysInfo.timestamp ≤ sim.timestamp

theorem tracked_step (hs : Tracked ty s.sim s.sysInfo) {a : LoopAction} (hforward : s.Forward a)
    (ha : Unforcing ty a) : Tracked ty (s.step a).sim (s.step a).sysInfo := by
  have hmove := dataMove_step s a
  generalize (s.step a).sim = sim, (s.step a).sysInfo = sysInfo at hmove
  cases hmove with
  | keep a => exact ⟨hs.bounded, hs.published, hs.dated, hs.read⟩
  | sim a =>
      exact ⟨SimCore.bounded_step hs.bounded hforward ha.2,
        hs.published.trans_le (SimCore.iterations_le_step s.sim a),
        SimCore.dated_step hs.dated hs.bounded.ordered hforward,
        hs.read.trans (SimCore.timestamp_le_step hforward)⟩
  | writeFpga written pass hpass =>
      have hsim : s.sim.Forward (.setNewOutputPort (s.outputPortBetween written)) := trivial
      exact ⟨SimCore.bounded_step hs.bounded hsim trivial, hs.published,
        SimCore.dated_step hs.dated hs.bounded.ordered hsim, hs.read⟩
  | readFpga written pass hpass =>
      exact ⟨hs.bounded, hs.published, hs.dated, hs.dated (Or.inl hs.published)⟩

/-- The loop after a run in which nobody forces the voltage of the subsystem and the actions are
as `Allowed` says.  The run starts with a `PowerSystem`, when the simulator has finished its
first iteration. -/
def Reached (ty : PowerSystemType) (Allowed : LoopAction → Prop) (s : ClosedLoop) : Prop :=
  ∃ sim port daqReadTime acts, SimCore.Unforced ty sim ∧ 0 < sim.iterations ∧
    Always step (fun s a => s.Forward a ∧ Unforcing ty a ∧ Allowed a)
      (start sim (System.new port) daqReadTime) acts ∧
    s = run step (start sim (System.new port) daqReadTime) acts

theorem tracked_start {sim : SimCore} (hsim : sim.Unforced ty) (hpublished : 0 < sim.iterations) :
    Tracked ty sim sim.simInfo := by
  have hdated : sim.Dated := by
    obtain ⟨unset, startTime, simActs, hacts, rfl⟩ := hsim
    have hnew : (SimCore.new unset startTime).Ordered ∧ (SimCore.new unset startTime).Dated := by
      refine ⟨SimCore.ordered_new unset startTime, fun h => ?_⟩
      obtain hpos | hlast := h
      · exact absurd hpos (lt_irrefl 0)
      · exact absurd hlast (List.cons_ne_nil _ _).symm
    exact (hacts.invariant (fun sim => sim.Ordered ∧ sim.Dated) (fun sim a h ha =>
      ⟨SimCore.ordered_step h.1 a ha.1, SimCore.dated_step h.2 h.1 ha.1⟩) hnew).2
  exact ⟨hsim.bounded, hpublished, hdated, hdated (Or.inl hpublished)⟩

theorem Reached.tracked {Allowed : LoopAction → Prop} (hs : s.Reached ty Allowed) :
    Tracked ty s.sim s.sysInfo := by
  obtain ⟨sim, port, daqReadTime, acts, hsim, hpublished, hacts, rfl⟩ := hs
  exact hacts.invariant (fun s => Tracked ty s.sim s.sysInfo)
    (fun _ _ hs ha => tracked_step hs ha.1 ha.2.1) (tracked_start hsim hpublished)

/-! ## The voltage falls -/

/-- When the action writes the output port of the hardware, the power bit is low. -/
def Dims (ty : PowerSystemType) (s : ClosedLoop) (a : LoopAction) : Prop :=
  ∀ written, a = .fpga written → s.pass.head? = some .writeFpga →
    OutputPortBits.getBitAtPos (s.outputPortBetween written) (powerOnBitPos ty) = false

/-- The hardware, and the record that was read, if it is newer, have followed the ramp that falls
since the simulator was `old`. -/
structure Falling (ty : PowerSystemType) (old sim : SimCore) (sysInfo : SimInfo) : Prop where
  ramping : sim.Ramping ty false old.timestamp (old.sub ty).voltage old.iterations old.simInfo
  dated : old.simInfo.timestamp ≤ old.timestamp
  relay : sim.simInfo = old.simInfo ∨
    OutputPortBits.getBitAtPos sim.simInfo.outputPort (powerOnBitPos ty) = false
  read : sysInfo.timestamp ≤ old.timestamp ∨
    OutputPortBits.getBitAtPos sysInfo.outputPort (powerOnBitPos ty) = false ∧
      Tracks ty false (sysInfo.timestamp - old.timestamp) (old.sub ty).voltage
        (sysInfo.iterations + 1 - old.iterations) (sysInfo.toSysInfo.voltage ty)

variable {old : SimCore}

/-- The actions of the program keep the bit in the simulator but for the writes. -/
theorem keepsBit_of_inProgram {a : SimAction} (ha : InProgram (.sim a)) (pos : Fin 8)
    (value : Bool) : SimCore.KeepsBit pos value a := by
  cases a with
  | setNewOutputPort port => exact ha.elim
  | writeNewOutputPortBit pos' set => exact ha.elim
  | _ => trivial

/-- One action of the simulator. -/
theorem Falling.sim_step {sim : SimCore} {sysInfo : SimInfo} (hs : Falling ty old sim sysInfo)
    {a : SimAction} (hforward : sim.Forward a) (hallows : SimCore.AllowsVoltage ty a)
    (hkeeps : SimCore.KeepsBit (powerOnBitPos ty) false a) :
    Falling ty old (sim.step a) sysInfo := by
  refine ⟨SimCore.ramping_step hs.ramping hforward hallows hkeeps, hs.dated, ?_, hs.read⟩
  obtain hsame | hlow := hs.ramping.powered.published hs.ramping.bounded.ordered a
  · rw [hsame]
    exact hs.relay
  · exact Or.inr hlow

/-- The `FpgaIo` reads what the simulator has published. -/
theorem Falling.readFpga {sim : SimCore} {sysInfo : SimInfo} (hs : Falling ty old sim sysInfo) :
    Falling ty old sim sim.simInfo := by
  refine ⟨hs.ramping, hs.dated, hs.relay, ?_⟩
  obtain hsame | ⟨-, hvoltage⟩ := hs.ramping.published
  · exact Or.inl (hsame ▸ hs.dated)
  · obtain hsame | hlow := hs.relay
    · exact Or.inl (hsame ▸ hs.dated)
    · exact Or.inr ⟨hlow, hvoltage⟩

/-- **One action of the loop**, when the power bit is written low. -/
theorem falling_step (hs : Falling ty old s.sim s.sysInfo) {a : LoopAction}
    (hforward : s.Forward a) (ha : Unforcing ty a) (hdims : s.Dims ty a) :
    Falling ty old (s.step a).sim (s.step a).sysInfo := by
  have hmove := dataMove_step s a
  generalize (s.step a).sim = sim, (s.step a).sysInfo = sysInfo at hmove
  cases hmove with
  | keep a => exact hs
  | sim a => exact hs.sim_step hforward ha.2 (keepsBit_of_inProgram ha.1 _ _)
  | writeFpga written pass hpass =>
      exact hs.sim_step trivial trivial (hdims written rfl (by rw [hpass, List.head?_cons]))
  | readFpga written pass hpass => exact hs.readFpga

/-- The new output port of the simulator is dim between two writes, and after them. -/
theorem dim_step (hs : OutputPortBits.getBitAtPos s.sim.newOutput (powerOnBitPos ty) = false)
    {a : LoopAction} (ha : Unforcing ty a) (hdims : s.Dims ty a) :
    OutputPortBits.getBitAtPos (s.step a).sim.newOutput (powerOnBitPos ty) = false := by
  have hmove := dataMove_step s a
  generalize (s.step a).sim = sim, (s.step a).sysInfo = sysInfo at hmove
  cases hmove with
  | keep a => exact hs
  | sim a => exact SimCore.newOutput_keeps hs (keepsBit_of_inProgram ha.1 _ _)
  | writeFpga written pass hpass => exact hdims written rfl (by rw [hpass, List.head?_cons])
  | readFpga written pass hpass => exact hs

/-- What a write hands to the simulator. -/
theorem newOutput_writeFpga (hwrite : s.pass.head? = some .writeFpga) (written : OutputPortBits) :
    (s.step (.fpga written)).sim.newOutput = s.outputPortBetween written := by
  obtain ⟨pass, hpass⟩ := List.head?_eq_some_iff.mp hwrite
  simp only [step, hpass]
  rfl

/-- After a write, and when the simulator is between two iterations, the voltage falls. -/
theorem falling_of_write (hs : Tracked ty s.sim s.sysInfo)
    (hwrite : s.pass.head? = some .writeFpga) {written : OutputPortBits}
    {between : List LoopAction}
    (hacts : Always step (fun s a => s.Forward a ∧ Unforcing ty a ∧ s.Dims ty a) s
      (.fpga written :: between))
    {r : ClosedLoop} (hr : r = run step s (.fpga written :: between)) (hidle : r.sim.todo = []) :
    Falling ty r.sim r.sim r.sysInfo := by
  have hwritten : Tracked ty (s.step (.fpga written)).sim (s.step (.fpga written)).sysInfo ∧
      OutputPortBits.getBitAtPos (s.step (.fpga written)).sim.newOutput (powerOnBitPos ty) =
        false := by
    refine ⟨tracked_step hs hacts.1.1 hacts.1.2.1, ?_⟩
    rw [newOutput_writeFpga hwrite]
    exact hacts.1.2.2 written rfl hwrite
  have hlater := hacts.2.invariant (fun s => Tracked ty s.sim s.sysInfo ∧
    OutputPortBits.getBitAtPos s.sim.newOutput (powerOnBitPos ty) = false) (fun s a h ha =>
      ⟨tracked_step h.1 ha.1 ha.2.1, dim_step h.2 ha.2.1 ha.2.2⟩) hwritten
  rw [← run_cons, ← hr] at hlater
  obtain ⟨htracked, hdim⟩ := hlater
  have hramping := SimCore.ramping_start htracked.bounded (SimCore.held_of_idle hidle hdim)
  rw [SimCore.voltageTime_of_nil hidle, SimCore.voltageCount_of_nil hidle] at hramping
  exact ⟨hramping, htracked.dated (Or.inl htracked.published), Or.inl rfl, Or.inl htracked.read⟩

/-- The record is newer than the simulator `old` by the time that a falling voltage takes, and by
no more iterations than may be rounded. -/
def LongAfter (ty : PowerSystemType) (old : SimCore) (info : SimInfo) : Prop :=
  (psCfg ty).outputOffMaxDelay ≤ (info.timestamp - old.timestamp) * rampFactor ∧
    info.iterations + 1 - old.iterations ≤ maxCount

instance decidableLongAfter (ty : PowerSystemType) (old : SimCore) (info : SimInfo) :
    Decidable (LongAfter ty old info) :=
  inferInstanceAs (Decidable (_ ∧ _))

/-- The record shows a low power bit and no voltage. -/
def Dark (ty : PowerSystemType) (info : SimInfo) : Prop :=
  OutputPortBits.getBitAtPos info.outputPort (powerOnBitPos ty) = false ∧
    info.toSysInfo.voltage ty = 0

/-- A record that is new enough shows no power. -/
theorem Falling.dark {sim : SimCore} {sysInfo : SimInfo} (hs : Falling ty old sim sysInfo)
    (hold : old.Bounded ty) (htime : LongAfter ty old sysInfo) : Dark ty sysInfo := by
  obtain ⟨hdelay, hcount⟩ := htime
  have hlater : ¬ sysInfo.timestamp ≤ old.timestamp := by
    intro hle
    have hpos := outputOffMaxDelay_pos ty
    have hnonpos : (sysInfo.timestamp - old.timestamp) * rampFactor ≤ 0 :=
      mul_nonpos_of_nonpos_of_nonneg (sub_nonpos.mpr hle) (by norm_num [rampFactor])
    linarith
  obtain ⟨hlow, hvoltage⟩ := hs.read.resolve_left hlater
  exact ⟨hlow, hvoltage.eq_rampEnd hold.nonneg hold.le_nominal hcount hdelay⟩

/-- **Dark records**: what a run brings in which every write is dim. -/
theorem dark_run (hs : Tracked ty s.sim s.sysInfo) (hwrite : s.pass.head? = some .writeFpga)
    {written : OutputPortBits} {between after : List LoopAction}
    (hacts : Always step (fun s a => s.Forward a ∧ Unforcing ty a ∧ s.Dims ty a) s
      (.fpga written :: between ++ after))
    {r : ClosedLoop} (hr : r = run step s (.fpga written :: between)) (hidle : r.sim.todo = [])
    (htime : LongAfter ty r.sim (run step r after).sysInfo) :
    Dark ty (run step r after).sysInfo := by
  rw [always_append, ← hr] at hacts
  have hfalling := falling_of_write hs hwrite hacts.1 hr hidle
  have hrun := hacts.2.invariant (fun q => Falling ty r.sim q.sim q.sysInfo)
    (fun _ _ hs ha => falling_step hs ha.1 ha.2.1 ha.2.2) hfalling
  exact hrun.dark hfalling.ramping.bounded htime

/-! ## With a registered `PowerSystem` -/

/-- A `PowerSystem` is registered, and the output bits agree with the targets. -/
structure Governed (s : ClosedLoop) : Prop where
  registered : s.registered = true
  pass : ∀ next ∈ s.pass, next.turnsOff = none
  system : s.system.WellFormed
  settled : s.settled.WellFormed

theorem wellFormed_processDaq (hs : s.system.WellFormed) (diffInSeconds : ℚ) (clock : Clocks) :
    (s.processDaq diffInSeconds clock).WellFormed := by
  have hchecked := System.wellFormed_step s.system (.checkTimeout diffInSeconds clock) hs
  exact System.wellFormed_step _ (.processDaq s.sysInfo.toSysInfo clock) hchecked

theorem governed_step (hs : s.Governed) {a : LoopAction} (ha : StaysRegistered true a) :
    (s.step a).Governed := by
  have hnot {next : FpgaStep} {pass : List FpgaStep} (hpass : s.pass = next :: pass) :
      next.turnsOff = none :=
    hs.pass next (by rw [hpass]; exact List.mem_cons_self)
  refine ⟨registered_step hs.registered ha, ?_, ?_, ?_⟩
  -- a pass that finds the `PowerSystem` turns no bit off
  · obtain hsame | ⟨-, hbegin⟩ | ⟨written, -, htail⟩ := pass_step s a
    · rw [hsame]
      exact hs.pass
    · rw [hbegin, hs.registered]
      decide
    · rw [htail]
      exact fun next hmem => hs.pass next (List.mem_of_mem_tail hmem)
  · obtain hsame | hdone | ⟨written, next, pass, pos, -, hpass, hnext, -⟩ := system_step s a
    · rw [hsame]
      exact hs.system
    · rw [hdone]
      exact hs.settled
    · exact absurd hnext (by simp [hnot hpass])
  · have hmove := systemMove_step s a
    generalize (s.step a).settled = r at hmove
    cases hmove with
    | keep a => exact hs.settled
    | powerOff written next pass pos hpass hnext => exact absurd hnext (by simp [hnot hpass])
    | daqInfoRead daqReadTime clock hnone => exact wellFormed_processDaq hs.system _ clock
    | daqTimeoutCheck now clock hnone hlate =>
        exact System.wellFormed_step s.system (.checkTimeout _ clock) hs.system
    | processOld clock hnone htimedOut =>
        exact System.wellFormed_step s.system (.processDaq s.sysInfo.toSysInfo clock) hs.system
    | command op hnone => exact System.wellFormed_step s.system op hs.system

theorem Reached.governed (hs : s.Reached ty (StaysRegistered true)) : s.Governed := by
  obtain ⟨sim, port, daqReadTime, acts, -, -, hacts, rfl⟩ := hs
  have hstart : (start sim (System.new port) daqReadTime).Governed :=
    ⟨rfl, by simp [start], System.wellFormed_new port, System.wellFormed_new port⟩
  exact hacts.invariant Governed (fun _ _ hs ha => governed_step hs ha.2.2) hstart

/-- The target of the subsystem is `OFF`, and the operation under way leaves it so. -/
def TargetOff (ty : PowerSystemType) (s : ClosedLoop) : Prop :=
  (s.system.sub ty).targPowerState = .off ∧ (s.settled.sub ty).targPowerState = .off

instance decidableTargetOff (ty : PowerSystemType) (s : ClosedLoop) : Decidable (s.TargetOff ty) :=
  inferInstanceAs (Decidable (_ ∧ _))

/-- What the actions of a run are in which the target stays off. -/
def KeptOff (ty : PowerSystemType) (s : ClosedLoop) (a : LoopAction) : Prop :=
  s.Forward a ∧ Unforcing ty a ∧ StaysRegistered true a ∧ s.TargetOff ty

instance decidableKeptOff (ty : PowerSystemType) (s : ClosedLoop) (a : LoopAction) :
    Decidable (KeptOff ty s a) :=
  inferInstanceAs (Decidable (_ ∧ _))

/-- A write between two writes of the operation under way is dim as well. -/
theorem Governed.dims (hs : s.Governed) (htarg : s.TargetOff ty) (a : LoopAction) :
    s.Dims ty a := by
  intro written _ _
  rw [powerOnBitPos_eq]
  obtain hafter | hbefore := powerOn_outputPortBetween s written ty
  · exact hafter.trans ((hs.settled.coupled ty).power_off htarg.2)
  · exact hbefore.trans ((hs.system.coupled ty).power_off htarg.1)

/-- In a run in which the target stays off every write is dim. -/
theorem Governed.always_dims (hs : s.Governed) {acts : List LoopAction}
    (hacts : Always step (KeptOff ty) s acts) :
    Always step (fun s a => s.Forward a ∧ Unforcing ty a ∧ s.Dims ty a) s acts :=
  hacts.imp Governed (fun _ a hs ha =>
    ⟨governed_step hs ha.2.2.1, ha.1, ha.2.1, hs.dims ha.2.2.2 a⟩) hs

/-- While the target is off an operation leaves an actual state `OFF` that is so. -/
theorem settled_actual_step (htarg : s.TargetOff ty)
    (hactual : (s.settled.sub ty).actualPowerState = .off) {a : LoopAction} (ha : InProgram a) :
    ((s.step a).settled.sub ty).actualPowerState = .off := by
  have hmove := systemMove_step s a
  -- what the `PowerSystem` thread does lets an actual state go down, or keeps it
  have hdown {r : System} (hnone : s.ahead = none) (h : s.system.Down ty r) :
      (r.sub ty).actualPowerState = .off := by
    rw [settled_of_none hnone] at hactual
    obtain hoff | hsame := h.2
    · exact hoff
    · exact hsame.trans hactual
  generalize (s.step a).settled = r at hmove
  cases hmove with
  | keep a => exact hactual
  | powerOff written next pass pos hpass hnext => cases ty <;> exact hactual
  | daqInfoRead daqReadTime clock hnone =>
      obtain ⟨hoff, hchecked⟩ := PowerSystem.down_checkTimeout clock
        (timePassedSec s.sysInfo.timestamp daqReadTime) htarg.1
      have hread := (PowerSystem.down_parts clock s.sysInfo.toSysInfo hoff).2.2.2
      exact hdown hnone (hchecked.trans hread)
  | daqTimeoutCheck now clock hnone hlate =>
      exact hdown hnone (PowerSystem.down_checkTimeout clock _ htarg.1).2
  | processOld clock hnone htimedOut =>
      exact hdown hnone (PowerSystem.down_parts clock s.sysInfo.toSysInfo htarg.1).2.2.2
  | command op hnone =>
      rw [settled_of_none hnone] at hactual
      exact (System.actual_command s.system ha ty).trans hactual

/-- The same for the system itself, once the operation has finished. -/
theorem actual_step (hsettled : (s.settled.sub ty).actualPowerState = .off)
    (hactual : (s.system.sub ty).actualPowerState = .off) (a : LoopAction) :
    ((s.step a).system.sub ty).actualPowerState = .off := by
  obtain hsame | hdone | ⟨written, next, pass, pos, -, -, -, hwrite⟩ := system_step s a
  · rw [hsame]
    exact hactual
  · rw [hdone]
    exact hsettled
  · rw [hwrite]
    cases ty <;> exact hactual

/-- From an operation that leaves the actual state `OFF` on it stays so, and the system shows it
when the operation has finished. -/
theorem actual_run (hsettled : (s.settled.sub ty).actualPowerState = .off)
    {acts : List LoopAction} (hacts : Always step (KeptOff ty) s acts) :
    ((run step s acts).settled.sub ty).actualPowerState = .off ∧
      ((s.system.sub ty).actualPowerState = .off ∨ .finish ∈ acts →
        ((run step s acts).system.sub ty).actualPowerState = .off) := by
  induction acts generalizing s with
  | nil => exact ⟨hsettled, fun h => h.resolve_right List.not_mem_nil⟩
  | cons a rest ih =>
      have hnext := settled_actual_step hacts.1.2.2.2 hsettled hacts.1.2.1.inProgram
      obtain ⟨hend, hfinished⟩ := ih hnext hacts.2
      refine ⟨hend, fun h => hfinished ?_⟩
      obtain hactual | hmem := h
      · exact Or.inl (actual_step hsettled hactual a)
      · obtain rfl | hmem := List.mem_cons.mp hmem
        · exact Or.inl hsettled
        · exact Or.inr hmem

/-- The voltage at which a subsystem counts as off is positive. -/
theorem voltageOffLevel_pos (ty : PowerSystemType) : 0 < (psCfg ty).voltageOffLevel := by
  cases ty <;> norm_num [psCfg, setupMotor, setupComm]

/-- The read of a record that shows no power. -/
theorem actual_daqInfoRead (htarg : s.TargetOff ty) (hnone : s.ahead = none)
    (hdark : Dark ty s.sysInfo) (daqReadTime : Time) (clock : Clocks) :
    ((s.step (.daqInfoRead daqReadTime clock)).settled.sub ty).actualPowerState = .off := by
  obtain ⟨hlow, hvoltage⟩ := hdark
  have hoff := (PowerSystem.down_checkTimeout clock
    (timePassedSec s.sysInfo.timestamp daqReadTime) htarg.1).1
  rw [powerOnBitPos_eq] at hlow
  simp only [step, hnone, Option.isNone_none, if_true]
  exact PowerSystem.actual_processDaq clock s.sysInfo.toSysInfo hoff hlow
    (by rw [hvoltage]; exact voltageOffLevel_pos ty)

/-- **Power goes off.**  The target stays `OFF` from a state of a run in which the `FpgaIo` is
about to write the output port, and later the simulator is between two iterations.  Every record
that is newer than that by `outputOffMaxDelay / 1.25` shows a low power bit and no voltage.  The
first read of such a record that is processed brings the actual state to `OFF` when it has
finished, and from then on it stays so. -/
theorem power_goes_off (hs : s.Reached ty (StaysRegistered true))
    (hwrite : s.pass.head? = some .writeFpga) {written : OutputPortBits}
    {between after : List LoopAction}
    (hacts : Always step (KeptOff ty) s (.fpga written :: between ++ after))
    {r : ClosedLoop} (hr : r = run step s (.fpga written :: between)) (hidle : r.sim.todo = []) :
    (LongAfter ty r.sim (run step r after).sysInfo → Dark ty (run step r after).sysInfo) ∧
      ∀ middle daqReadTime clock rest, after = middle ++ .daqInfoRead daqReadTime clock :: rest →
        (run step r middle).ahead = none → LongAfter ty r.sim (run step r middle).sysInfo →
        ((run step r after).settled.sub ty).actualPowerState = .off ∧
          (.finish ∈ rest → ((run step r after).system.sub ty).actualPowerState = .off) := by
  have htracked := hs.tracked
  have hdims := hs.governed.always_dims hacts
  refine ⟨dark_run htracked hwrite hdims hr hidle, ?_⟩
  intro middle daqReadTime clock rest hsplit hnone htime
  subst hsplit
  rw [← List.append_assoc, always_append] at hdims
  have hdark := dark_run htracked hwrite hdims.1 hr hidle htime
  rw [always_append, ← hr, always_append] at hacts
  obtain ⟨-, -, hread⟩ := hacts
  have hactual := actual_daqInfoRead hread.1.2.2.2 hnone hdark daqReadTime clock
  rw [run_append, run_cons]
  exact (actual_run hactual hread.2).imp_right fun h hmem => h (Or.inr hmem)

/-- Comm power is turned on. -/
def commComesUp : List LoopAction :=
  cycle 0.2 ++
    [.command (.reportComConnectionCount 1 fun _ => ⟨0.2, 0.2⟩), .finish,
      .command (.powerComm true fun _ => ⟨0.2, 0.2⟩), .finish] ++
    cycle 0.3 ++ cycle 0.5

/-- Comm power is on its way up, at 11 V. -/
def commUp : ClosedLoop := run step (ClosedLoop.start published (System.new 4) 0.1) commComesUp

/-- A command turns it off again, and the `FpgaIo` begins a pass. -/
def commTurnsOff : List LoopAction :=
  [.command (.powerComm false fun _ => ⟨0.5, 0.5⟩), .finish, .beginPass]

/-- A write, an iteration, and a read that is processed. -/
def writeAndRead (timestamp : Time) : List LoopAction :=
  (SimCore.iteration timestamp).map .sim ++ [.fpga 0] ++ readAt timestamp

theorem unforced_published : SimCore.Unforced .comm published :=
  ⟨_, 0, SimCore.iteration 0.1, by decide +kernel, rfl⟩

/-- Comm power is `OFF` 0.1 s after the last iteration that found it on. -/
theorem power_goes_off_comm :
    ((run step (run step commUp (commTurnsOff ++ [.fpga 0])) (writeAndRead 0.6)).system.sub
      .comm).actualPowerState = .off := by
  have hreached : (run step commUp commTurnsOff).Reached .comm (StaysRegistered true) :=
    ⟨published, 4, 0.1, commComesUp ++ commTurnsOff, unforced_published, by decide +kernel,
      by decide +kernel, by rw [run_append]; rfl⟩
  have hacts : Always step (KeptOff .comm) (run step commUp commTurnsOff)
      (.fpga 0 :: [] ++ writeAndRead 0.6) := by
    decide +kernel
  rw [run_append]
  exact ((power_goes_off hreached (by decide +kernel) hacts rfl (by decide +kernel)).2
    ((SimCore.iteration 0.6).map .sim ++ [.fpga 0]) 0.6 (fun _ => ⟨0.6, 0.6⟩) [.finish] rfl
    (by decide +kernel) (by decide +kernel)).2 (by simp)

/-! ## With no `PowerSystem` -/

/-- The step of a pass that turns the power bit of a subsystem off. -/
def offStep : PowerSystemType → FpgaStep
  | .motor => .motorPowerOff
  | .comm => .commPowerOff

theorem turnsOff_offStep (ty : PowerSystemType) :
    (offStep ty).turnsOff = some (psCfg ty).outputPowerOnBitPos := by
  cases ty <;> rfl

/-- The action turns nothing on. -/
def TurnsNothingOn : LoopAction → Prop
  | .command op => op.TurnsNothingOn
  | _ => True

instance decidableActionTurnsNothingOn : ∀ a, Decidable (TurnsNothingOn a)
  | .command op => inferInstanceAs (Decidable op.TurnsNothingOn)
  | .sim _ => inferInstanceAs (Decidable True)
  | .beginPass => inferInstanceAs (Decidable True)
  | .fpga _ => inferInstanceAs (Decidable True)
  | .daqInfoRead _ _ => inferInstanceAs (Decidable True)
  | .daqTimeoutCheck _ _ => inferInstanceAs (Decidable True)
  | .processOld _ => inferInstanceAs (Decidable True)
  | .finish => inferInstanceAs (Decidable True)
  | .registerPowerSys _ => inferInstanceAs (Decidable True)

/-- The power bit is low in the output port of the system. -/
abbrev BitLow (ty : PowerSystemType) (system : System) : Prop :=
  OutputPortBits.getBitAtPos system.outputPort (psCfg ty).outputPowerOnBitPos = false

/-- The operation under way turns nothing on. -/
def AheadTurnsNothingOn (s : ClosedLoop) : Prop := ∀ op ∈ s.ahead, op.turnsOn = none

theorem aheadTurnsNothingOn_step (hs : s.AheadTurnsNothingOn) {a : LoopAction}
    (ha : TurnsNothingOn a) : (s.step a).AheadTurnsNothingOn := by
  have hbegin {r : ClosedLoop} {begun : Underway} (hr : r.ahead = some begun)
      (hbegun : begun.turnsOn = none) : r.AheadTurnsNothingOn := by
    intro op hop
    rw [hr] at hop
    obtain rfl := Option.some.inj hop
    exact hbegun
  cases a with
  | fpga written =>
      -- a step of the pass may change what the operation leaves, but not the operation
      have hwrite (pos : Fin 8) :
          (s.writeOutputPortBitPos written pos false).AheadTurnsNothingOn := by
        intro op hop
        simp only [writeOutputPortBitPos] at hop
        split_ifs at hop
        · exact hs op hop
        · obtain ⟨before, hbefore, rfl⟩ := Option.mem_map.mp hop
          exact hs before hbefore
      simp only [step]
      split
      · exact hs
      · next next pass hpass =>
          cases next with
          | motorPowerOff => exact hwrite _
          | commPowerOff => exact hwrite _
          | writeFpga => exact hs
          | readFpga => exact hs
  | command op =>
      simp only [step]
      split_ifs
      · exact hbegin rfl ha
      · exact hs
  | daqInfoRead daqReadTime clock | daqTimeoutCheck now clock | processOld clock =>
      simp only [step]
      split_ifs
      · exact hbegin rfl rfl
      · exact hs
  | beginPass =>
      simp only [step]
      split_ifs <;> exact hs
  | finish =>
      intro op hop
      exact absurd hop (Option.not_mem_none op)
  | sim a => exact hs
  | registerPowerSys registered => exact hs

theorem AheadTurnsNothingOn.not_sets (hs : s.AheadTurnsNothingOn) (pos : Fin 8) :
    ∀ op ∈ s.ahead, ¬ op.Sets pos := by
  rintro op hop ⟨ty, hty, -⟩
  rw [hs op hop] at hty
  exact absurd hty (Option.not_mem_none ty)

/-- A low bit of the system is low in what becomes of it. -/
theorem bitLow_settled_step (hs : BitLow ty s.system → BitLow ty s.settled) {a : LoopAction}
    (ha : TurnsNothingOn a) (hlow : BitLow ty s.system) : BitLow ty (s.step a).settled := by
  have hchecked (diffInSeconds : ℚ) (clock : Clocks) :
      BitLow ty (s.checkTimeout diffInSeconds clock) :=
    System.low_step s.system (.checkTimeout diffInSeconds clock) rfl hlow
  have hmove := systemMove_step s a
  generalize (s.step a).settled = r at hmove
  cases hmove with
  | keep a => exact hs hlow
  | powerOff written next pass pos hpass hnext =>
      have hsettled := hs hlow
      simp only [BitLow, OutputPortBits.getBitAtPos_writeBit]
      split_ifs
      · rfl
      · exact hsettled
  | daqInfoRead daqReadTime clock hnone =>
      exact System.low_step _ (.processDaq s.sysInfo.toSysInfo clock) rfl (hchecked _ clock)
  | daqTimeoutCheck now clock hnone hlate => exact hchecked _ clock
  | processOld clock hnone htimedOut =>
      exact System.low_step s.system (.processDaq s.sysInfo.toSysInfo clock) rfl hlow
  | command op hnone => exact System.low_step s.system op ha hlow

/-- A low bit of the system stays low. -/
theorem bitLow_step (hs : BitLow ty s.system → BitLow ty s.settled) (hlow : BitLow ty s.system)
    (a : LoopAction) : BitLow ty (s.step a).system := by
  obtain hsame | hdone | ⟨written, next, pass, pos, -, -, -, hwrite⟩ := system_step s a
  · rw [hsame]
    exact hlow
  · rw [hdone]
    exact hs hlow
  · rw [hwrite]
    simp only [BitLow, OutputPortBits.getBitAtPos_writeBit]
    split_ifs
    · rfl
    · exact hlow

/-- No operation is under way that turns the bit on. -/
theorem bitLow_falls_step (hs : BitLow ty s.system → BitLow ty s.settled)
    (hahead : s.AheadTurnsNothingOn) {a : LoopAction} (ha : TurnsNothingOn a) :
    BitLow ty (s.step a).system → BitLow ty (s.step a).settled := by
  intro hlow
  by_cases hbefore : BitLow ty s.system
  · exact bitLow_settled_step hs ha hbefore
  obtain hsame | hdone | ⟨written, next, pass, pos, rfl, hpass, hnext, hwrite⟩ := system_step s a
  · rw [hsame] at hlow
    exact absurd hlow hbefore
  · -- the operation under way has finished and was not followed by another one
    rw [hdone] at hlow
    have hbusy (hnone : s.ahead = none) : BitLow ty (s.step a).settled := by
      rw [settled_of_none hnone] at hlow
      exact absurd hlow hbefore
    have hmove := systemMove_step s a
    revert hbusy
    generalize (s.step a).settled = r at hmove
    intro hbusy
    cases hmove with
    | keep a => exact hlow
    | powerOff written next pass pos hpass hnext =>
        simp only [BitLow, OutputPortBits.getBitAtPos_writeBit]
        split_ifs
        · rfl
        · exact hlow
    | daqInfoRead daqReadTime clock hnone => exact hbusy hnone
    | daqTimeoutCheck now clock hnone hlate => exact hbusy hnone
    | processOld clock hnone htimedOut => exact hbusy hnone
    | command op hnone => exact hbusy hnone
  · by_cases hpos : (psCfg ty).outputPowerOnBitPos = pos
    · subst hpos
      exact (getBitAtPos_turnsOff hpass hnext (hahead.not_sets _) hs written).2
    · rw [hwrite] at hlow
      simp only [BitLow, OutputPortBits.getBitAtPos_writeBit, if_neg hpos] at hlow
      exact absurd hlow hbefore

/-- With no `PowerSystem`: the power bit is low, or the pass has still to turn it off, and no
operation under way turns it on. -/
structure Unserved (ty : PowerSystemType) (s : ClosedLoop) : Prop where
  registered : s.registered = false
  pass : s.pass <:+ passSteps false
  ahead : s.AheadTurnsNothingOn
  falls : BitLow ty s.system → BitLow ty s.settled
  low : offStep ty ∈ s.pass ∨ BitLow ty s.system

/-- The pass comes closer to its end, or begins anew. -/
theorem Unserved.pass_step (hs : s.Unserved ty) (a : LoopAction) :
    (s.step a).pass <:+ passSteps false := by
  obtain hsame | ⟨-, hbegin⟩ | ⟨written, -, htail⟩ := ClosedLoop.pass_step s a
  · rw [hsame]
    exact hs.pass
  · rw [hbegin, hs.registered]
  · rw [htail]
    exact (List.tail_suffix _).trans hs.pass

/-- The step that turns the bit off is still to come, or is this one. -/
theorem Unserved.offStep_step (hs : s.Unserved ty) (hmem : offStep ty ∈ s.pass) (a : LoopAction) :
    offStep ty ∈ (s.step a).pass ∨ BitLow ty (s.step a).system := by
  obtain hsame | ⟨hnil, -⟩ | ⟨written, rfl, htail⟩ := ClosedLoop.pass_step s a
  · exact Or.inl (hsame ▸ hmem)
  · rw [hnil] at hmem
    exact absurd hmem List.not_mem_nil
  · rw [htail]
    cases hpass : s.pass with
    | nil =>
        rw [hpass] at hmem
        exact absurd hmem List.not_mem_nil
    | cons next pass =>
        rw [hpass] at hmem
        obtain rfl | hlater := List.mem_cons.mp hmem
        · exact Or.inr (getBitAtPos_turnsOff hpass (turnsOff_offStep ty) (hs.ahead.not_sets _)
            hs.falls written).1
        · exact Or.inl hlater

theorem unserved_step (hs : s.Unserved ty) {a : LoopAction}
    (hregistered : StaysRegistered false a) (ha : TurnsNothingOn a) : (s.step a).Unserved ty where
  registered := registered_step hs.registered hregistered
  pass := hs.pass_step a
  ahead := aheadTurnsNothingOn_step hs.ahead ha
  falls := bitLow_falls_step hs.falls hs.ahead ha
  low := by
    obtain hmem | hlow := hs.low
    · exact hs.offStep_step hmem a
    · exact Or.inr (bitLow_step hs.falls hlow a)

/-- When the pass comes to its write, it has turned the bit off. -/
theorem Unserved.dims (hs : s.Unserved ty) (a : LoopAction) : s.Dims ty a := by
  intro written _ hwrite
  -- the write comes after the steps that turn the bits off
  have hnot : offStep ty ∉ s.pass := by
    have hall : ∀ pass ∈ (passSteps false).tails, pass.head? = some .writeFpga →
        offStep ty ∉ pass := by
      cases ty <;> decide
    exact hall s.pass ((List.mem_tails _ _).mpr hs.pass) hwrite
  have hlow := hs.low.resolve_left hnot
  rw [powerOnBitPos_eq]
  obtain hafter | hbefore := powerOn_outputPortBetween s written ty
  · exact hafter.trans (hs.falls hlow)
  · exact hbefore.trans hlow

/-- A pass that begins with no `PowerSystem` and between two operations. -/
theorem unserved_beginPass (hregistered : s.registered = false) (hidle : s.pass = [])
    (hnone : s.ahead = none) : (s.step .beginPass).Unserved ty := by
  have hpass : (s.step .beginPass).pass = passSteps false := by
    simp only [step, hidle, if_true, hregistered]
  refine ⟨?_, ?_, ?_, ?_, Or.inl ?_⟩
  · simp only [step, hidle, if_true, hregistered]
  · rw [hpass]
  · simp [AheadTurnsNothingOn, step, hidle, hnone]
  · simp only [step, hidle, if_true]
    intro hlow
    change BitLow ty s.settled
    rw [settled_of_none hnone]
    exact hlow
  · rw [hpass]
    cases ty <;> decide

/-- What the actions of a run are with no `PowerSystem`. -/
def Unattended (ty : PowerSystemType) (s : ClosedLoop) (a : LoopAction) : Prop :=
  s.Forward a ∧ Unforcing ty a ∧ StaysRegistered false a ∧ TurnsNothingOn a

instance decidableUnattended (ty : PowerSystemType) (s : ClosedLoop) (a : LoopAction) :
    Decidable (Unattended ty s a) :=
  inferInstanceAs (Decidable (_ ∧ _))

/-- **The hardware goes dark.**  A pass of the `FpgaIo` begins when no `PowerSystem` is
registered and no operation is under way, and from there on none is registered and no command
turns power on.  Once the pass has written the output port and the simulator is between two
iterations, the same is true of the records whatever the targets are. -/
theorem power_goes_off_unregistered (hs : s.Reached ty fun _ => True)
    (hregistered : s.registered = false) (hpass : s.pass = []) (hnone : s.ahead = none)
    {first : List LoopAction} {t : ClosedLoop} (ht : t = run step s (.beginPass :: first))
    (hwrite : t.pass.head? = some .writeFpga)
    {written : OutputPortBits} {between after : List LoopAction}
    (hacts : Always step (Unattended ty) s
      (.beginPass :: first ++ (.fpga written :: between ++ after)))
    {r : ClosedLoop} (hr : r = run step t (.fpga written :: between)) (hidle : r.sim.todo = [])
    (htime : LongAfter ty r.sim (run step r after).sysInfo) :
    Dark ty (run step r after).sysInfo := by
  rw [always_append, ← ht] at hacts
  -- up to the write the pass has its step to come, or the bit is low
  have hfirst := hacts.1.2.invariant (fun s => s.Unserved ty ∧ Tracked ty s.sim s.sysInfo)
    (fun _ _ hs ha => ⟨unserved_step hs.1 ha.2.2.1 ha.2.2.2, tracked_step hs.2 ha.1 ha.2.1⟩)
    ⟨unserved_beginPass hregistered hpass hnone,
      tracked_step hs.tracked (a := .beginPass) trivial trivial⟩
  rw [← run_cons, ← ht] at hfirst
  have hdims : Always step (fun s a => s.Forward a ∧ Unforcing ty a ∧ s.Dims ty a) t
      (.fpga written :: between ++ after) :=
    hacts.2.imp (fun s => s.Unserved ty)
      (fun _ a hs ha => ⟨unserved_step hs ha.2.2.1 ha.2.2.2, ha.1, ha.2.1, hs.dims a⟩) hfirst.1
  exact dark_run hfirst.2 hwrite hdims hr hidle htime

/-- The `PowerSystem` is gone while comm power comes up. -/
def commUnserved : ClosedLoop := commUp.step (.registerPowerSys false)

theorem power_goes_off_unregistered_comm :
    (run step (run step (run step commUnserved [.beginPass, .fpga 0, .fpga 0]) [.fpga 0])
      (writeAndRead 0.6)).sysInfo.toSysInfo.voltage .comm = 0 := by
  have hreached : commUnserved.Reached .comm fun _ => True :=
    ⟨published, 4, 0.1, commComesUp ++ [.registerPowerSys false], unforced_published,
      by decide +kernel, by decide +kernel, by rw [run_append]; rfl⟩
  have hacts : Always step (Unattended .comm) commUnserved
      (.beginPass :: [.fpga 0, .fpga 0] ++ (.fpga 0 :: [] ++ writeAndRead 0.6)) := by
    decide +kernel
  exact (power_goes_off_unregistered hreached (by decide +kernel) (by decide +kernel)
    (by decide +kernel) rfl (by decide +kernel) hacts rfl (by decide +kernel)
    (by decide +kernel)).2

end ClosedLoop

end M2Cell
