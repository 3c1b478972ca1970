import M2Cell.State.SystemShutdown
import M2Cell.Proofs.MotorComm
import M2Cell.Proofs.ModelAgreement

/-!
# The shutdown and the power

`systemShutdown` relies on `OFFLINE` to keep the power off.  The DAQ threads and the
`FaultMgr` do not leave `OFFLINE` and turn nothing on (`rests_step`), but the first
connection leaves it, and a power command may act on a state that was read before.
`irrevocable_iff` says exactly which runs keep the power off and the `Model` in
`OFFLINE` once everything was turned off, and `irrevocable_of_undisturbed` gives a
condition on the steps after `systemShutdown` was called.

Most steps rest (`Rests`): one lemma for each function that the DAQ threads call, composed by
`Rests.trans` and `Rests.ite`.  For the two that do not, the condition is exact: with all targets
off a command leaves them off unless it turns on a subsystem that is ready
(`targetsOff_cmdPowerBase_iff`), and a connection leaves `OFFLINE` alone unless it is the first
(`Globals.currentState_setTcpIpConnected_iff`).  `offForGood_step_iff` puts one step together,
with `OffForGood` as the invariant.

The second condition needs another invariant, that the `Model` is in `OFFLINE` since
`systemShutdown` was called (`OfflineSinceCalled`); with it an undisturbed step is safe.
-/

namespace M2Cell

namespace System

/-! ## Steps that turn nothing on and stay in `OFFLINE` -/

/-- A step that turns nothing on and does not leave `OFFLINE`. -/
structure Rests (s r : System) : Prop where
  descends : Descends s r
  offline : s.currentState = .offline → r.currentState = .offline

namespace Rests

variable {s t r : System}

theorem refl (s : System) : Rests s s := ⟨.refl s, id⟩

theorem trans (h : Rests s t) (h' : Rests t r) : Rests s r :=
  ⟨h.descends.trans h'.descends, fun hoffline => h'.offline (h.offline hoffline)⟩

theorem ite {p : Prop} [Decidable p] (ht : Rests s t) (hr : Rests s r) :
    Rests s (if p then t else r) := by
  split
  · exact ht
  · exact hr

theorem of_currentState (h : Descends s r) (hstate : r.currentState = s.currentState) :
    Rests s r := ⟨h, hstate.trans⟩

theorem targetsOff (h : Rests s r) (hoff : s.TargetsOff) : r.TargetsOff :=
  fun ty => h.descends.targ_off (hoff ty)

end Rests

variable (s : System) (ty : PowerSystemType) (clock : Clocks)

theorem rests_setPowerOff : Rests s (s.setPowerOff ty clock) :=
  .of_currentState (descends_setPowerOff s ty clock) (currentState_setPowerOff s ty clock)

@[simp] theorem currentState_turnOffAll :
    (s.turnOffAll clock).currentState = s.currentState := by
  simp [turnOffAll]

theorem rests_turnOffAll : Rests s (s.turnOffAll clock) :=
  .of_currentState (descends_turnOffAll clock s) (currentState_turnOffAll s clock)

theorem rests_goOffline : Rests s (s.changeState clock .offline).1 where
  descends := (offOrSame_changeState clock s .offline).descends
  offline hoffline := by
    rw [changeState, if_pos hoffline.symm, currentState_enterState, hoffline]

theorem rests_goToSafeMode : Rests s (s.goToSafeMode clock).1 where
  descends := (offOrSame_goToSafeMode clock s).descends
  offline hoffline := by
    have hoff : (s.turnOffAll clock).currentState = .offline := by simpa using hoffline
    rw [goToSafeMode, goToASafeState, if_pos (Or.inl hoff)]
    exact (rests_goOffline (s.turnOffAll clock) clock).offline hoff

theorem rests_reportPowerSystemStateChange : Rests s (s.reportPowerSystemStateChange clock) where
  descends := (offOrSame_reportPowerSystemStateChange clock s).descends
  offline hoffline := by
    rw [reportPowerSystemStateChange_eq]
    split_ifs
    · rw [currentState_turnOffAll, hoffline]
    · simp [reportedState, hoffline]

theorem rests_applyFaultMgr (result : FaultMgr × Bool) : Rests s (s.applyFaultMgr clock result) where
  descends := descends_applyFaultMgr clock s result
  offline hoffline := by
    unfold applyFaultMgr
    dsimp only
    split_ifs
    · exact (rests_goToSafeMode { s with faultMgr := result.1 } clock).offline hoffline
    · exact hoffline

theorem rests_processFaults (info : SysInfo) : Rests s (s.processFaults ty clock info) :=
  .of_currentState (descends_processFaults ty clock info s) (currentState_store s ty _)

theorem rests_reportStateChange : Rests s (s.reportStateChange ty clock) :=
  .ite (rests_reportPowerSystemStateChange s clock) (.refl s)

theorem rests_savePrev : Rests s (s.savePrev ty) :=
  .of_currentState (descends_savePrev ty s) (currentState_store s ty _)

theorem rests_processTarg (faultsSet : FaultStatusBits) :
    Rests s (s.processTarg ty clock faultsSet).1 :=
  .of_currentState (descends_processTarg ty clock faultsSet s) (currentState_store s ty _)

end System

namespace DaqThreads

theorem rests_perform (clock : Clocks) (t : DaqThreads × System) (next : DaqStep) :
    System.Rests t.2 (perform clock t next).2 := by
  cases next with
  | getSysInfo => exact .refl t.2
  | setPowerOff ty => exact System.rests_setPowerOff t.2 ty clock
  | reportTimeout => exact System.rests_applyFaultMgr t.2 clock _
  | reportHealth => exact .ite (System.rests_applyFaultMgr t.2 clock _) (.refl t.2)
  | checkMotorComm => exact .ite (System.rests_setPowerOff t.2 .motor clock) (.refl t.2)
  | processFaults ty => exact System.rests_processFaults t.2 ty clock t.1.info
  | compare ty => exact .refl t.2
  | report ty => exact .ite (System.rests_reportStateChange t.2 ty clock) (.refl t.2)
  | savePrev ty => exact System.rests_savePrev t.2 ty
  | processTarg ty => exact System.rests_processTarg t.2 ty clock t.1.currentFaults
  | updatePowerFaults => exact System.rests_applyFaultMgr t.2 clock _

/-- **The DAQ threads** turn nothing on and do not leave `OFFLINE`. -/
theorem rests_step (t : DaqThreads × System) (action : DaqAction) :
    System.Rests t.2 (step t action).2 := by
  cases action with
  | checkLoop => exact .refl t.2
  | readWriteFpga info =>
      simp only [step]
      split_ifs
      · exact .refl t.2
      · exact .refl t.2
  | queueTimeoutCheck => exact .refl t.2
  | takeCommand diffInSeconds =>
      simp only [step]
      split
      · exact .refl t.2
      · exact .refl t.2
  | perform clock =>
      simp only [step]
      split
      · exact .refl t.2
      · rename_i next todo _
        exact rests_perform clock ({ t.1 with todo := todo }, t.2) next

end DaqThreads

/-! ## Power commands -/

/-- The states that obey power commands. -/
def StateEnum.Obeys : StateEnum → Prop
  | .standby => True
  | .idle => True
  | _ => False

instance : ∀ state : StateEnum, Decidable state.Obeys
  | .standby => inferInstanceAs (Decidable True)
  | .idle => inferInstanceAs (Decidable True)
  | .offline => inferInstanceAs (Decidable False)
  | .startup => inferInstanceAs (Decidable False)
  | .pause => inferInstanceAs (Decidable False)
  | .inMotion => inferInstanceAs (Decidable False)

namespace System

/-- Nothing keeps the subsystem from being turned on: no fault, the CRIO bit, and for
the motor the power of comm. -/
def CanTurnOn (ty : PowerSystemType) (s : System) : Prop :=
  s.checkForFaults ty = false ∧ (s.sub ty).getCrioReadyOutputOn ty = true ∧
    (ty = .motor → s.comm.actualPowerState = .on)

instance (ty : PowerSystemType) (s : System) : Decidable (s.CanTurnOn ty) :=
  inferInstanceAs (Decidable (_ ∧ _ ∧ (_ → _)))

variable (s : System) (ty : PowerSystemType) (clock : Clocks)

/-- With all targets off, a `setPowerOn` leaves them off or turns on its own. -/
theorem targetsOff_setPowerOn_iff (hoff : s.TargetsOff) :
    (s.setPowerOn ty clock).1.TargetsOff ↔
      ¬ (s.checkForFaults ty = false ∧ (s.sub ty).getCrioReadyOutputOn ty = true) := by
  rw [← targPowerState_setPowerOn_iff s clock ty]
  constructor
  · intro hafter hon
    rw [hafter ty] at hon
    cases hon
  · intro hon ty'
    rcases ty.eq_or_eq_other ty' with rfl | rfl
    · have htarg := (setPowerOn_spec s ty' clock).2.1
      split_ifs at htarg
      · exact absurd htarg hon
      · exact htarg
    · rw [(confined_setPowerOn s ty clock).other]
      exact hoff ty.other

theorem targetsOff_cmdPowerBase_iff (on : Bool) (hoff : s.TargetsOff) :
    (PowerSystem.cmdPowerBase clock ty on s).1.TargetsOff ↔ ¬ (on = true ∧ s.CanTurnOn ty) := by
  cases on with
  | false =>
      simp only [Bool.false_eq_true, false_and, not_false_eq_true, iff_true]
      cases ty with
      | motor =>
          simp only [PowerSystem.cmdPowerBase, PowerSystem.powerMotor, Bool.false_eq_true,
            false_and, if_false]
          exact (rests_setPowerOff s .motor clock).targetsOff hoff
      | comm =>
          simp only [PowerSystem.cmdPowerBase, PowerSystem.powerComm, Bool.not_false, true_and,
            Bool.false_eq_true, if_false]
          have hmotor := Rests.ite (p := s.motor.actualPowerState ≠ .off)
            (rests_setPowerOff s .motor clock) (.refl s)
          exact (rests_setPowerOff _ .comm clock).targetsOff (hmotor.targetsOff hoff)
  | true =>
      have hon := targetsOff_setPowerOn_iff s ty clock hoff
      cases ty with
      | motor =>
          -- a motor command is refused while comm is not on
          by_cases hcomm : s.comm.actualPowerState = .on
          · simpa [PowerSystem.cmdPowerBase, PowerSystem.powerMotor, CanTurnOn, hcomm] using hon
          · simpa [PowerSystem.cmdPowerBase, PowerSystem.powerMotor, CanTurnOn, hcomm] using hoff
      | comm => simpa [PowerSystem.cmdPowerBase, PowerSystem.powerComm, CanTurnOn] using hon

end System

/-- The state that is read decides whether a command is obeyed. -/
theorem StateEnum.targetsOff_cmdPower_iff (state : StateEnum) (clock : Clocks)
    (powerType : PowerSystemType) (on : Bool) (s : System) (hoff : s.TargetsOff) :
    (state.cmdPower clock powerType on s).1.TargetsOff ↔
      (state.Obeys → ¬ (on = true ∧ s.CanTurnOn powerType)) := by
  have hbase := s.targetsOff_cmdPowerBase_iff powerType clock on hoff
  cases state with
  | standby | idle => simpa only [StateEnum.cmdPower, StateEnum.Obeys, true_imp_iff] using hbase
  | offline | startup | pause | inMotion =>
      simpa only [StateEnum.cmdPower, StateEnum.Obeys, false_imp_iff, iff_true] using hoff

theorem StateEnum.currentState_cmdPower (state : StateEnum) (clock : Clocks)
    (powerType : PowerSystemType) (on : Bool) (s : System) :
    (state.cmdPower clock powerType on s).1.currentState = s.currentState := by
  have hbase : (PowerSystem.cmdPowerBase clock powerType on s).1.currentState = s.currentState := by
    cases powerType with
    | motor =>
        simp only [PowerSystem.cmdPowerBase, PowerSystem.powerMotor]
        split_ifs <;> simp [System.setPowerOn]
    | comm =>
        simp only [PowerSystem.cmdPowerBase, PowerSystem.powerComm]
        split_ifs <;> simp [System.setPowerOn]
  cases state with
  | standby | idle => exact hbase
  | offline | startup | pause | inMotion => rfl

/-! ## Connections -/

/-- `setTcpIpConnected` moves the `Model` to `STANDBY` with the first connection only. -/
theorem Globals.stateAfter_countAfter (connecting : Bool) (originalCount : ℤ) :
    stateAfter originalCount (countAfter connecting originalCount) = some .standby ↔
      connecting = true ∧ originalCount = 0 := by
  unfold stateAfter countAfter
  cases connecting with
  | true =>
      simp only [if_true, true_and]
      split_ifs with hnone hfirst
      · constructor
        · nofun
        · omega
      · constructor
        · omega
        · intro _
          rfl
      · constructor
        · nofun
        · omega
  | false =>
      simp only [Bool.false_eq_true, if_false, false_and, iff_false]
      split_ifs with hnone hfirst
      · nofun
      · omega
      · nofun

/-- From `OFFLINE`, `setTcpIpConnected` stays there unless it counts the first connection. -/
theorem Globals.currentState_setTcpIpConnected_iff (clock : Clocks) (connecting : Bool)
    (g : Globals) (s : System) (hoffline : s.currentState = .offline) :
    (g.setTcpIpConnected clock connecting s).2.currentState = .offline ↔
      ¬ (connecting = true ∧ g.tcpIpConnectedCount = 0) := by
  have hstandby : (s.changeState clock .standby).1.currentState = .standby := by
    simp [System.changeState, hoffline, System.enterState, StateEnum.acceptable,
      StateEnum.isASafeState]
  rw [← stateAfter_countAfter connecting g.tcpIpConnectedCount]
  simp only [setTcpIpConnected]
  unfold stateAfter
  split_ifs with hnone hfirst
  · simp [(System.rests_goOffline s clock).offline hoffline]
  · simp [hstandby]
  · simp [hoffline]

theorem Globals.descends_setTcpIpConnected (clock : Clocks) (connecting : Bool) (g : Globals)
    (s : System) : System.Descends s (g.setTcpIpConnected clock connecting s).2 := by
  simp only [setTcpIpConnected]
  split
  · exact (System.offOrSame_changeState clock s _).descends
  · exact .refl s

/-! ## The states after everything was turned off -/

/-- `systemShutdown` has turned everything off. -/
def SystemShutdownPoint.Finished : SystemShutdownPoint → Prop
  | .turnedOff => True
  | .stopped => True
  | _ => False

@[simp] theorem SystemShutdownPoint.not_finished_notCalled : ¬ notCalled.Finished := id

@[simp] theorem SystemShutdownPoint.not_finished_offline : ¬ offline.Finished := id

instance : ∀ point : SystemShutdownPoint, Decidable point.Finished
  | .notCalled => inferInstanceAs (Decidable False)
  | .offline => inferInstanceAs (Decidable False)
  | .turnedOff => inferInstanceAs (Decidable True)
  | .stopped => inferInstanceAs (Decidable True)

namespace Program

variable {p r : Program}

/-- Once everything was turned off, the targets are off and the `Model` is in `OFFLINE`. -/
def OffForGood (p : Program) : Prop :=
  p.shutdown.Finished → p.system.TargetsOff ∧ p.system.currentState = .offline

instance (p : Program) : Decidable p.OffForGood :=
  inferInstanceAs (Decidable (_ → _ ∧ _))

/-- A step after which the power is off for good. -/
def Irrevocable (p : Program) (action : ProgramAction) : Prop := (p.step action).OffForGood

instance (p : Program) (action : ProgramAction) : Decidable (p.Irrevocable action) :=
  inferInstanceAs (Decidable (p.step action).OffForGood)

/-- `systemShutdown` turns everything off in `OFFLINE`.  Afterwards no first connection is
counted, and no client that has read an obedient state turns a subsystem on that is ready. -/
def Safe (p : Program) : ProgramAction → Prop
  | .turnOffAll _ => p.shutdown = .offline → p.system.currentState = .offline
  | .setTcpIpConnected connecting _ =>
      p.shutdown.Finished → ¬ (connecting = true ∧ p.globals.tcpIpConnectedCount = 0)
  | .cmdPower client powerType status _ =>
      p.shutdown.Finished → ∀ state ∈ p.read client, state.Obeys →
        ¬ (status = true ∧ p.system.CanTurnOn powerType)
  | _ => True

theorem offForGood_start (system : System) (globals : Globals) :
    (start system globals).OffForGood := by
  intro hfinished
  exact absurd hfinished SystemShutdownPoint.not_finished_notCalled

theorem OffForGood.of_rests (hoff : p.OffForGood) (hshutdown : r.shutdown = p.shutdown)
    (hrests : System.Rests p.system r.system) : r.OffForGood := by
  intro hfinished
  rw [hshutdown] at hfinished
  obtain ⟨htargets, hoffline⟩ := hoff hfinished
  exact ⟨hrests.targetsOff htargets, hrests.offline hoffline⟩

theorem offForGood_cmdPower_iff (hoff : p.OffForGood) (client : ℕ) (powerType : PowerSystemType)
    (status : Bool) (clock : Clocks) :
    (p.cmdPower client powerType status clock).OffForGood ↔
      p.Safe (.cmdPower client powerType status clock) := by
  cases hread : p.read client with
  | none =>
      apply iff_of_true
      · simpa only [cmdPower, hread] using hoff
      · intro _ state hstate
        rw [hread] at hstate
        cases hstate
  | some state =>
      have hstate := state.currentState_cmdPower clock powerType status p.system
      simp only [cmdPower, Safe, hread, OffForGood, Option.mem_def, Option.some.injEq, forall_eq']
      apply imp_congr_right
      intro hfinished
      obtain ⟨htargets, hoffline⟩ := hoff hfinished
      rw [state.targetsOff_cmdPower_iff clock powerType status p.system htargets, hstate]
      exact and_iff_left hoffline

theorem offForGood_setTcpIpConnected_iff (hoff : p.OffForGood) (connecting : Bool)
    (clock : Clocks) :
    (p.step (.setTcpIpConnected connecting clock)).OffForGood ↔
      p.Safe (.setTcpIpConnected connecting clock) := by
  apply imp_congr_right
  intro hfinished
  obtain ⟨htargets, hoffline⟩ := hoff hfinished
  have hafter : (p.step (.setTcpIpConnected connecting clock)).system.TargetsOff := fun ty =>
    (Globals.descends_setTcpIpConnected clock connecting p.globals p.system).targ_off (htargets ty)
  rw [and_iff_right hafter]
  exact Globals.currentState_setTcpIpConnected_iff clock connecting p.globals p.system hoffline

/-- **A step keeps the power off for good** exactly when it is safe. -/
theorem offForGood_step_iff (hoff : p.OffForGood) (action : ProgramAction) :
    (p.step action).OffForGood ↔ p.Safe action := by
  cases action with
  | enterOffline clock =>
      refine iff_of_true ?_ trivial
      simp only [step]
      split_ifs
      · intro hfinished
        exact absurd hfinished SystemShutdownPoint.not_finished_offline
      · exact hoff
  | turnOffAll clock =>
      simp only [step, Safe]
      split_ifs with hpoint
      -- here everything is turned off, so what is left to ask is the state of the `Model`
      · have htargets := System.targetsOff_turnOffAll clock p.system
        simp only [OffForGood, SystemShutdownPoint.Finished, true_imp_iff, hpoint]
        rw [and_iff_right htargets, System.currentState_turnOffAll]
      · simpa [hpoint] using hoff
  | stopLoops =>
      refine iff_of_true ?_ trivial
      simp only [step]
      split_ifs with hpoint
      · intro _
        exact hoff (by rw [hpoint]; trivial)
      · exact hoff
  | readState client => exact iff_of_true (hoff.of_rests rfl (.refl _)) trivial
  | cmdPower client powerType status clock =>
      exact offForGood_cmdPower_iff hoff client powerType status clock
  | setTcpIpConnected connecting clock => exact offForGood_setTcpIpConnected_iff hoff connecting clock
  | reportComConnectionCount count clock =>
      exact iff_of_true (hoff.of_rests rfl (System.rests_applyFaultMgr _ clock _)) trivial
  | daq action =>
      exact iff_of_true (hoff.of_rests rfl (DaqThreads.rests_step (p.daq, p.system) action)) trivial

/-- **Shutdown is irrevocable** in exactly the runs whose steps are all safe. -/
theorem irrevocable_iff (system : System) (globals : Globals) (actions : List ProgramAction) :
    Always step Irrevocable (start system globals) actions ↔
      Always step Safe (start system globals) actions :=
  always_iff_of_step OffForGood (fun _ action hoff => offForGood_step_iff hoff action)
    (offForGood_start system globals) actions

/-- What must not happen once `systemShutdown` is called: the `Model` refuses `OFFLINE`
because the setup is not finished, the first connection is counted, or a client that has
read an obedient state turns on what is ready after everything was turned off. -/
def Undisturbed (p : Program) : ProgramAction → Prop
  | .enterOffline _ =>
      p.shutdown = .notCalled →
        ¬ (p.system.currentState = .startup ∧ p.system.setupFinished = false)
  | .setTcpIpConnected connecting _ =>
      p.shutdown ≠ .notCalled → ¬ (connecting = true ∧ p.globals.tcpIpConnectedCount = 0)
  | .cmdPower client powerType status clock => p.Safe (.cmdPower client powerType status clock)
  | _ => True

/-- The `Model` is in `OFFLINE` since `systemShutdown` was called. -/
def OfflineSinceCalled (p : Program) : Prop :=
  p.shutdown ≠ .notCalled → p.system.currentState = .offline

theorem currentState_enterOffline (clock : Clocks) (s : System)
    (hready : ¬ (s.currentState = .startup ∧ s.setupFinished = false)) :
    (s.changeState clock .offline).1.currentState = .offline := by
  have haccept : s.currentState.acceptable .offline = true := rfl
  unfold System.changeState
  rw [if_pos haccept]
  split_ifs with hsame hstartup
  · rw [System.currentState_enterState, hsame]
  · exact absurd (by simpa using hstartup) hready
  · rw [System.currentState_enterState]

theorem OfflineSinceCalled.of_rests (hoffline : p.OfflineSinceCalled)
    (hshutdown : r.shutdown = p.shutdown) (hrests : System.Rests p.system r.system) :
    r.OfflineSinceCalled := by
  intro hcalled
  rw [hshutdown] at hcalled
  exact hrests.offline (hoffline hcalled)

theorem offlineSinceCalled_step (hoffline : p.OfflineSinceCalled) (action : ProgramAction)
    (hundisturbed : p.Undisturbed action) : (p.step action).OfflineSinceCalled := by
  cases action with
  | enterOffline clock =>
      simp only [step]
      split_ifs with hpoint
      · intro _
        exact currentState_enterOffline clock p.system (hundisturbed hpoint)
      · exact hoffline
  | turnOffAll clock =>
      simp only [step]
      split_ifs with hpoint
      · intro _
        exact (System.rests_turnOffAll p.system clock).offline (hoffline (by simp [hpoint]))
      · exact hoffline
  | stopLoops =>
      simp only [step]
      split_ifs with hpoint
      · intro _
        exact hoffline (by simp [hpoint])
      · exact hoffline
  | readState client => exact hoffline
  | cmdPower client powerType status clock =>
      simp only [step, cmdPower]
      split
      · exact hoffline
      · intro hcalled
        exact (StateEnum.currentState_cmdPower _ clock powerType status p.system).trans
          (hoffline hcalled)
  | setTcpIpConnected connecting clock =>
      intro hcalled
      exact (Globals.currentState_setTcpIpConnected_iff clock connecting p.globals p.system
        (hoffline hcalled)).mpr (hundisturbed hcalled)
  | reportComConnectionCount count clock =>
      exact hoffline.of_rests rfl (System.rests_applyFaultMgr _ clock _)
  | daq action => exact hoffline.of_rests rfl (DaqThreads.rests_step (p.daq, p.system) action)

theorem Undisturbed.safe (hoffline : p.OfflineSinceCalled) {action : ProgramAction}
    (hundisturbed : p.Undisturbed action) : p.Safe action := by
  cases action with
  | turnOffAll clock =>
      intro hpoint
      exact hoffline (by simp [hpoint])
  | setTcpIpConnected connecting clock =>
      intro hfinished
      apply hundisturbed
      intro hpoint
      rw [hpoint] at hfinished
      exact hfinished
  | cmdPower client powerType status clock => exact hundisturbed
  | enterOffline | stopLoops | readState | reportComConnectionCount | daq => trivial

/-- An undisturbed shutdown is irrevocable. -/
theorem irrevocable_of_undisturbed (system : System) (globals : Globals)
    {actions : List ProgramAction}
    (hundisturbed : Always step Undisturbed (start system globals) actions) :
    Always step Irrevocable (start system globals) actions := by
  refine hundisturbed.imp (fun p => p.OffForGood ∧ p.OfflineSinceCalled) ?_
    ⟨offForGood_start system globals, fun hcalled => absurd rfl hcalled⟩
  rintro p action ⟨hoff, hoffline⟩ hstep
  have hnext := (offForGood_step_iff hoff action).mpr (hstep.safe hoffline)
  exact ⟨⟨hnext, offlineSinceCalled_step hoffline action hstep⟩, hnext⟩

/-- The last client leaves and one connects after everything was turned off; or a client
reads `STANDBY` before the shutdown and turns comm on after it. -/
theorem not_irrevocable_late :
    ¬ Always step Irrevocable (start { System.new 0 with setupFinished := true } .new)
        [.reportComConnectionCount 1 fun _ => ⟨0, 0⟩, .setTcpIpConnected true fun _ => ⟨0, 0⟩,
          .enterOffline fun _ => ⟨1, 0⟩, .turnOffAll fun _ => ⟨1, 0⟩,
          .setTcpIpConnected false fun _ => ⟨2, 0⟩, .setTcpIpConnected true fun _ => ⟨2, 0⟩] ∧
      ¬ Always step Irrevocable (start { System.new 0 with setupFinished := true } .new)
        [.reportComConnectionCount 1 fun _ => ⟨0, 0⟩, .setTcpIpConnected true fun _ => ⟨0, 0⟩,
          .readState 0, .enterOffline fun _ => ⟨1, 0⟩, .turnOffAll fun _ => ⟨1, 0⟩,
          .cmdPower 0 .comm true fun _ => ⟨2, 0⟩] := by
  decide +kernel

end Program

end M2Cell
