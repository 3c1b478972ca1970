import M2Cell.Control.PowerSystem
import M2Cell.Lib.Run

/-!
# Runs of the system

`Op` lists everything that can happen to the system, and `System.step` performs
one operation.  A run is a list of operations, in any order.

Each operation is described here by what the proofs about runs use: its effect
on the fault manager is a list of the fault manager's own operations
(`faultMgr_step`), and it keeps the invariant `WellFormed` (`wellFormed_step`).

The invariant has two parts.  The output bits agree with the targets (`Coupled`), and no
subsystem is in `TURNING_OFF`, which no function of the source ever sets.  Most operations only
turn power off, and for these `Descends` says all that is needed (`Descends.wellFormed`); the
others are a `setPowerOn`, or write neither a subsystem nor the port (`WellFormed.congr`).  The
operations are whole here; what the threads do in the middle of one another is in
`M2Cell.Control.Interleaving`.
-/

namespace M2Cell

/-- Everything that can happen to the system. -/
inductive Op
  | setPowerOn (ty : PowerSystemType) (clock : Clocks)
  | setPowerOff (ty : PowerSystemType) (clock : Clocks)
  | subsystemDaq (ty : PowerSystemType) (info : SysInfo) (faultsSet : FaultStatusBits)
      (clock : Clocks)
  | powerMotor (on : Bool) (clock : Clocks)
  | powerComm (on : Bool) (clock : Clocks)
  | cmdPower (powerType : PowerSystemType) (on : Bool) (clock : Clocks)
  | processDaq (info : SysInfo) (clock : Clocks)
  | checkTimeout (diffInSeconds : ℚ) (clock : Clocks)
  | updatePowerFaults (currentFaults : FaultStatusBits) (subsystem : CrioSubsystem)
      (clock : Clocks)
  | reportMotionEngineTimeout (errorLvl : Bool)
  | reportComConnectionCount (count : ℕ) (clock : Clocks)
  | resetFaults (mask : FaultStatusBits)
  | enableFaultsInMask (mask : FaultStatusBits)
  | changeState (newState : StateEnum) (clock : Clocks)
  | goToSafeMode (clock : Clocks)
  | finishSetup
  | setContext (ty : PowerSystemType) (context : Bool)
  | writeCrioInterlockEnable (set : Bool)

namespace System

/-- The system after one operation. -/
def step (s : System) : Op → System
  | .setPowerOn ty clock => (s.setPowerOn ty clock).1
  | .setPowerOff ty clock => s.setPowerOff ty clock
  | .subsystemDaq ty info faultsSet clock => (s.processDaq ty clock info faultsSet).1
  | .powerMotor on clock => (PowerSystem.powerMotor clock on s).1
  | .powerComm on clock => (PowerSystem.powerComm clock on s).1
  | .cmdPower powerType on clock => (PowerSystem.cmdPower clock powerType on s).1
  | .processDaq info clock => PowerSystem.processDaq clock info s
  | .checkTimeout diffInSeconds clock => (PowerSystem.checkTimeout clock diffInSeconds s).1
  | .updatePowerFaults currentFaults subsystem clock =>
      s.updatePowerFaults clock currentFaults subsystem
  | .reportMotionEngineTimeout errorLvl =>
      { s with faultMgr := s.faultMgr.reportMotionEngineTimeout errorLvl }
  | .reportComConnectionCount count clock => s.reportComConnectionCount clock count
  | .resetFaults mask => { s with faultMgr := s.faultMgr.resetFaults mask }
  | .enableFaultsInMask mask => { s with faultMgr := (s.faultMgr.enableFaultsInMask mask).1 }
  | .changeState newState clock => (s.changeState clock newState).1
  | .goToSafeMode clock => (s.goToSafeMode clock).1
  | .finishSetup => { s with setupFinished := true }
  | .setContext ty context => s.setContext ty context
  | .writeCrioInterlockEnable set => PowerSystem.writeCrioInterlockEnable set s

/-! ## Effect on the fault manager -/

/-- The operations that an operation of the system performs on the fault manager. -/
def faultMgrOps (s : System) : Op → List FaultMgrOp
  | .processDaq info clock =>
      (if PowerSystem.healthFaults info s ≠ 0#64 then
          [.updatePowerFaults (PowerSystem.healthFaults info s) .powerSubsystem]
        else []) ++
        [.updatePowerFaults (PowerSystem.commDaq clock info s).2 .powerSubsystem]
  | .checkTimeout diffInSeconds _ =>
      if diffInSeconds > 1.5 then
        [.updatePowerFaults (FaultStatusBits.setBitAt 0 FaultStatusBits.powerSystemTimeout)
          .powerSubsystem]
      else []
  | .updatePowerFaults currentFaults subsystem _ => [.updatePowerFaults currentFaults subsystem]
  | .reportMotionEngineTimeout errorLvl => [.reportMotionEngineTimeout errorLvl]
  | .reportComConnectionCount count _ => [.reportComConnectionCount count]
  | .resetFaults mask => [.resetFaults mask]
  | .enableFaultsInMask mask => [.enableFaultsInMask mask]
  | _ => []

section faultMgr

variable (s : System) (clock : Clocks)

@[simp] theorem faultMgr_powerMotor (on : Bool) :
    (PowerSystem.powerMotor clock on s).1.faultMgr = s.faultMgr := by
  unfold PowerSystem.powerMotor
  split_ifs <;> simp

@[simp] theorem faultMgr_powerComm (on : Bool) :
    (PowerSystem.powerComm clock on s).1.faultMgr = s.faultMgr := by
  unfold PowerSystem.powerComm
  dsimp only
  split_ifs <;> simp

@[simp] theorem faultMgr_cmdPower (powerType : PowerSystemType) (on : Bool) :
    (PowerSystem.cmdPower clock powerType on s).1.faultMgr = s.faultMgr := by
  unfold PowerSystem.cmdPower PowerSystem.cmdPowerBase
  cases s.currentState <;> cases powerType <;> simp

/-- **The fault manager sees a run of its own operations.** -/
theorem faultMgr_step (op : Op) :
    (s.step op).faultMgr = run FaultMgr.step s.faultMgr (s.faultMgrOps op) := by
  cases op with
  | processDaq info clock =>
      simp only [step, faultMgrOps, PowerSystem.faultMgr_processDaq,
        PowerSystem.faultMgr_reportHealth, run_append]
      split_ifs <;> rfl
  | checkTimeout diffInSeconds clock =>
      simp only [step, faultMgrOps, PowerSystem.checkTimeout, decide_eq_true_eq]
      split_ifs <;> simp [updatePowerFaults, FaultMgr.step]
  | changeState newState clock => exact (offOrSame_changeState clock s newState).faultMgr
  | goToSafeMode clock => exact (offOrSame_goToSafeMode clock s).faultMgr
  | setPowerOn ty clock => simp [step, faultMgrOps]
  | setPowerOff ty clock => simp [step, faultMgrOps]
  | subsystemDaq ty info faultsSet clock => simp [step, faultMgrOps]
  | powerMotor on clock => simp [step, faultMgrOps]
  | powerComm on clock => simp [step, faultMgrOps]
  | cmdPower powerType on clock => simp [step, faultMgrOps]
  | updatePowerFaults currentFaults subsystem clock =>
      simp [step, faultMgrOps, updatePowerFaults, FaultMgr.step]
  | reportMotionEngineTimeout errorLvl => rfl
  | reportComConnectionCount count clock =>
      simp [step, faultMgrOps, reportComConnectionCount, FaultMgr.step]
  | resetFaults mask => rfl
  | enableFaultsInMask mask => rfl
  | finishSetup => rfl
  | setContext ty context => simp [step, faultMgrOps, setContext]
  | writeCrioInterlockEnable set => rfl

end faultMgr

/-! ## The invariant -/

/-- What holds in every state of every run: the output bits agree with the
targets, and no subsystem is in `TURNING_OFF`. -/
structure WellFormed (s : System) : Prop where
  coupled : s.Coupled
  actual : ∀ ty, (s.sub ty).actualPowerState ≠ .turningOff

theorem Descends.wellFormed {s r : System} (h : Descends s r) (hs : s.WellFormed) : r.WellFormed :=
  ⟨h.coupled hs.coupled, fun ty => h.actual ty (hs.actual ty)⟩

theorem wellFormed_new (port : OutputPortBits) : (new port).WellFormed where
  coupled := coupled_new port
  actual ty := by
    simp only [new, actualPowerState_setPowerOff]
    cases ty with
    | motor => exact (by decide : PowerState.unknown ≠ .turningOff)
    | comm => exact (by decide : PowerState.unknown ≠ .turningOff)

section wellFormed

variable {s : System} (clock : Clocks)

theorem wellFormed_setPowerOn (ty : PowerSystemType) (hs : s.WellFormed) :
    (s.setPowerOn ty clock).1.WellFormed where
  coupled := (confined_setPowerOn s ty clock).coupled hs.coupled (setPowerOn_spec s ty clock).2.2
  actual ty' := by
    rw [actualPowerState_setPowerOn]
    exact hs.actual ty'

theorem wellFormed_powerMotor (on : Bool) (hs : s.WellFormed) :
    (PowerSystem.powerMotor clock on s).1.WellFormed := by
  unfold PowerSystem.powerMotor
  split_ifs
  · exact hs
  · exact wellFormed_setPowerOn clock .motor hs
  · exact (descends_setPowerOff s .motor clock).wellFormed hs

theorem wellFormed_powerComm (on : Bool) (hs : s.WellFormed) :
    (PowerSystem.powerComm clock on s).1.WellFormed := by
  have hmotor := (descends_setPowerOff s .motor clock).wellFormed hs
  unfold PowerSystem.powerComm
  dsimp only
  split_ifs
  · exact wellFormed_setPowerOn clock .comm hmotor
  · exact wellFormed_setPowerOn clock .comm hs
  · exact (descends_setPowerOff _ .comm clock).wellFormed hmotor
  · exact (descends_setPowerOff _ .comm clock).wellFormed hs

theorem wellFormed_cmdPower (powerType : PowerSystemType) (on : Bool) (hs : s.WellFormed) :
    (PowerSystem.cmdPower clock powerType on s).1.WellFormed := by
  have hbase : (PowerSystem.cmdPowerBase clock powerType on s).1.WellFormed := by
    cases powerType with
    | motor => exact wellFormed_powerMotor clock on hs
    | comm => exact wellFormed_powerComm clock on hs
  unfold PowerSystem.cmdPower
  split
  · exact hbase
  · exact hbase
  · exact hs

/-- Operations that write neither a subsystem nor the port. -/
theorem WellFormed.congr {r : System} (hs : s.WellFormed) (hsub : ∀ ty, r.sub ty = s.sub ty)
    (hport : r.outputPort = s.outputPort) : r.WellFormed where
  coupled ty := by
    rw [hsub ty, hport]
    exact hs.coupled ty
  actual ty := by
    rw [hsub ty]
    exact hs.actual ty

theorem wellFormed_writeCrioInterlockEnable (set : Bool) (hs : s.WellFormed) :
    (PowerSystem.writeCrioInterlockEnable set s).WellFormed where
  coupled ty := by
    refine (hs.coupled ty).congr (by cases ty <;> rfl) (by cases ty <;> rfl) ?_ ?_ <;>
      cases ty <;> exact OutputPortBits.getBitAtPos_writeBit _ _ _ _
  actual ty := by
    cases ty with
    | motor => exact hs.actual .motor
    | comm => exact hs.actual .comm

theorem wellFormed_setContext (ty : PowerSystemType) (context : Bool) (hs : s.WellFormed) :
    (s.setContext ty context).WellFormed where
  coupled := by
    refine (confined_store s fun _ _ _ => rfl).coupled hs.coupled ?_
    simp only [sub_store, outputPort_store]
    exact (hs.coupled ty).congr rfl rfl rfl rfl
  actual ty' := by
    rcases ty.eq_or_eq_other ty' with rfl | rfl
    · simpa [setContext] using hs.actual ty'
    · simpa [setContext] using hs.actual ty.other

/-- **Every operation keeps the invariant.** -/
theorem wellFormed_step (s : System) (op : Op) (hs : s.WellFormed) : (s.step op).WellFormed := by
  cases op with
  | setPowerOn ty clock => exact wellFormed_setPowerOn clock ty hs
  | setPowerOff ty clock => exact (descends_setPowerOff s ty clock).wellFormed hs
  | subsystemDaq ty info faultsSet clock =>
      exact (descends_processDaq ty clock info faultsSet s).wellFormed hs
  | powerMotor on clock => exact wellFormed_powerMotor clock on hs
  | powerComm on clock => exact wellFormed_powerComm clock on hs
  | cmdPower powerType on clock => exact wellFormed_cmdPower clock powerType on hs
  | processDaq info clock => exact (PowerSystem.descends_processDaq clock info s).wellFormed hs
  | checkTimeout diffInSeconds clock =>
      have hoff := ((descends_setPowerOff s .motor clock).trans
        (descends_setPowerOff _ .comm clock)).wellFormed hs
      simp only [step, PowerSystem.checkTimeout, decide_eq_true_eq]
      split_ifs
      · exact (descends_applyFaultMgr clock _ _).wellFormed hoff
      · exact hs
  | updatePowerFaults currentFaults subsystem clock =>
      exact (descends_applyFaultMgr clock s _).wellFormed hs
  | reportComConnectionCount count clock => exact (descends_applyFaultMgr clock s _).wellFormed hs
  | changeState newState clock =>
      exact (offOrSame_changeState clock s newState).descends.wellFormed hs
  | goToSafeMode clock => exact (offOrSame_goToSafeMode clock s).descends.wellFormed hs
  | setContext ty context => exact wellFormed_setContext ty context hs
  | reportMotionEngineTimeout errorLvl => exact hs.congr (fun ty => by cases ty <;> rfl) rfl
  | resetFaults mask => exact hs.congr (fun ty => by cases ty <;> rfl) rfl
  | enableFaultsInMask mask => exact hs.congr (fun ty => by cases ty <;> rfl) rfl
  | finishSetup => exact hs.congr (fun ty => by cases ty <;> rfl) rfl
  | writeCrioInterlockEnable set => exact wellFormed_writeCrioInterlockEnable set hs

/-- **The invariant holds in every run.** -/
theorem wellFormed_run (port : OutputPortBits) (ops : List Op) :
    (run step (new port) ops).WellFormed :=
  run_invariant WellFormed wellFormed_step (wellFormed_new port) ops

end wellFormed

end System

end M2Cell
