import M2Cell.Control.Operations

/-!
# Power trips latch

A voltage fault, an over-current or an open relay that one `_processDaq` reports
keeps the subsystem off until the fault is reset.  The power fault manager is a
latch (`FaultMgr.heldFaults_step`), every operation of the system is a run of the
fault manager's operations (`System.faultMgr_step`), and a held fault blocks the
subsystem: it cannot be turned on, and every DAQ call turns it off
(`blocked_of_hasFault`).

A missing connection blocks both subsystems in the same way, without being
latched.

So the proof has three parts.  `tripFaults_spec` says which faults the check of a subsystem looks
at.  `mem_heldFaults_processDaq` puts a reported trip into the latch, and
`mem_heldFaults_step` keeps it there through every operation that does not reset it; the run is
`run_latch` of `M2Cell.Lib.Latch`.  The connection flag follows the count that was reported last
(`commConnectionFault_run`), which is an induction of its own, from the initial fault manager.
-/

namespace M2Cell

open FaultStatusBits PowerSubsystemConfig

/-- The faults that latch.  The breaker fault is left out of the check, so that
breakers can be reset. -/
def tripFaults (ty : PowerSystemType) : List FaultBit :=
  [(psCfg ty).voltageFault, (psCfg ty).excessiveCurrent, (psCfg ty).relayFault]

/-- A trip is a fault that the check of its subsystem looks at. -/
theorem tripFaults_spec {ty : PowerSystemType} {pos : FaultBit} (hpos : pos ∈ tripFaults ty) :
    Word.bit getMaskFaults pos = true ∧
      Word.bit (PowerSubsystem.checkForFaultsMask ty) pos = true ∧
      Word.bit (psCfg ty).subsystemFaultMask pos = true ∧ pos ≠ crioCommFault := by
  revert pos
  cases ty <;> decide +kernel

namespace FaultMgr

/-- A reason why a subsystem must be off: there is no connection, or one of its
trips is recorded. -/
def HasFault (ty : PowerSystemType) (fm : FaultMgr) : Prop :=
  fm.commConnectionFault = true ∨ ∃ pos ∈ tripFaults ty, pos ∈ fm.heldFaults

theorem HasFault.check {ty : PowerSystemType} {fm : FaultMgr} (h : fm.HasFault ty) :
    fm.checkForPowerSubsystemFaults (PowerSubsystem.checkForFaultsMask ty) = true ∧
      fm.checkForPowerSubsystemFaults (psCfg ty).subsystemFaultMask = true := by
  rcases h with hcomm | ⟨pos, hpos, hheld⟩
  · exact ⟨check_of_commConnectionFault hcomm _, check_of_commConnectionFault hcomm _⟩
  · obtain ⟨-, hcheck, hmask, -⟩ := tripFaults_spec hpos
    exact ⟨check_of_mem_heldFaults hheld hcheck, check_of_mem_heldFaults hheld hmask⟩

/-- A report of power faults removes no reason. -/
theorem HasFault.updatePowerFaults {ty : PowerSystemType} {fm : FaultMgr} (h : fm.HasFault ty)
    (currentFaults : FaultStatusBits) (subsystem : CrioSubsystem) :
    (fm.updatePowerFaults currentFaults subsystem).1.HasFault ty := by
  rcases h with hcomm | ⟨pos, hpos, hheld⟩
  · exact Or.inl (by rw [commConnectionFault_updatePowerFaults, hcomm])
  · refine Or.inr ⟨pos, hpos, ?_⟩
    rw [heldFaults_updatePowerFaults]
    exact Or.inl hheld

end FaultMgr

namespace System

/-! ## What a fault blocks -/

/-- The subsystem cannot be turned on, and every DAQ call leaves it off. -/
structure Blocked (ty : PowerSystemType) (s : System) : Prop where
  check : s.faultMgr.checkForPowerSubsystemFaults (psCfg ty).subsystemFaultMask = true
  setPowerOn : ∀ clock, (s.setPowerOn ty clock).2 = false ∧
    ((s.setPowerOn ty clock).1.sub ty).targPowerState = .off
  subsystemDaq : ∀ clock info faultsSet, PowerOff ty (s.processDaq ty clock info faultsSet).1
  processDaq : ∀ clock info, PowerOff ty (PowerSystem.processDaq clock info s)

/-- A fault blocks its subsystem. -/
theorem blocked_of_hasFault {ty : PowerSystemType} {s : System} (h : s.faultMgr.HasFault ty) :
    s.Blocked ty where
  check := h.check.2
  setPowerOn clock := by
    obtain ⟨hok, htarg, -⟩ := setPowerOn_spec s ty clock
    have hfalse : (s.setPowerOn ty clock).2 = false := by
      rw [hok, checkForFaults, h.check.1]
      rfl
    exact ⟨hfalse, by simp [htarg, hfalse]⟩
  subsystemDaq clock info faultsSet := powerOff_processDaq ty clock info faultsSet s h.check.1
  processDaq clock info := by
    -- the reason survives the report of health faults
    have hreport : (PowerSystem.reportHealth clock info s).faultMgr.HasFault ty := by
      rw [PowerSystem.faultMgr_reportHealth]
      split_ifs
      · exact h.updatePowerFaults _ _
      · exact h
    have hend := (descends_applyFaultMgr clock (PowerSystem.commDaq clock info s).1
      ((PowerSystem.commDaq clock info s).1.faultMgr.updatePowerFaults
        (PowerSystem.commDaq clock info s).2 .powerSubsystem)).powerOff ty
    refine hend ?_
    -- the motor is off when comm is looked at, which leaves it so
    cases ty with
    | motor =>
        have hmotor : PowerOff .motor (PowerSystem.motorDaq clock info s).1 := by
          refine powerOff_processDaq .motor clock info _ _ ?_
          rw [checkForFaults, PowerSystem.faultMgr_startDaq]
          exact hreport.check.1
        exact (descends_processDaq .comm clock info _ _).powerOff .motor hmotor
    | comm =>
        refine powerOff_processDaq .comm clock info _ _ ?_
        rw [checkForFaults, PowerSystem.faultMgr_motorDaq]
        exact hreport.check.1

/-! ## Runs -/

/-- The operation resets the fault. -/
def Op.Resets (pos : FaultBit) : Op → Prop
  | .resetFaults mask => Word.bit mask pos = true
  | _ => False

/-- An operation that does not reset a trip does not clear it in the fault manager. -/
theorem not_clears_faultMgrOps {s : System} {op : Op} {pos : FaultBit} (hpos : pos ≠ crioCommFault)
    (hop : ¬ Op.Resets pos op) :
    ∀ fmOp ∈ s.faultMgrOps op, ¬ (FaultMgr.latchOp fmOp).Clears pos := by
  intro fmOp hmem
  have hcomm : Word.bit FaultMgr.commMask pos = false := by simp [FaultMgr.commMask, hpos]
  cases op with
  | resetFaults mask =>
      obtain rfl : fmOp = .resetFaults mask := by simpa [faultMgrOps] using hmem
      exact hop
  | reportComConnectionCount count clock =>
      obtain rfl : fmOp = .reportComConnectionCount count := by simpa [faultMgrOps] using hmem
      by_cases hcount : count < 1 <;>
        simp [FaultMgr.latchOp, FaultMgr.resetMask, LatchOp.Clears, hcount, hcomm]
  | processDaq info clock =>
      have hraise : ∃ faults, fmOp = .updatePowerFaults faults .powerSubsystem := by
        simp only [faultMgrOps, List.mem_append, List.mem_singleton] at hmem
        rcases hmem with hmem | rfl
        · split_ifs at hmem
          · exact ⟨_, List.mem_singleton.mp hmem⟩
          · simp at hmem
        · exact ⟨_, rfl⟩
      obtain ⟨faults, rfl⟩ := hraise
      exact id
  | checkTimeout diffInSeconds clock =>
      simp only [faultMgrOps] at hmem
      split_ifs at hmem
      · obtain rfl := List.mem_singleton.mp hmem
        exact id
      · simp at hmem
  | updatePowerFaults currentFaults subsystem clock =>
      obtain rfl : fmOp = .updatePowerFaults currentFaults subsystem := by
        simpa [faultMgrOps] using hmem
      exact id
  | reportMotionEngineTimeout errorLvl =>
      obtain rfl : fmOp = .reportMotionEngineTimeout errorLvl := by
        simpa [faultMgrOps] using hmem
      exact id
  | enableFaultsInMask mask =>
      obtain rfl : fmOp = .enableFaultsInMask mask := by simpa [faultMgrOps] using hmem
      exact id
  | _ => simp [faultMgrOps] at hmem

/-- A recorded trip stays recorded through an operation that does not reset it. -/
theorem mem_heldFaults_step {s : System} {op : Op} {pos : FaultBit} (hpos : pos ≠ crioCommFault)
    (hop : ¬ Op.Resets pos op) (hheld : pos ∈ s.faultMgr.heldFaults) :
    pos ∈ (s.step op).faultMgr.heldFaults := by
  rw [faultMgr_step, run_map FaultMgr.heldFaults FaultMgr.latchOp FaultMgr.heldFaults_step]
  refine LatchOp.mem_run_of_mem hheld ?_
  rintro latchOp hmem
  obtain ⟨fmOp, hfmOp, rfl⟩ := List.mem_map.mp hmem
  exact not_clears_faultMgrOps hpos hop fmOp hfmOp

/-- A trip that `_processDaq` reports is recorded afterwards. -/
theorem mem_heldFaults_processDaq {s : System} {clock : Clocks} {info : SysInfo} {pos : FaultBit}
    (hfault : Word.bit getMaskFaults pos = true)
    (htrip : Word.bit (PowerSystem.commDaq clock info s).2 pos = true) :
    pos ∈ (PowerSystem.processDaq clock info s).faultMgr.heldFaults := by
  rw [PowerSystem.faultMgr_processDaq, FaultMgr.heldFaults_updatePowerFaults]
  exact Or.inr ⟨hfault, htrip⟩

/-- The TCP/IP connection count reported last, if any. -/
def lastCount (ops : List Op) : Option ℕ :=
  ops.foldl (fun last op =>
    match op with
    | .reportComConnectionCount count _ => some count
    | _ => last) none

/-- The connection flag that goes with the count reported last. -/
def noConnection : Option ℕ → Bool
  | none => true
  | some count => decide (count < 1)

theorem commConnectionFault_faultMgr_step (fm : FaultMgr) (op : FaultMgrOp) :
    (fm.step op).commConnectionFault =
      match op with
      | .reportComConnectionCount count => noConnection (some count)
      | _ => fm.commConnectionFault := by
  cases op with
  | updatePowerFaults currentFaults subsystem => simp [FaultMgr.step]
  | reportMotionEngineTimeout errorLvl => rfl
  | reportComConnectionCount count =>
      by_cases hcount : count < 1 <;>
        simp [FaultMgr.step, FaultMgr.reportComConnectionCount, FaultMgr.resetFaults, noConnection,
          hcount]
  | resetFaults mask => rfl
  | enableFaultsInMask mask => rfl

theorem commConnectionFault_step (s : System) (op : Op) :
    (s.step op).faultMgr.commConnectionFault =
      match op with
      | .reportComConnectionCount count _ => noConnection (some count)
      | _ => s.faultMgr.commConnectionFault := by
  rw [faultMgr_step]
  cases op with
  | processDaq info clock =>
      simp only [faultMgrOps]
      split_ifs <;> simp [commConnectionFault_faultMgr_step]
  | checkTimeout diffInSeconds clock =>
      simp only [faultMgrOps]
      split_ifs <;> simp [commConnectionFault_faultMgr_step]
  | _ => simp [faultMgrOps, commConnectionFault_faultMgr_step]

/-- In every run from the initial fault manager the connection flag follows the
count reported last. -/
theorem commConnectionFault_run {s : System} (hs : s.faultMgr = .new) (ops : List Op) :
    (run step s ops).faultMgr.commConnectionFault = noConnection (lastCount ops) := by
  induction ops using List.reverseRecOn with
  | nil => simp [lastCount, noConnection, hs, FaultMgr.new]
  | append_singleton ops op ih =>
      rw [run_concat, commConnectionFault_step]
      cases op <;> simp [lastCount, List.foldl_append] <;> exact ih

/-- **A power trip latches until it is reset.**  Once a `_processDaq` reports a
trip of a subsystem, the subsystem is blocked in every later state up to the
first reset of that fault.  Both subsystems are blocked whenever the last
reported connection count is zero, or none was reported. -/
theorem power_trip_latches {s : System} (hs : s.faultMgr = .new) :
    (∀ (before after : List Op) (info : SysInfo) (clock : Clocks) (ty : PowerSystemType),
      ∀ pos ∈ tripFaults ty,
        Word.bit (PowerSystem.commDaq clock info (run step s before)).2 pos = true →
        (∀ op ∈ after, ¬ Op.Resets pos op) →
        Blocked ty (run step s (before ++ .processDaq info clock :: after))) ∧
    (∀ ops : List Op, lastCount ops = none ∨ lastCount ops = some 0 →
      ∀ ty, Blocked ty (run step s ops)) := by
  constructor
  · intro before after info clock ty pos hpos htrip hafter
    obtain ⟨hfault, -, -, hcomm⟩ := tripFaults_spec hpos
    have hheld : pos ∈
        (run step s (before ++ .processDaq info clock :: after)).faultMgr.heldFaults := by
      rw [run_append, run_cons]
      refine run_latch (fun _ => True) (fun t : System => pos ∈ t.faultMgr.heldFaults)
        (Op.Resets pos) (fun _ _ _ => trivial) ?_ trivial ?_ hafter
      · intro t op _ hop
        exact mem_heldFaults_step hcomm hop
      · exact mem_heldFaults_processDaq hfault htrip
    exact blocked_of_hasFault (Or.inr ⟨pos, hpos, hheld⟩)
  · intro ops hlast ty
    refine blocked_of_hasFault (Or.inl ?_)
    rw [commConnectionFault_run hs]
    rcases hlast with hnone | hzero
    · rw [hnone]; rfl
    · rw [hzero]; rfl

/-- Comm is turned on, and the next telemetry has its voltage at 30 V. -/
theorem power_trip_latches_comm :
    Blocked .comm (run step (new 0)
      [.reportComConnectionCount 1 fun _ => ⟨0, 0⟩, .powerComm true fun _ => ⟨0, 0⟩,
        .processDaq ⟨0, 0x3F, 0, 0, 30, 0⟩ fun _ => ⟨1, 1⟩, .powerComm true fun _ => ⟨2, 2⟩]) :=
  (power_trip_latches rfl).1
    [.reportComConnectionCount 1 fun _ => ⟨0, 0⟩, .powerComm true fun _ => ⟨0, 0⟩]
    [.powerComm true fun _ => ⟨2, 2⟩] ⟨0, 0x3F, 0, 0, 30, 0⟩ (fun _ => ⟨1, 1⟩) .comm
    commVoltageFault (by decide) (by decide +kernel) (by simp [Op.Resets])

end System

end M2Cell
