import M2Cell.FaultMgr.BasicFaultMgr
import M2Cell.Lib.Latch

/-!
# The fault manager

`FaultMgr` is the global record of faults.  Its member functions are pure here:
where the source calls `Model::goToSafeMode` in the middle of an update, the
update returns true, and the caller (which knows the model) goes to safe mode.

`heldFaults` is the set of faults the power manager has recorded.  Under it the
fault manager is a latch: `heldFaults_step` matches every operation with one
operation of `Lib/Latch.lean`.

A fault is recorded in up to three places: in the current and in the summary word of the power
manager, and in the summary of the system.  `updatePowerFaults` writes all of them and returns
early when nothing has changed.  What goes into the summary of the system is only 16 bits of it,
because `updateFaultStatus` returns a `uint16_t` (`updatedSummary`).  The check of a subsystem
looks at the power manager and at the connection flag, not at the summary
(`check_of_mem_heldFaults`, `check_of_commConnectionFault`).
-/

namespace M2Cell

open FaultStatusBits

/-- `FaultMgr`. -/
structure FaultMgr where
  /-- The system summary, which is what clients are sent. -/
  summarySystemFaultsStatus : BasicFaultMgr
  powerFaultMgr : PowerFaultMgr
  telemetryFaultMgr : BasicFaultMgr
  /-- True when there are no TCP/IP connections. -/
  commConnectionFault : Bool
  deriving DecidableEq

namespace FaultMgr

/-- The constructor. -/
def new : FaultMgr where
  summarySystemFaultsStatus := BasicFaultMgr.new
  powerFaultMgr := PowerFaultMgr.new
  telemetryFaultMgr := BasicFaultMgr.new
  commConnectionFault := true

def getSummaryFaults (fm : FaultMgr) : FaultStatusBits :=
  fm.summarySystemFaultsStatus.summaryFaults

/-- `resetFaults`. -/
def resetFaults (resetMask : FaultStatusBits) (fm : FaultMgr) : FaultMgr :=
  { fm with
    powerFaultMgr := fm.powerFaultMgr.resetFaults resetMask
    telemetryFaultMgr := fm.telemetryFaultMgr.resetFaults resetMask
    summarySystemFaultsStatus := fm.summarySystemFaultsStatus.resetFaults resetMask }

/-- The word with only the `crioCommFault` bit set. -/
def commMask : FaultStatusBits := setBitAt 0 crioCommFault

/-- `reportComConnectionCount`; returns whether it goes to safe mode. -/
def reportComConnectionCount (count : ℕ) (fm : FaultMgr) : FaultMgr × Bool :=
  let fm := { fm with commConnectionFault := decide (count < 1) }
  if fm.commConnectionFault then
    ({ fm with
        summarySystemFaultsStatus := fm.summarySystemFaultsStatus.setMaskComm commMask }, true)
  else (fm.resetFaults commMask, false)

/-- The word that `reportMotionEngineTimeout` merges. -/
def timeoutMask (errorLvl : Bool) : FaultStatusBits :=
  if errorLvl then setBitAt 0 staleDataFault else setBitAt 0 staleDataWarn

/-- `reportMotionEngineTimeout`. -/
def reportMotionEngineTimeout (errorLvl : Bool) (fm : FaultMgr) : FaultMgr :=
  { fm with
    summarySystemFaultsStatus :=
      (fm.summarySystemFaultsStatus.mergeFaults (timeoutMask errorLvl)).1 }

/-- The power manager after `setCurrentFaults` and `updateFaults`, and whether
its faults changed. -/
def reportPowerFaults (currentFaults : FaultStatusBits) (fm : FaultMgr) : PowerFaultMgr × Bool :=
  (fm.powerFaultMgr.setCurrentFaults currentFaults).updateFaults

/-- The system summary that `updatePowerFaults` computes from the power manager,
widened from the `uint16_t` that `updateFaultStatus` returns. -/
def updatedSummary (power : PowerFaultMgr) (fm : FaultMgr) : FaultStatusBits :=
  (BasicFaultMgr.updateFaultStatus fm.getSummaryFaults power.faultEnableMask power.currentFaults
    power.affectedWarnInfoMask power.affectedFaultsMask).1.setWidth 64

/-- `updatePowerFaults`; returns whether it goes to safe mode. -/
def updatePowerFaults (currentFaults : FaultStatusBits) (subsystem : CrioSubsystem)
    (fm : FaultMgr) : FaultMgr × Bool :=
  let (power, changed) := fm.reportPowerFaults currentFaults
  if changed then
    -- the other subsystems are only logged
    let safeMode :=
      match subsystem with
      | .powerSubsystem => currentFaults &&& getMaskHealthFaults != 0#64
      | _ => false
    let nSummary := fm.updatedSummary power
    let summary :=
      if nSummary = fm.getSummaryFaults then fm.summarySystemFaultsStatus
      else fm.summarySystemFaultsStatus.updateSummary nSummary
    ({ fm with powerFaultMgr := power, summarySystemFaultsStatus := summary }, safeMode)
  else ({ fm with powerFaultMgr := power }, false)

/-- `checkForPowerSubsystemFaults`: without a connection there is always a fault. -/
def checkForPowerSubsystemFaults (subsystemMask : FaultStatusBits) (fm : FaultMgr) : Bool :=
  fm.commConnectionFault ||
    (subsystemMask &&& fm.powerFaultMgr.faultEnableMask &&&
      (fm.powerFaultMgr.currentFaults ||| fm.powerFaultMgr.summaryFaults)) != 0#64

/-- `enableFaultsInMask`: returns the bits that changed in the system summary. -/
def enableFaultsInMask (mask : FaultStatusBits) (fm : FaultMgr) : FaultMgr × FaultStatusBits :=
  let (summary, changed) := fm.summarySystemFaultsStatus.enableFaultsInMask mask
  ({ fm with
      summarySystemFaultsStatus := summary
      powerFaultMgr := fm.powerFaultMgr.enableFaultsInMask mask
      telemetryFaultMgr := (fm.telemetryFaultMgr.enableFaultsInMask mask).1 }, changed)

end FaultMgr

/-! ## Runs of the fault manager -/

/-- The operations on the fault manager. -/
inductive FaultMgrOp
  | updatePowerFaults (currentFaults : FaultStatusBits) (subsystem : CrioSubsystem)
  | reportMotionEngineTimeout (errorLvl : Bool)
  | reportComConnectionCount (count : ℕ)
  | resetFaults (mask : FaultStatusBits)
  | enableFaultsInMask (mask : FaultStatusBits)
  deriving DecidableEq, Repr

namespace FaultMgr

/-- The fault manager after one operation. -/
def step (fm : FaultMgr) : FaultMgrOp → FaultMgr
  | .updatePowerFaults currentFaults subsystem => (fm.updatePowerFaults currentFaults subsystem).1
  | .reportMotionEngineTimeout errorLvl => fm.reportMotionEngineTimeout errorLvl
  | .reportComConnectionCount count => (fm.reportComConnectionCount count).1
  | .resetFaults mask => fm.resetFaults mask
  | .enableFaultsInMask mask => (fm.enableFaultsInMask mask).1

/-- The faults that an operation resets: `reportComConnectionCount` resets the
communication fault when there is a connection again. -/
def resetMask : FaultMgrOp → FaultStatusBits
  | .resetFaults mask => mask
  | .reportComConnectionCount count => if count < 1 then 0#64 else commMask
  | _ => 0#64

/-! ### The power manager is a latch -/

theorem powerFaultMgr_updatePowerFaults (currentFaults : FaultStatusBits)
    (subsystem : CrioSubsystem) (fm : FaultMgr) :
    (fm.updatePowerFaults currentFaults subsystem).1.powerFaultMgr =
      (fm.reportPowerFaults currentFaults).1 := by
  unfold updatePowerFaults
  generalize fm.reportPowerFaults currentFaults = report
  obtain ⟨power, changed⟩ := report
  cases changed <;> rfl

@[simp] theorem commConnectionFault_updatePowerFaults (currentFaults : FaultStatusBits)
    (subsystem : CrioSubsystem) (fm : FaultMgr) :
    (fm.updatePowerFaults currentFaults subsystem).1.commConnectionFault =
      fm.commConnectionFault := by
  unfold updatePowerFaults
  generalize fm.reportPowerFaults currentFaults = report
  obtain ⟨power, changed⟩ := report
  cases changed <;> rfl

/-- The faults that the power manager has recorded. -/
def heldFaults (fm : FaultMgr) : Set FaultBit :=
  {pos | Word.bit getMaskFaults pos = true ∧ Word.bit fm.powerFaultMgr.summaryFaults pos = true}

/-- What an operation does to the recorded power faults. -/
def latchOp : FaultMgrOp → LatchOp FaultBit
  | .updatePowerFaults currentFaults _ =>
      .raise {pos | Word.bit getMaskFaults pos = true ∧ Word.bit currentFaults pos = true}
  | .reportMotionEngineTimeout _ => .raise ∅
  | .enableFaultsInMask _ => .raise ∅
  | op => .reset {pos | Word.bit (resetMask op) pos = true}

theorem heldFaults_resetFaults (mask : FaultStatusBits) (fm : FaultMgr) :
    (fm.resetFaults mask).heldFaults = fm.heldFaults \ {pos | Word.bit mask pos = true} := by
  ext pos
  simp only [heldFaults, resetFaults, PowerFaultMgr.resetFaults, BasicFaultMgr.resetFaults,
    Set.mem_ofPred_eq, Set.mem_sdiff, Word.bit_and, Word.bit_not]
  cases Word.bit mask pos <;> simp

theorem heldFaults_updatePowerFaults (currentFaults : FaultStatusBits)
    (subsystem : CrioSubsystem) (fm : FaultMgr) :
    (fm.updatePowerFaults currentFaults subsystem).1.heldFaults =
      fm.heldFaults ∪
        {pos | Word.bit getMaskFaults pos = true ∧ Word.bit currentFaults pos = true} := by
  ext pos
  simp only [heldFaults, powerFaultMgr_updatePowerFaults, reportPowerFaults, Set.mem_ofPred_eq,
    Set.mem_union]
  rw [← and_or_left]
  apply and_congr_right
  intro hfault
  rw [PowerFaultMgr.bit_summaryFaults_updateFaults _ hfault, Bool.or_eq_true]
  rfl

/-- **The power fault manager refines a latch.** -/
theorem heldFaults_step (fm : FaultMgr) (op : FaultMgrOp) :
    (fm.step op).heldFaults = (latchOp op).apply fm.heldFaults := by
  cases op with
  | updatePowerFaults currentFaults subsystem =>
      exact heldFaults_updatePowerFaults currentFaults subsystem fm
  | reportMotionEngineTimeout errorLvl =>
      exact (Set.union_empty _).symm
  | reportComConnectionCount count =>
      by_cases hcount : count < 1
      · -- only the summary and the connection flag are written
        simp [step, reportComConnectionCount, latchOp, resetMask, LatchOp.apply, heldFaults, hcount]
      · have hreset := heldFaults_resetFaults commMask { fm with commConnectionFault := false }
        simp only [step, reportComConnectionCount, latchOp, resetMask, LatchOp.apply, hcount,
          decide_false, Bool.false_eq_true, if_false]
        exact hreset
  | resetFaults mask => exact heldFaults_resetFaults mask fm
  | enableFaultsInMask mask => exact (Set.union_empty _).symm

/-- A recorded fault of a subsystem is found by the check with its mask. -/
theorem check_of_mem_heldFaults {fm : FaultMgr} {pos : FaultBit} {mask : FaultStatusBits}
    (hheld : pos ∈ fm.heldFaults) (hmask : Word.bit mask pos = true) :
    fm.checkForPowerSubsystemFaults mask = true := by
  have hne : mask &&& fm.powerFaultMgr.faultEnableMask &&&
      (fm.powerFaultMgr.currentFaults ||| fm.powerFaultMgr.summaryFaults) ≠ 0#64 := by
    rw [Word.ne_zero_iff_bit]
    refine ⟨pos, ?_⟩
    simp [hmask, hheld.2, fm.powerFaultMgr.within_enable pos hheld.1]
  simp [checkForPowerSubsystemFaults, hne]

theorem check_of_commConnectionFault {fm : FaultMgr} (h : fm.commConnectionFault = true)
    (mask : FaultStatusBits) : fm.checkForPowerSubsystemFaults mask = true := by
  simp [checkForPowerSubsystemFaults, h]

end FaultMgr

end M2Cell
