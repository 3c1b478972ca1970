import M2Cell.FaultMgr.FaultStatusBits

/-!
# One fault manager

`BasicFaultMgr` holds the fault words of one system: the faults of the last
report (`currentFaults`), those of the report before (`prevFaults`), the record
of what has not been reset (`summaryFaults`), and the masks.  The two facts that
every constructor establishes and no member function breaks are fields of the
structure: the default mask is the mask of all faults, and every fault is
enabled.

`PowerFaultMgr` is the manager of the power system.  Its constructor calls
`setAffectedFaultsMask` twice, so the second call, with the mask of the affected
warnings, overwrites the first, and `affectedWarnInfoMask` stays empty.  Its type
records this, together with the invariant behind latching: whatever was reported
last is in the summary (`prev_within`).
-/

namespace M2Cell

open FaultStatusBits

/-- `BasicFaultMgr::CrioSubsystem`. -/
inductive CrioSubsystem
  | systemController
  | faultManager
  | powerSubsystem
  | cellController
  | telemetryLogger
  | networkInterface
  | motionEngine
  deriving DecidableEq, Repr

/-- `BasicFaultMgr`, without its time stamp. -/
structure BasicFaultMgr where
  summaryFaults : FaultStatusBits
  prevFaults : FaultStatusBits
  currentFaults : FaultStatusBits
  faultEnableMask : FaultStatusBits
  defaultFaultMask : FaultStatusBits
  affectedFaultsMask : FaultStatusBits
  affectedWarnInfoMask : FaultStatusBits
  /-- Nothing writes the default mask after construction. -/
  default_eq : defaultFaultMask = getMaskFaults
  /-- Every fault is enabled at construction, and enabling only adds bits. -/
  within_enable : Word.Within getMaskFaults faultEnableMask
  deriving DecidableEq

namespace BasicFaultMgr

/-- The constructor. -/
def new : BasicFaultMgr where
  summaryFaults := 0
  prevFaults := 0
  currentFaults := 0
  faultEnableMask := getMaskFaults
  defaultFaultMask := getMaskFaults
  affectedFaultsMask := 0
  affectedWarnInfoMask := 0
  default_eq := rfl
  within_enable := Word.Within.refl _

def setCurrentFaults (val : FaultStatusBits) (mgr : BasicFaultMgr) : BasicFaultMgr :=
  { mgr with currentFaults := val }

def setAffectedFaultsMask (val : FaultStatusBits) (mgr : BasicFaultMgr) : BasicFaultMgr :=
  { mgr with affectedFaultsMask := val }

/-- The test at the start of `updateFaults`: some enabled bit differs from the
last report. -/
def faultsChanged (mgr : BasicFaultMgr) : Bool :=
  (mgr.prevFaults ^^^ mgr.currentFaults) &&& mgr.faultEnableMask != 0#64

/-- `updateFaults`: merge the current faults into the summary, which keeps its
fault bits and loses its warning and information bits.  Returns false when there
is nothing to do.  The `subsystem` argument of the source is never read. -/
def updateFaults (mgr : BasicFaultMgr) : BasicFaultMgr × Bool :=
  if mgr.faultsChanged then
    ({ mgr with
        prevFaults := mgr.currentFaults
        summaryFaults := (mgr.summaryFaults &&& mgr.defaultFaultMask) ||| mgr.currentFaults },
      true)
  else (mgr, false)

/-- `resetFaults`: clear the bits of `mask` in all three words. -/
def resetFaults (mask : FaultStatusBits) (mgr : BasicFaultMgr) : BasicFaultMgr :=
  { mgr with
    summaryFaults := mgr.summaryFaults &&& ~~~mask
    currentFaults := mgr.currentFaults &&& ~~~mask
    prevFaults := mgr.prevFaults &&& ~~~mask }

/-- `updateFaultStatus`: the updated summary and the changed bits.  Both are
returned as `uint16_t`. -/
def updateFaultStatus (summaryFaultStatus faultEnableMask newFaultStatus affectedWarnInfo
    affectedFault : FaultStatusBits) : BitVec 16 × BitVec 16 :=
  let affectedAll := affectedFault ||| affectedWarnInfo
  let cf := summaryFaultStatus
  let cfPrime := cf &&& ~~~affectedWarnInfo
  let newMasked := newFaultStatus &&& affectedAll
  let updatedSummaryFaults := cf ^^^ (newMasked ||| cfPrime)
  let changedBits := faultEnableMask &&& affectedAll &&& updatedSummaryFaults
  (updatedSummaryFaults.setWidth 16, changedBits.setWidth 16)

/-- `mergeFaults`: add the enabled bits of `bits` to the summary; returns the
bits that changed. -/
def mergeFaults (bits : FaultStatusBits) (mgr : BasicFaultMgr) : BasicFaultMgr × FaultStatusBits :=
  let bitsMask := mgr.faultEnableMask &&& bits
  if bitsMask = 0#64 then (mgr, bitsMask)
  else
    let previous := mgr.summaryFaults
    ({ mgr with
        summaryFaults := mgr.summaryFaults ||| bitsMask
        currentFaults := mgr.currentFaults ||| bitsMask
        prevFaults := previous },
      (mgr.summaryFaults ||| bitsMask) ^^^ previous)

/-- `updateSummary`. -/
def updateSummary (newSummary : FaultStatusBits) (mgr : BasicFaultMgr) : BasicFaultMgr :=
  { mgr with
    prevFaults := mgr.currentFaults
    summaryFaults := newSummary
    currentFaults := newSummary }

/-- `setMaskComm`: enable and set the bits of `newFaultMask`. -/
def setMaskComm (newFaultMask : FaultStatusBits) (mgr : BasicFaultMgr) : BasicFaultMgr :=
  let newSummary := (mgr.summaryFaults &&& mgr.defaultFaultMask) ||| newFaultMask
  { mgr with
    faultEnableMask := mgr.faultEnableMask ||| newFaultMask
    affectedFaultsMask := mgr.affectedFaultsMask ||| newFaultMask
    prevFaults := mgr.currentFaults
    summaryFaults := newSummary
    currentFaults := newSummary
    within_enable := mgr.within_enable.or_left _ }

/-- `enableFaultsInMask`: returns the bits that changed. -/
def enableFaultsInMask (mask : FaultStatusBits) (mgr : BasicFaultMgr) :
    BasicFaultMgr × FaultStatusBits :=
  let enabled := mgr.faultEnableMask ||| mask
  ({ mgr with
      faultEnableMask := enabled
      within_enable := mgr.within_enable.or_left _ },
    enabled ^^^ mgr.faultEnableMask)

/-! ## What one update can do -/

theorem faultsChanged_eq_false_iff (mgr : BasicFaultMgr) :
    mgr.faultsChanged = false ↔
      ∀ pos, Word.bit mgr.faultEnableMask pos = true →
        Word.bit mgr.prevFaults pos = Word.bit mgr.currentFaults pos := by
  rw [← Word.xor_and_eq_zero_iff]
  simp [faultsChanged]

/-- A fault bit that an unchanged report carries was in the previous one. -/
theorem bit_prevFaults_of_unchanged {mgr : BasicFaultMgr} (h : mgr.faultsChanged = false)
    {pos : FaultBit} (hfault : Word.bit getMaskFaults pos = true) :
    Word.bit mgr.prevFaults pos = Word.bit mgr.currentFaults pos :=
  mgr.faultsChanged_eq_false_iff.mp h pos (mgr.within_enable pos hfault)

theorem updateFaults_snd (mgr : BasicFaultMgr) : mgr.updateFaults.2 = mgr.faultsChanged := by
  unfold updateFaults
  split <;> simp_all

@[simp] theorem faultEnableMask_updateFaults (mgr : BasicFaultMgr) :
    mgr.updateFaults.1.faultEnableMask = mgr.faultEnableMask := by
  unfold updateFaults
  split <;> rfl

theorem summaryFaults_updateFaults (mgr : BasicFaultMgr) :
    mgr.updateFaults.1.summaryFaults =
      if mgr.faultsChanged then
        (mgr.summaryFaults &&& mgr.defaultFaultMask) ||| mgr.currentFaults
      else mgr.summaryFaults := by
  unfold updateFaults
  split <;> rfl

@[simp] theorem bit_mergeFaults_summaryFaults (bits : FaultStatusBits) (mgr : BasicFaultMgr)
    (pos : FaultBit) :
    Word.bit (mgr.mergeFaults bits).1.summaryFaults pos =
      (Word.bit mgr.summaryFaults pos ||
        (Word.bit mgr.faultEnableMask pos && Word.bit bits pos)) := by
  unfold mergeFaults
  by_cases h : mgr.faultEnableMask &&& bits = 0#64
  · have hpos := (Word.eq_zero_iff_bit _).mp h pos
    simp only [Word.bit_and] at hpos
    simp [h, hpos]
  · simp [h]

end BasicFaultMgr

/-! ## The manager of the power faults -/

/-- `PowerFaultMgr`, with the facts its constructor establishes. -/
structure PowerFaultMgr extends BasicFaultMgr where
  affectedFaults_eq : affectedFaultsMask = getPowerSubsystemFaultManagerAffectedWarningMask
  affectedWarnInfo_eq : affectedWarnInfoMask = 0
  /-- Whatever was reported last is recorded in the summary. -/
  prev_within : Word.Within prevFaults summaryFaults
  deriving DecidableEq

namespace PowerFaultMgr

/-- The constructor: `affectedFaultsMask` is assigned twice. -/
def new : PowerFaultMgr where
  toBasicFaultMgr :=
    (BasicFaultMgr.new.setAffectedFaultsMask getPowerSubsystemFaultManagerAffectedFaultMask)
      |>.setAffectedFaultsMask getPowerSubsystemFaultManagerAffectedWarningMask
  affectedFaults_eq := rfl
  affectedWarnInfo_eq := rfl
  prev_within := Word.Within.refl _

/-- `setCurrentFaults` changes no other word. -/
def setCurrentFaults (val : FaultStatusBits) (mgr : PowerFaultMgr) : PowerFaultMgr :=
  { mgr with currentFaults := val }

theorem prev_within_updateFaults (mgr : PowerFaultMgr) :
    Word.Within mgr.updateFaults.1.prevFaults mgr.updateFaults.1.summaryFaults := by
  unfold BasicFaultMgr.updateFaults
  split
  · exact (Word.Within.refl _).or_right _
  · exact mgr.prev_within

/-- `updateFaults` on the power manager. -/
def updateFaults (mgr : PowerFaultMgr) : PowerFaultMgr × Bool :=
  ({ toBasicFaultMgr := mgr.toBasicFaultMgr.updateFaults.1
     affectedFaults_eq := by
       unfold BasicFaultMgr.updateFaults
       split <;> exact mgr.affectedFaults_eq
     affectedWarnInfo_eq := by
       unfold BasicFaultMgr.updateFaults
       split <;> exact mgr.affectedWarnInfo_eq
     prev_within := mgr.prev_within_updateFaults },
    mgr.toBasicFaultMgr.updateFaults.2)

def resetFaults (mask : FaultStatusBits) (mgr : PowerFaultMgr) : PowerFaultMgr where
  toBasicFaultMgr := mgr.toBasicFaultMgr.resetFaults mask
  affectedFaults_eq := mgr.affectedFaults_eq
  affectedWarnInfo_eq := mgr.affectedWarnInfo_eq
  prev_within := mgr.prev_within.and_congr _

def enableFaultsInMask (mask : FaultStatusBits) (mgr : PowerFaultMgr) : PowerFaultMgr where
  toBasicFaultMgr := (mgr.toBasicFaultMgr.enableFaultsInMask mask).1
  affectedFaults_eq := mgr.affectedFaults_eq
  affectedWarnInfo_eq := mgr.affectedWarnInfo_eq
  prev_within := mgr.prev_within

/-- **One report.**  On the fault bits an update adds exactly the reported
faults to the summary, whether or not it reports a change. -/
theorem bit_summaryFaults_updateFaults (mgr : PowerFaultMgr) {pos : FaultBit}
    (hfault : Word.bit getMaskFaults pos = true) :
    Word.bit mgr.updateFaults.1.summaryFaults pos =
      (Word.bit mgr.summaryFaults pos || Word.bit mgr.currentFaults pos) := by
  change Word.bit mgr.toBasicFaultMgr.updateFaults.1.summaryFaults pos = _
  rw [BasicFaultMgr.summaryFaults_updateFaults]
  cases hchanged : mgr.faultsChanged with
  | true => simp [mgr.default_eq, hfault]
  | false =>
      -- The report repeats the previous one, which the summary already holds.
      have hprev := mgr.bit_prevFaults_of_unchanged hchanged hfault
      cases hcurrent : Word.bit mgr.currentFaults pos with
      | false => simp
      | true => simp [mgr.prev_within pos (hprev.trans hcurrent)]

@[simp] theorem faultEnableMask_updateFaults (mgr : PowerFaultMgr) :
    mgr.updateFaults.1.faultEnableMask = mgr.faultEnableMask :=
  mgr.toBasicFaultMgr.faultEnableMask_updateFaults

end PowerFaultMgr

end M2Cell
