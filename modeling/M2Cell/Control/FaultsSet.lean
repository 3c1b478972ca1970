import M2Cell.Control.PowerEvents

/-!
# The faults that telemetry can set

`SetsOnly allowed c r` says that the faults that were set between two calls are
among the allowed ones.  Every piece of the state machine is put together from
calls that set one fault and calls that set none, so the rules `setFault`,
`setPowerOff`, `enter` and `write` give the proof for each of its branches.

On a record `info` the state machine of a subsystem sets faults of its own list
only, and the one for excessive current only when the current is above the limit
(`Settable`).
-/

namespace M2Cell

open FaultStatusBits PowerSubsystemConfig

/-- The faults that the state machine can set at any current. -/
def settableFaults (ty : PowerSystemType) : List FaultBit :=
  [(psCfg ty).voltageFault, (psCfg ty).voltageWarn, (psCfg ty).relayFault, (psCfg ty).relayInUse,
    (psCfg ty).breakerFault, (psCfg ty).breakerWarn, hardwareFault, interlockFault]

/-- The fault can be set by the state machine on the record `info`. -/
def Settable (ty : PowerSystemType) (info : SysInfo) (pos : FaultBit) : Prop :=
  pos ∈ settableFaults ty ∨
    pos = (psCfg ty).excessiveCurrent ∧ info.current ty > (psCfg ty).maxCurrent

namespace Call

/-- The faults that were set between the two calls are allowed. -/
def SetsOnly (allowed : FaultBit → Prop) (c r : Call) : Prop :=
  ∀ pos, Word.bit r.faultsSet pos = true → Word.bit c.faultsSet pos = true ∨ allowed pos

namespace SetsOnly

variable {allowed : FaultBit → Prop} {c d r : Call}

theorem refl (c : Call) : SetsOnly allowed c c := fun _ => Or.inl

theorem of_eq (h : r.faultsSet = c.faultsSet) : SetsOnly allowed c r := by
  intro pos hpos
  rw [h] at hpos
  exact Or.inl hpos

theorem trans (h : SetsOnly allowed c d) (h' : SetsOnly allowed d r) : SetsOnly allowed c r := by
  intro pos hpos
  obtain hset | hallowed := h' pos hpos
  · exact h pos hset
  · exact Or.inr hallowed

/-- A call after which no fault is set. -/
theorem keep (h : SetsOnly allowed c d) (hsame : r.faultsSet = d.faultsSet) :
    SetsOnly allowed c r :=
  h.trans (of_eq hsame)

theorem setFault (h : SetsOnly allowed c d) {pos : FaultBit} (hpos : allowed pos) :
    SetsOnly allowed c (d.setFault pos) := by
  intro other hother
  rw [bit_setFault, Bool.or_eq_true, decide_eq_true_eq] at hother
  obtain rfl | hset := hother
  · exact Or.inr hpos
  · exact h other hset

theorem setPowerOff (h : SetsOnly allowed c d) (ty : PowerSystemType) (stamp : Time) :
    SetsOnly allowed c (d.setPowerOff ty stamp) :=
  h.keep (faultsSet_setPowerOff d ty stamp)

theorem ite {p : Prop} [Decidable p] (ht : SetsOnly allowed c d) (hr : SetsOnly allowed c r) :
    SetsOnly allowed c (if p then d else r) := by
  split
  · exact ht
  · exact hr

end SetsOnly

section pieces

variable {allowed : FaultBit → Prop} {ty : PowerSystemType} {c d : Call} {clock : Clock}
  {outputIsOn : Bool} {voltage : ℚ}

theorem setsOnly_updateFaults (hall : ∀ pos ∈ settableFaults ty, allowed pos)
    (h : SetsOnly allowed c d) (stamp : Time) : SetsOnly allowed c (d.updateFaults ty stamp) := by
  have hvoltage : allowed (psCfg ty).voltageFault := hall _ (by simp [settableFaults])
  have hhardware : allowed hardwareFault := hall _ (by simp [settableFaults])
  exact ((h.setFault hvoltage).setFault hhardware).setPowerOff ty stamp

theorem setsOnly_checkForPowerOnBreakerFault (hall : ∀ pos ∈ settableFaults ty, allowed pos)
    (h : SetsOnly allowed c d) (stamp : Time) (voltage : ℚ) :
    SetsOnly allowed c (d.checkForPowerOnBreakerFault ty stamp voltage).1 := by
  have hbreaker : allowed (psCfg ty).breakerFault := hall _ (by simp [settableFaults])
  have hwarn : allowed (psCfg ty).breakerWarn := hall _ (by simp [settableFaults])
  unfold checkForPowerOnBreakerFault
  dsimp only
  split_ifs
  · exact h
  · exact (h.setFault hbreaker).setPowerOff ty stamp
  · exact h.setFault hwarn
  · exact setsOnly_updateFaults hall h stamp

theorem setsOnly_processOnPhase (hall : ∀ pos ∈ settableFaults ty, allowed pos)
    (h : SetsOnly allowed c d) : SetsOnly allowed c (d.processOnPhase ty clock voltage) := by
  have hwarn : allowed (psCfg ty).voltageWarn := hall _ (by simp [settableFaults])
  have hfault : allowed (psCfg ty).voltageFault := hall _ (by simp [settableFaults])
  have hlow : SetsOnly allowed c
      (if voltage < (psCfg ty).minVoltageWarn then d.setFault (psCfg ty).voltageWarn else d) :=
    .ite (h.setFault hwarn) h
  unfold processOnPhase
  dsimp only
  generalize (if voltage < (psCfg ty).minVoltageWarn then d.setFault (psCfg ty).voltageWarn
    else d) = e at hlow ⊢
  split_ifs
  · exact h.keep rfl
  · exact h
  · exact (hlow.setFault hfault).setPowerOff ty clock.stamp
  · exact hlow
  · exact h

theorem setsOnly_processOn (hall : ∀ pos ∈ settableFaults ty, allowed pos)
    (h : SetsOnly allowed c d) : SetsOnly allowed c (d.processOn ty clock outputIsOn voltage) := by
  have hcheck := setsOnly_checkForPowerOnBreakerFault hall h clock.stamp voltage
  unfold processOn
  generalize d.checkForPowerOnBreakerFault ty clock.stamp voltage = check at hcheck ⊢
  obtain ⟨e, breakerFault⟩ := check
  dsimp only at hcheck ⊢
  split_ifs
  · exact h.setPowerOff ty clock.stamp
  · exact hcheck.setPowerOff ty clock.stamp
  · exact setsOnly_processOnPhase hall hcheck

theorem setsOnly_processBreakers (hall : ∀ pos ∈ settableFaults ty, allowed pos)
    (h : SetsOnly allowed c d) : SetsOnly allowed c (d.processBreakers ty clock voltage) := by
  unfold processBreakers
  split_ifs
  · exact setsOnly_updateFaults hall h clock.stamp
  · exact h.keep rfl
  · exact h.keep rfl

theorem setsOnly_processTurningOn (hall : ∀ pos ∈ settableFaults ty, allowed pos)
    (h : SetsOnly allowed c d) :
    SetsOnly allowed c (d.processTurningOn ty clock outputIsOn voltage) := by
  have hcount : SetsOnly allowed c (d.countTelemetry clock) :=
    h.keep (countTelemetry_spec d clock).2
  unfold processTurningOn
  dsimp only
  split_ifs
  · exact hcount.setPowerOff ty clock.stamp
  · exact setsOnly_processBreakers hall (hcount.keep rfl)
  · exact hcount
  · exact setsOnly_processBreakers hall hcount
  · exact hcount

theorem setsOnly_processReset (hall : ∀ pos ∈ settableFaults ty, allowed pos)
    (h : SetsOnly allowed c d) :
    SetsOnly allowed c (d.processReset ty clock outputIsOn voltage) := by
  have hwritten : SetsOnly allowed c
      (d.writeOutputPortBitPos (psCfg ty).outputBreakerBitPos true) := h.keep rfl
  have hcheck := setsOnly_checkForPowerOnBreakerFault hall hwritten clock.stamp voltage
  unfold processReset
  dsimp only
  split_ifs
  · exact hwritten.setPowerOff ty clock.stamp
  · exact setsOnly_updateFaults hall h clock.stamp
  · exact hcheck
  · exact hcheck.keep rfl
  · exact hwritten
  · exact h

theorem setsOnly_processActual (hall : ∀ pos ∈ settableFaults ty, allowed pos)
    (h : SetsOnly allowed c d) :
    SetsOnly allowed c (d.processActual ty clock outputIsOn voltage) := by
  unfold processActual
  cases d.sub.actualPowerState with
  | on => exact setsOnly_processOn hall h
  | off => exact setsOnly_processTurningOn hall (h.keep rfl)
  | turningOff => exact setsOnly_processTurningOn hall (h.keep rfl)
  | turningOn => exact setsOnly_processTurningOn hall h
  | reset => exact setsOnly_processReset hall h
  | unknown => exact h.setPowerOff ty clock.stamp

theorem setsOnly_processTurningOff (hall : ∀ pos ∈ settableFaults ty, allowed pos)
    (h : SetsOnly allowed c d) (clock : Clock) : SetsOnly allowed c (d.processTurningOff ty clock) := by
  have hrelay : allowed (psCfg ty).relayFault := hall _ (by simp [settableFaults])
  have hinUse : allowed (psCfg ty).relayInUse := hall _ (by simp [settableFaults])
  unfold processTurningOff
  split_ifs
  · exact h.keep rfl
  · exact ((h.setFault hrelay).setFault hinUse).setPowerOff ty clock.stamp
  · exact h

theorem setsOnly_processPowerOff (hall : ∀ pos ∈ settableFaults ty, allowed pos)
    (h : SetsOnly allowed c d) (clock : Clock) : SetsOnly allowed c (d.processPowerOff ty clock) := by
  have hoff := h.setPowerOff ty clock.stamp
  have hfall := setsOnly_processTurningOff hall
    (hoff.keep (faultsSet_enter _ (d.setPowerOff ty clock.stamp).sub.actualPowerState
      (d.setPowerOff ty clock.stamp).sub.phase clock.now)) clock
  unfold processPowerOff
  split_ifs
  · exact hoff
  · cases d.sub.actualPowerState with
    | off => exact h
    | turningOff => exact setsOnly_processTurningOff hall h clock
    | unknown | turningOn | reset | on => exact hfall

end pieces

section whole

variable (ty : PowerSystemType) (c : Call) (clock : Clock)

theorem setsOnly_processPowerOn :
    SetsOnly (Settable ty c.sub.sysInfo) c (c.processPowerOn ty clock) := by
  have hall : ∀ pos ∈ settableFaults ty, Settable ty c.sub.sysInfo pos := fun _ => Or.inl
  have hvoltage : Settable ty c.sub.sysInfo (psCfg ty).voltageFault :=
    hall _ (by simp [settableFaults])
  have hwarn : Settable ty c.sub.sysInfo (psCfg ty).voltageWarn :=
    hall _ (by simp [settableFaults])
  have hinterlock : Settable ty c.sub.sysInfo interlockFault := hall _ (by simp [settableFaults])
  obtain ⟨hsub, hshould⟩ : (c.powerShouldBeOn ty).sub = c.sub ∧
      SetsOnly (Settable ty c.sub.sysInfo) c (c.powerShouldBeOn ty) := by
    unfold powerShouldBeOn
    split_ifs
    · exact ⟨rfl, .refl c⟩
    · exact ⟨rfl, (SetsOnly.refl c).setFault hinterlock⟩
    · exact ⟨rfl, .refl c⟩
  unfold processPowerOn
  dsimp only
  generalize c.powerShouldBeOn ty = d at hsub hshould ⊢
  split_ifs with hover hhigh hcurrent hcurrent
  · exact (hshould.setFault hvoltage).setPowerOff ty clock.stamp
  · have hexcessive : Settable ty c.sub.sysInfo (psCfg ty).excessiveCurrent := by
      rw [sub_setFault, hsub, PowerSubsystem.getCurrent_eq] at hcurrent
      exact Or.inr ⟨rfl, hcurrent⟩
    exact ((hshould.setFault hwarn).setFault hexcessive).setPowerOff ty clock.stamp
  · exact setsOnly_processActual hall (hshould.setFault hwarn)
  · have hexcessive : Settable ty c.sub.sysInfo (psCfg ty).excessiveCurrent := by
      rw [hsub, PowerSubsystem.getCurrent_eq] at hcurrent
      exact Or.inr ⟨rfl, hcurrent⟩
    exact (hshould.setFault hexcessive).setPowerOff ty clock.stamp
  · exact setsOnly_processActual hall hshould

/-- **The state machine sets faults of its own list only.** -/
theorem setsOnly_processTarg :
    SetsOnly (Settable ty c.sub.sysInfo) c (c.processTarg ty clock) := by
  have hall : ∀ pos ∈ settableFaults ty, Settable ty c.sub.sysInfo pos := fun _ => Or.inl
  have hinvalid := setsOnly_processPowerOff hall
    ((SetsOnly.refl c).setPowerOff ty clock.stamp) clock
  unfold processTarg
  cases c.sub.targPowerState with
  | on => exact setsOnly_processPowerOn ty c clock
  | off => exact setsOnly_processPowerOff hall (.refl c) clock
  | unknown | turningOn | reset | turningOff => exact hinvalid

end whole

end Call

namespace System

variable (ty : PowerSystemType) (clock : Clocks) (info : SysInfo) (faultsSet : FaultStatusBits)
  (s : System)

@[simp] theorem sysInfo_setPowerOff (ty' : PowerSystemType) :
    ((s.setPowerOff ty clock).sub ty').sysInfo = (s.sub ty').sysInfo := by
  obtain rfl | rfl := ty.eq_or_eq_other ty' <;> simp [setPowerOff]

theorem sysInfo_reportChange (ty' : PowerSystemType) :
    ((s.reportChange ty clock).sub ty').sysInfo = (s.sub ty').sysInfo := by
  unfold reportChange reportStateChange
  rw [reportPowerSystemStateChange_eq]
  split_ifs
  · simp [turnOffAll]
  · cases ty' <;> rfl
  · rfl
  · rfl

/-- The state machine runs on the record that was read. -/
theorem sysInfo_prepareDaq : ((s.prepareDaq ty clock info).sub ty).sysInfo = info := by
  have hfaults : ((s.processFaults ty clock info).sub ty).sysInfo = info := by
    simp only [processFaults, sub_store, Call.processFaults]
    split_ifs <;> simp
  rw [prepareDaq_eq]
  simp only [savePrev, sub_store]
  exact (sysInfo_reportChange ty clock _ ty).trans hfaults

/-- **A `processDaq` sets faults of its own list only.** -/
theorem faultsSet_processDaq {pos : FaultBit}
    (hpos : Word.bit (s.processDaq ty clock info faultsSet).2 pos = true) :
    Word.bit faultsSet pos = true ∨ Settable ty info pos := by
  have hsets := Call.setsOnly_processTarg ty ((s.prepareDaq ty clock info).call ty faultsSet)
    (clock ty)
  rw [sub_call, sysInfo_prepareDaq] at hsets
  exact hsets pos hpos

end System

namespace PowerSystem

variable (clock : Clocks) (info : SysInfo) (s : System)

/-- What a whole `_processDaq` reports: health faults, and faults of the two lists. -/
theorem faultsSet_commDaq {pos : FaultBit}
    (hpos : Word.bit (commDaq clock info s).2 pos = true) :
    Word.bit (healthFaults info s) pos = true ∨ ∃ ty, Settable ty info pos := by
  obtain hmotor | hcomm := System.faultsSet_processDaq .comm clock info _ _ hpos
  · obtain hhealth | hmotor := System.faultsSet_processDaq .motor clock info _ _ hmotor
    · exact Or.inl hhealth
    · exact Or.inr ⟨.motor, hmotor⟩
  · exact Or.inr ⟨.comm, hcomm⟩

/-- On a record whose supplies are healthy there are no health faults. -/
theorem healthFaults_of_ok (hload : powerLoadOk info = true)
    (hsupply : powerSupplyOk s.boostCurrentFaultEnabled info = true) : healthFaults info s = 0 := by
  simp [healthFaults, processDaqHealthTelemetry, hload, hsupply]

end PowerSystem

end M2Cell
