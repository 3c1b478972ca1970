import M2Cell.FaultMgr.FaultMgr

/-!
# The system summary of faults

`updatePowerFaults` computes the new system summary with `updateFaultStatus`.
Three things meet there: the power manager's affected mask holds warnings only,
the new word is the difference to the old summary, and it is cut to 16 bits.
What comes out is `bit_getSummaryFaults_updatePowerFaults`: after a change of
the power faults the summary holds the two voltage warnings, each only if it is
reported and was not in the summary before, and nothing else.

The two consequences are stated exactly.  The summary latches over a run when
each report either repeats the previous one or finds no fault in the summary
(`summary_latches_iff`), and a report reaches the summary when it has nothing
but new voltage warnings to say (`powerFaults_reported_iff`).
-/

namespace M2Cell

open FaultStatusBits

namespace FaultMgr

/-- The report differs from the previous one in an enabled bit. -/
def ReportsChange (currentFaults : FaultStatusBits) (fm : FaultMgr) : Prop :=
  (fm.powerFaultMgr.prevFaults ^^^ currentFaults) &&& fm.powerFaultMgr.faultEnableMask ≠ 0#64

instance (currentFaults : FaultStatusBits) (fm : FaultMgr) :
    Decidable (fm.ReportsChange currentFaults) :=
  inferInstanceAs (Decidable
    ((fm.powerFaultMgr.prevFaults ^^^ currentFaults) &&& fm.powerFaultMgr.faultEnableMask ≠ 0#64))

variable (fm : FaultMgr) (currentFaults : FaultStatusBits) (subsystem : CrioSubsystem)

theorem reportPowerFaults_snd :
    (fm.reportPowerFaults currentFaults).2 = decide (fm.ReportsChange currentFaults) := by
  change (fm.powerFaultMgr.setCurrentFaults currentFaults).toBasicFaultMgr.updateFaults.2 = _
  rw [BasicFaultMgr.updateFaults_snd]
  unfold BasicFaultMgr.faultsChanged ReportsChange
  rw [bne, Bool.beq_eq_decide_eq, ← decide_not]
  rfl

/-- The power manager's words that go into the system summary. -/
theorem reportPowerFaults_fst :
    (fm.reportPowerFaults currentFaults).1.currentFaults = currentFaults ∧
      (fm.reportPowerFaults currentFaults).1.affectedFaultsMask =
        getPowerSubsystemFaultManagerAffectedWarningMask ∧
      (fm.reportPowerFaults currentFaults).1.affectedWarnInfoMask = 0 := by
  refine ⟨?_, (fm.reportPowerFaults currentFaults).1.affectedFaults_eq,
    (fm.reportPowerFaults currentFaults).1.affectedWarnInfo_eq⟩
  change (fm.powerFaultMgr.setCurrentFaults currentFaults).toBasicFaultMgr.updateFaults.1.currentFaults = _
  unfold BasicFaultMgr.updateFaults
  split <;> rfl

theorem getSummaryFaults_updatePowerFaults :
    (fm.updatePowerFaults currentFaults subsystem).1.getSummaryFaults =
      if fm.ReportsChange currentFaults then
        fm.updatedSummary (fm.reportPowerFaults currentFaults).1
      else fm.getSummaryFaults := by
  have hchanged := fm.reportPowerFaults_snd currentFaults
  unfold updatePowerFaults
  generalize fm.reportPowerFaults currentFaults = report at *
  obtain ⟨power, changed⟩ := report
  by_cases hreport : fm.ReportsChange currentFaults
  · simp only [hreport, decide_true] at hchanged
    simp only [hchanged, hreport, if_true]
    split_ifs with hsame
    · exact hsame.symm
    · rfl
  · simp only [hreport, decide_false] at hchanged
    simp only [hchanged, hreport, Bool.false_eq_true, if_false]
    rfl

/-- **The summary after a change of the power faults**, bit by bit. -/
theorem bit_getSummaryFaults_updatePowerFaults (hchange : fm.ReportsChange currentFaults)
    (pos : FaultBit) :
    Word.bit (fm.updatePowerFaults currentFaults subsystem).1.getSummaryFaults pos = true ↔
      (pos = motorVoltageWarn ∨ pos = commVoltageWarn) ∧ Word.bit currentFaults pos = true ∧
        Word.bit fm.getSummaryFaults pos = false := by
  obtain ⟨hcurrent, haffected, hwarn⟩ := fm.reportPowerFaults_fst currentFaults
  rw [getSummaryFaults_updatePowerFaults, if_pos hchange, ← affectedWarning_low_iff]
  unfold updatedSummary BasicFaultMgr.updateFaultStatus
  rw [hcurrent, haffected, hwarn]
  dsimp only
  have hzero : Word.bit (0 : FaultStatusBits) pos = false := Word.bit_zero pos
  simp only [Word.bit_setWidth_setWidth, Word.bit_xor, Word.bit_or, Word.bit_and, Word.bit_not,
    hzero]
  cases Word.bit getPowerSubsystemFaultManagerAffectedWarningMask pos <;>
    cases Word.bit currentFaults pos <;> cases Word.bit fm.getSummaryFaults pos <;> simp

/-- A change of the power faults leaves no fault in the summary. -/
theorem not_fault_of_reportsChange (hchange : fm.ReportsChange currentFaults) {pos : FaultBit}
    (hfault : Word.bit getMaskFaults pos = true) :
    Word.bit (fm.updatePowerFaults currentFaults subsystem).1.getSummaryFaults pos = false := by
  have hnot : ¬ (pos = motorVoltageWarn ∨ pos = commVoltageWarn) := by
    intro hwarn
    have hmask := not_maskFaults_of_affectedWarning ((affectedWarning_low_iff pos).mpr hwarn).2
    simp [hmask] at hfault
  have hbit := mt (fm.bit_getSummaryFaults_updatePowerFaults currentFaults subsystem hchange pos).mp
    fun h => hnot h.1
  simpa using hbit

/-! ## The summary as a latch -/

/-- The faults, without warnings and information, that the system summary holds. -/
def summaryFaultBits : Set FaultBit :=
  {pos | Word.bit getMaskFaults pos = true ∧ Word.bit fm.getSummaryFaults pos = true}

/-- **Latching.**  A fault in the summary stays there until an operation resets it. -/
def SummaryLatches (ops : List FaultMgrOp) : Prop :=
  ∀ before during after, ops = before ++ during ++ after →
    ∀ pos ∈ (run step fm before).summaryFaultBits,
      (∀ op ∈ during, Word.bit (resetMask op) pos = false) →
      pos ∈ (run step fm (before ++ during)).summaryFaultBits

/-- A report of power faults that repeats the one before, or finds no fault in
the summary. -/
def KeepsSummary : FaultMgrOp → Prop
  | .updatePowerFaults currentFaults _ =>
      ¬ fm.ReportsChange currentFaults ∨ fm.getSummaryFaults &&& getMaskFaults = 0#64
  | _ => True

variable {fm} {op : FaultMgrOp} {pos : FaultBit}

/-- One operation keeps a fault that it does not reset. -/
theorem mem_summaryFaultBits_step (hkeeps : fm.KeepsSummary op)
    (hreset : Word.bit (resetMask op) pos = false) (hpos : pos ∈ fm.summaryFaultBits) :
    pos ∈ (fm.step op).summaryFaultBits := by
  obtain ⟨hfault, hset⟩ := hpos
  refine ⟨hfault, ?_⟩
  cases op with
  | updatePowerFaults currentFaults subsystem =>
      change Word.bit (fm.updatePowerFaults currentFaults subsystem).1.getSummaryFaults pos = true
      rcases hkeeps with hsame | hnone
      · rw [getSummaryFaults_updatePowerFaults, if_neg hsame, hset]
      · have hzero := (Word.eq_zero_iff_bit _).mp hnone pos
        simp [hset, hfault] at hzero
  | reportMotionEngineTimeout errorLvl =>
      change Word.bit (fm.summarySystemFaultsStatus.mergeFaults _).1.summaryFaults pos = true
      rw [BasicFaultMgr.bit_mergeFaults_summaryFaults, Bool.or_eq_true]
      exact Or.inl hset
  | reportComConnectionCount count =>
      by_cases hcount : count < 1
      · have hdefault := fm.summarySystemFaultsStatus.default_eq
        simp [step, reportComConnectionCount, hcount, getSummaryFaults, BasicFaultMgr.setMaskComm,
          hdefault, hfault]
        exact Or.inl hset
      · simp only [resetMask, hcount, if_false] at hreset
        simp [step, reportComConnectionCount, hcount, getSummaryFaults, resetFaults,
          BasicFaultMgr.resetFaults, hreset]
        exact hset
  | resetFaults mask =>
      simp only [resetMask] at hreset
      simp [step, getSummaryFaults, resetFaults, BasicFaultMgr.resetFaults, hreset]
      exact hset
  | enableFaultsInMask mask => exact hset

/-- An operation that does not keep the summary clears a fault without resetting it. -/
theorem exists_lost_of_not_keepsSummary (hkeeps : ¬ fm.KeepsSummary op) :
    ∃ pos ∈ fm.summaryFaultBits, Word.bit (resetMask op) pos = false ∧
      pos ∉ (fm.step op).summaryFaultBits := by
  cases op with
  | updatePowerFaults currentFaults subsystem =>
      simp only [KeepsSummary, not_or, not_not] at hkeeps
      obtain ⟨hchange, hsome⟩ := hkeeps
      obtain ⟨pos, hpos⟩ := (Word.ne_zero_iff_bit _).mp hsome
      simp only [Word.bit_and, Bool.and_eq_true] at hpos
      refine ⟨pos, ⟨hpos.2, hpos.1⟩, Word.bit_zero pos, ?_⟩
      intro hafter
      have hlost := fm.not_fault_of_reportsChange currentFaults subsystem hchange hpos.2
      exact absurd (hlost.symm.trans hafter.2) (by decide)
  | _ => exact absurd trivial hkeeps

/-- **When the system summary latches.**  Over a run the faults in the summary
stay until they are reset if and only if every report of power faults repeats
the report before it or finds no fault in the summary. -/
theorem summary_latches_iff (fm : FaultMgr) (ops : List FaultMgrOp) :
    fm.SummaryLatches ops ↔ Always step KeepsSummary fm ops := by
  constructor
  · intro hlatches
    rw [always_iff_split]
    rintro before op after rfl
    by_contra hkeeps
    obtain ⟨pos, hpos, hreset, hlost⟩ := exists_lost_of_not_keepsSummary hkeeps
    have hmem := hlatches before [op] after (by simp) pos hpos (by simpa using hreset)
    rw [run_concat] at hmem
    exact hlost hmem
  · rintro hkeeps before during after rfl pos hpos hreset
    rw [always_append, always_append] at hkeeps
    rw [run_append]
    -- along the run, the fault and the rest of the condition are carried together
    have hduring := hkeeps.1.2
    clear hkeeps
    generalize run step fm before = start at hpos hduring ⊢
    induction during generalizing start with
    | nil => exact hpos
    | cons op rest ih =>
        have hstep := mem_summaryFaultBits_step hduring.1 (hreset op List.mem_cons_self) hpos
        exact ih (fun other hother => hreset other (List.mem_cons_of_mem _ hother)) _ hstep hduring.2

/-- The connection is lost, which sets `CRIO_COMM_FAULT`; a motor voltage fault
then clears it. -/
theorem not_summaryLatches_connection :
    ¬ new.SummaryLatches
      [.reportComConnectionCount 0,
        .updatePowerFaults (setBitAt 0 motorVoltageFault) .powerSubsystem] := by
  intro hlatches
  have hmem := hlatches [.reportComConnectionCount 0]
    [.updatePowerFaults (setBitAt 0 motorVoltageFault) .powerSubsystem] [] rfl crioCommFault
    (by unfold summaryFaultBits; decide +kernel) (by decide +kernel)
  exact absurd hmem.2 (by decide +kernel)

/-! ## Power faults in the summary -/

/-- An enabled bit of a report that concerns the power subsystem. -/
def IsPowerReport (fm : FaultMgr) (currentFaults : FaultStatusBits) (pos : FaultBit) : Prop :=
  Word.bit fm.powerFaultMgr.faultEnableMask pos = true ∧ Word.bit currentFaults pos = true ∧
    (Word.bit getPowerSubsystemFaultManagerAffectedFaultMask pos = true ∨
      Word.bit getPowerSubsystemFaultManagerAffectedWarningMask pos = true)

instance (fm : FaultMgr) (currentFaults : FaultStatusBits) (pos : FaultBit) :
    Decidable (fm.IsPowerReport currentFaults pos) :=
  inferInstanceAs (Decidable (_ ∧ _ ∧ (_ ∨ _)))

/-- After the report, all its enabled power bits are in the system summary. -/
def PowerFaultsReported (fm : FaultMgr) (currentFaults : FaultStatusBits) : Prop :=
  ∀ pos, fm.IsPowerReport currentFaults pos →
    Word.bit (fm.updatePowerFaults currentFaults .powerSubsystem).1.getSummaryFaults pos = true

/-- **When power faults reach the system summary.**  After a report that changes
something, all its enabled power bits are in the summary if and only if they are
voltage warnings that were not in the summary before. -/
theorem powerFaults_reported_iff (fm : FaultMgr) (currentFaults : FaultStatusBits)
    (hchange : fm.ReportsChange currentFaults) :
    fm.PowerFaultsReported currentFaults ↔
      ∀ pos, fm.IsPowerReport currentFaults pos →
        (pos = motorVoltageWarn ∨ pos = commVoltageWarn) ∧
          Word.bit fm.getSummaryFaults pos = false := by
  apply forall_congr'
  intro pos
  apply forall_congr'
  intro hreport
  rw [fm.bit_getSummaryFaults_updatePowerFaults currentFaults .powerSubsystem hchange pos]
  constructor
  · rintro ⟨hwarn, -, hnew⟩
    exact ⟨hwarn, hnew⟩
  · rintro ⟨hwarn, hnew⟩
    exact ⟨hwarn, hreport.2.1, hnew⟩

/-- A motor voltage warning, once enabled, is reported. -/
theorem powerFaults_reported_voltageWarn :
    (new.enableFaultsInMask (setBitAt 0 motorVoltageWarn)).1.PowerFaultsReported
      (setBitAt 0 motorVoltageWarn) :=
  (powerFaults_reported_iff (new.enableFaultsInMask (setBitAt 0 motorVoltageWarn)).1
    (setBitAt 0 motorVoltageWarn) (by decide +kernel)).mpr (by decide +kernel)

/-- An open relay is not reported. -/
theorem not_powerFaults_reported_relay :
    ¬ ∀ (fm : FaultMgr) (currentFaults : FaultStatusBits), fm.ReportsChange currentFaults →
      fm.PowerFaultsReported currentFaults := by
  intro h
  have hrelay := h new (setBitAt 0 powerRelayOpenFault) (by decide +kernel) powerRelayOpenFault
    (by decide +kernel)
  exact absurd hrelay (by decide +kernel)

end FaultMgr

end M2Cell
