import M2Cell.Control.ClosedLoop
import M2Cell.Control.FaultsSet
import M2Cell.Proofs.FaultSummary
import M2Cell.Proofs.SimVoltage

/-!
# Faults that undisturbed hardware never raises

Run the controller against the simulator, with commands, timeouts and reads in any order, and
let nobody force the simulator or pull an input low that should be high.  Then no read ever
shows a current above four fifths of the limit, a voltage above the nominal one, or an
unhealthy supply, and the faults for excessive current and for the supplies are never recorded
(`hardware_never_faults`).

The loop starts when the simulator has finished its first iteration.  Before that its record is
blank, and the `FpgaIo` may read it: all the inputs of a blank record are low, and the supplies
look unhealthy.

`Regular` is the invariant of the simulator, `Sound` what it says of a published record, and
`Clear` that the fault manager does not hold a fault.  The steps are those of the three parts:

- `regular_step`: what an action does to a current is said by `SubMove`, and what it does to
  the inputs by `PortMove`.  The inputs must be high in every value that can still reach the
  input port (`ports`), since a store may bring back what was read before;
- `clear_step`: a fault that an operation of the fault manager does not report stays clear, and
  on a sound record no operation reports one of the `hardwareFaults` (`not_reports_of_mem`);
- `quiet_step`: the loop, for the system as it is and for what the operation under way makes of
  it.
-/

namespace M2Cell

open FaultStatusBits PowerSubsystemConfig SimPowerSubsystem

/-! ## The fault manager -/

namespace FaultMgr

/-- The fault is recorded nowhere. -/
structure Clear (pos : FaultBit) (fm : FaultMgr) : Prop where
  power : Word.bit fm.powerFaultMgr.summaryFaults pos = false
  summary : Word.bit fm.getSummaryFaults pos = false

/-- The operation reports the fault. -/
def Reports (pos : FaultBit) : FaultMgrOp → Prop
  | .updatePowerFaults currentFaults _ => Word.bit currentFaults pos = true
  | .reportMotionEngineTimeout errorLvl => Word.bit (timeoutMask errorLvl) pos = true
  | .reportComConnectionCount _ => Word.bit commMask pos = true
  | _ => False

variable {pos : FaultBit} {fm : FaultMgr}

theorem clear_new : new.Clear pos := ⟨Word.bit_zero pos, Word.bit_zero pos⟩

theorem clear_resetFaults (h : fm.Clear pos) (mask : FaultStatusBits) :
    (fm.resetFaults mask).Clear pos := by
  have hpower := h.power
  have hsummary := h.summary
  constructor
  · change Word.bit (fm.powerFaultMgr.summaryFaults &&& ~~~mask) pos = false
    rw [Word.bit_and, hpower, Bool.false_and]
  · change Word.bit (fm.getSummaryFaults &&& ~~~mask) pos = false
    rw [Word.bit_and, hsummary, Bool.false_and]

theorem clear_updatePowerFaults (h : fm.Clear pos) {currentFaults : FaultStatusBits}
    (hnot : Word.bit currentFaults pos = false) (subsystem : CrioSubsystem) :
    (fm.updatePowerFaults currentFaults subsystem).1.Clear pos := by
  constructor
  · rw [powerFaultMgr_updatePowerFaults]
    change Word.bit
      (fm.powerFaultMgr.setCurrentFaults currentFaults).toBasicFaultMgr.updateFaults.1.summaryFaults
      pos = false
    have hcurrent :
        Word.bit (fm.powerFaultMgr.setCurrentFaults currentFaults).currentFaults pos = false := hnot
    have hsummary :
        Word.bit (fm.powerFaultMgr.setCurrentFaults currentFaults).summaryFaults pos = false :=
      h.power
    rw [BasicFaultMgr.summaryFaults_updateFaults]
    split_ifs
    · rw [Word.bit_or, Word.bit_and, hcurrent, hsummary, Bool.false_and, Bool.or_false]
    · exact hsummary
  -- the summary takes over what is reported, and only when it has changed
  · by_cases hchange : fm.ReportsChange currentFaults
    · by_contra hset
      have hreported := (fm.bit_getSummaryFaults_updatePowerFaults currentFaults subsystem hchange
        pos).mp (by simpa using hset)
      rw [hnot] at hreported
      exact absurd hreported.2.1 (by decide)
    · rw [getSummaryFaults_updatePowerFaults, if_neg hchange]
      exact h.summary

/-- **A fault that is not reported stays clear.** -/
theorem clear_step (h : fm.Clear pos) {op : FaultMgrOp} (hop : ¬ Reports pos op) :
    (fm.step op).Clear pos := by
  cases op with
  | updatePowerFaults currentFaults subsystem =>
      exact clear_updatePowerFaults h (by simpa [Reports] using hop) subsystem
  | reportMotionEngineTimeout errorLvl =>
      refine ⟨h.power, ?_⟩
      have hnot : Word.bit (timeoutMask errorLvl) pos = false := by simpa [Reports] using hop
      have hsummary : Word.bit fm.summarySystemFaultsStatus.summaryFaults pos = false := h.summary
      change Word.bit (fm.summarySystemFaultsStatus.mergeFaults (timeoutMask errorLvl)).1.summaryFaults
        pos = false
      rw [BasicFaultMgr.bit_mergeFaults_summaryFaults, hsummary, hnot, Bool.and_false,
        Bool.or_false]
  | reportComConnectionCount count =>
      have hnot : Word.bit commMask pos = false := by simpa [Reports] using hop
      unfold step reportComConnectionCount
      dsimp only
      split_ifs
      · refine ⟨h.power, ?_⟩
        have hsummary : Word.bit fm.summarySystemFaultsStatus.summaryFaults pos = false := h.summary
        change Word.bit ((fm.summarySystemFaultsStatus.summaryFaults &&&
          fm.summarySystemFaultsStatus.defaultFaultMask) ||| commMask) pos = false
        rw [Word.bit_or, Word.bit_and, hsummary, hnot, Bool.false_and, Bool.or_false]
      · have hcount : ({ fm with commConnectionFault := decide (count < 1) } : FaultMgr).Clear pos :=
          ⟨h.power, h.summary⟩
        exact clear_resetFaults hcount commMask
  | resetFaults mask => exact clear_resetFaults h mask
  | enableFaultsInMask mask => exact ⟨h.power, h.summary⟩

theorem clear_run (h : fm.Clear pos) {ops : List FaultMgrOp} (hops : ∀ op ∈ ops, ¬ Reports pos op) :
    (run step fm ops).Clear pos := by
  induction ops generalizing fm with
  | nil => exact h
  | cons op rest ih =>
      have hnext := clear_step h (hops op List.mem_cons_self)
      exact ih hnext fun other hother => hops other (List.mem_cons_of_mem _ hother)

end FaultMgr

/-! ## The simulator -/

namespace SimCore

/-- What a record of undisturbed hardware shows. -/
structure Sound (info : SysInfo) : Prop where
  voltage_nonneg : ∀ ty, 0 ≤ info.voltage ty
  voltage_le : ∀ ty, info.voltage ty ≤ voltageNominal ty
  current_nonneg : ∀ ty, 0 ≤ info.current ty
  current_le : ∀ ty, info.current ty ≤ 0.8 * currentMax ty
  inputs : ∀ pos ∈ normallyHigh, InputPortBits.getBitAtPos info.inputPort pos = true

/-- The action forces nothing and pulls no input low that should be high. -/
def LeavesAlone : SimAction → Prop
  | .forceOverVoltage _ overVoltage => overVoltage = false
  | .forceOverCurrent _ overCurrent => overCurrent = false
  | .beginWriteInputPortBit pos set => pos ∈ normallyHigh → set = true
  | _ => True

instance decidableLeavesAlone : ∀ a, Decidable (LeavesAlone a)
  | .forceOverVoltage _ overVoltage => inferInstanceAs (Decidable (overVoltage = false))
  | .forceOverCurrent _ overCurrent => inferInstanceAs (Decidable (overCurrent = false))
  | .beginWriteInputPortBit pos set =>
      inferInstanceAs (Decidable (pos ∈ normallyHigh → set = true))
  | .endWriteInputPortBit => inferInstanceAs (Decidable True)
  | .beginIteration _ => inferInstanceAs (Decidable True)
  | .perform => inferInstanceAs (Decidable True)
  | .writeBreakerBit => inferInstanceAs (Decidable True)
  | .setNewOutputPort _ => inferInstanceAs (Decidable True)
  | .writeNewOutputPortBit _ _ => inferInstanceAs (Decidable True)
  | .stop => inferInstanceAs (Decidable True)

theorem LeavesAlone.allowsVoltage {a : SimAction} (h : LeavesAlone a) (ty : PowerSystemType) :
    AllowsVoltage ty a := by
  cases a with
  | forceOverVoltage ty' overVoltage => exact fun _ => h
  | _ => trivial

/-- The inputs that should be high are so, and no write that is under way changes that. -/
structure HighInputs (s : SimCore) : Prop where
  ports : ∀ port ∈ s.ports, ∀ pos ∈ normallyHigh, InputPortBits.getBitAtPos port pos = true
  breakerWrites : ∀ write ∈ s.breakerWrites, write.1 ∉ normallyHigh
  portWrite : ∀ write ∈ s.portWrite, write.pos ∈ normallyHigh → write.set = true

/-- What holds of hardware that is left alone. -/
structure Regular (s : SimCore) : Prop where
  bounded : ∀ ty, s.Bounded ty
  overCurrent : ∀ ty, (s.sub ty).overCurrent = false
  current_nonneg : ∀ ty, 0 ≤ (s.sub ty).current
  current_le : ∀ ty, (s.sub ty).current ≤ 0.8 * currentMax ty
  inputs : s.HighInputs
  published : 0 < s.iterations ∨ s.todo = [.advance] → Sound s.simInfo.toSysInfo

theorem highInputs_new (unset : SimInfo) (startTime : Time) :
    (new unset startTime).HighInputs where
  ports := by
    have hhigh : ∀ pos ∈ normallyHigh, InputPortBits.getBitAtPos newInputPort pos = true := by
      decide
    intro port hmem
    obtain rfl := List.mem_singleton.mp hmem
    exact hhigh
  breakerWrites := by simp [new]
  portWrite := by simp [new]

theorem regular_new (unset : SimInfo) (startTime : Time) : (new unset startTime).Regular where
  bounded _ := bounded_new unset startTime
  overCurrent _ := rfl
  current_nonneg _ := le_rfl
  current_le ty := mul_nonneg (by norm_num) (currentMax_pos ty).le
  inputs := highInputs_new unset startTime
  published h := by
    obtain hpos | hlast := h
    · exact absurd hpos (lt_irrefl 0)
    · exact absurd hlast (List.cons_ne_nil _ _).symm

variable {s : SimCore} {ty : PowerSystemType}

/-- The current of an unforced subsystem is at most four fifths of the limit. -/
theorem calcCurrent_bounds {sub : SimPowerSubsystem} (hforced : sub.overCurrent = false)
    {voltage : ℚ} (hnonneg : 0 ≤ voltage) (hle : voltage ≤ voltageNominal ty) :
    0 ≤ sub.calcCurrent ty voltage ∧ sub.calcCurrent ty voltage ≤ 0.8 * currentMax ty := by
  have hgain := (currentGain_pos ty).le
  have hmax := currentMax_pos ty
  have hcurrent : 0 ≤ voltage * currentGain ty := mul_nonneg hnonneg hgain
  have hlimit : voltage * currentGain ty ≤ 0.78 * currentMax ty :=
    (mul_le_mul_of_nonneg_right hle hgain).trans (voltageNominal_mul_currentGain_le ty)
  have herror := (within_round64 (voltage * currentGain ty)).abs_sub_le (e := 0.01) hcurrent
    (by norm_num [unitRoundoff])
  have hround := (abs_le.mp herror).2
  simp only [calcCurrent, hforced, Bool.false_eq_true, if_false]
  split_ifs
  · exact ⟨round64_nonneg hcurrent, by linarith⟩
  · exact ⟨le_rfl, by linarith⟩

/-- What an action does to the current and its switch. -/
theorem current_step (hs : s.Regular) {a : SimAction} (hforward : s.Forward a)
    (ha : LeavesAlone a) (ty : PowerSystemType) :
    ((s.step a).sub ty).overCurrent = false ∧ 0 ≤ ((s.step a).sub ty).current ∧
      ((s.step a).sub ty).current ≤ 0.8 * currentMax ty := by
  have hbounded := bounded_step (hs.bounded ty) hforward (ha.allowsVoltage ty)
  have hforced := hs.overCurrent ty
  have hcurrent := And.intro (hs.current_nonneg ty) (hs.current_le ty)
  have hmove := subMove_step ty s a
  revert hmove
  generalize hsub : (s.step a).sub ty = sub
  intro hmove
  cases hmove with
  | keep a hvoltage hbreakers => exact ⟨hforced, hcurrent⟩
  | calcBreakers todo hnone htodo =>
      rw [calcBreakers_eq _ _ _ _ rfl]
      exact ⟨hforced, hcurrent⟩
  | calcVoltageCurrent todo hnone htodo =>
      have hnonneg := hbounded.nonneg
      have hle := hbounded.le_nominal
      rw [hsub] at hnonneg hle
      exact ⟨hforced, calcCurrent_bounds hforced hnonneg hle⟩
  | overVoltage overVoltage => exact ⟨hforced, hcurrent⟩
  | overCurrent overCurrent => exact ⟨ha, hcurrent⟩

/-- No breaker input is one that should be high. -/
theorem not_mem_normallyHigh {pos : ℕ} (hpos : pos ∈ breakerBitPositions ty) :
    pos ∉ normallyHigh := by
  have hall : ∀ pos ∈ breakerBitPositions ty, pos ∉ normallyHigh := by
    cases ty <;> decide
  exact hall pos hpos

/-- A write leaves the inputs high that should be high. -/
theorem writeBit_normallyHigh {port : InputPortBits}
    (hport : ∀ pos ∈ normallyHigh, InputPortBits.getBitAtPos port pos = true) {pos : ℕ}
    {set : Bool} (hset : pos ∈ normallyHigh → set = true) :
    ∀ other ∈ normallyHigh,
      InputPortBits.getBitAtPos (InputPortBits.writeBit port pos set) other = true := by
  intro other hother
  by_cases hsame : other = pos
  · subst hsame
    have hlt : other < 32 := by
      have hall : ∀ pos ∈ normallyHigh, pos < 32 := by decide
      exact hall other hother
    rw [InputPortBits.getBitAtPos_writeBit _ hlt, if_pos rfl, hset hother]
  · rw [InputPortBits.getBitAtPos_writeBit_of_ne _ hsame]
    exact hport other hother

/-- **An action leaves the inputs high** that should be high. -/
theorem highInputs_step (hs : s.HighInputs) {a : SimAction} (ha : LeavesAlone a) :
    (s.step a).HighInputs := by
  have hport : s.inputPort ∈ s.ports := List.mem_cons_self
  have hmove := portMove_step s a
  generalize s.step a = r at hmove
  cases hmove with
  | keep a r hports hwrites hwrite hnext =>
      refine ⟨?_, ?_, ?_⟩
      · rw [hports]
        exact hs.ports
      · rw [hwrites]
        exact hs.breakerWrites
      · rw [hwrite]
        exact hs.portWrite
  | calcBreakers ty todo hnone htodo =>
      refine ⟨hs.ports, fun write hmem => ?_, hs.portWrite⟩
      exact not_mem_normallyHigh (mem_calcBreakers hmem).1
  | load hnone =>
      refine ⟨fun port hmem => ?_, hs.breakerWrites, hs.portWrite⟩
      simp only [ports, Option.toList_some, List.mem_cons, List.cons_append, List.nil_append] at hmem
      obtain rfl | rfl | hmem := hmem
      · exact hs.ports _ hport
      · exact hs.ports _ hport
      · exact hs.ports _ (by simp [ports, hmem])
  | store inputPort pos set rest hloaded hwrites =>
      -- what was read comes back, with one breaker input changed
      have hread := hs.ports inputPort (by simp [ports, hloaded])
      have hpos : pos ∉ normallyHigh := hs.breakerWrites (pos, set) (by simp [hwrites])
      refine ⟨fun port hmem => ?_, fun write hmem => ?_, hs.portWrite⟩
      · simp only [ports, Option.toList_none, List.mem_cons, List.nil_append] at hmem
        obtain rfl | hmem := hmem
        · exact writeBit_normallyHigh hread fun h => absurd h hpos
        · exact hs.ports _ (by simp [ports, hmem])
      · exact hs.breakerWrites write (by rw [hwrites]; exact List.mem_cons_of_mem _ hmem)
  | beginWrite pos set hnone hpos =>
      refine ⟨fun port hmem => ?_, hs.breakerWrites, fun write hmem => ?_⟩
      · simp only [ports, Option.toList_some, List.map_cons, List.map_nil, List.mem_cons,
          List.mem_append, List.not_mem_nil, or_false] at hmem
        obtain rfl | hmem | rfl := hmem
        · exact hs.ports _ hport
        · exact hs.ports _ (by
            simp only [ports, List.mem_cons, List.mem_append, hmem, true_or, or_true])
        · exact hs.ports _ hport
      · obtain rfl := Option.mem_some_iff.mp hmem
        exact ha
  | endWrite write hwrite =>
      -- the same from another thread, which may set such an input
      have hread := hs.ports write.inputPort (by simp [ports, hwrite])
      refine ⟨fun port hmem => ?_, hs.breakerWrites, by simp⟩
      simp only [ports, Option.toList_none, List.map_nil, List.append_nil, List.mem_cons] at hmem
      obtain rfl | hmem := hmem
      · exact writeBit_normallyHigh hread (hs.portWrite write hwrite)
      · exact hs.ports _ (by
          simp only [ports, List.mem_cons, List.mem_append, hmem, true_or, or_true])

theorem Regular.sound_info (hs : s.Regular) : Sound s.info.toSysInfo where
  voltage_nonneg ty := by
    rw [voltage_info]
    exact (hs.bounded ty).nonneg
  voltage_le ty := by
    rw [voltage_info]
    exact (hs.bounded ty).le_nominal
  current_nonneg ty := by
    rw [current_info]
    exact hs.current_nonneg ty
  current_le ty := by
    rw [current_info]
    exact hs.current_le ty
  inputs := hs.inputs.ports s.inputPort List.mem_cons_self

/-- **Hardware that is left alone stays regular.** -/
theorem regular_step (hs : s.Regular) {a : SimAction} (hforward : s.Forward a)
    (ha : LeavesAlone a) : (s.step a).Regular where
  bounded ty := bounded_step (hs.bounded ty) hforward (ha.allowsVoltage ty)
  overCurrent ty := (current_step hs hforward ha ty).1
  current_nonneg ty := (current_step hs hforward ha ty).2.1
  current_le ty := (current_step hs hforward ha ty).2.2
  inputs := highInputs_step hs.inputs ha
  published h := by
    obtain hsame | ⟨-, hinfo⟩ := simInfo_step s a
    · obtain hbefore | hinfo := published_step (hs.bounded .motor).ordered a h
      · rw [hsame]
        exact hs.published hbefore
      · rw [hinfo]
        exact hs.sound_info
    · rw [hinfo]
      exact hs.sound_info

/-- The simulator after a run in which the clock does not go back and nobody disturbs the
hardware. -/
def Undisturbed (s : SimCore) : Prop :=
  ∃ unset startTime acts,
    Always step (fun s a => s.Forward a ∧ LeavesAlone a) (new unset startTime) acts ∧
    s = run step (new unset startTime) acts

theorem Undisturbed.regular (hs : s.Undisturbed) : s.Regular := by
  obtain ⟨unset, startTime, acts, hacts, rfl⟩ := hs
  exact hacts.invariant Regular (fun _ _ hs ha => regular_step hs ha.1 ha.2)
    (regular_new unset startTime)

end SimCore

/-! ## The closed loop -/

namespace ClosedLoop

/-- The faults for excessive current and for the power supplies. -/
def hardwareFaults : List FaultBit :=
  [motorOverCurrent, commOverCurrent, powerHealthFault, powerSupplyLoadShareErr]

/-- The action is one of the program and leaves the hardware alone. -/
def Gentle : LoopAction → Prop
  | .sim a => InProgram (.sim a) ∧ SimCore.LeavesAlone a
  | a => InProgram a

instance decidableGentle : ∀ a, Decidable (Gentle a)
  | .sim a => inferInstanceAs (Decidable (InProgram (.sim a) ∧ SimCore.LeavesAlone a))
  | .beginPass => inferInstanceAs (Decidable (InProgram .beginPass))
  | .fpga written => inferInstanceAs (Decidable (InProgram (.fpga written)))
  | .daqInfoRead t clock => inferInstanceAs (Decidable (InProgram (.daqInfoRead t clock)))
  | .daqTimeoutCheck t clock => inferInstanceAs (Decidable (InProgram (.daqTimeoutCheck t clock)))
  | .processOld clock => inferInstanceAs (Decidable (InProgram (.processOld clock)))
  | .command op => inferInstanceAs (Decidable (InProgram (.command op)))
  | .finish => inferInstanceAs (Decidable (InProgram .finish))
  | .registerPowerSys r => inferInstanceAs (Decidable (InProgram (.registerPowerSys r)))

variable {s : ClosedLoop} {pos : FaultBit}

/-- On a sound record no hardware fault is settable. -/
theorem not_settable {info : SysInfo} (hinfo : SimCore.Sound info) (hpos : pos ∈ hardwareFaults)
    (ty : PowerSystemType) : ¬ Settable ty info pos := by
  have hlist : ∀ pos ∈ hardwareFaults, pos ∉ settableFaults ty := by
    cases ty <;> decide
  rintro (hmem | ⟨-, hcurrent⟩)
  · exact hlist pos hpos hmem
  · have hle := hinfo.current_le ty
    have hmax := currentMax_pos ty
    change (psCfg ty).maxCurrent < _ at hcurrent
    rw [currentMax] at hle hmax
    linarith

/-- On a sound record the supplies are healthy. -/
theorem healthFaults_of_sound {info : SysInfo} (hinfo : SimCore.Sound info) (system : System) :
    PowerSystem.healthFaults info system = 0 := by
  have hinputs := hinfo.inputs
  simp only [SimCore.normallyHigh, List.forall_mem_cons, List.not_mem_nil, false_implies,
    implies_true, and_true] at hinputs
  obtain ⟨hredundancy, hload, hdc1, hdc2, hcurrent1, hcurrent2⟩ := hinputs
  apply PowerSystem.healthFaults_of_ok
  · simp [PowerSystem.powerLoadOk, hredundancy, hload]
  · simp [PowerSystem.powerSupplyOk, hdc1, hdc2, hcurrent1, hcurrent2]

/-- The operation raises no hardware fault. -/
theorem not_reports_of_mem (hpos : pos ∈ hardwareFaults) (system : System) (op : Op)
    (hop : op.IsCommand ∨ (∃ diffInSeconds clock, op = .checkTimeout diffInSeconds clock) ∨
      ∃ info clock, SimCore.Sound info ∧ op = .processDaq info clock) :
    ∀ fop ∈ system.faultMgrOps op, ¬ FaultMgr.Reports pos fop := by
  have hmasks : ∀ pos ∈ hardwareFaults,
      Word.bit (setBitAt 0 powerSystemTimeout) pos = false ∧ Word.bit FaultMgr.commMask pos = false ∧
        Word.bit (FaultMgr.timeoutMask true) pos = false ∧
        Word.bit (FaultMgr.timeoutMask false) pos = false := by
    decide +kernel
  obtain ⟨htimeout, hcomm, herror, hwarn⟩ := hmasks pos hpos
  intro fop hfop
  obtain hcommand | ⟨diffInSeconds, clock, rfl⟩ | ⟨info, clock, hinfo, rfl⟩ := hop
  · cases op with
    | subsystemDaq ty info faultsSet clock => exact hcommand.elim
    | processDaq info clock => exact hcommand.elim
    | checkTimeout diffInSeconds clock => exact hcommand.elim
    | updatePowerFaults currentFaults subsystem clock => exact hcommand.elim
    | reportMotionEngineTimeout errorLvl =>
        obtain rfl := List.mem_singleton.mp hfop
        cases errorLvl with
        | true => simp [FaultMgr.Reports, herror]
        | false => simp [FaultMgr.Reports, hwarn]
    | reportComConnectionCount count clock =>
        obtain rfl := List.mem_singleton.mp hfop
        simp [FaultMgr.Reports, hcomm]
    | resetFaults mask =>
        obtain rfl := List.mem_singleton.mp hfop
        exact id
    | enableFaultsInMask mask =>
        obtain rfl := List.mem_singleton.mp hfop
        exact id
    | _ => exact absurd hfop List.not_mem_nil
  -- a timeout reports its own fault
  · simp only [System.faultMgrOps] at hfop
    split_ifs at hfop
    · obtain rfl := List.mem_singleton.mp hfop
      rw [FaultMgr.Reports, htimeout]
      exact Bool.false_ne_true
    · exact absurd hfop List.not_mem_nil
  -- a read reports what the two subsystems have set
  · have hnone := healthFaults_of_sound hinfo system
    have hzero : Word.bit (0 : FaultStatusBits) pos = false := Word.bit_zero pos
    have hsame : ¬ (0 : FaultStatusBits) ≠ 0#64 := by decide
    rw [System.faultMgrOps, hnone, if_neg hsame, List.nil_append] at hfop
    obtain rfl := List.mem_singleton.mp hfop
    intro hset
    obtain hhealth | ⟨ty, hsettable⟩ := PowerSystem.faultsSet_commDaq clock info system hset
    · rw [hnone, hzero] at hhealth
      exact absurd hhealth (by decide)
    · exact not_settable hinfo hpos ty hsettable

/-- None of the hardware faults is recorded. -/
def NoHardwareFault (system : System) : Prop :=
  ∀ pos ∈ hardwareFaults, system.faultMgr.Clear pos

/-- What holds in the loop while the hardware is left alone. -/
structure Quiet (s : ClosedLoop) : Prop where
  sim : s.sim.Regular
  published : 0 < s.sim.iterations
  sysInfo : SimCore.Sound s.sysInfo.toSysInfo
  system : NoHardwareFault s.system
  settled : NoHardwareFault s.settled

theorem noHardwareFault_step {system : System} (h : NoHardwareFault system) {op : Op}
    (hop : op.IsCommand ∨ (∃ diffInSeconds clock, op = .checkTimeout diffInSeconds clock) ∨
      ∃ info clock, SimCore.Sound info ∧ op = .processDaq info clock) :
    NoHardwareFault (system.step op) := by
  intro pos hpos
  rw [System.faultMgr_step]
  exact FaultMgr.clear_run (h pos hpos) (not_reports_of_mem hpos system op hop)

theorem noHardwareFault_checkTimeout (hs : s.Quiet) (diffInSeconds : ℚ) (clock : Clocks) :
    NoHardwareFault (s.checkTimeout diffInSeconds clock) := by
  have hchecked : NoHardwareFault (s.system.step (.checkTimeout diffInSeconds clock)) :=
    noHardwareFault_step hs.system (Or.inr (Or.inl ⟨diffInSeconds, clock, rfl⟩))
  exact hchecked

/-- The record that is processed is sound, whatever the system is. -/
theorem Quiet.processDaq (hs : s.Quiet) {system : System} (hsystem : NoHardwareFault system)
    (clock : Clocks) :
    NoHardwareFault (PowerSystem.processDaq clock s.sysInfo.toSysInfo system) := by
  have hread : NoHardwareFault (system.step (.processDaq s.sysInfo.toSysInfo clock)) :=
    noHardwareFault_step hsystem (Or.inr (Or.inr ⟨_, clock, hs.sysInfo, rfl⟩))
  exact hread

/-- What the operation under way leaves. -/
theorem noHardwareFault_settled (hs : s.Quiet) {a : LoopAction} (ha : InProgram a) :
    NoHardwareFault (s.step a).settled := by
  have hmove := systemMove_step s a
  generalize (s.step a).settled = r at hmove
  cases hmove with
  | keep a => exact hs.settled
  | powerOff written next pass pos hpass hnext => exact hs.settled
  | daqInfoRead daqReadTime clock hnone =>
      exact hs.processDaq (noHardwareFault_checkTimeout hs _ clock) clock
  | daqTimeoutCheck now clock hnone hlate => exact noHardwareFault_checkTimeout hs _ clock
  | processOld clock hnone htimedOut => exact hs.processDaq hs.system clock
  | command op hnone => exact noHardwareFault_step hs.system (Or.inl ha)

/-- **One action of the loop.** -/
theorem quiet_step (hs : s.Quiet) {a : LoopAction} (hforward : s.Forward a) (ha : Gentle a) :
    (s.step a).Quiet := by
  have hprogram : InProgram a := by
    cases a with
    | sim a => exact ha.1
    | _ => exact ha
  have hsettled := noHardwareFault_settled hs hprogram
  have hsystem : NoHardwareFault (s.step a).system := by
    obtain hsame | hdone | ⟨written, next, pass, pos, -, -, -, hwrite⟩ := system_step s a
    · rw [hsame]
      exact hs.system
    · rw [hdone]
      exact hs.settled
    · rw [hwrite]
      exact hs.system
  -- left are the simulator and the record that was read
  suffices hdata : (s.step a).sim.Regular ∧ 0 < (s.step a).sim.iterations ∧
      SimCore.Sound (s.step a).sysInfo.toSysInfo from
    ⟨hdata.1, hdata.2.1, hdata.2.2, hsystem, hsettled⟩
  have hmove := dataMove_step s a
  generalize (s.step a).sim = sim, (s.step a).sysInfo = sysInfo at hmove
  cases hmove with
  | keep a => exact ⟨hs.sim, hs.published, hs.sysInfo⟩
  | sim a =>
      have hcount := SimCore.iterations_le_step s.sim a
      exact ⟨SimCore.regular_step hs.sim hforward ha.2, hs.published.trans_le hcount, hs.sysInfo⟩
  | writeFpga written pass hpass =>
      have hregular := SimCore.regular_step (a := .setNewOutputPort (s.outputPortBetween written))
        hs.sim trivial trivial
      exact ⟨hregular, hs.published, hs.sysInfo⟩
  | readFpga written pass hpass =>
      exact ⟨hs.sim, hs.published, hs.sim.published (Or.inl hs.published)⟩

theorem noHardwareFault_new (port : OutputPortBits) : NoHardwareFault (System.new port) := by
  intro pos _
  have hmgr : (System.new port).faultMgr = FaultMgr.new := by simp [System.new, System.newUnset]
  rw [hmgr]
  exact FaultMgr.clear_new

theorem quiet_start {sim : SimCore} (hsim : sim.Regular) (hpublished : 0 < sim.iterations)
    (port : OutputPortBits) (daqReadTime : Time) :
    (start sim (System.new port) daqReadTime).Quiet where
  sim := hsim
  published := hpublished
  sysInfo := hsim.published (Or.inl hpublished)
  system := noHardwareFault_new port
  settled := noHardwareFault_new port

/-- **Undisturbed hardware never faults.**  Start when the simulator has finished its first
iteration and the `FpgaIo` has read the record.  Whatever the threads and the commands do then,
no record shows a voltage above the nominal one or a current above four fifths of the limit, and
no fault for excessive current or for the supplies is ever recorded. -/
theorem hardware_never_faults {sim : SimCore} (hsim : sim.Undisturbed)
    (hpublished : 0 < sim.iterations) (port : OutputPortBits) (daqReadTime : Time)
    {acts : List LoopAction}
    (hacts : Always step (fun s a => s.Forward a ∧ Gentle a)
      (start sim (System.new port) daqReadTime) acts)
    {r : ClosedLoop} (hr : r = run step (start sim (System.new port) daqReadTime) acts) :
    SimCore.Sound r.sysInfo.toSysInfo ∧
      ∀ pos ∈ hardwareFaults, r.system.faultMgr.Clear pos ∧ r.settled.faultMgr.Clear pos := by
  have hrun := hacts.invariant Quiet (fun _ _ hs ha => quiet_step hs ha.1 ha.2)
    (quiet_start hsim.regular hpublished port daqReadTime)
  rw [← hr] at hrun
  exact ⟨hrun.sysInfo, fun pos hpos => ⟨hrun.system pos hpos, hrun.settled pos hpos⟩⟩

theorem undisturbed_published : published.Undisturbed :=
  ⟨_, 0, SimCore.iteration 0.1, by decide +kernel, rfl⟩

/-- Comm power is turned on, the `FpgaIo` works during the command, and the data are old before
power is up. -/
def trial : List LoopAction :=
  [.command (.reportComConnectionCount 1 fun _ => ⟨0, 0⟩), .finish] ++ cycle 0.2 ++
    [.command (.powerComm true fun _ => ⟨0.2, 0.2⟩)] ++ exchange ++ [.finish] ++ cycle 0.3 ++
    cycle 0.5 ++
    [.daqTimeoutCheck 2.1 fun _ => ⟨2.1, 2.1⟩, .finish, .processOld fun _ => ⟨2.1, 2.1⟩, .finish]

theorem hardware_never_faults_trial :
    (run step (start published (System.new 4) 0.1) trial).system.faultMgr.Clear
      commOverCurrent := by
  have hacts : Always step (fun s a => s.Forward a ∧ Gentle a)
      (start published (System.new 4) 0.1) trial := by
    decide +kernel
  have hclear := (hardware_never_faults undisturbed_published (by decide +kernel) 4 0.1 hacts
    rfl).2
  exact (hclear commOverCurrent (by decide)).1

end ClosedLoop

end M2Cell
