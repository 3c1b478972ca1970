import M2Cell.Control.PowerOnSteps
import M2Cell.Control.PowerSystem
import M2Cell.Lib.Run

/-!
# Runs of one subsystem

A run of a `PowerSubsystem` is a list of `setPowerOn`, `setPowerOff` and
`processDaq` calls on either subsystem; between them other threads write the
`FaultMgr` and the state of the `Model` (`elsewhere`).

`powerStep_cases` says once what an event can do to the subsystem that one looks
at.  It keeps the subsystem and its breaker bit, it ends with the target not on,
it is a `setPowerOn` that was accepted, or it is a `processDaq` that reaches
`_processPowerOn`.  The last one is the call `daqCall`, and it happens exactly
when nothing holds the target back (`Unhindered`).
-/

namespace M2Cell

open PowerSubsystemConfig

/-- What happens to the subsystems. -/
inductive PowerEvent
  | setPowerOn (ty : PowerSystemType) (clock : Clocks)
  | setPowerOff (ty : PowerSystemType) (clock : Clocks)
  | processDaq (ty : PowerSystemType) (info : SysInfo) (faultsSet : FaultStatusBits)
      (clock : Clocks)
  /-- Other threads wrote what the subsystems only read. -/
  | elsewhere (faultMgr : FaultMgr) (currentState : StateEnum) (setupFinished : Bool)

namespace PowerEvent

/-- The event is a call on the subsystem. -/
def Concerns (ty : PowerSystemType) : PowerEvent → Prop
  | .setPowerOn ty' _ => ty' = ty
  | .setPowerOff ty' _ => ty' = ty
  | .processDaq ty' _ _ _ => ty' = ty
  | .elsewhere _ _ _ => False

instance decidableConcerns (ty : PowerSystemType) : ∀ e, Decidable (Concerns ty e)
  | .setPowerOn ty' _ => inferInstanceAs (Decidable (ty' = ty))
  | .setPowerOff ty' _ => inferInstanceAs (Decidable (ty' = ty))
  | .processDaq ty' _ _ _ => inferInstanceAs (Decidable (ty' = ty))
  | .elsewhere _ _ _ => inferInstanceAs (Decidable False)

/-- The time of a call, on the clock of the subsystem. -/
def time (ty : PowerSystemType) : PowerEvent → Time
  | .setPowerOn _ clock => (clock ty).stamp
  | .setPowerOff _ clock => (clock ty).stamp
  | .processDaq _ _ _ clock => (clock ty).now
  | .elsewhere _ _ _ => 0

end PowerEvent

namespace System

/-- One event. -/
def powerStep (s : System) : PowerEvent → System
  | .setPowerOn ty clock => (s.setPowerOn ty clock).1
  | .setPowerOff ty clock => s.setPowerOff ty clock
  | .processDaq ty info faultsSet clock => (s.processDaq ty clock info faultsSet).1
  | .elsewhere faultMgr currentState setupFinished =>
      { s with faultMgr := faultMgr, currentState := currentState, setupFinished := setupFinished }

/-- The output bit that resets the breakers of a subsystem; it is active low. -/
def breakerBit (ty : PowerSystemType) (s : System) : Bool :=
  OutputPortBits.getBitAtPos s.outputPort (psCfg ty).outputBreakerBitPos

variable (ty : PowerSystemType) (clock : Clocks) (info : SysInfo) (faultsSet : FaultStatusBits)
  (s : System)

/-- Nothing turns the target off before the state machine runs: no fault, and no
report to a Model that wants all power off. -/
def Unhindered : Prop :=
  s.checkForFaults ty = false ∧
    ¬ (s.stateChanged ty = true ∧ (s.sub ty).context = true ∧ s.PowerMustBeOff)

instance decidableUnhindered : Decidable (s.Unhindered ty) :=
  inferInstanceAs (Decidable (_ ∧ _))

/-- The call on which an unhindered state machine runs. -/
def daqCall : Call where
  sub :=
    { s.sub ty with
      sysInfo := info
      targPowerStatePrev := (s.sub ty).targPowerState
      actualPowerStatePrev := (s.sub ty).actualPowerState }
  outputPort := s.outputPort
  faultsSet := faultsSet

/-- What a `processDaq` leaves behind. -/
def daqResult : Call :=
  (s.processDaq ty clock info faultsSet).1.call ty (s.processDaq ty clock info faultsSet).2

/-! ## Before the state machine -/

/-- The report of a changed pair of states. -/
def reportChange : System := if s.stateChanged ty then s.reportStateChange ty clock else s

theorem prepareDaq_eq :
    s.prepareDaq ty clock info =
      ((s.processFaults ty clock info).reportChange ty clock).savePrev ty := rfl

theorem descends_reportChange : Descends s (s.reportChange ty clock) :=
  .ite (offOrSame_reportStateChange ty clock s).descends (.refl s)

/-- The report leaves a target that is on alone, unless the Model wants all power off. -/
theorem reportChange_spec (htarg : (s.sub ty).targPowerState = .on) :
    (s.stateChanged ty = true ∧ (s.sub ty).context = true ∧ s.PowerMustBeOff →
        ((s.reportChange ty clock).sub ty).targPowerState = .off) ∧
      (¬ (s.stateChanged ty = true ∧ (s.sub ty).context = true ∧ s.PowerMustBeOff) →
        (s.reportChange ty clock).sub ty = s.sub ty ∧
          (s.reportChange ty clock).outputPort = s.outputPort) := by
  have hon : ¬ s.TargetsOff := by
    intro hall
    simp [hall ty] at htarg
  have hreport := reportPowerSystemStateChange_eq clock s
  unfold reportChange reportStateChange
  constructor
  · rintro ⟨hchanged, hcontext, hmust⟩
    rw [if_pos hchanged, if_pos hcontext, hreport, if_pos ⟨hmust, hon⟩]
    exact targetsOff_turnOffAll clock s ty
  · intro hfree
    split_ifs with hchanged hcontext
    · have hmust : ¬ s.PowerMustBeOff := fun hmust => hfree ⟨hchanged, hcontext, hmust⟩
      rw [hreport, if_neg fun hboth => hmust hboth.1]
      exact ⟨by cases ty <;> rfl, rfl⟩
    · exact ⟨rfl, rfl⟩
    · exact ⟨rfl, rfl⟩

theorem processFaults_of_noFaults (hfaults : s.checkForFaults ty = false) :
    s.processFaults ty clock info =
      s.store ty { s.call ty 0 with sub := { s.sub ty with sysInfo := info } } := by
  simp [processFaults, Call.processFaults, hfaults]

/-- Nothing before the state machine moves an unhindered target that is on. -/
theorem prepareDaq_of_unhindered (htarg : (s.sub ty).targPowerState = .on)
    (h : s.Unhindered ty) :
    (s.prepareDaq ty clock info).call ty faultsSet = s.daqCall ty info faultsSet := by
  obtain ⟨hfaults, hreport⟩ := h
  have hstored := processFaults_of_noFaults ty clock info s hfaults
  have hspec := reportChange_spec ty clock (s.processFaults ty clock info)
  rw [hstored] at hspec
  rw [prepareDaq_eq, hstored]
  generalize reportChange ty clock _ = r at hspec ⊢
  obtain ⟨hsub, hport⟩ := (hspec (by simpa using htarg)).2
    (by simpa [stateChanged, PowerMustBeOff] using hreport)
  simp only [savePrev, call, sub_store, outputPort_store, hsub, hport, daqCall]

/-- **The state machine sees a target that is on** exactly when the target was on
and nothing hindered it. -/
theorem targ_prepareDaq_on_iff :
    ((s.prepareDaq ty clock info).sub ty).targPowerState = .on ↔
      (s.sub ty).targPowerState = .on ∧ s.Unhindered ty := by
  constructor
  · intro hon
    have hreported : (((s.processFaults ty clock info).reportChange ty clock).sub
        ty).targPowerState = .on := by
      simpa [prepareDaq_eq, savePrev] using hon
    have hstart := (descends_reportChange ty clock (s.processFaults ty clock info)).targ_on hreported
    have hfaults : s.checkForFaults ty = false := by
      by_contra hfaults
      have hoff := powerOff_processFaults ty clock info s (by simpa using hfaults)
      simp [hoff.1] at hstart
    have hblocked := mt (reportChange_spec ty clock _ hstart).1 (by simp [hreported])
    rw [processFaults_of_noFaults ty clock info s hfaults] at hstart hblocked
    refine ⟨by simpa using hstart, hfaults, ?_⟩
    simpa [stateChanged, PowerMustBeOff] using hblocked
  · rintro ⟨htarg, h⟩
    have hcall := prepareDaq_of_unhindered ty clock info 0 s htarg h
    have hsub : (s.prepareDaq ty clock info).sub ty = (s.daqCall ty info 0).sub :=
      congrArg Call.sub hcall
    rw [hsub]
    exact htarg

/-! ## `processDaq` -/

/-- **An unhindered `processDaq` with the target on** is `_processPowerOn`. -/
theorem processDaq_of_unhindered (htarg : (s.sub ty).targPowerState = .on)
    (h : s.Unhindered ty) :
    s.daqResult ty clock info faultsSet =
      (s.daqCall ty info faultsSet).processPowerOn ty (clock ty) := by
  have hswitch : (s.daqCall ty info faultsSet).processTarg ty (clock ty) =
      (s.daqCall ty info faultsSet).processPowerOn ty (clock ty) := by
    have hon : (s.daqCall ty info faultsSet).sub.targPowerState = .on := htarg
    simp only [Call.processTarg, hon]
  simp only [daqResult, processDaq, processTarg,
    prepareDaq_of_unhindered ty clock info faultsSet s htarg h, hswitch]
  simp [call]

/-- The target is not on, and the actual state is at most `OFF`. -/
def Down (r : System) : Prop :=
  (r.sub ty).targPowerState ≠ .on ∧
    ((r.sub ty).actualPowerState = .off ∨
      (r.sub ty).actualPowerState = (s.sub ty).actualPowerState)

/-- Nothing before the state machine moves the actual state. -/
theorem actualPowerState_prepareDaq :
    ((s.prepareDaq ty clock info).sub ty).actualPowerState = (s.sub ty).actualPowerState := by
  have hreport : OffOrSame (s.processFaults ty clock info)
      ((s.processFaults ty clock info).reportChange ty clock) :=
    .ite (offOrSame_reportStateChange ty clock _) (.refl _)
  have hfaults : ((s.processFaults ty clock info).sub ty).actualPowerState =
      (s.sub ty).actualPowerState := by
    simp only [processFaults, sub_store, Call.processFaults]
    split_ifs <;> simp
  rw [prepareDaq_eq]
  simp only [savePrev, sub_store]
  exact (hreport.actual ty).trans hfaults

/-- A `processDaq` that is hindered, or whose target is not on, ends with a target
that is not on. -/
theorem down_processDaq_of_not (h : ¬ ((s.sub ty).targPowerState = .on ∧ s.Unhindered ty)) :
    s.Down ty (s.processDaq ty clock info faultsSet).1 := by
  have hprepare := mt (targ_prepareDaq_on_iff ty clock info s).mp h
  have hmachine := descends_processTarg ty clock faultsSet (s.prepareDaq ty clock info)
  have hactual := Call.actualPowerState_processTarg_of_not_on ty
    ((s.prepareDaq ty clock info).call ty faultsSet) (clock ty) hprepare
  refine ⟨fun hon => hprepare (hmachine.targ_on hon), ?_⟩
  simp only [processDaq, processTarg, sub_store]
  rw [sub_call, actualPowerState_prepareDaq] at hactual
  exact hactual

/-! ## Every event -/

/-- The subsystem and its breaker bit are as they were. -/
def Kept (r : System) : Prop := r.sub ty = s.sub ty ∧ r.breakerBit ty = s.breakerBit ty

variable {ty s} in
theorem Kept.trans {t r : System} (h : s.Kept ty t) (h' : t.Kept ty r) : s.Kept ty r :=
  ⟨h'.1.trans h.1, h'.2.trans h.2⟩

variable {ty s} in
/-- An operation on the other subsystem. -/
theorem Confined.kept {r : System} (h : Confined ty.other s r) : s.Kept ty r := by
  have hbit := (bits_eq_of_port h.port).2
  have hother := h.other
  cases ty <;> exact ⟨hother, hbit⟩

/-- A `processDaq` of the other subsystem leaves this one alone or turns it off. -/
theorem processDaq_other :
    s.Kept ty (s.processDaq ty.other clock info faultsSet).1 ∨
      s.Down ty (s.processDaq ty.other clock info faultsSet).1 := by
  have hfaults := (confined_processFaults ty.other clock info s).kept
  have hreport : OffOrSame (s.processFaults ty.other clock info)
      ((s.processFaults ty.other clock info).reportChange ty.other clock) :=
    .ite (offOrSame_reportStateChange ty.other clock _) (.refl _)
  have hsave := confined_savePrev ty.other
    ((s.processFaults ty.other clock info).reportChange ty.other clock)
  have hmachine := confined_processTarg ty.other clock faultsSet (s.prepareDaq ty.other clock info)
  rcases hreport.power with ⟨hsub, hport⟩ | ⟨hoff, -⟩
  · have hkept : (s.processFaults ty.other clock info).Kept ty
        ((s.processFaults ty.other clock info).reportChange ty.other clock) :=
      ⟨hsub ty, by simp only [breakerBit, hport]⟩
    exact Or.inl (((hfaults.trans hkept).trans hsave.kept).trans hmachine.kept)
  · have hrest := hsave.kept.trans hmachine.kept
    right
    rw [Down, processDaq, hrest.1, hoff ty, hreport.actual ty, hfaults.1]
    exact ⟨by decide, Or.inr rfl⟩

/-- The subsystem after a `setPowerOn` that was accepted: phase 1 begins, and the
count of telemetry reads starts again. -/
structure TurnedOn (stamp : Time) (r : System) : Prop where
  sub : r.sub ty =
    { s.sub ty with
      targPowerState := .on, phase := 1, phaseStartTime := stamp, telemCounter := 0 }
  breakerBit : r.breakerBit ty = true

theorem turnedOn_setPowerOn (h : (s.setPowerOn ty clock).2 = true) :
    s.TurnedOn ty (clock ty).stamp (s.setPowerOn ty clock).1 := by
  unfold setPowerOn Call.setPowerOn at h ⊢
  dsimp only at h ⊢
  split_ifs at h ⊢
  exact ⟨by simp, by simp [breakerBit, Call.writeOutputPortBitPos, (outputBits_disjoint ty).1.symm]⟩

/-- The event is a `setPowerOn` of the subsystem that is accepted. -/
def AcceptsPowerOn : PowerEvent → Prop
  | .setPowerOn ty' clock => ty' = ty ∧ (s.setPowerOn ty clock).2 = true
  | _ => False

/-- The event is a `processDaq` of the subsystem that reaches `_processPowerOn`. -/
def RunsPowerOn : PowerEvent → Prop
  | .processDaq ty' _ _ _ => ty' = ty ∧ (s.sub ty).targPowerState = .on ∧ s.Unhindered ty
  | _ => False

instance decidableAcceptsPowerOn : ∀ e, Decidable (s.AcceptsPowerOn ty e)
  | .setPowerOn _ _ => inferInstanceAs (Decidable (_ ∧ _))
  | .setPowerOff _ _ => inferInstanceAs (Decidable False)
  | .processDaq _ _ _ _ => inferInstanceAs (Decidable False)
  | .elsewhere _ _ _ => inferInstanceAs (Decidable False)

/-- **What an event does to a subsystem.**  A `setPowerOn` that is accepted and a
`processDaq` that runs `_processPowerOn` are the two events that change it and
may leave the target on. -/
theorem powerStep_cases (e : PowerEvent) :
    s.AcceptsPowerOn ty e ∨ s.RunsPowerOn ty e ∨ ¬ e.Concerns ty ∧ s.Kept ty (s.powerStep e) ∨
      s.Down ty (s.powerStep e) := by
  cases e with
  | setPowerOn ty' clock =>
      rcases ty.eq_or_eq_other ty' with rfl | rfl
      · cases haccepted : (s.setPowerOn ty' clock).2 with
        | true => exact Or.inl ⟨rfl, haccepted⟩
        | false =>
            refine Or.inr (Or.inr (Or.inr ⟨?_, Or.inr (by simp [powerStep])⟩))
            have hspec := setPowerOn_spec s ty' clock
            simp only [powerStep, hspec.2.1, haccepted]
            decide
      · have hkept := (confined_setPowerOn s ty.other clock).kept
        exact Or.inr (Or.inr (Or.inl ⟨ty.other_ne, hkept⟩))
  | setPowerOff ty' clock =>
      rcases ty.eq_or_eq_other ty' with rfl | rfl
      · exact Or.inr (Or.inr (Or.inr ⟨by simp [powerStep], Or.inr (by simp [powerStep])⟩))
      · have hkept := (confined_setPowerOff s ty.other clock).kept
        exact Or.inr (Or.inr (Or.inl ⟨ty.other_ne, hkept⟩))
  | processDaq ty' info faultsSet clock =>
      rcases ty.eq_or_eq_other ty' with rfl | rfl
      · by_cases hruns : (s.sub ty').targPowerState = .on ∧ s.Unhindered ty'
        · exact Or.inr (Or.inl ⟨rfl, hruns⟩)
        · exact Or.inr (Or.inr (Or.inr (down_processDaq_of_not ty' clock info faultsSet s hruns)))
      · rcases processDaq_other ty clock info faultsSet s with hkept | hdown
        · exact Or.inr (Or.inr (Or.inl ⟨ty.other_ne, hkept⟩))
        · exact Or.inr (Or.inr (Or.inr hdown))
  | elsewhere faultMgr currentState setupFinished =>
      refine Or.inr (Or.inr (Or.inl ⟨id, ?_⟩))
      cases ty <;> exact ⟨rfl, rfl⟩

/-- Every event keeps the output bits coupled. -/
theorem coupled_powerStep (e : PowerEvent) (hs : s.Coupled) : (s.powerStep e).Coupled := by
  cases e with
  | setPowerOn ty clock =>
      exact (confined_setPowerOn s ty clock).coupled hs (setPowerOn_spec s ty clock).2.2
  | setPowerOff ty clock => exact (descends_setPowerOff s ty clock).coupled hs
  | processDaq ty info faultsSet clock =>
      exact (descends_processDaq ty clock info faultsSet s).coupled hs
  | elsewhere faultMgr currentState setupFinished =>
      intro ty
      have hty := hs ty
      cases ty <;> exact hty

end System

end M2Cell
