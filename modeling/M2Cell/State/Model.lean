import M2Cell.State.System

/-!
# The Model

The `Model` reacts to the power code in two ways.  `goToSafeMode` turns all
power off and goes to `STANDBY`, or stays in `OFFLINE`.
`reportPowerSystemStateChange` moves between `STANDBY` and `IDLE` as the power
comes and goes, and turns all power off in `STARTUP` and `OFFLINE`.

State changes go through `StateMap::_changeState`.  Entering `STARTUP` or
`OFFLINE` turns all power off (`State::enterState`); the other states override
it and only log.

Whatever the `Model` does, it leaves the power alone or turns both subsystems off, and this is
the lemma about each of its functions (`OffOrSame`, closed under composition by
`OffOrSame.trans` and `OffOrSame.ite`).  From it follows that no target is turned on and that
the bits follow (`OffOrSame.descends`).  A report is a case distinction on the state before it
(`reportPowerSystemStateChange_eq`): in a state in which all power must be off it turns off what
is not, and otherwise it only moves the `Model` (`reportedState`).
-/

namespace M2Cell

namespace StateEnum

/-- `StateMap::isASafeState`. -/
def isASafeState : StateEnum → Bool
  | standby => true
  | offline => true
  | _ => false

/-- The transitions that `StateMap::_changeState` accepts, between different states. -/
def acceptable (currentState newState : StateEnum) : Bool :=
  if newState.isASafeState then true
  else
    match currentState with
    | idle => newState == inMotion || newState == pause
    | inMotion => newState == inMotion || newState == pause || newState == idle
    | pause => newState == inMotion || newState == idle
    | standby => newState == idle
    | offline => newState == idle
    | startup => newState == idle

end StateEnum

namespace System

variable (clock : Clocks)

/-- `Model::_turnOffAll`. -/
def turnOffAll (s : System) : System :=
  (s.setPowerOff .motor clock).setPowerOff .comm clock

/-- `State::enterState` of the state `newState`. -/
def enterState (newState : StateEnum) (s : System) : System :=
  match newState with
  | .startup => s.turnOffAll clock
  | .offline => s.turnOffAll clock
  | _ => s

/-- `StateMap::_changeState`. -/
def changeState (newState : StateEnum) (s : System) : System × Bool :=
  -- entering the same state runs its entry actions again
  if newState = s.currentState then (s.enterState clock newState, true)
  else if s.currentState = .startup ∧ !s.setupFinished then (s, false)
  else if s.currentState.acceptable newState then
    ({ s with currentState := newState }.enterState clock newState, true)
  else (s, false)

/-- `StateMap::goToASafeState`. -/
def goToASafeState (desiredState : StateEnum) (s : System) : System × Bool :=
  if s.currentState = .offline ∨ desiredState = .offline then
    ((s.changeState clock .offline).1, desiredState == .offline)
  else if desiredState.isASafeState then ((s.changeState clock desiredState).1, true)
  else ((s.changeState clock .standby).1, false)

/-- `Model::goToSafeMode`. -/
def goToSafeMode (s : System) : System × Bool :=
  (s.turnOffAll clock).goToASafeState clock .standby

/-- Both targets and both actual states are `ON`. -/
def AllOn (s : System) : Prop :=
  ∀ ty, (s.sub ty).targPowerState = .on ∧ (s.sub ty).actualPowerState = .on

instance (s : System) : Decidable s.AllOn :=
  inferInstanceAs (Decidable (∀ _, _))

/-- Both targets are `OFF`. -/
def TargetsOff (s : System) : Prop := ∀ ty, (s.sub ty).targPowerState = .off

instance (s : System) : Decidable s.TargetsOff :=
  inferInstanceAs (Decidable (∀ _, _))

/-- `Model::reportPowerSystemStateChange`, without the message to the clients. -/
def reportPowerSystemStateChange (s : System) : System :=
  match s.currentState with
  | .startup => if ¬ s.TargetsOff then s.turnOffAll clock else s
  | .offline => if ¬ s.TargetsOff then s.turnOffAll clock else s
  | .idle => if ¬ s.AllOn then (s.changeState clock .standby).1 else s
  | .inMotion => if ¬ s.AllOn then (s.changeState clock .standby).1 else s
  | .pause => if ¬ s.AllOn then (s.changeState clock .standby).1 else s
  | .standby => if s.AllOn then (s.changeState clock .idle).1 else s

/-! ## Turning everything off -/

variable (s : System)

theorem targetsOff_turnOffAll : (s.turnOffAll clock).TargetsOff := by
  refine PowerSystemType.forall_iff.mpr ⟨?_, targPowerState_setPowerOff _ .comm clock⟩
  have hmotor := (descends_setPowerOff (s.setPowerOff .motor clock) .comm clock).targ_off
    (targPowerState_setPowerOff s .motor clock)
  exact hmotor

theorem coupled_turnOffAll : (s.turnOffAll clock).Coupled := by
  have hcomm := confined_setPowerOff (s.setPowerOff .motor clock) .comm clock
  intro ty
  cases ty with
  | motor => exact hcomm.coupled_other (coupled_setPowerOff s .motor clock)
  | comm => exact coupled_setPowerOff _ .comm clock

theorem descends_turnOffAll : Descends s (s.turnOffAll clock) :=
  (descends_setPowerOff s .motor clock).trans (descends_setPowerOff _ .comm clock)

/-- What a state change of the Model may do: it writes the Model state, and
leaves the subsystems and the port alone or turns both off. -/
structure OffOrSame (s r : System) : Prop where
  faultMgr : r.faultMgr = s.faultMgr
  setupFinished : r.setupFinished = s.setupFinished
  boostCurrentFaultEnabled : r.boostCurrentFaultEnabled = s.boostCurrentFaultEnabled
  actual : ∀ ty, (r.sub ty).actualPowerState = (s.sub ty).actualPowerState
  context : ∀ ty, (r.sub ty).context = (s.sub ty).context
  power : (∀ ty, r.sub ty = s.sub ty) ∧ r.outputPort = s.outputPort ∨ r.TargetsOff ∧ r.Coupled
  spare : ∀ pos, Spare pos →
    OutputPortBits.getBitAtPos r.outputPort pos = OutputPortBits.getBitAtPos s.outputPort pos

namespace OffOrSame

variable {s t r : System}

theorem refl (s : System) : OffOrSame s s :=
  ⟨rfl, rfl, rfl, fun _ => rfl, fun _ => rfl, Or.inl ⟨fun _ => rfl, rfl⟩, fun _ _ => rfl⟩

theorem of_currentState (s : System) (newState : StateEnum) :
    OffOrSame s { s with currentState := newState } :=
  ⟨rfl, rfl, rfl, fun ty => by cases ty <;> rfl, fun ty => by cases ty <;> rfl,
    Or.inl ⟨fun ty => by cases ty <;> rfl, rfl⟩, fun _ _ => rfl⟩

theorem descends (h : OffOrSame s r) : Descends s r where
  targ ty := by
    rcases h.power with ⟨hsub, -⟩ | ⟨hoff, -⟩
    · exact Or.inl (by rw [hsub ty])
    · exact Or.inr (hoff ty)
  spare := h.spare
  powerOff ty hs := by
    rcases h.power with ⟨hsub, hport⟩ | ⟨hoff, hr⟩
    · exact ⟨by rw [hsub ty, hs.1], by rw [hport, hs.2]⟩
    · exact ⟨hoff ty, (hr ty).power_off (hoff ty)⟩
  low ty hs := by
    rcases h.power with ⟨-, hport⟩ | ⟨hoff, hr⟩
    · rw [hport, hs]
    · exact (hr ty).power_off (hoff ty)
  actual ty hs := by rw [h.actual ty]; exact hs
  coupled hs := by
    rcases h.power with ⟨hsub, hport⟩ | ⟨-, hr⟩
    · intro ty
      rw [hsub ty, hport]
      exact hs ty
    · exact hr

theorem trans (h : OffOrSame s t) (h' : OffOrSame t r) : OffOrSame s r where
  faultMgr := h'.faultMgr.trans h.faultMgr
  setupFinished := h'.setupFinished.trans h.setupFinished
  boostCurrentFaultEnabled := h'.boostCurrentFaultEnabled.trans h.boostCurrentFaultEnabled
  actual ty := (h'.actual ty).trans (h.actual ty)
  context ty := (h'.context ty).trans (h.context ty)
  power := by
    rcases h.power with ⟨hsub, hport⟩ | ⟨hoff, hcoupled⟩
    · rcases h'.power with ⟨hsub', hport'⟩ | hoff'
      · exact Or.inl ⟨fun ty => (hsub' ty).trans (hsub ty), hport'.trans hport⟩
      · exact Or.inr hoff'
    · exact Or.inr ⟨fun ty => h'.descends.targ_off (hoff ty), h'.descends.coupled hcoupled⟩
  spare pos hpos := (h'.spare pos hpos).trans (h.spare pos hpos)

theorem ite {p : Prop} [Decidable p] (ht : OffOrSame s t) (hr : OffOrSame s r) :
    OffOrSame s (if p then t else r) := by
  split
  · exact ht
  · exact hr

end OffOrSame

theorem offOrSame_turnOffAll : OffOrSame s (s.turnOffAll clock) where
  faultMgr := by simp [turnOffAll]
  setupFinished := by simp [turnOffAll]
  boostCurrentFaultEnabled := by simp [turnOffAll, setPowerOff]
  actual ty := by simp [turnOffAll]
  context ty := by simp [turnOffAll]
  power := Or.inr ⟨targetsOff_turnOffAll clock s, coupled_turnOffAll clock s⟩
  spare := (descends_turnOffAll clock s).spare

theorem offOrSame_enterState (newState : StateEnum) :
    OffOrSame s (s.enterState clock newState) := by
  unfold enterState
  split
  · exact offOrSame_turnOffAll clock s
  · exact offOrSame_turnOffAll clock s
  · exact .refl s

theorem offOrSame_changeState (newState : StateEnum) :
    OffOrSame s (s.changeState clock newState).1 := by
  unfold changeState
  split_ifs
  · exact offOrSame_enterState clock s newState
  · exact .refl s
  · exact (OffOrSame.of_currentState s newState).trans (offOrSame_enterState clock _ newState)
  · exact .refl s

theorem offOrSame_goToASafeState (desiredState : StateEnum) :
    OffOrSame s (s.goToASafeState clock desiredState).1 := by
  unfold goToASafeState
  split_ifs <;> exact offOrSame_changeState clock s _

theorem offOrSame_goToSafeMode : OffOrSame s (s.goToSafeMode clock).1 :=
  (offOrSame_turnOffAll clock s).trans (offOrSame_goToASafeState clock _ _)

/-- **Safe mode**: both targets are off and the output bits agree. -/
theorem safe_goToSafeMode :
    (s.goToSafeMode clock).1.TargetsOff ∧ (s.goToSafeMode clock).1.Coupled := by
  have hstate := (offOrSame_goToASafeState clock (s.turnOffAll clock) .standby).descends
  exact ⟨fun ty => hstate.targ_off (targetsOff_turnOffAll clock s ty),
    hstate.coupled (coupled_turnOffAll clock s)⟩

/-! ## Reports -/

/-- The Model is in a state in which all power must be off. -/
def PowerMustBeOff (s : System) : Prop := s.currentState = .startup ∨ s.currentState = .offline

instance : Decidable s.PowerMustBeOff :=
  inferInstanceAs (Decidable (s.currentState = .startup ∨ s.currentState = .offline))

/-- The Model state after a report of the power states. -/
def reportedState (s : System) : StateEnum :=
  match s.currentState with
  | .standby => if s.AllOn then .idle else .standby
  | .idle => if s.AllOn then .idle else .standby
  | .inMotion => if s.AllOn then .inMotion else .standby
  | .pause => if s.AllOn then .pause else .standby
  | other => other

/-- **A report** turns all power off, or only moves the Model. -/
theorem reportPowerSystemStateChange_eq :
    s.reportPowerSystemStateChange clock =
      if s.PowerMustBeOff ∧ ¬ s.TargetsOff then s.turnOffAll clock
      else { s with currentState := s.reportedState } := by
  have hsame {state : StateEnum} (h : s.currentState = state) :
      { s with currentState := state } = s := by rw [← h]
  cases hstate : s.currentState with
  | startup =>
      by_cases hoff : s.TargetsOff <;>
        simp [reportPowerSystemStateChange, PowerMustBeOff, reportedState, hstate, hoff,
          hsame hstate]
  | offline =>
      by_cases hoff : s.TargetsOff <;>
        simp [reportPowerSystemStateChange, PowerMustBeOff, reportedState, hstate, hoff,
          hsame hstate]
  | standby | idle | inMotion | pause =>
      by_cases hon : s.AllOn <;>
        simp [reportPowerSystemStateChange, PowerMustBeOff, reportedState, hstate, hon,
          hsame hstate, changeState, enterState, StateEnum.acceptable, StateEnum.isASafeState]

theorem offOrSame_reportPowerSystemStateChange :
    OffOrSame s (s.reportPowerSystemStateChange clock) := by
  rw [reportPowerSystemStateChange_eq]
  exact .ite (offOrSame_turnOffAll clock s) (.of_currentState s _)

end System

end M2Cell
