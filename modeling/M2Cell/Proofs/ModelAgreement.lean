import M2Cell.Control.Interleaving
import M2Cell.Lib.Watch

/-!
# The Model and the power states

The `Model` moves between `STANDBY` and `IDLE` as the power comes and goes.  It
learns of changes only from the reports of the two `processDaq`.  With both
subsystems at any point of their `processDaq`, the Model and the saved pairs form
a `Watch`: the fault checks, the state machines and the power commands write, and
the reports and `goToSafeMode` bring the Model into agreement.

The comparison and the assignment of the saved pair do not hold the mutex under
which the states are written.  `agrees_of_quiet_run` states what must not happen
between them, and `not_agrees_of_quiet` is a run in which it does.

The general part is in `M2Cell.Lib.Watch`.  Here the two ways in which the Model is settled are
proved first (`agrees_reportPowerSystemStateChange`, `agrees_goToSafeMode`), then that the
operations under a mutex write the pair of their subsystem only (`Writes`).  `watchStep` goes
through the actions: an operation of a thread is `watchStep_write`, the comparison
`watchStep_compare`, the assignment `watchStep_savePrev`, a report settles.
-/

namespace M2Cell

/-- The Model state agrees with the pairs of target and actual state. -/
def StateEnum.Agrees : StateEnum → (PowerSystemType → PowerState × PowerState) → Prop
  | .startup, _ => True
  | .offline, pair => ∀ ty, (pair ty).1 = .off
  | .standby, pair => ¬ ∀ ty, pair ty = (.on, .on)
  | .idle, pair => ∀ ty, pair ty = (.on, .on)
  | .inMotion, pair => ∀ ty, pair ty = (.on, .on)
  | .pause, pair => ∀ ty, pair ty = (.on, .on)

instance : ∀ (state : StateEnum) (pair : PowerSystemType → PowerState × PowerState),
    Decidable (state.Agrees pair)
  | .startup, _ => inferInstanceAs (Decidable True)
  | .offline, pair => inferInstanceAs (Decidable (∀ ty, (pair ty).1 = .off))
  | .standby, pair => inferInstanceAs (Decidable (¬ ∀ ty, pair ty = (.on, .on)))
  | .idle, pair => inferInstanceAs (Decidable (∀ ty, pair ty = (.on, .on)))
  | .inMotion, pair => inferInstanceAs (Decidable (∀ ty, pair ty = (.on, .on)))
  | .pause, pair => inferInstanceAs (Decidable (∀ ty, pair ty = (.on, .on)))

namespace System

/-- `_targPowerState` and `_actualPowerState`. -/
def powerPair (s : System) (ty : PowerSystemType) : PowerState × PowerState :=
  ((s.sub ty).targPowerState, (s.sub ty).actualPowerState)

/-- `_targPowerStatePrev` and `_actualPowerStatePrev`. -/
def savedPair (s : System) (ty : PowerSystemType) : PowerState × PowerState :=
  ((s.sub ty).targPowerStatePrev, (s.sub ty).actualPowerStatePrev)

/-- The Model agrees with the power states. -/
def Agrees (s : System) : Prop := s.currentState.Agrees s.powerPair

instance (s : System) : Decidable s.Agrees :=
  inferInstanceAs (Decidable (s.currentState.Agrees s.powerPair))

variable (s : System) (ty : PowerSystemType) (clock : Clocks)

theorem stateChanged_iff : s.stateChanged ty = true ↔ s.savedPair ty ≠ s.powerPair ty := by
  simp only [stateChanged, powerPair, savedPair, Bool.or_eq_true, bne_iff_ne, ne_eq, Prod.mk.injEq,
    not_and_or]

theorem allOn_iff_powerPair : s.AllOn ↔ ∀ ty, s.powerPair ty = (.on, .on) := by
  simp only [AllOn, powerPair, Prod.mk.injEq]

/-! ## The Model after a report and after `goToSafeMode` -/

theorem agrees_of_targetsOff (hoff : s.TargetsOff)
    (hstate : s.currentState = .startup ∨ s.currentState.isASafeState = true) : s.Agrees := by
  unfold Agrees
  cases hcurrent : s.currentState with
  | startup => trivial
  | offline => exact hoff
  | standby =>
      intro hon
      have htarg := congrArg Prod.fst (hon .comm)
      rw [powerPair, hoff .comm] at htarg
      cases htarg
  | idle | inMotion | pause => simp [hcurrent, StateEnum.isASafeState] at hstate

/-- **A report** makes the Model agree with the power states. -/
theorem agrees_reportPowerSystemStateChange : (s.reportPowerSystemStateChange clock).Agrees := by
  rw [reportPowerSystemStateChange_eq]
  split_ifs with hoff
  · have hstate : (s.turnOffAll clock).currentState = s.currentState := by simp [turnOffAll]
    refine agrees_of_targetsOff _ (targetsOff_turnOffAll clock s) ?_
    rw [hstate]
    rcases hoff.1 with hstartup | hoffline
    · exact Or.inl hstartup
    · exact Or.inr (by rw [hoffline]; rfl)
  -- the state that is reported is read off the pairs, which stay
  · have hpair : ({ s with currentState := s.reportedState } : System).powerPair = s.powerPair := by
      funext ty
      cases ty <;> rfl
    unfold Agrees
    rw [hpair]
    change s.reportedState.Agrees s.powerPair
    unfold reportedState
    cases hcurrent : s.currentState with
    | startup => trivial
    | offline =>
        have htargets : s.TargetsOff := by
          by_contra htargets
          exact hoff ⟨Or.inr hcurrent, htargets⟩
        exact htargets
    | standby | idle | inMotion | pause =>
        by_cases hon : s.AllOn
        · simpa [hon, StateEnum.Agrees] using s.allOn_iff_powerPair.mp hon
        · simpa [hon, StateEnum.Agrees] using mt s.allOn_iff_powerPair.mpr hon

@[simp] theorem currentState_enterState (newState : StateEnum) :
    (s.enterState clock newState).currentState = s.currentState := by
  cases newState <;> simp [enterState, turnOffAll]

/-- A safe state is always accepted, except during the startup. -/
theorem currentState_changeState_safe {newState : StateEnum} (hsafe : newState.isASafeState = true) :
    (s.changeState clock newState).1.currentState = .startup ∨
      (s.changeState clock newState).1.currentState = newState := by
  have haccept : s.currentState.acceptable newState = true := by
    simp [StateEnum.acceptable, hsafe]
  unfold changeState
  rw [if_pos haccept]
  split_ifs with hsame hstartup
  · exact Or.inr (by rw [currentState_enterState, hsame])
  · exact Or.inl hstartup.1
  · exact Or.inr (by rw [currentState_enterState])

/-- **`goToSafeMode`** makes the Model agree with the power states. -/
theorem agrees_goToSafeMode : (s.goToSafeMode clock).1.Agrees := by
  refine agrees_of_targetsOff _ (safe_goToSafeMode clock s).1 ?_
  have hsafe {newState : StateEnum} (h : newState.isASafeState = true) :=
    (currentState_changeState_safe (s.turnOffAll clock) clock h).imp_right
      fun hstate => (congrArg StateEnum.isASafeState hstate).trans h
  unfold goToSafeMode goToASafeState
  split_ifs <;> exact hsafe rfl

theorem agrees_goOffline : (s.changeState clock .offline).1.Agrees := by
  have hsafe : StateEnum.isASafeState .offline = true := rfl
  rcases currentState_changeState_safe s clock hsafe with hstate | hstate
  · unfold Agrees
    rw [hstate]
    trivial
  · refine agrees_of_targetsOff _ ?_ (Or.inr (by rw [hstate]; rfl))
    have haccept : s.currentState.acceptable .offline = true := rfl
    revert hstate
    unfold changeState
    rw [if_pos haccept]
    split_ifs with hsame hstartup
    · intro _
      exact targetsOff_turnOffAll clock s
    · intro hstate
      rw [hstartup.1] at hstate
      cases hstate
    · intro _
      exact targetsOff_turnOffAll clock _

/-! ## What the threads write -/

/-- An operation under the mutex of the subsystem `ty`: it writes no saved pair
and not the Model. -/
structure Writes (ty : PowerSystemType) (s r : System) : Prop where
  currentState : r.currentState = s.currentState
  other : r.sub ty.other = s.sub ty.other
  savedPair : r.savedPair ty = s.savedPair ty
  context : (r.sub ty).context = (s.sub ty).context

variable {s ty}

theorem writes_store {c : Call} (htarg : c.sub.targPowerStatePrev = (s.sub ty).targPowerStatePrev)
    (hactual : c.sub.actualPowerStatePrev = (s.sub ty).actualPowerStatePrev)
    (hcontext : c.sub.context = (s.sub ty).context) : Writes ty s (s.store ty c) where
  currentState := by simp
  other := by simp
  savedPair := by simp [System.savedPair, htarg, hactual]
  context := by simp [hcontext]

theorem writes_setPowerOff : Writes ty s (s.setPowerOff ty clock) :=
  writes_store (by simp) (by simp) (by simp)

theorem writes_setPowerOn : Writes ty s (s.setPowerOn ty clock).1 := by
  refine writes_store ?_ ?_ ?_ <;> unfold Call.setPowerOn <;> split_ifs <;> simp

theorem writes_processFaults (info : SysInfo) : Writes ty s (s.processFaults ty clock info) := by
  refine writes_store ?_ ?_ ?_ <;> unfold Call.processFaults <;> dsimp only <;> split_ifs <;> simp

theorem writes_processTarg (faultsSet : FaultStatusBits) :
    Writes ty s (s.processTarg ty clock faultsSet).1 :=
  have hfollows := follows_processTarg ty clock faultsSet s
  writes_store hfollows.targPrev hfollows.actualPrev hfollows.context

theorem Writes.sub_context {r : System} (h : Writes ty s r) (ty' : PowerSystemType) :
    (r.sub ty').context = (s.sub ty').context := by
  rcases ty.eq_or_eq_other ty' with rfl | rfl
  · exact h.context
  · rw [h.other]

end System

/-! ## The threads as a watch -/

/-- The point of a `processDaq`, as far as the comparison is concerned. -/
def DaqPoint.watch : DaqPoint → WatchPoint
  | .changed => .changed
  | .unchanged => .unchanged
  | .reported => .reported
  | _ => .idle

/-- The `processDaq` has compared the pair and not yet assigned it. -/
def DaqPoint.Comparing (point : DaqPoint) : Prop := point.watch ≠ .idle

instance (point : DaqPoint) : Decidable point.Comparing :=
  inferInstanceAs (Decidable (_ ≠ _))

/-- The subsystem whose states the action writes under the mutex. -/
def Action.writes : Action → Option PowerSystemType
  | .setPowerOn ty _ => some ty
  | .setPowerOff ty _ => some ty
  | .checkFaults ty _ _ => some ty
  | .processTarg ty _ _ => some ty
  | _ => none

namespace Threads

/-- The Model, the pairs of states and their saved copies. -/
def watch (t : Threads) : Watch StateEnum PowerSystemType (PowerState × PowerState) where
  model := t.system.currentState
  value := t.system.powerPair
  saved := t.system.savedPair
  point ty := (t.point ty).watch

/-- The action does not change the pair of its subsystem, or the change is still to
be reported, or it comes outside the comparison and does not restore the saved pair. -/
def KeepsTrack (t : Threads) (a : Action) : Prop :=
  match a.writes with
  | none => True
  | some ty =>
      (t.step a).system.powerPair ty = t.system.powerPair ty ∨ t.point ty = .changed ∨
        ¬ (t.point ty).Comparing ∧ (t.step a).system.powerPair ty ≠ t.system.savedPair ty

instance (t : Threads) (a : Action) : Decidable (t.KeepsTrack a) :=
  match h : a.writes with
  | none => isTrue (by simp [KeepsTrack, h])
  | some ty =>
      decidable_of_iff ((t.step a).system.powerPair ty = t.system.powerPair ty ∨
        t.point ty = .changed ∨ ¬ (t.point ty).Comparing ∧
          (t.step a).system.powerPair ty ≠ t.system.savedPair ty) (by simp [KeepsTrack, h])

variable {t t' : Threads} {ty : PowerSystemType}

/-- An operation of a thread under the mutex. -/
theorem watchStep_write (h : System.Writes ty t.system t'.system)
    (hpoint : ∀ ty, (t'.point ty).watch = (t.point ty).watch)
    (hkeeps : t'.system.powerPair ty = t.system.powerPair ty ∨ t.point ty = .changed ∨
      ¬ (t.point ty).Comparing ∧ t'.system.powerPair ty ≠ t.system.savedPair ty) :
    WatchStep StateEnum.Agrees t.watch t'.watch := by
  have hother {α : Type} (f : PowerSubsystem → α) (ty' : PowerSystemType) (hty : ty' ≠ ty) :
      f (t'.system.sub ty') = f (t.system.sub ty') := by
    rcases ty.eq_or_eq_other ty' with rfl | rfl
    · exact absurd rfl hty
    · rw [h.other]
  refine .write ty h.currentState ?_ ?_ (funext hpoint) ?_
  · intro ty' hty
    exact hother (fun sub => (sub.targPowerState, sub.actualPowerState)) ty' hty
  · funext ty'
    by_cases hty : ty' = ty
    · rw [hty]
      exact h.savedPair
    · exact hother (fun sub => (sub.targPowerStatePrev, sub.actualPowerStatePrev)) ty' hty
  · rcases hkeeps with hsame | hchanged | ⟨houtside, hdiffers⟩
    · exact Or.inl hsame
    · exact Or.inr (Or.inl (by simp [watch, hchanged, DaqPoint.watch]))
    · exact Or.inr (Or.inr ⟨not_not.mp houtside, hdiffers⟩)

theorem watch_point_move {next : DaqPoint} (f : System → System)
    (hwatch : next.watch = (t.point ty).watch) (ty' : PowerSystemType) :
    ((t.move ty next f).point ty').watch = (t.point ty').watch := by
  by_cases hty : ty' = ty
  · rw [hty, point_move, hwatch]
  · rw [point_move_of_ne _ _ _ _ hty]

/-- Without a mutex, the comparison reads both pairs. -/
theorem watchStep_compare (hpoint : t.point ty = .checked) :
    WatchStep StateEnum.Agrees t.watch
      (t.move ty (if t.system.stateChanged ty then .changed else .unchanged) id).watch := by
  refine .compare ty rfl rfl rfl ?_ ?_ ?_
  · intro ty' hty
    exact congrArg DaqPoint.watch (point_move_of_ne t ty _ _ hty)
  · simp [watch, hpoint, DaqPoint.watch]
  · simp only [watch, point_move]
    cases hchanged : t.system.stateChanged ty with
    | true => exact Or.inl rfl
    | false =>
        have hsame := mt (t.system.stateChanged_iff ty).mpr (by simp [hchanged])
        exact Or.inr ⟨rfl, (not_not.mp hsame).symm⟩

theorem watchStep_savePrev (hpoint : t.point ty = .unchanged ∨ t.point ty = .reported) :
    WatchStep StateEnum.Agrees t.watch (t.move ty .saved fun s => s.savePrev ty).watch := by
  have hsub (ty' : PowerSystemType) : (t.system.savePrev ty).powerPair ty' =
      t.system.powerPair ty' := by
    rcases ty.eq_or_eq_other ty' with rfl | rfl <;> simp [System.savePrev, System.powerPair]
  refine .save ty ?_ (funext hsub) ?_ ?_ ?_
  · simp [watch, System.savePrev]
  · intro ty' hty
    rcases ty.eq_or_eq_other ty' with rfl | rfl
    · exact absurd rfl hty
    · simp [watch, System.savePrev, System.savedPair]
  · intro ty' hty
    exact congrArg DaqPoint.watch (point_move_of_ne t ty _ _ hty)
  · rcases hpoint with hpoint | hpoint <;> simp [watch, hpoint, DaqPoint.watch]

/-- **Every action is a step of the watch.** -/
theorem watchStep (a : Action) (hcontext : ∀ ty, (t.system.sub ty).context = true)
    (hkeeps : t.KeepsTrack a) : WatchStep StateEnum.Agrees t.watch (t.step a).watch := by
  cases a with
  | setPowerOn ty clock =>
      exact watchStep_write (System.writes_setPowerOn clock) (fun _ => rfl) hkeeps
  | setPowerOff ty clock =>
      exact watchStep_write (System.writes_setPowerOff clock) (fun _ => rfl) hkeeps
  | goToSafeMode clock => exact .settle (t.system.agrees_goToSafeMode clock)
  | goOffline clock => exact .settle (t.system.agrees_goOffline clock)
  | faultMgr op =>
      refine .write .motor rfl (fun ty' _ => ?_) (funext fun ty' => ?_) rfl (Or.inl rfl) <;>
        cases ty' <;> rfl
  | checkFaults ty info clock =>
      by_cases hpoint : t.point ty = .idle
      · have hstep : t.step (.checkFaults ty info clock) =
            t.move ty .checked fun s => s.processFaults ty clock info := if_pos hpoint
        refine watchStep_write ?_ ?_ hkeeps
        · rw [hstep]
          exact System.writes_processFaults clock info
        · intro ty'
          rw [hstep]
          exact watch_point_move _ (by rw [hpoint]; rfl) ty'
      · rw [show t.step (.checkFaults ty info clock) = t from if_neg hpoint]
        exact .refl ty _
  | compare ty =>
      simp only [step]
      by_cases hpoint : t.point ty = .checked
      · rw [if_pos hpoint]
        exact watchStep_compare hpoint
      · rw [if_neg hpoint]
        exact .refl ty _
  | report ty clock =>
      simp only [step]
      split_ifs with hpoint
      · have hreport : t.system.reportStateChange ty clock =
            t.system.reportPowerSystemStateChange clock := if_pos (hcontext ty)
        refine .settle ?_
        change (t.system.reportStateChange ty clock).Agrees
        rw [hreport]
        exact t.system.agrees_reportPowerSystemStateChange clock
      · exact .refl ty _
  | savePrev ty =>
      simp only [step]
      split_ifs with hpoint
      · exact watchStep_savePrev hpoint
      · exact .refl ty _
  | processTarg ty faultsSet clock =>
      by_cases hpoint : t.point ty = .saved
      · have hstep : t.step (.processTarg ty faultsSet clock) =
            t.move ty .idle fun s => (s.processTarg ty clock faultsSet).1 := if_pos hpoint
        refine watchStep_write ?_ ?_ hkeeps
        · rw [hstep]
          exact System.writes_processTarg clock faultsSet
        · intro ty'
          rw [hstep]
          exact watch_point_move _ (by rw [hpoint]; rfl) ty'
      · rw [show t.step (.processTarg ty faultsSet clock) = t from if_neg hpoint]
        exact .refl ty _

/-- No action takes a context away. -/
theorem context_step (a : Action) (ty : PowerSystemType) :
    ((t.step a).system.sub ty).context = (t.system.sub ty).context := by
  cases a with
  | setPowerOn ty' clock => exact (System.writes_setPowerOn clock).sub_context ty
  | setPowerOff ty' clock => exact (System.writes_setPowerOff clock).sub_context ty
  | goToSafeMode clock => exact (System.offOrSame_goToSafeMode clock t.system).context ty
  | goOffline clock => exact (System.offOrSame_changeState clock t.system .offline).context ty
  | faultMgr op => cases ty <;> rfl
  | checkFaults ty' info clock =>
      simp only [step]
      split_ifs
      · exact (System.writes_processFaults clock info).sub_context ty
      · rfl
  | compare ty' =>
      simp only [step]
      split_ifs <;> rfl
  | report ty' clock =>
      simp only [step]
      split_ifs
      · exact (System.offOrSame_reportStateChange ty' clock t.system).context ty
      · rfl
  | savePrev ty' =>
      simp only [step]
      split_ifs
      · rcases ty'.eq_or_eq_other ty with rfl | rfl <;> simp [System.savePrev]
      · rfl
  | processTarg ty' faultsSet clock =>
      simp only [step]
      split_ifs
      · exact (System.writes_processTarg clock faultsSet).sub_context ty
      · rfl

/-! ## Runs -/

/-- After the startup: the subsystems know the Model, which is in the state `state`. -/
def start (port : OutputPortBits) (state : StateEnum) : Threads where
  system :=
    { ((System.new port).setContext .motor true).setContext .comm true with
      setupFinished := true
      currentState := state }
  point _ := .idle

/-- What every run that keeps track maintains: the subsystems know the Model, and
it agrees with the states or a report is to come. -/
structure Tracked (t : Threads) : Prop where
  context : ∀ ty, (t.system.sub ty).context = true
  settles : t.watch.Settles StateEnum.Agrees

theorem tracked_start (port : OutputPortBits) {state : StateEnum}
    (hstate : state = .startup ∨ state.isASafeState = true) : (start port state).Tracked where
  context := PowerSystemType.forall_iff.mpr ⟨rfl, rfl⟩
  settles :=
    have hoff : (start port state).system.TargetsOff := PowerSystemType.forall_iff.mpr ⟨rfl, rfl⟩
    Or.inl (System.agrees_of_targetsOff _ hoff hstate)

theorem tracked_step (a : Action) (ht : t.Tracked) (hkeeps : t.KeepsTrack a) :
    (t.step a).Tracked where
  context ty := (context_step a ty).trans (ht.context ty)
  settles := (watchStep a ht.context hkeeps).settles ht.settles

/-- No `processDaq` is between its comparison and its assignment, and both saved
pairs are up to date. -/
structure Quiet (t : Threads) : Prop where
  outside : ∀ ty, ¬ (t.point ty).Comparing
  saved : ∀ ty, t.system.savedPair ty = t.system.powerPair ty

instance (t : Threads) : Decidable t.Quiet :=
  decidable_of_iff ((∀ ty, ¬ (t.point ty).Comparing) ∧
      ∀ ty, t.system.savedPair ty = t.system.powerPair ty)
    ⟨fun ⟨houtside, hsaved⟩ => ⟨houtside, hsaved⟩, fun h => ⟨h.outside, h.saved⟩⟩

/-- **The Model does not miss a change.**  In a run whose actions all keep track
of the changes, the Model agrees with the power states whenever it is quiet. -/
theorem agrees_of_quiet_run (port : OutputPortBits) (state : StateEnum)
    (hstate : state = .startup ∨ state.isASafeState = true) (actions : List Action)
    (hkeeps : Always step KeepsTrack (start port state) actions)
    (hquiet : (run step (start port state) actions).Quiet) :
    (run step (start port state) actions).system.Agrees := by
  have htracked : (run step (start port state) actions).Tracked :=
    hkeeps.invariant Tracked (fun _ a => tracked_step a) (tracked_start port hstate)
  exact htracked.settles.agree_of_quiet (fun ty => not_not.mp (hquiet.outside ty)) hquiet.saved

/-- One `processDaq` of each subsystem, on telemetry with the given output bits and
voltage and without an interlock. -/
def daqCycle (port : OutputPortBits) (voltage : ℚ) (time : Time) : List Action :=
  let info : SysInfo :=
    ⟨port, ~~~(BitVec.twoPow 32 InputPortBits.interlockPowerRelay), voltage, 0, voltage, 0⟩
  daqActions .motor info 0 (fun _ => ⟨time, time⟩) ++ daqActions .comm info 0 (fun _ => ⟨time, time⟩)

/-- Both subsystems are turned on and the Model goes to `IDLE`. -/
def bringUp : List Action :=
  .faultMgr (.reportComConnectionCount 1) :: daqCycle 0x1C 0 0 ++
    [.setPowerOn .comm fun _ => ⟨1, 1⟩, .setPowerOn .motor fun _ => ⟨1, 1⟩] ++
    (List.replicate 9 (daqCycle 0x1F 24 1)).flatten ++ daqCycle 0x1F 24 2 ++ daqCycle 0x1F 24 3

set_option maxRecDepth 4000 in
/-- Without a command in between, the Model follows the power states. -/
theorem agrees_bringUp : (run step (start 4 .standby) bringUp).system.Agrees :=
  agrees_of_quiet_run 4 .standby (Or.inr rfl) bringUp (by decide +kernel) (by decide +kernel)

set_option maxRecDepth 4000 in
/-- Everything is on and the Model is in `IDLE`.  Comm is commanded off between the
comparison and the assignment of its `processDaq`, which then saves a change that
was not reported. -/
theorem not_agrees_of_quiet :
    ¬ ∀ (port : OutputPortBits) (state : StateEnum) (actions : List Action),
      state.isASafeState = true → (run step (start port state) actions).Quiet →
      (run step (start port state) actions).system.Agrees := by
  intro h
  have hagrees := h 4 .standby
    (bringUp ++ (daqCycle 0x1F 24 4).take 7 ++
      [.setPowerOff .comm fun _ => ⟨4, 4⟩, .savePrev .comm])
    rfl (by decide +kernel)
  exact absurd hagrees (by decide +kernel)

end Threads

end M2Cell
