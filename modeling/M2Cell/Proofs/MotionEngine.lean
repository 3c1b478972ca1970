import M2Cell.Control.MotionEngine

/-!
# The life of the motion engine

What is demanded of the calls and of the destructor (`Meets`), and that all of it holds
while the engine is started by the first of the calls.

`Phase` lists where the engine can be then: not started, started, an `engineJoin` waiting for
the one or for the other thread, or both joined.  The calls that leave the threads alone, and
the threads themselves, stay in the phase (`SamePhase`, `Sound.same`).  The first `engineStart`
leads from the first phase to the second, and what an `engineJoin` does to any of the phases is
said in one structure (`Joins`), which serves the call, its going on after a wait, and the join
in the destructor.  `Sound.step` puts these together, one case for each action.

The condition on the order of the calls is about the flags (`Orderly`).  The last section
follows the flags through a run: only the calls set them (`untouched_run`, `eStarted_run`), so
that they are in order when the first call is an `engineStart` (`always_orderly`).
-/

namespace M2Cell

namespace MotionEngine

variable {e : MotionEngine}

/-! ## What is demanded -/

/-- Exactly the threads that were started are joined. -/
def AllJoined (e : MotionEngine) : Prop :=
  ∀ thread ∈ [e.eThrd, e.timeoutThread], thread ≠ .none → thread = .joined

/-- An `engineJoin` does not throw, as `join` of a thread that was not started does, and
once no `engineJoin` waits all threads are joined. -/
structure JoinMeets (result : MotionEngine × EngineResult) : Prop where
  noThrow : ∀ ex, result.2 ≠ .threw ex
  joined : result.2 = .returned → result.1.joining = none → result.1.AllJoined

/-- An `engineStart` that throws leaves the started flag and the threads alone. -/
def StartMeets (e : MotionEngine) : Prop :=
  ∀ ex, e.engineStart.2 = .threw ex →
    e.engineStart.1.eStarted = e.eStarted ∧ e.engineStart.1.eThrd = e.eThrd ∧
      e.engineStart.1.timeoutThread = e.timeoutThread

/-- The program is not terminated, and no thread is joinable when the destructor is
through. -/
structure DestructorMeets (e : MotionEngine) : Prop where
  notTerminated : e.stage ≠ .terminated
  notJoinable : e.stage = .destroyed →
    e.eThrd.joinable = false ∧ e.timeoutThread.joinable = false

/-- **What is demanded of an action.** -/
def Meets (e : MotionEngine) (action : EngineAction) : Prop :=
  DestructorMeets (e.step action) ∧
    match action with
    | .call .engineStart => StartMeets e
    | .call .engineJoin => JoinMeets e.engineJoin
    | .destructor => JoinMeets e.engineStop.1.engineJoin
    | .resume => e.joining ≠ none → JoinMeets e.resume
    | _ => True

/-- The actions of a life with these calls, in any interleaving with the threads. -/
structure Execution (calls : List EngineCall) (actions : List EngineAction) : Prop where
  calls_eq : actions.filterMap EngineAction.call? = calls
  destructor : .destructor ∈ actions
  enabled : Always step Enabled new actions

/-- If the engine is started at all, then by the first of the calls. -/
def StartedFirst (calls : List EngineCall) : Prop :=
  .engineStart ∈ calls → calls.head? = some .engineStart

instance (calls : List EngineCall) : Decidable (StartedFirst calls) :=
  inferInstanceAs (Decidable (_ → _))

/-! ## Where the engine can be -/

/-- The threads are both not started, both not joined, being joined one after the other, or
both joined. -/
inductive Phase (e : MotionEngine) : Prop
  | unstarted (hstarted : e.eStarted = false) (heThrd : e.eThrd = .none)
      (htimeout : e.timeoutThread = .none) (hjoining : e.joining = none)
  | started (hstarted : e.eStarted = true) (hcalled : e.eJoinCalled = false)
      (heThrd : e.eThrd.joinable = true) (htimeout : e.timeoutThread.joinable = true)
      (hjoining : e.joining = none)
  | joiningEThrd (hstarted : e.eStarted = true) (hcalled : e.eJoinCalled = true)
      (heThrd : e.eThrd.joinable = true) (htimeout : e.timeoutThread.joinable = true)
      (hjoining : e.joining = some .eThrd)
  | joiningTimeoutThread (hstarted : e.eStarted = true) (hcalled : e.eJoinCalled = true)
      (heThrd : e.eThrd = .joined) (htimeout : e.timeoutThread.joinable = true)
      (hjoining : e.joining = some .timeoutThread)
  | joined (hstarted : e.eStarted = true) (hcalled : e.eJoinCalled = true)
      (heThrd : e.eThrd = .joined) (htimeout : e.timeoutThread = .joined)
      (hjoining : e.joining = none)

/-- What an action may change without leaving the phase. -/
structure SamePhase (e e' : MotionEngine) : Prop where
  eStarted : e'.eStarted = e.eStarted
  eJoinCalled : e'.eJoinCalled = e.eJoinCalled
  eThrd : e'.eThrd = e.eThrd ∨ e.eThrd = .running ∧ e'.eThrd = .ended
  timeoutThread :
    e'.timeoutThread = e.timeoutThread ∨ e.timeoutThread = .running ∧ e'.timeoutThread = .ended
  joining : e'.joining = e.joining

theorem running_or_ended {thread : StdThread} (h : thread.joinable = true) :
    thread = .running ∨ thread = .ended := by
  cases thread with
  | none => exact absurd h nofun
  | running => exact .inl rfl
  | ended => exact .inr rfl
  | joined => exact absurd h nofun

/-- A thread that ended is as joinable as before. -/
theorem joinable_of_ended {old new : StdThread}
    (h : new = old ∨ old = .running ∧ new = .ended) : new.joinable = old.joinable := by
  rcases h with rfl | ⟨rfl, rfl⟩
  · rfl
  · rfl

theorem eq_of_ended {old new thread : StdThread} (h : new = old ∨ old = .running ∧ new = .ended)
    (hold : old = thread) (hrunning : thread ≠ .running) : new = thread := by
  rcases h with rfl | ⟨hrun, -⟩
  · exact hold
  · exact absurd (hold.symm.trans hrun) hrunning

theorem Phase.same {e' : MotionEngine} (h : Phase e) (hsame : SamePhase e e') : Phase e' := by
  have heThrd := joinable_of_ended hsame.eThrd
  have htimeout := joinable_of_ended hsame.timeoutThread
  cases h with
  | unstarted h₁ h₂ h₃ h₄ =>
      exact .unstarted (hsame.eStarted.trans h₁) (eq_of_ended hsame.eThrd h₂ (by decide))
        (eq_of_ended hsame.timeoutThread h₃ (by decide)) (hsame.joining.trans h₄)
  | started h₁ h₂ h₃ h₄ h₅ =>
      exact .started (hsame.eStarted.trans h₁) (hsame.eJoinCalled.trans h₂) (heThrd.trans h₃)
        (htimeout.trans h₄) (hsame.joining.trans h₅)
  | joiningEThrd h₁ h₂ h₃ h₄ h₅ =>
      exact .joiningEThrd (hsame.eStarted.trans h₁) (hsame.eJoinCalled.trans h₂)
        (heThrd.trans h₃) (htimeout.trans h₄) (hsame.joining.trans h₅)
  | joiningTimeoutThread h₁ h₂ h₃ h₄ h₅ =>
      exact .joiningTimeoutThread (hsame.eStarted.trans h₁) (hsame.eJoinCalled.trans h₂)
        (eq_of_ended hsame.eThrd h₃ (by decide)) (htimeout.trans h₄) (hsame.joining.trans h₅)
  | joined h₁ h₂ h₃ h₄ h₅ =>
      exact .joined (hsame.eStarted.trans h₁) (hsame.eJoinCalled.trans h₂)
        (eq_of_ended hsame.eThrd h₃ (by decide))
        (eq_of_ended hsame.timeoutThread h₄ (by decide)) (hsame.joining.trans h₅)

/-- Where an `engineJoin` waits, there is a thread for it to join. -/
theorem Phase.of_joining (h : Phase e) (hjoining : e.joining ≠ none) :
    e.eStarted = true ∧ e.eJoinCalled = true ∧ e.timeoutThread.joinable = true ∧
      (e.joining = some .eThrd ∧ e.eThrd.joinable = true ∨
        e.joining = some .timeoutThread ∧ e.eThrd = .joined) := by
  cases h with
  | unstarted h₁ h₂ h₃ h₄ => exact absurd h₄ hjoining
  | started h₁ h₂ h₃ h₄ h₅ => exact absurd h₅ hjoining
  | joiningEThrd h₁ h₂ h₃ h₄ h₅ => exact ⟨h₁, h₂, h₄, .inl ⟨h₅, h₃⟩⟩
  | joiningTimeoutThread h₁ h₂ h₃ h₄ h₅ => exact ⟨h₁, h₂, h₄, .inr ⟨h₅, h₃⟩⟩
  | joined h₁ h₂ h₃ h₄ h₅ => exact absurd h₅ hjoining

/-- Nothing is joinable while no `engineJoin` waits and the last one is through. -/
theorem Phase.allJoined (h : Phase e) (hjoining : e.joining = none)
    (hcalled : e.eStarted = true → e.eJoinCalled = true) : e.AllJoined := by
  cases h with
  | unstarted h₁ h₂ h₃ h₄ => simp [AllJoined, h₂, h₃]
  | started h₁ h₂ h₃ h₄ h₅ => exact absurd (hcalled h₁) (by simp [h₂])
  | joiningEThrd h₁ h₂ h₃ h₄ h₅ => exact absurd (h₅.symm.trans hjoining) nofun
  | joiningTimeoutThread h₁ h₂ h₃ h₄ h₅ => exact absurd (h₅.symm.trans hjoining) nofun
  | joined h₁ h₂ h₃ h₄ h₅ => simp [AllJoined, h₃, h₄]

theorem AllJoined.not_joinable (h : e.AllJoined) :
    e.eThrd.joinable = false ∧ e.timeoutThread.joinable = false := by
  have hthread : ∀ thread : StdThread, (thread ≠ .none → thread = .joined) →
      thread.joinable = false := by
    intro thread hthread
    cases thread with
    | none => rfl
    | running => exact absurd (hthread nofun) nofun
    | ended => exact absurd (hthread nofun) nofun
    | joined => rfl
  exact ⟨hthread _ (h _ (by simp)), hthread _ (h _ (by simp))⟩

/-! ## Joining -/

theorem joinTimeoutThread_of_running (h : e.timeoutThread = .running) :
    e.joinTimeoutThread = ({ e with joining := some .timeoutThread }, .waits) := by
  simp only [joinTimeoutThread, h]

theorem joinTimeoutThread_of_ended (h : e.timeoutThread = .ended) :
    e.joinTimeoutThread =
      ({ e with timeoutThread := .joined, joining := none }, .returned) := by
  simp only [joinTimeoutThread, h]

theorem joinTimeoutThread_of_none (h : e.timeoutThread = .none) :
    e.joinTimeoutThread = ({ e with joining := none }, .returned) := by
  simp only [joinTimeoutThread, h]

theorem joinEThrd_of_running (h : e.eThrd = .running) :
    e.joinEThrd = ({ e with joining := some .eThrd }, .waits) := by
  simp only [joinEThrd, h]

theorem joinEThrd_of_ended (h : e.eThrd = .ended) :
    e.joinEThrd = joinTimeoutThread { e with eThrd := .joined } := by
  simp only [joinEThrd, h]

/-- What an `engineJoin` comes to that was not called in vain. -/
structure Joins (e : MotionEngine) (result : MotionEngine × EngineResult) : Prop where
  phase : Phase result.1
  stage : result.1.stage = e.stage
  outcome : result.2 = .returned ∧ result.1.joining = none ∧ result.1.AllJoined ∨
    result.2 = .waits ∧ result.1.joining ≠ none

theorem Joins.meets {result : MotionEngine × EngineResult} (h : Joins e result) :
    JoinMeets result := by
  rcases h.outcome with ⟨hreturned, -, hjoined⟩ | ⟨hwaits, -⟩
  · exact ⟨by simp [hreturned], fun _ _ => hjoined⟩
  · exact ⟨by simp [hwaits], by simp [hwaits]⟩

theorem joins_joinTimeoutThread (hstarted : e.eStarted = true) (hcalled : e.eJoinCalled = true)
    (heThrd : e.eThrd = .joined) (htimeout : e.timeoutThread.joinable = true) :
    Joins e e.joinTimeoutThread := by
  rcases running_or_ended htimeout with hrunning | hended
  · rw [joinTimeoutThread_of_running hrunning]
    have hphase : Phase { e with joining := some .timeoutThread } :=
      .joiningTimeoutThread hstarted hcalled heThrd htimeout rfl
    exact ⟨hphase, rfl, .inr ⟨rfl, nofun⟩⟩
  · rw [joinTimeoutThread_of_ended hended]
    have hphase : Phase { e with timeoutThread := .joined, joining := none } :=
      .joined hstarted hcalled heThrd rfl rfl
    exact ⟨hphase, rfl, .inl ⟨rfl, rfl, hphase.allJoined rfl fun _ => hcalled⟩⟩

theorem joins_joinEThrd (hstarted : e.eStarted = true) (hcalled : e.eJoinCalled = true)
    (heThrd : e.eThrd.joinable = true) (htimeout : e.timeoutThread.joinable = true) :
    Joins e e.joinEThrd := by
  rcases running_or_ended heThrd with hrunning | hended
  · rw [joinEThrd_of_running hrunning]
    have hphase : Phase { e with joining := some .eThrd } :=
      .joiningEThrd hstarted hcalled heThrd htimeout rfl
    exact ⟨hphase, rfl, .inr ⟨rfl, nofun⟩⟩
  · rw [joinEThrd_of_ended hended]
    have hjoins := joins_joinTimeoutThread (e := { e with eThrd := .joined }) hstarted hcalled
      rfl htimeout
    exact ⟨hjoins.phase, hjoins.stage, hjoins.outcome⟩

/-- Only an `engineJoin` while another one waits comes to nothing. -/
theorem Phase.joins_engineJoin (h : Phase e) (hjoining : e.joining = none) :
    Joins e e.engineJoin := by
  unfold engineJoin
  split_ifs with hcalled
  · exact ⟨h, rfl, .inl ⟨rfl, hjoining, h.allJoined hjoining fun _ => hcalled⟩⟩
  · dsimp only
    cases h with
    | unstarted h₁ h₂ h₃ h₄ =>
        have hnone : ({ e with eJoinCalled := true } : MotionEngine).timeoutThread = .none := h₃
        rw [if_neg (by simp [h₁]), joinTimeoutThread_of_none hnone]
        have hphase : Phase { e with eJoinCalled := true, joining := none } :=
          .unstarted h₁ h₂ h₃ rfl
        exact ⟨hphase, rfl, .inl ⟨rfl, rfl, hphase.allJoined rfl fun _ => rfl⟩⟩
    | started h₁ h₂ h₃ h₄ h₅ =>
        rw [if_pos h₁]
        have hjoins := joins_joinEThrd (e := { e with eJoinCalled := true }) h₁ rfl h₃ h₄
        exact ⟨hjoins.phase, hjoins.stage, hjoins.outcome⟩
    | joiningEThrd h₁ h₂ h₃ h₄ h₅ => exact absurd h₂ hcalled
    | joiningTimeoutThread h₁ h₂ h₃ h₄ h₅ => exact absurd h₂ hcalled
    | joined h₁ h₂ h₃ h₄ h₅ => exact absurd h₂ hcalled

/-- An `engineJoin` while another one waits. -/
theorem Phase.engineJoin_of_joining (h : Phase e) (hjoining : e.joining ≠ none) :
    e.engineJoin = (e, .returned) := by
  obtain ⟨-, hcalled, -⟩ := h.of_joining hjoining
  rw [engineJoin, if_pos hcalled]

/-- The `engineJoin` that waits, going on. -/
theorem Phase.joins_resume (h : Phase e) (hjoining : e.joining ≠ none) : Joins e e.resume := by
  obtain ⟨hstarted, hcalled, htimeout, ⟨hpoint, heThrd⟩ | ⟨hpoint, heThrd⟩⟩ :=
    h.of_joining hjoining
  · rw [resume, hpoint]
    exact joins_joinEThrd hstarted hcalled heThrd htimeout
  · rw [resume, hpoint]
    exact joins_joinTimeoutThread hstarted hcalled heThrd htimeout

/-! ## Steps -/

/-- The engine is in one of the phases, and the stage of its life agrees with it. -/
structure Sound (e : MotionEngine) : Prop where
  phase : Phase e
  notTerminated : e.stage ≠ .terminated
  destroying : e.stage = .destroying → e.joining ≠ none
  destroyed : e.stage = .destroyed → e.AllJoined

/-- `engineStart` is not called for the first time after one of the others. -/
def Orderly (e : MotionEngine) (action : EngineAction) : Prop :=
  action = .call .engineStart → e.eStarted = false →
    e.eStopCalled = false ∧ e.eJoinCalled = false

theorem sound_new : Sound new where
  phase := .unstarted rfl rfl rfl rfl
  notTerminated := nofun
  destroying := nofun
  destroyed := nofun

theorem Sound.destructorMeets (h : Sound e) : DestructorMeets e :=
  ⟨h.notTerminated, fun hdestroyed => (h.destroyed hdestroyed).not_joinable⟩

theorem AllJoined.same {e' : MotionEngine} (h : e.AllJoined) (hsame : SamePhase e e') :
    e'.AllJoined := by
  have hthread : ∀ old new : StdThread, (new = old ∨ old = .running ∧ new = .ended) →
      (old ≠ .none → old = .joined) → new ≠ .none → new = .joined := by
    rintro old new (rfl | ⟨rfl, rfl⟩) hold hnew
    · exact hold hnew
    · exact absurd (hold nofun) nofun
  intro thread hmem
  rcases List.mem_pair.mp hmem with rfl | rfl
  · exact hthread _ _ hsame.eThrd (h _ (by simp))
  · exact hthread _ _ hsame.timeoutThread (h _ (by simp))

/-- A step that leaves the phase and the stage alone. -/
theorem Sound.same {e' : MotionEngine} (h : Sound e) (hsame : SamePhase e e')
    (hstage : e'.stage = e.stage) : Sound e' where
  phase := h.phase.same hsame
  notTerminated := hstage ▸ h.notTerminated
  destroying := by
    rw [hstage, hsame.joining]
    exact h.destroying
  destroyed := fun hdestroyed => (h.destroyed (hstage ▸ hdestroyed)).same hsame

theorem SamePhase.refl (e : MotionEngine) : SamePhase e e :=
  ⟨rfl, rfl, .inl rfl, .inl rfl, rfl⟩

theorem samePhase_engineStop : SamePhase e e.engineStop.1 := by
  unfold engineStop
  split_ifs
  · exact SamePhase.refl e
  · exact ⟨rfl, rfl, .inl rfl, .inl rfl, rfl⟩

theorem stage_engineStop : e.engineStop.1.stage = e.stage := by
  unfold engineStop
  split_ifs <;> rfl

/-- The destructor after its `engineJoin`. -/
theorem Joins.sound_finishDestructor {result : MotionEngine × EngineResult}
    (h : Joins e result) : Sound (finishDestructor result) := by
  have hphase : ∀ stage, Phase { result.1 with stage := stage } := fun stage =>
    h.phase.same ⟨rfl, rfl, .inl rfl, .inl rfl, rfl⟩
  rcases h.outcome with ⟨hreturned, -, hjoined⟩ | ⟨hwaits, hjoining⟩
  · have hfinish : finishDestructor result = { result.1 with stage := .destroyed } := by
      simp [finishDestructor, hreturned, hjoined.not_joinable]
    rw [hfinish]
    exact ⟨hphase .destroyed, nofun, nofun, fun _ => hjoined⟩
  · have hfinish : finishDestructor result = { result.1 with stage := .destroying } := by
      simp [finishDestructor, hwaits]
    rw [hfinish]
    exact ⟨hphase .destroying, nofun, fun _ => hjoining, nofun⟩

/-- An `engineJoin` of a call. -/
theorem Joins.sound {result : MotionEngine × EngineResult} (h : Joins e result)
    (hstage : e.stage = .alive) : Sound result.1 := by
  have halive : result.1.stage = .alive := h.stage.trans hstage
  exact ⟨h.phase, by simp [halive], by simp [halive], by simp [halive]⟩

/-- The first `engineStart`, when nothing else was called before. -/
theorem engineStart_of_first (heThrd : e.eThrd = .none) (htimeout : e.timeoutThread = .none)
    (hstarted : e.eStarted = false) (hstop : e.eStopCalled = false) :
    e.engineStart =
      ({ e with eStarted := true, eThrd := .running, timeoutThread := .running },
        .returned) := by
  simp [engineStart, runThreads, heThrd, htimeout, hstarted, hstop, StdThread.joinable]

theorem Sound.engineStart (h : Sound e) (hstage : e.stage = .alive)
    (horderly : Orderly e (.call .engineStart)) :
    Sound e.engineStart.1 ∧ StartMeets e := by
  cases hstarted : e.eStarted with
  | true =>
      -- the exchange finds the flag set, so the call throws and changes nothing
      have hexchange : { e with eStarted := true } = e := by rw [← hstarted]
      have heq : e.engineStart.1 = e := by
        simp [MotionEngine.engineStart, hstarted, hexchange]
      rw [StartMeets, heq]
      exact ⟨h, fun _ _ => ⟨rfl, rfl, rfl⟩⟩
  | false =>
      -- only the first of the phases has the flag unset
      obtain ⟨hstop, hcalled⟩ := horderly rfl hstarted
      cases h.phase with
      | unstarted h₁ h₂ h₃ h₄ =>
          have heq := engineStart_of_first h₂ h₃ hstarted hstop
          rw [StartMeets, heq]
          refine ⟨⟨.started rfl hcalled rfl rfl h₄, ?_, ?_, ?_⟩, nofun⟩
          all_goals simp [hstage]
      | started h₁ => exact absurd (h₁.symm.trans hstarted) nofun
      | joiningEThrd h₁ => exact absurd (h₁.symm.trans hstarted) nofun
      | joiningTimeoutThread h₁ => exact absurd (h₁.symm.trans hstarted) nofun
      | joined h₁ => exact absurd (h₁.symm.trans hstarted) nofun

theorem Sound.engineJoin (h : Sound e) (hstage : e.stage = .alive) :
    Sound e.engineJoin.1 ∧ JoinMeets e.engineJoin := by
  by_cases hjoining : e.joining = none
  · have hjoins := h.phase.joins_engineJoin hjoining
    exact ⟨hjoins.sound hstage, hjoins.meets⟩
  · rw [h.phase.engineJoin_of_joining hjoining]
    exact ⟨h, ⟨nofun, fun _ hnone => absurd hnone hjoining⟩⟩

theorem samePhase_handleCmds : SamePhase e e.handleCmds := by
  unfold handleCmds
  split_ifs with hrunning
  · split
    · exact SamePhase.refl e
    · exact ⟨rfl, rfl, .inl rfl, .inl rfl, rfl⟩
    · exact ⟨rfl, rfl, .inl rfl, .inl rfl, rfl⟩
  · exact ⟨rfl, rfl, .inr ⟨hrunning, rfl⟩, .inl rfl, rfl⟩
  · exact SamePhase.refl e

theorem stage_handleCmds : e.handleCmds.stage = e.stage := by
  unfold handleCmds
  split_ifs
  · split <;> rfl
  · rfl
  · rfl

theorem samePhase_testTimeoutLoop : SamePhase e e.testTimeoutLoop := by
  unfold testTimeoutLoop
  split_ifs with hrunning
  · exact ⟨rfl, rfl, .inl rfl, .inr ⟨hrunning.1, rfl⟩, rfl⟩
  · exact SamePhase.refl e

theorem stage_testTimeoutLoop : e.testTimeoutLoop.stage = e.stage := by
  unfold testTimeoutLoop
  split_ifs <;> rfl

/-- A joined engine does not wait in `engineJoin`. -/
theorem Phase.joining_of_allJoined (h : Phase e) (hjoined : e.AllJoined) : e.joining = none := by
  by_contra hjoining
  obtain ⟨-, -, htimeout, -⟩ := h.of_joining hjoining
  exact absurd (htimeout.symm.trans hjoined.not_joinable.2) nofun

theorem Sound.resume (h : Sound e) (hjoining : e.joining ≠ none) :
    Sound (e.step .resume) ∧ JoinMeets e.resume := by
  have hjoins := h.phase.joins_resume hjoining
  refine ⟨?_, hjoins.meets⟩
  rw [step, if_neg hjoining]
  cases hstage : e.stage with
  | alive =>
      rw [if_neg nofun]
      exact hjoins.sound hstage
  | destroying =>
      rw [if_pos rfl]
      exact hjoins.sound_finishDestructor
  | destroyed =>
      exact absurd (h.phase.joining_of_allJoined (h.destroyed hstage)) hjoining
  | terminated => exact absurd hstage h.notTerminated

/-- **One action** that is enabled and orderly. -/
theorem Sound.step (h : Sound e) {action : EngineAction} (henabled : e.Enabled action)
    (horderly : e.Orderly action) : Sound (e.step action) ∧ Meets e action := by
  cases action with
  | call c =>
      cases c with
      | engineStart =>
          obtain ⟨hsound, hmeets⟩ := h.engineStart henabled horderly
          exact ⟨hsound, hsound.destructorMeets, hmeets⟩
      | engineStop =>
          have hsound : Sound e.engineStop.1 := h.same samePhase_engineStop stage_engineStop
          exact ⟨hsound, hsound.destructorMeets, trivial⟩
      | engineJoin =>
          obtain ⟨hsound, hmeets⟩ := h.engineJoin henabled
          exact ⟨hsound, hsound.destructorMeets, hmeets⟩
  | destructor =>
      have hstop : Sound e.engineStop.1 := h.same samePhase_engineStop stage_engineStop
      have hjoins := hstop.phase.joins_engineJoin
        (samePhase_engineStop.joining.trans henabled.2)
      have hsound : Sound (e.step .destructor) := hjoins.sound_finishDestructor
      exact ⟨hsound, hsound.destructorMeets, hjoins.meets⟩
  | handleCmds =>
      have hsound : Sound e.handleCmds := h.same samePhase_handleCmds stage_handleCmds
      exact ⟨hsound, hsound.destructorMeets, trivial⟩
  | queueTimeoutCheck =>
      have hsound : Sound e.queueTimeoutCheck :=
        h.same ⟨rfl, rfl, .inl rfl, .inl rfl, rfl⟩ rfl
      exact ⟨hsound, hsound.destructorMeets, trivial⟩
  | testTimeoutLoop =>
      have hsound : Sound e.testTimeoutLoop :=
        h.same samePhase_testTimeoutLoop stage_testTimeoutLoop
      exact ⟨hsound, hsound.destructorMeets, trivial⟩
  | resume =>
      by_cases hjoining : e.joining = none
      · have heq : e.step .resume = e := by rw [MotionEngine.step, if_pos hjoining]
        rw [Meets, heq]
        exact ⟨h, h.destructorMeets, fun hne => absurd hjoining hne⟩
      · obtain ⟨hsound, hmeets⟩ := h.resume hjoining
        exact ⟨hsound, hsound.destructorMeets, fun _ => hmeets⟩

/-! ## The flags -/

/-- What does not concern `engineStop` and `engineStart`. -/
structure Frame (e e' : MotionEngine) : Prop where
  eStarted : e'.eStarted = e.eStarted
  eStopCalled : e'.eStopCalled = e.eStopCalled
  timeoutLoop : e'.timeoutLoop = e.timeoutLoop
  eLoop : e'.eLoop = e.eLoop
  eQue : e'.eQue = e.eQue

theorem frame_joinTimeoutThread : Frame e e.joinTimeoutThread.1 := by
  unfold joinTimeoutThread
  split <;> exact ⟨rfl, rfl, rfl, rfl, rfl⟩

theorem frame_joinEThrd : Frame e e.joinEThrd.1 := by
  unfold joinEThrd
  split
  · exact ⟨rfl, rfl, rfl, rfl, rfl⟩
  · have h := frame_joinTimeoutThread (e := { e with eThrd := .joined })
    exact ⟨h.eStarted, h.eStopCalled, h.timeoutLoop, h.eLoop, h.eQue⟩
  · exact ⟨rfl, rfl, rfl, rfl, rfl⟩
  · exact ⟨rfl, rfl, rfl, rfl, rfl⟩

theorem frame_engineJoin : Frame e e.engineJoin.1 := by
  unfold engineJoin
  dsimp only
  split_ifs
  · exact ⟨rfl, rfl, rfl, rfl, rfl⟩
  · have h := frame_joinEThrd (e := { e with eJoinCalled := true })
    exact ⟨h.eStarted, h.eStopCalled, h.timeoutLoop, h.eLoop, h.eQue⟩
  · have h := frame_joinTimeoutThread (e := { e with eJoinCalled := true })
    exact ⟨h.eStarted, h.eStopCalled, h.timeoutLoop, h.eLoop, h.eQue⟩

theorem frame_resume : Frame e e.resume.1 := by
  unfold resume
  split
  · exact ⟨rfl, rfl, rfl, rfl, rfl⟩
  · exact frame_joinEThrd
  · exact frame_joinTimeoutThread

/-- The end of the destructor changes the stage only. -/
theorem finishDestructor_eq (result : MotionEngine × EngineResult) :
    ∃ stage, stage ≠ .alive ∧ finishDestructor result = { result.1 with stage := stage } := by
  unfold finishDestructor
  split
  · split_ifs
    · exact ⟨.terminated, nofun, rfl⟩
    · exact ⟨.destroyed, nofun, rfl⟩
  · exact ⟨.terminated, nofun, rfl⟩
  · exact ⟨.terminated, nofun, rfl⟩
  · exact ⟨.destroying, nofun, rfl⟩

theorem frame_finishDestructor (result : MotionEngine × EngineResult) :
    Frame result.1 (finishDestructor result) := by
  obtain ⟨stage, -, heq⟩ := finishDestructor_eq result
  rw [heq]
  exact ⟨rfl, rfl, rfl, rfl, rfl⟩

theorem stage_finishDestructor (result : MotionEngine × EngineResult) :
    (finishDestructor result).stage ≠ .alive := by
  obtain ⟨stage, hstage, heq⟩ := finishDestructor_eq result
  rwa [heq]

theorem Frame.trans {e₁ e₂ e₃ : MotionEngine} (hfirst : Frame e₁ e₂) (hsecond : Frame e₂ e₃) :
    Frame e₁ e₃ where
  eStarted := hsecond.eStarted.trans hfirst.eStarted
  eStopCalled := hsecond.eStopCalled.trans hfirst.eStopCalled
  timeoutLoop := hsecond.timeoutLoop.trans hfirst.timeoutLoop
  eLoop := hsecond.eLoop.trans hfirst.eLoop
  eQue := hsecond.eQue.trans hfirst.eQue

theorem frame_destructor : Frame e.engineStop.1 e.destructor :=
  frame_engineJoin.trans (frame_finishDestructor _)

theorem frame_step_resume : Frame e (e.step .resume) := by
  rw [step]
  split_ifs
  · exact ⟨rfl, rfl, rfl, rfl, rfl⟩
  · exact frame_resume.trans (frame_finishDestructor _)
  · exact frame_resume

/-- An `engineJoin` that waits does not change the stage. -/
theorem stage_resume : e.resume.1.stage = e.stage := by
  unfold resume joinEThrd joinTimeoutThread
  split
  · rfl
  · split
    · rfl
    · dsimp only
      split <;> rfl
    · rfl
    · rfl
  · split <;> rfl

theorem eStarted_engineStop : e.engineStop.1.eStarted = e.eStarted :=
  samePhase_engineStop.eStarted

theorem eStarted_engineStart : e.engineStart.1.eStarted = true := by
  unfold engineStart runThreads
  dsimp only
  split_ifs <;> rfl

/-- No action but an `engineStart` changes the started flag. -/
theorem eStarted_step {action : EngineAction} (haction : action ≠ .call .engineStart) :
    (e.step action).eStarted = e.eStarted := by
  cases action with
  | call c =>
      cases c with
      | engineStart => exact absurd rfl haction
      | engineStop => exact eStarted_engineStop
      | engineJoin => exact frame_engineJoin.eStarted
  | destructor => exact frame_destructor.eStarted.trans eStarted_engineStop
  | handleCmds => exact samePhase_handleCmds.eStarted
  | queueTimeoutCheck => rfl
  | testTimeoutLoop => exact samePhase_testTimeoutLoop.eStarted
  | resume => exact frame_step_resume.eStarted

/-- Once an `engineStart` was called, the flag is set. -/
theorem eStarted_run (e : MotionEngine) {actions : List EngineAction}
    (hmem : .call .engineStart ∈ actions) : (run step e actions).eStarted = true := by
  have hkeep : ∀ (e : MotionEngine) action, e.eStarted = true →
      (e.step action).eStarted = true := by
    intro e action h
    by_cases haction : action = .call .engineStart
    · rw [haction]
      exact eStarted_engineStart
    · rw [eStarted_step haction, h]
  obtain ⟨first, rest, rfl⟩ := List.append_of_mem hmem
  rw [run_append, run_cons]
  exact run_invariant (fun e : MotionEngine => e.eStarted = true) hkeep eStarted_engineStart rest

theorem eStopCalled_handleCmds : e.handleCmds.eStopCalled = e.eStopCalled := by
  unfold handleCmds
  split_ifs
  · split <;> rfl
  · rfl
  · rfl

theorem eStopCalled_testTimeoutLoop : e.testTimeoutLoop.eStopCalled = e.eStopCalled := by
  unfold testTimeoutLoop
  split_ifs <;> rfl

/-- While the object lives and nothing was called, the flags are unset. -/
def Untouched (e : MotionEngine) : Prop :=
  e.stage = .alive → e.eStopCalled = false ∧ e.eJoinCalled = false ∧ e.joining = none

theorem Untouched.step (h : Untouched e) {action : EngineAction} (haction : action.call? = none) :
    Untouched (e.step action) := by
  intro halive
  cases action with
  | call c => exact absurd haction nofun
  | destructor => exact absurd halive (stage_finishDestructor _)
  | handleCmds =>
      obtain ⟨hstop, hjoin, hjoining⟩ := h (stage_handleCmds.symm.trans halive)
      exact ⟨eStopCalled_handleCmds.trans hstop, samePhase_handleCmds.eJoinCalled.trans hjoin,
        samePhase_handleCmds.joining.trans hjoining⟩
  | queueTimeoutCheck => exact h halive
  | testTimeoutLoop =>
      obtain ⟨hstop, hjoin, hjoining⟩ := h (stage_testTimeoutLoop.symm.trans halive)
      exact ⟨eStopCalled_testTimeoutLoop.trans hstop,
        samePhase_testTimeoutLoop.eJoinCalled.trans hjoin,
        samePhase_testTimeoutLoop.joining.trans hjoining⟩
  | resume =>
      by_cases hjoining : e.joining = none
      · rw [MotionEngine.step, if_pos hjoining] at halive ⊢
        exact h halive
      · rw [MotionEngine.step, if_neg hjoining] at halive
        split_ifs at halive with hstage
        · exact absurd halive (stage_finishDestructor _)
        · exact absurd (h (stage_resume.symm.trans halive)).2.2 hjoining

theorem untouched_run {actions : List EngineAction}
    (hcalls : actions.filterMap EngineAction.call? = []) (h : Untouched e) :
    Untouched (run MotionEngine.step e actions) := by
  induction actions generalizing e with
  | nil => exact h
  | cons action rest ih =>
      cases hcall : action.call? with
      | some c => simp [hcall] at hcalls
      | none =>
          rw [List.filterMap_cons_none hcall] at hcalls
          exact ih hcalls (h.step hcall)

/-- When the engine is started by the first call, every action is orderly. -/
theorem always_orderly {calls : List EngineCall} {actions : List EngineAction}
    (hexecution : Execution calls actions) (hfirst : StartedFirst calls) :
    Always MotionEngine.step Orderly new actions := by
  rw [always_iff_split]
  rintro first action rest rfl rfl hstarted
  have hcalls := hexecution.calls_eq
  have hcall : (EngineAction.call .engineStart).call? = some .engineStart := rfl
  rw [List.filterMap_append, List.filterMap_cons_some hcall] at hcalls
  have hmem : .engineStart ∈ calls := by simp [← hcalls]
  -- either no call was made before this `engineStart`, or the first one was an `engineStart` too
  cases hpre : first.filterMap EngineAction.call? with
  | nil =>
      have halive : (run MotionEngine.step new first).stage = .alive :=
        hexecution.enabled.at_split
      have huntouched : Untouched new := fun _ => ⟨rfl, rfl, rfl⟩
      obtain ⟨hstop, hjoin, -⟩ := untouched_run hpre huntouched halive
      exact ⟨hstop, hjoin⟩
  | cons c others =>
      have hc : c = .engineStart := by
        simpa [← hcalls, hpre] using hfirst hmem
      have hstart : .call .engineStart ∈ first := by
        have hin : c ∈ first.filterMap EngineAction.call? := by simp [hpre]
        obtain ⟨action, haction, hcall⟩ := List.mem_filterMap.mp hin
        cases action with
        | call other =>
            rw [EngineAction.call?, Option.some.injEq] at hcall
            rwa [hcall, hc] at haction
        | _ => exact absurd hcall nofun
      exact absurd ((eStarted_run new hstart).symm.trans hstarted) nofun

end MotionEngine

end M2Cell
