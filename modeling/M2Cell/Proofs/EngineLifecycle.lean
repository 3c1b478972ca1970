import M2Cell.Proofs.MotionEngine

/-!
# The life of the motion engine, in any order of the calls

The flags are exchanged before they are compared.  So an `engineStart` after an
`engineStop` throws and leaves `_eStarted` set, though nothing was started, and an
`engineJoin` before the first `engineStart` uses up the only join there is.  In every other
order of the calls nothing goes wrong (`lifecycle_iff`), and an `engineJoin` waits for
`engineStop` only (`engineJoin_returns`).

For the second statement the threads have to end.  After `engineStop` the `MsgEnd` is in the
queue of the event thread and `_timeoutLoop` is unset (`Stopping`, kept by every action);
`msgEnd_ends` is the induction on what stands in front of the `MsgEnd`.

For the converse of the first statement the calls are made one after the other, with the
destructor at the end.  A first call that is no `engineStart` leaves the engine `Quiet`, other
calls keep it so, and the first `engineStart` then either throws with its flag set
(`not_startMeets`) or starts threads that nothing joins (`Doomed`, `Doomed.not_meets`).
-/

namespace M2Cell

namespace MotionEngine

variable {e : MotionEngine}

/-! ## An `engineJoin` that waits -/

/-- Once `engineStop` was called, both threads are told to end. -/
def Stopping (e : MotionEngine) : Prop :=
  e.eStopCalled = true → e.timeoutLoop = false ∧ (e.eLoop = true → .msgEnd ∈ e.eQue)

theorem Stopping.frame {e' : MotionEngine} (h : Stopping e) (hframe : Frame e e') :
    Stopping e' := by
  unfold Stopping
  rw [hframe.eStopCalled, hframe.timeoutLoop, hframe.eLoop, hframe.eQue]
  exact h

theorem Stopping.engineStop (h : Stopping e) : Stopping e.engineStop.1 := by
  unfold MotionEngine.engineStop
  split_ifs
  · exact h
  · exact fun _ => ⟨rfl, fun _ => by simp⟩

theorem Stopping.handleCmds (h : Stopping e) : Stopping e.handleCmds := by
  intro hstop
  rw [eStopCalled_handleCmds] at hstop
  obtain ⟨hloop, hend⟩ := h hstop
  unfold MotionEngine.handleCmds
  split_ifs with hrunning heLoop
  · split
    · exact ⟨hloop, hend⟩
    · rename_i rest hqueue
      exact ⟨hloop, fun _ => by simpa [hqueue] using hend heLoop⟩
    · exact ⟨hloop, nofun⟩
  · exact ⟨hloop, fun htrue => absurd htrue heLoop⟩
  · exact ⟨hloop, hend⟩

theorem Stopping.step (h : Stopping e) (action : EngineAction) : Stopping (e.step action) := by
  cases action with
  | call c =>
      cases c with
      | engineStart =>
          change Stopping e.engineStart.1
          unfold engineStart runThreads
          dsimp only
          split_ifs <;> exact h
      | engineStop => exact h.engineStop
      | engineJoin => exact h.frame frame_engineJoin
  | destructor => exact h.engineStop.frame frame_destructor
  | handleCmds => exact h.handleCmds
  | queueTimeoutCheck =>
      intro hstop
      obtain ⟨hloop, hend⟩ := h hstop
      exact ⟨hloop, fun heLoop => List.mem_append_left _ (hend heLoop)⟩
  | testTimeoutLoop =>
      change Stopping e.testTimeoutLoop
      unfold testTimeoutLoop
      split_ifs <;> exact h
  | resume => exact h.frame frame_step_resume

theorem stopping_run (actions : List EngineAction) :
    Stopping (run MotionEngine.step new actions) :=
  have hnew : Stopping new := fun hstop => absurd hstop (by decide)
  run_invariant Stopping (fun _ action h => h.step action) hnew actions

/-- The event thread runs the commands in front of the `MsgEnd`, and then ends. -/
theorem msgEnd_ends {queue : List EngineCommand} (hrunning : e.eThrd = .running)
    (hloop : e.eLoop = true) (hmem : .msgEnd ∈ queue) (hqueue : e.eQue = queue) :
    ∃ n eLoop eQue, run MotionEngine.step e (List.replicate n .handleCmds) =
      { e with eThrd := .ended, eLoop := eLoop, eQue := eQue } := by
  induction queue generalizing e with
  | nil => cases hmem
  | cons command rest ih =>
      cases command with
      | msgEnd =>
          refine ⟨2, false, rest, ?_⟩
          simp [List.replicate, MotionEngine.step, MotionEngine.handleCmds, hrunning, hloop,
            hqueue]
      | comTimeoutCheck =>
          -- one turn takes the check from the queue; the `MsgEnd` is in the rest
          have hmem' : .msgEnd ∈ rest := by simpa using hmem
          have hturn : e.step .handleCmds = { e with eQue := rest } := by
            simp [MotionEngine.step, MotionEngine.handleCmds, hrunning, hloop, hqueue]
          obtain ⟨n, eLoop, eQue, hrun⟩ :=
            ih (e := { e with eQue := rest }) hrunning hloop hmem' rfl
          refine ⟨n + 1, eLoop, eQue, ?_⟩
          calc run MotionEngine.step e (List.replicate (n + 1) .handleCmds)
              = run MotionEngine.step (e.step .handleCmds) (List.replicate n .handleCmds) := by
                rw [List.replicate_succ, run_cons]
            _ = run MotionEngine.step { e with eQue := rest } (List.replicate n .handleCmds) := by
                rw [hturn]
            _ = { e with eThrd := .ended, eLoop := eLoop, eQue := eQue } := hrun

/-- The event thread ends when it has come to the `MsgEnd`. -/
theorem eThrd_ends (heThrd : e.eThrd.joinable = true)
    (hend : e.eLoop = true → .msgEnd ∈ e.eQue) :
    ∃ n eLoop eQue, run MotionEngine.step e (List.replicate n .handleCmds) =
      { e with eThrd := .ended, eLoop := eLoop, eQue := eQue } := by
  rcases running_or_ended heThrd with hrunning | hended
  · cases hloop : e.eLoop with
    | false =>
        refine ⟨1, false, e.eQue, ?_⟩
        simp [MotionEngine.step, MotionEngine.handleCmds, hrunning, hloop]
    | true => exact msgEnd_ends hrunning hloop (hend hloop) rfl
  · exact ⟨0, e.eLoop, e.eQue, by simp [← hended]⟩

/-- The timeout thread ends at its next look at `_timeoutLoop`. -/
theorem testTimeoutLoop_of_stop (htimeout : e.timeoutThread.joinable = true)
    (hloop : e.timeoutLoop = false) :
    e.testTimeoutLoop = { e with timeoutThread := .ended } := by
  unfold testTimeoutLoop
  rcases running_or_ended htimeout with hrunning | hended
  · rw [if_pos ⟨hrunning, hloop⟩]
  · rw [if_neg (by simp [hended]), ← hended]

theorem joining_step_resume (hjoining : e.joining ≠ none) :
    (e.step .resume).joining = e.resume.1.joining := by
  rw [step, if_neg hjoining]
  split_ifs
  · obtain ⟨stage, -, heq⟩ := finishDestructor_eq e.resume
    rw [heq]
  · rfl

theorem joining_resume_timeoutThread (hjoining : e.joining = some .timeoutThread)
    (htimeout : e.timeoutThread = .ended) : (e.step .resume).joining = none := by
  rw [joining_step_resume (by simp [hjoining]), resume, hjoining]
  simp only [joinTimeoutThread_of_ended htimeout]

theorem joining_resume_eThrd (hjoining : e.joining = some .eThrd) (heThrd : e.eThrd = .ended)
    (htimeout : e.timeoutThread = .ended) : (e.step .resume).joining = none := by
  have hended : ({ e with eThrd := .joined } : MotionEngine).timeoutThread = .ended := htimeout
  rw [joining_step_resume (by simp [hjoining]), resume, hjoining]
  simp only [joinEThrd_of_ended heThrd, joinTimeoutThread_of_ended hended]

/-- The threads end when they get their turns, and the `engineJoin` is through. -/
theorem Sound.joining_ends (h : Sound e) (hstopping : Stopping e)
    (hstop : e.eStopCalled = true) (hjoining : e.joining ≠ none) :
    ∃ n, (run MotionEngine.step e
      (List.replicate n .handleCmds ++ [.testTimeoutLoop, .resume])).joining = none := by
  obtain ⟨hloop, hend⟩ := hstopping hstop
  obtain ⟨-, -, htimeout, ⟨hpoint, heThrd⟩ | ⟨hpoint, -⟩⟩ := h.phase.of_joining hjoining
  -- it waits for the event thread, and after that for the timeout thread
  · obtain ⟨n, eLoop, eQue, hrun⟩ := eThrd_ends heThrd hend
    refine ⟨n, ?_⟩
    have htest := testTimeoutLoop_of_stop
      (e := { e with eThrd := .ended, eLoop := eLoop, eQue := eQue }) htimeout hloop
    rw [run_append, hrun, run_cons, run_cons, run_nil, MotionEngine.step, htest]
    exact joining_resume_eThrd hpoint rfl rfl
  · refine ⟨0, ?_⟩
    have htest := testTimeoutLoop_of_stop htimeout hloop
    rw [List.replicate_zero, List.nil_append, run_cons, run_cons, run_nil,
      MotionEngine.step, htest]
    exact joining_resume_timeoutThread hpoint rfl

/-- **An `engineJoin` waits for `engineStop` only.**  Wherever it waits in an execution
after `engineStop` was called, there are turns of the threads after which it is through. -/
theorem engineJoin_returns {calls : List EngineCall} {first rest : List EngineAction}
    (hexecution : Execution calls (first ++ rest)) (hfirst : StartedFirst calls)
    (hstop : (run MotionEngine.step new first).eStopCalled = true)
    (hjoining : (run MotionEngine.step new first).joining ≠ none) :
    ∃ n, (run MotionEngine.step (run MotionEngine.step new first)
      (List.replicate n .handleCmds ++ [.testTimeoutLoop, .resume])).joining = none := by
  have henabled := ((always_append new first rest).mp hexecution.enabled).1
  have horderly := ((always_append new first rest).mp (always_orderly hexecution hfirst)).1
  have hsound : Sound (run MotionEngine.step new first) :=
    ((always_and new first).mpr ⟨henabled, horderly⟩).invariant Sound
      (fun _ _ h hcond => (h.step hcond.1 hcond.2).1) sound_new
  exact hsound.joining_ends (stopping_run first) hstop hjoining

/-! ## The other orders -/

/-- After a call before the first `engineStart`: an `engineJoin` will never wait. -/
structure Quiet (e : MotionEngine) : Prop where
  stage : e.stage = .alive
  joining : e.joining = none
  unstarted : e.eStarted = false → e.eThrd = .none ∧ e.timeoutThread = .none
  called : e.eJoinCalled = true ∨
    e.eStopCalled = true ∧ e.eThrd = .none ∧ e.timeoutThread = .none

/-- The threads run and will not be joined. -/
structure Doomed (e : MotionEngine) : Prop where
  eStarted : e.eStarted = true
  eJoinCalled : e.eJoinCalled = true
  eThrd : e.eThrd.joinable = true

theorem Quiet.engineStart (h : Quiet e) : Quiet e.engineStart.1 := by
  unfold MotionEngine.engineStart
  dsimp only
  split_ifs with hcalled
  · exact ⟨h.stage, h.joining, fun hfalse => Bool.noConfusion hfalse, h.called⟩
  · rw [Bool.or_eq_true, not_or, Bool.not_eq_true, Bool.not_eq_true] at hcalled
    obtain ⟨heThrd, htimeout⟩ := h.unstarted hcalled.1
    have hjoin : e.eJoinCalled = true := by
      rcases h.called with hjoin | ⟨hstop, -⟩
      · exact hjoin
      · rw [hstop] at hcalled
        cases hcalled.2
    have hrun : ({ e with eStarted := true } : MotionEngine).runThreads =
        ({ e with eStarted := true, eThrd := .running, timeoutThread := .running },
          .returned) := by
      simp [runThreads, heThrd, htimeout, StdThread.joinable]
    rw [hrun]
    exact ⟨h.stage, h.joining, fun hfalse => Bool.noConfusion hfalse, .inl hjoin⟩

theorem Quiet.engineStop (h : Quiet e) : Quiet e.engineStop.1 := by
  unfold MotionEngine.engineStop
  split_ifs
  · exact h
  · exact ⟨h.stage, h.joining, h.unstarted, h.called.imp_right fun hnone => ⟨rfl, hnone.2⟩⟩

theorem Quiet.engineJoin (h : Quiet e) : Quiet e.engineJoin.1 := by
  unfold MotionEngine.engineJoin
  dsimp only
  split_ifs with hcalled hstarted
  · exact h
  · obtain ⟨-, heThrd, htimeout⟩ := h.called.resolve_left hcalled
    simp only [joinEThrd, heThrd]
    exact ⟨h.stage, rfl, fun _ => ⟨rfl, htimeout⟩, .inl rfl⟩
  · obtain ⟨-, heThrd, htimeout⟩ := h.called.resolve_left hcalled
    simp only [joinTimeoutThread, htimeout]
    exact ⟨h.stage, rfl, fun _ => ⟨heThrd, rfl⟩, .inl rfl⟩

theorem Quiet.call (h : Quiet e) : ∀ c, Quiet (e.call c).1
  | .engineStart => h.engineStart
  | .engineStop => h.engineStop
  | .engineJoin => h.engineJoin

/-- The calls can be made one after another, and then the destructor. -/
theorem Quiet.always_enabled (h : Quiet e) (calls : List EngineCall) :
    Always step Enabled e (calls.map .call ++ [.destructor]) := by
  induction calls generalizing e with
  | nil => exact ⟨⟨h.stage, h.joining⟩, trivial⟩
  | cons c rest ih => exact ⟨h.stage, ih (h.call c)⟩

theorem quiet_run (h : Quiet e) (calls : List EngineCall) :
    Quiet (run step e (calls.map .call)) := by
  induction calls generalizing e with
  | nil => exact h
  | cons c rest ih => exact ih (h.call c)

/-- A first call that is not an `engineStart`. -/
theorem quiet_first {c : EngineCall} (hc : c ≠ .engineStart) : Quiet (new.call c).1 := by
  cases c with
  | engineStart => exact absurd rfl hc
  | engineStop => exact ⟨rfl, rfl, fun _ => ⟨rfl, rfl⟩, .inr ⟨rfl, rfl, rfl⟩⟩
  | engineJoin => exact ⟨rfl, rfl, fun _ => ⟨rfl, rfl⟩, .inl rfl⟩

/-- An `engineStart` after an `engineStop` leaves the started flag set. -/
theorem not_startMeets (hstarted : e.eStarted = false) (hstop : e.eStopCalled = true) :
    ¬ StartMeets e := by
  intro hmeets
  have hthrew : ∃ ex, e.engineStart.2 = .threw ex := by
    simp [MotionEngine.engineStart, hstop]
  obtain ⟨ex, hex⟩ := hthrew
  have hflag := (hmeets ex hex).1
  rw [eStarted_engineStart, hstarted] at hflag
  cases hflag

theorem Doomed.call (h : Doomed e) : ∀ c, Doomed (e.call c).1
  | .engineStart => by
      have hstart : (e.call .engineStart).1 = { e with eStarted := true } := by
        simp [MotionEngine.call, MotionEngine.engineStart, h.eStarted]
      rw [hstart]
      exact ⟨rfl, h.eJoinCalled, h.eThrd⟩
  | .engineStop =>
      ⟨eStarted_engineStop.trans h.eStarted,
        samePhase_engineStop.eJoinCalled.trans h.eJoinCalled,
        (joinable_of_ended samePhase_engineStop.eThrd).trans h.eThrd⟩
  | .engineJoin => by
      have hjoin : (e.call .engineJoin).1 = e := by
        simp [MotionEngine.call, MotionEngine.engineJoin, h.eJoinCalled]
      rwa [hjoin]

theorem doomed_run (h : Doomed e) (calls : List EngineCall) :
    Doomed (run step e (calls.map .call)) := by
  induction calls generalizing e with
  | nil => exact h
  | cons c rest ih => exact ih (h.call c)

/-- The destructor terminates the program. -/
theorem Doomed.not_meets (h : Doomed e) : ¬ Meets e .destructor := by
  intro hmeets
  have hstop : Doomed e.engineStop.1 := h.call .engineStop
  have hjoin : e.engineStop.1.engineJoin = (e.engineStop.1, .returned) := by
    simp [MotionEngine.engineJoin, hstop.eJoinCalled]
  have hstage : (e.step .destructor).stage = .terminated := by
    simp [step, destructor, hjoin, finishDestructor, hstop.eThrd]
  exact hmeets.1.notTerminated hstage

/-- An `engineStart` after an `engineJoin` starts threads that nothing joins. -/
theorem doomed_engineStart (h : Quiet e) (hstarted : e.eStarted = false)
    (hstop : e.eStopCalled = false) : Doomed e.engineStart.1 := by
  obtain ⟨heThrd, htimeout⟩ := h.unstarted hstarted
  have hjoin : e.eJoinCalled = true := by
    rcases h.called with hjoin | ⟨hcalled, -⟩
    · exact hjoin
    · exact absurd (hcalled.symm.trans hstop) nofun
  rw [engineStart_of_first heThrd htimeout hstarted hstop]
  exact ⟨rfl, hjoin, rfl⟩

/-- Something goes wrong once the engine is started, in one of the two ways. -/
theorem Quiet.not_always_meets (h : Quiet e) (hstarted : e.eStarted = false)
    (rest : List EngineCall) :
    ¬ Always step Meets e (.call .engineStart :: (rest.map .call ++ [.destructor])) := by
  rintro ⟨hstart, hrest⟩
  by_cases hstop : e.eStopCalled = true
  · exact not_startMeets hstarted hstop hstart.2
  · have hdoomed : Doomed e.engineStart.1 :=
      doomed_engineStart h hstarted (Bool.not_eq_true _ ▸ hstop)
    exact (doomed_run hdoomed rest).not_meets hrest.at_split

theorem eStarted_run_of_notMem {calls : List EngineCall} (hcalls : .engineStart ∉ calls) :
    (run step e (calls.map .call)).eStarted = e.eStarted := by
  induction calls generalizing e with
  | nil => rfl
  | cons c rest ih =>
      rw [List.mem_cons, not_or] at hcalls
      have hc : EngineAction.call c ≠ .call .engineStart := by
        intro heq
        exact hcalls.1 (EngineAction.call.inj heq).symm
      calc (run step (e.step (.call c)) (rest.map .call)).eStarted
          = (e.step (.call c)).eStarted := ih hcalls.2
        _ = e.eStarted := eStarted_step hc

/-- The calls one after another, and then the destructor, are a life of the engine. -/
theorem execution_map {c : EngineCall} (hc : c ≠ .engineStart) (rest : List EngineCall) :
    Execution (c :: rest) ((c :: rest).map .call ++ [.destructor]) where
  calls_eq := by
    have hcalls : ∀ calls : List EngineCall,
        (calls.map EngineAction.call).filterMap EngineAction.call? = calls := by
      intro calls
      rw [List.filterMap_map]
      exact List.filterMap_some
    rw [List.filterMap_append, hcalls]
    exact List.append_nil _
  destructor := by simp
  enabled := ⟨rfl, (quiet_first hc).always_enabled rest⟩

/-- **The life of the motion engine.**  In every execution of a sequence of calls that ends
in the destructor, nothing goes wrong exactly when the first of the calls is an
`engineStart`, or none is. -/
theorem lifecycle_iff (calls : List EngineCall) :
    (∀ actions, Execution calls actions → Always step Meets new actions) ↔
      StartedFirst calls := by
  constructor
  · intro hmeets hmem
    -- the calls before the first `engineStart`: if there are any, something goes wrong
    obtain ⟨first, rest, rfl, hfirst⟩ := List.eq_append_cons_of_mem hmem
    cases first with
    | nil => rfl
    | cons c others =>
        rw [List.mem_cons, not_or] at hfirst
        exfalso
        have hc : c ≠ .engineStart := Ne.symm hfirst.1
        have hquiet : Quiet (run step new ((c :: others).map .call)) :=
          quiet_run (quiet_first hc) others
        have hstarted : (run step new ((c :: others).map .call)).eStarted = false :=
          eStarted_run_of_notMem (by simp [hfirst])
        have hsplit : (c :: (others ++ .engineStart :: rest)).map EngineAction.call ++
            [.destructor] = (c :: others).map EngineAction.call ++
              (.call .engineStart :: (rest.map .call ++ [.destructor])) := by simp
        have halways := hmeets _ (execution_map hc (others ++ .engineStart :: rest))
        rw [hsplit, always_append] at halways
        exact hquiet.not_always_meets hstarted rest halways.2
  · intro hfirst actions hexecution
    have hboth := (always_and new actions).mpr
      ⟨hexecution.enabled, always_orderly hexecution hfirst⟩
    exact hboth.imp Sound (fun _ _ h hcond => h.step hcond.1 hcond.2) sound_new

/-- After `engineStop`, `engineStart` leaves the started flag set; after `engineJoin` the
destructor terminates the program. -/
theorem not_meets_startedLate :
    Execution [.engineStop, .engineStart]
        [.call .engineStop, .call .engineStart, .destructor] ∧
      ¬ Always step Meets new [.call .engineStop, .call .engineStart, .destructor] ∧
    Execution [.engineJoin, .engineStart]
        [.call .engineJoin, .call .engineStart, .destructor] ∧
      ¬ Always step Meets new [.call .engineJoin, .call .engineStart, .destructor] := by
  refine ⟨⟨rfl, by decide, by decide⟩, ?_, ⟨rfl, by decide, by decide⟩, ?_⟩
  · rintro ⟨-, ⟨-, hstart⟩, -⟩
    exact absurd (hstart _ rfl).1 (by decide)
  · rintro ⟨-, -, ⟨hdestructor, -⟩, -⟩
    exact hdestructor.notTerminated (by decide)

end MotionEngine

end M2Cell
