import M2Cell.Proofs.ThreadPool
import M2Cell.Util.ThreadLimit

/-!
# When the limit of the thread pool is kept

`_poolThreadCount` is the size of the pool and of the joiner together.  The pool can still
grow to its target, or to the target that a `_resize` under way has read; `prospect` is
the count that this comes to.  It rises when a thread is taken out of the pool that has
to be replaced, and it changes with the target.  So the limit is kept, however the
`_resize` calls that are due are scheduled, exactly when there is `Room` for each of these
two (`keepsLimit_iff`).  The wait in `leavePool()` does not see to that.

`LimitStep` sorts the actions by what they do to the numbers: most are calm, and a thread is
created, is taken out, or the target is set.  `limitStep_step` puts every action into one of
these classes, and `LimitStep.prospect_iff` is the arithmetic of each class.

The other direction needs a run that reaches the prospect.  Without the mutex a `_resize` is due
while threads are missing (`due_begin`), and it creates them one by one (`due_create`); with the
mutex the one under way comes to its own target first (`due_prospect`).  So wherever the prospect
is beyond the limit, the calls that are due lead there.
-/

namespace M2Cell

namespace ThreadPool

variable {s : ThreadPool}

theorem heldTarget_of_unlocked (h : s.poolMutex = none) : s.heldTarget = 0 := by
  rw [heldTarget, h]
  rfl

theorem heldTarget_of_locked {holder : PoolHolder} (h : s.poolMutex = some holder) :
    s.heldTarget = holder.target := by
  rw [heldTarget, h]
  rfl

theorem length_newPoolEventThread : s.newPoolEventThread.pool.length = s.pool.length + 1 := by
  rw [ThreadPool.newPoolEventThread, List.length_append, List.length_singleton]

/-- What an action does to the sizes that neither creates a thread, nor takes one out of
the pool, nor sets the target. -/
structure Calm (s s' : ThreadPool) : Prop where
  pool : s'.pool = s.pool
  target : s'.targetThrdCount = s.targetThrdCount
  held : s'.heldTarget ≤ max s.heldTarget s.targetThrdCount

theorem Calm.refl (s : ThreadPool) : Calm s s :=
  ⟨rfl, rfl, le_max_left _ _⟩

/-- A step that leaves the pool, the target and the mutex alone. -/
theorem Calm.of_eq {s' : ThreadPool} (hpool : s'.pool = s.pool)
    (htarget : s'.targetThrdCount = s.targetThrdCount) (hmutex : s'.poolMutex = s.poolMutex) :
    Calm s s' := by
  refine ⟨hpool, htarget, ?_⟩
  rw [heldTarget, hmutex]
  exact le_max_left _ _

theorem calm_finishup (t : ℕ) (back : Option ℕ) : Calm s (s.finishup t back) := by
  unfold finishup
  split_ifs
  · exact .of_eq rfl rfl rfl
  · exact .of_eq rfl rfl rfl

theorem calm_lock (resizes : ℕ) (caller : Option ℕ) :
    Calm s { s with resizes := resizes, poolMutex := some ⟨s.targetThrdCount, caller⟩ } :=
  ⟨rfl, rfl, le_max_right _ _⟩

/-- The fields after the end of a `_resize`. -/
theorem endResize_fields (holder : PoolHolder) :
    (s.endResize holder).pool = s.pool ∧ (s.endResize holder).poolMutex = none ∧
      (s.endResize holder).targetThrdCount = s.targetThrdCount := by
  unfold endResize
  split_ifs
  · obtain ⟨hpool, hmutex, htarget, -⟩ :=
      unlock_fields (s := { s with qu := s.qu ++ [.msgEnd] }) holder.caller
    exact ⟨hpool, hmutex, htarget⟩
  · obtain ⟨hpool, hmutex, htarget, -⟩ := unlock_fields (s := s) holder.caller
    exact ⟨hpool, hmutex, htarget⟩

theorem calm_endResize (holder : PoolHolder) : Calm s (s.endResize holder) := by
  obtain ⟨hpool, hmutex, htarget⟩ := endResize_fields (s := s) holder
  refine ⟨hpool, htarget, ?_⟩
  rw [heldTarget_of_unlocked hmutex]
  exact Nat.zero_le _

/-- The actions that may change the sizes. -/
def Resizes : PoolAction → Prop
  | .resize _ => True
  | .newPoolEventThread => True
  | .release _ => True
  | _ => False

theorem calm_step {action : PoolAction} (haction : ¬ Resizes action) :
    Calm s (s.step action) := by
  cases action with
  | resize target => exact absurd trivial haction
  | newPoolEventThread => exact absurd trivial haction
  | release t => exact absurd trivial haction
  | queCmd => exact .of_eq rfl rfl rfl
  | beginResize =>
      rw [step]
      split_ifs
      · exact calm_lock _ none
      · exact .refl s
  | endResize =>
      rw [step]
      split
      · split_ifs
        · exact .refl s
        · exact calm_endResize _
      · exact .refl s
  | checkLoop t =>
      rw [step]
      split
      · exact .of_eq rfl rfl rfl
      · exact .refl s
  | getCmd t =>
      rw [step]
      split
      · exact .of_eq rfl rfl rfl
      · exact .refl s
  | runAction t =>
      rw [step]
      split
      · exact .of_eq rfl rfl rfl
      · exact .of_eq rfl rfl rfl
      · exact .refl s
  | leavePool t id =>
      rw [step]
      split
      · exact .of_eq rfl rfl rfl
      · exact .refl s
  | finishup t =>
      rw [step]
      split
      · exact calm_finishup t _
      · exact calm_finishup t _
      · exact .refl s
  | beginRelease t =>
      rw [step]
      split
      · split_ifs
        · exact calm_lock s.resizes (some t)
        · exact .refl s
      · exact .refl s
  | finish t =>
      rw [step]
      split
      · exact .of_eq rfl rfl rfl
      · exact .refl s

/-- `release` of a thread that is in the pool. -/
theorem step_release_of_erases {t : ℕ} (h : s.Erases t) :
    (s.step (.release t)).pool = s.pool.erase t ∧
      (s.step (.release t)).targetThrdCount = s.targetThrdCount ∧
      (s.step (.release t)).poolMutex = none := by
  obtain ⟨hpoint, hmutex, hmem⟩ := h
  rw [step]
  split
  · rw [if_pos hmutex, if_pos hmem]
    exact ⟨rfl, rfl, hmutex⟩
  · rename_i hother
    cases hat : (s.thread t).point with
    | releasing back => exact absurd hat (hother back)
    | _ => simp [hat, PoolPoint.releases] at hpoint

theorem calm_release {t : ℕ} (h : ¬ s.Erases t) : Calm s (s.step (.release t)) := by
  rw [step]
  split
  · rename_i back hpoint
    split_ifs with hmutex hmem
    · exact absurd ⟨by rw [hpoint]; rfl, hmutex, hmem⟩ h
    · exact .of_eq rfl rfl rfl
    · exact .refl s
  · exact .refl s

/-- `_resize` creates a thread while there are fewer than its target. -/
theorem step_newPoolEventThread :
    s.step .newPoolEventThread =
      if s.pool.length < s.heldTarget then s.newPoolEventThread else s := by
  rw [step, heldTarget]
  cases s.poolMutex with
  | none => simp
  | some holder => simp

end ThreadPool

namespace LimitedPool

open ThreadPool

variable {s : LimitedPool}

/-! ## The numbers -/

/-- The size that the pool can come to without another `release` or `resize`. -/
def dueSize (s : LimitedPool) : ℕ :=
  max (max s.pool.pool.length s.pool.targetThrdCount) s.pool.heldTarget

/-- The count that this comes to. -/
def prospect (s : LimitedPool) : ℕ := s.dueSize + s.joiner.length

/-- **Room for an action.**  When a thread is taken out of the pool or the target is set,
the threads that left and still exist, with the size that the pool is to have, are
within the limit. -/
def Room (s : LimitedPool) : LimitAction → Prop
  | .pool (.release t) => s.pool.Erases t →
      max (s.pool.pool.length - 1) s.pool.targetThrdCount + (s.joiner.length + 1) ≤
        s.maxThreadCount
  | .pool (.resize targetThrdCount) =>
      max (max s.pool.pool.length targetThrdCount) s.pool.heldTarget + s.joiner.length ≤
        s.raisedMax targetThrdCount
  | _ => True

instance (s : LimitedPool) : ∀ action, Decidable (s.Room action)
  | .pool (.release _) => inferInstanceAs (Decidable (_ → _))
  | .pool (.resize _) => inferInstanceAs (Decidable (_ ≤ _))
  | .pool .queCmd => inferInstanceAs (Decidable True)
  | .pool .beginResize => inferInstanceAs (Decidable True)
  | .pool .newPoolEventThread => inferInstanceAs (Decidable True)
  | .pool .endResize => inferInstanceAs (Decidable True)
  | .pool (.checkLoop _) => inferInstanceAs (Decidable True)
  | .pool (.getCmd _) => inferInstanceAs (Decidable True)
  | .pool (.runAction _) => inferInstanceAs (Decidable True)
  | .pool (.leavePool _ _) => inferInstanceAs (Decidable True)
  | .pool (.finishup _) => inferInstanceAs (Decidable True)
  | .pool (.beginRelease _) => inferInstanceAs (Decidable True)
  | .pool (.finish _) => inferInstanceAs (Decidable True)
  | .leavePool _ => inferInstanceAs (Decidable True)
  | .endWait _ => inferInstanceAs (Decidable True)
  | .join => inferInstanceAs (Decidable True)

/-! ## What a step does -/

/-- The steps, by what they do to the numbers. -/
inductive LimitStep (s : LimitedPool) : LimitAction → LimitedPool → Prop
  /-- Neither thread nor target changes; the joiner may be done with one. -/
  | calm (action : LimitAction) (s' : LimitedPool) (hpool : PoolStep s.pool s'.pool)
      (hcalm : Calm s.pool s'.pool) (hmax : s'.maxThreadCount = s.maxThreadCount)
      (hjoiner : s'.joiner.length ≤ s.joiner.length)
      (hcount : s'.poolThreadCount + s.joiner.length = s.poolThreadCount + s'.joiner.length)
      (hroom : s.Room action) : LimitStep s action s'
  | create (hlt : s.pool.pool.length < s.pool.heldTarget) :
      LimitStep s (.pool .newPoolEventThread)
        { s with pool := s.pool.newPoolEventThread, poolThreadCount := s.poolThreadCount + 1 }
  | release (t : ℕ) (herases : s.pool.Erases t) :
      LimitStep s (.pool (.release t))
        { s with pool := s.pool.step (.release t), joiner := s.joiner ++ [t] }
  | resize (targetThrdCount : ℕ) :
      LimitStep s (.pool (.resize targetThrdCount))
        { s with
          pool := s.pool.step (.resize targetThrdCount)
          maxThreadCount := s.raisedMax targetThrdCount }

theorem LimitStep.refl {action : LimitAction} (hroom : s.Room action) : LimitStep s action s :=
  .calm action s .stay (.refl s.pool) rfl le_rfl rfl hroom

/-- An action of the pool that is calm; the threads that wait may change. -/
theorem limitStep_of_calm {action : LimitAction} (poolAction : PoolAction) (waiting : List ℕ)
    (hcalm : Calm s.pool (s.pool.step poolAction)) (hroom : s.Room action) :
    LimitStep s action { s with pool := s.pool.step poolAction, waiting := waiting } :=
  .calm action { s with pool := s.pool.step poolAction, waiting := waiting }
    (poolStep_step s.pool poolAction) hcalm rfl le_rfl rfl hroom

theorem limitStep_poolStep (action : PoolAction) :
    LimitStep s (.pool action) (s.poolStep action) := by
  cases action with
  | resize target => exact .resize target
  | newPoolEventThread =>
      simp only [poolStep, step_newPoolEventThread]
      split_ifs with hlt
      · exact .create hlt
      · exact .refl trivial
  | release t =>
      simp only [poolStep]
      split_ifs with herases
      · exact .release t herases
      · have hroom : s.Room (.pool (.release t)) := fun h => absurd h herases
        exact limitStep_of_calm (.release t) s.waiting (calm_release herases) hroom
  | _ =>
      apply limitStep_of_calm
      · exact calm_step not_false
      · trivial

theorem limitStep_leavePool (t : ℕ) : LimitStep s (.leavePool t) (s.leavePool t) := by
  unfold leavePool
  split
  · rename_i id hpoint
    split_ifs
    · exact .refl trivial
    · have hthread : { s.pool.thread t with eLoop := false } =
          { s.pool.thread t with eLoop := false, point := .running id } := by rw [← hpoint]
      refine .calm _ _ ?_ (.of_eq rfl rfl rfl) rfl le_rfl rfl trivial
      change PoolStep s.pool (s.pool.setThread t _)
      rw [hthread]
      exact .leaves t id (.running id) hpoint (.inr rfl)
  · exact .refl trivial

theorem limitStep_endWait (t : ℕ) : LimitStep s (.endWait t) (s.endWait t) := by
  unfold endWait
  split
  · split_ifs
    · apply limitStep_of_calm
      · exact calm_step not_false
      · trivial
    · exact .refl trivial
  · exact .refl trivial

/-- The count is that of the threads in the pool and with the joiner. -/
def Counted (s : LimitedPool) : Prop :=
  s.poolThreadCount = s.pool.pool.length + s.joiner.length

theorem limitStep_join (hcounted : s.Counted) : LimitStep s .join s.join := by
  unfold join
  split
  · exact .refl trivial
  · rename_i t rest hjoiner
    split_ifs
    · rw [Counted, hjoiner, List.length_cons] at hcounted
      refine .calm _ _ .stay (.refl s.pool) rfl ?_ ?_ trivial
      · rw [hjoiner, List.length_cons]
        exact Nat.le_succ _
      · rw [hjoiner, List.length_cons]
        dsimp only
        omega
    · exact .refl trivial

theorem limitStep_step (hcounted : s.Counted) (action : LimitAction) :
    LimitStep s action (s.step action) := by
  cases action with
  | pool action =>
      rw [step]
      split_ifs with hwaits
      · -- only a command that goes on is held up
        cases action with
        | leavePool t id => exact .refl trivial
        | finish t => exact .refl trivial
        | _ => simp [goesOn] at hwaits
      · exact limitStep_poolStep action
  | leavePool t => exact limitStep_leavePool t
  | endWait t => exact limitStep_endWait t
  | join => exact limitStep_join hcounted

/-! ## The invariant -/

/-- The count is right, and the pool keeps its own invariants. -/
structure Sound (s : LimitedPool) : Prop where
  counted : s.Counted
  threads : ThreadsInv s.pool
  size : SizeInv s.pool

theorem sound_newThreadPool (thrdCount maxThreadCount : ℕ) :
    Sound (newThreadPool thrdCount maxThreadCount) :=
  ⟨rfl, threadsInv_start thrdCount, sizeInv_start thrdCount⟩

theorem LimitStep.poolStep {action : LimitAction} {s' : LimitedPool}
    (h : LimitStep s action s') : PoolStep s.pool s'.pool := by
  cases h with
  | calm _ _ hpool => exact hpool
  | create hlt =>
      have hstep := poolStep_step s.pool .newPoolEventThread
      rwa [step_newPoolEventThread, if_pos hlt] at hstep
  | release t _ => exact poolStep_step s.pool (.release t)
  | resize target => exact poolStep_step s.pool (.resize target)

theorem LimitStep.counted {action : LimitAction} {s' : LimitedPool}
    (h : LimitStep s action s') (hcounted : s.Counted) : s'.Counted := by
  unfold Counted at hcounted ⊢
  cases h with
  | calm _ _ _ hcalm _ hjoiner hcount =>
      rw [hcalm.pool]
      omega
  | create hlt =>
      have hlength := length_newPoolEventThread (s := s.pool)
      dsimp only
      omega
  | release t herases =>
      have hlength := List.length_erase_of_mem herases.2.2
      have hpos := List.length_pos_of_mem herases.2.2
      dsimp only
      rw [(step_release_of_erases herases).1, List.length_append, List.length_singleton]
      omega
  | resize target => exact hcounted

theorem Sound.step (h : Sound s) (action : LimitAction) : Sound (s.step action) := by
  have hstep := limitStep_step h.counted action
  exact ⟨hstep.counted h.counted, h.threads.step hstep.poolStep,
    h.size.step h.threads hstep.poolStep⟩

theorem Sound.run (h : Sound s) (actions : List LimitAction) :
    Sound (run LimitedPool.step s actions) :=
  run_invariant Sound (fun _ action h => h.step action) h actions

/-- **The prospect stays within the limit** under an action exactly when there is room
for it. -/
theorem LimitStep.prospect_iff {action : LimitAction} {s' : LimitedPool}
    (h : LimitStep s action s') (hprospect : s.prospect ≤ s.maxThreadCount) :
    s'.prospect ≤ s'.maxThreadCount ↔ s.Room action := by
  unfold prospect dueSize at *
  cases h with
  | calm _ _ _ hcalm hmax hjoiner _ hroom =>
      have hheld := hcalm.held
      apply iff_of_true ?_ hroom
      rw [hcalm.pool, hcalm.target, hmax]
      omega
  | create hlt =>
      have hlength := length_newPoolEventThread (s := s.pool)
      apply iff_of_true ?_ trivial
      change max (max s.pool.newPoolEventThread.pool.length s.pool.targetThrdCount)
        s.pool.heldTarget + s.joiner.length ≤ s.maxThreadCount
      omega
  | release t herases =>
      obtain ⟨hpool, htarget, hmutex⟩ := step_release_of_erases herases
      have hlength := List.length_erase_of_mem herases.2.2
      dsimp only
      rw [Room, hpool, htarget, heldTarget_of_unlocked hmutex, List.length_append,
        List.length_singleton, hlength]
      simp [herases]
  | resize target => exact Iff.rfl

/-! ## The `_resize` calls that are due -/

/-- Steps of the `_resize` calls lead from `s` to `s'`. -/
def Due (s s' : LimitedPool) : Prop :=
  ∃ due : List LimitAction, (∀ action ∈ due, action.IsResize) ∧ s' = run step s due

theorem Due.refl (s : LimitedPool) : Due s s :=
  ⟨[], by simp, rfl⟩

theorem Due.trans {s' s'' : LimitedPool} (hfirst : Due s s') (hsecond : Due s' s'') :
    Due s s'' := by
  obtain ⟨due, hdue, rfl⟩ := hfirst
  obtain ⟨due', hdue', rfl⟩ := hsecond
  refine ⟨due ++ due', ?_, (run_append _ _ _).symm⟩
  intro action haction
  rcases List.mem_append.mp haction with hmem | hmem
  · exact hdue action hmem
  · exact hdue' action hmem

theorem due_step {action : LimitAction} (haction : action.IsResize) : Due s (s.step action) :=
  ⟨[action], by simpa using haction, rfl⟩

theorem Due.sound {s' : LimitedPool} (h : Sound s) (hdue : Due s s') : Sound s' := by
  obtain ⟨due, -, rfl⟩ := hdue
  exact h.run due

/-- Only the pool and its mutex are different. -/
structure Grown (s s' : LimitedPool) : Prop where
  target : s'.pool.targetThrdCount = s.pool.targetThrdCount
  joiner : s'.joiner = s.joiner
  max : s'.maxThreadCount = s.maxThreadCount

theorem Grown.trans {s' s'' : LimitedPool} (hfirst : Grown s s') (hsecond : Grown s' s'') :
    Grown s s'' :=
  ⟨hsecond.target.trans hfirst.target, hsecond.joiner.trans hfirst.joiner,
    hsecond.max.trans hfirst.max⟩

/-- Only a command that goes on can be held up. -/
theorem step_pool_of_goesOn {action : PoolAction} (haction : goesOn action = none) :
    s.step (.pool action) = s.poolStep action := by
  have hgoes : ¬ ∃ t ∈ goesOn action, t ∈ s.waiting := by simp [haction]
  rw [step, if_neg hgoes]

theorem step_create (hlt : s.pool.pool.length < s.pool.heldTarget) :
    s.step (.pool .newPoolEventThread) =
      { s with pool := s.pool.newPoolEventThread, poolThreadCount := s.poolThreadCount + 1 } := by
  rw [step_pool_of_goesOn rfl]
  simp only [poolStep, step_newPoolEventThread, if_pos hlt]

/-- The `_resize` under way creates the threads up to its target. -/
theorem due_create {holder : PoolHolder} (hlocked : s.pool.poolMutex = some holder) :
    ∃ s', Due s s' ∧ Grown s s' ∧ s'.pool.poolMutex = some holder ∧
      s'.pool.pool.length = max s.pool.pool.length holder.target := by
  induction hmissing : holder.target - s.pool.pool.length generalizing s with
  | zero =>
      refine ⟨s, .refl s, ⟨rfl, rfl, rfl⟩, hlocked, ?_⟩
      omega
  | succ missing ih =>
      have hheld := heldTarget_of_locked hlocked
      have hlt : s.pool.pool.length < s.pool.heldTarget := by omega
      have hlength := length_newPoolEventThread (s := s.pool)
      have hstep := step_create hlt
      have hfirst : Due s (s.step (.pool .newPoolEventThread)) := due_step trivial
      rw [hstep] at hfirst
      obtain ⟨s', hdue, hgrown, hmutex, hsize⟩ := ih (s := { s with
        pool := s.pool.newPoolEventThread, poolThreadCount := s.poolThreadCount + 1 }) hlocked
        (by dsimp only; omega)
      refine ⟨s', hfirst.trans hdue, ⟨hgrown.target, hgrown.joiner, hgrown.max⟩, hmutex, ?_⟩
      rw [hsize]
      dsimp only
      omega

/-- While threads are missing, a `_resize` is due. -/
theorem due_begin (h : Sound s) (hunlocked : s.pool.poolMutex = none)
    (hlt : s.pool.pool.length < s.pool.targetThrdCount) :
    ∃ s' holder, Due s s' ∧ Grown s s' ∧ s'.pool.pool = s.pool.pool ∧
      s'.pool.poolMutex = some holder ∧ holder.target = s.pool.targetThrdCount := by
  -- a `_resize` waits to begin, or a thread that leaves is about to call it
  by_cases hresizes : 0 < s.pool.resizes
  · refine ⟨s.step (.pool .beginResize), ⟨s.pool.targetThrdCount, none⟩, due_step trivial, ?_⟩
    have hstep : s.step (.pool .beginResize) =
        { s with pool := s.pool.step .beginResize } := step_pool_of_goesOn rfl
    rw [hstep, ThreadPool.step, if_pos ⟨hresizes, hunlocked⟩]
    exact ⟨⟨rfl, rfl, rfl⟩, rfl, rfl, rfl⟩
  · obtain ⟨t, ht⟩ : ∃ t, (s.pool.thread t).point.resizes = true := by
      by_contra hnone
      have hsettled := h.size.settled hunlocked (by omega)
        fun t _ => Bool.eq_false_of_not_eq_true fun ht => hnone ⟨t, ht⟩
      rcases hsettled with heq | ⟨hsurplus, -⟩
      · omega
      · omega
    refine ⟨s.step (.pool (.beginRelease t)), ⟨s.pool.targetThrdCount, some t⟩,
      due_step trivial, ?_⟩
    have hstep : s.step (.pool (.beginRelease t)) =
        { s with pool := s.pool.step (.beginRelease t) } := step_pool_of_goesOn rfl
    have hpool : s.pool.step (.beginRelease t) =
        { s.pool with poolMutex := some ⟨s.pool.targetThrdCount, some t⟩ } := by
      cases hpoint : (s.pool.thread t).point with
      | resizing back => simp only [ThreadPool.step, hpoint, if_pos hunlocked]
      | _ => simp [hpoint, PoolPoint.resizes] at ht
    rw [hstep, hpool]
    exact ⟨⟨rfl, rfl, rfl⟩, rfl, rfl, rfl⟩

/-- Without the mutex, the missing threads are created. -/
theorem due_target (h : Sound s) (hunlocked : s.pool.poolMutex = none) :
    ∃ s', Due s s' ∧ Grown s s' ∧
      s'.pool.pool.length = max s.pool.pool.length s.pool.targetThrdCount := by
  by_cases hlt : s.pool.pool.length < s.pool.targetThrdCount
  · obtain ⟨s₁, holder, hdue, hgrown, hpool, hlocked, htarget⟩ := due_begin h hunlocked hlt
    obtain ⟨s₂, hdue', hgrown', -, hsize⟩ := due_create hlocked
    refine ⟨s₂, hdue.trans hdue', hgrown.trans hgrown', ?_⟩
    rw [hsize, hpool, htarget]
  · refine ⟨s, .refl s, ⟨rfl, rfl, rfl⟩, ?_⟩
    omega

/-- **The prospect is reached** by the `_resize` calls that are due. -/
theorem due_prospect (h : Sound s) :
    ∃ s', Due s s' ∧ s'.maxThreadCount = s.maxThreadCount ∧
      s'.poolThreadCount = s.prospect := by
  have hcount : ∀ s', Due s s' → Grown s s' → s'.pool.pool.length = s.dueSize →
      s'.poolThreadCount = s.prospect := by
    intro s' hdue hgrown hsize
    have hcounted : s'.poolThreadCount = s'.pool.pool.length + s'.joiner.length :=
      (hdue.sound h).counted
    rw [hcounted, hsize, hgrown.joiner, prospect]
  cases hmutex : s.pool.poolMutex with
  | none =>
      obtain ⟨s', hdue, hgrown, hsize⟩ := due_target h hmutex
      have hheld := heldTarget_of_unlocked hmutex
      refine ⟨s', hdue, hgrown.max, hcount s' hdue hgrown ?_⟩
      rw [hsize, dueSize, hheld]
      omega
  | some holder =>
      have hheld := heldTarget_of_locked hmutex
      obtain ⟨s₁, hdue, hgrown, hlocked, hsize⟩ := due_create hmutex
      -- this `_resize` ends, and one that has read the present target comes
      have hend : s₁.step (.pool .endResize) =
          { s₁ with pool := s₁.pool.endResize holder } := by
        have hfull : ¬ s₁.pool.pool.length < holder.target := by omega
        rw [step_pool_of_goesOn rfl]
        simp only [poolStep, ThreadPool.step, hlocked, if_neg hfull]
      have hdue' : Due s₁ (s₁.step (.pool .endResize)) := due_step trivial
      obtain ⟨hpool, hunlocked, htarget⟩ := endResize_fields (s := s₁.pool) holder
      rw [hend] at hdue'
      obtain ⟨s₂, hdue'', hgrown', hsize'⟩ :=
        due_target ((hdue.trans hdue').sound h) hunlocked
      have hgrown'' : Grown s s₂ :=
        hgrown.trans ⟨hgrown'.target.trans htarget, hgrown'.joiner, hgrown'.max⟩
      refine ⟨s₂, (hdue.trans hdue').trans hdue'', hgrown''.max,
        hcount s₂ ((hdue.trans hdue').trans hdue'') hgrown'' ?_⟩
      rw [hsize', hpool, htarget, hgrown.target, hsize, dueSize, hheld]
      omega

/-! ## Runs -/

/-- The count is right and its prospect within the limit. -/
def Within (s : LimitedPool) : Prop := Sound s ∧ s.prospect ≤ s.maxThreadCount

theorem Within.limited (h : Within s) : s.Limited := by
  have hcounted : s.poolThreadCount = s.pool.pool.length + s.joiner.length := h.1.counted
  have hprospect : s.dueSize + s.joiner.length ≤ s.maxThreadCount := h.2
  have hsize : s.pool.pool.length ≤ s.dueSize := le_max_of_le_left (le_max_left _ _)
  rw [Limited]
  omega

theorem Within.step_iff (h : Within s) (action : LimitAction) :
    Within (s.step action) ↔ s.Room action := by
  have hprospect := (limitStep_step h.1.counted action).prospect_iff h.2
  rw [Within, hprospect]
  exact and_iff_right (h.1.step action)

/-- The `_resize` calls need no room of their own. -/
theorem room_of_isResize {action : LimitAction} (haction : action.IsResize) : s.Room action := by
  cases action with
  | pool action =>
      cases action with
      | resize target => exact haction.elim
      | release t => exact haction.elim
      | _ => trivial
  | _ => trivial

theorem Within.due {s' : LimitedPool} (h : Within s) (hdue : Due s s') : Within s' := by
  obtain ⟨due, hresize, rfl⟩ := hdue
  induction due generalizing s with
  | nil => exact h
  | cons action rest ih =>
      rw [List.forall_mem_cons] at hresize
      exact ih ((h.step_iff action).mpr (room_of_isResize hresize.1)) hresize.2

/-- The `_resize` calls that are due keep the limit exactly when the prospect is within. -/
theorem Sound.within_iff (h : Sound s) : (∀ s', Due s s' → s'.Limited) ↔ Within s := by
  constructor
  · intro hlimited
    obtain ⟨s', hdue, hmax, hcount⟩ := due_prospect h
    have hlimit : s'.poolThreadCount ≤ s'.maxThreadCount := hlimited s' hdue
    rw [hcount, hmax] at hlimit
    exact ⟨h, hlimit⟩
  · intro hwithin s' hdue
    exact (hwithin.due hdue).limited

/-- The limit is kept in every state of the run, and in every state to which the `_resize`
calls that are due there can lead. -/
def KeepsLimit (s : LimitedPool) (actions : List LimitAction) : Prop :=
  ∀ first rest, actions = first ++ rest →
    ∀ s', Due (M2Cell.run step s first) s' → s'.Limited

/-- **The limit of the thread pool.**  In every run, and however the `_resize` calls that
are due are scheduled, the number of threads stays within the limit exactly when the pool
was made within it and there was room whenever a thread was taken out of the pool and
whenever the target was set. -/
theorem keepsLimit_iff (thrdCount maxThreadCount : ℕ) (actions : List LimitAction) :
    KeepsLimit (newThreadPool thrdCount maxThreadCount) actions ↔
      thrdCount ≤ maxThreadCount ∧
        Always step Room (newThreadPool thrdCount maxThreadCount) actions := by
  have hsound : Sound (newThreadPool thrdCount maxThreadCount) :=
    sound_newThreadPool thrdCount maxThreadCount
  have hstart : Within (newThreadPool thrdCount maxThreadCount) ↔
      thrdCount ≤ maxThreadCount := by
    rw [Within, and_iff_right hsound]
    simp [prospect, dueSize, newThreadPool, ThreadPool.start, heldTarget]
  have hpre : KeepsLimit (newThreadPool thrdCount maxThreadCount) actions ↔
      ∀ first rest, actions = first ++ rest →
        Within (M2Cell.run step (newThreadPool thrdCount maxThreadCount) first) :=
    forall_congr' fun first => forall_congr' fun rest => imp_congr_right fun _ =>
      (hsound.run first).within_iff
  rw [hpre, forall_prefix_iff, hstart]
  apply and_congr_right
  intro hwithin
  exact always_iff_of_step Within (fun s action h => h.step_iff action)
    (hstart.mpr hwithin) actions

/-- A pool of one thread, made with the limit 2.  Its thread leaves while there is one
thread, and the second one leaves while there are two; then there are three. -/
theorem not_limited_leftTwice :
    ¬ (M2Cell.run step (newThreadPool 1 2)
      [.pool .beginResize, .pool .newPoolEventThread, .pool .endResize,
        .pool .queCmd, .pool .queCmd,
        .pool (.checkLoop 0), .pool (.getCmd 0), .pool (.runAction 0), .leavePool 0, .endWait 0,
        .pool (.finishup 0), .pool (.release 0), .pool (.beginRelease 0),
        .pool .newPoolEventThread, .pool .endResize,
        .pool (.checkLoop 1), .pool (.getCmd 1), .pool (.runAction 1), .leavePool 1, .endWait 1,
        .pool (.finishup 1), .pool (.release 1), .pool (.beginRelease 1),
        .pool .newPoolEventThread]).Limited := by
  decide

end LimitedPool

end M2Cell
