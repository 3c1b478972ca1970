import M2Cell.Server.Broadcast

/-!
# A broadcast and the lock of the connection map

The loop of a broadcast drops its pointer to a connection while it holds `_mapMtx`.
When the asynchronous operations of the connection, the write of the loop itself among
them, have ended by then, the pointer is the last one: the destructor runs in the
loop and `eraseConnection` locks the mutex that its own thread holds.

`LoopInv` says who holds the mutex and who owns the connections, and `BroadcastStep`
what a step does; what a step keeps is proved case by case from it.  One step enters the
lock again exactly when the loop drops the last owner of a connection that is not
shut down (`relocks_step_iff`), and `unentered_iff` is the statement about runs.
-/

namespace M2Cell

namespace BroadcastPoint

/-- The thread is in the loop of a broadcast, or in a destructor that the loop runs. -/
def InLoop : BroadcastPoint → Prop
  | .iterating _ => True
  | .owning _ _ => True
  | .written _ _ => True
  | .erasing _ (some _) => True
  | _ => False

/-- The thread runs a destructor in the loop. -/
def InDestructor : BroadcastPoint → Prop
  | .erasing _ (some _) => True
  | _ => False

/-- The thread's loop owns the connection. -/
def Owns (connId : ℕ) : BroadcastPoint → Prop
  | .owning connId' _ => connId' = connId
  | .written connId' _ => connId' = connId
  | _ => False

theorem Owns.inLoop {connId : ℕ} {point : BroadcastPoint} (h : point.Owns connId) :
    point.InLoop := by
  cases point with
  | owning => trivial
  | written => trivial
  | idle => exact h.elim
  | iterating => exact h.elim
  | erasing => exact h.elim

theorem InDestructor.eq_erasing {point : BroadcastPoint} (h : point.InDestructor) :
    ∃ connId todo, point = .erasing connId (some todo) := by
  cases point with
  | erasing connId todo =>
      cases todo with
      | none => exact h.elim
      | some todo => exact ⟨connId, todo, rfl⟩
  | idle => exact h.elim
  | iterating => exact h.elim
  | owning => exact h.elim
  | written => exact h.elim

end BroadcastPoint

namespace Broadcasts

open BroadcastPoint

variable {s : Broadcasts} {action : BroadcastAction}

/-- A thread is about to lock the mutex that it holds. -/
def Relocks (s : Broadcasts) : Prop :=
  ∃ thread connId todo, s.point thread = .erasing connId todo ∧ s.mapMtx = some thread

/-- The step neither locks the mutex again nor changes the map under a broadcast. -/
def Unentered (s : Broadcasts) (action : BroadcastAction) : Prop :=
  ¬ (s.step action).Relocks ∧ (s.mapMtx ≠ none → (s.step action).connections = s.connections)

/-- The loop drops its pointer when no operation or command thread owns the connection
any more, and the connection is not shut down. -/
def LastOwner (s : Broadcasts) : BroadcastAction → Prop
  | .dropConn thread =>
      match s.point thread with
      | .written connId _ => (s.conn connId).operations = 0 ∧ (s.conn connId).shutdown = false
      | _ => False
  | _ => False

/-! ## The invariant -/

/-- The mutex is held by the thread that is in the loop, and the shared pointers are
counted. -/
structure LoopInv (s : Broadcasts) : Prop where
  exclusive : ∀ thread, s.mapMtx = some thread ↔ (s.point thread).InLoop
  owned : ∀ thread connId, (s.point thread).Owns connId →
    (s.conn connId).useCount = (s.conn connId).operations + 1
  free : ∀ connId, (∀ thread, ¬ (s.point thread).Owns connId) →
    (s.conn connId).useCount = (s.conn connId).operations
  fresh : ∀ connId, s.connIdSeq ≤ connId → (s.conn connId).useCount = 0

theorem loopInv_start : LoopInv start where
  exclusive thread := by simp [start, InLoop]
  owned thread connId h := h.elim
  free connId _ := rfl
  fresh connId _ := rfl

/-- Another thread than the one in the loop. -/
theorem LoopInv.not_owns (h : LoopInv s) {thread other : ℕ} (hloop : (s.point thread).InLoop)
    (hne : other ≠ thread) (connId : ℕ) : ¬ (s.point other).Owns connId := by
  intro howns
  have hthread := (h.exclusive thread).mpr hloop
  have hother := (h.exclusive other).mpr howns.inLoop
  rw [hthread] at hother
  exact hne (Option.some.inj hother).symm

/-- A connection gains or loses an owner that is an operation. -/
theorem LoopInv.setConn (h : LoopInv s) {connId : ℕ} {conn : OwnedConnection}
    (hcount : (s.conn connId).useCount + conn.operations =
      (s.conn connId).operations + conn.useCount)
    (hfresh : s.connIdSeq ≤ connId → conn.useCount = 0) : LoopInv (s.setConn connId conn) where
  exclusive := h.exclusive
  owned thread c howns := by
    have hold := h.owned thread c howns
    by_cases hc : c = connId
    · subst hc
      rw [conn_setConn]
      omega
    · rwa [conn_setConn_of_ne hc]
  free c hnone := by
    have hold := h.free c hnone
    by_cases hc : c = connId
    · subst hc
      rw [conn_setConn]
      omega
    · rwa [conn_setConn_of_ne hc]
  fresh c hle := by
    by_cases hc : c = connId
    · subst hc
      rw [conn_setConn]
      exact hfresh hle
    · rw [conn_setConn_of_ne hc]
      exact h.fresh c hle

/-- A thread that stays out of the loop leaves the mutex alone. -/
theorem LoopInv.move (h : LoopInv s) {thread : ℕ} {point : BroadcastPoint}
    (hbefore : ¬ (s.point thread).InLoop) (hafter : ¬ point.InLoop) :
    LoopInv (s.move thread point) := by
  have howns (u c : ℕ) : ((s.move thread point).point u).Owns c ↔ (s.point u).Owns c := by
    by_cases hu : u = thread
    · subst hu
      rw [point_move]
      exact iff_of_false (fun ho => hafter ho.inLoop) (fun ho => hbefore ho.inLoop)
    · rw [point_move_of_ne hu]
  refine ⟨?_, ?_, ?_, h.fresh⟩
  · intro u
    by_cases hu : u = thread
    · subst hu
      rw [point_move]
      exact iff_of_false (fun hheld => hbefore ((h.exclusive u).mp hheld)) hafter
    · rw [point_move_of_ne hu]
      exact h.exclusive u
  · intro u c hu
    exact h.owned u c ((howns u c).mp hu)
  · intro c hfree
    exact h.free c fun u hu => hfree u ((howns u c).mpr hu)

/-- The thread in the loop goes on; a connection has the owners that are counted. -/
theorem LoopInv.inside (h : LoopInv s) {thread connId : ℕ} {point : BroadcastPoint}
    {conn : OwnedConnection} (hbefore : (s.point thread).InLoop) (hafter : point.InLoop)
    (hothers : ∀ c, c ≠ connId → ((s.point thread).Owns c ↔ point.Owns c))
    (howned : point.Owns connId → conn.useCount = conn.operations + 1)
    (hfree : ¬ point.Owns connId → conn.useCount = conn.operations)
    (hfresh : s.connIdSeq ≤ connId → conn.useCount = 0) :
    LoopInv ((s.setConn connId conn).move thread point) := by
  refine ⟨?_, ?_, ?_, ?_⟩
  · intro u
    by_cases hu : u = thread
    · subst hu
      rw [point_move]
      exact iff_of_true ((h.exclusive u).mpr hbefore) hafter
    · rw [point_move_of_ne hu]
      exact h.exclusive u
  · intro u c hu
    by_cases hthread : u = thread
    · subst hthread
      rw [point_move] at hu
      by_cases hc : c = connId
      · subst hc
        rw [conn_move, conn_setConn]
        exact howned hu
      · rw [conn_move, conn_setConn_of_ne hc]
        exact h.owned u c ((hothers c hc).mpr hu)
    · rw [point_move_of_ne hthread] at hu
      exact absurd hu (h.not_owns hbefore hthread c)
  · intro c hnone
    have hpoint := hnone thread
    rw [point_move] at hpoint
    by_cases hc : c = connId
    · subst hc
      rw [conn_move, conn_setConn]
      exact hfree hpoint
    · rw [conn_move, conn_setConn_of_ne hc]
      refine h.free c fun u hu => ?_
      by_cases hthread : u = thread
      · subst hthread
        exact hpoint ((hothers c hc).mp hu)
      · exact h.not_owns hbefore hthread c hu
  · intro c hle
    by_cases hc : c = connId
    · subst hc
      rw [conn_move, conn_setConn]
      exact hfresh hle
    · rw [conn_move, conn_setConn_of_ne hc]
      exact h.fresh c hle

/-- A connection that the loop owns is not expired, and has been made. -/
theorem LoopInv.owned_lt (h : LoopInv s) {thread connId : ℕ}
    (howns : (s.point thread).Owns connId) : connId < s.connIdSeq := by
  by_contra hge
  have hcount := h.owned thread connId howns
  have hzero := h.fresh connId (not_lt.mp hge)
  omega

theorem LoopInv.operations_le (h : LoopInv s) (connId : ℕ) :
    (s.conn connId).operations ≤ (s.conn connId).useCount := by
  by_cases howned : ∃ thread, (s.point thread).Owns connId
  · obtain ⟨thread, howns⟩ := howned
    have hcount := h.owned thread connId howns
    omega
  · exact (h.free connId (not_exists.mp howned)).ge

/-- The thread in the loop holds the mutex. -/
theorem LoopInv.held_of_eq (h : LoopInv s) {thread : ℕ} {point : BroadcastPoint}
    (hpoint : s.point thread = point) (hloop : point.InLoop) : s.mapMtx = some thread := by
  subst hpoint
  exact (h.exclusive thread).mpr hloop

/-- After the write, the loop is one owner more than the operations. -/
theorem LoopInv.useCount_written (h : LoopInv s) {thread connId : ℕ} {todo : List ℕ}
    (hpoint : s.point thread = .written connId todo) :
    (s.conn connId).useCount = (s.conn connId).operations + 1 := by
  refine h.owned thread connId ?_
  rw [hpoint]
  rfl

/-! ## Destructors -/

/-- The owner that goes last shuts the connection down, unless that is done. -/
theorem release_eq (s : Broadcasts) (thread connId : ℕ) (todo : Option (List ℕ)) :
    s.release thread connId todo =
      if (s.conn connId).useCount - 1 = 0 ∧ (s.conn connId).shutdown = false then
        (s.setConn connId
          { s.conn connId with useCount := (s.conn connId).useCount - 1, shutdown := true }).move
            thread (.erasing connId todo)
      else
        (s.setConn connId { s.conn connId with useCount := (s.conn connId).useCount - 1 }).move
          thread (resume todo) := by
  unfold release Broadcasts.shutdown
  simp only [conn_setConn, setConn_setConn]
  by_cases hlast : (s.conn connId).useCount - 1 = 0
  · cases hshut : (s.conn connId).shutdown <;> simp [hlast]
  · simp [hlast]

/-- `ComConnection::shutdown` on a thread outside of the loop. -/
theorem LoopInv.shutdown (h : LoopInv s) {thread connId : ℕ}
    (hidle : s.point thread = .idle) : LoopInv (s.shutdown thread connId none) := by
  have hout : ¬ (s.point thread).InLoop := by
    rw [hidle]
    exact id
  unfold Broadcasts.shutdown
  split_ifs
  · exact h.move hout id
  · have hset : LoopInv (s.setConn connId { s.conn connId with shutdown := true }) :=
      h.setConn (Nat.add_comm _ _) (h.fresh connId)
    exact hset.move hout id

/-- The end of an operation. -/
theorem LoopInv.endOperation (h : LoopInv s) {thread connId : ℕ}
    (hidle : s.point thread = .idle) (hpos : 0 < (s.conn connId).operations) :
    LoopInv ((s.setConn connId
      { s.conn connId with operations := (s.conn connId).operations - 1 }).release thread connId
        none) := by
  have hout : ¬ (s.point thread).InLoop := by
    rw [hidle]
    exact id
  have hle := h.operations_le connId
  have hset (shut : Bool) : LoopInv (s.setConn connId
      ⟨(s.conn connId).useCount - 1, (s.conn connId).operations - 1, shut⟩) := by
    refine h.setConn ?_ fun hfresh => ?_
    · show _ + ((s.conn connId).operations - 1) = _ + ((s.conn connId).useCount - 1)
      omega
    · have hzero := h.fresh connId hfresh
      show (s.conn connId).useCount - 1 = 0
      omega
  rw [release_eq]
  simp only [conn_setConn, setConn_setConn]
  split_ifs
  · exact (hset true).move hout id
  · exact (hset _).move hout id

/-- The loop drops its pointer. -/
theorem LoopInv.dropConn (h : LoopInv s) {thread connId : ℕ} {todo : List ℕ}
    (hpoint : s.point thread = .written connId todo) :
    LoopInv (s.release thread connId (some todo)) := by
  have hin : (s.point thread).InLoop := by
    rw [hpoint]
    trivial
  have hcount := h.useCount_written hpoint
  have hothers (point : BroadcastPoint) (hnone : ∀ c, ¬ point.Owns c) (c : ℕ)
      (hc : c ≠ connId) : (s.point thread).Owns c ↔ point.Owns c := by
    rw [hpoint]
    exact iff_of_false hc.symm (hnone c)
  have hinside (point : BroadcastPoint) (shut : Bool) (hloop : point.InLoop)
      (hnone : ∀ c, ¬ point.Owns c) : LoopInv ((s.setConn connId
        { s.conn connId with
          useCount := (s.conn connId).useCount - 1
          shutdown := shut }).move thread point) := by
    refine h.inside hin hloop (hothers point hnone) (fun howns => absurd howns (hnone connId)) ?_ ?_
    · intro _
      show (s.conn connId).useCount - 1 = (s.conn connId).operations
      omega
    · intro hfresh
      have hzero := h.fresh connId hfresh
      show (s.conn connId).useCount - 1 = 0
      omega
  rw [release_eq]
  split_ifs
  · exact hinside _ true trivial fun c => id
  · exact hinside (.iterating todo) _ trivial fun c => id

/-! ## Steps -/

/-- What a step does, with what it relies on. -/
inductive BroadcastStep (s : Broadcasts) : BroadcastAction → Broadcasts → Prop
  | stay (action : BroadcastAction) (hlast : ¬ s.LastOwner action) : BroadcastStep s action s
  | beginAccept : BroadcastStep s .beginAccept
      { s.setConn s.connIdSeq ⟨1, 1, false⟩ with connIdSeq := s.connIdSeq + 1 }
  | emplace (connId : ℕ) (hfree : s.mapMtx = none) : BroadcastStep s (.emplace connId)
      { s with connections := s.connections.orderedInsert (· ≤ ·) connId }
  | lockMap (thread : ℕ) (hfree : s.mapMtx = none) : BroadcastStep s (.lockMap thread)
      ({ s with mapMtx := some thread }.move thread (.iterating s.connections))
  /-- The weak pointer is expired. -/
  | skip (thread connId : ℕ) (todo : List ℕ)
      (hpoint : s.point thread = .iterating (connId :: todo)) :
      BroadcastStep s (.lockWeak thread) (s.move thread (.iterating todo))
  | lockWeak (thread connId : ℕ) (todo : List ℕ)
      (hpoint : s.point thread = .iterating (connId :: todo))
      (hlive : (s.conn connId).useCount ≠ 0) : BroadcastStep s (.lockWeak thread)
        ((s.setConn connId { s.conn connId with useCount := (s.conn connId).useCount + 1 }).move
          thread (.owning connId todo))
  | asyncWrite (thread connId : ℕ) (todo : List ℕ) (hpoint : s.point thread = .owning connId todo) :
      BroadcastStep s (.asyncWrite thread)
        ((s.setConn connId
          { s.conn connId with
            useCount := (s.conn connId).useCount + 1
            operations := (s.conn connId).operations + 1 }).move thread (.written connId todo))
  | dropConn (thread connId : ℕ) (todo : List ℕ) (hpoint : s.point thread = .written connId todo) :
      BroadcastStep s (.dropConn thread) (s.release thread connId (some todo))
  | unlockMap (thread : ℕ) (hpoint : s.point thread = .iterating []) :
      BroadcastStep s (.unlockMap thread) ({ s with mapMtx := none }.move thread .idle)
  | startOperation (connId : ℕ) (hlive : 0 < (s.conn connId).useCount) :
      BroadcastStep s (.startOperation connId)
        (s.setConn connId
          { s.conn connId with
            useCount := (s.conn connId).useCount + 1
            operations := (s.conn connId).operations + 1 })
  | endOperation (thread connId : ℕ) (hidle : s.point thread = .idle)
      (hpos : 0 < (s.conn connId).operations) : BroadcastStep s (.endOperation thread connId)
        ((s.setConn connId
          { s.conn connId with operations := (s.conn connId).operations - 1 }).release thread
            connId none)
  | shutdownConn (thread connId : ℕ) (hidle : s.point thread = .idle) :
      BroadcastStep s (.shutdownConn thread connId) (s.shutdown thread connId none)
  | eraseConnection (thread connId : ℕ) (todo : Option (List ℕ))
      (hpoint : s.point thread = .erasing connId todo) (hfree : s.mapMtx = none) :
      BroadcastStep s (.eraseConnection thread)
        ({ s with connections := s.connections.erase connId }.move thread (resume todo))

theorem broadcastStep_step (s : Broadcasts) (action : BroadcastAction) :
    BroadcastStep s action (s.step action) := by
  cases action with
  | beginAccept => exact .beginAccept
  | emplace connId =>
      simp only [step]
      split_ifs with hfree
      · exact .emplace connId hfree.1
      · exact .stay _ id
  | lockMap thread =>
      simp only [step]
      split_ifs with hfree
      · exact .lockMap thread hfree.1
      · exact .stay _ id
  | lockWeak thread =>
      simp only [step]
      split
      · rename_i connId todo hpoint
        split_ifs with hexpired
        · exact .skip thread connId todo hpoint
        · exact .lockWeak thread connId todo hpoint hexpired
      · exact .stay _ id
  | asyncWrite thread =>
      simp only [step]
      split
      · rename_i connId todo hpoint
        exact .asyncWrite thread connId todo hpoint
      · exact .stay _ id
  | dropConn thread =>
      simp only [step]
      split
      · rename_i connId todo hpoint
        exact .dropConn thread connId todo hpoint
      · refine .stay _ fun hlast => ?_
        simp only [LastOwner] at hlast
  | unlockMap thread =>
      simp only [step]
      split_ifs with hpoint
      · exact .unlockMap thread hpoint
      · exact .stay _ id
  | startOperation connId =>
      simp only [step]
      split_ifs with hlive
      · exact .startOperation connId hlive
      · exact .stay _ id
  | endOperation thread connId =>
      simp only [step]
      split_ifs with hends
      · exact .endOperation thread connId hends.1 hends.2
      · exact .stay _ id
  | shutdownConn thread connId =>
      simp only [step]
      split_ifs with hidle
      · exact .shutdownConn thread connId hidle.1
      · exact .stay _ id
  | eraseConnection thread =>
      simp only [step]
      split
      · rename_i connId todo hpoint
        split_ifs with hfree
        · exact .eraseConnection thread connId todo hpoint hfree
        · exact .stay _ id
      · exact .stay _ id

/-- `_beginAccept` makes a connection that the accept operation owns. -/
theorem LoopInv.beginAccept (h : LoopInv s) :
    LoopInv { s.setConn s.connIdSeq ⟨1, 1, false⟩ with connIdSeq := s.connIdSeq + 1 } where
  exclusive := h.exclusive
  owned thread connId howns := by
    have hne : connId ≠ s.connIdSeq := (h.owned_lt howns).ne
    show ((s.setConn s.connIdSeq ⟨1, 1, false⟩).conn connId).useCount =
      ((s.setConn s.connIdSeq ⟨1, 1, false⟩).conn connId).operations + 1
    rw [conn_setConn_of_ne hne]
    exact h.owned thread connId howns
  free connId hnone := by
    show ((s.setConn s.connIdSeq ⟨1, 1, false⟩).conn connId).useCount =
      ((s.setConn s.connIdSeq ⟨1, 1, false⟩).conn connId).operations
    by_cases hc : connId = s.connIdSeq
    · rw [hc, conn_setConn]
    · rw [conn_setConn_of_ne hc]
      exact h.free connId hnone
  fresh connId hle := by
    change s.connIdSeq + 1 ≤ connId at hle
    show ((s.setConn s.connIdSeq ⟨1, 1, false⟩).conn connId).useCount = 0
    rw [conn_setConn_of_ne (by omega)]
    exact h.fresh connId (by omega)

/-- While the mutex is free, no thread is in the loop. -/
theorem LoopInv.not_inLoop (h : LoopInv s) (hfree : s.mapMtx = none) (thread : ℕ) :
    ¬ (s.point thread).InLoop := by
  intro hloop
  have hheld := (h.exclusive thread).mpr hloop
  exact Option.some_ne_none thread (hheld.symm.trans hfree)

/-- A broadcast starts. -/
theorem LoopInv.lockMap (h : LoopInv s) (hfree : s.mapMtx = none) (thread : ℕ) :
    LoopInv ({ s with mapMtx := some thread }.move thread (.iterating s.connections)) := by
  have hpoint (u c : ℕ) : ¬ ((s.move thread (.iterating s.connections)).point u).Owns c := by
    by_cases hu : u = thread
    · rw [hu, point_move]
      exact id
    · rw [point_move_of_ne hu]
      exact fun howns => h.not_inLoop hfree u howns.inLoop
  refine ⟨fun u => ?_, fun u c howns => absurd howns (hpoint u c), fun c _ => ?_, h.fresh⟩
  · by_cases hu : u = thread
    · rw [hu, point_move]
      exact iff_of_true rfl trivial
    · rw [point_move_of_ne hu]
      exact iff_of_false (fun hheld => hu (Option.some.inj hheld).symm) (h.not_inLoop hfree u)
  · exact h.free c fun u howns => h.not_inLoop hfree u howns.inLoop

/-- At the head of the loop, the operations are the only owners. -/
theorem LoopInv.useCount_iterating (h : LoopInv s) {thread : ℕ} {todo : List ℕ}
    (hpoint : s.point thread = .iterating todo) (connId : ℕ) :
    (s.conn connId).useCount = (s.conn connId).operations := by
  refine h.free connId fun u howns => ?_
  by_cases hu : u = thread
  · rw [hu, hpoint] at howns
    exact howns
  · refine h.not_owns ?_ hu connId howns
    rw [hpoint]
    trivial

/-- The loop skips a connection that is gone. -/
theorem LoopInv.skip (h : LoopInv s) {thread connId : ℕ} {todo : List ℕ}
    (hpoint : s.point thread = .iterating (connId :: todo)) :
    LoopInv (s.move thread (.iterating todo)) := by
  have hcount := h.useCount_iterating hpoint connId
  have hskip : LoopInv ((s.setConn connId (s.conn connId)).move thread (.iterating todo)) := by
    refine h.inside ?_ trivial ?_ (fun howns => howns.elim) (fun _ => hcount) (h.fresh connId)
    · rw [hpoint]
      trivial
    · intro c _
      rw [hpoint]
      exact Iff.rfl
  rwa [setConn_self] at hskip

/-- The loop makes an owner. -/
theorem LoopInv.lockWeak (h : LoopInv s) {thread connId : ℕ} {todo : List ℕ}
    (hpoint : s.point thread = .iterating (connId :: todo))
    (hlive : (s.conn connId).useCount ≠ 0) :
    LoopInv ((s.setConn connId
      { s.conn connId with useCount := (s.conn connId).useCount + 1 }).move thread
        (.owning connId todo)) := by
  have hcount := h.useCount_iterating hpoint connId
  refine h.inside ?_ trivial ?_ ?_ ?_ ?_
  · rw [hpoint]
    trivial
  · intro c hc
    rw [hpoint]
    exact iff_of_false id hc.symm
  · intro _
    show (s.conn connId).useCount + 1 = (s.conn connId).operations + 1
    omega
  · exact fun hne => absurd rfl hne
  · exact fun hfresh => absurd (h.fresh connId hfresh) hlive

/-- The write of the broadcast is an operation that owns the connection. -/
theorem LoopInv.asyncWrite (h : LoopInv s) {thread connId : ℕ} {todo : List ℕ}
    (hpoint : s.point thread = .owning connId todo) :
    LoopInv ((s.setConn connId
      { s.conn connId with
        useCount := (s.conn connId).useCount + 1
        operations := (s.conn connId).operations + 1 }).move thread (.written connId todo)) := by
  have howns : (s.point thread).Owns connId := by
    rw [hpoint]
    rfl
  have hcount := h.owned thread connId howns
  refine h.inside howns.inLoop trivial ?_ ?_ ?_ ?_
  · intro c hc
    rw [hpoint]
    exact Iff.rfl
  · intro _
    show (s.conn connId).useCount + 1 = (s.conn connId).operations + 1 + 1
    omega
  · exact fun hne => absurd rfl hne
  · exact fun hfresh => absurd hfresh (not_le.mpr (h.owned_lt howns))

/-- The loop is over. -/
theorem LoopInv.unlockMap (h : LoopInv s) {thread : ℕ} (hpoint : s.point thread = .iterating []) :
    LoopInv ({ s with mapMtx := none }.move thread .idle) := by
  have hheld := h.held_of_eq hpoint trivial
  have hout (u : ℕ) : ¬ ((s.move thread .idle).point u).InLoop := by
    by_cases hu : u = thread
    · rw [hu, point_move]
      exact id
    · rw [point_move_of_ne hu]
      intro hloop
      have hother := (h.exclusive u).mpr hloop
      exact hu (Option.some.inj (hheld.symm.trans hother)).symm
  exact ⟨fun u => iff_of_false (Option.some_ne_none u).symm (hout u),
    fun u c howns => absurd howns.inLoop (hout u), fun c _ => h.useCount_iterating hpoint c,
    h.fresh⟩

/-- A destructor outside of the loop erases its connection. -/
theorem LoopInv.eraseConnection (h : LoopInv s) {thread connId : ℕ} {todo : Option (List ℕ)}
    (hpoint : s.point thread = .erasing connId todo) (hfree : s.mapMtx = none) :
    LoopInv ({ s with connections := s.connections.erase connId }.move thread (resume todo)) := by
  have hout := h.not_inLoop hfree thread
  have herased : LoopInv { s with connections := s.connections.erase connId } :=
    ⟨h.exclusive, h.owned, h.free, h.fresh⟩
  refine herased.move hout ?_
  cases todo with
  | none => exact id
  | some todo =>
      -- a destructor in the loop would hold the mutex
      refine absurd ?_ hout
      rw [hpoint]
      trivial

theorem LoopInv.startOperation (h : LoopInv s) {connId : ℕ}
    (hlive : 0 < (s.conn connId).useCount) :
    LoopInv (s.setConn connId
      { s.conn connId with
        useCount := (s.conn connId).useCount + 1
        operations := (s.conn connId).operations + 1 }) := by
  refine h.setConn ?_ fun hfresh => ?_
  · show _ + ((s.conn connId).operations + 1) = _ + ((s.conn connId).useCount + 1)
    omega
  · have hzero := h.fresh connId hfresh
    omega

theorem LoopInv.step (h : LoopInv s) {s' : Broadcasts} (hstep : BroadcastStep s action s') :
    LoopInv s' := by
  cases hstep with
  | stay => exact h
  | beginAccept => exact h.beginAccept
  | emplace => exact ⟨h.exclusive, h.owned, h.free, h.fresh⟩
  | lockMap thread hfree => exact h.lockMap hfree thread
  | skip thread connId todo hpoint => exact h.skip hpoint
  | lockWeak thread connId todo hpoint hlive => exact h.lockWeak hpoint hlive
  | asyncWrite thread connId todo hpoint => exact h.asyncWrite hpoint
  | dropConn thread connId todo hpoint => exact h.dropConn hpoint
  | unlockMap thread hpoint => exact h.unlockMap hpoint
  | startOperation connId hlive => exact h.startOperation hlive
  | endOperation thread connId hidle hpos => exact h.endOperation hidle hpos
  | shutdownConn thread connId hidle => exact h.shutdown hidle
  | eraseConnection thread connId todo hpoint hfree => exact h.eraseConnection hpoint hfree

/-! ## The mutex and the map -/

/-- The thread that is about to lock its own mutex runs a destructor in the loop. -/
theorem LoopInv.relocks_iff (h : LoopInv s) :
    s.Relocks ↔ ∃ thread, (s.point thread).InDestructor := by
  constructor
  · rintro ⟨thread, connId, todo, hpoint, hheld⟩
    refine ⟨thread, ?_⟩
    have hloop := (h.exclusive thread).mp hheld
    rw [hpoint] at hloop ⊢
    cases todo with
    | none => exact hloop
    | some todo => trivial
  · rintro ⟨thread, hinside⟩
    obtain ⟨connId, todo, hpoint⟩ := hinside.eq_erasing
    exact ⟨thread, connId, some todo, hpoint, h.held_of_eq hpoint trivial⟩

theorem inDestructor_of_move {thread other : ℕ} {point : BroadcastPoint}
    (hpoint : ¬ point.InDestructor) (h : ((s.move thread point).point other).InDestructor) :
    (s.point other).InDestructor := by
  by_cases hother : other = thread
  · rw [hother, point_move] at h
    exact absurd h hpoint
  · rwa [point_move_of_ne hother] at h

/-- An owner that goes on a thread outside of the loop starts no destructor in the loop. -/
theorem inDestructor_of_release {thread connId other : ℕ}
    (h : ((s.release thread connId none).point other).InDestructor) :
    (s.point other).InDestructor := by
  rw [release_eq] at h
  split_ifs at h
  · exact inDestructor_of_move id h
  · exact inDestructor_of_move id h

/-- The owner of the loop starts one when it is the last. -/
theorem LoopInv.inDestructor_of_dropConn (h : LoopInv s) {thread connId other : ℕ}
    {todo : List ℕ} (hpoint : s.point thread = .written connId todo)
    (hlast : ¬ ((s.conn connId).operations = 0 ∧ (s.conn connId).shutdown = false))
    (hafter : ((s.release thread connId (some todo)).point other).InDestructor) :
    (s.point other).InDestructor := by
  have hcount := h.useCount_written hpoint
  rw [release_eq, hcount, Nat.add_sub_cancel, if_neg hlast] at hafter
  exact inDestructor_of_move id hafter

theorem inDestructor_of_shutdown {thread connId other : ℕ}
    (h : ((s.shutdown thread connId none).point other).InDestructor) :
    (s.point other).InDestructor := by
  unfold Broadcasts.shutdown at h
  split_ifs at h
  · exact inDestructor_of_move id h
  · exact inDestructor_of_move id h

theorem LoopInv.inDestructor_of_step (h : LoopInv s) {s' : Broadcasts}
    (hstep : BroadcastStep s action s') (hlast : ¬ s.LastOwner action) {thread : ℕ}
    (hafter : (s'.point thread).InDestructor) : (s.point thread).InDestructor := by
  cases hstep with
  | stay => exact hafter
  | beginAccept => exact hafter
  | emplace => exact hafter
  | lockMap => exact inDestructor_of_move id hafter
  | skip => exact inDestructor_of_move id hafter
  | lockWeak => exact inDestructor_of_move id hafter
  | asyncWrite => exact inDestructor_of_move id hafter
  | dropConn other connId todo hpoint =>
      simp only [LastOwner, hpoint] at hlast
      exact h.inDestructor_of_dropConn hpoint hlast hafter
  | unlockMap => exact inDestructor_of_move id hafter
  | startOperation => exact hafter
  | endOperation =>
      have hbefore := inDestructor_of_release hafter
      exact hbefore
  | shutdownConn => exact inDestructor_of_shutdown hafter
  | eraseConnection other connId todo =>
      refine inDestructor_of_move ?_ hafter
      cases todo <;> exact id

/-- Where the loop drops the last owner, its thread locks the mutex again. -/
theorem LoopInv.relocks_of_lastOwner (h : LoopInv s) (hlast : s.LastOwner action) :
    (s.step action).Relocks := by
  cases action with
  | dropConn thread =>
      cases hpoint : s.point thread with
      | written connId todo =>
          simp only [LastOwner, hpoint] at hlast
          have hcount := h.useCount_written hpoint
          have hheld := h.held_of_eq hpoint trivial
          simp only [Broadcasts.step, hpoint]
          rw [release_eq, hcount, Nat.add_sub_cancel, if_pos hlast]
          exact ⟨thread, connId, some todo, point_move .., hheld⟩
      | idle => simp only [LastOwner, hpoint] at hlast
      | iterating => simp only [LastOwner, hpoint] at hlast
      | owning => simp only [LastOwner, hpoint] at hlast
      | erasing => simp only [LastOwner, hpoint] at hlast
  | _ => exact hlast.elim

/-- **The lock is entered again** by the step in which the loop drops the last owner. -/
theorem LoopInv.relocks_step_iff (h : LoopInv s) (hfree : ¬ s.Relocks) :
    (s.step action).Relocks ↔ s.LastOwner action := by
  constructor
  · intro hrelocks
    by_contra hlast
    have hstep := broadcastStep_step s action
    obtain ⟨thread, hafter⟩ := (h.step hstep).relocks_iff.mp hrelocks
    exact hfree (h.relocks_iff.mpr ⟨thread, h.inDestructor_of_step hstep hlast hafter⟩)
  · exact h.relocks_of_lastOwner

theorem connections_release (thread connId : ℕ) (todo : Option (List ℕ)) :
    (s.release thread connId todo).connections = s.connections := by
  rw [release_eq]
  split_ifs <;> rfl

/-- The map is changed under its mutex only. -/
theorem connections_step (hheld : s.mapMtx ≠ none) {s' : Broadcasts}
    (hstep : BroadcastStep s action s') : s'.connections = s.connections := by
  cases hstep with
  | emplace _ hfree => exact absurd hfree hheld
  | eraseConnection _ _ _ _ hfree => exact absurd hfree hheld
  | dropConn => exact connections_release ..
  | endOperation => exact connections_release ..
  | shutdownConn thread connId =>
      unfold Broadcasts.shutdown
      split_ifs <;> rfl
  | _ => rfl

/-! ## Runs -/

/-- **The lock and the map under broadcasts.**  In the runs in which no loop drops the
last owner of an open connection, and in no others, no thread locks `_mapMtx` while it
holds it and no step changes `_connections` while a broadcast goes over it. -/
theorem unentered_iff (actions : List BroadcastAction) :
    Always step Unentered start actions ↔
      Always step (fun s action => ¬ s.LastOwner action) start actions := by
  have hstart : start.LoopInv ∧ ¬ start.Relocks :=
    ⟨loopInv_start, fun ⟨_, _, _, hpoint, _⟩ => BroadcastPoint.noConfusion hpoint⟩
  constructor
  · refine Always.imp (fun s => s.LoopInv ∧ ¬ s.Relocks) (fun s action hs hstep => ?_) hstart
    exact ⟨⟨hs.1.step (broadcastStep_step s action), hstep.1⟩,
      fun hlast => hstep.1 (hs.1.relocks_of_lastOwner hlast)⟩
  · refine Always.imp (fun s => s.LoopInv ∧ ¬ s.Relocks) (fun s action hs hlast => ?_) hstart
    have hfree : ¬ (s.step action).Relocks := fun h => hlast ((hs.1.relocks_step_iff hs.2).mp h)
    have hstep := broadcastStep_step s action
    exact ⟨⟨hs.1.step hstep, hfree⟩, hfree, fun hheld => connections_step hheld hstep⟩

/-- The read and the write of the only connection end between the write of the loop
and the end of its iteration. -/
theorem not_unentered_lastOwner :
    ¬ Always step Unentered start
      [.beginAccept, .emplace 0, .startOperation 0, .endOperation 2 0, .lockMap 1, .lockWeak 1,
        .asyncWrite 1, .endOperation 2 0, .endOperation 2 0, .dropConn 1] := by
  intro h
  have hdrop := (always_iff_split _ _).mp h [.beginAccept, .emplace 0, .startOperation 0,
    .endOperation 2 0, .lockMap 1, .lockWeak 1, .asyncWrite 1, .endOperation 2 0,
    .endOperation 2 0] (.dropConn 1) [] rfl
  exact hdrop.1 ⟨1, 0, some [], by decide +kernel, by decide +kernel⟩

end Broadcasts

end M2Cell
