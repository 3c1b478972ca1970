import M2Cell.Server.ConnectionMap

/-!
# The no-connection fault

`_handleAccept` and `eraseConnection` read the size of the connection map under
`_mapMtx` and report it to the `FaultMgr` after they have released the mutex.  A
report sets the connection fault when the size is zero and resets it otherwise
(`commConnectionFault_report`, `crioCommFault_report`), so a run leaves the faults
of the report that came last (`faults_run`), whatever happened to the map since.

Nothing ensures that this report is the one that was read last: the second client
may be inserted and report its size before the thread that erased the first one
reports zero, and then the fault stays although a client is connected
(`not_agrees_overtaken`).

`InOrder` is the condition on the steps of a run that excludes this: a report is
made only when no report that was read before it is under way.  Under it the size
that was read last, whether it was reported or not, is the size of the map
(`card_of_inOrder`), and what is under way in the end is nothing, so it was
reported.  A connection that was accepted is reported some time
(`reported_of_emplace`); before the first report the fault is there, but the
summary does not show it.  `agrees_of_inOrder` puts these together for every state
of such a run.
-/

namespace M2Cell

namespace ConnectionMap

/-- When no report is under way, the connection fault is there exactly when the
map is empty, and then the summary shows it. -/
def Agrees (m : ConnectionMap) : Prop :=
  m.reports = [] →
    (m.commConnectionFault = true ↔ m.connections = ∅) ∧
      (m.connections = ∅ → m.crioCommFault = true)

instance (m : ConnectionMap) : Decidable m.Agrees :=
  inferInstanceAs (Decidable (_ → _ ∧ _))

/-- The size that was reported last in a run. -/
def lastReport (m : ConnectionMap) (actions : List ConnectionAction) : Option ℕ :=
  lastOutput step reported m actions

/-! ## What a report writes -/

theorem commConnectionFault_report (count : ℕ) (fm : FaultMgr) :
    (fm.reportComConnectionCount count).1.commConnectionFault = decide (count < 1) := by
  unfold FaultMgr.reportComConnectionCount
  dsimp only
  split_ifs with hfault
  · rfl
  · rfl

theorem crioCommFault_report (count : ℕ) (fm : FaultMgr) :
    Word.bit (fm.reportComConnectionCount count).1.getSummaryFaults FaultStatusBits.crioCommFault =
      decide (count < 1) := by
  have hmask : Word.bit FaultMgr.commMask FaultStatusBits.crioCommFault = true := by
    decide +kernel
  by_cases hcount : count < 1
  · simp [FaultMgr.reportComConnectionCount, FaultMgr.getSummaryFaults, hcount,
      BasicFaultMgr.setMaskComm, hmask]
  · simp [FaultMgr.reportComConnectionCount, FaultMgr.getSummaryFaults, hcount,
      FaultMgr.resetFaults, BasicFaultMgr.resetFaults, hmask]

/-- **One step**: a report writes both faults, and the map does not touch them. -/
theorem faults_step (m : ConnectionMap) (action : ConnectionAction) :
    ((m.step action).commConnectionFault, (m.step action).crioCommFault) =
      ((m.reported action).map fun size => (decide (size < 1), decide (size < 1))).getD
        (m.commConnectionFault, m.crioCommFault) := by
  cases action with
  | emplace connId => rfl
  | erase connId =>
      show ((m.erase connId).commConnectionFault, (m.erase connId).crioCommFault) = _
      unfold erase
      split_ifs <;> rfl
  | report connectionSize =>
      by_cases hmem : connectionSize ∈ m.reports
      · simp [step, report, reported, hmem, commConnectionFault, crioCommFault,
          commConnectionFault_report, crioCommFault_report]
      · simp [step, report, reported, hmem]

/-! ## Runs -/

section runs

variable (actions : List ConnectionAction)

/-- **The faults of a run** are those of its last report. -/
theorem faults_run :
    ((run step start actions).commConnectionFault,
        (run step start actions).crioCommFault) =
      ((lastReport start actions).map fun size =>
        (decide (size < 1), decide (size < 1))).getD (true, false) := by
  have hstart : (start.commConnectionFault, start.crioCommFault) = (true, false) := by
    simp [start, commConnectionFault, crioCommFault, FaultMgr.new, FaultMgr.getSummaryFaults,
      BasicFaultMgr.new]
  have hrun := view_run (fun m : ConnectionMap => (m.commConnectionFault, m.crioCommFault)) _
    faults_step start actions
  rw [hstart] at hrun
  exact hrun

/-- A change of the map leaves a report under way until the first report. -/
theorem connections_of_unreported (hlast : lastReport start actions = none)
    (hreports : (run step start actions).reports = []) :
    (run step start actions).connections = ∅ := by
  have hinv : (run step start actions).reports = [] →
      (run step start actions).connections = ∅ := by
    refine (always_of_lastOutput_eq_none hlast).invariant
      (fun m : ConnectionMap => m.reports = [] → m.connections = ∅) ?_ fun _ => rfl
    intro m action hm hnone
    cases action with
    | emplace connId => simp [step, emplace]
    | erase connId =>
        simp only [step, erase]
        split_ifs
        · simp
        · exact hm
    | report connectionSize =>
        by_cases hmem : connectionSize ∈ m.reports
        · simp [reported, hmem] at hnone
        · simpa [step, report, hmem] using hm
  exact hinv hreports

/-- **The fault agrees with the map** exactly when, once no report is under way, one was
made and the last one said zero for an empty map only. -/
theorem agrees_iff :
    (run step start actions).Agrees ↔
      ((run step start actions).reports = [] →
        ∃ size, lastReport start actions = some size ∧
          (size = 0 ↔ (run step start actions).connections = ∅)) := by
  have hfaults := faults_run actions
  rw [Prod.mk.injEq] at hfaults
  obtain ⟨hfault, hbit⟩ := hfaults
  unfold Agrees
  refine forall_congr' fun hreports => ?_
  rw [hfault, hbit]
  cases hlast : lastReport start actions with
  | none => simp [connections_of_unreported actions hlast hreports]
  | some size =>
      simp only [Option.map_some, Option.getD_some, decide_eq_true_eq, Nat.lt_one_iff,
        Option.some.injEq, exists_eq_left']
      exact ⟨fun h => h.1, fun h => ⟨h, h.mpr⟩⟩

end runs

/-! ## Reports in order -/

/-- A report is made before those that were read after it. -/
def InOrder (m : ConnectionMap) : ConnectionAction → Prop
  | .report connectionSize => ∀ first ∈ m.reports.head?, connectionSize = first
  | _ => True

instance (m : ConnectionMap) : DecidablePred m.InOrder := fun action =>
  match action with
  | .emplace _ => inferInstanceAs (Decidable True)
  | .erase _ => inferInstanceAs (Decidable True)
  | .report connectionSize =>
      inferInstanceAs (Decidable (∀ first ∈ m.reports.head?, connectionSize = first))

/-- In order, the size that was read last, reported or not, is the size of the map. -/
theorem card_of_inOrder {actions : List ConnectionAction}
    (horder : Always step InOrder start actions) :
    ((run step start actions).reports.getLast?.or
        (lastReport start actions)).getD 0 =
      (run step start actions).connections.card := by
  induction actions using List.reverseRecOn with
  | nil => rfl
  | append_singleton actions action ih =>
      rw [always_append] at horder
      obtain ⟨hbefore, hnow, -⟩ := horder
      have hprev := ih hbefore
      rw [run_concat, lastReport, lastOutput_concat, ← lastReport]
      generalize run step start actions = m at hprev hnow ⊢
      generalize lastReport start actions = last at hprev ⊢
      cases action with
      | emplace connId => simp [step, emplace]
      | erase connId =>
          simp only [step, erase, reported]
          split_ifs
          · simp
          · exact hprev
      | report connectionSize =>
          cases hreports : m.reports with
          | nil => simpa [step, report, reported, hreports] using hprev
          | cons first rest =>
              -- the first report is made
              have hfirst : connectionSize = first := hnow first (by rw [hreports]; rfl)
              subst hfirst
              rw [hreports] at hprev
              simp only [step, report, reported, hreports, List.mem_cons_self, if_true,
                List.erase_cons_head]
              rw [← hprev]
              cases rest using List.reverseRecOn with
              | nil => rfl
              | append_singleton rest size =>
                  rw [← List.cons_append, List.getLast?_concat, List.getLast?_concat]
                  rfl

/-- While nothing is reported, a report under way stays under way. -/
theorem reports_ne_nil_step {m : ConnectionMap} {action : ConnectionAction}
    (hreports : m.reports ≠ []) (hnone : m.reported action = none) :
    (m.step action).reports ≠ [] := by
  cases action with
  | emplace connId => simp [step, emplace]
  | erase connId =>
      simp only [step, erase]
      split_ifs
      · simp
      · exact hreports
  | report connectionSize =>
      by_cases hmem : connectionSize ∈ m.reports
      · simp [reported, hmem] at hnone
      · simpa [step, report, hmem] using hreports

/-- A connection that was accepted was reported, or its report is under way. -/
theorem reported_of_emplace {actions : List ConnectionAction} {connId : ℕ}
    (haccepted : ConnectionAction.emplace connId ∈ actions)
    (hreports : (run step start actions).reports = []) :
    lastReport start actions ≠ none := by
  intro hlast
  obtain ⟨before, after, rfl⟩ := List.append_of_mem haccepted
  have halways := (always_append start before (.emplace connId :: after)).mp
    (always_of_lastOutput_eq_none hlast)
  have hemplaced : ((run step start before).step (.emplace connId)).reports ≠ [] := by
    simp [step, emplace]
  -- from the insertion on, a report is under way
  have hrun := halways.2.2.invariant (fun m : ConnectionMap => m.reports ≠ [])
    (fun m action hne hnone => reports_ne_nil_step hne hnone) hemplaced
  rw [run_append, run_cons] at hreports
  exact hrun hreports

/-- **Reports in order**: a run whose reports are made in the order in which the sizes
were read keeps the fault in agreement with the map in every state it reaches, once a
connection was accepted. -/
theorem agrees_of_inOrder {first rest : List ConnectionAction}
    (horder : Always step InOrder start (first ++ rest)) {connId : ℕ}
    (haccepted : ConnectionAction.emplace connId ∈ first) :
    (run step start first).Agrees := by
  have hfirst := ((always_append start first rest).mp horder).1
  rw [agrees_iff]
  intro hreports
  obtain ⟨size, hsize⟩ :=
    Option.ne_none_iff_exists'.mp (reported_of_emplace haccepted hreports)
  have hcard := card_of_inOrder hfirst
  rw [hreports, hsize] at hcard
  refine ⟨size, hsize, ?_⟩
  rw [← Finset.card_eq_zero, ← hcard]
  rfl

/-- A client comes and leaves; a second one comes while the report that the first one
left is under way. -/
def inTurn : List ConnectionAction :=
  [.emplace 1, .report 1, .erase 1, .emplace 2, .report 0, .report 1]

/-- After the two reports the fault is gone again. -/
theorem agrees_inTurn : (run step start inTurn).Agrees := by
  have horder : Always step InOrder start (inTurn ++ []) := by decide +kernel
  have haccepted : ConnectionAction.emplace 1 ∈ inTurn := List.mem_cons_self
  exact agrees_of_inOrder horder haccepted

/-- The same, but the report of the second client is made first. -/
def overtaken : List ConnectionAction :=
  [.emplace 1, .report 1, .erase 1, .emplace 2, .report 1, .report 0]

/-- The connection fault stays while a client is connected. -/
theorem not_agrees_overtaken : ¬ (run step start overtaken).Agrees := by
  decide +kernel

end ConnectionMap

end M2Cell
