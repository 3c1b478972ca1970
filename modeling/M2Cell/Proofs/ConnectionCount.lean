import M2Cell.Server.ComServer
import M2Cell.Proofs.ConnectionFault
import Mathlib.Data.Finset.Card

/-!
# The two connection counters

`Globals::_tcpIpConnectedCount` counts the connections between the two calls of
`setTcpIpConnected` for them (`counted`), and the map holds those between
`emplace` and `eraseConnection` (`inMap`).  A connection that no thread works on is
counted exactly when it is in the map, unless its shutdown looked at
`_connectionActive` too early: then `beginProtocol` counts it after all, or its
shutdown counts it down first.

The first section is about one connection.  `Regular` says what `_connectionActive` and the
shutdown are at each point of the handler, and there is one lemma for each way in which a
connection moves on: `Regular.flagged`, `taken`, `uncounted` and `ended` for the shutdown,
`activeAt`, `begunAt` and `inactiveAt` for the handler.

The second section is about the server.  `Inv` says that every connection is regular, that the
map holds those in the map, and that the count is the number of the counted ones.  When one
connection moves (`Moved`) the invariant is kept if the count follows it (`Inv.moved`); this is
the only place where the counted connections are looked at as a set (`card_of_agree`).  Every
action is then a move of one connection, a new connection (`Inv.made`), or none of the server's
business (`Inv.congr`).  `inv_step` lists them, and `countersAgree_of_orderly` concludes for the
runs without a shutdown that comes too early.
-/

namespace M2Cell

/-! ## Connections -/

/-- The connection was put into the map. -/
def AcceptPoint.listed : AcceptPoint → Bool
  | absent => false
  | waiting => false
  | entered _ => false
  | refused => false
  | _ => true

/-- The connection was counted up. -/
def AcceptPoint.begun : AcceptPoint → Bool
  | counted => true
  | ending ok _ => ok
  | receiving => true
  | released ok => ok
  | _ => false

/-- The connection is in the map, and `beginProtocol` is to come. -/
def AcceptPoint.toBegin : AcceptPoint → Bool
  | inserted ok _ => ok
  | reported ok => ok
  | _ => false

/-- `_connectionActive` was not taken. -/
def ShutdownPoint.untaken : ShutdownPoint → Bool
  | .uncalled => true
  | flagged => true
  | _ => false

/-- The connection is not in the map any more. -/
def ShutdownPoint.removed : ShutdownPoint → Bool
  | erased _ => true
  | closed => true
  | _ => false

namespace ComConnection

variable {c : ComConnection}

/-- The connection is in the map. -/
def inMap (c : ComConnection) : Bool := c.accept.listed && !c.shutdown.removed

/-- The connection is counted. -/
def counted (c : ComConnection) : Bool :=
  c.accept.begun && (c.shutdown.untaken || c.shutdown == .counting)

/-- What `_connectionActive` and the shutdown say at each point of the handler. -/
structure Regular (c : ComConnection) : Prop where
  begun : c.accept.begun = true → c.connectionActive = c.shutdown.untaken
  active : c.accept = .active →
    c.connectionActive = c.shutdown.untaken ∧ (c.shutdown.untaken || c.shutdown == .counting) = true
  inactive : c.accept.begun = false → c.accept ≠ .active →
    c.connectionActive = false ∧ c.shutdown ≠ .counting
  toBegin : c.accept.toBegin = true → c.shutdown.untaken = true
  entered : ∀ ok, c.accept = .entered ok → c.shutdown = .uncalled
  listening : c.accept ≠ .ending false true

/-- No thread is in the middle of its steps.  The thread that releases the connection
goes on with the destructor. -/
def Quiet (c : ComConnection) : Prop :=
  match c.accept with
  | .absent => True
  | .waiting => c.shutdown = .uncalled ∨ c.shutdown = .closed
  | .receiving => c.shutdown = .uncalled ∨ c.shutdown = .closed
  | .refused => c.shutdown = .closed
  | .released _ => c.shutdown = .closed
  | _ => False

instance (c : ComConnection) : Decidable c.Quiet := by
  unfold Quiet
  split <;> infer_instance

/-- At rest, the connection is counted exactly when it is in the map. -/
theorem counted_eq_inMap (hregular : c.Regular) (hquiet : c.Quiet) : c.counted = c.inMap := by
  obtain ⟨accept, shutdown, connectionActive⟩ := c
  cases accept with
  | absent | waiting | refused => rfl
  | receiving =>
      rcases hquiet with huncalled | hclosed
      · cases huncalled
        rfl
      · cases hclosed
        rfl
  | released ok =>
      cases (show shutdown = .closed from hquiet)
      simp [counted, inMap, ShutdownPoint.untaken, ShutdownPoint.removed]
  | entered | inserted | reported | active | counted | ending => exact hquiet.elim

/-! ### What the steps of the handler do to a connection -/

theorem Regular.inactiveAt {point : AcceptPoint} (hinactive : c.connectionActive = false)
    (hcounting : c.shutdown ≠ .counting) (hbegun : point.begun = false) (hne : point ≠ .active)
    (htoBegin : point.toBegin = true → c.shutdown.untaken = true)
    (hentered : ∀ ok, point = .entered ok → c.shutdown = .uncalled)
    (hlistening : point ≠ .ending false true) : Regular { c with accept := point } where
  begun h := by
    simp only at h
    rw [hbegun] at h
    cases h
  active h := absurd h hne
  inactive _ _ := ⟨hinactive, hcounting⟩
  toBegin := htoBegin
  entered := hentered
  listening := hlistening

theorem regular_new : Regular .new :=
  ⟨nofun, nofun, fun _ _ => ⟨rfl, nofun⟩, nofun, nofun, nofun⟩

theorem regular_absent : Regular .absent :=
  ⟨nofun, nofun, fun _ _ => ⟨rfl, nofun⟩, nofun, nofun, nofun⟩

theorem Regular.activeAt {shutdown : ShutdownPoint} (huntaken : shutdown.untaken = true) :
    Regular ⟨.active, shutdown, true⟩ :=
  ⟨nofun, fun _ => by simp [huntaken], fun _ hne => absurd rfl hne, nofun, nofun, nofun⟩

theorem Regular.begunAt {point : AcceptPoint}
    (hactive : c.connectionActive = c.shutdown.untaken) (hbegun : point.begun = true) :
    Regular { c with accept := point } := by
  cases point with
  | counted | receiving =>
      exact ⟨fun _ => hactive, nofun, nofun, nofun, nofun, nofun⟩
  | ending ok listening =>
      have hok : ok = true := hbegun
      subst hok
      exact ⟨fun _ => hactive, nofun, nofun, nofun, nofun, nofun⟩
  | released ok =>
      have hok : ok = true := hbegun
      subst hok
      exact ⟨fun _ => hactive, nofun, nofun, nofun, nofun, nofun⟩
  | absent | waiting | entered | inserted | reported | active | refused => cases hbegun

/-! ### What the steps of a shutdown do to a connection -/

/-- The call leaves `_connectionActive` alone. -/
theorem Regular.flagged (hregular : c.Regular) (huncalled : c.shutdown = .uncalled)
    (hentered : ∀ ok, c.accept ≠ .entered ok) : Regular { c with shutdown := .flagged } where
  begun h := by rw [hregular.begun h, huncalled]; rfl
  active h := ⟨by rw [(hregular.active h).1, huncalled]; rfl, rfl⟩
  inactive h hne := ⟨(hregular.inactive h hne).1, nofun⟩
  toBegin _ := rfl
  entered ok h := absurd h (hentered ok)
  listening := hregular.listening

/-- `_connectionActive` is taken when `beginProtocol` is not to come. -/
theorem Regular.taken (hregular : c.Regular) (hflagged : c.shutdown = .flagged)
    (htoBegin : c.accept.toBegin = false) :
    Regular ⟨c.accept, if c.connectionActive then .counting else .erasing, false⟩ ∧
      counted ⟨c.accept, if c.connectionActive then .counting else .erasing, false⟩ =
        c.counted := by
  have hentered (ok : Bool) : c.accept ≠ .entered ok := by
    intro h
    rw [hregular.entered ok h] at hflagged
    cases hflagged
  have hactive (h : c.accept.begun = true ∨ c.accept = .active) : c.connectionActive = true := by
    rcases h with h | h
    · rw [hregular.begun h, hflagged]
      rfl
    · rw [(hregular.active h).1, hflagged]
      rfl
  -- one goal for each field of `Regular`, and the last for the count
  refine ⟨⟨fun h => ?_, fun h => ?_, fun h hne => ?_, fun h => ?_, fun ok h => ?_,
    hregular.listening⟩, ?_⟩
  · rw [hactive (Or.inl h)]
    rfl
  · rw [hactive (Or.inr h)]
    exact ⟨rfl, rfl⟩
  · rw [(hregular.inactive h hne).1]
    exact ⟨rfl, nofun⟩
  · simp only at h
    rw [htoBegin] at h
    cases h
  · exact absurd h (hentered ok)
  · by_cases h : c.accept.begun = true
    · simp [counted, h, hactive (Or.inl h), hflagged, ShutdownPoint.untaken]
    · simp [counted, h]

/-- A shutdown counts a connection down that was counted up. -/
theorem Regular.uncounted (hregular : c.Regular) (hcounting : c.shutdown = .counting)
    (hactive : c.accept ≠ .active) :
    Regular { c with shutdown := .erasing } ∧ c.counted = true ∧
      counted { c with shutdown := .erasing } = false := by
  have hbegun : c.accept.begun = true := by
    by_contra h
    exact (hregular.inactive (Bool.eq_false_of_not_eq_true h) hactive).2 hcounting
  refine ⟨⟨fun h => ?_, fun h => absurd h hactive, fun h => ?_, fun h => ?_, fun ok h => ?_,
    hregular.listening⟩, ?_, ?_⟩
  · rw [hregular.begun h, hcounting]
    rfl
  · rw [hbegun] at h
    cases h
  · have huntaken := hregular.toBegin h
    rw [hcounting] at huntaken
    cases huntaken
  · rw [hregular.entered ok h] at hcounting
    cases hcounting
  · simp [counted, hbegun, hcounting]
  · simp [counted, ShutdownPoint.untaken]

/-- The end of a shutdown, after the count. -/
theorem Regular.ended (hregular : c.Regular) (point : ShutdownPoint)
    (hafter : (c.shutdown.untaken || c.shutdown == .counting) = false)
    (hpoint : (point.untaken || point == .counting) = false) :
    Regular { c with shutdown := point } ∧ c.counted = false ∧
      counted { c with shutdown := point } = false := by
  rw [Bool.or_eq_false_iff, beq_eq_false_iff_ne] at hpoint
  have huntaken : c.shutdown.untaken = false := (Bool.or_eq_false_iff.mp hafter).1
  refine ⟨⟨fun h => ?_, fun h => ?_, fun h hne => ?_, fun h => ?_, fun ok h => ?_,
    hregular.listening⟩, by simp [counted, hafter], by simp [counted, hpoint]⟩
  · rw [hregular.begun h, huntaken, hpoint.1]
  · rw [(hregular.active h).2] at hafter
    cases hafter
  · exact ⟨(hregular.inactive h hne).1, hpoint.2⟩
  · rw [hregular.toBegin h] at huntaken
    cases huntaken
  · rw [hregular.entered ok h] at huntaken
    cases huntaken

theorem ne_absent_of_accept (h : c.accept ≠ .absent) : c ≠ .absent := by
  rintro rfl
  exact h rfl

theorem ne_absent_of_shutdown (h : c.shutdown ≠ .uncalled) : c ≠ .absent := by
  rintro rfl
  exact h rfl

theorem inMap_of_counted (h : c.counted = true) : c.inMap = true := by
  obtain ⟨accept, shutdown, connectionActive⟩ := c
  cases shutdown with
  | uncalled | flagged | counting =>
      cases accept <;> simp_all [counted, inMap, AcceptPoint.begun, AcceptPoint.listed,
        ShutdownPoint.untaken, ShutdownPoint.removed]
  | erasing | erased | closed => simp [counted, ShutdownPoint.untaken] at h

end ComConnection

/-! ## The server -/

/-- The size of a set after a change at one element. -/
theorem card_of_agree {κ : Type*} [DecidableEq κ] (first second : Finset κ) (k : κ)
    (hother : ∀ other, other ≠ k → (other ∈ second ↔ other ∈ first)) :
    (second.card : ℤ) =
      first.card + ((if k ∈ second then 1 else 0) - (if k ∈ first then 1 else 0)) := by
  -- without the one element the sets are the same
  have herase : second.erase k = first.erase k := by
    ext other
    rw [Finset.mem_erase, Finset.mem_erase]
    exact and_congr_right (hother other)
  have hcard (set : Finset κ) : (set.card : ℤ) = (set.erase k).card + if k ∈ set then 1 else 0 := by
    by_cases hmem : k ∈ set
    · rw [if_pos hmem, ← Finset.card_erase_add_one hmem]
      push_cast
      rfl
    · rw [if_neg hmem, Finset.erase_eq_of_notMem hmem, add_zero]
  rw [hcard second, hcard first, herase]
  omega

namespace ComServer

/-- The counted connections. -/
def countedConns (s : ComServer) : Finset ℕ :=
  s.connections.filter fun connId => (s.conn connId).counted = true

/-- What holds in every state of a run of orderly steps. -/
structure Inv (s : ComServer) : Prop where
  regular : ∀ connId, (s.conn connId).Regular
  mem_iff : ∀ connId, connId ∈ s.connections ↔ (s.conn connId).inMap = true
  vect : ∀ connId ∈ s.vect, (s.conn connId).accept.listed = true
  absent : ∀ connId, s.connIdSeq ≤ connId → s.conn connId = .absent
  count : s.globals.tcpIpConnectedCount = s.countedConns.card

/-- A connection moves on, and the rest of the server stays as it is. -/
structure Moved (connId : ℕ) (c : ComConnection) (s r : ComServer) : Prop where
  conn : r.conn = Function.update s.conn connId c
  connections : ∀ other, other ≠ connId → (other ∈ r.connections ↔ other ∈ s.connections)
  vect : r.vect ⊆ s.vect
  connIdSeq : r.connIdSeq = s.connIdSeq

variable {s r : ComServer} {connId : ℕ} {c : ComConnection}

theorem Inv.mem_countedConns (hs : s.Inv) :
    connId ∈ s.countedConns ↔ (s.conn connId).counted = true := by
  rw [countedConns, Finset.mem_filter, hs.mem_iff]
  exact and_iff_right_of_imp ComConnection.inMap_of_counted

/-- **A move keeps the invariant** when the count follows the connection. -/
theorem Inv.moved (hs : s.Inv) (connId : ℕ) (c : ComConnection) (hmoved : Moved connId c s r)
    (hne : s.conn connId ≠ .absent)
    (hregular : c.Regular) (hlisted : (s.conn connId).accept.listed = true → c.accept.listed = true)
    (hmem : connId ∈ r.connections ↔ c.inMap = true)
    (hcount : r.globals.tcpIpConnectedCount = s.globals.tcpIpConnectedCount +
      ((if c.counted = true then 1 else 0) - (if (s.conn connId).counted = true then 1 else 0))) :
    r.Inv := by
  have hself : r.conn connId = c := by rw [hmoved.conn, Function.update_self]
  have hother {other : ℕ} (h : other ≠ connId) : r.conn other = s.conn other := by
    rw [hmoved.conn, Function.update_of_ne h]
  have hmem_iff (other : ℕ) : other ∈ r.connections ↔ (r.conn other).inMap = true := by
    by_cases h : other = connId
    · rw [h, hself, hmem]
    · rw [hother h, hmoved.connections other h, hs.mem_iff]
  refine ⟨fun other => ?_, hmem_iff, fun other hvect => ?_, fun other hle => ?_, ?_⟩
  · by_cases h : other = connId
    · rw [h, hself]
      exact hregular
    · rw [hother h]
      exact hs.regular other
  · have hold := hs.vect other (hmoved.vect hvect)
    by_cases h : other = connId
    · subst h
      rw [hself]
      exact hlisted hold
    · rwa [hother h]
  · rw [hmoved.connIdSeq] at hle
    have h : other ≠ connId := by
      rintro rfl
      exact hne (hs.absent other hle)
    rw [hother h]
    exact hs.absent other hle
  -- the sets of the counted connections differ in `connId` at most
  · have hcounted (other : ℕ) : other ∈ r.countedConns ↔ (r.conn other).counted = true := by
      rw [countedConns, Finset.mem_filter, hmem_iff]
      exact and_iff_right_of_imp ComConnection.inMap_of_counted
    have hcard := card_of_agree s.countedConns r.countedConns connId fun other h => by
      rw [hcounted, hs.mem_countedConns, hother h]
    simp only [hcounted, hself, hs.mem_countedConns] at hcard
    rw [hcount, hs.count, hcard]

/-- The invariant does not see the reports and the system. -/
theorem Inv.congr (hs : s.Inv) (hconn : r.conn = s.conn) (hconnections : r.connections = s.connections)
    (hvect : r.vect ⊆ s.vect) (hseq : r.connIdSeq = s.connIdSeq)
    (hcount : r.globals.tcpIpConnectedCount = s.globals.tcpIpConnectedCount) : r.Inv where
  regular := by
    rw [hconn]
    exact hs.regular
  mem_iff := by
    rw [hconn, hconnections]
    exact hs.mem_iff
  vect := by
    intro connId hmem
    rw [hconn]
    exact hs.vect connId (hvect hmem)
  absent := by
    rw [hconn, hseq]
    exact hs.absent
  count := by
    rw [hcount, hs.count, countedConns, countedConns, hconn, hconnections]

theorem Inv.report (hs : s.Inv) (connectionSize : ℕ) (clock : Clocks) :
    (s.report connectionSize clock).Inv := by
  unfold ComServer.report
  split_ifs
  · exact hs.congr rfl rfl (Finset.Subset.refl _) rfl rfl
  · exact hs

@[simp] theorem conn_report (connectionSize : ℕ) (clock : Clocks) :
    (s.report connectionSize clock).conn = s.conn := by
  unfold report
  split_ifs <;> rfl

/-- A move in the handler that neither lists nor counts the connection. -/
theorem Inv.moveAccept (hs : s.Inv) {point : AcceptPoint} (hne : (s.conn connId).accept ≠ .absent)
    (hregular : ComConnection.Regular { s.conn connId with accept := point })
    (hlisted : point.listed = (s.conn connId).accept.listed)
    (hbegun : point.begun = (s.conn connId).accept.begun) : (s.moveAccept connId point).Inv := by
  have hinMap : ComConnection.inMap { s.conn connId with accept := point } =
      (s.conn connId).inMap := by
    simp only [ComConnection.inMap, hlisted]
  have hcounted : ComConnection.counted { s.conn connId with accept := point } =
      (s.conn connId).counted := by
    simp only [ComConnection.counted, hbegun]
  refine hs.moved connId _ ⟨rfl, fun _ _ => Iff.rfl, Finset.Subset.refl _, rfl⟩ ?_ hregular ?_ ?_ ?_
  · exact ComConnection.ne_absent_of_accept hne
  · exact fun h => hlisted.trans h
  · rw [hinMap]
    exact hs.mem_iff connId
  · rw [hcounted, sub_self, add_zero]
    rfl

/-! ## Orderly runs -/

/-- A shutdown takes `_connectionActive` neither between the insertion and
`beginProtocol`, nor does it count down before `beginProtocol` has counted up. -/
def Orderly (s : ComServer) : ServerAction → Prop
  | .takeActive connId =>
      (s.conn connId).shutdown = .flagged → (s.conn connId).accept.toBegin = false
  | .countDown connId _ => (s.conn connId).shutdown = .counting → (s.conn connId).accept ≠ .active
  | _ => True

instance (s : ComServer) (action : ServerAction) : Decidable (s.Orderly action) := by
  unfold Orderly
  split <;> infer_instance

/-! ### The accept handler -/

theorem Inv.handleAccept (hs : s.Inv) (connId : ℕ) (ok : Bool) :
    (s.step (.handleAccept connId ok)).Inv := by
  by_cases h : (s.conn connId).accept = .waiting ∧ (s.conn connId).shutdown = .uncalled
  · obtain ⟨hwaiting, huncalled⟩ := h
    obtain ⟨hinactive, hcounting⟩ := (hs.regular connId).inactive (by rw [hwaiting]; rfl)
      (by simp [hwaiting])
    rw [step, if_pos ⟨hwaiting, huncalled⟩]
    split_ifs
    · exact hs.moveAccept (by simp [hwaiting])
        (.inactiveAt hinactive hcounting rfl (by simp) (by simp [AcceptPoint.toBegin])
          (by simp) (by simp))
        (by rw [hwaiting]; rfl) (by rw [hwaiting]; rfl)
    · exact hs.moveAccept (by simp [hwaiting])
        (.inactiveAt hinactive hcounting rfl (by simp) (by simp [AcceptPoint.toBegin])
          (fun _ _ => huncalled) (by simp))
        (by rw [hwaiting]; rfl) (by rw [hwaiting]; rfl)
  · rwa [step, if_neg h]

theorem Inv.emplace (hs : s.Inv) (connId : ℕ) : (s.step (.emplace connId)).Inv := by
  cases haccept : (s.conn connId).accept with
  | entered ok =>
      have huncalled := (hs.regular connId).entered ok haccept
      have huntaken : (s.conn connId).shutdown.untaken = true := by rw [huncalled]; rfl
      obtain ⟨hinactive, hcounting⟩ := (hs.regular connId).inactive (by rw [haccept]; rfl)
        (by simp [haccept])
      simp only [step, haccept]
      refine hs.moved connId _ ⟨rfl, ?_, Finset.Subset.refl _, rfl⟩ ?_ ?_ (fun _ => rfl) ?_ ?_
      · intro other hother
        simp [ComServer.moveAccept, setMap, map, ConnectionMap.emplace, hother]
      · exact ComConnection.ne_absent_of_accept (by simp [haccept])
      · exact .inactiveAt hinactive hcounting rfl (by simp) (fun _ => huntaken) (by simp) (by simp)
      · simp [ComServer.moveAccept, setMap, map, ConnectionMap.emplace, ComConnection.inMap,
          AcceptPoint.listed, huncalled, ShutdownPoint.removed]
      · simp [ComServer.moveAccept, setMap, ComConnection.counted, AcceptPoint.begun, haccept]
  | _ => simpa only [step, haccept] using hs

theorem Inv.reportAccept (hs : s.Inv) (connId : ℕ) (clock : Clocks) :
    (s.step (.reportAccept connId clock)).Inv := by
  cases haccept : (s.conn connId).accept with
  | inserted ok connectionSize =>
      obtain ⟨hinactive, hcounting⟩ := (hs.regular connId).inactive (by rw [haccept]; rfl)
        (by simp [haccept])
      have huntaken (hok : ok = true) : (s.conn connId).shutdown.untaken = true :=
        (hs.regular connId).toBegin (by rw [haccept]; exact hok)
      simp only [step, haccept]
      apply (hs.report connectionSize clock).moveAccept
      · simp [conn_report, haccept]
      · rw [conn_report]
        exact .inactiveAt hinactive hcounting rfl (by simp) huntaken (by simp) (by simp)
      · rw [conn_report, haccept]
        rfl
      · rw [conn_report, haccept]
        rfl
  | _ => simpa only [step, haccept] using hs

theorem Inv.setActive (hs : s.Inv) (connId : ℕ) : (s.step (.setActive connId)).Inv := by
  by_cases h : (s.conn connId).accept = .reported true
  · have huntaken := (hs.regular connId).toBegin (by rw [h]; rfl)
    rw [step, if_pos h]
    refine hs.moved connId ⟨.active, (s.conn connId).shutdown, true⟩
      ⟨?_, fun _ _ => Iff.rfl, Finset.Subset.refl _, rfl⟩ ?_ ?_ (fun _ => rfl) ?_ ?_
    · simp [ComServer.moveAccept, setConnectionActive]
    · exact ComConnection.ne_absent_of_accept (by simp [h])
    · exact .activeAt huntaken
    · refine (hs.mem_iff connId).trans ?_
      simp [ComConnection.inMap, h, AcceptPoint.listed]
    · simp [ComServer.moveAccept, setConnectionActive, ComConnection.counted, h,
        AcceptPoint.begun]
  · rwa [step, if_neg h]

theorem Inv.countUp (hs : s.Inv) (connId : ℕ) (clock : Clocks) :
    (s.step (.countUp connId clock)).Inv := by
  by_cases h : (s.conn connId).accept = .active
  · -- the shutdown has not counted it down
    obtain ⟨hactive, huncounted⟩ := (hs.regular connId).active h
    rw [step, if_pos h]
    refine hs.moved connId { s.conn connId with accept := .counted }
      ⟨rfl, fun _ _ => Iff.rfl, Finset.Subset.refl _, rfl⟩ ?_ (.begunAt hactive rfl)
      (fun _ => rfl) ?_ ?_
    · exact ComConnection.ne_absent_of_accept (by simp [h])
    · refine (hs.mem_iff connId).trans ?_
      simp [ComConnection.inMap, h, AcceptPoint.listed]
    · simp [ComServer.moveAccept, setTcpIpConnected, Globals.setTcpIpConnected,
        Globals.countAfter, ComConnection.counted, h, AcceptPoint.begun, huncounted]
  · rwa [step, if_neg h]

theorem Inv.finish (hs : s.Inv) (connId : ℕ) : (s.step (.finish connId)).Inv := by
  cases haccept : (s.conn connId).accept with
  | counted =>
      have hactive := (hs.regular connId).begun (by rw [haccept]; rfl)
      simp only [step, haccept]
      exact hs.moveAccept (by simp [haccept]) (.begunAt hactive rfl) (by rw [haccept]; rfl)
        (by rw [haccept]; rfl)
  | reported ok =>
      cases ok with
      | true => simpa only [step, haccept] using hs
      | false =>
          obtain ⟨hinactive, hcounting⟩ := (hs.regular connId).inactive (by rw [haccept]; rfl)
            (by simp [haccept])
          simp only [step, haccept]
          exact hs.moveAccept (by simp [haccept])
            (.inactiveAt hinactive hcounting rfl (by simp) (by simp [AcceptPoint.toBegin])
          (by simp) (by simp))
            (by rw [haccept]; rfl) (by rw [haccept]; rfl)
  | _ => simpa only [step, haccept] using hs

/-- A new connection is neither in the map nor counted. -/
theorem Inv.made (hs : s.Inv) (hconnections : r.connections = s.connections) (hvect : r.vect = s.vect)
    (hnew : r.conn s.connIdSeq = .new)
    (hother : ∀ connId, connId ≠ s.connIdSeq → r.conn connId = s.conn connId)
    (hseq : r.connIdSeq = s.connIdSeq + 1)
    (hcount : r.globals.tcpIpConnectedCount = s.globals.tcpIpConnectedCount) : r.Inv := by
  -- the number of the new connection was never used before
  have habsent : s.conn s.connIdSeq = .absent := hs.absent s.connIdSeq (le_refl _)
  have hnotMem : s.connIdSeq ∉ s.connections := by
    rw [hs.mem_iff, habsent]
    exact Bool.false_ne_true
  refine ⟨fun connId => ?_, fun connId => ?_, fun connId hmem => ?_, fun connId hle => ?_, ?_⟩
  · by_cases h : connId = s.connIdSeq
    · rw [h, hnew]
      exact ComConnection.regular_new
    · rw [hother connId h]
      exact hs.regular connId
  · rw [hconnections]
    by_cases h : connId = s.connIdSeq
    · rw [h, hnew]
      exact iff_of_false hnotMem Bool.false_ne_true
    · rw [hother connId h]
      exact hs.mem_iff connId
  · rw [hvect] at hmem
    have hlisted := hs.vect connId hmem
    have h : connId ≠ s.connIdSeq := by
      rintro rfl
      rw [habsent] at hlisted
      cases hlisted
    rw [hother connId h]
    exact hlisted
  · rw [hseq] at hle
    have h : connId ≠ s.connIdSeq := by omega
    rw [hother connId h]
    exact hs.absent connId (by omega)
  · have hcounted : r.countedConns = s.countedConns := by
      unfold countedConns
      rw [hconnections]
      apply Finset.filter_congr
      intro connId hmem
      have h : connId ≠ s.connIdSeq := by
        rintro rfl
        exact hnotMem hmem
      rw [hother connId h]
    rw [hcount, hs.count, hcounted]

theorem Inv.makeConnection (hs : s.Inv) : s.beginAccept.Inv := by
  unfold ComServer.beginAccept
  split_ifs
  · exact hs
  · exact hs.made rfl rfl (Function.update_self _ _ _)
      (fun connId h => Function.update_of_ne h _ _) rfl rfl

theorem Inv.beginAccept (hs : s.Inv) (connId : ℕ) : (s.step (.beginAccept connId)).Inv := by
  have hregular := hs.regular connId
  cases haccept : (s.conn connId).accept with
  | ending ok listening =>
      simp only [step, haccept]
      apply Inv.makeConnection
      cases ok with
      | true =>
          have hactive := hregular.begun (by rw [haccept]; rfl)
          split_ifs
          · exact hs.moveAccept (by simp [haccept]) (.begunAt hactive rfl)
              (by rw [haccept]; rfl) (by rw [haccept]; rfl)
          · exact hs.moveAccept (by simp [haccept]) (.begunAt hactive rfl)
              (by rw [haccept]; rfl) (by rw [haccept]; rfl)
      | false =>
          obtain ⟨hinactive, hcounting⟩ := hregular.inactive (by rw [haccept]; rfl)
            (by simp [haccept])
          split_ifs with hlistening
          · -- only a connection that was accepted listens
            rw [hlistening] at haccept
            exact absurd haccept hregular.listening
          · exact hs.moveAccept (by simp [haccept])
              (.inactiveAt hinactive hcounting rfl (by simp) (by simp [AcceptPoint.toBegin])
          (by simp) (by simp))
              (by rw [haccept]; rfl) (by rw [haccept]; rfl)
  | _ => simpa only [step, haccept] using hs

theorem Inv.release (hs : s.Inv) (connId : ℕ) : (s.step (.release connId)).Inv := by
  by_cases h : (s.conn connId).accept = .receiving
  · have hactive := (hs.regular connId).begun (by rw [h]; rfl)
    rw [step, if_pos h]
    exact hs.moveAccept (by simp [h]) (.begunAt hactive rfl) (by rw [h]; rfl) (by rw [h]; rfl)
  · rwa [step, if_neg h]

/-! ### The shutdown of a connection -/

/-- A step of the shutdown before the connection leaves the map. -/
theorem Inv.moveShutdown (hs : s.Inv) (hconn : r.conn = Function.update s.conn connId c)
    (hconnections : r.connections = s.connections) (hvect : r.vect ⊆ s.vect)
    (hseq : r.connIdSeq = s.connIdSeq) (hne : s.conn connId ≠ .absent) (hregular : c.Regular)
    (haccept : c.accept = (s.conn connId).accept)
    (hremoved : c.shutdown.removed = (s.conn connId).shutdown.removed)
    (hcount : r.globals.tcpIpConnectedCount = s.globals.tcpIpConnectedCount +
      ((if c.counted = true then 1 else 0) - (if (s.conn connId).counted = true then 1 else 0))) :
    r.Inv := by
  refine hs.moved connId c ⟨hconn, ?_, hvect, hseq⟩ hne hregular ?_ ?_ hcount
  · intro other _
    rw [hconnections]
  · rw [haccept]
    exact id
  · rw [hconnections, hs.mem_iff, ComConnection.inMap, ComConnection.inMap, haccept, hremoved]

theorem Inv.shutdownConn (hs : s.Inv) (hne : s.conn connId ≠ .absent)
    (hentered : ∀ ok, (s.conn connId).accept ≠ .entered ok) : (s.shutdownConn connId).Inv := by
  unfold ComServer.shutdownConn
  split_ifs with h
  · refine hs.moveShutdown rfl rfl (Finset.Subset.refl _) rfl hne
      ((hs.regular connId).flagged h hentered) rfl (by rw [h]; rfl) ?_
    simp [ComConnection.counted, h, ShutdownPoint.untaken, ComServer.moveShutdown]
  · exact hs

theorem Inv.destroy (hs : s.Inv) (connId : ℕ) : (s.step (.destroy connId)).Inv := by
  cases haccept : (s.conn connId).accept with
  | waiting | refused | released =>
      simp only [step, haccept]
      exact hs.shutdownConn (ComConnection.ne_absent_of_accept (by simp [haccept]))
        (by simp [haccept])
  | _ => simpa only [step, haccept] using hs

theorem Inv.shutdownCopied (hs : s.Inv) (connId : ℕ) : (s.step (.shutdownConn connId)).Inv := by
  by_cases hmem : connId ∈ s.vect
  · have hlisted := hs.vect connId hmem
    have herased : Inv { s with vect := s.vect.erase connId } :=
      hs.congr rfl rfl (Finset.erase_subset _ _) rfl rfl
    rw [step, if_pos hmem]
    apply herased.shutdownConn
    · intro habsent
      simp only at habsent
      rw [habsent] at hlisted
      cases hlisted
    · intro ok hentered
      simp only at hentered
      rw [hentered] at hlisted
      cases hlisted
  · rwa [step, if_neg hmem]

theorem Inv.takeActive (hs : s.Inv) (connId : ℕ) (horderly : s.Orderly (.takeActive connId)) :
    (s.step (.takeActive connId)).Inv := by
  by_cases h : (s.conn connId).shutdown = .flagged
  · obtain ⟨hregular, hcounted⟩ := (hs.regular connId).taken h (horderly h)
    rw [step, if_pos h]
    refine hs.moveShutdown ?_ rfl (Finset.Subset.refl _) rfl ?_ hregular rfl ?_ ?_
    · simp [ComServer.moveShutdown, setConnectionActive]
    · exact ComConnection.ne_absent_of_shutdown (by simp [h])
    · rw [h]
      split_ifs <;> rfl
    · rw [hcounted, sub_self, add_zero]
      rfl
  · rwa [step, if_neg h]

theorem Inv.countDown (hs : s.Inv) (connId : ℕ) (clock : Clocks)
    (horderly : s.Orderly (.countDown connId clock)) :
    (s.step (.countDown connId clock)).Inv := by
  by_cases h : (s.conn connId).shutdown = .counting
  · obtain ⟨hregular, hcounted, huncounted⟩ := (hs.regular connId).uncounted h (horderly h)
    rw [step, if_pos h]
    refine hs.moveShutdown rfl rfl (Finset.Subset.refl _) rfl ?_ hregular rfl (by rw [h]; rfl) ?_
    · exact ComConnection.ne_absent_of_shutdown (by simp [h])
    · show s.globals.tcpIpConnectedCount - 1 = s.globals.tcpIpConnectedCount +
        ((if ComConnection.counted { s.conn connId with shutdown := .erasing } = true then 1
          else 0) - (if (s.conn connId).counted = true then 1 else 0))
      rw [hcounted, huncounted]
      rfl
  · rwa [step, if_neg h]

/-- Both ends of `eraseConnection` leave the connection out of the map. -/
theorem Inv.eraseConnection (hs : s.Inv) (connId : ℕ) :
    (s.step (.eraseConnection connId)).Inv := by
  by_cases h : (s.conn connId).shutdown = .erasing
  -- whether there is a report to come or not, the connection is out of the map
  · have hends (point : ShutdownPoint) (hremoved : point.removed = true) :
        Inv ((s.setMap (s.map.erase connId)).moveShutdown connId point) := by
      have hpoint : (point.untaken || point == .counting) = false := by
        cases point <;> first | rfl | cases hremoved
      obtain ⟨hregular, hbefore, hafter⟩ :=
        (hs.regular connId).ended point (by rw [h]; rfl) hpoint
      refine hs.moved connId { s.conn connId with shutdown := point }
        ⟨rfl, ?_, Finset.Subset.refl _, rfl⟩ ?_ hregular id ?_ ?_
      · intro other hother
        show other ∈ (s.map.erase connId).connections ↔ _
        unfold ConnectionMap.erase
        split_ifs
        · simp [map, hother]
        · rfl
      · exact ComConnection.ne_absent_of_shutdown (by simp [h])
      · refine iff_of_false ?_ (by simp [ComConnection.inMap, hremoved])
        show connId ∉ (s.map.erase connId).connections
        unfold ConnectionMap.erase
        split_ifs with hmem
        · exact Finset.notMem_erase connId _
        · exact hmem
      · rw [hbefore, hafter, sub_self, add_zero]
        rfl
    rw [step, if_pos h]
    apply hends
    split_ifs <;> rfl
  · rwa [step, if_neg h]

theorem Inv.reportErase (hs : s.Inv) (connId : ℕ) (clock : Clocks) :
    (s.step (.reportErase connId clock)).Inv := by
  cases h : (s.conn connId).shutdown with
  | erased connectionSize =>
      have hreport := hs.report connectionSize clock
      have hconn : ((s.report connectionSize clock).conn connId).shutdown =
          .erased connectionSize := by
        rw [conn_report, h]
      obtain ⟨hregular, hbefore, hafter⟩ :=
        (hreport.regular connId).ended .closed (by rw [hconn]; rfl) rfl
      simp only [step, h]
      refine hreport.moveShutdown rfl rfl (Finset.Subset.refl _) rfl ?_ hregular rfl
        (by rw [hconn]; rfl) ?_
      · exact ComConnection.ne_absent_of_shutdown (by simp [h])
      · rw [hbefore, hafter, sub_self, add_zero]
        rfl
  | _ => simpa only [step, h] using hs

/-! ### Runs -/

/-- **One orderly step** keeps the invariant. -/
theorem inv_step (hs : s.Inv) (action : ServerAction) (horderly : s.Orderly action) :
    (s.step action).Inv := by
  cases action with
  | handleAccept connId ok => exact hs.handleAccept connId ok
  | emplace connId => exact hs.emplace connId
  | reportAccept connId clock => exact hs.reportAccept connId clock
  | setActive connId => exact hs.setActive connId
  | countUp connId clock => exact hs.countUp connId clock
  | finish connId => exact hs.finish connId
  | beginAccept connId => exact hs.beginAccept connId
  | release connId => exact hs.release connId
  | destroy connId => exact hs.destroy connId
  | shutdown =>
      rw [step]
      split_ifs
      · exact hs
      · exact hs.congr rfl rfl (Finset.Subset.refl _) rfl rfl
  | copyConnections =>
      rw [step]
      split_ifs
      · refine ⟨hs.regular, hs.mem_iff, fun connId hmem => ?_, hs.absent, hs.count⟩
        have hinMap := (hs.mem_iff connId).mp hmem
        exact (Bool.and_eq_true_iff.mp hinMap).1
      · exact hs
  | shutdownConn connId => exact hs.shutdownCopied connId
  | takeActive connId => exact hs.takeActive connId horderly
  | countDown connId clock => exact hs.countDown connId clock horderly
  | eraseConnection connId => exact hs.eraseConnection connId
  | reportErase connId clock => exact hs.reportErase connId clock
  | stop => exact hs.congr rfl rfl (Finset.Subset.refl _) rfl rfl

theorem conn_start_of_ne (port : OutputPortBits) (h : connId ≠ 0) :
    (start port).conn connId = .absent := by
  simp [start, h]

theorem inv_start (port : OutputPortBits) : (start port).Inv where
  regular connId := by
    by_cases h : connId = 0
    · subst h
      exact ComConnection.regular_new
    · rw [conn_start_of_ne port h]
      exact ComConnection.regular_absent
  mem_iff connId := by
    by_cases h : connId = 0
    · subst h
      exact iff_of_false (Finset.notMem_empty 0) Bool.false_ne_true
    · rw [conn_start_of_ne port h]
      exact iff_of_false (Finset.notMem_empty connId) Bool.false_ne_true
  vect connId hmem := absurd hmem (Finset.notMem_empty connId)
  absent connId hle := by
    have h : connId ≠ 0 := by
      have hle' : 1 ≤ connId := hle
      omega
    exact conn_start_of_ne port h
  count := rfl

/-- No handler is in the middle of its steps. -/
def Quiet (s : ComServer) : Prop := ∀ connId < s.connIdSeq, (s.conn connId).Quiet

instance (s : ComServer) : Decidable s.Quiet := inferInstanceAs (Decidable (∀ _, _))

/-- The number of connections is not negative, and is the size of the map when no handler
is in the middle of its steps. -/
structure CountersAgree (s : ComServer) : Prop where
  nonneg : 0 ≤ s.globals.tcpIpConnectedCount
  eq_card : s.Quiet → s.globals.tcpIpConnectedCount = s.connections.card

theorem Inv.countersAgree (hs : s.Inv) : s.CountersAgree where
  nonneg := by
    rw [hs.count]
    omega
  eq_card hquiet := by
    have hcounted : s.countedConns = s.connections := by
      ext connId
      rw [hs.mem_countedConns, hs.mem_iff]
      by_cases h : connId < s.connIdSeq
      · rw [ComConnection.counted_eq_inMap (hs.regular connId) (hquiet connId h)]
      · rw [hs.absent connId (by omega)]
        exact Iff.rfl
    rw [hs.count, hcounted]

/-- **The two counters agree** in every state of a run in which no shutdown looks at
`_connectionActive` too early. -/
theorem countersAgree_of_orderly (port : OutputPortBits) (actions : List ServerAction)
    (horderly : Always step Orderly (start port) actions) :
    ∀ earlier later, actions = earlier ++ later →
      (run step (start port) earlier).CountersAgree := by
  rintro earlier later rfl
  rw [always_append] at horderly
  have hinv : (run step (start port) earlier).Inv :=
    horderly.1.invariant Inv (fun _ action hs horderly => inv_step hs action horderly)
      (inv_start port)
  exact hinv.countersAgree

/-! ## Three runs -/

/-- The handler of a connection, up to `beginProtocol`. -/
def accepted (connId : ℕ) (clock : Clocks) : List ServerAction :=
  [.handleAccept connId true, .emplace connId, .reportAccept connId clock]

/-- `beginProtocol` and the rest of the handler. -/
def served (connId : ℕ) (clock : Clocks) : List ServerAction :=
  [.setActive connId, .countUp connId clock, .finish connId, .beginAccept connId]

/-- `ComServer::shutdown`, up to the shutdown of the connection. -/
def serverShutdown (connId : ℕ) : List ServerAction :=
  [.shutdown, .copyConnections, .shutdownConn connId]

/-- The shutdown of a connection. -/
def connShutdown (connId : ℕ) (clock : Clocks) : List ServerAction :=
  [.takeActive connId, .countDown connId clock, .eraseConnection connId, .reportErase connId clock]

/-- The clock does not matter here. -/
def noClock : Clocks := fun _ => ⟨0, 0⟩

/-- A client is served, and the server is shut down after that. -/
def servedFirst : List ServerAction :=
  accepted 0 noClock ++ served 0 noClock ++ serverShutdown 0 ++ connShutdown 0 noClock

theorem countersAgree_servedFirst : (run step (start 0) servedFirst).CountersAgree :=
  countersAgree_of_orderly 0 servedFirst (by decide +kernel) servedFirst []
    (List.append_nil _).symm

/-- The server is shut down between the insertion and `beginProtocol`. -/
def shutdownFirst : List ServerAction :=
  accepted 0 noClock ++ serverShutdown 0 ++ connShutdown 0 noClock ++ served 0 noClock

/-- The server is shut down in the middle of `beginProtocol`. -/
def shutdownBetween : List ServerAction :=
  accepted 0 noClock ++ [.setActive 0] ++ serverShutdown 0 ++
    [.takeActive 0, .countDown 0 noClock]

/-- One connection stays counted for ever, or the count is negative. -/
theorem not_countersAgree_shutdown :
    ¬ (run step (start 0) shutdownFirst).CountersAgree ∧
      ¬ (run step (start 0) shutdownBetween).CountersAgree := by
  constructor
  · intro h
    have hquiet : (run step (start 0) shutdownFirst).Quiet := by decide +kernel
    have hne : (run step (start 0) shutdownFirst).globals.tcpIpConnectedCount ≠
        (run step (start 0) shutdownFirst).connections.card := by
      decide +kernel
    exact hne (h.eq_card hquiet)
  · intro h
    have hneg : (run step (start 0) shutdownBetween).globals.tcpIpConnectedCount < 0 := by
      decide +kernel
    exact absurd h.nonneg (not_le.mpr hneg)

/-- The first client leaves while a second one comes, and the report of the second one is
overtaken: the map goes through the run that `ConnectionMap.overtaken` describes. -/
def clientsOvertake : List ServerAction :=
  accepted 0 noClock ++ served 0 noClock ++
    [.release 0, .destroy 0, .takeActive 0, .countDown 0 noClock, .eraseConnection 0] ++
    accepted 1 noClock ++ [.reportErase 0 noClock]

example : ¬ (run step (start 0) clientsOvertake).map.Agrees := by
  decide +kernel

end ComServer

end M2Cell
