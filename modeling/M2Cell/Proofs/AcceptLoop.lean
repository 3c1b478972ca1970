import M2Cell.Server.Welcome

/-!
# The accept loop

`_handleAccept` starts the next accept at its very end.  It gets there unless a
`write_some` of the welcome throws, and that happens exactly when the peer goes
before the message under way is written (`keepsAccepting_iff`).

The welcome is a list of messages, each written by a loop of `write_some`.
`returned_sendMsgs_iff` is the induction on that list: all of it is sent when every message is
written before its own calls fail.  What comes before the welcome leaves the server where only
the end of the handler is to come (`AtEnd`), and from there the next accept is under way, unless
the server was told to stop (`AtEnd.accepts`).  The three ways through the handler are
`keepsAccepting_of_off`, `keepsAccepting_of_error` and `keepsAccepting_of_accept`; only the last
one has a condition.
-/

namespace M2Cell

variable {D : Type}

namespace ComConnection

variable {lib : JsonLibrary D} {socket : Socket} {fm : FaultMgr}

/-- **A list of messages** is sent when every message is written before its calls fail. -/
theorem returned_sendMsgs_iff (msgs : List (WelcomeMsg D)) (i : ℕ) (g : Globals)
    (wire : List UInt8) :
    (sendMsgs lib socket fm msgs i g wire).returned = true ↔
      ∀ j text, (texts lib fm msgs g)[j]? = some text →
        PartialWrite.Completes (socket (i + j)) text.utf8ByteSize := by
  induction msgs generalizing i g wire with
  | nil => simp [sendMsgs, texts]
  | cons msg rest ih =>
      have hcompletes : (PartialWrite.writeAll (socket i)
            (wireText lib (msg.js (msg.update g) fm)).utf8ByteSize).2 = true ↔
          PartialWrite.Completes (socket i)
            (wireText lib (msg.js (msg.update g) fm)).utf8ByteSize :=
        PartialWrite.returns_writeAll_iff
      simp only [sendMsgs, texts]
      split_ifs with hwrite
      · rw [ih]
        constructor
        · intro h j text htext
          cases j with
          -- the message at the head, or one of the rest, whose sockets are one further on
          | zero =>
              rw [List.getElem?_cons_zero, Option.some.injEq] at htext
              rw [← htext]
              exact hcompletes.mp hwrite
          | succ j =>
              rw [List.getElem?_cons_succ] at htext
              have hrest := h j text htext
              rwa [show i + 1 + j = i + (j + 1) by omega] at hrest
        · intro h j text htext
          rw [show i + 1 + j = i + (j + 1) by omega]
          exact h (j + 1) text (by rw [List.getElem?_cons_succ, htext])
      · simp only [false_iff]
        intro h
        exact hwrite (hcompletes.mpr (h 0 _ List.getElem?_cons_zero))

/-- The bytes of a text. -/
def bytes (text : String) : List UInt8 := text.toUTF8.data.toList

theorem length_bytes (text : String) : (bytes text).length = text.utf8ByteSize := by
  simp [bytes]

/-- A welcome that is sent puts all texts on the wire. -/
theorem wire_sendMsgs (msgs : List (WelcomeMsg D)) (i : ℕ) (g : Globals) (wire : List UInt8)
    (h : (sendMsgs lib socket fm msgs i g wire).returned = true) :
    (sendMsgs lib socket fm msgs i g wire).wire = wire ++ (texts lib fm msgs g).flatMap bytes := by
  induction msgs generalizing i g wire with
  | nil => simp [sendMsgs, texts]
  | cons msg rest ih =>
      simp only [sendMsgs] at h ⊢
      split_ifs at h ⊢ with hwrite
      · have hwritten := PartialWrite.written_of_completes (PartialWrite.returns_writeAll_iff.mp hwrite)
        rw [ih _ _ _ h, hwritten, texts, List.flatMap_cons, List.append_assoc]
        congr 2
        rw [← length_bytes]
        exact List.take_length

end ComConnection

namespace ComServer

variable (lib : JsonLibrary D) (literal : ℚ → D) (event : AcceptEvent) (s : ComServer)

/-- No exception escapes from `_handleAccept`, and unless the server is stopped or shut
down the next accept is under way when it returns. -/
structure KeepsAccepting : Prop where
  returns : (s.handleAccept lib literal event).2 = true
  accepts : (s.handleAccept lib literal event).1.stopped = false →
    (s.handleAccept lib literal event).1.shutdown = false →
      (s.handleAccept lib literal event).1.connIdSeq = s.connIdSeq + 1 ∧
        ((s.handleAccept lib literal event).1.conn s.connIdSeq).accept = .waiting

/-- The texts of the welcome. -/
def welcomeTexts : List String :=
  ComConnection.texts lib ((s.insertConnection event).beginProtocol event).system.faultMgr
    (ComConnection.welcomeMsgs literal)
    ((s.insertConnection event).beginProtocol event).globals

/-- The peer stays until the welcome is written, if there is one. -/
def PeerStays : Prop :=
  s.stopped = true ∨ s.shutdown = true ∨ event.ec ≠ 0 ∨ event.doSendWelcomeMsg = false ∨
    ∀ i text, (s.welcomeTexts lib literal event)[i]? = some text →
      PartialWrite.Completes (event.socket i) text.utf8ByteSize

/-! ## The steps of the handler -/

variable {event s}

/-- A handler at its end starts the next accept. -/
theorem accepts_of_ending {connId : ℕ} {ok listening : Bool}
    (haccept : (s.conn connId).accept = .ending ok listening) (hstopped : s.stopped = false)
    (hshutdown : s.shutdown = false) :
    (s.step (.beginAccept connId)).connIdSeq = s.connIdSeq + 1 ∧
      ((s.step (.beginAccept connId)).conn s.connIdSeq).accept = .waiting := by
  simp [step, haccept, moveAccept, beginAccept, hstopped, hshutdown, ComConnection.new]

/-- What `_handleAccept` is left with when only its end is to come. -/
def AtEnd (event : AcceptEvent) (s t : ComServer) : Prop :=
  t.stopped = s.stopped ∧ t.shutdown = s.shutdown ∧ t.connIdSeq = s.connIdSeq ∧
    ((t.conn event.connId).accept = .counted ∨ (t.conn event.connId).accept = .reported false)

/-- The welcome only writes `Globals`. -/
theorem AtEnd.withGlobals {t : ComServer} (hend : AtEnd event s t) (globals : Globals) :
    AtEnd event s { t with globals := globals } := hend

theorem atEnd_insertConnection (hnew : s.conn event.connId = .new) (hstopped : s.stopped = false)
    (hshutdown : s.shutdown = false) (hec : event.ec ≠ 0) :
    AtEnd event s (s.insertConnection event) := by
  simp [AtEnd, insertConnection, step, hnew, ComConnection.new, hstopped, hshutdown, moveAccept,
    setMap, report, map, ConnectionMap.emplace, hec]

theorem atEnd_beginProtocol (hnew : s.conn event.connId = .new) (hstopped : s.stopped = false)
    (hshutdown : s.shutdown = false) (hec : event.ec = 0) :
    AtEnd event s ((s.insertConnection event).beginProtocol event) := by
  simp [AtEnd, insertConnection, beginProtocol, step, hnew, ComConnection.new, hstopped, hshutdown,
    moveAccept, setMap, report, map, ConnectionMap.emplace, hec, setConnectionActive,
    setTcpIpConnected]

theorem flags_beginAccept (connId : ℕ) :
    (s.step (.beginAccept connId)).stopped = s.stopped ∧
      (s.step (.beginAccept connId)).shutdown = s.shutdown := by
  simp only [step]
  split
  · unfold beginAccept
    split_ifs <;> exact ⟨rfl, rfl⟩
  · exact ⟨rfl, rfl⟩

theorem flags_handleAccept (connId : ℕ) (ok : Bool) :
    (s.step (.handleAccept connId ok)).stopped = s.stopped ∧
      (s.step (.handleAccept connId ok)).shutdown = s.shutdown := by
  simp only [step]
  split_ifs <;> exact ⟨rfl, rfl⟩

theorem ending_finish {connId : ℕ}
    (haccept : (s.conn connId).accept = .counted ∨ (s.conn connId).accept = .reported false) :
    (s.step (.finish connId)).connIdSeq = s.connIdSeq ∧
      ∃ ok listening, ((s.step (.finish connId)).conn connId).accept = .ending ok listening := by
  rcases haccept with haccept | haccept
  · refine ⟨by simp [step, haccept, moveAccept], true,
      (s.conn connId).shutdown == .uncalled, by simp [step, haccept, moveAccept]⟩
  · exact ⟨by simp [step, haccept, moveAccept], false, false, by simp [step, haccept, moveAccept]⟩

/-- The end of the handler starts the next accept. -/
theorem AtEnd.accepts {t : ComServer} (hend : AtEnd event s t)
    (hstopped : (t.endAccept event).stopped = false)
    (hshutdown : (t.endAccept event).shutdown = false) :
    (t.endAccept event).connIdSeq = s.connIdSeq + 1 ∧
      ((t.endAccept event).conn s.connIdSeq).accept = .waiting := by
  obtain ⟨-, -, hseq, haccept⟩ := hend
  -- whether the server is shut down first or not, the handler finishes and accepts
  obtain ⟨u, hconn, hseq', hrun⟩ : ∃ u : ComServer, u.conn = t.conn ∧ u.connIdSeq = t.connIdSeq ∧
      t.endAccept event = (u.step (.finish event.connId)).step (.beginAccept event.connId) := by
    unfold endAccept
    split_ifs
    · refine ⟨t.step .shutdown, ?_, ?_, rfl⟩
      · simp only [step]
        split_ifs <;> rfl
      · simp only [step]
        split_ifs <;> rfl
    · exact ⟨t, rfl, rfl, rfl⟩
  rw [← hconn] at haccept
  obtain ⟨hsame, ok, listening, hending⟩ := ending_finish haccept
  have hflags := flags_beginAccept (s := u.step (.finish event.connId)) event.connId
  rw [hrun] at hstopped hshutdown ⊢
  rw [hflags.1] at hstopped
  rw [hflags.2] at hshutdown
  have hnext := accepts_of_ending hending hstopped hshutdown
  rwa [hsame, hseq', hseq] at hnext

/-! ## The handler -/

theorem returned_welcome_iff :
    (((s.insertConnection event).beginProtocol event).welcome lib literal event).returned = true ↔
      event.doSendWelcomeMsg = false ∨
        ∀ i text, (s.welcomeTexts lib literal event)[i]? = some text →
          PartialWrite.Completes (event.socket i) text.utf8ByteSize := by
  unfold welcome ComConnection.sendWelcomeMsg
  split_ifs with hsend
  · rw [ComConnection.returned_sendMsgs_iff]
    simp only [hsend, Bool.true_eq_false, false_or, Nat.zero_add, welcomeTexts]
  · exact iff_of_true rfl (Or.inl (Bool.eq_false_of_not_eq_true hsend))

/-- A server that is stopped or shut down returns at once. -/
theorem keepsAccepting_of_off (hoff : s.stopped = true ∨ s.shutdown = true) :
    s.KeepsAccepting lib literal event := by
  have hresult : s.handleAccept lib literal event =
      (s.step (.handleAccept event.connId (event.ec == 0)), true) := by
    rw [handleAccept, if_pos (by simpa using hoff)]
  obtain ⟨hsameStopped, hsameShutdown⟩ :=
    flags_handleAccept (s := s) event.connId (event.ec == 0)
  refine ⟨by rw [hresult], ?_⟩
  rw [hresult]
  intro hstopped hshutdown
  rw [hsameStopped] at hstopped
  rw [hsameShutdown] at hshutdown
  rcases hoff with hoff | hoff
  · rw [hstopped] at hoff
    cases hoff
  · rw [hshutdown] at hoff
    cases hoff

theorem keepsAccepting_of_error (hnew : s.conn event.connId = .new) (hstopped : s.stopped = false)
    (hshutdown : s.shutdown = false) (hec : event.ec ≠ 0) :
    s.KeepsAccepting lib literal event := by
  have hresult : s.handleAccept lib literal event =
      ((s.insertConnection event).endAccept event, true) := by
    rw [handleAccept, if_neg (by simp [hstopped, hshutdown]), if_neg hec]
  refine ⟨by rw [hresult], ?_⟩
  rw [hresult]
  exact (atEnd_insertConnection hnew hstopped hshutdown hec).accepts

/-- A connection is welcomed, and the handler comes to its end when that returns. -/
theorem keepsAccepting_of_accept (hnew : s.conn event.connId = .new) (hstopped : s.stopped = false)
    (hshutdown : s.shutdown = false) (hec : event.ec = 0) :
    s.KeepsAccepting lib literal event ↔
      (((s.insertConnection event).beginProtocol event).welcome lib literal event).returned =
        true := by
  have hend := atEnd_beginProtocol hnew hstopped hshutdown hec
  have hrunning : ¬ (s.stopped || s.shutdown) = true := by simp [hstopped, hshutdown]
  constructor
  · intro h
    have hreturns := h.returns
    rw [handleAccept, if_neg hrunning, if_pos hec] at hreturns
    -- an exception of the welcome escapes from the handler
    by_contra hthrown
    rw [if_neg hthrown] at hreturns
    cases hreturns
  · intro hreturned
    have hwelcomed : AtEnd event s
        { (s.insertConnection event).beginProtocol event with
          globals := (((s.insertConnection event).beginProtocol event).welcome lib literal
            event).globals } := hend.withGlobals _
    have hresult : s.handleAccept lib literal event = (endAccept event
        { (s.insertConnection event).beginProtocol event with
          globals := (((s.insertConnection event).beginProtocol event).welcome lib literal
            event).globals }, true) := by
      rw [handleAccept, if_neg hrunning, if_pos hec]
      dsimp only
      rw [if_pos hreturned]
    have hafter := congrArg Prod.fst hresult
    refine ⟨congrArg Prod.snd hresult, ?_⟩
    rw [hafter]
    exact hwelcomed.accepts

/-- **The server keeps accepting** exactly when the peer stays for its welcome. -/
theorem keepsAccepting_iff (lib : JsonLibrary D) (literal : ℚ → D) (event : AcceptEvent)
    (s : ComServer) (hnew : s.conn event.connId = .new) :
    s.KeepsAccepting lib literal event ↔ s.PeerStays lib literal event := by
  by_cases hoff : s.stopped = true ∨ s.shutdown = true
  · refine iff_of_true (keepsAccepting_of_off lib literal hoff) ?_
    rcases hoff with hstopped | hshutdown
    · exact Or.inl hstopped
    · exact Or.inr (Or.inl hshutdown)
  · obtain ⟨hstopped, hshutdown⟩ := not_or.mp hoff
    rw [Bool.not_eq_true] at hstopped hshutdown
    simp only [PeerStays, hstopped, hshutdown, Bool.false_eq_true, false_or]
    by_cases hec : event.ec = 0
    · rw [keepsAccepting_of_accept lib literal hnew hstopped hshutdown hec, returned_welcome_iff]
      exact ⟨Or.inr, fun h => h.resolve_left (not_not.mpr hec)⟩
    · exact iff_of_true (keepsAccepting_of_error lib literal hnew hstopped hshutdown hec)
        (Or.inl hec)

/-- An accepted client whose `write_some` does what `socket` says. -/
def client (socket : Socket) : AcceptEvent where
  connId := 0
  ec := 0
  doSendWelcomeMsg := true
  socket := socket
  shutdownMeanwhile := false
  clock := fun _ => ⟨0, 0⟩

/-- A client that takes one byte at a time. -/
theorem keepsAccepting_iff_slow :
    (start 0).KeepsAccepting (.listed []) id (client fun _ _ => some 1) ↔
      (start 0).PeerStays (.listed []) id (client fun _ _ => some 1) :=
  keepsAccepting_iff _ _ _ _ rfl

/-- A client that is gone before the first byte of its welcome. -/
theorem not_keepsAccepting_gone :
    ¬ (start 0).KeepsAccepting (.listed []) id (client fun _ _ => none) := by
  intro h
  have hthrown : ((start 0).handleAccept (.listed []) id (client fun _ _ => none)).2 = false := by
    decide +kernel
  rw [h.returns] at hthrown
  cases hthrown

end ComServer

end M2Cell
