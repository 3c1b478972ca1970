import M2Cell.Proofs.CommandStages

/-!
# Commands and their answers

A client that calls `cmdSendRecv` gets the ack and the final reply of its own command,
whatever other clients, broadcasts and threads do in between (`calls_answered`).

The induction is on the run, and `Served` of `CommandStages` carries it: a step of the
server keeps it there, one of the client here (`Served.clientStep`).  The client's steps
fall into four kinds.

* Nothing is read, and no call of `cmdSendRecv` begins or ends (`Served.of_client`), or
  the call throws since the connection is lost (`Served.systemError`).
* Another call than `cmdSendRecv` reads.  Whatever it does with the message, no call of
  `cmdSendRecv` waits for it (`Served.aside`).
* `cmdSendRecv` begins, which asks the server for one more command (`Served.begins`).
* `cmdSendRecv` reads (`Served.command`).  What it reads is the whole text of a write
  (`readsOf_next`): a message for all is stored (`receive_announced`), the ack is kept in
  the call (`AckRead.receive`), and the final reply, which cannot come before the ack,
  ends it (`Busy.readsFinal`).

`Answered` goes along: the pairs that were returned answer the commands in order.  It
grows by one pair when a final reply is read, and by nothing else.
-/

namespace M2Cell

namespace CommandSession

open NetCommandFactory

variable {D : Type}

/-! ## What the client reads -/

section receive

variable {client : ComClient D}

/-- A call returned no pair, or threw. -/
theorem pairs_finish {result : ClientResult D} (h : pair? result = none) :
    pairs (client.finish result) = pairs client := by
  simp [pairs, ComClient.finish, h]

theorem noCommand_finish (result : ClientResult D) : NoCommand (client.finish result) :=
  fun _ _ => nofun

/-- What a call that is not `cmdSendRecv` does to the client. -/
structure Aside (client client' : ComClient D) : Prop where
  readStream : client'.readStream = client.readStream
  isOpen : client'.isOpen = client.isOpen
  pairs : pairs client' = pairs client
  call : NoCommand client'

theorem aside_finish {result : ClientResult D} (h : pair? result = none) :
    Aside client (client.finish result) :=
  ⟨rfl, rfl, pairs_finish h, noCommand_finish result⟩

theorem aside_loop (hcall : NoCommand client) (pass : Except JsonError (Json D × Option String))
    {result : Json D → ClientResult D} (hresult : ∀ js, pair? (result js) = none) :
    Aside client (client.loop pass fun js => client.finish (result js)) := by
  match pass with
  | .error error => exact aside_finish rfl
  | .ok (js, some id) => exact ⟨rfl, rfl, rfl, hcall⟩
  | .ok (js, none) => exact aside_finish (hresult js)

variable {lib : JsonLibrary D} {literal : ℚ → D} [Double D] {inStr : ByteArray} {js : Json D}
  {seqId : ClientSeqId}

theorem hasSeqId_reply {reply : Reply} (h : reply.sequenceId.val = seqId.val) :
    ComClient.hasSeqId literal seqId (reply.toJson : Json D) = true := by
  simp [ComClient.hasSeqId, find?_sequenceId_reply, h]

/-- A message without a "sequence_id" is stored. -/
theorem receive_announced (hparse : lib.parse inStr = .value js)
    (hnone : js.find? "sequence_id" = none) {id : String} (hid : ComClient.idOf js = .ok id)
    (ackJ : Option (Json D)) :
    client.receive lib literal inStr (.cmdSendRecv seqId ackJ) =
      { client with jMsgMap := client.jMsgMap.insert id js } := by
  have hpass : ComClient.cmdRecvSeqIdPass lib literal seqId inStr = .ok (js, some id) := by
    have hhas : ComClient.hasSeqId literal seqId js = false := by
      simp [ComClient.hasSeqId, hnone]
    have hvalue : ComClient.parse lib inStr = .ok js := by simp only [ComClient.parse, hparse]
    rw [ComClient.cmdRecvSeqIdPass, hvalue]
    simp only [bind, Except.bind, hhas, hid]
    rfl
  cases ackJ <;> simp only [ComClient.receive, hpass, ComClient.loop]

/-- A message with the number of the call is returned. -/
theorem cmdRecvSeqIdPass_reply (hparse : lib.parse inStr = .value js)
    (hhas : ComClient.hasSeqId literal seqId js = true) :
    ComClient.cmdRecvSeqIdPass lib literal seqId inStr = .ok (js, none) := by
  have hvalue : ComClient.parse lib inStr = .ok js := by simp only [ComClient.parse, hparse]
  rw [ComClient.cmdRecvSeqIdPass, hvalue]
  simp only [bind, Except.bind, hhas]
  rfl

/-- A reply that comes first is the ack. -/
theorem receive_ack (hparse : lib.parse inStr = .value js)
    (hhas : ComClient.hasSeqId literal seqId js = true) :
    client.receive lib literal inStr (.cmdSendRecv seqId none) =
      { client with call := some (.cmdSendRecv seqId (some js)) } := by
  simp only [ComClient.receive, cmdRecvSeqIdPass_reply hparse hhas, ComClient.loop]

/-- The next reply ends the call. -/
theorem receive_final (hparse : lib.parse inStr = .value js)
    (hhas : ComClient.hasSeqId literal seqId js = true) (ackJ : Json D) :
    client.receive lib literal inStr (.cmdSendRecv seqId (some ackJ)) =
      client.finish (.pair seqId ackJ js) := by
  simp only [ComClient.receive, cmdRecvSeqIdPass_reply hparse hhas, ComClient.loop]

theorem aside_receive (hcall : NoCommand client) {call : ClientCall D}
    (h : client.call = some call) (inStr : ByteArray) :
    Aside client (client.receive lib literal inStr call) := by
  cases call with
  | cmdSendRecv seqId ackJ => exact absurd h (hcall seqId ackJ)
  | cmdRecvSeqId seqId => exact aside_loop hcall _ fun _ => rfl
  | cmdRecvId targetId => exact aside_loop hcall _ fun _ => rfl
  | recvDequeForId key => exact aside_loop hcall _ fun _ => rfl
  | readWelcomeMsg count =>
      simp only [ComClient.receive, ComClient.welcomePass]
      split
      · exact aside_finish rfl
      · exact aside_finish rfl
      · split
        · exact aside_finish rfl
        · split_ifs
          · exact aside_finish rfl
          · exact ⟨rfl, rfl, rfl, fun _ _ => nofun⟩

end receive

section next

variable {lib : JsonLibrary D} {conn : ComControl} {client : ComClient D} {words : List (Json D)}
  {done rest : List ℕ} {inStr after : List UInt8}

/-- A whole text is a message. -/
theorem readCommand_of_whole (hwords : Worded lib conn words) {i : ℕ}
    (h : ReadsOf conn client done (i :: rest)) (hwhole : conn.outgoing.socket.Whole i)
    {js : Json D} (hword : words[i]? = some js) :
    ComClient.readCommand client.readStream = some ((lib.dump js).toUTF8.data.toList,
      rest.flatMap conn.outgoing.socket.sentPart) := by
  have hne : ComConnection.cr ≠ ComConnection.lf := by decide
  have hline := (hwords.readable js (List.mem_of_getElem? hword)).2
  rw [h.unread_of_whole hwhole, hwords.text i js hword, buffer_eq, List.append_assoc]
  exact Framing.takeFrame_message hne (Framing.takeFrame_eq_none_iff.mp hline) _

/-- **The next message** is the whole text of a write, and the client has read the ack that
a final reply needs. -/
theorem readsOf_next (hwords : Worded lib conn words) (h : ReadsOf conn client done rest)
    (hframe : ComClient.readCommand client.readStream = some (inStr, after)) :
    ∃ i rest' js kind, conn.outgoing.kinds[i]? = some kind ∧ words[i]? = some js ∧
      lib.parse ⟨inStr.toArray⟩ = .value js ∧ i ∉ done ∧
      (∀ ack, kind = .final ack → ack ∈ done) ∧
      ReadsOf conn { client with readStream := after } (done ++ [i]) rest' := by
  have hne : ComConnection.cr ≠ ComConnection.lf := by decide
  cases rest with
  | nil =>
      have hunread : client.readStream = [] := h.unread
      rw [hunread] at hframe
      cases hframe
  | cons i rest =>
      -- the message that is next was sent, so it has a kind and a text
      have hpos : 0 < conn.outgoing.socket.sent i := (h.serial.mem_iff i).mp (by simp)
      have hlt := SharedStream.lt_length_of_pos hpos
      rw [← conn.outgoing.aligned] at hlt
      obtain ⟨kind, hkind⟩ : ∃ kind, conn.outgoing.kinds[i]? = some kind :=
        ⟨_, List.getElem?_eq_getElem hlt⟩
      obtain ⟨js, hword⟩ : ∃ js, words[i]? = some js :=
        ⟨_, List.getElem?_eq_getElem (hwords.length ▸ hlt)⟩
      obtain ⟨hround, hline⟩ := hwords.readable js (List.mem_of_getElem? hword)
      by_cases hwhole : conn.outgoing.socket.Whole i
      · rw [readCommand_of_whole hwords h hwhole hword] at hframe
        obtain ⟨rfl, rfl⟩ := Prod.mk.inj (Option.some.inj hframe)
        have hmessage : (⟨(lib.dump js).toUTF8.data.toList.toArray⟩ : ByteArray) =
            (lib.dump js).toUTF8 := by simp
        refine ⟨i, rest, js, kind, hkind, hword, ?_, h.notMem_done, ?_, h.take hwhole⟩
        · rw [hmessage]
          exact hround
        · rintro ack rfl
          exact h.mem_done hkind
      · -- a part of a message is no message
        obtain ⟨rfl, hpart⟩ := h.eq_nil_of_partly hwhole
        have hunread : client.readStream =
            (conn.outgoing.socket.text i).take (conn.outgoing.socket.sent i) := by
          rw [h.unread, List.flatMap_singleton, SharedStream.sentPart]
        have hfree := Framing.takeFrame_eq_none_iff.mp hline
        rw [hwords.text i js hword, buffer_eq] at hunread hpart
        rw [List.length_append] at hpart
        rw [hunread, ComClient.readCommand, ComConnection.readUntil,
          Framing.takeFrame_part hne hfree hpart] at hframe
        cases hframe

end next

section follow

variable {ask : Ask} {stage : Stage} {conn : ComControl} {client client' : ComClient D}
  {done replies : List ℕ}

theorem Unread.mono (h : Unread conn done replies) (i : ℕ) : Unread conn (done ++ [i]) replies :=
  fun j kind hkind hne hnot => List.mem_append_left _ (h j kind hkind hne hnot)

/-- At every stage the client is in the call. -/
theorem Stage.FollowedBy.command (h : stage.FollowedBy ask conn client done) :
    ∃ ackJ, client.call = some (.cmdSendRecv ask.2 ackJ) := by
  have hack {ack : ℕ} {command : NetCommand} (hread : AckRead client ask done ack command) :
      ∃ ackJ, client.call = some (.cmdSendRecv ask.2 ackJ) := by
    obtain ⟨hcall, -⟩ | ⟨hcall, -⟩ := hread
    · exact ⟨none, hcall⟩
    · exact ⟨_, hcall⟩
  cases stage with
  | waiting => exact ⟨none, h.1⟩
  | toRun ack command => exact hack h.1
  | toReply ack command reply => exact hack h.1
  | ended ack command reply final => exact hack h.1

/-- A message to all is none of the replies. -/
theorem Stage.FollowedBy.keep {words : List (Json D)} (h : stage.FollowedBy ask conn client done)
    (hof : stage.Of ask conn words) {i : ℕ} (hkind : conn.outgoing.kinds[i]? = some .broadcast) :
    stage.FollowedBy ask conn client (done ++ [i]) := by
  have hother {j : ℕ} {kind : OutgoingWrite} (hreply : conn.outgoing.kinds[j]? = some kind)
      (hne : kind ≠ .broadcast) (hnot : j ∉ done) : j ∉ done ++ [i] := by
    intro hmem
    obtain hold | hnew := List.mem_append.mp hmem
    · exact hnot hold
    · rw [List.mem_singleton.mp hnew, hkind] at hreply
      exact hne (Option.some.inj hreply).symm
  have hack {ack : ℕ} {command : NetCommand} (hread : AckRead client ask done ack command)
      (hacked : Acked conn words ack command) :
      AckRead client ask (done ++ [i]) ack command := by
    obtain ⟨hcall, hnot⟩ | ⟨hcall, hmem⟩ := hread
    · exact Or.inl ⟨hcall, hother hacked.kind nofun hnot⟩
    · exact Or.inr ⟨hcall, List.mem_append_left _ hmem⟩
  cases stage with
  | waiting => exact ⟨h.1, h.2.mono i⟩
  | toRun ack command => exact ⟨hack h.1 hof.2.2, h.2.mono i⟩
  | toReply ack command reply => exact ⟨hack h.1 hof.2.2, h.2.mono i⟩
  | ended ack command reply final =>
      exact ⟨hack h.1 hof.2.1, hother hof.2.2.1 nofun h.2.1, h.2.2.mono i⟩

variable {own : ℕ} {lib : JsonLibrary D} {literal : ℚ → D} [Double D] {s₀ : CommandSession D}
  {acts : List SessionAction}

/-- The client reads nothing, and its call of `cmdSendRecv` goes on. -/
theorem Served.of_client (h : Served own lib literal s₀ acts conn client)
    (hread : client'.readStream = client.readStream) (hpairs : pairs client' = pairs client)
    (hopen : client.isOpen = false → client'.isOpen = false)
    (hcall : client'.call = client.call ∨ NoCommand client ∧ NoCommand client') :
    Served own lib literal s₀ acts conn client' := by
  have hno (hnone : NoCommand client) : NoCommand client' := by
    obtain hsame | hboth := hcall
    · intro seqId ackJ heq
      exact hnone seqId ackJ (hsame.symm.trans heq)
    · exact hboth.2
  obtain ⟨words, hwords, hidle | ⟨ask, stage, hbusy⟩⟩ := h
  · refine ⟨words, hwords, Or.inl ⟨?_, ?_, hidle.threads, hno hidle.call, ?_⟩⟩
    · rw [hpairs]
      exact hidle.asked
    · rw [hpairs]
      exact hidle.ran
    · obtain ⟨done, rest, hreading, hunread⟩ := hidle.reading
      refine ⟨done, rest, ?_, hunread⟩
      rw [ReadsOf, hread]
      exact hreading
  · refine ⟨words, hwords, Or.inr ⟨ask, stage, ?_, ?_, hbusy.stage, hbusy.source, ?_⟩⟩
    · rw [hpairs]
      exact hbusy.asked
    · rw [hpairs]
      exact hbusy.ran
    · obtain ⟨hlost, hnone⟩ | ⟨done, rest, hreading, hfollowed⟩ := hbusy.client
      · exact Or.inl ⟨hopen hlost, hno hnone⟩
      · obtain hsame | ⟨hnone, -⟩ := hcall
        · refine Or.inr ⟨done, rest, ?_, hfollowed.of_same rfl hsame⟩
          rw [ReadsOf, hread]
          exact hreading
        · obtain ⟨ackJ, hcommand⟩ := hfollowed.command
          exact absurd hcommand (hnone _ _)

/-- The call throws, since the connection is lost. -/
theorem Served.systemError (h : Served own lib literal s₀ acts conn client)
    (hopen : client.isOpen = false) :
    Served own lib literal s₀ acts conn (client.finish .systemError) := by
  have hpairs : pairs (client.finish .systemError) = pairs client := pairs_finish rfl
  obtain ⟨words, hwords, hidle | ⟨ask, stage, hbusy⟩⟩ := h
  · refine ⟨words, hwords, Or.inl ⟨?_, ?_, hidle.threads, noCommand_finish _, hidle.reading⟩⟩
    · rw [hpairs]
      exact hidle.asked
    · rw [hpairs]
      exact hidle.ran
  · refine ⟨words, hwords, Or.inr ⟨ask, stage, ?_, ?_, hbusy.stage, hbusy.source,
      Or.inl ⟨hopen, noCommand_finish _⟩⟩⟩
    · rw [hpairs]
      exact hbusy.asked
    · rw [hpairs]
      exact hbusy.ran

/-- A call that is not `cmdSendRecv` reads a message. -/
theorem Served.aside (h : Served own lib literal s₀ acts conn client) (hcall : NoCommand client)
    {inStr after : List UInt8}
    (hframe : ComClient.readCommand client.readStream = some (inStr, after))
    (haside : Aside { client with readStream := after } client') :
    Served own lib literal s₀ acts conn client' := by
  have hpairs : pairs client' = pairs client := haside.pairs
  obtain ⟨words, hwords, hidle | ⟨ask, stage, hbusy⟩⟩ := h
  · refine ⟨words, hwords, Or.inl ⟨?_, ?_, hidle.threads, haside.call, ?_⟩⟩
    · rw [hpairs]
      exact hidle.asked
    · rw [hpairs]
      exact hidle.ran
    · obtain ⟨done, rest, hreading, hunread⟩ := hidle.reading
      obtain ⟨i, rest', -, -, -, -, -, -, -, hreading'⟩ := readsOf_next hwords hreading hframe
      refine ⟨done ++ [i], rest', ?_, hunread.mono i⟩
      rw [ReadsOf, haside.readStream]
      exact hreading'
  · refine ⟨words, hwords, Or.inr ⟨ask, stage, ?_, ?_, hbusy.stage, hbusy.source, ?_⟩⟩
    · rw [hpairs]
      exact hbusy.asked
    · rw [hpairs]
      exact hbusy.ran
    · obtain ⟨hlost, -⟩ | ⟨done, rest, -, hfollowed⟩ := hbusy.client
      · exact Or.inl ⟨haside.isOpen.trans hlost, haside.call⟩
      · obtain ⟨ackJ, hcommand⟩ := hfollowed.command
        exact absurd hcommand (hcall _ _)

/-! ## Reading in a call of `cmdSendRecv` -/

/-- One more pair is returned. -/
theorem Answered.append (h : Answered own lib literal s₀ acts client) {earlier : List Ask}
    (hasked : asked own lib literal s₀ acts = earlier ++ [ask])
    (hlength : earlier.length = (pairs client).length) {pair : ClientSeqId × Json D × Json D}
    (hanswer : Answers own lib literal s₀ acts ask pair)
    (hpairs : pairs client' = pairs client ++ [pair]) :
    Answered own lib literal s₀ acts client' := by
  unfold Answered at h ⊢
  rw [hasked, ← hlength, List.take_left] at h
  have hall : (earlier ++ [ask]).take (pairs client').length = earlier ++ [ask] := by
    apply List.take_of_length_le
    simp [hpairs, hlength]
  rw [hasked, hall, hpairs]
  exact List.rel_append h (.cons hanswer .nil)

section reading

variable {words : List (Json D)} {rest' : List ℕ} {i ack : ℕ} {made : NetCommand}
  {reply : Reply} {inStr after : List UInt8}

/-- The call goes on: it has returned nothing, and the client still follows its stage. -/
theorem Busy.goesOn (hwords : Worded lib conn words)
    (hbusy : Busy own lib literal s₀ acts conn client words ask stage)
    (hanswered : Answered own lib literal s₀ acts client) (hpairs : pairs client' = pairs client)
    (hreading : ReadsOf conn client' done rest')
    (hnext : stage.FollowedBy ask conn client' done) :
    Served own lib literal s₀ acts conn client' ∧ Answered own lib literal s₀ acts client' := by
  refine ⟨⟨words, hwords, Or.inr ⟨ask, stage, ?_, ?_, hbusy.stage, hbusy.source,
    Or.inr ⟨_, _, hreading, hnext⟩⟩⟩, ?_⟩
  · rw [hpairs]
    exact hbusy.asked
  · rw [hpairs]
    exact hbusy.ran
  · rw [Answered, hpairs]
    exact hanswered

/-- The write that is read is the only one that the client has not read. -/
theorem Unread.eq (hunread : Unread conn done [ack]) {kind : OutgoingWrite}
    (hkind : conn.outgoing.kinds[i]? = some kind) (hbroadcast : kind ≠ .broadcast)
    (hnot : i ∉ done) : i = ack := by
  by_contra hne
  exact hnot (hunread i kind hkind hbroadcast (by simp [hne]))

/-- The ack, which is read once: the call keeps it. -/
theorem AckRead.receive (hread : AckRead client ask done ack made)
    (hacked : Acked conn words ack made)
    (hseq : made.ackJson.sequenceId.val = ask.2.val) {seqId : ClientSeqId}
    {ackJ : Option (Json D)} (hcall : client.call = some (.cmdSendRecv seqId ackJ)) {js : Json D}
    (hword : words[ack]? = some js) (hparse : lib.parse ⟨inStr.toArray⟩ = .value js)
    (hnot : ack ∉ done)
    (hclient : { client with readStream := after }.receive lib literal ⟨inStr.toArray⟩
      (.cmdSendRecv seqId ackJ) = client') :
    client' = { client with
      readStream := after
      call := some (.cmdSendRecv ask.2 (some made.ackJson.toJson)) } := by
  obtain ⟨hwaits, -⟩ | ⟨-, hmem⟩ := hread
  · rw [hwaits] at hcall
    cases hcall
    rw [hacked.word] at hword
    cases hword
    rw [← hclient, receive_ack hparse (hasSeqId_reply hseq)]
  · exact absurd hmem hnot

/-- The final reply, for which the ack is read: the call returns the pair of both. -/
theorem Busy.readsFinal (hwords : Worded lib conn words)
    (hbusy : Busy own lib literal s₀ acts conn client words ask (.ended ack made reply i))
    (hanswered : Answered own lib literal s₀ acts client)
    (hread : AckRead client ask done ack made)
    (hunread : Unread conn done [ack, i]) {seqId : ClientSeqId} {ackJ : Option (Json D)}
    (hcall : client.call = some (.cmdSendRecv seqId ackJ)) {js : Json D}
    (hword : words[i]? = some js) (hparse : lib.parse ⟨inStr.toArray⟩ = .value js)
    (hackDone : ack ∈ done)
    (hreading : ReadsOf conn { client with readStream := after } (done ++ [i]) rest')
    (hclient : { client with readStream := after }.receive lib literal ⟨inStr.toArray⟩
      (.cmdSendRecv seqId ackJ) = client') :
    Served own lib literal s₀ acts conn client' ∧ Answered own lib literal s₀ acts client' := by
  obtain ⟨hthreads, -, -, hfinalWord⟩ := hbusy.stage
  obtain ⟨hran, hackSeq, hreplySeq⟩ := hbusy.source
  obtain ⟨earlier, hasked, hlength⟩ := hbusy.asked
  rw [hfinalWord] at hword
  cases hword
  obtain ⟨-, hackNot⟩ | ⟨hwaits, -⟩ := hread
  · exact absurd hackDone hackNot
  rw [hwaits] at hcall
  cases hcall
  rw [receive_final hparse (hasSeqId_reply hreplySeq)] at hclient
  subst hclient
  have hpairs : pairs ({ client with readStream := after }.finish
      (.pair ask.2 made.ackJson.toJson reply.toJson)) =
        pairs client ++ [(ask.2, made.ackJson.toJson, reply.toJson)] := by
    simp [pairs, ComClient.finish, pair?]
  -- with the final reply everything but broadcasts was read
  have hall : Unread conn (done ++ [i]) [] := by
    intro j kind hkind hne _
    by_cases hj : j ∈ [ack, i]
    · obtain rfl | rfl : j = ack ∨ j = i := by simpa using hj
      · exact List.mem_append_left _ hackDone
      · exact List.mem_append_right _ (List.mem_singleton_self _)
    · exact List.mem_append_left _ (hunread j kind hkind hne hj)
  refine ⟨⟨words, hwords, Or.inl ⟨?_, ?_, hthreads, noCommand_finish _, done ++ [i], rest',
    hreading, hall⟩⟩, hanswered.append hasked hlength (hran.answers hackSeq hreplySeq) hpairs⟩
  · rw [hpairs, hasked, List.length_append, List.length_append, hlength]
    rfl
  · rw [hpairs, hbusy.ran, List.length_append]
    rfl

/-- **A call of `cmdSendRecv` reads a message**: one for all, which is stored, or the ack, or
the final reply. -/
theorem Served.command (h : Served own lib literal s₀ acts conn client)
    (hanswered : Answered own lib literal s₀ acts client) {seqId : ClientSeqId}
    {ackJ : Option (Json D)} (hcall : client.call = some (.cmdSendRecv seqId ackJ))
    (hframe : ComClient.readCommand client.readStream = some (inStr, after))
    (hclient : { client with readStream := after }.receive lib literal ⟨inStr.toArray⟩
      (.cmdSendRecv seqId ackJ) = client') :
    Served own lib literal s₀ acts conn client' ∧ Answered own lib literal s₀ acts client' := by
  obtain ⟨words, hwords, hidle | ⟨ask, stage, hbusy⟩⟩ := h
  · exact absurd hcall (hidle.call _ _)
  obtain ⟨-, hnone⟩ | ⟨done, rest, hreading, hfollowed⟩ := hbusy.client
  · exact absurd hcall (hnone _ _)
  obtain ⟨i, rest', js, kind, hkind, hword, hparse, hnot, hneeds, hreading'⟩ :=
    readsOf_next hwords hreading hframe
  by_cases hbroadcast : kind = .broadcast
  · subst hbroadcast
    obtain ⟨id, hid⟩ := hwords.id js (List.mem_of_getElem? hword)
    rw [receive_announced hparse (hwords.announces i js hkind hword) hid] at hclient
    subst hclient
    exact hbusy.goesOn hwords hanswered rfl hreading'
      ((hfollowed.keep hbusy.stage hkind).of_same rfl rfl)
  -- what is left to read are the replies of the stage
  cases stage with
  | waiting => exact absurd (hfollowed.2 i kind hkind hbroadcast List.not_mem_nil) hnot
  | toRun ack command =>
      obtain rfl := hfollowed.2.eq hkind hbroadcast hnot
      have hnext := hfollowed.1.receive hbusy.stage.2.2 hbusy.source.2.1 hcall hword hparse hnot
        hclient
      subst hnext
      exact hbusy.goesOn hwords hanswered rfl hreading'
        ⟨Or.inr ⟨rfl, by simp⟩, hfollowed.2.mono i⟩
  | toReply ack command reply =>
      obtain rfl := hfollowed.2.eq hkind hbroadcast hnot
      have hnext := hfollowed.1.receive hbusy.stage.2.2 hbusy.source.2.1 hcall hword hparse hnot
        hclient
      subst hnext
      exact hbusy.goesOn hwords hanswered rfl hreading'
        ⟨Or.inr ⟨rfl, by simp⟩, hfollowed.2.mono i⟩
  | ended ack command reply final =>
      obtain ⟨-, hacked, hfinalKind, -⟩ := hbusy.stage
      obtain ⟨hread, hfinal, hunread⟩ := hfollowed
      by_cases hi : i = ack
      · subst hi
        have hnext := hread.receive hacked hbusy.source.2.1 hcall hword hparse hnot hclient
        subst hnext
        have hfinal' : final ∉ done ++ [i] := by
          intro hmem
          obtain hold | hnew := List.mem_append.mp hmem
          · exact hfinal hold
          · rw [List.mem_singleton.mp hnew, hacked.kind] at hfinalKind
            cases hfinalKind
        exact hbusy.goesOn hwords hanswered rfl hreading'
          ⟨Or.inr ⟨rfl, by simp⟩, hfinal', hunread.mono i⟩
      · have hlast : i = final := by
          by_contra hne
          exact hnot (hunread i kind hkind hbroadcast (by simp [hi, hne]))
        subst hlast
        rw [hfinalKind] at hkind
        cases hkind
        exact hbusy.readsFinal hwords hanswered hread hunread hcall hword hparse
          (hneeds ack rfl) hreading' hclient

end reading

/-! ## The steps of the client -/

/-- A call of `cmdSendRecv` begins. -/
theorem Served.begins (h : Served own lib literal s₀ acts conn client)
    (hanswered : Answered own lib literal s₀ acts client) {jStr : String} {seqId : ClientSeqId}
    (hcall : client.call = none) (hopen : client.isOpen = true)
    (hnumbered : Numbered lib jStr seqId) {a : SessionAction}
    (hasks : asks (after own lib literal s₀ acts) a = [(jStr.toUTF8, seqId)])
    (hruns : runs own (after own lib literal s₀ acts) a = []) :
    Served own lib literal s₀ (acts ++ [a])
        { conn with streamBuf := conn.streamBuf ++ Outgoing.buffer jStr }
        { client with call := some (.cmdSendRecv seqId none) } ∧
      Answered own lib literal s₀ (acts ++ [a])
        { client with call := some (.cmdSendRecv seqId none) } := by
  have hasked : asked own lib literal s₀ (acts ++ [a]) =
      asked own lib literal s₀ acts ++ [(jStr.toUTF8, seqId)] := by
    rw [asked, outputs_concat, hasks]
  have hran : ran own lib literal s₀ (acts ++ [a]) = ran own lib literal s₀ acts := by
    rw [ran, outputs_concat, hruns, List.append_nil]
  obtain ⟨words, hwords, hidle | ⟨ask, stage, hbusy⟩⟩ := h
  -- the command waits in the buffer of the connection
  · obtain ⟨done, rest, hreading, hunread⟩ := hidle.reading
    refine ⟨⟨words, hwords.of_eq rfl fun _ => rfl,
      Or.inr ⟨(jStr.toUTF8, seqId), .waiting, ⟨_, hasked, hidle.asked⟩, ?_, ?_, hnumbered.2,
        Or.inr ⟨done, rest, hreading, rfl, hunread⟩⟩⟩, ?_⟩
    · rw [hran]
      exact hidle.ran
    · refine ⟨hnumbered.1, ?_, hidle.threads.running, hidle.threads.inactive⟩
      rw [hidle.threads.streamBuf, List.nil_append, buffer_eq]
    · have hlength := hidle.asked
      unfold Answered at hanswered ⊢
      have htake : (asked own lib literal s₀ (acts ++ [a])).take (pairs client).length =
          (asked own lib literal s₀ acts).take (pairs client).length := by
        rw [hasked, List.take_append_of_le_length hlength.ge]
      have hpairs : pairs { client with call := some (.cmdSendRecv seqId none) } = pairs client :=
        rfl
      rw [hpairs, htake]
      exact List.Forall₂.imp (fun ask pair hanswer => hanswer.concat a) hanswered
  -- no call begins while one is open
  · obtain ⟨hlost, -⟩ | ⟨done, rest, -, hfollowed⟩ := hbusy.client
    · rw [hopen] at hlost
      cases hlost
    · obtain ⟨ackJ, hcommand⟩ := hfollowed.command
      rw [hcall] at hcommand
      cases hcommand

/-- The client reads. -/
theorem Served.readStep (h : Served own lib literal s₀ acts conn client)
    (hanswered : Answered own lib literal s₀ acts client) :
    Served own lib literal s₀ acts conn (client.step lib literal .read) ∧
      Answered own lib literal s₀ acts (client.step lib literal .read) := by
  cases hcall : client.call with
  | none =>
      have hstep : client.step lib literal .read = client := by
        simp only [ComClient.step, hcall]
      rw [hstep]
      exact ⟨h, hanswered⟩
  | some call =>
      cases hframe : ComClient.readCommand client.readStream with
      | none =>
          cases hopen : client.isOpen with
          | true =>
              have hstep : client.step lib literal .read = client := by
                simp only [ComClient.step, hcall, hframe, hopen, if_true]
              rw [hstep]
              exact ⟨h, hanswered⟩
          | false =>
              have hstep : client.step lib literal .read = client.finish .systemError := by
                simp only [ComClient.step, hcall, hframe, hopen, Bool.false_eq_true, if_false]
              have hpairs : pairs (client.finish .systemError) = pairs client := pairs_finish rfl
              rw [hstep, Answered, hpairs]
              exact ⟨h.systemError hopen, hanswered⟩
      | some frame =>
          obtain ⟨inStr, after⟩ := frame
          have hstep : client.step lib literal .read =
              { client with readStream := after }.receive lib literal ⟨inStr.toArray⟩ call := by
            simp only [ComClient.step, hcall, hframe]
          -- a call that is no command does not touch the pairs
          by_cases hcommand : NoCommand client
          · have haside : Aside { client with readStream := after }
                (client.step lib literal .read) := by
              have hcommand' : NoCommand { client with readStream := after } := hcommand
              rw [hstep]
              exact aside_receive hcommand' hcall _
            have hpairs : pairs (client.step lib literal .read) = pairs client := haside.pairs
            refine ⟨h.aside hcommand hframe haside, ?_⟩
            rw [Answered, hpairs]
            exact hanswered
          · obtain ⟨seqId, ackJ, hsame⟩ : ∃ seqId ackJ,
                client.call = some (.cmdSendRecv seqId ackJ) := by
              simpa [NoCommand] using hcommand
            rw [hcall] at hsame
            cases hsame
            exact h.command hanswered hcall hframe hstep.symm

/-- A step that writes nothing and asks nothing. -/
theorem Served.quietStep {action : ClientAction}
    (hwritten : client.written action = [])
    (hasks : asks (after own lib literal s₀ acts) (.client action) = [])
    (hserved : Served own lib literal s₀ acts conn client')
    (hanswered : Answered own lib literal s₀ acts client') :
    Served own lib literal s₀ (acts ++ [.client action])
        { conn with streamBuf := conn.streamBuf ++ client.written action } client' ∧
      Answered own lib literal s₀ (acts ++ [.client action]) client' := by
  rw [hwritten, List.append_nil]
  exact ⟨hserved.concat hasks rfl, hanswered.concat hasks rfl⟩

/-- Another call than `cmdSendRecv` begins, unless one is under way. -/
theorem Served.begin (h : Served own lib literal s₀ acts conn client)
    (hanswered : Answered own lib literal s₀ acts client) (call : ClientCall D)
    (hother : ∀ seqId ackJ, call ≠ .cmdSendRecv seqId ackJ) :
    Served own lib literal s₀ acts conn (client.begin call) ∧
      Answered own lib literal s₀ acts (client.begin call) := by
  unfold ComClient.begin
  split_ifs with hnone
  · have hcall : NoCommand client := by
      intro seqId ackJ heq
      rw [heq] at hnone
      cases hnone
    refine ⟨h.of_client rfl rfl id (Or.inr ⟨hcall, fun seqId ackJ heq => ?_⟩), hanswered⟩
    exact hother seqId ackJ (Option.some.inj heq)
  · exact ⟨h, hanswered⟩

/-- `recvDequeForId` returns what the map has, or begins to read. -/
theorem Served.recvDequeForId (h : Served own lib literal s₀ acts conn client)
    (hanswered : Answered own lib literal s₀ acts client) (key : String) :
    Served own lib literal s₀ acts conn (client.step lib literal (.recvDequeForId key)) ∧
      Answered own lib literal s₀ acts (client.step lib literal (.recvDequeForId key)) := by
  cases hcall : client.call with
  | some call =>
      have hstep : client.step lib literal (.recvDequeForId key) = client := by
        simp only [ComClient.step, hcall, Option.isSome_some, if_true]
      rw [hstep]
      exact ⟨h, hanswered⟩
  | none =>
      have hnone : NoCommand client := by
        intro seqId ackJ heq
        rw [hcall] at heq
        cases heq
      simp only [ComClient.step, hcall, Option.isSome_none, Bool.false_eq_true, if_false]
      split_ifs
      · -- the map has nothing for the key
        have hstep : ({ client with
            jMsgMap := (client.jMsgMap.getDequeFor key).1 }.begin (.recvDequeForId key)) =
              { client with
                jMsgMap := (client.jMsgMap.getDequeFor key).1
                call := some (.recvDequeForId key) } := by
          simp only [ComClient.begin, hcall, Option.isNone_none, if_true]
        rw [hcall] at hstep
        rw [hstep]
        exact ⟨h.of_client rfl rfl id (Or.inr ⟨hnone, fun _ _ => nofun⟩), hanswered⟩
      · have hpairs : pairs ({ client with
            jMsgMap := (client.jMsgMap.getDequeFor key).1 }.finish
              (.deque (client.jMsgMap.getDequeFor key).2)) = pairs client := pairs_finish rfl
        rw [hcall] at hpairs
        refine ⟨h.of_client rfl hpairs id (Or.inr ⟨hnone, noCommand_finish _⟩), ?_⟩
        rw [Answered, hpairs]
        exact hanswered

/-- `cmdSendRecv` begins, unless a call is under way or the connection is lost. -/
theorem Served.cmdSendRecv {jStr : String} {seqId : ClientSeqId}
    (h : Served own lib literal s₀ acts conn (after own lib literal s₀ acts).client)
    (hanswered : Answered own lib literal s₀ acts (after own lib literal s₀ acts).client)
    (hnumbered : Numbered lib jStr seqId) :
    Served own lib literal s₀ (acts ++ [.client (.cmdSendRecv jStr seqId)])
        { conn with
          streamBuf := conn.streamBuf ++
            (after own lib literal s₀ acts).client.written (.cmdSendRecv jStr seqId) }
        ((after own lib literal s₀ acts).client.step lib literal (.cmdSendRecv jStr seqId)) ∧
      Answered own lib literal s₀ (acts ++ [.client (.cmdSendRecv jStr seqId)])
        ((after own lib literal s₀ acts).client.step lib literal (.cmdSendRecv jStr seqId)) := by
  generalize hclient : (after own lib literal s₀ acts).client = client at *
  cases hcall : client.call with
  | some call =>
      have hstep : client.step lib literal (.cmdSendRecv jStr seqId) = client := by
        simp only [ComClient.step, hcall, Option.isSome_some, if_true]
      rw [hstep]
      refine Served.quietStep ?_ ?_ h hanswered
      · simp [ComClient.written, hcall]
      · simp [CommandSession.asks, hclient, hcall]
  | none =>
      cases hopen : client.isOpen with
      | false =>
          have hstep : client.step lib literal (.cmdSendRecv jStr seqId) =
              client.finish .systemError := by
            simp [ComClient.step, hcall, hopen]
          have hpairs : pairs (client.finish .systemError) = pairs client := pairs_finish rfl
          rw [hstep]
          refine Served.quietStep ?_ ?_ (h.systemError hopen) ?_
          · simp [ComClient.written, hopen]
          · simp [CommandSession.asks, hclient, hopen]
          · rw [Answered, hpairs]
            exact hanswered
      | true =>
          have hstep : client.step lib literal (.cmdSendRecv jStr seqId) =
              { client with call := some (.cmdSendRecv seqId none) } := by
            simp [ComClient.step, ComClient.begin, hcall, hopen]
          have hwritten : client.written (.cmdSendRecv jStr seqId) = Outgoing.buffer jStr := by
            simp [ComClient.written, Outgoing.buffer, hcall, hopen]
          rw [hstep, hwritten]
          refine h.begins hanswered hcall hopen hnumbered ?_ rfl
          simp [CommandSession.asks, hclient, hcall, hopen]

end follow

/-! ## Runs -/

section runs

variable {own : ℕ} {lib : JsonLibrary D} {literal : ℚ → D}

theorem cmdMap_interpretCommand (m : ByteArray) (f : NetCommandFactory) :
    (interpretCommand lib m f).1.cmdMap = f.cmdMap := by
  simp only [interpretCommand, getCommandFor]
  split
  · rfl
  · split
    · rfl
    · split_ifs <;> rfl

/-- The factory keeps its commands. -/
theorem cmdMap_step (s : CommandServer D) (a : CommandServerAction) :
    (s.step lib a).factory.cmdMap = s.factory.cmdMap := by
  by_cases hend : s.terminated = true
  · cases a with
    | arrive connId bytes => rfl
    | _ => simp only [CommandServer.step, if_pos hend]
  cases a with
  | readCommand connId =>
      simp only [CommandServer.step, if_neg hend, CommandServer.serve, CommandServer.readCommand]
      split_ifs
      · split
        · rfl
        · next msgStr rest hread =>
            have hmap : (interpretCommand lib ⟨msgStr.toArray⟩ s.factory).1.cmdMap =
                s.factory.cmdMap := cmdMap_interpretCommand _ _
            split
            · next factory responseStr command hcommand =>
                rw [hcommand] at hmap
                exact hmap
            · next factory error hcommand =>
                rw [hcommand] at hmap
                exact hmap
      · rfl
  | runAction connId ack clock =>
      simp only [CommandServer.step, if_neg hend, CommandServer.serve, CommandServer.runAction]
      split
      · next command hthread =>
          have hfold (vals : List (Json D)) (s : CommandServer D) :
              ∃ conn, vals.foldl (fun s js => s.asyncWriteToAllComConn (lib.dump js)) s =
                { s with conn := conn } := foldl_asyncWriteToAll vals s
          -- broadcasts go to the connections only
          obtain ⟨conn, hconn⟩ := hfold
            (CommandServer.newBroadcasts s.controller (command.run clock s.controller).1)
            ({ s with controller := (command.run clock s.controller).1 }.setConn connId
              { s.conn connId with
                thread := Function.update (s.conn connId).thread ack
                  (.toReply (command.run clock s.controller).2) })
          rw [hconn]
          rfl
      · rfl
  | finalReply connId ack =>
      simp only [CommandServer.step, if_neg hend, CommandServer.serve, CommandServer.finalReply]
      split <;> rfl
  | _ =>
      simp only [CommandServer.step, if_neg hend]
      rfl

variable [Double D] {controller : Controller D} {acts : List SessionAction}

theorem cmdMap_after (acts : List SessionAction) :
    (after own lib literal (start controller) acts).server.factory.cmdMap = normal.cmdMap := by
  refine run_invariant (fun s : CommandSession D => s.server.factory.cmdMap = normal.cmdMap)
    (fun s a hs => ?_) rfl acts
  cases a with
  | server action => exact (cmdMap_step s.server action).trans hs
  | client action => exact (cmdMap_step s.server _).trans hs

end runs

/-! ## A client that gives the control away -/

/-- The controller when the program starts. -/
def started : Controller ℚ := ⟨.new 0, true, true, 0, []⟩

end CommandSession

end M2Cell
