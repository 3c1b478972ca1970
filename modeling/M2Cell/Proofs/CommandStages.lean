import M2Cell.Proofs.CommandServer
import M2Cell.Proofs.CommandChannel

/-!
# The stages of a command

Between two calls of `cmdSendRecv` nothing of the client is under way at the server
(`Idle`).  During a call its command goes through the stages of `Stage`, and the client
has read the replies of all earlier calls, so that the only replies it can still read are
those of this one (`Busy`).  A client that has lost its connection calls no more (`Lost`).

Of a stage `Stage.Of` says what the connection is like, `Stage.From` where in the run the
command comes from, and `Stage.FollowedBy` what the client has read of its replies.

`Served` is the invariant, and every step of the server keeps it (`Served.serverStep`),
with one lemma for each kind of step that `OwnStep` knows:

* a message for all is written, at any stage (`Served.announce`);
* the handler reads the message, and the stage is `toRun` (`Served.read`);
* the thread of the command runs it, and the stage is `toReply` (`Served.run`);
* the thread starts the write of the final reply, and the stage is `ended`
  (`Served.reply`);
* a part of a write, or the end of the ack, moves bytes to the client and no stage
  (`Served.send`, `Served.sent`).
-/

namespace M2Cell

namespace CommandSession

open NetCommandFactory

variable {D : Type}

/-! ## The stages of a command -/

/-- How far the command of a call is at the server. -/
inductive Stage
  /-- The message is not read. -/
  | waiting
  | toRun (ack : ℕ) (command : NetCommand)
  | toReply (ack : ℕ) (command : NetCommand) (reply : Reply)
  /-- The write `final` of the final reply is started. -/
  | ended (ack : ℕ) (command : NetCommand) (reply : Reply) (final : ℕ)

/-- How often the action has run. -/
def Stage.ran : Stage → ℕ
  | waiting => 0
  | toRun _ _ => 0
  | toReply _ _ _ => 1
  | ended _ _ _ _ => 1

/-- The bytes that are unread, and the one thread that has something to do. -/
structure Threads (conn : ComControl) (streamBuf : List UInt8) (active : Option ℕ) : Prop where
  streamBuf : conn.streamBuf = streamBuf
  running : conn.outgoing.running = active.toList
  inactive : ∀ ack, active ≠ some ack → conn.thread ack = .absent ∨ conn.thread ack = .ended

/-- The ack of a command is among the writes. -/
structure Acked (conn : ComControl) (words : List (Json D)) (ack : ℕ) (command : NetCommand) :
    Prop where
  kind : conn.outgoing.kinds[ack]? = some .ack
  word : words[ack]? = some command.ackJson.toJson

/-- The connection at a stage. -/
def Stage.Of (ask : Ask) (conn : ComControl) (words : List (Json D)) : Stage → Prop
  | waiting =>
      ComConnection.readUntil ask.1.data.toList = none ∧
        Threads conn (ask.1.data.toList ++ [ComConnection.cr, ComConnection.lf]) none
  | toRun ack command =>
      Threads conn [] (some ack) ∧ conn.thread ack = .toRun command ∧ Acked conn words ack command
  | toReply ack command reply =>
      Threads conn [] (some ack) ∧ conn.thread ack = .toReply reply ∧ Acked conn words ack command
  | ended ack command reply final =>
      Threads conn [] none ∧ Acked conn words ack command ∧
        conn.outgoing.kinds[final]? = some (.final ack) ∧ words[final]? = some reply.toJson

/-- The replies that the client has not read are among those of a list. -/
def Unread (conn : ComControl) (done replies : List ℕ) : Prop :=
  ∀ (i : ℕ) (kind : OutgoingWrite), conn.outgoing.kinds[i]? = some kind → kind ≠ .broadcast →
    i ∉ replies → i ∈ done

/-- The client waits for the ack, or has it. -/
def AckRead (client : ComClient D) (ask : Ask) (done : List ℕ) (ack : ℕ) (command : NetCommand) :
    Prop :=
  (client.call = some (.cmdSendRecv ask.2 none) ∧ ack ∉ done) ∨
    (client.call = some (.cmdSendRecv ask.2 (some command.ackJson.toJson)) ∧ ack ∈ done)

/-- What the client has read at a stage. -/
def Stage.FollowedBy (ask : Ask) (conn : ComControl) (client : ComClient D) (done : List ℕ) :
    Stage → Prop
  | waiting => client.call = some (.cmdSendRecv ask.2 none) ∧ Unread conn done []
  | toRun ack command => AckRead client ask done ack command ∧ Unread conn done [ack]
  | toReply ack command _ => AckRead client ask done ack command ∧ Unread conn done [ack]
  | ended ack command _ final =>
      AckRead client ask done ack command ∧ final ∉ done ∧ Unread conn done [ack, final]

/-- The client is not in a call of `cmdSendRecv`. -/
def NoCommand (client : ComClient D) : Prop :=
  ∀ seqId ackJ, client.call ≠ some (.cmdSendRecv seqId ackJ)

/-- The connection is lost. -/
def Lost (client : ComClient D) : Prop := client.isOpen = false ∧ NoCommand client

/-- The client reads the writes of the connection. -/
abbrev ReadsOf (conn : ComControl) (client : ComClient D) (done rest : List ℕ) : Prop :=
  SharedStream.Reading conn.outgoing.Needs conn.outgoing.socket client.readStream done rest

section source

variable (own : ℕ) (lib : JsonLibrary D) (literal : ℚ → D) [Double D] (s₀ : CommandSession D)

/-- The session after a run. -/
abbrev after (acts : List SessionAction) : CommandSession D := run (step own lib literal) s₀ acts

/-- The commands that were sent in a run. -/
abbrev asked (acts : List SessionAction) : List Ask :=
  outputs (step own lib literal) asks s₀ acts

/-- The commands of the client whose actions were run. -/
abbrev ran (acts : List SessionAction) : List NetCommand :=
  outputs (step own lib literal) (runs own) s₀ acts

/-- The server has made the command of the message. -/
def Made (acts : List SessionAction) (ask : Ask) (command : NetCommand) : Prop :=
  ∃ before between, acts = before ++ .server (.readCommand own) :: between ∧
    (interpretCommand lib ask.1 (after own lib literal s₀ before).server.factory).2 =
      .ok (lib.dump command.ackJson.toJson, command)

/-- The server has run the command of the message, with the reply. -/
def Ran (acts : List SessionAction) (ask : Ask) (command : NetCommand) (reply : Reply) : Prop :=
  ∃ before between rest ack clock,
    acts = before ++ .server (.readCommand own) :: between ++
      .server (.runAction own ack clock) :: rest ∧
    (interpretCommand lib ask.1 (after own lib literal s₀ before).server.factory).2 =
      .ok (lib.dump command.ackJson.toJson, command) ∧
    reply = (command.run clock (after own lib literal s₀
      (before ++ .server (.readCommand own) :: between)).server.controller).2

/-- Where the command of a stage comes from. -/
def Stage.From (acts : List SessionAction) (ask : Ask) : Stage → Prop
  | waiting => (seq? lib ask.1).map Fin.val = some ask.2.val
  | toRun _ command =>
      Made own lib literal s₀ acts ask command ∧ command.ackJson.sequenceId.val = ask.2.val ∧
        command.respJson.sequenceId.val = ask.2.val
  | toReply _ command reply =>
      Ran own lib literal s₀ acts ask command reply ∧
        command.ackJson.sequenceId.val = ask.2.val ∧ reply.sequenceId.val = ask.2.val
  | ended _ command reply _ =>
      Ran own lib literal s₀ acts ask command reply ∧
        command.ackJson.sequenceId.val = ask.2.val ∧ reply.sequenceId.val = ask.2.val

/-- Nothing of the client is under way. -/
structure Idle (acts : List SessionAction) (conn : ComControl) (client : ComClient D) : Prop where
  asked : (asked own lib literal s₀ acts).length = (pairs client).length
  ran : (ran own lib literal s₀ acts).length = (pairs client).length
  threads : Threads conn [] none
  call : NoCommand client
  reading : ∃ done rest, ReadsOf conn client done rest ∧ Unread conn done []

/-- A command of the client is at a stage. -/
structure Busy (acts : List SessionAction) (conn : ComControl) (client : ComClient D)
    (words : List (Json D)) (ask : Ask) (point : Stage) : Prop where
  asked : ∃ earlier, asked own lib literal s₀ acts = earlier ++ [ask] ∧
    earlier.length = (pairs client).length
  ran : (ran own lib literal s₀ acts).length = (pairs client).length + point.ran
  stage : point.Of ask conn words
  source : point.From own lib literal s₀ acts ask
  client : Lost client ∨
    ∃ done rest, ReadsOf conn client done rest ∧ point.FollowedBy ask conn client done

/-- What holds of the connection and its client. -/
def Served (acts : List SessionAction) (conn : ComControl) (client : ComClient D) : Prop :=
  ∃ words, Worded lib conn words ∧
    (Idle own lib literal s₀ acts conn client ∨
      ∃ ask stage, Busy own lib literal s₀ acts conn client words ask stage)

/-- The pairs that were returned answer the commands in order. -/
def Answered (acts : List SessionAction) (client : ComClient D) : Prop :=
  List.Forall₂ (Answers own lib literal s₀ acts)
    ((asked own lib literal s₀ acts).take (pairs client).length) (pairs client)

end source

/-! ## Runs that go on -/

section concat

variable {own : ℕ} {lib : JsonLibrary D} {literal : ℚ → D} [Double D] {s₀ : CommandSession D}
  {acts : List SessionAction} {ask : Ask} {command : NetCommand} {reply : Reply}

theorem Made.concat (h : Made own lib literal s₀ acts ask command) (a : SessionAction) :
    Made own lib literal s₀ (acts ++ [a]) ask command := by
  obtain ⟨before, between, rfl, hcommand⟩ := h
  exact ⟨before, between ++ [a], by simp, hcommand⟩

theorem Ran.concat (h : Ran own lib literal s₀ acts ask command reply) (a : SessionAction) :
    Ran own lib literal s₀ (acts ++ [a]) ask command reply := by
  obtain ⟨before, between, rest, ack, clock, rfl, hcommand, hreply⟩ := h
  exact ⟨before, between, rest ++ [a], ack, clock, by simp, hcommand, hreply⟩

theorem Made.ran (h : Made own lib literal s₀ acts ask command) (ack : ℕ) (clock : Clocks) :
    Ran own lib literal s₀ (acts ++ [.server (.runAction own ack clock)]) ask command
      (command.run clock (after own lib literal s₀ acts).server.controller).2 := by
  obtain ⟨before, between, rfl, hcommand⟩ := h
  exact ⟨before, between, [], ack, clock, rfl, hcommand, rfl⟩

theorem Stage.From.concat {stage : Stage} (h : stage.From own lib literal s₀ acts ask)
    (a : SessionAction) : stage.From own lib literal s₀ (acts ++ [a]) ask := by
  cases stage with
  | waiting => exact h
  | toRun ack command => exact ⟨h.1.concat a, h.2⟩
  | toReply ack command reply => exact ⟨h.1.concat a, h.2⟩
  | ended ack command reply final => exact ⟨h.1.concat a, h.2⟩

theorem Answers.concat {pair : ClientSeqId × Json D × Json D}
    (h : Answers own lib literal s₀ acts ask pair) (a : SessionAction) :
    Answers own lib literal s₀ (acts ++ [a]) ask pair := by
  obtain ⟨before, between, rest, ack, clock, command, rfl, hanswer⟩ := h
  exact ⟨before, between, rest ++ [a], ack, clock, command, by simp, hanswer⟩

/-- The two replies of a command that has run answer it. -/
theorem Ran.answers (h : Ran own lib literal s₀ acts ask command reply)
    (hack : command.ackJson.sequenceId.val = ask.2.val)
    (hreply : reply.sequenceId.val = ask.2.val) :
    Answers own lib literal s₀ acts ask (ask.2, command.ackJson.toJson, reply.toJson) := by
  obtain ⟨before, between, rest, ack, clock, rfl, hcommand, rfl⟩ := h
  exact ⟨before, between, rest, ack, clock, command, rfl, hcommand, rfl, hack, hreply⟩

variable {conn : ComControl} {client : ComClient D} {words : List (Json D)}

/-- A step that neither asks nor runs anything. -/
theorem Served.concat (h : Served own lib literal s₀ acts conn client) {a : SessionAction}
    (hasks : asks (after own lib literal s₀ acts) a = [])
    (hruns : runs own (after own lib literal s₀ acts) a = []) :
    Served own lib literal s₀ (acts ++ [a]) conn client := by
  have hasked : asked own lib literal s₀ (acts ++ [a]) = asked own lib literal s₀ acts := by
    rw [asked, outputs_concat, hasks, List.append_nil]
  have hran : ran own lib literal s₀ (acts ++ [a]) = ran own lib literal s₀ acts := by
    rw [ran, outputs_concat, hruns, List.append_nil]
  obtain ⟨words, hwords, hidle | ⟨ask, stage, hbusy⟩⟩ := h
  · refine ⟨words, hwords, Or.inl ⟨?_, ?_, hidle.threads, hidle.call, hidle.reading⟩⟩
    · rw [hasked]
      exact hidle.asked
    · rw [hran]
      exact hidle.ran
  · refine ⟨words, hwords, Or.inr ⟨ask, stage, ?_, ?_, hbusy.stage, hbusy.source.concat a,
      hbusy.client⟩⟩
    · rw [hasked]
      exact hbusy.asked
    · rw [hran]
      exact hbusy.ran

/-- A step that asks nothing, and after which the same pairs were returned. -/
theorem Answered.concat (h : Answered own lib literal s₀ acts client) {a : SessionAction}
    (hasks : asks (after own lib literal s₀ acts) a = []) {client' : ComClient D}
    (hpairs : pairs client' = pairs client) :
    Answered own lib literal s₀ (acts ++ [a]) client' := by
  have hasked : asked own lib literal s₀ (acts ++ [a]) = asked own lib literal s₀ acts := by
    rw [asked, outputs_concat, hasks, List.append_nil]
  unfold Answered
  rw [hasked, hpairs]
  exact List.Forall₂.imp (fun ask pair hanswer => hanswer.concat a) h

end concat

/-! ## One more write -/

section grow

variable {lib : JsonLibrary D} {conn conn' : ComControl} {client : ComClient D}
  {words : List (Json D)} {ask : Ask} {done rest replies : List ℕ} {kind : OutgoingWrite}
  (hkinds : conn'.outgoing.kinds = conn.outgoing.kinds ++ [kind])
include hkinds

theorem kinds_grow {i : ℕ} {old : OutgoingWrite} (h : conn.outgoing.kinds[i]? = some old) :
    conn'.outgoing.kinds[i]? = some old := by
  rw [hkinds, List.getElem?_append_left (List.getElem?_eq_some_iff.mp h).1]
  exact h

theorem Acked.grow {ack : ℕ} {command : NetCommand} (h : Acked conn words ack command)
    (js : Json D) : Acked conn' (words ++ [js]) ack command := by
  refine ⟨kinds_grow hkinds h.kind, ?_⟩
  rw [List.getElem?_append_left (List.getElem?_eq_some_iff.mp h.word).1]
  exact h.word

/-- The new write is a broadcast, or one of the replies. -/
theorem Unread.grow (h : Unread conn done replies) {replies' : List ℕ} (hsub : replies ⊆ replies')
    (hnew : kind ≠ .broadcast → conn.outgoing.kinds.length ∈ replies') :
    Unread conn' done replies' := by
  intro i other hother hne hnot
  rw [hkinds] at hother
  obtain hlt | hge := Nat.lt_or_ge i conn.outgoing.kinds.length
  · rw [List.getElem?_append_left hlt] at hother
    exact h i other hother hne fun hmem => hnot (hsub hmem)
  · have hi : i = conn.outgoing.kinds.length := by
      have hbound := (List.getElem?_eq_some_iff.mp hother).1
      rw [List.length_append, List.length_singleton] at hbound
      omega
    subst hi
    rw [List.getElem?_concat_length] at hother
    cases hother
    exact absurd (hnew hne) hnot

theorem readsOf_grow (h : ReadsOf conn client done rest) {text : List UInt8}
    (hsocket : conn'.outgoing.socket = conn.outgoing.socket.start text) :
    ReadsOf conn' client done rest := by
  unfold ReadsOf
  rw [hsocket]
  refine h.start (fun i j hlt hneeds => ?_) text
  rw [← conn.outgoing.aligned] at hlt
  rwa [Outgoing.Needs, hkinds, List.getElem?_append_left hlt] at hneeds

end grow

/-- A write whose number has not been given is not read. -/
theorem notMem_done {conn : ComControl} {client : ComClient D} {done rest : List ℕ}
    (h : ReadsOf conn client done rest) : conn.outgoing.kinds.length ∉ done := by
  intro hmem
  have hlt := SharedStream.lt_length_of_pos (h.whole _ hmem).1
  rw [conn.outgoing.aligned] at hlt
  exact absurd hlt (lt_irrefl _)

theorem not_overflows_of_seq {lib : JsonLibrary D} {m : ByteArray} {seqId : SeqId}
    (h : seq? lib m = some seqId) : ¬ Overflows lib m := by
  intro hover
  obtain ⟨message, hread, -⟩ := Option.map_eq_some_iff.mp h
  unfold read? at hread
  unfold Overflows at hover
  cases hparse : lib.parse m with
  | value js => simp [hparse, ParseResult.isOutOfRange] at hover
  | parseError what => simp [hparse, ParseResult.isOutOfRange] at hover
  | outOfRange what => simp [hparse] at hread

section serve

variable {ask : Ask} {stage : Stage} {conn : ComControl} {client : ComClient D}
  {words : List (Json D)}

theorem Threads.broadcast {streamBuf : List UInt8} {active : Option ℕ}
    (h : Threads conn streamBuf active) (msg : String) :
    Threads (conn.broadcast msg) streamBuf active :=
  ⟨h.streamBuf, h.running, h.inactive⟩

theorem Stage.Of.broadcast (h : stage.Of ask conn words) (msg : String) (js : Json D) :
    stage.Of ask (conn.broadcast msg) (words ++ [js]) := by
  have hkinds : (conn.broadcast msg).outgoing.kinds = conn.outgoing.kinds ++ [.broadcast] := rfl
  cases stage with
  | waiting => exact ⟨h.1, h.2.broadcast msg⟩
  | toRun ack command => exact ⟨h.1.broadcast msg, h.2.1, h.2.2.grow hkinds js⟩
  | toReply ack command reply => exact ⟨h.1.broadcast msg, h.2.1, h.2.2.grow hkinds js⟩
  | ended ack command reply final =>
      obtain ⟨hthreads, hacked, hkind, hword⟩ := h
      refine ⟨hthreads.broadcast msg, hacked.grow hkinds js, kinds_grow hkinds hkind, ?_⟩
      rw [List.getElem?_append_left (List.getElem?_eq_some_iff.mp hword).1]
      exact hword

theorem Stage.FollowedBy.broadcast {done : List ℕ} (h : stage.FollowedBy ask conn client done)
    (msg : String) : stage.FollowedBy ask (conn.broadcast msg) client done := by
  have hkinds : (conn.broadcast msg).outgoing.kinds = conn.outgoing.kinds ++ [.broadcast] := rfl
  have hunread {replies : List ℕ} (hold : Unread conn done replies) :
      Unread (conn.broadcast msg) done replies :=
    hold.grow hkinds (List.Subset.refl _) fun hne => absurd rfl hne
  cases stage with
  | waiting => exact ⟨h.1, hunread h.2⟩
  | toRun ack command => exact ⟨h.1, hunread h.2⟩
  | toReply ack command reply => exact ⟨h.1, hunread h.2⟩
  | ended ack command reply final => exact ⟨h.1, h.2.1, hunread h.2.2⟩

/-- The socket goes on, and what is to be written stays. -/
theorem Stage.Of.of_same (h : stage.Of ask conn words) {conn' : ComControl}
    (hstreamBuf : conn'.streamBuf = conn.streamBuf) (hthread : conn'.thread = conn.thread)
    (hkinds : conn'.outgoing.kinds = conn.outgoing.kinds)
    (hrunning : conn'.outgoing.running = conn.outgoing.running) : stage.Of ask conn' words := by
  have hthreads {streamBuf : List UInt8} {active : Option ℕ}
      (hold : Threads conn streamBuf active) : Threads conn' streamBuf active := by
    refine ⟨hstreamBuf.trans hold.streamBuf, hrunning.trans hold.running, ?_⟩
    rw [hthread]
    exact hold.inactive
  have hacked {ack : ℕ} {command : NetCommand} (hold : Acked conn words ack command) :
      Acked conn' words ack command := ⟨by rw [hkinds]; exact hold.kind, hold.word⟩
  cases stage with
  | waiting => exact ⟨h.1, hthreads h.2⟩
  | toRun ack command => exact ⟨hthreads h.1, by rw [hthread]; exact h.2.1, hacked h.2.2⟩
  | toReply ack command reply => exact ⟨hthreads h.1, by rw [hthread]; exact h.2.1, hacked h.2.2⟩
  | ended ack command reply final =>
      exact ⟨hthreads h.1, hacked h.2.1, by rw [hkinds]; exact h.2.2.1, h.2.2.2⟩

theorem Stage.FollowedBy.of_same {done : List ℕ} (h : stage.FollowedBy ask conn client done)
    {conn' : ComControl} {client' : ComClient D}
    (hkinds : conn'.outgoing.kinds = conn.outgoing.kinds) (hcall : client'.call = client.call) :
    stage.FollowedBy ask conn' client' done := by
  cases stage <;>
    simpa only [Stage.FollowedBy, AckRead, Unread, hkinds, hcall] using h

/-! ## The thread of a command -/

/-- A thread that has something to do is the active one. -/
theorem Threads.eq_active {streamBuf : List UInt8} {active : Option ℕ}
    (h : Threads conn streamBuf active) {ack : ℕ}
    (hthread : conn.thread ack ≠ .absent ∧ conn.thread ack ≠ .ended) : active = some ack := by
  by_contra hne
  obtain habsent | hended := h.inactive ack hne
  · exact hthread.1 habsent
  · exact hthread.2 hended

/-- A thread that has a command to run is at that stage. -/
theorem Stage.Of.eq_toRun (h : stage.Of ask conn words) {ack : ℕ} {command : NetCommand}
    (hthread : conn.thread ack = .toRun command) : stage = .toRun ack command := by
  have hbusy : conn.thread ack ≠ .absent ∧ conn.thread ack ≠ .ended := by
    rw [hthread]
    exact ⟨nofun, nofun⟩
  cases stage with
  | waiting => cases h.2.eq_active hbusy
  | ended i made reply final => cases h.1.eq_active hbusy
  | toRun i made =>
      cases h.1.eq_active hbusy
      rw [h.2.1] at hthread
      cases hthread
      rfl
  | toReply i made reply =>
      cases h.1.eq_active hbusy
      rw [h.2.1] at hthread
      cases hthread

/-- A thread that has a reply to write is at that stage. -/
theorem Stage.Of.eq_toReply (h : stage.Of ask conn words) {ack : ℕ} {reply : Reply}
    (hthread : conn.thread ack = .toReply reply) :
    ∃ command, stage = .toReply ack command reply := by
  have hbusy : conn.thread ack ≠ .absent ∧ conn.thread ack ≠ .ended := by
    rw [hthread]
    exact ⟨nofun, nofun⟩
  cases stage with
  | waiting => cases h.2.eq_active hbusy
  | ended i made reply final => cases h.1.eq_active hbusy
  | toRun i made =>
      cases h.1.eq_active hbusy
      rw [h.2.1] at hthread
      cases hthread
  | toReply i made reply =>
      cases h.1.eq_active hbusy
      rw [h.2.1] at hthread
      cases hthread
      exact ⟨made, rfl⟩

/-- Bytes are unread only before the message is read. -/
theorem Stage.Of.eq_waiting (h : stage.Of ask conn words) (hsome : conn.streamBuf ≠ []) :
    stage = .waiting := by
  cases stage with
  | waiting => rfl
  | toRun i made => exact absurd h.1.streamBuf hsome
  | toReply i made reply => exact absurd h.1.streamBuf hsome
  | ended i made reply final => exact absurd h.1.streamBuf hsome

/-- The client with more bytes to read. -/
def more (bytes : List UInt8) (client : ComClient D) : ComClient D :=
  { client with readStream := client.readStream ++ bytes }

theorem more_nil (client : ComClient D) : more [] client = client := by simp [more]

variable {own : ℕ} {lib : JsonLibrary D} {literal : ℚ → D} [Double D] {s₀ : CommandSession D}
  {acts : List SessionAction}

/-- A message to all. -/
theorem Served.broadcast (h : Served own lib literal s₀ acts conn client) {js : Json D}
    (hreadable : Readable lib js) (hannounces : Announces js) :
    Served own lib literal s₀ acts (conn.broadcast (lib.dump js)) client := by
  obtain ⟨words, hwords, hcase⟩ := h
  have hkinds : (conn.broadcast (lib.dump js)).outgoing.kinds =
      conn.outgoing.kinds ++ [.broadcast] := rfl
  refine ⟨words ++ [js],
    hwords.asyncWrite hreadable hannounces.2 (fun _ => hannounces.1) hkinds rfl, ?_⟩
  obtain hidle | ⟨ask, stage, hbusy⟩ := hcase
  · obtain ⟨done, rest, hreading, hunread⟩ := hidle.reading
    exact Or.inl ⟨hidle.asked, hidle.ran, hidle.threads.broadcast _, hidle.call, done, rest,
      readsOf_grow hkinds hreading rfl,
      hunread.grow hkinds (List.Subset.refl _) fun hne => absurd rfl hne⟩
  · refine Or.inr ⟨ask, stage, hbusy.asked, hbusy.ran, hbusy.stage.broadcast _ js, hbusy.source, ?_⟩
    obtain hlost | ⟨done, rest, hreading, hfollowed⟩ := hbusy.client
    · exact Or.inl hlost
    · exact Or.inr ⟨done, rest, readsOf_grow hkinds hreading rfl, hfollowed.broadcast _⟩

/-- Messages to all. -/
theorem Served.announce {vals : List (Json D)}
    (hvals : ∀ js ∈ vals, Readable lib js ∧ Announces js)
    (h : Served own lib literal s₀ acts conn client) :
    Served own lib literal s₀ acts (conn.announce lib vals) client := by
  induction vals generalizing conn with
  | nil => exact h
  | cons js rest ih =>
      obtain ⟨hjs, hrest⟩ := List.forall_mem_cons.mp hvals
      exact ih hrest (h.broadcast hjs.1 hjs.2)

/-- The thread of the command runs it. -/
theorem Served.run (h : Served own lib literal s₀ acts conn client) {ack : ℕ} {clock : Clocks}
    {command : NetCommand} (hthread : conn.thread ack = .toRun command)
    (hruns : runs own (after own lib literal s₀ acts) (.server (.runAction own ack clock)) =
      [command]) :
    Served own lib literal s₀ (acts ++ [.server (.runAction own ack clock)])
      { conn with
        thread := Function.update conn.thread ack
          (.toReply (command.run clock (after own lib literal s₀ acts).server.controller).2) }
      client := by
  have hbusyThread : conn.thread ack ≠ .absent ∧ conn.thread ack ≠ .ended := by
    rw [hthread]
    exact ⟨nofun, nofun⟩
  have hasked : asked own lib literal s₀ (acts ++ [.server (.runAction own ack clock)]) =
      asked own lib literal s₀ acts := by
    rw [asked, outputs_concat]
    exact List.append_nil _
  have hran : ran own lib literal s₀ (acts ++ [.server (.runAction own ack clock)]) =
      ran own lib literal s₀ acts ++ [command] := by
    rw [ran, outputs_concat, hruns]
  obtain ⟨words, hwords, hidle | ⟨ask, stage, hbusy⟩⟩ := h
  · cases hidle.threads.eq_active hbusyThread
  obtain rfl := hbusy.stage.eq_toRun hthread
  obtain ⟨hthreads, -, hacked⟩ := hbusy.stage
  obtain ⟨hmade, hack, hresp⟩ := hbusy.source
  refine ⟨words, hwords.of_eq rfl fun _ => rfl, Or.inr ⟨ask, .toReply ack command
    (command.run clock (after own lib literal s₀ acts).server.controller).2, ?_, ?_, ?_, ?_,
      hbusy.client⟩⟩
  · rw [hasked]
    exact hbusy.asked
  · rw [hran, List.length_append, hbusy.ran]
    rfl
  · refine ⟨⟨hthreads.streamBuf, hthreads.running, fun k hk => ?_⟩, Function.update_self ..,
      hacked.kind, hacked.word⟩
    have hne : k ≠ ack := fun heq => hk (heq ▸ rfl)
    simp only [Function.update_of_ne hne]
    exact hthreads.inactive k hk
  · exact ⟨hmade.ran ack clock, hack, hresp⟩

/-- The thread of the command writes the final reply. -/
theorem Served.reply (h : Served own lib literal s₀ acts conn client) {ack : ℕ} {respJson : Reply}
    (hthread : conn.thread ack = .toReply respJson) (hreadable : Readable lib respJson.toJson) :
    Served own lib literal s₀ acts
      { conn with
        outgoing := conn.outgoing.step (.finalReply ack (lib.dump respJson.toJson))
        thread := Function.update conn.thread ack .ended } client := by
  have hbusyThread : conn.thread ack ≠ .absent ∧ conn.thread ack ≠ .ended := by
    rw [hthread]
    exact ⟨nofun, nofun⟩
  obtain ⟨words, hwords, hidle | ⟨ask, stage, hbusy⟩⟩ := h
  · cases hidle.threads.eq_active hbusyThread
  obtain ⟨made, rfl⟩ := hbusy.stage.eq_toReply hthread
  obtain ⟨hthreads, -, hacked⟩ := hbusy.stage
  have hrunning : conn.outgoing.running = [ack] := hthreads.running
  have hstep : conn.outgoing.step (.finalReply ack (lib.dump respJson.toJson)) =
      { conn.outgoing.asyncWrite (.final ack) (lib.dump respJson.toJson) with running := [] } := by
    simp only [Outgoing.step, hrunning, List.mem_singleton, if_true, List.erase_cons_head]
  rw [hstep]
  generalize hconn : ({ conn with
    outgoing := { conn.outgoing.asyncWrite (.final ack) (lib.dump respJson.toJson) with
      running := [] }
    thread := Function.update conn.thread ack .ended } : ComControl) = conn'
  have hkinds : conn'.outgoing.kinds = conn.outgoing.kinds ++ [.final ack] := by
    rw [← hconn]
    rfl
  have hsocket : conn'.outgoing.socket =
      conn.outgoing.socket.start (Outgoing.buffer (lib.dump respJson.toJson)) := by
    rw [← hconn]
    rfl
  have hfinal : (words ++ [respJson.toJson])[conn.outgoing.kinds.length]? =
      some respJson.toJson := by
    rw [← hwords.length, List.getElem?_concat_length]
  have hkind : conn'.outgoing.kinds[conn.outgoing.kinds.length]? = some (.final ack) := by
    rw [hkinds, List.getElem?_concat_length]
  refine ⟨words ++ [respJson.toJson],
    hwords.asyncWrite hreadable ⟨_, idOf_reply respJson⟩
      (fun heq : OutgoingWrite.final ack = .broadcast => by cases heq) hkinds hsocket,
    Or.inr ⟨ask, .ended ack made respJson conn.outgoing.kinds.length, hbusy.asked, hbusy.ran, ?_,
      hbusy.source, ?_⟩⟩
  · refine ⟨?_, hacked.grow hkinds _, hkind, hfinal⟩
    rw [← hconn]
    refine ⟨hthreads.streamBuf, rfl, fun k _ => ?_⟩
    by_cases hne : k = ack
    · rw [hne]
      exact Or.inr (Function.update_self ..)
    · simp only [Function.update_of_ne hne]
      exact hthreads.inactive k fun heq => hne (Option.some.inj heq).symm
  · obtain hlost | ⟨done, rest, hreading, hfollowed⟩ := hbusy.client
    · exact Or.inl hlost
    · refine Or.inr ⟨done, rest, readsOf_grow hkinds hreading hsocket, hfollowed.1,
        notMem_done hreading, hfollowed.2.grow hkinds ?_ fun _ => ?_⟩
      · simp
      · simp

/-- The server reads the message of the client. -/
theorem Served.read (hlib : lib.Lawful) (h : Served own lib literal s₀ acts conn client)
    (hmap : (after own lib literal s₀ acts).server.factory.cmdMap = normal.cmdMap)
    (hruns : runs own (after own lib literal s₀ acts) (.server (.readCommand own)) = [])
    {msgStr rest : List UInt8} {command : NetCommand}
    (hawaits : conn.outgoing.responding = none)
    (hread : ComConnection.readUntil conn.streamBuf = some (msgStr, rest))
    (hcommand : (interpretCommand lib ⟨msgStr.toArray⟩
      (after own lib literal s₀ acts).server.factory).2 =
        .ok (lib.dump command.ackJson.toJson, command))
    (hreadable : Readable lib command.ackJson.toJson) :
    Served own lib literal s₀ (acts ++ [.server (.readCommand own)])
      { streamBuf := rest
        outgoing := conn.outgoing.step (.readCommand (lib.dump command.ackJson.toJson))
        thread := Function.update conn.thread conn.outgoing.kinds.length (.toRun command) }
      client := by
  have hne : ComConnection.cr ≠ ComConnection.lf := by decide
  have hsome : conn.streamBuf ≠ [] := by
    intro hnil
    rw [hnil] at hread
    cases hread
  have hasked : asked own lib literal s₀ (acts ++ [.server (.readCommand own)]) =
      asked own lib literal s₀ acts := by
    rw [asked, outputs_concat]
    exact List.append_nil _
  have hran : ran own lib literal s₀ (acts ++ [.server (.readCommand own)]) =
      ran own lib literal s₀ acts := by
    rw [ran, outputs_concat, hruns, List.append_nil]
  obtain ⟨words, hwords, hidle | ⟨ask, stage, hbusy⟩⟩ := h
  · exact absurd hidle.threads.streamBuf hsome
  obtain rfl := hbusy.stage.eq_waiting hsome
  obtain ⟨hline, hthreads⟩ := hbusy.stage
  -- the message is the one that the client has sent
  have hfirst : ComConnection.readUntil conn.streamBuf = some (ask.1.data.toList, []) := by
    rw [hthreads.streamBuf]
    exact Framing.takeFrame_message hne (Framing.takeFrame_eq_none_iff.mp hline) []
  rw [hfirst] at hread
  cases hread
  obtain ⟨seqId, hseq, hval⟩ := Option.map_eq_some_iff.mp hbusy.source
  have hmessage : (⟨ask.1.data.toList.toArray⟩ : ByteArray) = ask.1 := by simp
  rw [hmessage] at hcommand
  obtain ⟨command', hcommand', hanswered⟩ :=
    interpretCommand_spec hlib hmap (not_overflows_of_seq hseq)
  rw [hcommand] at hcommand'
  obtain ⟨-, rfl⟩ := Prod.mk.inj (Except.ok.inj hcommand')
  have hackSeq : command.ackJson.sequenceId.val = ask.2.val := by
    rw [hanswered.ackSeqId, hseq, Option.getD_some, hval]
  have hrespSeq : command.respJson.sequenceId.val = ask.2.val := by
    rw [hanswered.respSeqId, hseq, Option.getD_some, hval]
  have hrunning : conn.outgoing.running = [] := hthreads.running
  have hstep : conn.outgoing.step (.readCommand (lib.dump command.ackJson.toJson)) =
      { conn.outgoing.asyncWrite .ack (lib.dump command.ackJson.toJson) with
        responding := some conn.outgoing.kinds.length
        running := [conn.outgoing.kinds.length] } := by
    simp only [Outgoing.step, hawaits, if_true, hrunning, List.nil_append]
  rw [hstep]
  generalize hconn : ({
    streamBuf := []
    outgoing := { conn.outgoing.asyncWrite .ack (lib.dump command.ackJson.toJson) with
      responding := some conn.outgoing.kinds.length
      running := [conn.outgoing.kinds.length] }
    thread := Function.update conn.thread conn.outgoing.kinds.length (.toRun command) } :
      ComControl) = conn'
  have hkinds : conn'.outgoing.kinds = conn.outgoing.kinds ++ [.ack] := by
    rw [← hconn]
    rfl
  have hsocket : conn'.outgoing.socket =
      conn.outgoing.socket.start (Outgoing.buffer (lib.dump command.ackJson.toJson)) := by
    rw [← hconn]
    rfl
  have hword : (words ++ [command.ackJson.toJson])[conn.outgoing.kinds.length]? =
      some command.ackJson.toJson := by
    rw [← hwords.length, List.getElem?_concat_length]
  have hkind : conn'.outgoing.kinds[conn.outgoing.kinds.length]? = some .ack := by
    rw [hkinds, List.getElem?_concat_length]
  refine ⟨words ++ [command.ackJson.toJson],
    hwords.asyncWrite hreadable ⟨_, idOf_reply command.ackJson⟩
      (fun heq : OutgoingWrite.ack = .broadcast => by cases heq) hkinds hsocket,
    Or.inr ⟨ask, .toRun conn.outgoing.kinds.length command, ?_, ?_, ?_, ?_, ?_⟩⟩
  · rw [hasked]
    exact hbusy.asked
  · rw [hran]
    exact hbusy.ran
  · refine ⟨?_, ?_, hkind, hword⟩
    · rw [← hconn]
      refine ⟨rfl, rfl, fun k hk => ?_⟩
      have hne : k ≠ conn.outgoing.kinds.length := fun heq => hk (heq ▸ rfl)
      simp only [Function.update_of_ne hne]
      exact hthreads.inactive k nofun
    · rw [← hconn]
      exact Function.update_self ..
  · exact ⟨⟨acts, [], rfl, hcommand⟩, hackSeq, hrespSeq⟩
  · obtain hlost | ⟨done, rest, hreading, hfollowed⟩ := hbusy.client
    · exact Or.inl hlost
    · refine Or.inr ⟨done, rest, readsOf_grow hkinds hreading hsocket,
        Or.inl ⟨hfollowed.1, notMem_done hreading⟩, hfollowed.2.grow hkinds ?_ fun _ => ?_⟩
      · simp
      · simp

/-- A step of the socket, after which the client has more bytes to read. -/
theorem Served.of_same (h : Served own lib literal s₀ acts conn client) {conn' : ComControl}
    {bytes : List UInt8} (hstreamBuf : conn'.streamBuf = conn.streamBuf)
    (hthread : conn'.thread = conn.thread)
    (hkinds : conn'.outgoing.kinds = conn.outgoing.kinds)
    (hrunning : conn'.outgoing.running = conn.outgoing.running)
    (htext : ∀ i, conn'.outgoing.socket.text i = conn.outgoing.socket.text i)
    (hreads : ∀ done rest, ReadsOf conn client done rest →
      ∃ rest', ReadsOf conn' (more bytes client) done rest') :
    Served own lib literal s₀ acts conn' (more bytes client) := by
  obtain ⟨words, hwords, hidle | ⟨ask, stage, hbusy⟩⟩ := h
  · obtain ⟨done, rest, hreading, hunread⟩ := hidle.reading
    obtain ⟨rest', hreading'⟩ := hreads done rest hreading
    refine ⟨words, hwords.of_eq hkinds htext, Or.inl ⟨hidle.asked, hidle.ran,
      ⟨hstreamBuf.trans hidle.threads.streamBuf, hrunning.trans hidle.threads.running, ?_⟩,
      hidle.call, done, rest', hreading', ?_⟩⟩
    · rw [hthread]
      exact hidle.threads.inactive
    · rw [Unread, hkinds]
      exact hunread
  · refine ⟨words, hwords.of_eq hkinds htext, Or.inr ⟨ask, stage, hbusy.asked, hbusy.ran,
      hbusy.stage.of_same hstreamBuf hthread hkinds hrunning, hbusy.source, ?_⟩⟩
    obtain hlost | ⟨done, rest, hreading, hfollowed⟩ := hbusy.client
    · exact Or.inl hlost
    · obtain ⟨rest', hreading'⟩ := hreads done rest hreading
      exact Or.inr ⟨done, rest', hreading', hfollowed.of_same hkinds rfl⟩

/-- The ack is sent. -/
theorem Served.sent (h : Served own lib literal s₀ acts conn client) :
    Served own lib literal s₀ acts { conn with outgoing := conn.outgoing.step .responseSent }
      client := by
  have hstep : conn.outgoing.step .responseSent = conn.outgoing ∨
      conn.outgoing.step .responseSent = { conn.outgoing with responding := none } := by
    simp only [Outgoing.step]
    split
    · split_ifs
      · exact Or.inr rfl
      · exact Or.inl rfl
    · exact Or.inl rfl
  obtain hsame | hnone := hstep
  · rw [hsame]
    exact h
  · rw [hnone, ← more_nil client]
    refine h.of_same rfl rfl rfl rfl (fun _ => rfl) fun done rest hreading => ⟨rest, ?_⟩
    rw [more_nil]
    exact hreading

/-- Bytes are sent, alone, and arrive. -/
theorem Served.send (h : Served own lib literal s₀ acts conn client) {write bytes : ℕ}
    (halone : conn.outgoing.Alone (.asyncWriteSome write bytes)) :
    Served own lib literal s₀ acts
      { conn with outgoing := conn.outgoing.step (.asyncWriteSome write bytes) }
      (more ((conn.outgoing.step (.asyncWriteSome write bytes)).socket.items.drop
        conn.outgoing.socket.items.length) client) := by
  by_cases hsend : conn.outgoing.socket.CanSend write bytes
  · have hitems : (conn.outgoing.step (.asyncWriteSome write bytes)).socket.items.drop
        conn.outgoing.socket.items.length = (conn.outgoing.socket.rest write).take bytes := by
      have hstream := SharedStream.stream_send hsend
      simp only [Outgoing.step, SharedStream.items]
      rw [hstream, List.map_append, List.drop_left, List.map_map]
      exact List.map_id _
    rw [hitems]
    exact h.of_same rfl rfl rfl rfl (fun _ => SharedStream.text_send _)
      fun done rest hreading => hreading.send hsend halone
  · have hsame : conn.outgoing.step (.asyncWriteSome write bytes) = conn.outgoing := by
      simp only [Outgoing.step, SharedStream.send, dif_neg hsend]
    rw [hsame, List.drop_length, more_nil]
    exact h

end serve

end CommandSession

end M2Cell
