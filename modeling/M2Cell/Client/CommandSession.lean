import M2Cell.Client.ComClient
import M2Cell.Lib.Run
import M2Cell.Server.CommandServer

/-!
# A client and the command server

One client calls `cmdSendRecv` while the server serves it and any other clients.  What
the server sends on the connection of the client arrives there, and what the client
writes arrives at the server; the other clients send what they like.  The session begins
after the welcome.

A step of the session is a step of the server, with the bytes that it sends to the client,
or of the client, with the bytes that it writes.  Besides the state, a run has three
outputs: the commands that the client has sent (`asks`), its commands that have run
(`runs`), and the values that the server has written to its connection (`spoken`).

`Permitted` is what is assumed of the steps.  Two assumptions are built into the model of
the connection: no operation on the socket fails, and `async_write` sends the bytes that
it was given, although its buffer refers to a local string that is gone by then.

`Answers` says what the answer to a command is, and refers to the prefixes of the run
after which the server read the command and ran its action.
-/

namespace M2Cell

variable {D : Type}

/-- The server and the client with the connection `own`. -/
structure CommandSession (D : Type) where
  server : CommandServer D
  client : ComClient D

/-- The steps of both. -/
inductive SessionAction
  | server (action : CommandServerAction)
  | client (action : ClientAction)

/-- A command that the client has sent: the message, and the number it waits for. -/
abbrev Ask := ByteArray × ClientSeqId

namespace CommandSession

def start (controller : Controller D) : CommandSession D := ⟨.start controller, .start⟩

variable (own : ℕ)

/-- The connection of the client. -/
def conn (s : CommandSession D) : ComControl := s.server.conn own

/-- The bytes that a step of the server sends to the client. -/
def sentTo (before after : CommandServer D) : List UInt8 :=
  (after.conn own).outgoing.socket.items.drop (before.conn own).outgoing.socket.items.length

variable (lib : JsonLibrary D) (literal : ℚ → D) [Double D]

/-- One step. -/
def step (s : CommandSession D) : SessionAction → CommandSession D
  | .server action =>
      let server := s.server.step lib action
      ⟨server, s.client.step lib literal (.arrive (sentTo own s.server server))⟩
  | .client action =>
      ⟨s.server.step lib (.arrive own (s.client.written action)), s.client.step lib literal action⟩

/-! ## What happens in a run -/

/-- The command that a step sends. -/
def asks (s : CommandSession D) : SessionAction → List Ask
  | .client (.cmdSendRecv jStr seqId) =>
      if s.client.call.isNone ∧ s.client.isOpen then [(jStr.toUTF8, seqId)] else []
  | _ => []

/-- The command of the client whose action a step runs. -/
def runs (s : CommandSession D) : SessionAction → List NetCommand
  | .server (.runAction connId ack _) =>
      match (s.conn own).thread ack with
      | .toRun command => if connId = own ∧ ¬ s.server.terminated then [command] else []
      | _ => []
  | _ => []

/-- The text of the value is one line, and the value is read back from it. -/
def Readable (js : Json D) : Prop :=
  lib.RoundTrips js ∧ ComConnection.readUntil (lib.dump js).toUTF8.data.toList = none

/-- The message of a call is one line with the "sequence_id" that the call waits for. -/
def Numbered (jStr : String) (seqId : ClientSeqId) : Prop :=
  ComConnection.readUntil jStr.toUTF8.data.toList = none ∧
    (NetCommandFactory.seq? lib jStr.toUTF8).map Fin.val = some seqId.val

instance (jStr : String) (seqId : ClientSeqId) : Decidable (Numbered lib jStr seqId) :=
  inferInstanceAs (Decidable (_ ∧ _))

/-- What `cmdSendRecv` has returned. -/
def pair? : ClientResult D → Option (ClientSeqId × Json D × Json D)
  | .pair seqId ackJ finJ => some (seqId, ackJ, finJ)
  | _ => none

/-- The calls of `cmdSendRecv` that have returned. -/
def pairs (client : ComClient D) : List (ClientSeqId × Json D × Json D) :=
  client.results.filterMap pair?

/-- The pair is the answer to a command: the server has made a command of the message with
the factory as it was when it read the message, the pair is the ack of the command and the
final reply of the run of its action, and both have the number of the call. -/
def Answers (s₀ : CommandSession D) (acts : List SessionAction) (ask : Ask)
    (pair : ClientSeqId × Json D × Json D) : Prop :=
  ∃ before between after ack clock command,
    acts = before ++ .server (.readCommand own) :: between ++
      .server (.runAction own ack clock) :: after ∧
    let reading := run (step own lib literal) s₀ before
    let running := run (step own lib literal) s₀
      (before ++ .server (.readCommand own) :: between)
    let result := command.run clock running.server.controller
    (NetCommandFactory.interpretCommand lib ask.1 reading.server.factory).2 =
        .ok (lib.dump command.ackJson.toJson, command) ∧
      pair = (ask.2, command.ackJson.toJson, result.2.toJson) ∧
      command.ackJson.sequenceId.val = ask.2.val ∧ result.2.sequenceId.val = ask.2.val

/-- Nothing is left to do for the client: its messages are read, its commands have run, the
replies are sent, and it has read them. -/
structure Finished (s : CommandSession D) : Prop where
  received : ComConnection.readUntil (s.conn own).streamBuf = none
  threads : ∀ ack, (s.conn own).thread ack = .absent ∨ (s.conn own).thread ack = .ended
  sent : ∀ i < (s.conn own).outgoing.kinds.length, (s.conn own).outgoing.socket.Whole i
  read : ComClient.readCommand s.client.readStream = none

end CommandSession

end M2Cell
