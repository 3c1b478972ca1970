import M2Cell.Server.Welcome
import M2Cell.Lib.Run
import M2Cell.Lib.SharedStream

/-!
# The outgoing messages of a connection

`_readCommand` starts the write of the ack and then a thread that runs the command; the
thread starts the write of the final reply.  `asyncWriteToAllComConn` starts a write on
the thread that calls it.  Each `async_write` sends its buffer in parts, on the threads
of the `io_context`, and the next command is read after `_responseSent`.

The writes are numbered in the order in which they are started, and their buffers are
the texts of a `SharedStream`.  No operation on the socket fails.

The buffer of a write refers to a local string of `_sendResponse` or `asyncWrite`, which
is gone when the function returns, while the parts may be sent later.  The lifetime of
the string is left out: a text stays what it was until it is sent, so what is proved here
is about the runs in which the memory still holds it.
-/

namespace M2Cell

/-- What is written. -/
inductive OutgoingWrite
  | ack
  /-- The final reply of the command whose ack has the number. -/
  | final (ack : ℕ)
  | broadcast
  deriving DecidableEq, Repr

/-- The writes of a connection, with what runs to make more of them. -/
structure Outgoing where
  kinds : List OutgoingWrite
  socket : SharedStream UInt8
  /-- The ack whose `_responseSent` is to come; a read is pending when there is none. -/
  responding : Option ℕ
  /-- The acks of the commands whose threads run. -/
  running : List ℕ
  aligned : kinds.length = socket.texts.length

/-- The steps of the threads. -/
inductive OutgoingAction
  /-- `_readCommand`, for a command with the given ack. -/
  | readCommand (responseStr : String)
  /-- The thread of the command with the given ack starts its final reply. -/
  | finalReply (ack : ℕ) (finalMsg : String)
  | asyncWriteToAllComConn (msg : String)
  /-- An `async_write_some` of a write sends some bytes. -/
  | asyncWriteSome (write bytes : ℕ)
  | responseSent

namespace Outgoing

/-- A connection whose first read is pending. -/
def start : Outgoing where
  kinds := []
  socket := SharedStream.empty
  responding := none
  running := []
  aligned := rfl

/-- The buffer of a write, taken to last until it is sent. -/
def buffer (msg : String) : List UInt8 := (msg ++ ComConnection.getDelimiter).toUTF8.data.toList

/-- `_sendResponse` and `asyncWrite`. -/
def asyncWrite (kind : OutgoingWrite) (msg : String) (s : Outgoing) : Outgoing where
  kinds := s.kinds ++ [kind]
  socket := s.socket.start (buffer msg)
  responding := s.responding
  running := s.running
  aligned := by
    rw [List.length_append, s.aligned, SharedStream.length_texts_start, List.length_singleton]

/-- One step of a thread. -/
def step (s : Outgoing) : OutgoingAction → Outgoing
  | .readCommand responseStr =>
      if s.responding = none then
        let ack := s.kinds.length
        { s.asyncWrite .ack responseStr with
          responding := some ack
          running := s.running ++ [ack] }
      else s
  | .finalReply ack finalMsg =>
      if ack ∈ s.running then
        { s.asyncWrite (.final ack) finalMsg with running := s.running.erase ack }
      else s
  | .asyncWriteToAllComConn msg => s.asyncWrite .broadcast msg
  | .asyncWriteSome write bytes =>
      { s with
        socket := s.socket.send write bytes
        aligned := by rw [SharedStream.texts_send, s.aligned] }
  | .responseSent =>
      match s.responding with
      | some ack =>
          if s.socket.sent ack = (s.socket.text ack).length then { s with responding := none }
          else s
      | none => s

/-- A final reply needs its ack. -/
def Needs (s : Outgoing) (ack write : ℕ) : Prop := s.kinds[write]? = some (.final ack)

/-- Messages are not mixed: the stream is one buffer after the other, the last one
perhaps not finished, and a final reply comes after its ack. -/
def Unmixed (s : Outgoing) : Prop := s.socket.Unmixed s.Needs

/-- The bytes are those of one buffer after the other. -/
def Concatenated (s : Outgoing) : Prop := s.socket.Concatenated s.Needs

/-- Bytes of a write are sent when no other write is partly sent and, if it is a final
reply, its ack is sent. -/
def Alone (s : Outgoing) : OutgoingAction → Prop
  | .asyncWriteSome write bytes => s.socket.Alone s.Needs write bytes
  | _ => True

end Outgoing

end M2Cell
