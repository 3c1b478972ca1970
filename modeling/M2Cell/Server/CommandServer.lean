import M2Cell.Control.NetCommandFactory
import M2Cell.Control.Operations
import M2Cell.Server.OutgoingWrites

/-!
# The command server at work

The connections of a `ComControlServer`, its one factory, and the threads that run the
commands.  A connection that awaits a command takes the first message of its bytes, has
it interpreted, starts the write of the ack, and starts a thread.  The thread runs the
command and then starts the write of the final reply.  Commands and other threads write
messages to all connections of the map.

An exception out of `interpretCommand` leaves a thread of the `io_context`, which ends
the program.

The writes of a connection are those of `Outgoing`: starting one puts its text behind the others,
and the socket sends parts of the texts that are started, in any order.  A thread goes through
`CommandThread`: it has a command to run, then a reply to write, then it has ended, and it is
known by the number of its ack, so that a thread whose ack is not there yet can be told from
another.  `serve` has the steps of a program that has not ended; when it has, only the bytes that
are on their way still come and go (`step`).
-/

namespace M2Cell

variable {D : Type}

/-- The thread of a command. -/
inductive CommandThread
  | absent
  | toRun (command : NetCommand)
  /-- The final reply is next. -/
  | toReply (respJson : Reply)
  | ended
  deriving DecidableEq, Repr

/-- A `ComControl`: the bytes that were delivered and are not read, what it writes, and the
threads of its commands, by the numbers of their acks. -/
structure ComControl where
  streamBuf : List UInt8
  outgoing : Outgoing
  thread : ℕ → CommandThread

/-- A `ComControlServer` with what its commands work on. -/
structure CommandServer (D : Type) where
  factory : NetCommandFactory
  controller : Controller D
  /-- The keys of `_connections`. -/
  connections : Finset ℕ
  conn : ℕ → ComControl
  terminated : Bool

/-- The steps of the threads, and what the sockets do. -/
inductive CommandServerAction
  | arrive (connId : ℕ) (bytes : List UInt8)
  | emplace (connId : ℕ)
  | erase (connId : ℕ)
  | readCommand (connId : ℕ)
  | runAction (connId ack : ℕ) (clock : Clocks)
  | finalReply (connId ack : ℕ)
  | asyncWriteSome (connId write bytes : ℕ)
  | responseSent (connId : ℕ)
  /-- The message of `Model::reportPowerSystemStateChange`. -/
  | report (powerType : PowerSystemType) (targPowerState actualPowerState : PowerState)
  /-- Another thread works on the system. -/
  | operate (op : Op)

namespace PowerState

/-- `getPowerStateOldStr`. -/
def oldStr : PowerState → String
  | unknown => "Init"
  | off => "PoweredOff"
  | turningOn => "PoweringOn"
  | reset => "ResettingBreakers"
  | on => "PoweredOn"
  | turningOff => "PoweringOff"

/-- `getPowerStateStr`. -/
def str (powerState : PowerState) : String :=
  let name :=
    match powerState with
    | unknown => "UNKNOWN"
    | off => "OFF"
    | turningOn => "TURNING_ON"
    | reset => "RESET"
    | on => "ON"
    | turningOff => "TURNING_OFF"
  name ++ " " ++ toString powerState.toInt

end PowerState

namespace ComControl

def start : ComControl := ⟨[], .start, fun _ => .absent⟩

/-- `asyncWrite` of a message to all. -/
def broadcast (msg : String) (conn : ComControl) : ComControl :=
  { conn with outgoing := conn.outgoing.asyncWrite .broadcast msg }

end ComControl

namespace CommandServer

variable (lib : JsonLibrary D)

def start (controller : Controller D) : CommandServer D :=
  ⟨.normal, controller, ∅, fun _ => .start, false⟩

def setConn (connId : ℕ) (conn : ComControl) (s : CommandServer D) : CommandServer D :=
  { s with conn := Function.update s.conn connId conn }

/-- `asyncWriteToAllComConn`. -/
def asyncWriteToAllComConn (msg : String) (s : CommandServer D) : CommandServer D :=
  { s with
    conn := fun connId =>
      if connId ∈ s.connections then (s.conn connId).broadcast msg else s.conn connId }

/-- The message of `Model::reportPowerSystemStateChange`; `isSendUserInfo` is true. -/
def reportJson (powerType : PowerSystemType) (targPowerState actualPowerState : PowerState) :
    Json D :=
  ((((Json.null.set "id" (.string "powerSystemState")).set "powerType"
    (.integer powerType.toInt)).set "state" (.integer actualPowerState.toInt)).set "status"
      (.boolean (targPowerState == .on))).set "user_info"
        (.string (powerType.str ++ " is " ++ actualPowerState.oldStr ++ " turning " ++
          targPowerState.str))

/-- `_readCommand`, when a read is pending and a message has come. -/
def readCommand (connId : ℕ) (s : CommandServer D) : CommandServer D :=
  let conn := s.conn connId
  if conn.outgoing.responding = none then
    match ComConnection.readUntil conn.streamBuf with
    | none => s
    | some (msgStr, rest) =>
        match NetCommandFactory.interpretCommand lib ⟨msgStr.toArray⟩ s.factory with
        | (factory, .ok (responseStr, command)) =>
            { s with factory := factory }.setConn connId
              { streamBuf := rest
                outgoing := conn.outgoing.step (.readCommand responseStr)
                thread :=
                  Function.update conn.thread conn.outgoing.kinds.length (.toRun command) }
        | (factory, .error _) => { s with factory := factory, terminated := true }
  else s

/-- The messages that `run` writes to all connections. -/
def newBroadcasts (before after : Controller D) : List (Json D) :=
  after.broadcasts.drop before.broadcasts.length

/-- `netCmd->run()` on the thread of the command. -/
def runAction (connId ack : ℕ) (clock : Clocks) (s : CommandServer D) : CommandServer D :=
  let conn := s.conn connId
  match conn.thread ack with
  | .toRun command =>
      let result := command.run clock s.controller
      let s' := { s with controller := result.1 }.setConn connId
        { conn with thread := Function.update conn.thread ack (.toReply result.2) }
      (newBroadcasts s.controller result.1).foldl
        (fun s js => s.asyncWriteToAllComConn (lib.dump js)) s'
  | _ => s

/-- `asyncWrite(finalMsg)` on the thread of the command. -/
def finalReply (connId ack : ℕ) (s : CommandServer D) : CommandServer D :=
  let conn := s.conn connId
  match conn.thread ack with
  | .toReply respJson =>
      s.setConn connId
        { conn with
          outgoing := conn.outgoing.step (.finalReply ack (lib.dump respJson.toJson))
          thread := Function.update conn.thread ack .ended }
  | _ => s

/-- A step that concerns only what a connection writes. -/
def write (connId : ℕ) (action : OutgoingAction) (s : CommandServer D) : CommandServer D :=
  s.setConn connId { s.conn connId with outgoing := (s.conn connId).outgoing.step action }

/-- Bytes are delivered. -/
def deliver (connId : ℕ) (bytes : List UInt8) (s : CommandServer D) : CommandServer D :=
  s.setConn connId
    { s.conn connId with streamBuf := (s.conn connId).streamBuf ++ bytes }

/-- One step of a program that has not ended. -/
def serve (s : CommandServer D) : CommandServerAction → CommandServer D
  | .arrive connId bytes => s.deliver connId bytes
  | .emplace connId => { s with connections := insert connId s.connections }
  | .erase connId => { s with connections := s.connections.erase connId }
  | .readCommand connId => s.readCommand lib connId
  | .runAction connId ack clock => s.runAction lib connId ack clock
  | .finalReply connId ack => s.finalReply lib connId ack
  | .asyncWriteSome connId write bytes => s.write connId (.asyncWriteSome write bytes)
  | .responseSent connId => s.write connId .responseSent
  | .report powerType targPowerState actualPowerState =>
      s.asyncWriteToAllComConn (lib.dump (reportJson powerType targPowerState actualPowerState))
  | .operate op =>
      { s with controller := { s.controller with system := s.controller.system.step op } }

/-- One step.  When the program has ended, bytes still leave the client. -/
def step (s : CommandServer D) : CommandServerAction → CommandServer D
  | .arrive connId bytes => s.deliver connId bytes
  | action => if s.terminated then s else s.serve lib action

end CommandServer

end M2Cell
