import M2Cell.Server.ComServer
import M2Cell.Lib.Json
import M2Cell.Lib.PartialWrite
import M2Cell.Lib.ReadUntil

/-!
# The welcome of a client

`_handleAccept` in one go: the steps of the accept handler with the messages that
`_sendWelcomeMsg` sends in the middle of them.  Each message is written by
`_syncWrite`, whose `write_some` throws when the peer is gone.  Nothing catches the
exception, so the handler is left before its `_beginAccept`.

The socket is given by what each call of `write_some` does, for each message.  The
JSON library writes the messages, and `literal` is the `double` of a decimal literal.

The messages are a table (`welcomeMsgs`): each has its JSON value, computed from the fault
manager, and what it sets in `Globals` before it is written.  `sendMsgs` goes through the table,
with the number of the message to say which calls of the socket are meant, and stops at the first
one that throws.  `handleAccept` does the steps of `ComServer` before and after that, so that the
state of the server at the exception is there to be looked at.
-/

namespace M2Cell

/-- What the calls of `write_some` do: `socket i k` is for the call `k` of the message `i`. -/
abbrev Socket := ℕ → ℕ → Option ℕ+

/-- A message of the welcome. -/
structure WelcomeMsg (D : Type) where
  /-- What the server sets before it. -/
  update : Globals → Globals
  js : Globals → FaultMgr → Json D

/-- What is left of a welcome. -/
structure Welcome where
  globals : Globals
  /-- The bytes that were written. -/
  wire : List UInt8
  /-- No exception was thrown. -/
  returned : Bool

namespace ComConnection

variable {D : Type} (lib : JsonLibrary D) (literal : ℚ → D)

/-- `getDelimiter`. -/
def getDelimiter : String := "\r\n"

/-- The bytes of the delimiter. -/
def cr : UInt8 := 13

def lf : UInt8 := 10

/-- Reading up to the delimiter: the first message, without the delimiter, and the rest. -/
def readUntil (bytes : List UInt8) : Option (List UInt8 × List UInt8) :=
  Framing.takeFrame cr lf bytes

/-- A JSON object with the "id" and other members. -/
def message (id : String) (members : List (String × Json D)) : Json D :=
  (Json.null.set "id" (.string id)).setAll members

/-- An array of numbers. -/
def doubles (values : List ℚ) : Json D := .array (values.map fun value => .float (literal value))

/-- A message that sets nothing. -/
def plain (js : Globals → FaultMgr → Json D) : WelcomeMsg D := ⟨id, js⟩

/-- The message with the summary state that it sets. -/
def summaryState (val : ℤ) : WelcomeMsg D where
  update := Globals.setSummaryState val
  js g _ := message "summaryState" [("summaryState", .integer g.summaryState)]

/-- The configuration that is sent for the time being. -/
def config : Json D :=
  message "config"
    [("configuration", .string "Configurable_File_Description_20180831T092556_surrogate_handling.csv"),
      ("version", .string "20180831T092556"),
      ("controlParameters", .string "CtrlParameterFiles_2018-07-19_104314_surg"),
      ("lutParameters", .string "FinalHandlingLUTs"),
      ("powerWarningMotor", .float (literal 5)),
      ("powerFaultMotor", .float (literal 10)),
      ("powerThresholdMotor", .float (literal 20)),
      ("powerWarningComm", .float (literal 5)),
      ("powerFaultComm", .float (literal 10)),
      ("powerThresholdComm", .float (literal 10)),
      ("inPositionAxial", .float (literal 0.158)),
      ("inPositionTangent", .float (literal 1.1)),
      ("inPositionSample", .float (literal 1)),
      ("timeoutSal", .float (literal 15)),
      ("timeoutCrio", .float (literal 1)),
      ("timeoutIlc", .integer 3),
      ("inclinometerDelta", .float (literal 2)),
      ("inclinometerDiffEnabled", .boolean true),
      ("cellTemperatureDelta", .float (literal 2))]

/-- The configuration files that are sent for the time being. -/
def configurationFiles : Json D :=
  message "configurationFiles"
    [("files", .array
      [.string "Configurable_File_Description_PLACEHOLDER_M2_optical.csv",
        .string "Configurable_File_Description_PLACEHOLDER_M2_handling.csv",
        .string "Configurable_File_Description_PLACEHOLDER_surrogate_optical.csv",
        .string "Configurable_File_Description_PLACEHOLDER_surrogate_handling.csv"])]

/-- The messages of `_sendWelcomeMsg`. -/
def welcomeMsgs : List (WelcomeMsg D) :=
  [plain fun g _ => message "tcpIpConnected" [("isConnected", .boolean g.getTcpIpConnected)],
    plain fun g _ => message "commandableByDDS" [("state", .boolean g.commandableByDds)],
    plain fun g _ => message "hardpointList" [("actuators", .array (g.hardPointList.map .integer))],
    plain fun g _ => message "interlock" [("state", .boolean g.interlock)],
    plain fun g _ =>
      message "inclinationTelemetrySource" [("source", .integer g.telemetrySource)],
    plain fun g _ =>
      message "temperatureOffset"
        [("ring", doubles literal g.temperatureOffsetsRing),
          ("intake", doubles literal g.temperatureOffsetsIntake),
          ("exhaust", doubles literal g.temperatureOffsetsExhaust)],
    summaryState 5,
    plain fun g _ => message "digitalInput" [("value", .integer g.digitalInput.toNat)],
    plain fun g _ => message "digitalOutput" [("value", .integer g.digitalOutput.toNat)],
    plain fun _ _ => config literal,
    plain fun g _ => message "closedLoopControlMode" [("mode", .integer g.closedLoopControlMode)],
    plain fun _ fm =>
      message "enabledFaultsMask"
        [("mask", .integer fm.summarySystemFaultsStatus.faultEnableMask.toNat)],
    plain fun _ _ => configurationFiles,
    summaryState 3,
    plain fun _ _ => message "forceBalanceSystemStatus" [("status", .boolean false)],
    plain fun _ fm =>
      message "summaryFaultsStatus" [("status", .integer fm.getSummaryFaults.toNat)]]

/-- The text that `_syncWrite` writes for a message. -/
def wireText (js : Json D) : String := lib.dump js ++ getDelimiter

/-- Send messages, the first of which has the number `i`. -/
def sendMsgs (socket : Socket) (fm : FaultMgr) :
    List (WelcomeMsg D) → ℕ → Globals → List UInt8 → Welcome
  | [], _, g, wire => ⟨g, wire, true⟩
  | msg :: rest, i, g, wire =>
      let g := msg.update g
      let text := wireText lib (msg.js g fm)
      let write := PartialWrite.writeAll (socket i) text.utf8ByteSize
      let wire := wire ++ text.toUTF8.data.toList.take write.1
      if write.2 then sendMsgs socket fm rest (i + 1) g wire else ⟨g, wire, false⟩

/-- `_sendWelcomeMsg`. -/
def sendWelcomeMsg (doSendWelcomeMsg : Bool) (socket : Socket) (fm : FaultMgr) (g : Globals) :
    Welcome :=
  if doSendWelcomeMsg then sendMsgs lib socket fm (welcomeMsgs literal) 0 g [] else ⟨g, [], true⟩

/-- The texts of messages. -/
def texts (fm : FaultMgr) : List (WelcomeMsg D) → Globals → List String
  | [], _ => []
  | msg :: rest, g =>
      wireText lib (msg.js (msg.update g) fm) :: texts fm rest (msg.update g)

end ComConnection

/-- What an accept comes with. -/
structure AcceptEvent where
  connId : ℕ
  /-- `ec.value()`. -/
  ec : ℤ
  doSendWelcomeMsg : Bool
  socket : Socket
  /-- Another thread shuts the server down in the meantime. -/
  shutdownMeanwhile : Bool
  clock : Clocks

namespace ComServer

variable {D : Type} (lib : JsonLibrary D) (literal : ℚ → D)

/-- `_handleAccept` up to the report of the size of the map. -/
def insertConnection (event : AcceptEvent) (s : ComServer) : ComServer :=
  run step s
    [.handleAccept event.connId (event.ec == 0), .emplace event.connId,
      .reportAccept event.connId event.clock]

/-- `beginProtocol` up to the welcome. -/
def beginProtocol (event : AcceptEvent) (s : ComServer) : ComServer :=
  run step s [.setActive event.connId, .countUp event.connId event.clock]

/-- The end of `_handleAccept`, with its `_beginAccept`. -/
def endAccept (event : AcceptEvent) (s : ComServer) : ComServer :=
  run step s
    ((if event.shutdownMeanwhile then [.shutdown] else []) ++
      [.finish event.connId, .beginAccept event.connId])

/-- The welcome that is sent to the client. -/
def welcome (event : AcceptEvent) (s : ComServer) : Welcome :=
  ComConnection.sendWelcomeMsg lib literal event.doSendWelcomeMsg event.socket s.system.faultMgr
    s.globals

/-- `_handleAccept`: the server afterwards, and whether no exception escapes. -/
def handleAccept (event : AcceptEvent) (s : ComServer) : ComServer × Bool :=
  if s.stopped || s.shutdown then (s.step (.handleAccept event.connId (event.ec == 0)), true)
  else if event.ec = 0 then
    let s := (s.insertConnection event).beginProtocol event
    let welcome := s.welcome lib literal event
    let s := { s with globals := welcome.globals }
    if welcome.returned then (s.endAccept event, true) else (s, false)
  else ((s.insertConnection event).endAccept event, true)

end ComServer

end M2Cell
