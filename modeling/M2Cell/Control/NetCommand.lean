import M2Cell.Control.PowerSystem
import M2Cell.Lib.Json

/-!
# Network commands

A `NetCommand` is what the server makes of a message: the child class with the
fields it has read, and the two replies, `ackJson` and `respJson`.  The
constructors of the child classes read their fields after the base constructor
has read "id" and "sequence_id", and throw a `NetCommandException` when one is
missing or of the wrong type.

`run` performs the action and completes `respJson`.  The actions work on a
`Controller`: the system, the two flags of `Globals` that a command sets, the
shutdowns that were asked for and the messages broadcast to all clients.
-/

namespace M2Cell

/-- `uint64_t`, the type of a "sequence_id". -/
abbrev SeqId := Fin (2 ^ 64)

/-- `util::Issue`: a message and where it was thrown. -/
structure Issue where
  message : String
  func : String
  file : String
  line : ℕ
  deriving DecidableEq, Repr

/-- `Issue::what`. -/
def Issue.what (issue : Issue) : String :=
  issue.message ++ " [in function " ++ issue.func ++ " at " ++ issue.file ++ ":" ++
    toString issue.line ++ "]"

/-- What the functions below throw: a `NetCommandException` or a `json::exception`. -/
inductive NetException
  | netCommand (issue : Issue)
  | json (error : JsonError)
  deriving DecidableEq, Repr

/-- A reply: `ackJson` or `respJson`. -/
structure Reply where
  id : String
  sequenceId : SeqId
  userInfo : String
  /-- Only `NCmdEcho` sets it. -/
  msg : Option String
  deriving DecidableEq, Repr

/-- The child classes of `NetCommand`. -/
inductive NetCommandClass
  | ack
  | noAck
  | echo
  | switchCommandSource
  | power
  | systemShutdown
  deriving DecidableEq, Repr

/-- The child classes with the fields that they read. -/
inductive NetAction
  | ack
  | noAck
  | echo (msg : String)
  | switchCommandSource (isRemote : Bool)
  | power (powerType : PowerSystemType) (status : Bool)
  | systemShutdown
  deriving DecidableEq, Repr

/-- `NetCommand`. -/
structure NetCommand where
  netAction : NetAction
  name : String
  seqId : SeqId
  ackJson : Reply
  respJson : Reply
  deriving DecidableEq, Repr

/-- What the actions of the commands work on. -/
structure Controller (D : Type) where
  system : System
  /-- `Globals::_commandSourceIsRemote`. -/
  commandSourceIsRemote : Bool
  /-- `Globals::_commandableByDds`. -/
  commandableByDds : Bool
  /-- The detached threads that will call `Model::systemShutdown`. -/
  shutdowns : ℕ
  /-- What was written to all connections. -/
  broadcasts : List (Json D)

variable {D : Type} (lib : JsonLibrary D)

/-- The JSON object of a reply. -/
def Reply.toJson (reply : Reply) : Json D :=
  let js := ((Json.null.set "id" (.string reply.id)).set "sequence_id"
    (.integer reply.sequenceId.val)).set "user_info" (.string reply.userInfo)
  match reply.msg with
  | some msg => js.set "msg" (.string msg)
  | none => js

namespace PowerSystemType

/-- The value in the messages. -/
def toInt : PowerSystemType → ℤ
  | motor => 1
  | comm => 2

/-- `intToPowerSystemType`; `none` is `UNKNOWNPOWERSYSTEM`. -/
def ofInt (val : ℤ) : Option PowerSystemType :=
  if val = 1 then some motor else if val = 2 then some comm else none

/-- `getPowerSystemTypeStr`. -/
def str : PowerSystemType → String
  | motor => "MOTOR"
  | comm => "COMM"

end PowerSystemType

/-- The value of a state in the messages. -/
def PowerState.toInt : PowerState → ℤ
  | unknown => 1
  | off => 2
  | turningOn => 3
  | reset => 4
  | on => 5
  | turningOff => 6

namespace NetCommandClass

/-- `getCommandName`. -/
def getCommandName : NetCommandClass → String
  | ack => "cmd_ack"
  | noAck => "cmd_noack"
  | echo => "cmd_echo"
  | switchCommandSource => "cmd_switchCommandSource"
  | power => "cmd_power"
  | systemShutdown => "cmd_systemShutdown"

end NetCommandClass

namespace NetCommand

/-! ## Reading a message -/

/-- Reading "id" and "sequence_id". -/
def header (inJson : Json D) : Except JsonError (String × SeqId) := do
  let name ← inJson.fetch "id" "string" Json.toString?
  let seqId ← inJson.fetch "sequence_id" "number" lib.toUInt64
  return (name, seqId)

/-- `NetCommand::parse`.  The text of the message itself, which may be any bytes,
is left out of the text of the exception; both are only logged. -/
def parse (inStr : ByteArray) : Except NetException (Json D) :=
  match lib.parse inStr with
  | .parseError what =>
      .error (.netCommand ⟨"NetCommand::parse error " ++ what, "parse", "NetCommand.cpp", 66⟩)
  -- only `json::parse_error` is caught
  | .outOfRange what => .error (.json ⟨.outOfRange, what⟩)
  | .value inJson =>
      match header lib inJson with
      | .ok _ => .ok inJson
      | .error ex =>
          .error (.netCommand ⟨"NetCommand::parse error missing id or sequence_id in " ++
            lib.dump inJson ++ " what=" ++ ex.what, "parse", "NetCommand.cpp", 78⟩)

/-- The base constructor, for the child class and fields `netAction`. -/
def construct (netAction : NetAction) (inJson : Json D) : Except Issue NetCommand :=
  match header lib inJson with
  | .ok (name, seqId) =>
      .ok {
        netAction := netAction
        name := name
        seqId := seqId
        ackJson := ⟨"noack", seqId, "invalid:" ++ name, none⟩
        respJson := ⟨"fail", seqId, "", none⟩ }
  | .error ex =>
      .error ⟨"NetCommand constructor error in " ++ lib.dump inJson ++ " what=" ++ ex.what,
        "NetCommand", "NetCommand.cpp", 50⟩

/-- Set "id" and "user_info" of `ackJson`. -/
def setAck (id userInfo : String) (cmd : NetCommand) : NetCommand :=
  { cmd with ackJson := { cmd.ackJson with id := id, userInfo := userInfo } }

/-- `setAckUserInfo`. -/
def setAckUserInfo (msg : String) (cmd : NetCommand) : NetCommand :=
  { cmd with ackJson := { cmd.ackJson with userInfo := msg } }

/-- A `json::exception` in the constructor of a child class becomes a `NetCommandException`. -/
def orThrow {α : Type} (issue : JsonError → Issue) : Except JsonError α → Except Issue α
  | .ok value => .ok value
  | .error ex => .error (issue ex)

/-- The text of `throwNetCommandException`. -/
def constructorError (commandName funcName : String) (inJson : Json D) (ex : JsonError) : String :=
  commandName ++ " " ++ funcName ++ " constructor error in " ++ lib.dump inJson ++ " what=" ++
    ex.what

/-- `to_string` of a `bool`. -/
def boolStr (b : Bool) : String := if b then "1" else "0"

/-- The constructor of `NCmdAck`. -/
def createAck (inJson : Json D) : Except Issue NetCommand := do
  let cmd ← construct lib .ack inJson
  return cmd.setAck "ack" "ack"

/-- The constructor of `NCmdNoAck`. -/
def createNoAck (inJson : Json D) : Except Issue NetCommand := do
  let cmd ← construct lib .noAck inJson
  return cmd.setAck "noack" "noack"

/-- The constructor of `NCmdEcho`. -/
def createEcho (inJson : Json D) : Except Issue NetCommand := do
  -- the base constructor comes first
  let cmd ← construct lib (.echo "") inJson
  let msg ← orThrow
    (fun ex => ⟨"NCmdEcho constructor error in " ++ lib.dump inJson ++ " what=" ++ ex.what,
      "NCmdEcho", "NetCommand.cpp", 148⟩)
    (inJson.fetch "msg" "string" Json.toString?)
  return { cmd with netAction := .echo msg }.setAck "ack" "echo"

/-- The constructor of `NCmdSwitchCommandSource`. -/
def createSwitchCommandSource (inJson : Json D) : Except Issue NetCommand := do
  let cmd ← construct lib (.switchCommandSource true) inJson
  let isRemote ← orThrow
    (fun ex => ⟨constructorError lib "cmd_switchCommandSource" "NCmdSwitchCommandSource" inJson ex,
      "NCmdSwitchCommandSource", "NetCommandDefs.cpp", 54⟩)
    (inJson.fetch "isRemote" "boolean" Json.toBool?)
  return { cmd with netAction := .switchCommandSource isRemote }.setAck "ack"
    ("cmd_switchCommandSource " ++ boolStr isRemote)

/-- Reading "powerType" and "status". -/
def powerFields (inJson : Json D) : Except JsonError (Option PowerSystemType × Bool) := do
  let powerVal ← inJson.fetch "powerType" "number" lib.toInt
  let status ← inJson.fetch "status" "boolean" Json.toBool?
  return (PowerSystemType.ofInt powerVal.toInt, status)

/-- The constructor of `NCmdPower`. -/
def createPower (inJson : Json D) : Except Issue NetCommand := do
  let cmd ← construct lib (.power .motor false) inJson
  let fields ← orThrow
    (fun ex => ⟨constructorError lib "cmd_power" "NCmdPower" inJson ex,
      "NCmdPower", "NetCommandDefs.cpp", 89⟩)
    (powerFields lib inJson)
  match fields with
  | (none, _) =>
      throw ⟨"unknown powerType in " ++ lib.dump inJson, "NCmdPower", "NetCommandDefs.cpp", 92⟩
  | (some powerType, status) =>
      return { cmd with netAction := .power powerType status }.setAck "ack"
        ("cmd_power " ++ powerType.str ++ boolStr status)

/-- The constructor of `NCmdSystemShutdown`. -/
def createSystemShutdown (inJson : Json D) : Except Issue NetCommand := do
  let cmd ← construct lib .systemShutdown inJson
  return cmd.setAck "ack" "cmd_systemShutdown"

/-- `createNewNetCommand` of a child class. -/
def createNewNetCommand : NetCommandClass → Json D → Except Issue NetCommand
  | .ack => createAck lib
  | .noAck => createNoAck lib
  | .echo => createEcho lib
  | .switchCommandSource => createSwitchCommandSource lib
  | .power => createPower lib
  | .systemShutdown => createSystemShutdown lib

/-! ## Running a command -/

/-- `PowerSystem::getPowerSystemStateJson`. -/
def powerSystemStateJson (powerType : PowerSystemType) (s : System) : Json D :=
  (((Json.null.set "id" (.string "powerSystemState")).set "powerType"
    (.integer powerType.toInt)).set "status"
      (.boolean ((s.sub powerType).targPowerState == .on))).set "state"
        (.integer (s.sub powerType).actualPowerState.toInt)

/-- `Globals::getCommandableByDdsJson`. -/
def commandableByDdsJson (commandableByDds : Bool) : Json D :=
  (Json.null.set "id" (.string "commandableByDDS")).set "state" (.boolean commandableByDds)

/-- `action` of the child class. -/
def action (clock : Clocks) (controller : Controller D) : NetAction → Controller D × Bool
  | .ack => (controller, true)
  | .noAck => (controller, false)
  | .echo _ => (controller, true)
  | .switchCommandSource isRemote =>
      ({ controller with
          commandSourceIsRemote := isRemote
          commandableByDds := isRemote
          broadcasts := controller.broadcasts ++ [commandableByDdsJson isRemote] }, true)
  | .power powerType status =>
      let result := PowerSystem.cmdPower clock powerType status controller.system
      ({ controller with
          system := result.1
          broadcasts := controller.broadcasts ++ [powerSystemStateJson powerType result.1] },
        result.2)
  | .systemShutdown => ({ controller with shutdowns := controller.shutdowns + 1 }, true)

/-- The fields of `respJson` that the action sets. -/
def respMsg : NetAction → Option String → Option String
  | .echo msg, _ => some msg
  | _, old => old

/-- `NetCommand::run`: the controller and `respJson` afterwards. -/
def run (clock : Clocks) (controller : Controller D) (cmd : NetCommand) : Controller D × Reply :=
  let result := action clock controller cmd.netAction
  (result.1,
    { cmd.respJson with
      id := if result.2 then "success" else "fail"
      msg := respMsg cmd.netAction cmd.respJson.msg })

/-! ## What the constructors do -/

/-- "id" and "sequence_id" of a message, when both are there and convert. -/
def header? (inJson : Json D) : Option (String × SeqId) :=
  match inJson.fetch? "id" Json.toString?, inJson.fetch? "sequence_id" lib.toUInt64 with
  | some name, some seqId => some (name, seqId)
  | _, _ => none

/-- The fields that a child class requires are there and valid. -/
def RequiredFields (inJson : Json D) : NetCommandClass → Prop
  | .ack => True
  | .noAck => True
  | .echo => ∃ msg, inJson.fetch? "msg" Json.toString? = some msg
  | .switchCommandSource => ∃ isRemote, inJson.fetch? "isRemote" Json.toBool? = some isRemote
  | .power =>
      (∃ val, inJson.fetch? "powerType" lib.toInt = some val ∧ (val.toInt = 1 ∨ val.toInt = 2)) ∧
        ∃ status, inJson.fetch? "status" Json.toBool? = some status
  | .systemShutdown => True

/-- What the constructor of a child class makes of a message with a header. -/
structure Built (cls : NetCommandClass) (name : String) (seqId : SeqId) (cmd : NetCommand) :
    Prop where
  name : cmd.name = name
  ackSeqId : cmd.ackJson.sequenceId = seqId
  respSeqId : cmd.respJson.sequenceId = seqId
  ackId : cmd.ackJson.id = if cls = .noAck then "noack" else "ack"
  noAck : cls = .noAck → cmd.netAction = .noAck

variable {lib} {inJson : Json D} {name : String} {seqId : SeqId}

theorem header_eq_ok (h : header? lib inJson = some (name, seqId)) :
    header lib inJson = .ok (name, seqId) := by
  unfold header? at h
  split at h
  · next name' seqId' hname hseq =>
      cases h
      simp only [header, Json.fetch_eq_ok _ hname, Json.fetch_eq_ok _ hseq, bind, Except.bind,
        pure, Except.pure]
  · cases h

theorem header_eq_error (h : header? lib inJson = none) :
    ∃ error, header lib inJson = .error error := by
  unfold header? at h
  cases hname : inJson.fetch? "id" Json.toString? with
  | none =>
      obtain ⟨error, herror⟩ := Json.fetch_eq_error "string" hname
      exact ⟨error, by simp only [header, herror, bind, Except.bind]⟩
  | some name =>
      cases hseq : inJson.fetch? "sequence_id" lib.toUInt64 with
      | none =>
          obtain ⟨error, herror⟩ := Json.fetch_eq_error "number" hseq
          exact ⟨error, by
            simp only [header, Json.fetch_eq_ok _ hname, herror, bind, Except.bind]⟩
      | some seqId => simp [hname, hseq] at h

/-- The command that the base constructor makes. -/
def base (netAction : NetAction) (name : String) (seqId : SeqId) : NetCommand where
  netAction := netAction
  name := name
  seqId := seqId
  ackJson := ⟨"noack", seqId, "invalid:" ++ name, none⟩
  respJson := ⟨"fail", seqId, "", none⟩

theorem construct_eq_ok (netAction : NetAction) (h : header? lib inJson = some (name, seqId)) :
    construct lib netAction inJson = .ok (base netAction name seqId) := by
  simp only [construct, header_eq_ok h, base]

theorem built_setAck {cls : NetCommandClass} (netAction : NetAction) (userInfo : String)
    (hcls : cls ≠ .noAck) :
    Built cls name seqId ((base netAction name seqId).setAck "ack" userInfo) :=
  ⟨rfl, rfl, rfl, (if_neg hcls).symm, fun h => absurd h hcls⟩

theorem powerFields_eq_ok {val : Int32} {status : Bool}
    (hval : inJson.fetch? "powerType" lib.toInt = some val)
    (hstatus : inJson.fetch? "status" Json.toBool? = some status) :
    powerFields lib inJson = .ok (PowerSystemType.ofInt val.toInt, status) := by
  simp only [powerFields, Json.fetch_eq_ok _ hval, Json.fetch_eq_ok _ hstatus, bind, Except.bind,
    pure, Except.pure]

theorem powerFields_cases (lib : JsonLibrary D) (inJson : Json D) :
    (∃ val status, inJson.fetch? "powerType" lib.toInt = some val ∧
        inJson.fetch? "status" Json.toBool? = some status) ∨
      ¬ RequiredFields lib inJson .power ∧ ∃ error, powerFields lib inJson = .error error := by
  cases hval : inJson.fetch? "powerType" lib.toInt with
  | none =>
      obtain ⟨error, herror⟩ := Json.fetch_eq_error "number" hval
      refine Or.inr ⟨?_, error, by simp only [powerFields, herror, bind, Except.bind]⟩
      rintro ⟨⟨val, hsome, -⟩, -⟩
      rw [hval] at hsome
      cases hsome
  | some val =>
      cases hstatus : inJson.fetch? "status" Json.toBool? with
      | none =>
          obtain ⟨error, herror⟩ := Json.fetch_eq_error "boolean" hstatus
          refine Or.inr ⟨?_, error, by
            simp only [powerFields, Json.fetch_eq_ok _ hval, herror, bind, Except.bind]⟩
          rintro ⟨-, status, hsome⟩
          rw [hstatus] at hsome
          cases hsome
      | some status => exact Or.inl ⟨val, status, rfl, rfl⟩

/-- A constructor makes the command when the required fields are there, and
throws otherwise. -/
def Checked (lib : JsonLibrary D) (cls : NetCommandClass) (inJson : Json D) (name : String)
    (seqId : SeqId) (result : Except Issue NetCommand) : Prop :=
  (RequiredFields lib inJson cls ∧ ∃ cmd, result = .ok cmd ∧ Built cls name seqId cmd) ∨
    (¬ RequiredFields lib inJson cls ∧ ∃ issue, result = .error issue)

theorem checked_createEcho (h : header? lib inJson = some (name, seqId)) :
    Checked lib .echo inJson name seqId (createEcho lib inJson) := by
  simp only [createEcho, construct_eq_ok _ h, bind, Except.bind]
  cases hmsg : inJson.fetch? "msg" Json.toString? with
  | some msg =>
      rw [Json.fetch_eq_ok _ hmsg]
      exact Or.inl ⟨⟨msg, hmsg⟩, _, rfl, built_setAck (.echo msg) _ (by decide)⟩
  | none =>
      obtain ⟨error, herror⟩ := Json.fetch_eq_error "string" hmsg
      rw [herror]
      refine Or.inr ⟨?_, _, rfl⟩
      rintro ⟨msg, hsome⟩
      rw [hmsg] at hsome
      cases hsome

theorem checked_createSwitchCommandSource (h : header? lib inJson = some (name, seqId)) :
    Checked lib .switchCommandSource inJson name seqId (createSwitchCommandSource lib inJson) := by
  simp only [createSwitchCommandSource, construct_eq_ok _ h, bind, Except.bind]
  cases hremote : inJson.fetch? "isRemote" Json.toBool? with
  | some isRemote =>
      rw [Json.fetch_eq_ok _ hremote]
      exact Or.inl ⟨⟨isRemote, hremote⟩, _, rfl,
        built_setAck (.switchCommandSource isRemote) _ (by decide)⟩
  | none =>
      obtain ⟨error, herror⟩ := Json.fetch_eq_error "boolean" hremote
      rw [herror]
      refine Or.inr ⟨?_, _, rfl⟩
      rintro ⟨isRemote, hsome⟩
      rw [hremote] at hsome
      cases hsome

theorem ofInt_eq_none_iff (val : ℤ) :
    PowerSystemType.ofInt val = none ↔ ¬ (val = 1 ∨ val = 2) := by
  unfold PowerSystemType.ofInt
  split_ifs <;> simp_all

theorem checked_createPower (h : header? lib inJson = some (name, seqId)) :
    Checked lib .power inJson name seqId (createPower lib inJson) := by
  simp only [createPower, construct_eq_ok _ h, bind, Except.bind]
  rcases powerFields_cases lib inJson with
    ⟨val, status, hval, hstatus⟩ | ⟨hmissing, error, herror⟩
  · rw [powerFields_eq_ok hval hstatus]
    cases htype : PowerSystemType.ofInt val.toInt with
    | some powerType =>
        have hknown : val.toInt = 1 ∨ val.toInt = 2 := by
          by_contra hunknown
          rw [(ofInt_eq_none_iff _).mpr hunknown] at htype
          cases htype
        exact Or.inl ⟨⟨⟨val, hval, hknown⟩, status, hstatus⟩, _, rfl,
          built_setAck (.power powerType status) _ (by decide)⟩
    | none =>
        refine Or.inr ⟨?_, _, rfl⟩
        rintro ⟨⟨val', hval', hknown⟩, -⟩
        rw [hval] at hval'
        cases hval'
        exact (ofInt_eq_none_iff _).mp htype hknown
  · rw [herror]
    exact Or.inr ⟨hmissing, _, rfl⟩

/-- **Every child class** checks its required fields. -/
theorem checked_createNewNetCommand (cls : NetCommandClass)
    (h : header? lib inJson = some (name, seqId)) :
    Checked lib cls inJson name seqId (createNewNetCommand lib cls inJson) := by
  cases cls with
  | ack =>
      refine Or.inl ⟨trivial, _, ?_, built_setAck .ack "ack" (by decide)⟩
      simp only [createNewNetCommand, createAck, construct_eq_ok _ h, bind, Except.bind]
      rfl
  | noAck =>
      refine Or.inl ⟨trivial, (base .noAck name seqId).setAck "noack" "noack", ?_, ?_⟩
      · simp only [createNewNetCommand, createNoAck, construct_eq_ok _ h, bind, Except.bind]
        rfl
      · exact ⟨rfl, rfl, rfl, rfl, fun _ => rfl⟩
  | echo => exact checked_createEcho h
  | switchCommandSource => exact checked_createSwitchCommandSource h
  | power => exact checked_createPower h
  | systemShutdown =>
      refine Or.inl ⟨trivial, _, ?_, built_setAck .systemShutdown "cmd_systemShutdown" (by decide)⟩
      simp only [createNewNetCommand, createSystemShutdown, construct_eq_ok _ h, bind, Except.bind]
      rfl

/-- The reply that is sent when nothing can be acknowledged: "noack", then "fail". -/
structure IsNoAck (seqId : SeqId) (cmd : NetCommand) : Prop where
  ackId : cmd.ackJson.id = "noack"
  ackSeqId : cmd.ackJson.sequenceId = seqId
  respSeqId : cmd.respJson.sequenceId = seqId
  netAction : cmd.netAction = .noAck

theorem Built.isNoAck {cmd : NetCommand} (h : Built .noAck name seqId cmd) : IsNoAck seqId cmd :=
  ⟨h.ackId, h.ackSeqId, h.respSeqId, h.noAck rfl⟩

theorem IsNoAck.setAckUserInfo {cmd : NetCommand} (h : IsNoAck seqId cmd) (msg : String) :
    IsNoAck seqId (cmd.setAckUserInfo msg) :=
  ⟨h.ackId, h.ackSeqId, h.respSeqId, h.netAction⟩

theorem createNoAck_spec (h : header? lib inJson = some (name, seqId)) :
    ∃ cmd, createNewNetCommand lib .noAck inJson = .ok cmd ∧ Built .noAck name seqId cmd := by
  rcases checked_createNewNetCommand .noAck h with ⟨-, hok⟩ | ⟨hmissing, -⟩
  · exact hok
  · exact absurd trivial hmissing

/-- **Running a noack** changes nothing and fails. -/
theorem IsNoAck.run {cmd : NetCommand} (h : IsNoAck seqId cmd) (clock : Clocks)
    (controller : Controller D) :
    (cmd.run clock controller).1 = controller ∧ (cmd.run clock controller).2.id = "fail" := by
  simp [NetCommand.run, h.netAction, action]

@[simp] theorem sequenceId_run (cmd : NetCommand) (clock : Clocks) (controller : Controller D) :
    (cmd.run clock controller).2.sequenceId = cmd.respJson.sequenceId := rfl

end NetCommand

end M2Cell
