import M2Cell.Server.Welcome

/-!
# The client of the command server

`ComClient` runs one call at a time.  A call that waits for a message reads the messages
of the server one after the other; a message that it does not wait for goes to the
`JsonMsgMap`, under its "id".  One `read` is one pass of the loop of the call.

The socket delivers bytes at any time (`arrive`).  When it is lost, writing throws, and
so does reading once there is no message left.

The calls differ in what a pass of their loop does with a message, so there is one definition for
each of the loops (`welcomePass`, `cmdRecvSeqIdPass`, `cmdRecvIdPass`).  `cmdSendRecv` is two
loops of the second kind, with the ack kept in between, and `recvDequeForId` takes what is stored,
or reads as `cmdRecvId` does when there is nothing.  A call that returns or throws leaves its
result in `results`, in the order of the calls, and is over (`finish`).
-/

namespace M2Cell

variable {D : Type}

/-! ## The map of messages -/

/-- `JsonMsgMap`: the deques with their keys.  Nothing reads the order of the keys. -/
structure JsonMsgMap (D : Type) where
  msgMap : List (String × List (Json D))

namespace JsonMsgMap

/-- `(*_msgMap)[key].push_back(js)`. -/
def pushBack (key : String) (js : Json D) :
    List (String × List (Json D)) → List (String × List (Json D))
  | [] => [(key, [js])]
  | entry :: rest =>
      if key = entry.1 then (entry.1, entry.2 ++ [js]) :: rest else entry :: pushBack key js rest

/-- Leave an empty deque at the key. -/
def clearAt (key : String) : List (String × List (Json D)) → List (String × List (Json D))
  | [] => []
  | entry :: rest => if key = entry.1 then (entry.1, []) :: rest else entry :: clearAt key rest

/-- `insert`. -/
def insert (key : String) (js : Json D) (jMsgMap : JsonMsgMap D) : JsonMsgMap D :=
  ⟨pushBack key js jMsgMap.msgMap⟩

/-- The messages that are stored under a key. -/
def dequeAt (key : String) (jMsgMap : JsonMsgMap D) : List (Json D) :=
  (jMsgMap.msgMap.lookup key).getD []

/-- `getDequeFor`: the map afterwards and the deque. -/
def getDequeFor (key : String) (jMsgMap : JsonMsgMap D) : JsonMsgMap D × List (Json D) :=
  (⟨clearAt key jMsgMap.msgMap⟩, jMsgMap.dequeAt key)

/-- Inserting puts the message behind the others of its key. -/
theorem dequeAt_insert (key other : String) (js : Json D) (jMsgMap : JsonMsgMap D) :
    (jMsgMap.insert key js).dequeAt other =
      jMsgMap.dequeAt other ++ if other = key then [js] else [] := by
  obtain ⟨entries⟩ := jMsgMap
  simp only [insert, dequeAt]
  induction entries with
  | nil => by_cases h : other = key <;> simp [pushBack, Json.lookup_cons_eq, h]
  | cons entry rest ih =>
      by_cases hkey : key = entry.1
      · by_cases h : other = entry.1 <;> simp [pushBack, hkey, Json.lookup_cons_eq, h]
      · by_cases h : other = entry.1
        · simp [pushBack, hkey, Json.lookup_cons_eq, h, Ne.symm hkey]
        · simpa [pushBack, hkey, Json.lookup_cons_eq, h] using ih

end JsonMsgMap

/-! ## The client -/

/-- `uint`, the type of a "sequence_id" for the client. -/
abbrev ClientSeqId := Fin (2 ^ 32)

/-- The calls that wait for messages, with what they have so far. -/
inductive ClientCall (D : Type)
  | cmdSendRecv (seqId : ClientSeqId) (ackJ : Option (Json D))
  | cmdRecvSeqId (seqId : ClientSeqId)
  | cmdRecvId (targetId : String)
  /-- The map had nothing for the key. -/
  | recvDequeForId (key : String)
  | readWelcomeMsg (count : ℕ)

/-- What the calls return or throw. -/
inductive ClientResult (D : Type)
  | pair (seqId : ClientSeqId) (ackJ finJ : Json D)
  | message (js : Json D)
  | deque (jDeque : List (Json D))
  | count (count : ℤ)
  /-- `nlohmann::json::exception`. -/
  | exception (error : JsonError)
  /-- `boost::system::system_error`. -/
  | systemError

/-- `ComClient`. -/
structure ComClient (D : Type) where
  /-- `_readStream`, and what the socket has delivered since. -/
  readStream : List UInt8
  isOpen : Bool
  jMsgMap : JsonMsgMap D
  call : Option (ClientCall D)
  /-- What the calls have returned, the oldest first. -/
  results : List (ClientResult D)

/-- The calls, a pass of the loop of the call, and what the socket does. -/
inductive ClientAction
  | arrive (bytes : List UInt8)
  | lose
  | cmdSendRecv (jStr : String) (seqId : ClientSeqId)
  | cmdRecvSeqId (seqId : ClientSeqId)
  | cmdRecvId (targetId : String)
  | recvDequeForId (key : String)
  | readWelcomeMsg
  | read

namespace ComClient

/-- A connection has been made. -/
def start : ComClient D := ⟨[], true, ⟨[]⟩, none, []⟩

/-- `readCommand`: the first message of the stream, and the rest. -/
def readCommand (readStream : List UInt8) : Option (List UInt8 × List UInt8) :=
  ComConnection.readUntil readStream

variable (lib : JsonLibrary D) (literal : ℚ → D)

/-- `nlohmann::json::parse`. -/
def parse (inStr : ByteArray) : Except JsonError (Json D) :=
  match lib.parse inStr with
  | .value js => .ok js
  | .parseError what => .error ⟨.parseError, what⟩
  | .outOfRange what => .error ⟨.outOfRange, what⟩

/-- `string id = js["id"]`, where a missing member becomes null. -/
def idOf : Json D → Except JsonError String
  | .null => .error (Json.wrongType "string" (.null : Json D))
  | .object members => ((members.lookup "id").getD .null).convert "string" Json.toString?
  | js =>
      .error ⟨.typeError,
        "[json.exception.type_error.305] cannot use operator[] with a string argument with "
          ++ js.typeName⟩

section passes

variable [Double D]

/-- `iter != js.end() && *iter == seqId`. -/
def hasSeqId (seqId : ClientSeqId) (js : Json D) : Bool :=
  match js.find? "sequence_id" with
  | some (.integer n) => n == seqId.val
  | some (.float d) => d == literal seqId.val
  | _ => false

/-- A pass of the loop of `cmdRecvSeqId`: the message, and the key under which it is stored
when the loop goes on. -/
def cmdRecvSeqIdPass (seqId : ClientSeqId) (inStr : ByteArray) :
    Except JsonError (Json D × Option String) := do
  let js ← parse lib inStr
  if hasSeqId literal seqId js then return (js, none)
  let id ← idOf js
  return (js, some id)

/-- A pass of the loop of `cmdRecvId`.  An "id" that is no string is not the target, and
cannot be a key. -/
def cmdRecvIdPass (targetId : String) (inStr : ByteArray) :
    Except JsonError (Json D × Option String) := do
  let js ← parse lib inStr
  let id ← idOf js
  return (js, if id = targetId then none else some id)

/-- The call returns or throws. -/
def finish (result : ClientResult D) (s : ComClient D) : ComClient D :=
  { s with call := none, results := s.results ++ [result] }

/-- The loop throws, goes on, or has found its message. -/
def loop (pass : Except JsonError (Json D × Option String)) (found : Json D → ComClient D)
    (s : ComClient D) : ComClient D :=
  match pass with
  | .error error => s.finish (.exception error)
  | .ok (js, some id) => { s with jMsgMap := s.jMsgMap.insert id js }
  | .ok (js, none) => found js

/-- The "id" of the last message of the welcome. -/
def lastMsgId : String := "summaryFaultsStatus"

/-- A pass of the loop of `readWelcomeMsg`.  Only `parse_error` is caught. -/
def welcomePass (count : ℕ) (inMsg : ByteArray) (s : ComClient D) : ComClient D :=
  match lib.parse inMsg with
  | .parseError _ => s.finish (.count (-1))
  | .outOfRange what => s.finish (.exception ⟨.outOfRange, what⟩)
  | .value js =>
      match idOf js with
      | .error error => s.finish (.exception error)
      | .ok id =>
          if id = lastMsgId then s.finish (.count (count + 1))
          else { s with call := some (.readWelcomeMsg (count + 1)) }

/-- What a call does with a message. -/
def receive (inStr : ByteArray) (s : ComClient D) : ClientCall D → ComClient D
  | .cmdSendRecv seqId none =>
      s.loop (cmdRecvSeqIdPass lib literal seqId inStr)
        fun js => { s with call := some (.cmdSendRecv seqId (some js)) }
  | .cmdSendRecv seqId (some ackJ) =>
      s.loop (cmdRecvSeqIdPass lib literal seqId inStr) fun js => s.finish (.pair seqId ackJ js)
  | .cmdRecvSeqId seqId =>
      s.loop (cmdRecvSeqIdPass lib literal seqId inStr) fun js => s.finish (.message js)
  | .cmdRecvId targetId =>
      s.loop (cmdRecvIdPass lib targetId inStr) fun js => s.finish (.message js)
  | .recvDequeForId key =>
      s.loop (cmdRecvIdPass lib key inStr) fun js => s.finish (.deque [js])
  | .readWelcomeMsg count => s.welcomePass lib count inStr

/-- A call that reads begins. -/
def begin (call : ClientCall D) (s : ComClient D) : ComClient D :=
  if s.call.isNone then { s with call := some call } else s

/-- One step.  There is one thread, so a call begins when none is under way. -/
def step (s : ComClient D) : ClientAction → ComClient D
  | .arrive bytes => { s with readStream := s.readStream ++ bytes }
  | .lose => { s with isOpen := false }
  | .cmdSendRecv _ seqId =>
      if s.call.isSome then s
      else if s.isOpen then s.begin (.cmdSendRecv seqId none)
      else s.finish .systemError
  | .cmdRecvSeqId seqId => s.begin (.cmdRecvSeqId seqId)
  | .cmdRecvId targetId => s.begin (.cmdRecvId targetId)
  | .recvDequeForId key =>
      if s.call.isSome then s
      else
        let (jMsgMap, jDeque) := s.jMsgMap.getDequeFor key
        let s := { s with jMsgMap := jMsgMap }
        if jDeque.isEmpty then s.begin (.recvDequeForId key) else s.finish (.deque jDeque)
  | .readWelcomeMsg => s.begin (.readWelcomeMsg 0)
  | .read =>
      match s.call, readCommand s.readStream with
      | none, _ => s
      | some call, some (inStr, rest) =>
          { s with readStream := rest }.receive lib literal ⟨inStr.toArray⟩ call
      | some _, none => if s.isOpen then s else s.finish .systemError

/-- The bytes that a call writes. -/
def written (s : ComClient D) : ClientAction → List UInt8
  | .cmdSendRecv jStr _ =>
      if s.call.isNone ∧ s.isOpen then (jStr ++ ComConnection.getDelimiter).toUTF8.data.toList
      else []
  | _ => []

end passes

end ComClient

end M2Cell
