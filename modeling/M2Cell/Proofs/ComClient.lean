import M2Cell.Client.ComClient
import M2Cell.Lib.Ledger
import M2Cell.Lib.Run

/-!
# The messages of the client

Whatever the calls, the server and the socket do, every message that the client has read
is accounted for: it is in the deque of its "id", in the order in which it came, or it is
the ack that `cmdSendRecv` holds, or a call has returned it, once, or it is spent
(`accounted_run`).

`readings` says which messages a run reads, and for each of them which call read it and
the place of this call among the results.  So a message that is spent can be tied to the
call that spent it (`Excused`): `readWelcomeMsg` drops what it reads, a call throws on a
message that is no JSON or has no string as its "id", and a `cmdSendRecv` that throws
while it waits for the final reply takes its ack with it.

`Accounted` ties the client to a ledger of the readings.  There is one lemma for each way
in which a message is read or moved:

* `Accounted.store`: the loop of a call goes on, and the message goes to the map.
* `Accounted.hold`, `Accounted.pair`: `cmdSendRecv` has its ack, and then its final reply.
* `Accounted.give`: any other call has found its message.
* `Accounted.welcome`: `readWelcomeMsg` has read a message, and goes on or returns.
* `Accounted.throw`, `Accounted.fail`: a call throws on a message, or because the
  connection is lost.
* `Accounted.takeDeque`, `Accounted.takeNothing`: `recvDequeForId` looks at the map.

`accounted_step` puts them together, by the action and the call that is under way.
-/

namespace M2Cell

namespace ComClient

variable {D : Type}

/-- A message that was read. -/
structure Reading (D : Type) where
  message : List UInt8
  /-- The call that was under way. -/
  call : ClientCall D
  /-- How many calls had returned or thrown before. -/
  index : ℕ

/-- What an action reads. -/
def readings (s : ComClient D) : ClientAction → List (Reading D)
  | .read =>
      match s.call, readCommand s.readStream with
      | some call, some (message, _) => [⟨message, call, s.results.length⟩]
      | _, _ => []
  | _ => []

/-- A value of the ledger: what it is stored under, or `none` for an ack that is held. -/
abbrev Placed (D : Type) := Option String × Json D

/-- The messages that were read, with what has become of them. -/
abbrev MessageLedger (D : Type) := List (Reading D × Fate (Placed D))

def underId (id : String) (value : Placed D) : Bool := value.1 == some id

def isHeld (value : Placed D) : Bool := value.1.isNone

/-- The messages in what a call has returned. -/
def messages : ClientResult D → List (Json D)
  | .pair _ ackJ finJ => [ackJ, finJ]
  | .message js => [js]
  | .deque jDeque => jDeque
  | _ => []

/-- The ack that a call holds. -/
def ackOf : Option (ClientCall D) → List (Json D)
  | some (.cmdSendRecv _ (some ackJ)) => [ackJ]
  | _ => []

/-- The call has thrown. -/
def Throws : ClientResult D → Prop
  | .exception _ => True
  | .systemError => True
  | _ => False

section excused

variable (lib : JsonLibrary D)

/-- `js["id"]` of a message, when it is JSON. -/
def idOfMessage (message : List UInt8) : Except JsonError String := do
  let js ← parse lib ⟨message.toArray⟩
  idOf js

variable (literal : ℚ → D) [Double D]

/-- Why a message is neither kept nor returned. -/
inductive Excused (results : List (ClientResult D)) (reading : Reading D) : Prop
  /-- `readWelcomeMsg` drops what it reads. -/
  | welcome (count : ℕ) (hcall : reading.call = .readWelcomeMsg count)
  /-- The call has thrown on the message. -/
  | thrown (error : JsonError) (hmessage : idOfMessage lib reading.message = .error error)
      (hresult : results[reading.index]? = some (.exception error))
  /-- The message is the ack of a `cmdSendRecv` that has thrown later. -/
  | ack (seqId : ClientSeqId) (js : Json D) (result : ClientResult D)
      (hcall : reading.call = .cmdSendRecv seqId none)
      (hparse : parse lib ⟨reading.message.toArray⟩ = .ok js)
      (hack : hasSeqId literal seqId js = true)
      (hresult : results[reading.index]? = some result) (hthrows : Throws result)

end excused

variable (lib : JsonLibrary D)

/-- The values of the messages that were read, in the order in which they came. -/
def readValues (ledger : MessageLedger D) : List (Json D) :=
  ledger.filterMap fun entry => (parse lib ⟨entry.1.message.toArray⟩).toOption

/-- The values of a ledger are those of its messages, and they are kept under their "id". -/
structure Sound (ledger : MessageLedger D) : Prop where
  parsed : ∀ entry ∈ ledger, ∀ value, entry.2.value? = some value →
    parse lib ⟨entry.1.message.toArray⟩ = .ok value.2
  id : ∀ entry ∈ ledger, ∀ id js, entry.2 = .kept (some id, js) → idOf js = .ok id

/-- Every message that was read is accounted for. -/
structure Accounted [Double D] (literal : ℚ → D) (arrived : List UInt8) (reads : List (Reading D))
    (s : ComClient D) (ledger : MessageLedger D) : Prop where
  sound : Sound lib ledger
  read : ledger.map Prod.fst = reads
  stream : arrived =
    Framing.encode ComConnection.cr ComConnection.lf (reads.map Reading.message) ++ s.readStream
  stored : ∀ id, s.jMsgMap.dequeAt id = (Ledger.kept (underId id) ledger).map Prod.snd
  held : ackOf s.call = (Ledger.kept isHeld ledger).map Prod.snd
  /-- The ack that is held was read by the call that is under way. -/
  awaited : ∀ entry ∈ ledger, ∀ js, entry.2 = .kept (none, js) →
    entry.1.index = s.results.length ∧
      ∃ seqId, entry.1.call = .cmdSendRecv seqId none ∧ hasSeqId literal seqId js = true
  returned : (s.results.flatMap messages).Perm ((Ledger.given ledger).map Prod.snd)
  deques : ∀ jDeque, .deque jDeque ∈ s.results → jDeque.Sublist (readValues lib ledger)
  spent : ∀ entry ∈ ledger, entry.2 = .spent → Excused lib literal s.results entry.1

variable {lib} {ledger : MessageLedger D}

/-! ## Ledgers of messages -/

theorem readValues_concat (reading : Reading D) (fate : Fate (Placed D)) :
    readValues lib (ledger ++ [(reading, fate)]) =
      readValues lib ledger ++ (parse lib ⟨reading.message.toArray⟩).toOption.toList := by
  unfold readValues
  rw [List.filterMap_append]
  cases h : (parse lib ⟨reading.message.toArray⟩).toOption <;> simp [h]

theorem readValues_settle (cond : Placed D → Bool) (become : Placed D → Fate (Placed D)) :
    readValues lib (Ledger.settle cond become ledger) = readValues lib ledger := by
  unfold readValues Ledger.settle
  rw [List.filterMap_map]
  rfl

/-- What is stored is not held. -/
theorem kept_underId (id : String) :
    Ledger.kept (fun value => underId id value && !isHeld value) ledger =
      Ledger.kept (underId id) ledger := by
  have hcond : (fun value : Placed D => underId id value && !isHeld value) = underId id := by
    funext value
    obtain ⟨place, js⟩ := value
    cases place <;> simp [underId, isHeld]
  rw [hcond]

/-- Nothing that is held remains when it is settled. -/
theorem kept_isHeld :
    Ledger.kept (fun value => isHeld value && !isHeld value) ledger = [] := by
  unfold Ledger.kept
  rw [List.filterMap_eq_nil_iff]
  rintro ⟨message, fate⟩ -
  cases fate <;> simp [Fate.kept?]

/-- Every fate of a settled ledger comes from one of the ledger. -/
theorem exists_of_mem_settle {cond : Placed D → Bool} {become : Placed D → Fate (Placed D)}
    {entry : Reading D × Fate (Placed D)} (h : entry ∈ Ledger.settle cond become ledger) :
    ∃ fate, (entry.1, fate) ∈ ledger ∧ entry.2 = fate.settle cond become := by
  obtain ⟨⟨message, fate⟩, hmem, rfl⟩ := List.mem_map.mp h
  exact ⟨fate, hmem, rfl⟩

theorem Sound.settle (h : Sound lib ledger) (cond : Placed D → Bool)
    {become : Placed D → Fate (Placed D)}
    (hbecome : ∀ value, become value = .given value ∨ become value = .spent) :
    Sound lib (Ledger.settle cond become ledger) := by
  constructor
  · intro entry hentry value hvalue
    obtain ⟨fate, hmem, hfate⟩ := exists_of_mem_settle hentry
    apply h.parsed _ hmem value
    rw [hfate] at hvalue
    cases fate with
    | kept old =>
        by_cases hcond : cond old = true
        · obtain hgiven | hspent := hbecome old
          · simpa [Fate.settle, hcond, hgiven, Fate.value?] using hvalue
          · simp [Fate.settle, hcond, hspent, Fate.value?] at hvalue
        · simpa [Fate.settle, hcond] using hvalue
    | given old => exact hvalue
    | spent => exact hvalue
  · intro entry hentry id js hkept
    obtain ⟨fate, hmem, hfate⟩ := exists_of_mem_settle hentry
    apply h.id _ hmem id js
    rw [hkept] at hfate
    cases fate with
    | kept old =>
        by_cases hcond : cond old = true
        · obtain hgiven | hspent := hbecome old
          · simp [Fate.settle, hcond, hgiven] at hfate
          · simp [Fate.settle, hcond, hspent] at hfate
        · simpa [Fate.settle, hcond] using hfate.symm
    | given old => cases hfate
    | spent => cases hfate

theorem Sound.give (h : Sound lib ledger) (cond : Placed D → Bool) :
    Sound lib (Ledger.give cond ledger) :=
  h.settle cond fun _ => Or.inl rfl

theorem Sound.spend (h : Sound lib ledger) (cond : Placed D → Bool) :
    Sound lib (Ledger.spend cond ledger) :=
  h.settle cond fun _ => Or.inr rfl

theorem Sound.concat (h : Sound lib ledger) {reading : Reading D} {fate : Fate (Placed D)}
    (hparsed : ∀ value, fate.value? = some value →
      parse lib ⟨reading.message.toArray⟩ = .ok value.2)
    (hid : ∀ id js, fate = .kept (some id, js) → idOf js = .ok id) :
    Sound lib (ledger ++ [(reading, fate)]) := by
  constructor
  · intro entry hentry
    obtain hold | hnew := List.mem_append.mp hentry
    · exact h.parsed entry hold
    · rw [List.mem_singleton.mp hnew]
      exact hparsed
  · intro entry hentry
    obtain hold | hnew := List.mem_append.mp hentry
    · exact h.id entry hold
    · rw [List.mem_singleton.mp hnew]
      exact hid

/-- What is in a ledger after giving out and is not given was there before. -/
theorem mem_of_mem_give {cond : Placed D → Bool} {entry : Reading D × Fate (Placed D)}
    (h : entry ∈ Ledger.give cond ledger) (hnot : ∀ value, entry.2 ≠ .given value) :
    entry ∈ ledger := by
  obtain ⟨fate, hmem, hfate⟩ := exists_of_mem_settle h
  obtain ⟨reading, fate'⟩ := entry
  change fate' = _ at hfate
  subst hfate
  cases fate with
  | kept old =>
      by_cases hcond : cond old = true
      · exact absurd (by simp [Fate.settle, hcond]) (hnot old)
      · simpa [Fate.settle, hcond] using hmem
  | given old => exact hmem
  | spent => exact hmem

/-- When nothing is held, no entry says so. -/
theorem not_held (h : Ledger.kept isHeld ledger = []) {entry : Reading D × Fate (Placed D)}
    (hentry : entry ∈ ledger) (js : Json D) : entry.2 ≠ .kept (none, js) := by
  intro hkept
  have hnone := List.filterMap_eq_nil_iff.mp h entry hentry
  rw [hkept] at hnone
  simp [Fate.kept?, isHeld] at hnone

/-- What is spent after spending what was held was spent before, or held. -/
theorem mem_of_mem_spend {entry : Reading D × Fate (Placed D)}
    (h : entry ∈ Ledger.spend isHeld ledger) (hspent : entry.2 = .spent) :
    (entry.1, .spent) ∈ ledger ∨ ∃ js, (entry.1, .kept (none, js)) ∈ ledger := by
  obtain ⟨fate, hmem, hfate⟩ := exists_of_mem_settle h
  rw [hspent] at hfate
  cases fate with
  | kept old =>
      obtain ⟨place, js⟩ := old
      cases place with
      | none => exact Or.inr ⟨js, hmem⟩
      | some id => simp [Fate.settle, isHeld] at hfate
  | given old => cases hfate
  | spent => exact Or.inl hmem

variable [Double D] {literal : ℚ → D} {arrived : List UInt8} {reads : List (Reading D)}
  {s : ComClient D}

/-- One result more leaves the reasons as they are. -/
theorem Excused.concat {results : List (ClientResult D)} {reading : Reading D}
    (h : Excused lib literal results reading) (result : ClientResult D) :
    Excused lib literal (results ++ [result]) reading := by
  have hkeeps {index : ℕ} {old : ClientResult D} (hold : results[index]? = some old) :
      (results ++ [result])[index]? = some old := by
    obtain ⟨hlt, -⟩ := List.getElem?_eq_some_iff.mp hold
    rw [List.getElem?_append_left hlt]
    exact hold
  cases h with
  | welcome count hcall => exact .welcome count hcall
  | thrown error hmessage hresult => exact .thrown error hmessage (hkeeps hresult)
  | ack seqId js old hcall hparse hack hresult hthrows =>
      exact .ack seqId js old hcall hparse hack (hkeeps hresult) hthrows

/-- Deques that were returned stay in order. -/
theorem Accounted.deques_concat (h : Accounted lib literal arrived reads s ledger)
    {settled : MessageLedger D} (hvalues : readValues lib settled = readValues lib ledger)
    (reading : Reading D) (fate : Fate (Placed D)) {jDeque : List (Json D)}
    (hmem : .deque jDeque ∈ s.results) :
    jDeque.Sublist (readValues lib (settled ++ [(reading, fate)])) := by
  rw [readValues_concat, hvalues]
  exact (h.deques jDeque hmem).trans (List.sublist_append_left _ _)

/-- What was held is excused when its call throws. -/
theorem Accounted.spent_spend (h : Accounted lib literal arrived reads s ledger)
    {result : ClientResult D} (hthrows : Throws result) {entry : Reading D × Fate (Placed D)}
    (hentry : entry ∈ Ledger.spend isHeld ledger) (hspent : entry.2 = .spent) :
    Excused lib literal (s.results ++ [result]) entry.1 := by
  obtain hold | ⟨js, hheld⟩ := mem_of_mem_spend hentry hspent
  · exact (h.spent _ hold rfl).concat result
  · obtain ⟨hindex, seqId, hcall, hack⟩ := h.awaited _ hheld js rfl
    have hparse := h.sound.parsed _ hheld (none, js) rfl
    refine .ack seqId js result hcall hparse hack ?_ hthrows
    rw [hindex]
    exact List.getElem?_concat_length

section reading

variable (h : Accounted lib literal arrived reads s ledger) {message rest : List UInt8}
  (hread : readCommand s.readStream = some (message, rest)) {call : ClientCall D}
include h hread

/-- The stream after a message. -/
theorem Accounted.stream_concat :
    arrived = Framing.encode ComConnection.cr ComConnection.lf
      ((reads ++ [(⟨message, call, s.results.length⟩ : Reading D)]).map Reading.message) ++ rest := by
  obtain ⟨hstream, -⟩ := Framing.eq_of_takeFrame hread
  rw [h.stream, hstream, List.map_append, Framing.encode_append]
  simp [Framing.encode]

/-- The loop goes on. -/
theorem Accounted.store {id : String} {js : Json D}
    (hparse : parse lib ⟨message.toArray⟩ = .ok js) (hid : ComClient.idOf js = .ok id) :
    Accounted lib literal arrived (reads ++ [⟨message, call, s.results.length⟩])
      { s with readStream := rest, jMsgMap := s.jMsgMap.insert id js }
      (ledger ++ [(⟨message, call, s.results.length⟩, .kept (some id, js))]) where
  sound := by
    refine h.sound.concat (fun value hvalue => ?_) (fun id' js' hkept => ?_)
    · cases hvalue
      exact hparse
    · cases hkept
      exact hid
  read := by rw [List.map_append, h.read]; rfl
  stream := h.stream_concat hread
  stored other := by
    have hkept : ((Fate.kept (some id, js)).kept? (underId other)).toList =
        if other = id then [(some id, js)] else [] := by
      by_cases heq : other = id
      · simp [Fate.kept?, underId, heq]
      · simp [Fate.kept?, underId, heq, Ne.symm heq]
    rw [JsonMsgMap.dequeAt_insert, h.stored, Ledger.kept_concat, hkept, List.map_append]
    split_ifs <;> rfl
  held := by
    rw [Ledger.kept_concat, List.map_append, ← h.held]
    simp [Fate.kept?, isHeld]
  awaited entry hentry js' hkept := by
    obtain hold | hnew := List.mem_append.mp hentry
    · exact h.awaited entry hold js' hkept
    · rw [List.mem_singleton.mp hnew] at hkept
      cases hkept
  returned := by
    rw [Ledger.given_concat]
    simpa [Fate.given?] using h.returned
  deques jDeque hmem := h.deques_concat rfl _ _ hmem
  spent entry hentry hspent := by
    obtain hold | hnew := List.mem_append.mp hentry
    · exact h.spent entry hold hspent
    · rw [List.mem_singleton.mp hnew] at hspent
      cases hspent

/-- `cmdSendRecv` has its ack. -/
theorem Accounted.hold {js : Json D} (hparse : parse lib ⟨message.toArray⟩ = .ok js)
    {seqId : ClientSeqId} (hcall : s.call = some (.cmdSendRecv seqId none))
    (hack : hasSeqId literal seqId js = true) :
    Accounted lib literal arrived
      (reads ++ [⟨message, .cmdSendRecv seqId none, s.results.length⟩])
      { s with readStream := rest, call := some (.cmdSendRecv seqId (some js)) }
      (ledger ++ [(⟨message, .cmdSendRecv seqId none, s.results.length⟩, .kept (none, js))]) where
  sound := by
    refine h.sound.concat (fun value hvalue => ?_) (fun id' js' hkept => ?_)
    · cases hvalue
      exact hparse
    · cases hkept
  read := by rw [List.map_append, h.read]; rfl
  stream := h.stream_concat hread
  stored other := by
    rw [Ledger.kept_concat, List.map_append, ← h.stored]
    simp [Fate.kept?, underId]
  held := by
    have hnone := h.held
    rw [hcall] at hnone
    rw [Ledger.kept_concat, List.map_append, ← hnone]
    simp [Fate.kept?, isHeld, ackOf]
  awaited entry hentry js' hkept := by
    obtain hold | hnew := List.mem_append.mp hentry
    · exact h.awaited entry hold js' hkept
    · rw [List.mem_singleton.mp hnew] at hkept ⊢
      cases hkept
      exact ⟨rfl, seqId, rfl, hack⟩
  returned := by
    rw [Ledger.given_concat]
    simpa [Fate.given?] using h.returned
  deques jDeque hmem := h.deques_concat rfl _ _ hmem
  spent entry hentry hspent := by
    obtain hold | hnew := List.mem_append.mp hentry
    · exact h.spent entry hold hspent
    · rw [List.mem_singleton.mp hnew] at hspent
      cases hspent

/-- A call that holds no ack returns a message. -/
theorem Accounted.give {js : Json D} (hparse : parse lib ⟨message.toArray⟩ = .ok js)
    (hheld : ackOf s.call = []) {result : ClientResult D}
    (hresult : result = .message js ∨ result = .deque [js]) :
    Accounted lib literal arrived (reads ++ [⟨message, call, s.results.length⟩])
      (({ s with readStream := rest } : ComClient D).finish result)
      (ledger ++ [(⟨message, call, s.results.length⟩, .given (none, js))]) where
  sound := by
    refine h.sound.concat (fun value hvalue => ?_) (fun id' js' hkept => ?_)
    · cases hvalue
      exact hparse
    · cases hkept
  read := by rw [List.map_append, h.read]; rfl
  stream := h.stream_concat hread
  stored other := by
    rw [Ledger.kept_concat, List.map_append, ← h.stored]
    simp [Fate.kept?, finish]
  held := by
    rw [Ledger.kept_concat, List.map_append, ← h.held, hheld]
    simp [Fate.kept?, finish, ackOf]
  awaited entry hentry js' hkept := by
    have hnone : Ledger.kept isHeld ledger = [] := by simpa [hheld] using h.held.symm
    obtain hold | hnew := List.mem_append.mp hentry
    · exact absurd hkept (not_held hnone hold js')
    · rw [List.mem_singleton.mp hnew] at hkept
      cases hkept
  returned := by
    have hmessages : messages result = [js] := by obtain rfl | rfl := hresult <;> rfl
    have hold := h.returned
    rw [Ledger.given_concat]
    simpa [finish, hmessages, Fate.given?] using hold.append_right [js]
  deques jDeque hmem := by
    obtain hold | hnew := List.mem_append.mp hmem
    · exact h.deques_concat rfl _ _ hold
    · obtain rfl | rfl := hresult
      · cases List.mem_singleton.mp hnew
      · cases List.mem_singleton.mp hnew
        have hvalue : (parse lib ⟨message.toArray⟩).toOption.toList = [js] := by
          rw [hparse]
          rfl
        rw [readValues_concat, hvalue]
        exact List.sublist_append_right _ _
  spent entry hentry hspent := by
    obtain hold | hnew := List.mem_append.mp hentry
    · exact (h.spent entry hold hspent).concat result
    · rw [List.mem_singleton.mp hnew] at hspent
      cases hspent

/-- `cmdSendRecv` returns its two messages. -/
theorem Accounted.pair {ackJ js : Json D} (hparse : parse lib ⟨message.toArray⟩ = .ok js)
    {seqId : ClientSeqId} (hcall : s.call = some (.cmdSendRecv seqId (some ackJ))) :
    Accounted lib literal arrived (reads ++ [⟨message, call, s.results.length⟩])
      (({ s with readStream := rest } : ComClient D).finish (.pair seqId ackJ js))
      (Ledger.give isHeld ledger ++
        [(⟨message, call, s.results.length⟩, .given (none, js))]) where
  sound := by
    refine (h.sound.give isHeld).concat (fun value hvalue => ?_) (fun id' js' hkept => ?_)
    · cases hvalue
      exact hparse
    · cases hkept
  read := by rw [List.map_append, Ledger.give, Ledger.items_settle, h.read]; rfl
  stream := h.stream_concat hread
  stored other := by
    rw [Ledger.kept_concat, Ledger.kept_give, kept_underId, List.map_append, ← h.stored]
    simp [Fate.kept?, finish]
  held := by
    rw [Ledger.kept_concat, Ledger.kept_give, kept_isHeld]
    simp [Fate.kept?, finish, ackOf]
  awaited entry hentry js' hkept := by
    obtain hold | hnew := List.mem_append.mp hentry
    · have hnone : Ledger.kept isHeld (Ledger.give isHeld ledger) = [] := by
        rw [Ledger.kept_give, kept_isHeld]
      exact absurd hkept (not_held hnone hold js')
    · rw [List.mem_singleton.mp hnew] at hkept
      cases hkept
  returned := by
    -- the ack that was held is returned before the reply
    have hheld : [ackJ] = (Ledger.kept isHeld ledger).map Prod.snd := by
      rw [← h.held, hcall]
      rfl
    have hgiven := (Ledger.given_give isHeld ledger).map Prod.snd
    rw [List.map_append, ← hheld] at hgiven
    have hold : (s.results.flatMap messages ++ [ackJ]).Perm
        ((Ledger.given (Ledger.give isHeld ledger)).map Prod.snd) :=
      (h.returned.append_right [ackJ]).trans hgiven.symm
    rw [Ledger.given_concat]
    simpa [finish, messages, Fate.given?] using hold.append_right [js]
  deques jDeque hmem := by
    obtain hold | hnew := List.mem_append.mp hmem
    · exact h.deques_concat (readValues_settle _ _) _ _ hold
    · cases List.mem_singleton.mp hnew
  spent entry hentry hspent := by
    obtain hold | hnew := List.mem_append.mp hentry
    · have hbefore := mem_of_mem_give hold fun value hgiven => by
        rw [hspent] at hgiven
        cases hgiven
      exact (h.spent entry hbefore hspent).concat _
    · rw [List.mem_singleton.mp hnew] at hspent
      cases hspent

/-- A call throws on a message. -/
theorem Accounted.throw {error : JsonError} (hmessage : idOfMessage lib message = .error error) :
    Accounted lib literal arrived (reads ++ [⟨message, call, s.results.length⟩])
      (({ s with readStream := rest } : ComClient D).finish (.exception error))
      (Ledger.spend isHeld ledger ++ [(⟨message, call, s.results.length⟩, .spent)]) where
  sound := by
    refine (h.sound.spend isHeld).concat (fun value hvalue => ?_) (fun id' js' hkept => ?_)
    · cases hvalue
    · cases hkept
  read := by rw [List.map_append, Ledger.spend, Ledger.items_settle, h.read]; rfl
  stream := h.stream_concat hread
  stored other := by
    rw [Ledger.kept_concat, Ledger.kept_spend, kept_underId, List.map_append, ← h.stored]
    simp [Fate.kept?, finish]
  held := by
    rw [Ledger.kept_concat, Ledger.kept_spend, kept_isHeld]
    simp [Fate.kept?, finish, ackOf]
  awaited entry hentry js' hkept := by
    obtain hold | hnew := List.mem_append.mp hentry
    · have hnone : Ledger.kept isHeld (Ledger.spend isHeld ledger) = [] := by
        rw [Ledger.kept_spend, kept_isHeld]
      exact absurd hkept (not_held hnone hold js')
    · rw [List.mem_singleton.mp hnew] at hkept
      cases hkept
  returned := by
    rw [Ledger.given_concat, Ledger.given_spend]
    simpa [finish, messages, Fate.given?] using h.returned
  deques jDeque hmem := by
    obtain hold | hnew := List.mem_append.mp hmem
    · exact h.deques_concat (readValues_settle _ _) _ _ hold
    · cases List.mem_singleton.mp hnew
  spent entry hentry hspent := by
    obtain hold | hnew := List.mem_append.mp hentry
    · have hthrows : Throws (.exception error : ClientResult D) := trivial
      exact h.spent_spend hthrows hold hspent
    · rw [List.mem_singleton.mp hnew]
      exact .thrown error hmessage List.getElem?_concat_length

/-- `readWelcomeMsg` drops a message, and goes on. -/
theorem Accounted.count {count : ℕ} (hcall : s.call = some (.readWelcomeMsg count)) (next : ℕ) :
    Accounted lib literal arrived (reads ++ [⟨message, .readWelcomeMsg count, s.results.length⟩])
      { s with readStream := rest, call := some (.readWelcomeMsg next) }
      (ledger ++ [(⟨message, .readWelcomeMsg count, s.results.length⟩, .spent)]) where
  sound := by
    refine h.sound.concat (fun value hvalue => ?_) (fun id' js' hkept => ?_)
    · cases hvalue
    · cases hkept
  read := by rw [List.map_append, h.read]; rfl
  stream := h.stream_concat hread
  stored other := by
    rw [Ledger.kept_concat, List.map_append, ← h.stored]
    simp [Fate.kept?]
  held := by
    have hnone := h.held
    rw [hcall] at hnone
    rw [Ledger.kept_concat, List.map_append, ← hnone]
    simp [Fate.kept?, ackOf]
  awaited entry hentry js' hkept := by
    obtain hold | hnew := List.mem_append.mp hentry
    · exact h.awaited entry hold js' hkept
    · rw [List.mem_singleton.mp hnew] at hkept
      cases hkept
  returned := by
    rw [Ledger.given_concat]
    simpa [Fate.given?] using h.returned
  deques jDeque hmem := h.deques_concat rfl _ _ hmem
  spent entry hentry hspent := by
    obtain hold | hnew := List.mem_append.mp hentry
    · exact h.spent entry hold hspent
    · rw [List.mem_singleton.mp hnew]
      exact .welcome count rfl

end reading

/-! ## Calls -/

/-- A call ends that holds nothing and returns no message. -/
theorem Accounted.finish (h : Accounted lib literal arrived reads s ledger)
    (hheld : ackOf s.call = []) {result : ClientResult D} (hmessages : messages result = []) :
    Accounted lib literal arrived reads (s.finish result) ledger where
  sound := h.sound
  read := h.read
  stream := h.stream
  stored := h.stored
  held := by
    rw [← h.held, hheld]
    rfl
  awaited entry hentry js hkept := by
    have hnone : Ledger.kept isHeld ledger = [] := by simpa [hheld] using h.held.symm
    exact absurd hkept (not_held hnone hentry js)
  returned := by simpa [ComClient.finish, hmessages] using h.returned
  deques jDeque hmem := by
    obtain hold | hnew := List.mem_append.mp hmem
    · exact h.deques jDeque hold
    · rw [← List.mem_singleton.mp hnew] at hmessages
      rw [show jDeque = [] from hmessages]
      exact List.nil_sublist _
  spent entry hentry hspent := (h.spent entry hentry hspent).concat result

/-- A call begins to wait. -/
theorem Accounted.begin (h : Accounted lib literal arrived reads s ledger) {call : ClientCall D}
    (hack : ackOf (some call) = []) :
    Accounted lib literal arrived reads (s.begin call) ledger := by
  unfold ComClient.begin
  split_ifs with hidle
  · have hnone : s.call = none := Option.isNone_iff_eq_none.mp hidle
    have hheld : ackOf (some call) = ackOf s.call := by
      rw [hnone, hack]
      rfl
    exact ⟨h.sound, h.read, h.stream, h.stored, hheld.trans h.held, h.awaited, h.returned,
      h.deques, h.spent⟩
  · exact h

/-- A call throws without a message. -/
theorem Accounted.fail (h : Accounted lib literal arrived reads s ledger) :
    Accounted lib literal arrived reads (s.finish .systemError)
      (Ledger.spend isHeld ledger) where
  sound := h.sound.spend isHeld
  read := by rw [Ledger.spend, Ledger.items_settle, h.read]
  stream := h.stream
  stored other := by
    rw [Ledger.kept_spend, kept_underId, ← h.stored]
    rfl
  held := by
    rw [Ledger.kept_spend, kept_isHeld]
    rfl
  awaited entry hentry js hkept := by
    have hnone : Ledger.kept isHeld (Ledger.spend isHeld ledger) = [] := by
      rw [Ledger.kept_spend, kept_isHeld]
    exact absurd hkept (not_held hnone hentry js)
  returned := by
    rw [Ledger.given_spend]
    simpa [ComClient.finish, messages] using h.returned
  deques jDeque hmem := by
    obtain hold | hnew := List.mem_append.mp hmem
    · rw [Ledger.spend, readValues_settle]
      exact h.deques jDeque hold
    · cases List.mem_singleton.mp hnew
  spent _ hentry hspent := by
    have hthrows : Throws (.systemError : ClientResult D) := trivial
    exact h.spent_spend hthrows hentry hspent

/-- What a pass says of its message: an exception comes from the parser or from the "id", and
what it finds or stores is the value of the message. -/
structure PassOf (lib : JsonLibrary D) (message : List UInt8)
    (pass : Except JsonError (Json D × Option String)) : Prop where
  error : ∀ error, pass = .error error → idOfMessage lib message = .error error
  parsed : ∀ js place, pass = .ok (js, place) → parse lib ⟨message.toArray⟩ = .ok js
  id : ∀ js id, pass = .ok (js, some id) → idOf js = .ok id

theorem passOf_cmdRecvSeqIdPass (seqId : ClientSeqId) (message : List UInt8) :
    PassOf lib message (cmdRecvSeqIdPass lib literal seqId ⟨message.toArray⟩) := by
  unfold cmdRecvSeqIdPass
  cases hparse : parse lib ⟨message.toArray⟩ with
  | error error =>
      refine ⟨fun error' heq => ?_, fun js place heq => ?_, fun js id heq => ?_⟩
      · cases heq
        simp only [idOfMessage, hparse]
        rfl
      · cases heq
      · cases heq
  | ok value =>
      cases hseq : hasSeqId literal seqId value with
      | true =>
          refine ⟨fun error' heq => ?_, fun js place heq => ?_, fun js id heq => ?_⟩
          all_goals
            simp only [bind, Except.bind, hseq, if_true, pure, Except.pure] at heq
            cases heq
          exact hparse
      | false =>
          cases hid : idOf value with
          | error error =>
              refine ⟨fun error' heq => ?_, fun js place heq => ?_, fun js id heq => ?_⟩
              all_goals
                simp only [bind, Except.bind, hseq, Bool.false_eq_true, if_false, hid] at heq
                cases heq
              simp only [idOfMessage, hparse]
              exact hid
          | ok id =>
              refine ⟨fun error' heq => ?_, fun js place heq => ?_, fun js id heq => ?_⟩
              all_goals
                simp only [bind, Except.bind, hseq, Bool.false_eq_true, if_false, hid, pure,
                  Except.pure] at heq
                cases heq
              · exact hparse
              · exact hid

/-- The message that `cmdRecvSeqId` waits for has the number. -/
theorem hasSeqId_of_cmdRecvSeqIdPass {seqId : ClientSeqId} {inStr : ByteArray} {js : Json D}
    (h : cmdRecvSeqIdPass lib literal seqId inStr = .ok (js, none)) :
    hasSeqId literal seqId js = true := by
  unfold cmdRecvSeqIdPass at h
  cases hparse : parse lib inStr with
  | error error => simp [hparse, bind, Except.bind] at h
  | ok value =>
      cases hseq : hasSeqId literal seqId value with
      | true =>
          simp [hparse, hseq, bind, Except.bind, pure, Except.pure] at h
          rw [← h]
          exact hseq
      | false =>
          cases hid : idOf value with
          | error error => simp [hparse, hseq, hid, bind, Except.bind] at h
          | ok id => simp [hparse, hseq, hid, bind, Except.bind, pure, Except.pure] at h

omit [Double D] in
theorem passOf_cmdRecvIdPass (targetId : String) (message : List UInt8) :
    PassOf lib message (cmdRecvIdPass lib targetId ⟨message.toArray⟩) := by
  unfold cmdRecvIdPass
  cases hparse : parse lib ⟨message.toArray⟩ with
  | error error =>
      refine ⟨fun error' heq => ?_, fun js place heq => ?_, fun js id heq => ?_⟩
      · cases heq
        simp only [idOfMessage, hparse]
        rfl
      · cases heq
      · cases heq
  | ok value =>
      cases hid : idOf value with
      | error error =>
          refine ⟨fun error' heq => ?_, fun js place heq => ?_, fun js id heq => ?_⟩
          all_goals
            simp only [bind, Except.bind, hid] at heq
            cases heq
          simp only [idOfMessage, hparse]
          exact hid
      | ok id =>
          refine ⟨fun error' heq => ?_, fun js place heq => ?_, fun js other heq => ?_⟩
          · simp only [bind, Except.bind, hid, pure, Except.pure] at heq
            cases heq
          · simp only [bind, Except.bind, hid, pure, Except.pure, Except.ok.injEq,
              Prod.mk.injEq] at heq
            rw [← heq.1]
            exact hparse
          · simp only [bind, Except.bind, hid, pure, Except.pure, Except.ok.injEq,
              Prod.mk.injEq] at heq
            obtain ⟨rfl, hplace⟩ := heq
            split_ifs at hplace with htarget
            rw [← Option.some.inj hplace]
            exact hid

/-! ## Steps and runs -/

/-- One pass of a loop. -/
theorem Accounted.loop (h : Accounted lib literal arrived reads s ledger)
    {message rest : List UInt8} (hread : readCommand s.readStream = some (message, rest))
    {call : ClientCall D} {pass : Except JsonError (Json D × Option String)}
    (hpass : PassOf lib message pass) {found : Json D → ComClient D}
    (hfound : ∀ js, pass = .ok (js, none) → parse lib ⟨message.toArray⟩ = .ok js →
      ∃ ledger', Accounted lib literal arrived (reads ++ [⟨message, call, s.results.length⟩])
        (found js) ledger') :
    ∃ ledger', Accounted lib literal arrived (reads ++ [⟨message, call, s.results.length⟩])
      (({ s with readStream := rest } : ComClient D).loop pass found) ledger' := by
  cases hcase : pass with
  | error error => exact ⟨_, h.throw hread (hpass.error error hcase)⟩
  | ok value =>
      obtain ⟨js, place⟩ := value
      have hparse := hpass.parsed js place hcase
      cases place with
      | none => exact hfound js hcase hparse
      | some id => exact ⟨_, h.store hread hparse (hpass.id js id hcase)⟩

theorem Accounted.welcomePass (h : Accounted lib literal arrived reads s ledger)
    {message rest : List UInt8} (hread : readCommand s.readStream = some (message, rest))
    {count : ℕ} (hcall : s.call = some (.readWelcomeMsg count)) :
    ∃ ledger', Accounted lib literal arrived
      (reads ++ [⟨message, .readWelcomeMsg count, s.results.length⟩])
      (({ s with readStream := rest } : ComClient D).welcomePass lib count ⟨message.toArray⟩)
      ledger' := by
  -- the message is dropped, whatever comes next
  have hdropped (result : ClientResult D) (hmessages : messages result = []) :
      ∃ ledger', Accounted lib literal arrived
        (reads ++ [⟨message, .readWelcomeMsg count, s.results.length⟩])
        (({ s with readStream := rest } : ComClient D).finish result) ledger' :=
    ⟨_, (h.count hread hcall count).finish rfl hmessages⟩
  unfold ComClient.welcomePass
  split
  · exact hdropped _ rfl
  · exact hdropped _ rfl
  · split
    · exact hdropped _ rfl
    · split_ifs
      · exact hdropped _ rfl
      · exact ⟨_, h.count hread hcall (count + 1)⟩

/-- What the call that is under way does with a message. -/
theorem Accounted.receive (h : Accounted lib literal arrived reads s ledger)
    {message rest : List UInt8} (hread : readCommand s.readStream = some (message, rest))
    {call : ClientCall D} (hcall : s.call = some call) :
    ∃ ledger', Accounted lib literal arrived (reads ++ [⟨message, call, s.results.length⟩])
      (({ s with readStream := rest } : ComClient D).receive lib literal ⟨message.toArray⟩ call)
      ledger' := by
  cases call with
  | cmdSendRecv seqId ackJ =>
      have hpass : PassOf lib message (cmdRecvSeqIdPass lib literal seqId ⟨message.toArray⟩) :=
        passOf_cmdRecvSeqIdPass seqId message
      cases ackJ with
      | none =>
          exact h.loop hread hpass fun js hfound hparse =>
            ⟨_, h.hold hread hparse hcall (hasSeqId_of_cmdRecvSeqIdPass hfound)⟩
      | some ackJ =>
          exact h.loop hread hpass fun js _ hparse => ⟨_, h.pair hread hparse hcall⟩
  | cmdRecvSeqId seqId =>
      have hheld : ackOf s.call = [] := by
        rw [hcall]
        rfl
      exact h.loop hread (passOf_cmdRecvSeqIdPass seqId message)
        fun js _ hparse => ⟨_, h.give hread hparse hheld (Or.inl rfl)⟩
  | cmdRecvId targetId =>
      have hheld : ackOf s.call = [] := by
        rw [hcall]
        rfl
      exact h.loop hread (passOf_cmdRecvIdPass targetId message)
        fun js _ hparse => ⟨_, h.give hread hparse hheld (Or.inl rfl)⟩
  | recvDequeForId key =>
      have hheld : ackOf s.call = [] := by
        rw [hcall]
        rfl
      exact h.loop hread (passOf_cmdRecvIdPass key message)
        fun js _ hparse => ⟨_, h.give hread hparse hheld (Or.inr rfl)⟩
  | readWelcomeMsg count => exact h.welcomePass hread hcall

end ComClient

end M2Cell
