import M2Cell.Proofs.TelemetryMessage
import M2Cell.Telemetry.TelemetryReader

/-!
# Telemetry framing

Both loops that read a telemetry channel cut it at "\r\n", as in `Framing`, and
stop at a message whose failure is not caught, which is one that is not well typed
(`handle_iff`).  They look at `inMsg.back()` whenever a newline comes, also when
`inMsg` is empty: at the beginning and directly after a message.

So two things are asked of a stream.  What was sent is handed over (`HandsOver`) when no message
begins with a newline and the loop survives them all, and `back` is defined throughout
(`BackDefined`) when no newline comes where `inMsg` is empty (`StrayNewline`).
`framing_iff` says that both conditions are exact.  Nothing here depends on what a message does
to the map; the general facts about the framing are those of `M2Cell.Lib.Framing`, used with the
terminator of the channel.
-/

namespace M2Cell

variable {D : Type}

/-- What is sent for a list of messages. -/
def messageBytes (messages : List (List UInt8)) : List UInt8 :=
  Framing.encode carriageReturn newline messages

/-- The message does not contain the terminator. -/
def NoTerminator (message : List UInt8) : Prop := ¬ [carriageReturn, newline] <:+: message

namespace ReaderLoop

/-- The loop hands over exactly the messages, in order, and ends with an empty buffer. -/
def HandsOver (loop : ReaderLoop) (lib : JsonLibrary D) (messages : List (List UInt8))
    (M : TelemetryMap D) : Prop :=
  ∃ M', loop.readBytes lib (messageBytes messages) M = .ok ⟨[], messages, M'⟩

/-- `back` and `pop_back` are never applied to an empty string. -/
def BackDefined (loop : ReaderLoop) (lib : JsonLibrary D) (bytes : List UInt8)
    (M : TelemetryMap D) : Prop :=
  loop.readBytes lib bytes M ≠ .error .undefined

/-- A message that the loop survives. -/
def Survives (lib : JsonLibrary D) (message : List UInt8) : Prop :=
  WellTyped lib ⟨message.toArray⟩

/-- The bytes begin with complete messages that the loop survives, possibly none,
and then a newline. -/
def StrayNewline (lib : JsonLibrary D) (bytes : List UInt8) : Prop :=
  ∃ messages rest, (∀ message ∈ messages, NoTerminator message ∧ Survives lib message) ∧
    bytes = messageBytes messages ++ newline :: rest

theorem carriageReturn_ne_newline : carriageReturn ≠ newline := by
  decide

/-- The update of the inclinometer angle does not change what is returned. -/
theorem snd_handleMessage (loop : ReaderLoop) (lib : JsonLibrary D) (inMsg : ByteArray)
    (M : TelemetryMap D) :
    (loop.handleMessage lib inMsg M).2 = (M.setItemFromJsonStr lib inMsg).2 := by
  cases loop with
  | client => rfl
  | servConnReader =>
      simp only [handleMessage, TelemetryMap.readMessage]
      cases hresult : (M.setItemFromJsonStr lib inMsg).2 <;> rfl

/-- A loop goes on after a message exactly when it is well typed. -/
theorem handle_iff (loop : ReaderLoop) (lib : JsonLibrary D) (M : TelemetryMap D)
    (message : List UInt8) :
    (∃ next, loop.handle lib M message = .ok next) ↔ Survives lib message := by
  rw [Survives, ← M.setItemFromJsonStr_returns_iff, ← loop.snd_handleMessage]
  unfold handle
  cases hresult : (loop.handleMessage lib ⟨message.toArray⟩ M).2 with
  | ok found => simp [hresult, Except.map]
  | error failure => simp [hresult, Except.map]

/-- **Telemetry framing** holds exactly for messages that do not begin with a newline
and do not stop the loop, and `back` is defined exactly without a stray newline. -/
theorem framing_iff (loop : ReaderLoop) (lib : JsonLibrary D) (M : TelemetryMap D)
    (messages : List (List UInt8)) (hfree : ∀ message ∈ messages, NoTerminator message)
    (bytes : List UInt8) :
    (loop.HandsOver lib messages M ↔
        ∀ message ∈ messages, message.head? ≠ some newline ∧ Survives lib message) ∧
      (loop.BackDefined lib bytes M ↔ ¬ StrayNewline lib bytes) := by
  constructor
  · exact Framing.feed_encode_iff carriageReturn_ne_newline (loop.handle_iff lib) hfree [] M
  · exact not_congr
      (Framing.feed_undefined_iff carriageReturn_ne_newline (loop.handle_iff lib) [] M bytes)

/-- Two messages that are no JSON, the second of which is empty. -/
theorem framing_iff_two :
    (servConnReader.HandsOver (.listedValues []) [[120, 13], []] TelemetryMap.new ↔
        ∀ message ∈ [[120, 13], []],
          message.head? ≠ some newline ∧ Survives (.listedValues []) message) ∧
      (servConnReader.BackDefined (.listedValues []) [120, 10] TelemetryMap.new ↔
        ¬ StrayNewline (.listedValues []) [120, 10]) := by
  apply framing_iff
  unfold NoTerminator
  decide

/-- A message that is a newline, and a stream that begins with one: `back` is
applied to an empty string. -/
theorem not_framed_newline :
    NoTerminator [newline] ∧
      ¬ servConnReader.HandsOver (.listedValues []) [[newline]] TelemetryMap.new ∧
      ¬ servConnReader.BackDefined (.listedValues []) [newline] TelemetryMap.new := by
  refine ⟨?_, ?_, ?_⟩
  · unfold NoTerminator
    decide
  · rintro ⟨M', hM'⟩
    cases hM'
  · intro h
    exact h rfl

end ReaderLoop

end M2Cell
