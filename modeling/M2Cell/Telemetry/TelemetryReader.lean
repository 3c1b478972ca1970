import M2Cell.Lib.Framing
import M2Cell.Telemetry.TelemetryMap

/-!
# Readers of the telemetry channel

The loops that read the channel byte by byte: `_servConnReader` in the server, and
`client`.  Both hand a message to `setItemFromJsonStr` when its terminator is
complete.  The server takes the inclinometer angle from the elevation of the
telescope whenever a message has set the latter.

The loop is `Framing.read` with the two characters of the terminator, and what a message does is
its argument (`handle`); the two loops differ in nothing else (`ReaderLoop`).  `handle` gives no
map when an exception comes out of `setItemFromJsonStr`, since neither loop catches it and the
thread ends there.  The looks at `inMsg.back()`, which the source makes also when `inMsg` is
empty, are recorded by the framing.
-/

namespace M2Cell

/-- `'\r'` and `'\n'`, the characters of `TERMINATOR()`. -/
def carriageReturn : UInt8 := 13

def newline : UInt8 := 10

variable {D : Type} (lib : JsonLibrary D)

namespace TelemetryItem

/-- The value of a sub-item. -/
def getVal (sub : String) (item : TelemetryItem D) : Option (TItemValue D) :=
  (Keyed.lookup TItem.id sub item.tiMap).map TItem.value

end TelemetryItem

namespace TelemetryMap

/-- `getTelElevation()->getActualPosition().getVal()`. -/
def actualPosition (M : TelemetryMap D) : Option (TItemValue D) :=
  (M.find? "tel_elevation").bind (TelemetryItem.getVal "actualPosition")

/-- `getInclinometerAngleTma()->getInclinometer().getVal()`. -/
def inclinometer (M : TelemetryMap D) : Option (TItemValue D) :=
  (M.find? "inclinometerAngleTma").bind (TelemetryItem.getVal "inclinometer")

/-- The inclinometer angle becomes the elevation. -/
def followElevation (M : TelemetryMap D) : TelemetryMap D :=
  match M.actualPosition with
  | some ang =>
      M.update "inclinometerAngleTma" (TelemetryItem.setVal "inclinometer" ang)
        (TelemetryItem.layout_setVal "inclinometer" ang)
  | none => M

/-- What `_servConnReader` does with a message: the map afterwards, and what
`setItemFromJsonStr` returned. -/
def readMessage (inMsg : ByteArray) (M : TelemetryMap D) :
    TelemetryMap D × Except JsonFailure (Option String) :=
  let result := M.setItemFromJsonStr lib inMsg
  match result.2 with
  | .ok updatedItem =>
      (if updatedItem = some tItemTelElevation.id then result.1.followElevation else result.1,
        .ok updatedItem)
  | .error failure => (result.1, .error failure)

end TelemetryMap

/-! ## The loops -/

/-- The loops that read a telemetry channel. -/
inductive ReaderLoop
  | servConnReader
  | client
  deriving DecidableEq, Repr

namespace ReaderLoop

/-- What is done with a message. -/
def handleMessage : ReaderLoop → ByteArray → TelemetryMap D →
    TelemetryMap D × Except JsonFailure (Option String)
  | servConnReader, inMsg, M => M.readMessage lib inMsg
  | client, inMsg, M => M.setItemFromJsonStr lib inMsg

/-- The map after a message.  A failure is not caught in the loop. -/
def handle (loop : ReaderLoop) (M : TelemetryMap D) (inMsg : List UInt8) :
    Except JsonFailure (TelemetryMap D) :=
  let result := loop.handleMessage lib ⟨inMsg.toArray⟩ M
  result.2.map fun _ => result.1

/-- The loop on the bytes that `read` returns, with `inMsg` as the buffer. -/
def readBytes (loop : ReaderLoop) (bytes : List UInt8) (M : TelemetryMap D) :
    Except (Framing.Stop JsonFailure) (Framing.Reader UInt8 (TelemetryMap D)) :=
  Framing.feed carriageReturn newline (loop.handle lib) ⟨[], [], M⟩ bytes

end ReaderLoop

end M2Cell
