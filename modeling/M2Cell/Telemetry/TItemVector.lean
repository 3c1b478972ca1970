import M2Cell.Lib.IndexedVector
import M2Cell.Telemetry.TelemetryItem
import Mathlib.Data.Vector.Basic

/-!
# Vectors in telemetry items

A `TItemVector` keeps the number of its elements in `_size`, beside the vector
`_vals`.  Every operation checks its arguments against `_size`, and then reaches
into `_vals` without a check.  Access outside of `_vals` is the failure
`outOfBounds`.

The element type is a parameter: `VectorElement` has its conversions from and to
JSON.  `FixedVector` at the end says what the operations are for, in terms of a
vector whose length is part of its type.
-/

namespace M2Cell

/-- The JSON conversions of the element type `VT`. -/
structure VectorElement (V D : Type) where
  toJson : V → Json D
  ofJson : Json D → Option V

/-- How an operation on a vector fails. -/
inductive VectorFailure
  /-- `TelemetryException`. -/
  | telemetryException (what : String)
  | json (failure : JsonFailure)
  /-- An element outside of `_vals` was read or written. -/
  | outOfBounds
  deriving DecidableEq, Repr

/-- A `TItemVector`. -/
structure TItemVector (V : Type) where
  id : String
  /-- `_size`. -/
  size : ℕ
  /-- `_vals`. -/
  vals : List V

/-- The operations on the elements. -/
inductive VectorOp (V D : Type)
  | setVals (vals : List V)
  | setVal (index : ℕ) (val : V)
  | getVal (index : ℕ)
  | setFromJson (js : Json D) (idExpected : Bool)

/-- The index of an access to one element. -/
def VectorOp.index? {V D : Type} : VectorOp V D → Option ℕ
  | setVals _ => none
  | setVal index _ => some index
  | getVal index => some index
  | setFromJson _ _ => none

/-- What an operation returns. -/
inductive VectorResult (V : Type)
  | status (success : Bool)
  | val (val : V)
  deriving DecidableEq, Repr

/-- The result of an operation that returns a status. -/
def VectorResult.ofStatus {σ V : Type} (result : σ × Except VectorFailure Bool) :
    σ × Except VectorFailure (VectorResult V) :=
  (result.1, result.2.map status)

variable {V D : Type} (lib : JsonLibrary D) (element : VectorElement V D)

/-- `TItemVectorDouble`. -/
def VectorElement.double : VectorElement D D := ⟨.float, lib.toDouble⟩

/-- `TItemVectorInt`. -/
def VectorElement.int : VectorElement Int32 D := ⟨fun val => .integer val.toInt, lib.toInt⟩

/-- The text of the exception of `getVal`. -/
def getValWhat (index : ℕ) (dump : String) : String :=
  "TItemVector::getVal out of range for index=" ++ toString index ++ " for " ++ dump

namespace TItemVector

/-- The constructor. -/
def new (id : String) (size : ℕ) (defaultVal : V) : TItemVector V :=
  ⟨id, size, List.replicate size defaultVal⟩

/-- The JSON value of an item with the elements `vals`. -/
def jsonOf (id : String) (vals : List V) : Json D :=
  Json.null.set id (.array (vals.map element.toJson))

/-- `getJson`. -/
def getJson (item : TItemVector V) : Except VectorFailure (Json D) := do
  let vals ← readLoop VectorFailure.outOfBounds item.vals item.size
  return jsonOf element item.id vals

/-- `dump`. -/
def dump (item : TItemVector V) : Except VectorFailure String := do
  let js ← item.getJson element
  return lib.dump js

/-- `setVals`: the item afterwards, and the result. -/
def setVals (vals : List V) (item : TItemVector V) : TItemVector V × Except VectorFailure Bool :=
  if vals.length ≠ item.size then
    -- the log message has the elements in it
    (item, (item.dump lib element).map fun _ => false)
  else
    match copyLoop VectorFailure.outOfBounds vals item.vals item.size with
    | .ok copied => ({ item with vals := copied }, .ok true)
    | .error failure => (item, .error failure)

/-- `setVal`. -/
def setVal (index : ℕ) (val : V) (item : TItemVector V) :
    TItemVector V × Except VectorFailure Bool :=
  if index > item.size then (item, .ok false)
  else
    match writeAt VectorFailure.outOfBounds item.vals index val with
    | .ok written => ({ item with vals := written }, .ok true)
    | .error failure => (item, .error failure)

/-- `getVal`. -/
def getVal (index : ℕ) (item : TItemVector V) : Except VectorFailure V :=
  if index > item.size then do
    let text ← item.dump lib element
    .error (.telemetryException (getValWhat index text))
  else readAt VectorFailure.outOfBounds item.vals index

/-- `setFromJson`. -/
def setFromJson (js : Json D) (idExpected : Bool) (item : TItemVector V) :
    TItemVector V × Except VectorFailure Bool :=
  if idExpected then (item, .ok false)
  else
    match js.fetch item.id "array" (Json.toVector? element.ofJson) with
    | .ok vals => item.setVals lib element vals
    | .error ex =>
        -- only `out_of_range` is caught
        if ex.kind = .outOfRange then (item, .ok false)
        else (item, .error (.json (.exception ex)))

/-- An operation on the elements: the item afterwards, and the result. -/
def step (item : TItemVector V) :
    VectorOp V D → TItemVector V × Except VectorFailure (VectorResult V)
  | .setVals vals => VectorResult.ofStatus (item.setVals lib element vals)
  | .setVal index val => VectorResult.ofStatus (item.setVal index val)
  | .getVal index => (item, (item.getVal lib element index).map .val)
  | .setFromJson js idExpected => VectorResult.ofStatus (item.setFromJson lib element js idExpected)

/-- The item after an operation. -/
def next (item : TItemVector V) (op : VectorOp V D) : TItemVector V :=
  (item.step lib element op).1

end TItemVector

/-! ## A vector of a fixed length -/

namespace FixedVector

variable {n : ℕ}

/-- Replace all elements, by as many. -/
def setVals (vals : List V) (vec : List.Vector V n) :
    List.Vector V n × Except VectorFailure Bool :=
  if hlength : vals.length = n then (⟨vals, hlength⟩, .ok true) else (vec, .ok false)

/-- Replace one element. -/
def setVal (index : ℕ) (val : V) (vec : List.Vector V n) :
    List.Vector V n × Except VectorFailure Bool :=
  if hindex : index < n then (vec.set ⟨index, hindex⟩ val, .ok true) else (vec, .ok false)

/-- One element, or the exception of `getVal` for the item `itemId`. -/
def getVal (itemId : String) (index : ℕ) (vec : List.Vector V n) : Except VectorFailure V :=
  if hindex : index < n then .ok (vec.get ⟨index, hindex⟩)
  else .error (.telemetryException
    (getValWhat index (lib.dump (TItemVector.jsonOf element itemId vec.toList))))

/-- Replace all elements by those of the member `itemId`. -/
def setFromJson (itemId : String) (js : Json D) (idExpected : Bool) (vec : List.Vector V n) :
    List.Vector V n × Except VectorFailure Bool :=
  if idExpected then (vec, .ok false)
  else
    match js.fetch itemId "array" (Json.toVector? element.ofJson) with
    | .ok vals => setVals vals vec
    | .error ex =>
        if ex.kind = .outOfRange then (vec, .ok false)
        else (vec, .error (.json (.exception ex)))

/-- What an operation is for. -/
def step (itemId : String) (vec : List.Vector V n) :
    VectorOp V D → List.Vector V n × Except VectorFailure (VectorResult V)
  | .setVals vals => VectorResult.ofStatus (setVals vals vec)
  | .setVal index val => VectorResult.ofStatus (setVal index val vec)
  | .getVal index => (vec, (getVal lib element itemId index vec).map .val)
  | .setFromJson js idExpected =>
      VectorResult.ofStatus (setFromJson element itemId js idExpected vec)

end FixedVector

end M2Cell
