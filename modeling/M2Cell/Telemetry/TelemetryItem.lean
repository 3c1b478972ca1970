import M2Cell.Lib.Json
import M2Cell.Lib.Keyed

/-!
# Telemetry items

A `TelemetryItem` is one telemetry message: an id and the sub-items of its
`_tiMap`, each of which is a number, a string or a vector.  A message is flat, so
the "id" of the item stands among the keys of its sub-items.

Setting an item from JSON goes through its sub-items one after the other.  A
sub-item whose key is missing, or whose vector has another length, makes the
result false and the others are still set; an exception other than
`out_of_range` is not caught, and what was set before it stays set.
-/

namespace M2Cell

/-- The types of sub-items, with the declared sizes of the vectors. -/
inductive TItemKind
  | double
  | boolean
  | string
  | vectorDouble (size : ℕ)
  | vectorInt (size : ℕ)
  deriving DecidableEq, Repr

/-- The classes of items, as far as `compareItem` tells them apart. -/
inductive TItemClass
  | powerStatusBase
  | tangentForce
  | forceBalance
  | positionBase
  | temperature
  | zenithAngle
  | axialEncoderPositions
  | tangentEncoderPositions
  | axialActuatorSteps
  | tangentActuatorSteps
  | forceErrorTangent
  | inclinometerAngleTma
  | displacementSensors
  | ilcData
  | netForcesTotal
  | netMomentsTotal
  | axialForce
  | telElevation
  deriving DecidableEq, Repr

/-- The value of a sub-item: `TItemDouble`, `TItemBoolean`, `TItemString`,
`TItemVectorDouble` or `TItemVectorInt`. -/
inductive TItemValue (D : Type)
  | double (val : D)
  | boolean (val : Bool)
  | string (val : String)
  | vectorDouble (vals : List D)
  | vectorInt (vals : List Int32)
  deriving DecidableEq

/-- A sub-item. -/
structure TItem (D : Type) where
  id : String
  value : TItemValue D

/-- An item with its `_tiMap`. -/
structure TelemetryItem (D : Type) where
  id : String
  itemClass : TItemClass
  tiMap : List (TItem D)

variable {D : Type} (lib : JsonLibrary D)

/-! ## Sub-items -/

namespace TItemValue

/-- The type of a value; the size of a vector never changes. -/
def kind : TItemValue D → TItemKind
  | double _ => .double
  | boolean _ => .boolean
  | string _ => .string
  | vectorDouble vals => .vectorDouble vals.length
  | vectorInt vals => .vectorInt vals.length

/-- The JSON value. -/
def toJson : TItemValue D → Json D
  | double val => .float val
  | boolean val => .boolean val
  | string val => .string val
  | vectorDouble vals => .array (vals.map .float)
  | vectorInt vals => .array (vals.map fun val => .integer val.toInt)

/-- The value with the numbers 0, false and the empty string. -/
def default [Zero D] : TItemKind → TItemValue D
  | .double => double 0
  | .boolean => boolean false
  | .string => string ""
  | .vectorDouble size => vectorDouble (List.replicate size 0)
  | .vectorInt size => vectorInt (List.replicate size 0)

/-- The numbers of the value are finite. -/
def Finite [Double D] : TItemValue D → Prop
  | double val => Double.isFinite val = true
  | boolean _ => True
  | string _ => True
  | vectorDouble vals => ∀ val ∈ vals, Double.isFinite val = true
  | vectorInt _ => True

/-- The comparison in `compareItem`; values of different types do not match. -/
def beq [Double D] : TItemValue D → TItemValue D → Bool
  | double val, double other => val == other
  | boolean val, boolean other => val == other
  | string val, string other => val == other
  | vectorDouble vals, vectorDouble others => vals.length == others.length && vals == others
  | vectorInt vals, vectorInt others => vals.length == others.length && vals == others
  | _, _ => false

/-- The conversion of the JSON value at the key of a sub-item. -/
def convert : TItemKind → Json D → Option (TItemValue D)
  | .double, js => (lib.toDouble js).map double
  | .boolean, js => js.toBool?.map boolean
  | .string, js => js.toString?.map string
  | .vectorDouble _, js => (js.toVector? lib.toDouble).map vectorDouble
  | .vectorInt _, js => (js.toVector? lib.toInt).map vectorInt

/-- The name of the expected type in a `type_error`. -/
def expected : TItemKind → String
  | .double => "number"
  | .boolean => "boolean"
  | .string => "string"
  | .vectorDouble _ => "array"
  | .vectorInt _ => "array"

end TItemValue

namespace TItem

/-- `getJson`. -/
def getJson (item : TItem D) : Json D := Json.null.set item.id item.value.toJson

/-- `compareItem`. -/
def compareItem [Double D] (item other : TItem D) : Bool :=
  item.id == other.id && item.value.beq other.value

/-- `setVal` and `setVals`: a vector of another size is refused. -/
def setVal (value : TItemValue D) (item : TItem D) : TItem D × Bool :=
  if value.kind = item.value.kind then ({ item with value := value }, true) else (item, false)

/-- `setFromJson`: the sub-item afterwards, and the result. -/
def setFromJson (js : Json D) (idExpected : Bool) (item : TItem D) :
    TItem D × Except JsonFailure Bool :=
  if idExpected then (item, .ok false)
  else
    match js.fetch item.id (TItemValue.expected item.value.kind)
      (TItemValue.convert lib item.value.kind) with
    | .ok value =>
        let result := item.setVal value
        (result.1, .ok result.2)
    | .error ex =>
        -- only `out_of_range` is caught
        if ex.kind = .outOfRange then (item, .ok false) else (item, .error (.exception ex))

end TItem

/-! ## Items -/

namespace TelemetryItem

/-- `buildJsonFromMap` of the `_tiMap`. -/
def getJson (item : TelemetryItem D) : Json D :=
  item.tiMap.foldl (fun js sub => js.mergePatch sub.getJson)
    (Json.null.set "id" (.string item.id))

/-- `js["id"] == getId()`. -/
def isId (id : String) : Json D → Bool
  | .string s => s == id
  | _ => false

/-- `checkIdCorrect`. -/
def checkIdCorrect (js : Json D) (idExpected : Bool) (item : TelemetryItem D) :
    Except JsonFailure Bool :=
  if !idExpected then .ok true
  else do
    let id ← js.subscript "id"
    return isId item.id id

/-- The loop of `setMapFromJson`. -/
def setItems (js : Json D) : List (TItem D) → List (TItem D) × Except JsonFailure Bool
  | [] => ([], .ok true)
  | item :: rest =>
      let set := item.setFromJson lib js false
      match set.2 with
      | .ok status =>
          let result := setItems js rest
          (set.1 :: result.1, result.2.map fun success => status && success)
      | .error failure => (set.1 :: rest, .error failure)

/-- `setFromJson`, which is `setMapFromJson` of the `_tiMap`. -/
def setFromJson (js : Json D) (idExpected : Bool) (item : TelemetryItem D) :
    TelemetryItem D × Except JsonFailure Bool :=
  match item.checkIdCorrect js idExpected with
  | .error failure => (item, .error failure)
  | .ok false => (item, .ok false)
  | .ok true =>
      let result := setItems lib js item.tiMap
      ({ item with tiMap := result.1 }, result.2)

/-- Set the value of a sub-item. -/
def setVal (sub : String) (value : TItemValue D) (item : TelemetryItem D) : TelemetryItem D :=
  { item with tiMap := Keyed.modify TItem.id sub (fun it => (it.setVal value).1) item.tiMap }

/-- `compareTelemetryItemMaps`, for the `_map` of items and the `_tiMap` of sub-items. -/
def compareTelemetryItemMaps {ι : Type} (getId : ι → String) (compareItem : ι → ι → Bool)
    (mapA mapB : List ι) : Bool :=
  mapA.length == mapB.length &&
    mapA.all fun itemA =>
      match Keyed.lookup getId (getId itemA) mapB with
      | none => false
      | some itemB => compareItem itemA itemB

/-- `compareItem`: the dynamic casts of `compareItemsTemplate`, then the sub-items. -/
def compareItem [Double D] (item other : TelemetryItem D) : Bool :=
  item.itemClass == other.itemClass &&
    compareTelemetryItemMaps TItem.id TItem.compareItem item.tiMap other.tiMap

end TelemetryItem

/-! ## Items of any class -/

/-- A `TelemetryItem` of the source: a single value, or a composite item. -/
inductive AnyItem (D : Type)
  | simple (item : TItem D)
  | composite (item : TelemetryItem D)

namespace AnyItem

/-- `getId`. -/
def getId : AnyItem D → String
  | simple item => item.id
  | composite item => item.id

/-- `compareItem`: a cast between a single value and a composite item fails. -/
def compareItem [Double D] : AnyItem D → AnyItem D → Bool
  | simple item, simple other => item.compareItem other
  | composite item, composite other => item.compareItem other
  | _, _ => false

end AnyItem

/-! ## Layout -/

/-- What never changes of an item: its id, its class, and its sub-items with their types. -/
structure TItemLayout where
  id : String
  itemClass : TItemClass
  items : List (String × TItemKind)
  deriving DecidableEq, Repr

/-- The id and the type of a sub-item. -/
def TItem.layout (item : TItem D) : String × TItemKind := (item.id, item.value.kind)

/-- The layout of an item. -/
def TelemetryItem.layout (item : TelemetryItem D) : TItemLayout :=
  ⟨item.id, item.itemClass, item.tiMap.map TItem.layout⟩

@[simp] theorem TItemValue.kind_default [Zero D] (kind : TItemKind) :
    (TItemValue.default kind : TItemValue D).kind = kind := by
  cases kind <;> simp [TItemValue.default, TItemValue.kind]

/-! ### Setting values keeps it -/

section layout

variable {lib}

@[simp] theorem TItem.layout_setVal (value : TItemValue D) (item : TItem D) :
    (item.setVal value).1.layout = item.layout := by
  unfold setVal
  split_ifs with hkind
  · rw [layout, layout, hkind]
  · rfl

@[simp] theorem TItem.layout_setFromJson (js : Json D) (idExpected : Bool) (item : TItem D) :
    (item.setFromJson lib js idExpected).1.layout = item.layout := by
  unfold setFromJson
  split_ifs
  · rfl
  · split
    · exact layout_setVal _ item
    · split_ifs <;> rfl

theorem TelemetryItem.layout_setVal (sub : String) (value : TItemValue D)
    (item : TelemetryItem D) : (item.setVal sub value).layout = item.layout := by
  unfold layout setVal
  rw [Keyed.map_modify TItem.layout fun it _ _ => TItem.layout_setVal value it]

theorem TelemetryItem.layout_setItems (js : Json D) (items : List (TItem D)) :
    (setItems lib js items).1.map TItem.layout = items.map TItem.layout := by
  induction items with
  | nil => rfl
  | cons item rest ih =>
      have hitem : (item.setFromJson lib js false).1.layout = item.layout :=
        TItem.layout_setFromJson js false item
      unfold setItems
      dsimp only
      split
      · rw [List.map_cons, List.map_cons, ih, hitem]
      · rw [List.map_cons, List.map_cons, hitem]

@[simp] theorem TelemetryItem.layout_setFromJson (js : Json D) (idExpected : Bool)
    (item : TelemetryItem D) : (item.setFromJson lib js idExpected).1.layout = item.layout := by
  unfold setFromJson
  split
  · rfl
  · rfl
  · simp only [layout, layout_setItems]

end layout

end M2Cell
