import M2Cell.Telemetry.TelemetryItem

/-!
# The telemetry map

`TelemetryMap` holds one item of each class.  The ids, the sub-items, their types
and the sizes of the vectors are fixed when the map is made (`layout`); only
values change, so a map is a list of items with that layout.

`setItemFromJsonStr` finds the item that a message names and sets it.

The first section has one definition for each class of items, with the sub-items in the order in
which its constructor creates them; `_tiMap` and `_map` are ordered by their keys, so that
insertion is into a sorted list (`insertSub`, `addItem`).  That the layout is what it should be
(keys all different, none of them "id") is checked once, by evaluation (`ids_layout`,
`subs_layout`), and every map inherits it (`ids_nodup`, `subs_nodup`).  An update is seen by the
item of its id only (`find?_update`).
-/

namespace M2Cell

/-! ## The classes of items -/

namespace TItemLayout

/-- `TelemetryItem::insert` of a sub-item: `_tiMap` is ordered by the ids. -/
def insertSub (sub : String × TItemKind) : List (String × TItemKind) → List (String × TItemKind)
  | [] => [sub]
  | other :: rest => if sub.1 < other.1 then sub :: other :: rest else other :: insertSub sub rest

/-- An item whose sub-items are created in the given order. -/
def create (id : String) (itemClass : TItemClass) (subs : List (String × TItemKind)) :
    TItemLayout :=
  ⟨id, itemClass, subs.foldl (fun items sub => insertSub sub items) []⟩

end TItemLayout

section classes

open TItemLayout TItemKind

def tItemPowerStatusBase (id : String) : TItemLayout :=
  create id .powerStatusBase
    [("motorVoltage", double), ("motorCurrent", double), ("commVoltage", double),
      ("commCurrent", double)]

def tItemPowerStatus : TItemLayout := tItemPowerStatusBase "powerStatus"

def tItemPowerStatusRaw : TItemLayout := tItemPowerStatusBase "powerStatusRaw"

def tItemTangentForce : TItemLayout :=
  create "tangentForce" .tangentForce
    [("lutGravity", vectorDouble 6), ("lutTemperature", vectorDouble 6),
      ("applied", vectorDouble 6), ("measured", vectorDouble 6),
      ("hardpointCorrection", vectorDouble 6)]

def tItemForceBalance : TItemLayout :=
  create "forceBalance" .forceBalance
    [("fx", double), ("fy", double), ("fz", double), ("mx", double), ("my", double),
      ("mz", double)]

def tItemPositionBase (id : String) : TItemLayout :=
  create id .positionBase
    [("x", double), ("y", double), ("z", double), ("xRot", double), ("yRot", double),
      ("zRot", double)]

def tItemPosition : TItemLayout := tItemPositionBase "position"

def tItemPositionIMS : TItemLayout := tItemPositionBase "positionIMS"

def tItemTemperature : TItemLayout :=
  create "temperature" .temperature
    [("ring", vectorDouble 12), ("intake", vectorDouble 2), ("exhaust", vectorDouble 2)]

def tItemZenithAngle : TItemLayout :=
  create "zenithAngle" .zenithAngle
    [("measured", double), ("inclinometerRaw", double), ("inclinometerProcessed", double)]

def tItemAxialEncoderPositions : TItemLayout :=
  create "axialEncoderPositions" .axialEncoderPositions [("position", vectorDouble 72)]

def tItemTangentEncoderPositions : TItemLayout :=
  create "tangentEncoderPositions" .tangentEncoderPositions [("position", vectorDouble 6)]

def tItemAxialActuatorSteps : TItemLayout :=
  create "axialActuatorSteps" .axialActuatorSteps [("steps", vectorInt 72)]

def tItemTangentActuatorSteps : TItemLayout :=
  create "tangentActuatorSteps" .tangentActuatorSteps [("steps", vectorInt 6)]

def tItemForceErrorTangent : TItemLayout :=
  create "forceErrorTangent" .forceErrorTangent
    [("force", vectorDouble 6), ("weight", double), ("sum", double)]

def tItemInclinometerAngleTma : TItemLayout :=
  create "inclinometerAngleTma" .inclinometerAngleTma [("inclinometer", double)]

def tItemDisplacementSensors : TItemLayout :=
  create "displacementSensors" .displacementSensors
    [("thetaZ", vectorDouble 6), ("deltaZ", vectorDouble 6)]

def tItemIlcData : TItemLayout := create "ilcData" .ilcData [("status", vectorDouble 78)]

def tItemNetForcesTotal : TItemLayout :=
  create "netForcesTotal" .netForcesTotal [("fx", double), ("fy", double), ("fz", double)]

def tItemNetMomentsTotal : TItemLayout :=
  create "netMomentsTotal" .netMomentsTotal [("mx", double), ("my", double), ("mz", double)]

def tItemAxialForce : TItemLayout :=
  create "axialForce" .axialForce
    [("lutGravity", vectorDouble 72), ("lutTemperature", vectorDouble 72),
      ("applied", vectorDouble 72), ("measured", vectorDouble 72),
      ("hardpointCorrection", vectorDouble 72)]

def tItemTelElevation : TItemLayout :=
  create "tel_elevation" .telElevation [("actualPosition", double), ("compName", string)]

end classes

/-! ## The map -/

namespace TelemetryMap

/-- `_addItem`: `_map` is ordered by the ids. -/
def addItem (item : TItemLayout) : List TItemLayout → List TItemLayout
  | [] => [item]
  | other :: rest => if item.id < other.id then item :: other :: rest else other :: addItem item rest

/-- The layout of a `TelemetryMap`. -/
def layout : List TItemLayout :=
  [tItemPowerStatus, tItemPowerStatusRaw, tItemTangentForce, tItemForceBalance, tItemPosition,
    tItemPositionIMS, tItemTemperature, tItemZenithAngle, tItemAxialEncoderPositions,
    tItemTangentEncoderPositions, tItemAxialActuatorSteps, tItemTangentActuatorSteps,
    tItemForceErrorTangent, tItemInclinometerAngleTma, tItemDisplacementSensors, tItemIlcData,
    tItemNetForcesTotal, tItemNetMomentsTotal, tItemAxialForce, tItemTelElevation].foldl
      (fun items item => addItem item items) []

end TelemetryMap

/-- `TelemetryMap`. -/
structure TelemetryMap (D : Type) where
  items : List (TelemetryItem D)
  layout_eq : items.map TelemetryItem.layout = TelemetryMap.layout

namespace TelemetryMap

variable {D : Type} (lib : JsonLibrary D)

/-- `_map.find`. -/
def find? (id : String) (M : TelemetryMap D) : Option (TelemetryItem D) :=
  Keyed.lookup TelemetryItem.id id M.items

/-- `compareMaps`. -/
def compareMaps [Double D] (M other : TelemetryMap D) : Bool :=
  TelemetryItem.compareTelemetryItemMaps TelemetryItem.id TelemetryItem.compareItem M.items
    other.items

/-- Change the values of the item `id` in place. -/
def update (id : String) (f : TelemetryItem D → TelemetryItem D)
    (hf : ∀ item, (f item).layout = item.layout) (M : TelemetryMap D) : TelemetryMap D where
  items := Keyed.modify TelemetryItem.id id f M.items
  layout_eq := by
    rw [← M.layout_eq]
    exact Keyed.map_modify _ fun item _ _ => hf item

/-- Set the item `id` from JSON. -/
def setFromJson (js : Json D) (id : String) (M : TelemetryMap D) : TelemetryMap D :=
  M.update id (fun item => (item.setFromJson lib js true).1) fun item =>
    item.layout_setFromJson js true

/-- `setItemFromJson`.  The returned pointer is given by the id of the item. -/
def setItemFromJson (js : Json D) (M : TelemetryMap D) :
    TelemetryMap D × Except JsonFailure (Option String) :=
  match js.subscript "id" with
  | .error failure => (M, .error failure)
  | .ok idJson =>
      match idJson.convert "string" Json.toString? with
      | .error ex => (M, .error (.exception ex))
      | .ok id =>
          match M.find? id with
          | none => (M, .ok none)
          | some item =>
              (M.setFromJson lib js id, (item.setFromJson lib js true).2.map fun success =>
                if success then some id else none)

/-- `setItemFromJsonStr`. -/
def setItemFromJsonStr (jsStr : ByteArray) (M : TelemetryMap D) :
    TelemetryMap D × Except JsonFailure (Option String) :=
  match lib.parse jsStr with
  -- only `parse_error` is caught
  | .parseError _ => (M, .ok none)
  | .outOfRange what => (M, .error (.exception ⟨.outOfRange, what⟩))
  | .value js => M.setItemFromJson lib js

/-- The constructor: all numbers are 0. -/
def new [Zero D] : TelemetryMap D where
  items := layout.map fun item =>
    ⟨item.id, item.itemClass, item.items.map fun sub => ⟨sub.1, .default sub.2⟩⟩
  layout_eq := by
    simp [TelemetryItem.layout, TItem.layout, Function.comp_def]

/-! ## Facts of the layout -/

theorem ids_layout : (layout.map TItemLayout.id).Nodup := by
  decide +kernel

/-- No two sub-items of an item have the same key, and none has the key "id". -/
theorem subs_layout : ∀ item ∈ layout,
    (item.items.map Prod.fst).Nodup ∧ "id" ∉ item.items.map Prod.fst := by
  decide +kernel

variable (M : TelemetryMap D)

theorem ids_eq : M.items.map TelemetryItem.id = layout.map TItemLayout.id := by
  rw [← M.layout_eq, List.map_map]
  rfl

theorem ids_nodup : (M.items.map TelemetryItem.id).Nodup := by
  rw [M.ids_eq]
  exact ids_layout

variable {M} {lib} {item : TelemetryItem D}

theorem layout_mem (hmem : item ∈ M.items) : item.layout ∈ layout := by
  rw [← M.layout_eq]
  exact List.mem_map_of_mem hmem

theorem subs_nodup (hmem : item ∈ M.items) :
    (item.tiMap.map TItem.id).Nodup ∧ "id" ∉ item.tiMap.map TItem.id := by
  have h := subs_layout _ (layout_mem hmem)
  rwa [TelemetryItem.layout, List.map_map] at h

theorem find?_of_mem (hmem : item ∈ M.items) : M.find? item.id = some item :=
  Keyed.lookup_of_mem M.ids_nodup hmem

theorem mem_of_find? {id : String} (h : M.find? id = some item) : item ∈ M.items ∧ item.id = id :=
  ⟨Keyed.mem_of_lookup h, Keyed.key_of_lookup h⟩

/-- The layout with the id of an item is the one of the item. -/
theorem layout_of_id (hmem : item ∈ M.items) {itemLayout : TItemLayout}
    (hlayout : itemLayout ∈ layout) (hid : itemLayout.id = item.id) :
    itemLayout = item.layout :=
  List.inj_on_of_nodup_map ids_layout hlayout (layout_mem hmem) hid

/-- An id that is not found belongs to no layout. -/
theorem layout_id_ne {id : String} (hfind : M.find? id = none) {itemLayout : TItemLayout}
    (hlayout : itemLayout ∈ layout) : itemLayout.id ≠ id := by
  rw [← M.layout_eq] at hlayout
  obtain ⟨item, hitem, rfl⟩ := List.mem_map.mp hlayout
  exact Keyed.lookup_eq_none_iff.mp hfind item hitem

/-- An update changes the item of its id only. -/
theorem find?_update {id : String} {f : TelemetryItem D → TelemetryItem D}
    (hf : ∀ item, (f item).layout = item.layout) (other : String) :
    (M.update id f hf).find? other =
      if other = id then (M.find? id).map f else M.find? other := by
  apply Keyed.lookup_modify
  intro item hid
  have hlayout : (f item).layout.id = item.layout.id := by rw [hf]
  exact hlayout.trans hid

theorem find?_setFromJson (js : Json D) (id other : String) :
    (M.setFromJson lib js id).find? other =
      if other = id then (M.find? id).map fun item => (item.setFromJson lib js true).1
      else M.find? other :=
  find?_update _ other

end TelemetryMap

end M2Cell
