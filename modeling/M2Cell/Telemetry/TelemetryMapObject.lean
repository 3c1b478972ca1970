import M2Cell.Lib.Run
import M2Cell.Telemetry.TelemetryMap

/-!
# Telemetry maps as objects

A `TelemetryMap` object holds each of its items twice: in a member, for the accessor
of that item, and in `_map` under its id.  Both are pointers.  The default member
initialisers make the items and put them into `_map`; they run for every constructor
that does not initialise the members itself, the copy constructor among them.

The heap is a list of items, and a pointer is a position in it.  Items are never
freed here: every map that shares them keeps them alive.  `TelemetryMap` is the value
of one such object, whose accessors are not used.
-/

namespace M2Cell

/-- The members, in the order of their declarations. -/
inductive TelemetryMember
  | powerStatus
  | powerStatusRaw
  | tangentForce
  | forceBalance
  | position
  | positionIMS
  | temperature
  | zenithAngle
  | axialEncoderPositions
  | tangentEncoderPositions
  | axialActuatorSteps
  | tangentActuatorSteps
  | forceErrorTangent
  | inclinometerAngleTma
  | displacementSensors
  | ilcData
  | netForcesTotal
  | netMomentsTotal
  | axialForce
  | telElevation
  deriving DecidableEq, Repr

namespace TelemetryMember

/-- The class of the item. -/
def layout : TelemetryMember → TItemLayout
  | powerStatus => tItemPowerStatus
  | powerStatusRaw => tItemPowerStatusRaw
  | tangentForce => tItemTangentForce
  | forceBalance => tItemForceBalance
  | position => tItemPosition
  | positionIMS => tItemPositionIMS
  | temperature => tItemTemperature
  | zenithAngle => tItemZenithAngle
  | axialEncoderPositions => tItemAxialEncoderPositions
  | tangentEncoderPositions => tItemTangentEncoderPositions
  | axialActuatorSteps => tItemAxialActuatorSteps
  | tangentActuatorSteps => tItemTangentActuatorSteps
  | forceErrorTangent => tItemForceErrorTangent
  | inclinometerAngleTma => tItemInclinometerAngleTma
  | displacementSensors => tItemDisplacementSensors
  | ilcData => tItemIlcData
  | netForcesTotal => tItemNetForcesTotal
  | netMomentsTotal => tItemNetMomentsTotal
  | axialForce => tItemAxialForce
  | telElevation => tItemTelElevation

/-- `getId` of the item. -/
def id (member : TelemetryMember) : String := member.layout.id

/-- The order in which the members are initialised. -/
def all : List TelemetryMember :=
  [powerStatus, powerStatusRaw, tangentForce, forceBalance, position, positionIMS, temperature,
    zenithAngle, axialEncoderPositions, tangentEncoderPositions, axialActuatorSteps,
    tangentActuatorSteps, forceErrorTangent, inclinometerAngleTma, displacementSensors, ilcData,
    netForcesTotal, netMomentsTotal, axialForce, telElevation]

theorem mem_all (member : TelemetryMember) : member ∈ all := by
  cases member <;> decide

theorem nodup_all : all.Nodup := by
  decide

/-- No two members have items with the same id. -/
theorem id_injective : Function.Injective id := by
  have hnodup : (all.map id).Nodup := by decide +kernel
  intro first second h
  exact List.inj_on_of_nodup_map hnodup first.mem_all second.mem_all h

end TelemetryMember

/-- An item on the heap. -/
structure HeapItem (D : Type) where
  item : TelemetryItem D
  /-- `_doNotSend`. -/
  doNotSend : Bool

/-- A `TelemetryMap`. -/
structure TelemetryMapObject where
  /-- The pointer that the accessor of a member returns. -/
  member : TelemetryMember → ℕ
  /-- `_map`. -/
  map : List (String × ℕ)

/-- How an object was constructed. -/
inductive Construction
  | default
  | copy (other : ℕ)
  deriving DecidableEq, Repr

variable {D : Type} (lib : JsonLibrary D)

/-- A new item of a class. -/
def TItemLayout.newItem [Zero D] (layout : TItemLayout) : TelemetryItem D :=
  ⟨layout.id, layout.itemClass, layout.items.map fun sub => ⟨sub.1, .default sub.2⟩⟩

namespace TelemetryMapObject

/-- `insert` into `_map`, which leaves an entry with the same id alone. -/
def insertPtr (id : String) (ptr : ℕ) : List (String × ℕ) → List (String × ℕ)
  | [] => [(id, ptr)]
  | (other, otherPtr) :: rest =>
      if id < other then (id, ptr) :: (other, otherPtr) :: rest
      else if id = other then (other, otherPtr) :: rest
      else (other, otherPtr) :: insertPtr id ptr rest

/-- `_addItem`, as the initialiser of a member. -/
def addItem [Zero D] (state : List (HeapItem D) × TelemetryMapObject) (member : TelemetryMember) :
    List (HeapItem D) × TelemetryMapObject :=
  (state.1 ++ [⟨member.layout.newItem, false⟩],
    { member := Function.update state.2.member member state.1.length
      map := insertPtr member.id state.1.length state.2.map })

/-- The default member initialisers. -/
def initMembers [Zero D] (heap : List (HeapItem D)) : List (HeapItem D) × TelemetryMapObject :=
  TelemetryMember.all.foldl addItem (heap, ⟨fun _ => 0, []⟩)

/-- The default constructor. -/
def new [Zero D] (heap : List (HeapItem D)) : List (HeapItem D) × TelemetryMapObject :=
  let initialised := initMembers heap
  (initialised.1.modify (initialised.2.member .telElevation) fun cell =>
    { cell with doNotSend := true }, initialised.2)

/-- `copyMap`: the pointers, under the ids. -/
def copyMap (object : TelemetryMapObject) : List (String × ℕ) := object.map

/-- The copy constructor: its body runs after the member initialisers. -/
def copy [Zero D] (other : TelemetryMapObject) (heap : List (HeapItem D)) :
    List (HeapItem D) × TelemetryMapObject :=
  let initialised := initMembers heap
  (initialised.1, { initialised.2 with map := other.copyMap })

/-- What `_servConnHandler` sends in one pass over `copyMap`. -/
def transmitted (heap : List (HeapItem D)) (object : TelemetryMapObject) :
    List (TelemetryItem D) :=
  object.copyMap.filterMap fun entry =>
    heap[entry.2]?.bind fun cell => if cell.doNotSend then none else some cell.item

/-- Set a value through the accessor of a member. -/
def setVal (member : TelemetryMember) (subId : String) (value : TItemValue D)
    (object : TelemetryMapObject) (heap : List (HeapItem D)) : List (HeapItem D) :=
  heap.modify (object.member member) fun cell => { cell with item := cell.item.setVal subId value }

/-- `setItemFromJson`: the heap afterwards, and the pointer that is returned. -/
def setItemFromJson (js : Json D) (object : TelemetryMapObject) (heap : List (HeapItem D)) :
    List (HeapItem D) × Except JsonFailure (Option ℕ) :=
  match js.subscript "id" with
  | .error failure => (heap, .error failure)
  | .ok idJson =>
      match idJson.convert "string" Json.toString? with
      | .error ex => (heap, .error (.exception ex))
      | .ok id =>
          match object.map.lookup id with
          | none => (heap, .ok none)
          | some ptr =>
              match heap[ptr]? with
              | none => (heap, .error .undefined)
              | some cell =>
                  let set := cell.item.setFromJson lib js true
                  (heap.set ptr { cell with item := set.1 }, set.2.map fun success =>
                    if success then some ptr else none)

end TelemetryMapObject

/-- The items on the heap, and the maps with how they were constructed. -/
structure MapWorld (D : Type) where
  heap : List (HeapItem D)
  maps : List (Construction × TelemetryMapObject)

/-- What is done with maps; they are numbered as they are constructed. -/
inductive MapAction (D : Type)
  | construct
  | copy (other : ℕ)
  | setVal (map : ℕ) (member : TelemetryMember) (subId : String) (value : TItemValue D)
  | setItemFromJson (map : ℕ) (js : Json D)

namespace MapWorld

/-- Before anything is constructed. -/
def empty : MapWorld D := ⟨[], []⟩

/-- Keep an object that was constructed. -/
def keep (construction : Construction) (world : MapWorld D)
    (constructed : List (HeapItem D) × TelemetryMapObject) : MapWorld D :=
  ⟨constructed.1, world.maps ++ [(construction, constructed.2)]⟩

/-- One action; one on a map that there is not does nothing. -/
def step [Zero D] (world : MapWorld D) : MapAction D → MapWorld D
  | .construct => world.keep .default (TelemetryMapObject.new world.heap)
  | .copy other =>
      match world.maps[other]? with
      | none => world
      | some entry => world.keep (.copy other) (entry.2.copy world.heap)
  | .setVal map member subId value =>
      match world.maps[map]? with
      | none => world
      | some entry => { world with heap := entry.2.setVal member subId value world.heap }
  | .setItemFromJson map js =>
      match world.maps[map]? with
      | none => world
      | some entry => { world with heap := (entry.2.setItemFromJson lib js world.heap).1 }

end MapWorld

end M2Cell
