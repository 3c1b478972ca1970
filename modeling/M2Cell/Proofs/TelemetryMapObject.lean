import M2Cell.Lib.Heap
import M2Cell.Telemetry.TelemetryMapObject

/-!
# Accessors and the map

In a map that was default-constructed the accessors and `_map` share their items, and
whatever is done with this and with other maps keeps it so (`Linked`).  The copy
constructor makes new items first and then replaces `_map` by that of the other map, so
none of its accessors returns an item of its `_map` (`Detached`).  `tied_iff_default`
puts the two together.

What one action does to the heap is all that is needed of it: items keep their place,
their id and their mark (`CellLe`).

The constructors are followed member by member.  `Built` says what holds when the members `done`
are initialised: each has an item of its own that was not there before, and `_map` leads to it.
One more member is `Built.addItem`, one case for each field; all members are
`built_initMembers`.  From there the default constructor gets to `Linked` (`Built.linked_mark`)
and the copy constructor to `Detached` (`Built.detached`), because new items are none of the
other map's.  `MapWorld.Inv` says the same of all maps at once, and `MapWorld.Inv.step` keeps it.
-/

namespace M2Cell

open TelemetryMember TelemetryMapObject

variable {D : Type}

/-! ## What stays of an item -/

/-- A later state of an item. -/
structure CellLe (old new : HeapItem D) : Prop where
  id_eq : new.item.id = old.item.id
  doNotSend : old.doNotSend = true → new.doNotSend = true

theorem CellLe.refl (cell : HeapItem D) : CellLe cell cell :=
  ⟨rfl, fun h => h⟩

theorem CellLe.trans (first second third : HeapItem D) (hfirst : CellLe first second)
    (hsecond : CellLe second third) : CellLe first third :=
  ⟨hsecond.id_eq.trans hfirst.id_eq, fun h => hsecond.doNotSend (hfirst.doNotSend h)⟩

variable {lib : JsonLibrary D} {heap heap' : List (HeapItem D)} {object : TelemetryMapObject}

theorem keeps_setVal (member : TelemetryMember) (subId : String) (value : TItemValue D) :
    Heap.Keeps CellLe heap (object.setVal member subId value heap) :=
  have hcell : ∀ cell : HeapItem D,
      CellLe cell { cell with item := cell.item.setVal subId value } :=
    fun _ => ⟨rfl, fun h => h⟩
  Heap.keeps_modify CellLe.refl hcell _

/-- What `setItemFromJson` does when the message names an item of `_map`. -/
theorem setItemFromJson_of_lookup {js : Json D} {id : String} {ptr : ℕ} {cell : HeapItem D}
    (hjs : js.subscript "id" = .ok (.string id)) (hptr : object.map.lookup id = some ptr)
    (hcell : heap[ptr]? = some cell) :
    object.setItemFromJson lib js heap =
      (heap.set ptr { cell with item := (cell.item.setFromJson lib js true).1 },
        (cell.item.setFromJson lib js true).2.map fun success =>
          if success then some ptr else none) := by
  have hconvert : (Json.string id : Json D).convert "string" Json.toString? = .ok id := rfl
  simp only [setItemFromJson, hjs, hconvert, hptr, hcell]

theorem keeps_setItemFromJson (js : Json D) :
    Heap.Keeps CellLe heap (object.setItemFromJson lib js heap).1 := by
  have hsame : Heap.Keeps CellLe heap heap := Heap.Keeps.refl CellLe.refl
  unfold setItemFromJson
  split
  · exact hsame
  · split
    · exact hsame
    · split
      · exact hsame
      · split
        · exact hsame
        · rename_i cell hcell
          have hid : (cell.item.setFromJson lib js true).1.id = cell.item.id :=
            congrArg TItemLayout.id (TelemetryItem.layout_setFromJson js true cell.item)
          exact Heap.keeps_set CellLe.refl hcell ⟨hid, fun h => h⟩

/-! ## The member initialisers -/

theorem lookup_insertPtr {id : String} {map : List (String × ℕ)} (ptr : ℕ)
    (hnone : map.lookup id = none) (other : String) :
    (insertPtr id ptr map).lookup other = if other = id then some ptr else map.lookup other := by
  induction map with
  | nil => rw [insertPtr, Json.lookup_cons_eq]
  | cons entry rest ih =>
      rw [Json.lookup_cons_eq] at hnone
      have hkey : id ≠ entry.1 := by
        intro heq
        simp [heq] at hnone
      rw [if_neg hkey] at hnone
      rw [insertPtr]
      by_cases hlt : id < entry.1
      · rw [if_pos hlt, Json.lookup_cons_eq]
      · rw [if_neg hlt, if_neg hkey, Json.lookup_cons_eq, ih hnone, Json.lookup_cons_eq]
        by_cases h : other = id
        · rw [if_pos h, if_neg (h ▸ hkey), if_pos h]
        · rw [if_neg h, if_neg h]

theorem mem_insertPtr {id : String} {ptr : ℕ} {map : List (String × ℕ)} {entry : String × ℕ}
    (h : entry ∈ insertPtr id ptr map) : entry = (id, ptr) ∨ entry ∈ map := by
  induction map with
  | nil => simpa [insertPtr] using h
  | cons head rest ih =>
      rw [insertPtr] at h
      split_ifs at h
      · simpa using h
      · exact .inr h
      · rcases List.mem_cons.mp h with rfl | hrest
        · exact .inr List.mem_cons_self
        · exact (ih hrest).imp_right (List.mem_cons_of_mem _)

/-- An object whose members `done` are initialised, in a heap that was `start` before. -/
structure Built (start : List (HeapItem D)) (done : List TelemetryMember)
    (state : List (HeapItem D) × TelemetryMapObject) : Prop where
  keeps : Heap.Keeps CellLe start state.1
  linked : ∀ m ∈ done, state.2.map.lookup m.id = some (state.2.member m)
  /-- The items are new ones. -/
  fresh : ∀ m ∈ done, start.length ≤ state.2.member m
  stored : ∀ m ∈ done, ∃ cell, state.1[state.2.member m]? = some cell ∧ cell.item.id = m.id
  ids : ∀ m, m ∉ done → state.2.map.lookup m.id = none
  placed : ∀ entry ∈ state.2.map, entry.2 < state.1.length

section built

variable {start : List (HeapItem D)} {done : List TelemetryMember}
  {state : List (HeapItem D) × TelemetryMapObject}

theorem built_start : Built start [] (start, ⟨fun _ => 0, []⟩) where
  keeps := Heap.Keeps.refl CellLe.refl
  linked := by simp
  fresh := by simp
  stored := by simp
  ids := by simp
  placed := by simp

variable [Zero D]

theorem Built.addItem (h : Built start done state) {member : TelemetryMember}
    (hmember : member ∉ done) : Built start (done ++ [member]) (addItem state member) := by
  have hlookup : ∀ other : TelemetryMember,
      (TelemetryMapObject.addItem state member).2.map.lookup other.id =
        if other.id = member.id then some state.1.length else state.2.map.lookup other.id :=
    fun other => lookup_insertPtr _ (h.ids member hmember) other.id
  have hold : ∀ m ∈ done, (TelemetryMapObject.addItem state member).2.member m =
      state.2.member m := by
    intro m hm
    have hne : m ≠ member := fun heq => hmember (heq ▸ hm)
    exact Function.update_of_ne hne _ _
  have hnew : (TelemetryMapObject.addItem state member).2.member member = state.1.length :=
    Function.update_self _ _ _
  have hgrow : Heap.Keeps CellLe state.1 (TelemetryMapObject.addItem state member).1 :=
    Heap.keeps_append CellLe.refl _
  constructor
  case keeps => exact h.keeps.trans CellLe.trans hgrow
  case linked =>
    intro m hm
    rcases List.mem_append.mp hm with hdone | hlast
    · have hne : m.id ≠ member.id := fun heq => hmember (id_injective heq ▸ hdone)
      rw [hlookup, if_neg hne, h.linked m hdone, hold m hdone]
    · rw [List.mem_singleton.mp hlast, hlookup, if_pos rfl, hnew]
  case fresh =>
    intro m hm
    rcases List.mem_append.mp hm with hdone | hlast
    · rw [hold m hdone]
      exact h.fresh m hdone
    · rw [List.mem_singleton.mp hlast, hnew]
      exact h.keeps.length_le
  case stored =>
    intro m hm
    rcases List.mem_append.mp hm with hdone | hlast
    · obtain ⟨cell, hcell, hid⟩ := h.stored m hdone
      obtain ⟨cell', hcell', hle⟩ := hgrow _ cell hcell
      exact ⟨cell', by rw [hold m hdone, hcell'], hle.id_eq.trans hid⟩
    · rw [List.mem_singleton.mp hlast, hnew]
      exact ⟨_, List.getElem?_concat_length, rfl⟩
  case ids =>
    intro m hm
    rw [List.mem_append, List.mem_singleton, not_or] at hm
    have hne : m.id ≠ member.id := fun heq => hm.2 (id_injective heq)
    rw [hlookup, if_neg hne, h.ids m hm.1]
  case placed =>
    intro entry hentry
    rcases mem_insertPtr hentry with rfl | hmap
    · simp [TelemetryMapObject.addItem]
    · exact hgrow.lt_length (h.placed entry hmap)

theorem Built.foldl (h : Built start done state) {rest : List TelemetryMember}
    (hnodup : (done ++ rest).Nodup) :
    Built start (done ++ rest) (rest.foldl TelemetryMapObject.addItem state) := by
  induction rest generalizing done state with
  | nil => rwa [List.append_nil]
  | cons member rest ih =>
      have hmember : member ∉ done := by
        intro hdone
        exact List.disjoint_of_nodup_append hnodup hdone List.mem_cons_self
      have hsplit : done ++ member :: rest = (done ++ [member]) ++ rest := by simp
      rw [hsplit] at hnodup ⊢
      exact ih (h.addItem hmember) hnodup

/-- All members are initialised. -/
theorem built_initMembers : Built start TelemetryMember.all (initMembers start) :=
  built_start.foldl nodup_all

end built

/-! ## Linked and detached maps -/

/-- The accessors return the items of `_map`. -/
structure Linked (heap : List (HeapItem D)) (object : TelemetryMapObject) : Prop where
  same : ∀ m : TelemetryMember, object.map.lookup m.id = some (object.member m)
  stored : ∀ m, ∃ cell, heap[object.member m]? = some cell ∧ cell.item.id = m.id
  doNotSend : ∃ cell, heap[object.member .telElevation]? = some cell ∧ cell.doNotSend = true

/-- No accessor returns an item of `_map`. -/
def Detached (object : TelemetryMapObject) : Prop :=
  ∀ m, ∀ entry ∈ object.map, entry.2 ≠ object.member m

/-- What holds of a map by the way it was constructed. -/
def Connected (heap : List (HeapItem D)) (object : TelemetryMapObject) : Construction → Prop
  | .default => Linked heap object
  | .copy _ => Detached object

theorem Linked.keeps (h : Linked heap object) (hkeeps : Heap.Keeps CellLe heap heap') :
    Linked heap' object where
  same := h.same
  stored := by
    intro m
    obtain ⟨cell, hcell, hid⟩ := h.stored m
    obtain ⟨cell', hcell', hle⟩ := hkeeps _ cell hcell
    exact ⟨cell', hcell', hle.id_eq.trans hid⟩
  doNotSend := by
    obtain ⟨cell, hcell, hmark⟩ := h.doNotSend
    obtain ⟨cell', hcell', hle⟩ := hkeeps _ cell hcell
    exact ⟨cell', hcell', hle.doNotSend hmark⟩

theorem Connected.keeps {construction : Construction} (h : Connected heap object construction)
    (hkeeps : Heap.Keeps CellLe heap heap') : Connected heap' object construction := by
  cases construction with
  | default => exact Linked.keeps h hkeeps
  | copy other => exact h

/-- **What accessors and `_map` have in common** when they are the same items: a value
that `setItemFromJson` sets is what the accessor sees, and a value set through the
accessor is what `copyMap` holds and the sender transmits. -/
structure Tied (lib : JsonLibrary D) (heap : List (HeapItem D)) (object : TelemetryMapObject) :
    Prop extends Linked heap object where
  seen : ∀ (m : TelemetryMember) (js : Json D) (cell : HeapItem D),
    js.subscript "id" = .ok (.string m.id) → heap[object.member m]? = some cell →
      (object.setItemFromJson lib js heap).1[object.member m]? =
        some { cell with item := (cell.item.setFromJson lib js true).1 }
  sent : ∀ (m : TelemetryMember) (subId : String) (value : TItemValue D) (cell : HeapItem D),
    heap[object.member m]? = some cell →
      ∃ ptr, object.copyMap.lookup m.id = some ptr ∧
        (object.setVal m subId value heap)[ptr]? =
          some { cell with item := cell.item.setVal subId value } ∧
        (cell.doNotSend = false →
          cell.item.setVal subId value ∈
            object.transmitted (object.setVal m subId value heap))

theorem mem_of_lookup {id : String} {ptr : ℕ} {map : List (String × ℕ)}
    (h : map.lookup id = some ptr) : (id, ptr) ∈ map := by
  obtain ⟨pre, post, hmap, -⟩ := List.lookup_eq_some_iff.mp h
  simp [hmap]

theorem Linked.tied (h : Linked heap object) : Tied lib heap object where
  toLinked := h
  seen := by
    intro m js cell hjs hcell
    have hptr : object.member m < heap.length := (List.getElem?_eq_some_iff.mp hcell).1
    rw [setItemFromJson_of_lookup hjs (h.same m) hcell, List.getElem?_set_self hptr]
  sent := by
    intro m subId value cell hcell
    have hset : (object.setVal m subId value heap)[object.member m]? =
        some { cell with item := cell.item.setVal subId value } := by
      rw [setVal, List.getElem?_modify_eq, hcell]
      rfl
    refine ⟨object.member m, h.same m, hset, ?_⟩
    intro hsend
    apply List.mem_filterMap.mpr
    exact ⟨_, mem_of_lookup (h.same m), by simp [hset, hsend]⟩

/-- In a detached map no accessor's item is the one under its id. -/
theorem Detached.lookup_ne (h : Detached object) (m : TelemetryMember) :
    object.map.lookup m.id ≠ some (object.member m) := by
  intro hlookup
  exact h m _ (mem_of_lookup hlookup) rfl

/-- **The accessors of a map are tied to its items** exactly when it was not copied. -/
theorem Connected.tied_iff {construction : Construction}
    (h : Connected heap object construction) :
    Tied lib heap object ↔ construction = .default := by
  cases construction with
  | default => exact iff_of_true (Linked.tied h) rfl
  | copy other =>
      apply iff_of_false
      · intro htied
        exact Detached.lookup_ne h .powerStatus (htied.same .powerStatus)
      · exact nofun

/-! ## The constructors -/

section constructors

variable {start : List (HeapItem D)} {state : List (HeapItem D) × TelemetryMapObject}

/-- The body of the default constructor marks one item. -/
theorem keeps_mark (ptr : ℕ) :
    Heap.Keeps CellLe heap (heap.modify ptr fun cell => { cell with doNotSend := true }) := by
  have hmark : ∀ cell : HeapItem D, CellLe cell { cell with doNotSend := true } :=
    fun _ => ⟨rfl, fun _ => rfl⟩
  exact Heap.keeps_modify CellLe.refl hmark ptr

theorem Built.linked_mark (h : Built start TelemetryMember.all state) :
    Linked (state.1.modify (state.2.member .telElevation) fun cell =>
      { cell with doNotSend := true }) state.2 where
  same := fun m => h.linked m m.mem_all
  stored := by
    intro m
    obtain ⟨cell, hcell, hid⟩ := h.stored m m.mem_all
    obtain ⟨cell', hcell', hle⟩ := keeps_mark (state.2.member .telElevation) _ cell hcell
    exact ⟨cell', hcell', hle.id_eq.trans hid⟩
  doNotSend := by
    obtain ⟨cell, hcell, -⟩ := h.stored _ (mem_all .telElevation)
    refine ⟨{ cell with doNotSend := true }, ?_, rfl⟩
    rw [List.getElem?_modify_eq, hcell]
    rfl

/-- The items of the copy's members are new, those of the other map are not. -/
theorem Built.detached (h : Built start TelemetryMember.all state)
    (hplaced : ∀ entry ∈ object.map, entry.2 < start.length) :
    Detached { state.2 with map := object.map } := by
  intro m entry hentry heq
  have hfresh : start.length ≤ state.2.member m := h.fresh m m.mem_all
  exact absurd (hplaced entry hentry) (Nat.not_lt.mpr (heq ▸ hfresh))

end constructors

/-! ## Runs -/

/-- Every map is as its construction says, and its pointers are on the heap. -/
def MapWorld.Inv (world : MapWorld D) : Prop :=
  ∀ entry ∈ world.maps, Connected world.heap entry.2 entry.1 ∧
    ∀ item ∈ entry.2.map, item.2 < world.heap.length

/-- Writing to the heap keeps the invariant. -/
theorem MapWorld.Inv.keeps {world : MapWorld D} (h : world.Inv)
    (hkeeps : Heap.Keeps CellLe world.heap heap') :
    MapWorld.Inv { world with heap := heap' } := by
  intro entry hentry
  obtain ⟨hconnected, hplaced⟩ := h entry hentry
  exact ⟨hconnected.keeps hkeeps, fun item hitem => hkeeps.lt_length (hplaced item hitem)⟩

/-- So does a construction of a map that is as it should be. -/
theorem MapWorld.Inv.keep {world : MapWorld D} (h : world.Inv) {construction : Construction}
    {constructed : List (HeapItem D) × TelemetryMapObject}
    (hkeeps : Heap.Keeps CellLe world.heap constructed.1)
    (hconnected : Connected constructed.1 constructed.2 construction)
    (hplaced : ∀ item ∈ constructed.2.map, item.2 < constructed.1.length) :
    (world.keep construction constructed).Inv := by
  intro entry hentry
  rcases List.mem_append.mp hentry with hold | hnew
  · exact h.keeps hkeeps entry hold
  · rw [List.mem_singleton.mp hnew]
    exact ⟨hconnected, hplaced⟩

/-- The world after a default construction, whatever the initialisers did. -/
theorem MapWorld.Inv.keepDefault {world : MapWorld D} (h : world.Inv)
    {state : List (HeapItem D) × TelemetryMapObject}
    (hbuilt : Built world.heap TelemetryMember.all state) :
    (world.keep .default (state.1.modify (state.2.member .telElevation) fun cell =>
      { cell with doNotSend := true }, state.2)).Inv := by
  have hmark : Heap.Keeps CellLe state.1 _ := keeps_mark (state.2.member .telElevation)
  apply h.keep
  case hkeeps => exact hbuilt.keeps.trans CellLe.trans hmark
  case hconnected => exact hbuilt.linked_mark
  case hplaced => exact fun item hitem => hmark.lt_length (hbuilt.placed item hitem)

/-- The world after a copy construction, whatever the initialisers did. -/
theorem MapWorld.Inv.keepCopy {world : MapWorld D} (h : world.Inv) (other : ℕ)
    {state : List (HeapItem D) × TelemetryMapObject}
    (hbuilt : Built world.heap TelemetryMember.all state)
    (hplaced : ∀ item ∈ object.map, item.2 < world.heap.length) :
    (world.keep (.copy other) (state.1, { state.2 with map := object.map })).Inv := by
  apply h.keep
  case hkeeps => exact hbuilt.keeps
  case hconnected => exact hbuilt.detached hplaced
  case hplaced => exact fun item hitem => hbuilt.keeps.lt_length (hplaced item hitem)

variable [Zero D]

/-- Every action keeps the invariant. -/
theorem MapWorld.Inv.step {world : MapWorld D} (h : world.Inv) (action : MapAction D) :
    (world.step lib action).Inv := by
  cases action with
  | construct => exact h.keepDefault built_initMembers
  | copy other =>
      rw [MapWorld.step]
      cases hentry : world.maps[other]? with
      | none => exact h
      | some entry =>
          obtain ⟨-, hplaced⟩ := h entry (List.mem_of_getElem? hentry)
          exact h.keepCopy other built_initMembers hplaced
  | setVal map member subId value =>
      rw [MapWorld.step]
      cases world.maps[map]? with
      | none => exact h
      | some entry => exact h.keeps (keeps_setVal member subId value)
  | setItemFromJson map js =>
      rw [MapWorld.step]
      cases world.maps[map]? with
      | none => exact h
      | some entry => exact h.keeps (keeps_setItemFromJson js)

theorem MapWorld.inv_run (actions : List (MapAction D)) :
    (run (MapWorld.step lib) MapWorld.empty actions).Inv :=
  run_invariant MapWorld.Inv (fun _ action h => h.step action) (by simp [Inv, empty]) actions

/-- **Accessors and map.**  Whatever maps are constructed and however they are updated, a
map's accessors and its `_map` are the same items exactly when it was not constructed as
a copy. -/
theorem tied_iff_default (lib : JsonLibrary D) (actions : List (MapAction D)) :
    ∀ entry ∈ (run (MapWorld.step lib) MapWorld.empty actions).maps,
      Tied lib (run (MapWorld.step lib) MapWorld.empty actions).heap entry.2 ↔
        entry.1 = .default := by
  intro entry hentry
  exact (MapWorld.inv_run actions entry hentry).1.tied_iff

/-- The map that `TelemetryMapObject.new` makes first is tied. -/
theorem tied_default :
    Tied (JsonLibrary.listed [])
      (run (MapWorld.step (JsonLibrary.listed [])) MapWorld.empty [.construct]).heap
      (TelemetryMapObject.new ([] : List (HeapItem ℚ))).2 :=
  have hmem : (.default, (TelemetryMapObject.new ([] : List (HeapItem ℚ))).2) ∈
      (run (MapWorld.step (JsonLibrary.listed [])) MapWorld.empty [.construct]).maps :=
    List.mem_singleton.mpr rfl
  (tied_iff_default (JsonLibrary.listed []) [.construct] _ hmem).mpr rfl

/-- The copy of a map has an accessor that does not return the item of its `_map`. -/
theorem not_tied_copy :
    ¬ ∀ entry ∈ (run (MapWorld.step (JsonLibrary.listed [])) MapWorld.empty
          [.construct, .copy 0]).maps,
        Tied (JsonLibrary.listed [])
          (run (MapWorld.step (JsonLibrary.listed [])) MapWorld.empty [.construct, .copy 0]).heap
          entry.2 := by
  intro h
  -- "powerStatus" in `_map`, and what its accessor returns, of both maps
  have hcopy : ((run (MapWorld.step (JsonLibrary.listed [])) MapWorld.empty
      [.construct, .copy 0]).maps.map fun entry =>
        (entry.2.map.lookup powerStatus.id, entry.2.member .powerStatus)) =
      [(some 0, 0), (some 0, 20)] := by decide +kernel
  have hmem : (some 0, 20) ∈ [((some 0, 0) : Option ℕ × ℕ), (some 0, 20)] := by decide
  rw [← hcopy] at hmem
  obtain ⟨entry, hentry, hpair⟩ := List.mem_map.mp hmem
  have hsame := (h entry hentry).same .powerStatus
  rw [(Prod.mk.inj hpair).1, (Prod.mk.inj hpair).2] at hsame
  exact absurd hsame (by decide)

end M2Cell
