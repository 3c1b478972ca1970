import M2Cell.Proofs.TelemetryMessage
import M2Cell.Lib.Run

/-!
# The telemetry round trip

The strings that one `TelemetryMap` sends, fed to another one in any order and
with any repetitions, copy its items.  The flat message of an item has the "id"
and one member for each sub-item, and the keys are all different
(`subs_layout`), so the merge of the members loses nothing
(`find?_getJson_sub`); and the two maps have the same layout, so each sub-item
finds a value of its own type and size.

From the inside out: a value reads back what it was written as (`TItemValue.convert_toJson`), a
sub-item takes its value from the message (`TItem.setFromJson_of_find`), all sub-items become
those of the source (`setItems_eq`), and one message copies the item and nothing else
(`setItemFromJsonStr_message`).  A run of messages is an induction on what was sent, with the
answer to a look-up as what is kept (`find?_run_receive`); when every item was sent the maps
agree at every id and so are equal (`run_receive_eq`).
-/

namespace M2Cell

variable {D : Type} {lib : JsonLibrary D}

/-! ## Messages of items -/

/-- Reading back what a value is written as. -/
theorem TItemValue.convert_toJson (hlib : lib.Lawful) (value : TItemValue D) :
    TItemValue.convert lib value.kind value.toJson = some value := by
  cases value with
  | double val => simp [convert, toJson, kind, hlib.toDouble_float]
  | boolean val => simp [convert, toJson, kind, Json.toBool?]
  | string val => simp [convert, toJson, kind, Json.toString?]
  | vectorDouble vals =>
      simp [convert, toJson, kind, Json.toVector?_map hlib.toDouble_float]
  | vectorInt vals =>
      simp [convert, toJson, kind, Json.toVector?_map hlib.toInt_integer]

theorem TItem.mergePatch_getJson (js : Json D) (sub : TItem D) :
    js.mergePatch sub.getJson = js.set sub.id sub.value.toJson := by
  apply Json.mergePatch_single
  · intro h
    cases hvalue : sub.value <;> simp [hvalue, TItemValue.toJson] at h
  · intro target
    cases hvalue : sub.value <;> simp [TItemValue.toJson, Json.mergePatch]

namespace TelemetryItem

/-- The members that the sub-items have in the message. -/
def subMembers (item : TelemetryItem D) : List (String × Json D) :=
  item.tiMap.map fun sub => (sub.id, sub.value.toJson)

theorem getJson_eq (item : TelemetryItem D) :
    item.getJson = (Json.null.set "id" (.string item.id)).setAll item.subMembers := by
  simp only [getJson, TItem.mergePatch_getJson, Json.setAll, subMembers, List.foldl_map]

theorem keys_subMembers (item : TelemetryItem D) :
    item.subMembers.map Prod.fst = item.tiMap.map TItem.id := by
  rw [subMembers, List.map_map]
  rfl

theorem find?_getJson_id {item : TelemetryItem D} (hid : "id" ∉ item.tiMap.map TItem.id) :
    item.getJson.find? "id" = some (.string item.id) := by
  rw [← keys_subMembers] at hid
  rw [getJson_eq, Json.find?_setAll_of_notMem _ hid, Json.find?_set, if_pos rfl]

/-- **No member is lost** in the flat message. -/
theorem find?_getJson_sub {item : TelemetryItem D} (hnodup : (item.tiMap.map TItem.id).Nodup)
    {sub : TItem D} (hsub : sub ∈ item.tiMap) :
    item.getJson.find? sub.id = some sub.value.toJson := by
  rw [← keys_subMembers] at hnodup
  rw [getJson_eq]
  have hmember : (sub.id, sub.value.toJson) ∈ item.subMembers := List.mem_map.mpr ⟨sub, hsub, rfl⟩
  exact Json.find?_setAll_of_mem _ hnodup hmember

end TelemetryItem

/-! ## Setting from the message of an item of the same layout -/

theorem TItem.setFromJson_of_find (hlib : lib.Lawful) {js : Json D} {source target : TItem D}
    (hlayout : target.layout = source.layout)
    (hfind : js.find? source.id = some source.value.toJson) :
    target.setFromJson lib js false = (source, .ok true) := by
  have hid : target.id = source.id := congrArg Prod.fst hlayout
  have hkind : target.value.kind = source.value.kind := congrArg Prod.snd hlayout
  have hfetch : js.fetch? source.id (TItemValue.convert lib source.value.kind) =
      some source.value := by
    rw [Json.fetch?, hfind, Option.bind_some, TItemValue.convert_toJson hlib]
  have hset : target.setVal source.value = (source, true) := by
    rw [setVal, if_pos hkind.symm, hid]
  simp [setFromJson, hid, hkind, Json.fetch_eq_ok _ hfetch, hset]

namespace TelemetryItem

/-- The sub-items of the target become those of the source. -/
theorem setItems_eq (hlib : lib.Lawful) {js : Json D} {sources targets : List (TItem D)}
    (hlayout : targets.map TItem.layout = sources.map TItem.layout)
    (hfind : ∀ source ∈ sources, js.find? source.id = some source.value.toJson) :
    setItems lib js targets = (sources, .ok true) := by
  induction sources generalizing targets with
  | nil =>
      rw [List.map_nil, List.map_eq_nil_iff] at hlayout
      rw [hlayout]
      rfl
  | cons source sources ih =>
      obtain ⟨target, targets', rfl, hhead, htail⟩ := List.map_eq_cons_iff.mp hlayout
      have hset := TItem.setFromJson_of_find hlib hhead (hfind source List.mem_cons_self)
      have hrest := ih htail fun other hother => hfind other (List.mem_cons_of_mem _ hother)
      simp only [setItems, hset, hrest, Except.map, Bool.and_self]

theorem setFromJson_getJson (hlib : lib.Lawful) {source target : TelemetryItem D}
    (hlayout : target.layout = source.layout) (hnodup : (source.tiMap.map TItem.id).Nodup)
    (hid : "id" ∉ source.tiMap.map TItem.id) :
    target.setFromJson lib source.getJson true = (source, .ok true) := by
  have hsame : target.id = source.id := congrArg TItemLayout.id hlayout
  have hclass : target.itemClass = source.itemClass := congrArg TItemLayout.itemClass hlayout
  have hsubs : target.tiMap.map TItem.layout = source.tiMap.map TItem.layout :=
    congrArg TItemLayout.items hlayout
  obtain ⟨members, hobject⟩ := Json.object_of_find (find?_getJson_id hid)
  have hfind : (Json.object members).find? "id" = some (.string target.id) := by
    rw [← hobject, find?_getJson_id hid, hsame]
  have hitems : setItems lib (.object members) target.tiMap = (source.tiMap, .ok true) := by
    refine setItems_eq hlib hsubs fun sub hsub => ?_
    rw [← hobject]
    exact find?_getJson_sub hnodup hsub
  rw [hobject, setFromJson_of_find lib hfind, hitems, hsame, hclass]

end TelemetryItem

/-! ## Comparison with itself -/

/-- A list is `==` to itself when its items are. -/
theorem beq_self_of_forall {α : Type} [BEq α] {vals : List α} (h : ∀ val ∈ vals, (val == val) = true) :
    (vals == vals) = true := by
  induction vals with
  | nil => rfl
  | cons val rest ih =>
      rw [List.cons_beq_cons, h val List.mem_cons_self,
        ih fun other hother => h other (List.mem_cons_of_mem _ hother)]
      rfl

theorem TItemValue.beq_self [Double D] {value : TItemValue D} (hfinite : value.Finite) :
    value.beq value = true := by
  cases value with
  | double val => exact Double.beq_self val hfinite
  | boolean val => simp [beq]
  | string val => simp [beq]
  | vectorDouble vals =>
      simp [beq, beq_self_of_forall fun val hval => Double.beq_self val (hfinite val hval)]
  | vectorInt vals => simp [beq]

theorem compareTelemetryItemMaps_self {ι : Type} {getId : ι → String} {compareItem : ι → ι → Bool}
    {map : List ι} (hnodup : (map.map getId).Nodup)
    (hself : ∀ item ∈ map, compareItem item item = true) :
    TelemetryItem.compareTelemetryItemMaps getId compareItem map map = true := by
  rw [TelemetryItem.compareTelemetryItemMaps, beq_self_eq_true, Bool.true_and, List.all_eq_true]
  intro item hitem
  rw [Keyed.lookup_of_mem hnodup hitem]
  exact hself item hitem

/-- The numbers of the item are finite. -/
def TelemetryItem.Finite [Double D] (item : TelemetryItem D) : Prop :=
  ∀ sub ∈ item.tiMap, sub.value.Finite

theorem TelemetryItem.compareItem_self [Double D] {item : TelemetryItem D}
    (hnodup : (item.tiMap.map TItem.id).Nodup) (hfinite : item.Finite) :
    item.compareItem item = true := by
  rw [compareItem, beq_self_eq_true, Bool.true_and]
  apply compareTelemetryItemMaps_self hnodup
  intro sub hsub
  rw [TItem.compareItem, beq_self_eq_true, Bool.true_and]
  exact TItemValue.beq_self (hfinite sub hsub)

namespace TelemetryMap

/-- The numbers of all items are finite. -/
def Finite [Double D] (M : TelemetryMap D) : Prop := ∀ item ∈ M.items, item.Finite

theorem compareMaps_self [Double D] {M : TelemetryMap D} (hfinite : M.Finite) :
    M.compareMaps M = true := by
  apply compareTelemetryItemMaps_self M.ids_nodup
  intro item hitem
  exact TelemetryItem.compareItem_self (subs_nodup hitem).1 (hfinite item hitem)

/-! ## Sending items -/

variable {A B : TelemetryMap D} {item : TelemetryItem D}

/-- The string that is sent for an item. -/
def message (lib : JsonLibrary D) (item : TelemetryItem D) : ByteArray :=
  (lib.dump item.getJson).toUTF8

/-- The map after the string of an item. -/
def receive (lib : JsonLibrary D) (M : TelemetryMap D) (item : TelemetryItem D) :
    TelemetryMap D :=
  (M.setItemFromJsonStr lib (message lib item)).1

/-- Every map has an item of the same layout. -/
theorem exists_of_layout (B : TelemetryMap D) (hitem : item ∈ A.items) :
    ∃ target, B.find? item.id = some target ∧ target.layout = item.layout := by
  have hlayout := layout_mem hitem
  rw [← B.layout_eq] at hlayout
  obtain ⟨target, htarget, hsame⟩ := List.mem_map.mp hlayout
  have hid : target.id = item.id := congrArg TItemLayout.id hsame
  exact ⟨target, hid ▸ find?_of_mem htarget, hsame⟩

/-- **One message** copies the item, and is answered with it. -/
theorem setItemFromJsonStr_message (hlib : lib.Lawful) (B : TelemetryMap D)
    (hitem : item ∈ A.items) (hround : lib.RoundTrips item.getJson) :
    (B.setItemFromJsonStr lib (message lib item)).2 = .ok (some item.id) ∧
      ∀ id, (receive lib B item).find? id = if id = item.id then some item else B.find? id := by
  obtain ⟨target, hfind, hlayout⟩ := exists_of_layout B hitem
  obtain ⟨hnodup, hid⟩ := subs_nodup hitem
  have hset := TelemetryItem.setFromJson_getJson hlib hlayout hnodup hid
  have hparse : lib.parse (message lib item) = .value item.getJson := hround
  have hnamed := TelemetryItem.find?_getJson_id hid
  obtain ⟨members, hobject⟩ := Json.object_of_find hnamed
  rw [hobject] at hset hparse hnamed
  have hstep : B.setItemFromJsonStr lib (message lib item) =
      (B.setFromJson lib (.object members) item.id, .ok (some item.id)) := by
    simp only [setItemFromJsonStr, hparse, B.setItemFromJson_of_id hnamed, hfind, hset]
    rfl
  refine ⟨by rw [hstep], fun id => ?_⟩
  rw [receive, hstep, find?_setFromJson, hfind, Option.map_some, hset]

/-- **A run of messages** copies the items that were sent. -/
theorem find?_run_receive (hlib : lib.Lawful) (hround : ∀ item ∈ A.items, lib.RoundTrips item.getJson)
    (B : TelemetryMap D) {sent : List (TelemetryItem D)} (hsent : ∀ item ∈ sent, item ∈ A.items)
    (id : String) :
    (run (receive lib) B sent).find? id =
      if id ∈ sent.map TelemetryItem.id then A.find? id else B.find? id := by
  induction sent generalizing B with
  | nil => rfl
  | cons item rest ih =>
      have hitem := hsent item List.mem_cons_self
      have hstep := (setItemFromJsonStr_message hlib B hitem (hround item hitem)).2 id
      rw [run_cons, ih _ fun other hother => hsent other (List.mem_cons_of_mem _ hother), hstep,
        List.map_cons]
      -- an item that is sent again is the same item
      by_cases hrest : id ∈ rest.map TelemetryItem.id
      · rw [if_pos hrest, if_pos (List.mem_cons_of_mem _ hrest)]
      · rw [if_neg hrest]
        by_cases hid : id = item.id
        · rw [if_pos hid, if_pos (hid ▸ List.mem_cons_self), hid, find?_of_mem hitem]
        · rw [if_neg hid, if_neg (List.not_mem_cons_of_ne_of_not_mem hid hrest)]

/-- Two maps that agree at every id have the same items. -/
theorem items_eq_of_find? (h : ∀ id, A.find? id = B.find? id) : A.items = B.items :=
  Keyed.eq_of_lookup (A.ids_eq.trans B.ids_eq.symm) A.ids_nodup h

/-- When every item was sent, the map is a copy. -/
theorem run_receive_eq (hlib : lib.Lawful) (hround : ∀ item ∈ A.items, lib.RoundTrips item.getJson)
    (B : TelemetryMap D) {sent : List (TelemetryItem D)} (hsent : ∀ item ∈ sent, item ∈ A.items)
    (hall : ∀ item ∈ A.items, item.id ∈ sent.map TelemetryItem.id) :
    run (receive lib) B sent = A := by
  have hitems : (run (receive lib) B sent).items = A.items := by
    apply items_eq_of_find?
    intro id
    rw [find?_run_receive hlib hround B hsent]
    split_ifs with hid
    · rfl
    · -- an id that was not sent is no id of the layout
      have hA : A.find? id = none := by
        apply Keyed.lookup_eq_none_iff.mpr
        rintro item hitem rfl
        exact hid (hall item hitem)
      cases hB : B.find? id with
      | none => exact hA.symm
      | some target =>
          obtain ⟨htarget, rfl⟩ := mem_of_find? hB
          exact absurd rfl (layout_id_ne hA (layout_mem htarget))
  cases hrun : run (receive lib) B sent with
  | mk items layout_eq =>
      rw [hrun] at hitems
      cases A
      simpa using hitems

/-! ## The round trip -/

/-- What sending items of `A` to `B` does. -/
structure RoundTrip [Double D] (lib : JsonLibrary D) (A B : TelemetryMap D)
    (sent : List (TelemetryItem D)) : Prop where
  /-- Every message is answered with its item, which then matches the one of `A`. -/
  returns : ∀ earlier item later, sent = earlier ++ item :: later →
    ((run (receive lib) B earlier).setItemFromJsonStr lib (message lib item)).2 =
        .ok (some item.id) ∧
      ∃ received, (run (receive lib) B (earlier ++ [item])).find? item.id = some received ∧
        item.compareItem received = true ∧ received.compareItem item = true
  /-- It changes no other item. -/
  others : ∀ earlier item later, sent = earlier ++ item :: later → ∀ id, id ≠ item.id →
    (run (receive lib) B (earlier ++ [item])).find? id = (run (receive lib) B earlier).find? id
  /-- The maps are equal when every item was sent. -/
  compare : (∀ item ∈ A.items, item.id ∈ sent.map TelemetryItem.id) →
    A.compareMaps (run (receive lib) B sent) = true ∧
      (run (receive lib) B sent).compareMaps A = true

/-- **Telemetry round trip.**  The items of a map, sent in any order and any number of
times, are copied. -/
theorem roundTrip [Double D] (lib : JsonLibrary D) (hlib : lib.Lawful) (A B : TelemetryMap D)
    (hfinite : A.Finite) (hround : ∀ item ∈ A.items, lib.RoundTrips item.getJson)
    (sent : List (TelemetryItem D)) (hsent : ∀ item ∈ sent, item ∈ A.items) :
    RoundTrip lib A B sent where
  returns := by
    rintro earlier item later rfl
    have hitem : item ∈ A.items := hsent item List.mem_append_cons_self
    obtain ⟨hresult, hfind⟩ :=
      setItemFromJsonStr_message hlib (run (receive lib) B earlier) hitem (hround item hitem)
    have hself := TelemetryItem.compareItem_self (subs_nodup hitem).1 (hfinite item hitem)
    refine ⟨hresult, item, ?_, hself, hself⟩
    rw [run_concat, hfind, if_pos rfl]
  others := by
    rintro earlier item later rfl id hid
    have hitem : item ∈ A.items := hsent item List.mem_append_cons_self
    obtain ⟨-, hfind⟩ :=
      setItemFromJsonStr_message hlib (run (receive lib) B earlier) hitem (hround item hitem)
    rw [run_concat, hfind, if_neg hid]
  compare := by
    intro hall
    rw [run_receive_eq hlib hround B hsent hall]
    exact ⟨compareMaps_self hfinite, compareMaps_self hfinite⟩

/-- A map with a zenith angle of one half. -/
def tilted : TelemetryMap ℚ :=
  new.setFromJson (.listed [])
    ((Json.null.set "id" (.string "zenithAngle")).set "measured" (.float (1 / 2))) "zenithAngle"

/-- The items of the tilted map, sent to a new one. -/
theorem roundTrip_tilted :
    RoundTrip (.listedValues (tilted.items.map TelemetryItem.getJson)) tilted new tilted.items := by
  refine roundTrip _ (JsonLibrary.lawful_listed _) tilted new ?_ ?_ tilted.items fun _ h => h
  · intro item hitem sub hsub
    cases hvalue : sub.value <;> simp [TItemValue.Finite, Double.isFinite]
  · intro item hitem
    apply JsonLibrary.roundTrips_listedValues _ (List.mem_map_of_mem hitem)
    decide +kernel

end TelemetryMap

end M2Cell
