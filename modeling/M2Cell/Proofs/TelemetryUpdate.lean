import M2Cell.Proofs.TelemetryMessage
import M2Cell.Telemetry.TelemetryReader

/-!
# Updates that fail

A message that `setItemFromJson` does not return the item for may have set some of
its sub-items already: `setItems` goes on behind a missing key or a vector of
another size, and what precedes an exception stays.  Such a message changes nothing
exactly when every sub-item that it reaches and would set has the value already
(`setItems_eq_iff`).  The server then does not take the inclinometer angle from
the elevation.

`TItem.setFromJson_spec` has the three things that can happen to a sub-item, with the value that
is set.  The two statements about the loop, that it changes nothing (`setItems_eq_iff`) and that
it sets everything (`setItems_true_iff`), are inductions on the sub-items with these cases.  An
update of one item is an update of the map (`update_eq_iff`), and so `unchanged_iff` is about
one call of `setItemFromJson`.
-/

namespace M2Cell

variable {D : Type} {lib : JsonLibrary D} {members : List (String × Json D)}

/-! ## Sub-items -/

/-- The value that the message has for a sub-item, when it converts and has the size of
the sub-item. -/
def TItem.newValue? (lib : JsonLibrary D) (js : Json D) (item : TItem D) :
    Option (TItemValue D) :=
  (js.fetch? item.id (TItemValue.convert lib item.value.kind)).filter
    fun value => value.kind = item.value.kind

/-- The sub-items that the message reaches and would set have the values already. -/
def AlreadySet (lib : JsonLibrary D) (js : Json D) : List (TItem D) → Prop
  | [] => True
  | item :: rest =>
      (∀ value, item.newValue? lib js = some value → value = item.value) ∧
        -- a value of the wrong type throws
        (Fits lib js item.layout → AlreadySet lib js rest)

/-- The message has a value for every sub-item. -/
def SetsAll (lib : JsonLibrary D) (js : Json D) (items : List (TItem D)) : Prop :=
  ∀ item ∈ items, ∃ value, item.newValue? lib js = some value

namespace TItem

/-- A sub-item is set, refused, or throws. -/
theorem setFromJson_spec (lib : JsonLibrary D) (members : List (String × Json D))
    (item : TItem D) :
    (∃ value, item.newValue? lib (.object members) = some value ∧
        Fits lib (.object members) item.layout ∧
        item.setFromJson lib (.object members) false = ({ item with value := value }, .ok true)) ∨
      (item.newValue? lib (.object members) = none ∧
        Fits lib (.object members) item.layout ∧
        item.setFromJson lib (.object members) false = (item, .ok false)) ∨
      (item.newValue? lib (.object members) = none ∧
        ¬ Fits lib (.object members) item.layout ∧
        ∃ failure, item.setFromJson lib (.object members) false = (item, .error failure)) := by
  have hfits := item.setFromJson_cases lib members
  rcases Json.fetch_object_cases members item.id (TItemValue.expected item.value.kind)
    (TItemValue.convert lib item.value.kind) with
    ⟨member, value, hfind, hconv, hfetch⟩ | ⟨member, ex, hfind, hconv, hkind, hfetch⟩ |
      ⟨ex, hfind, hkind, hfetch⟩
  · by_cases hsize : value.kind = item.value.kind
    · refine Or.inl ⟨value, ?_, ?_, ?_⟩
      · simp [newValue?, Json.fetch?, hfind, hconv, hsize]
      · simpa [setFromJson, hfetch] using hfits
      · simp [setFromJson, hfetch, setVal, hsize]
    · -- a vector of another size
      refine Or.inr (Or.inl ⟨?_, ?_, ?_⟩)
      · simp [newValue?, Json.fetch?, hfind, hconv, hsize]
      · simpa [setFromJson, hfetch] using hfits
      · simp [setFromJson, hfetch, setVal, hsize]
  · refine Or.inr (Or.inr ⟨?_, ?_, .exception ex, ?_⟩)
    · simp [newValue?, Json.fetch?, hfind, hconv]
    · simpa [setFromJson, hfetch, hkind] using hfits
    · simp [setFromJson, hfetch, hkind]
  · -- a missing key
    refine Or.inr (Or.inl ⟨?_, ?_, ?_⟩)
    · simp [newValue?, Json.fetch?, hfind]
    · simpa [setFromJson, hfetch, hkind] using hfits
    · simp [setFromJson, hfetch, hkind]

end TItem

namespace TelemetryItem

/-- The sub-items stay as they are when those that are reached and set have their
values already. -/
theorem setItems_eq_iff (lib : JsonLibrary D) (members : List (String × Json D))
    (items : List (TItem D)) :
    (setItems lib (.object members) items).1 = items ↔ AlreadySet lib (.object members) items := by
  induction items with
  | nil => simp [setItems, AlreadySet]
  | cons item rest ih =>
      rcases item.setFromJson_spec lib members with
        ⟨value, hvalue, hfits, hset⟩ | ⟨hvalue, hfits, hset⟩ | ⟨hvalue, hfits, failure, hset⟩
      -- set, refused, or an exception that ends the loop
      · have hitem : { item with value := value } = item ↔ value = item.value := by
          cases item
          simp
        simp only [setItems, hset, AlreadySet, hvalue, hfits, List.cons.injEq, hitem, ih,
          Option.some.injEq, forall_eq', forall_const]
      · simp [setItems, hset, AlreadySet, hvalue, hfits, ih]
      · simp [setItems, hset, AlreadySet, hvalue, hfits]

/-- All sub-items can be set when there is a value for each of them. -/
theorem setItems_true_iff (lib : JsonLibrary D) (members : List (String × Json D))
    (items : List (TItem D)) :
    (setItems lib (.object members) items).2 = .ok true ↔
      SetsAll lib (.object members) items := by
  induction items with
  | nil => simp [setItems, SetsAll]
  | cons item rest ih =>
      unfold SetsAll at ih ⊢
      rw [List.forall_mem_cons, ← ih]
      rcases item.setFromJson_spec lib members with
        ⟨value, hvalue, hfits, hset⟩ | ⟨hvalue, hfits, hset⟩ | ⟨hvalue, hfits, failure, hset⟩
      · simp only [setItems, hset, hvalue]
        cases (setItems lib (.object members) rest).2 with
        | ok success => simp [Except.map]
        | error failure => simp [Except.map]
      · simp only [setItems, hset, hvalue]
        cases (setItems lib (.object members) rest).2 with
        | ok success => simp [Except.map]
        | error failure => simp [Except.map]
      · simp [setItems, hset, hvalue]

end TelemetryItem

/-! ## The map -/

namespace TelemetryMap

/-- The item was returned. -/
def Returned (result : Except JsonFailure (Option String)) : Prop :=
  ∃ id, result = .ok (some id)

instance decidableReturned (result : Except JsonFailure (Option String)) :
    Decidable (Returned result) :=
  match result with
  | .ok (some id) => isTrue ⟨id, rfl⟩
  | .ok none => isFalse (by simp [Returned])
  | .error _ => isFalse (by simp [Returned])

/-- What the message has for the item that it names is complete, or changes nothing. -/
def CompleteOrSame (lib : JsonLibrary D) (js : Json D) (M : TelemetryMap D) : Prop :=
  ∀ item ∈ M.items, js.find? "id" = some (.string item.id) →
    SetsAll lib js item.tiMap ∨ AlreadySet lib js item.tiMap

variable {M : TelemetryMap D}

theorem eq_of_items {M' : TelemetryMap D} (h : M.items = M'.items) : M = M' := by
  cases M
  cases M'
  cases h
  rfl

/-- The update of an item changes the map when it changes the item. -/
theorem update_eq_iff {item : TelemetryItem D} (hmem : item ∈ M.items)
    {f : TelemetryItem D → TelemetryItem D} (hf : ∀ item, (f item).layout = item.layout) :
    M.update item.id f hf = M ↔ f item = item := by
  constructor
  · intro h
    have hfind : (M.update item.id f hf).find? item.id = _ := find?_update hf item.id
    rw [h, if_pos rfl, find?_of_mem hmem, Option.map_some] at hfind
    exact (Option.some.inj hfind).symm
  · intro h
    apply eq_of_items
    change Keyed.modify TelemetryItem.id item.id f M.items = M.items
    unfold Keyed.modify
    rw [List.map_congr_left (g := id) ?_, List.map_id]
    intro other hother
    by_cases hid : other.id = item.id
    · have hsame : other = item := by
        have hfind := find?_of_mem hother
        rw [hid, find?_of_mem hmem] at hfind
        exact (Option.some.inj hfind).symm
      rw [if_pos hid, hsame, h, id]
    · rw [if_neg hid, id]

/-- A message to an item returns it when it sets all sub-items. -/
theorem returned_iff {item : TelemetryItem D} (hmem : item ∈ M.items)
    (h : (Json.object members).find? "id" = some (.string item.id)) :
    Returned (M.setItemFromJson lib (.object members)).2 ↔
      SetsAll lib (.object members) item.tiMap := by
  rw [← TelemetryItem.setItems_true_iff, M.setItemFromJson_of_id h, find?_of_mem hmem]
  simp only [TelemetryItem.setFromJson_of_find lib h]
  cases (TelemetryItem.setItems lib (.object members) item.tiMap).2 with
  | ok success => cases success <;> simp [Returned, Except.map]
  | error failure => simp [Returned, Except.map]

/-- A message to an item changes the map unless the values are the same. -/
theorem setItemFromJson_eq_iff {item : TelemetryItem D} (hmem : item ∈ M.items)
    (h : (Json.object members).find? "id" = some (.string item.id)) :
    (M.setItemFromJson lib (.object members)).1 = M ↔
      AlreadySet lib (.object members) item.tiMap := by
  have hset : item.setFromJson lib (.object members) true =
      ({ item with tiMap := (TelemetryItem.setItems lib (.object members) item.tiMap).1 },
        (TelemetryItem.setItems lib (.object members) item.tiMap).2) :=
    TelemetryItem.setFromJson_of_find lib h
  have hsame : { item with tiMap := (TelemetryItem.setItems lib (.object members) item.tiMap).1 } =
      item ↔ (TelemetryItem.setItems lib (.object members) item.tiMap).1 = item.tiMap := by
    cases item
    simp
  rw [M.setItemFromJson_of_id h, find?_of_mem hmem]
  dsimp only
  rw [setFromJson, update_eq_iff hmem, hset, hsame, TelemetryItem.setItems_eq_iff]

/-- A message that names no item of the map changes nothing. -/
theorem setItemFromJson_eq_of_unnamed {js : Json D}
    (h : ∀ item ∈ M.items, js.find? "id" ≠ some (.string item.id)) :
    (M.setItemFromJson lib js).1 = M := by
  by_cases hstring : ∃ id, js.find? "id" = some (.string id)
  · obtain ⟨id, hid⟩ := hstring
    obtain ⟨members, rfl⟩ := Json.object_of_find hid
    rw [M.setItemFromJson_of_id hid]
    cases hfind : M.find? id with
    | none => rfl
    | some item =>
        obtain ⟨hmem, rfl⟩ := mem_of_find? hfind
        exact absurd hid (h item hmem)
  · obtain ⟨failure, hfailure⟩ :=
      M.setItemFromJson_of_no_id lib fun id hid => hstring ⟨id, hid⟩
    rw [hfailure]

/-- **One call** of `setItemFromJson` that does not return the item changes nothing,
exactly for messages that are complete or the same as before. -/
theorem unchanged_iff (lib : JsonLibrary D) (js : Json D) (M : TelemetryMap D) :
    (¬ Returned (M.setItemFromJson lib js).2 → (M.setItemFromJson lib js).1 = M) ↔
      M.CompleteOrSame lib js := by
  by_cases hnamed : ∃ item ∈ M.items, js.find? "id" = some (.string item.id)
  · obtain ⟨item, hmem, hid⟩ := hnamed
    obtain ⟨members, rfl⟩ := Json.object_of_find hid
    rw [returned_iff hmem hid, setItemFromJson_eq_iff hmem hid, ← or_iff_not_imp_left]
    constructor
    · intro h other hother hidOther
      rw [hid] at hidOther
      have hsame := find?_of_mem hother
      rw [← Json.string.inj (Option.some.inj hidOther), find?_of_mem hmem] at hsame
      rwa [← Option.some.inj hsame]
    · intro h
      exact h item hmem hid
  -- a message that names no item changes nothing in any case
  · push Not at hnamed
    constructor
    · intro _ item hmem hid
      exact absurd hid (hnamed item hmem)
    · intro _ _
      exact setItemFromJson_eq_of_unnamed hnamed

/-! ## Elevation and inclinometer angle -/

/-- The inclinometer angle is the elevation. -/
def AnglesAgree (M : TelemetryMap D) : Prop := M.actualPosition = M.inclinometer

/-- **A failed update** changes nothing, and the angles of a map in which they agree still
agree after a message of "tel_elevation" that the server rejects. -/
structure Atomic (lib : JsonLibrary D) (js : Json D) (M : TelemetryMap D) : Prop where
  setItemFromJson : ¬ Returned (M.setItemFromJson lib js).2 → (M.setItemFromJson lib js).1 = M
  setItemFromJsonStr : ∀ jsStr, lib.parse jsStr = .value js →
    ¬ Returned (M.setItemFromJsonStr lib jsStr).2 → (M.setItemFromJsonStr lib jsStr).1 = M
  telElevation : ∀ inMsg, lib.parse inMsg = .value js →
    js.find? "id" = some (.string "tel_elevation") → ¬ Returned (M.readMessage lib inMsg).2 →
    M.AnglesAgree → (M.readMessage lib inMsg).1.AnglesAgree

/-- A rejected message leaves the reader with what `setItemFromJsonStr` left. -/
theorem readMessage_of_not_returned {inMsg : ByteArray}
    (h : ¬ Returned (M.readMessage lib inMsg).2) :
    M.readMessage lib inMsg = M.setItemFromJsonStr lib inMsg := by
  unfold readMessage at h ⊢
  dsimp only at h
  dsimp only
  cases hresult : (M.setItemFromJsonStr lib inMsg).2 with
  | error failure =>
      dsimp only
      rw [← hresult]
  | ok updatedItem =>
      simp only [hresult] at h ⊢
      have hne : updatedItem ≠ some tItemTelElevation.id := by
        rintro rfl
        exact h ⟨_, rfl⟩
      rw [if_neg hne, ← hresult]

/-- **Telemetry updates** are atomic exactly for messages that are complete or set nothing
new, for the item that they name. -/
theorem atomic_iff (lib : JsonLibrary D) (js : Json D) (M : TelemetryMap D) :
    M.Atomic lib js ↔ M.CompleteOrSame lib js := by
  rw [← unchanged_iff]
  have hparsed {jsStr : ByteArray} (h : lib.parse jsStr = .value js) :
      M.setItemFromJsonStr lib jsStr = M.setItemFromJson lib js := by
    simp only [TelemetryMap.setItemFromJsonStr, h]
  constructor
  · intro h
    exact h.setItemFromJson
  · intro h
    refine ⟨h, ?_, ?_⟩
    · intro jsStr hjs
      rwa [hparsed hjs]
    -- a rejected message leaves the elevation, and so the angle, where they were
    · intro inMsg hjs _ hrejected hagree
      have hread := readMessage_of_not_returned hrejected
      rw [hread, hparsed hjs] at hrejected ⊢
      rwa [h hrejected]

/-- An elevation without the name of the component. -/
def bareElevation : Json ℚ :=
  (Json.null.set "id" (.string "tel_elevation")).set "actualPosition" (.float 45)

/-- The elevation is set although the message is rejected, and the inclinometer angle
stays behind. -/
theorem not_atomic_bareElevation :
    ¬ Returned (new.readMessage (.listedValues [bareElevation]) bareElevation.dump.toUTF8).2 ∧
      ¬ (new.readMessage (.listedValues [bareElevation])
        bareElevation.dump.toUTF8).1.AnglesAgree ∧
      ¬ new.Atomic (.listedValues [bareElevation]) bareElevation := by
  have hrejected : ¬ Returned
      (new.readMessage (.listedValues [bareElevation]) bareElevation.dump.toUTF8).2 := by
    decide +kernel
  have hangles : ¬ (new.readMessage (.listedValues [bareElevation])
      bareElevation.dump.toUTF8).1.AnglesAgree := by
    unfold AnglesAgree
    decide +kernel
  refine ⟨hrejected, hangles, ?_⟩
  intro h
  refine hangles (h.telElevation _ ?_ ?_ hrejected ?_)
  · exact JsonLibrary.roundTrips_listedValues (by simp) List.mem_cons_self
  · simp [bareElevation, Json.find?_set]
  · unfold AnglesAgree
    decide +kernel

end TelemetryMap

end M2Cell
