import M2Cell.Telemetry.TelemetryMap

/-!
# Telemetry messages

What one message does to the telemetry map.  Whatever it contains, only the item
that it names is changed (`others_setItemFromJsonStr`).  No failure escapes
exactly when the message is well typed: it is no JSON at all, or it is an object
with a string "id", and every sub-item of the item of that id is missing or has a
value of its type (`handled_iff`).

The proof follows the message inwards.  `TItem.setFromJson_cases` says what becomes of one
sub-item, `setItems_cases` of a list of them, where the first failure ends the loop, and
`setItemFromJson_returns_iff` of an item of the map.  Without a string "id" there is a failure
(`setItemFromJson_of_no_id`), and an unknown id is answered with nothing.  That the answer is
the item which the message names is `found_named`.
-/

namespace M2Cell

variable {D : Type}

/-- The value at the key of a sub-item converts to its type, when there is one. -/
def Fits (lib : JsonLibrary D) (js : Json D) (sub : String × TItemKind) : Prop :=
  ∀ member, js.find? sub.1 = some member → ∃ value, TItemValue.convert lib sub.2 member = some value

variable {lib : JsonLibrary D} {members : List (String × Json D)}

/-! ## Sub-items -/

namespace TItem

/-- A sub-item is set or refused when the message fits, and throws otherwise. -/
theorem setFromJson_cases (lib : JsonLibrary D) (members : List (String × Json D))
    (item : TItem D) :
    (Fits lib (.object members) item.layout ∧
        ∃ status, (item.setFromJson lib (.object members) false).2 = .ok status) ∨
      (¬ Fits lib (.object members) item.layout ∧
        ∃ failure, (item.setFromJson lib (.object members) false).2 = .error failure) := by
  rcases Json.fetch_object_cases members item.id (TItemValue.expected item.value.kind)
    (TItemValue.convert lib item.value.kind) with
    ⟨member, value, hfind, hconv, hfetch⟩ | ⟨member, ex, hfind, hconv, hkind, hfetch⟩ |
      ⟨ex, hfind, hkind, hfetch⟩
  · refine Or.inl ⟨?_, (item.setVal value).2, by simp [setFromJson, hfetch]⟩
    intro member' hmember
    rw [show (Json.object members).find? item.layout.1 = some member from hfind] at hmember
    cases hmember
    exact ⟨value, hconv⟩
  -- the value is of another type, which is not caught
  · refine Or.inr ⟨?_, .exception ex, by simp [setFromJson, hfetch, hkind]⟩
    intro hfits
    obtain ⟨value, hvalue⟩ := hfits member hfind
    rw [show TItemValue.convert lib item.layout.2 member = none from hconv] at hvalue
    cases hvalue
  · -- a missing key is caught
    refine Or.inl ⟨?_, false, by simp [setFromJson, hfetch, hkind]⟩
    intro member hmember
    rw [show (Json.object members).find? item.layout.1 = none from hfind] at hmember
    cases hmember

end TItem

theorem exists_of_map_eq_ok {ε α β : Type} {f : α → β} {result : Except ε α} {b : β}
    (h : result.map f = .ok b) : ∃ a, result = .ok a ∧ f a = b := by
  cases result with
  | ok a => exact ⟨a, rfl, Except.ok.inj h⟩
  | error e => cases h

namespace TelemetryItem

theorem setItems_cases (lib : JsonLibrary D) (members : List (String × Json D))
    (items : List (TItem D)) :
    ((∀ item ∈ items, Fits lib (.object members) item.layout) ∧
        ∃ success, (setItems lib (.object members) items).2 = .ok success) ∨
      ((¬ ∀ item ∈ items, Fits lib (.object members) item.layout) ∧
        ∃ failure, (setItems lib (.object members) items).2 = .error failure) := by
  induction items with
  | nil => exact Or.inl ⟨fun item hitem => absurd hitem List.not_mem_nil, true, rfl⟩
  | cons item rest ih =>
      rcases item.setFromJson_cases lib members with
        ⟨hfits, status, hstatus⟩ | ⟨hfits, failure, hfailure⟩
      · rcases ih with ⟨hrest, success, hsuccess⟩ | ⟨hrest, failure, hfailure⟩
        · exact Or.inl ⟨List.forall_mem_cons.mpr ⟨hfits, hrest⟩, status && success, by
            simp only [setItems, hstatus, hsuccess, Except.map]⟩
        · exact Or.inr ⟨fun hall => hrest (List.forall_mem_cons.mp hall).2, failure, by
            simp only [setItems, hstatus, hfailure, Except.map]⟩
      · exact Or.inr ⟨fun hall => hfits (hall item List.mem_cons_self), failure, by
          simp only [setItems, hfailure]⟩

theorem checkIdCorrect_of_find {item : TelemetryItem D}
    (hid : (Json.object members).find? "id" = some (.string item.id)) :
    item.checkIdCorrect (.object members) true = .ok true := by
  have hlookup : members.lookup "id" = some (.string item.id) := hid
  simp [checkIdCorrect, Json.subscript, hlookup, isId, bind, Except.bind, pure, Except.pure]

theorem setFromJson_of_find (lib : JsonLibrary D) {item : TelemetryItem D}
    (hid : (Json.object members).find? "id" = some (.string item.id)) :
    item.setFromJson lib (.object members) true =
      ({ item with tiMap := (setItems lib (.object members) item.tiMap).1 },
        (setItems lib (.object members) item.tiMap).2) := by
  simp only [setFromJson, checkIdCorrect_of_find hid]

end TelemetryItem

/-! ## Messages -/

/-- The message names the id. -/
def Named (lib : JsonLibrary D) (jsStr : ByteArray) (id : String) : Prop :=
  ∃ js, lib.parse jsStr = .value js ∧ js.find? "id" = some (.string id)

/-- The message is no JSON, or it names an id, and what it has for the sub-items
of the item of that id is of their types. -/
def WellTyped (lib : JsonLibrary D) (jsStr : ByteArray) : Prop :=
  match lib.parse jsStr with
  | .parseError _ => True
  | .outOfRange _ => False
  | .value js => ∃ id, js.find? "id" = some (.string id) ∧
      ∀ item ∈ TelemetryMap.layout, item.id = id → ∀ sub ∈ item.items, Fits lib js sub

namespace TelemetryMap

/-- What a message may do to the map: it returns without a failure, either nothing
or the item it names, and leaves every other item alone. -/
structure Handled (lib : JsonLibrary D) (jsStr : ByteArray) (M : TelemetryMap D) : Prop where
  returns : ∃ found, (M.setItemFromJsonStr lib jsStr).2 = .ok found ∧
    ∀ id, found = some id → Named lib jsStr id ∧
      ∃ item, (M.setItemFromJsonStr lib jsStr).1.find? id = some item
  others : ∀ id, ¬ Named lib jsStr id →
    (M.setItemFromJsonStr lib jsStr).1.find? id = M.find? id

variable (M : TelemetryMap D)

/-! ### The item that is named -/

/-- Without an "id" there is a failure and nothing changes. -/
theorem setItemFromJson_of_no_id (lib : JsonLibrary D) {js : Json D}
    (h : ∀ id, js.find? "id" ≠ some (.string id)) :
    ∃ failure, M.setItemFromJson lib js = (M, .error failure) := by
  cases js with
  | object members =>
      cases hlookup : members.lookup "id" with
      | none => exact ⟨.undefined, by simp only [setItemFromJson, Json.subscript, hlookup]⟩
      | some value =>
          cases hstring : value.toString? with
          | none =>
              exact ⟨.exception (Json.wrongType "string" value), by
                simp only [setItemFromJson, Json.subscript, hlookup, Json.convert, hstring]⟩
          | some id =>
              rw [Json.toString?_eq_some hstring] at hlookup
              exact absurd hlookup (h id)
  | null | boolean | integer | float | string | array =>
      exact ⟨_, by simp only [setItemFromJson, Json.subscript]; rfl⟩

/-- With an "id" the item of this id is set, when there is one. -/
theorem setItemFromJson_of_id {id : String}
    (h : (Json.object members).find? "id" = some (.string id)) :
    M.setItemFromJson lib (.object members) =
      match M.find? id with
      | none => (M, .ok none)
      | some item =>
          (M.setFromJson lib (.object members) id,
            (item.setFromJson lib (.object members) true).2.map fun success =>
              if success then some id else none) := by
  have hlookup : members.lookup "id" = some (.string id) := h
  cases hfind : M.find? id with
  | none => simp only [setItemFromJson, Json.subscript, hlookup, Json.convert, Json.toString?, hfind]
  | some item =>
      simp only [setItemFromJson, Json.subscript, hlookup, Json.convert, Json.toString?, hfind]

/-- **Only the named item changes**, whatever the message is. -/
theorem others_setItemFromJsonStr (lib : JsonLibrary D) (jsStr : ByteArray) (id : String)
    (hid : ¬ Named lib jsStr id) :
    (M.setItemFromJsonStr lib jsStr).1.find? id = M.find? id := by
  unfold setItemFromJsonStr
  cases hparse : lib.parse jsStr with
  | parseError what => rfl
  | outOfRange what => rfl
  | value js =>
      by_cases hstring : ∃ named, js.find? "id" = some (.string named)
      · obtain ⟨named, hnamed⟩ := hstring
        obtain ⟨members, rfl⟩ := Json.object_of_find hnamed
        have hne : id ≠ named := by
          rintro rfl
          exact hid ⟨.object members, hparse, hnamed⟩
        simp only [M.setItemFromJson_of_id hnamed]
        cases hfind : M.find? named with
        | none => rfl
        | some item => rw [find?_setFromJson, if_neg hne]
      · obtain ⟨failure, hfailure⟩ :=
          M.setItemFromJson_of_no_id lib fun named hnamed => hstring ⟨named, hnamed⟩
        simp only [hfailure]

/-! ### Failures -/

/-- A message to an existing item returns when its values fit. -/
theorem setItemFromJson_returns_iff {item : TelemetryItem D} (hmem : item ∈ M.items)
    (h : (Json.object members).find? "id" = some (.string item.id)) :
    (∃ found, (M.setItemFromJson lib (.object members)).2 = .ok found) ↔
      ∀ sub ∈ item.layout.items, Fits lib (.object members) sub := by
  have hitem := TelemetryItem.setFromJson_of_find lib h
  rw [M.setItemFromJson_of_id h, find?_of_mem hmem]
  simp only [hitem, TelemetryItem.layout, List.forall_mem_map]
  rcases TelemetryItem.setItems_cases lib members item.tiMap with
    ⟨hfits, success, hsuccess⟩ | ⟨hfits, failure, hfailure⟩
  · rw [hsuccess]
    exact ⟨fun _ => hfits, fun _ => ⟨_, rfl⟩⟩
  · rw [hfailure]
    refine ⟨?_, fun hall => absurd hall hfits⟩
    rintro ⟨found, hfound⟩
    cases hfound

theorem setItemFromJsonStr_returns_iff (lib : JsonLibrary D) (jsStr : ByteArray) :
    (∃ found, (M.setItemFromJsonStr lib jsStr).2 = .ok found) ↔ WellTyped lib jsStr := by
  unfold setItemFromJsonStr WellTyped
  cases hparse : lib.parse jsStr with
  | parseError what => exact ⟨fun _ => trivial, fun _ => ⟨none, rfl⟩⟩
  | outOfRange what =>
      refine ⟨?_, fun h => h.elim⟩
      rintro ⟨found, hfound⟩
      cases hfound
  | value js =>
      by_cases hstring : ∃ id, js.find? "id" = some (.string id)
      · obtain ⟨id, hid⟩ := hstring
        obtain ⟨members, rfl⟩ := Json.object_of_find hid
        cases hfind : M.find? id with
        | some item =>
            obtain ⟨hmem, rfl⟩ := mem_of_find? hfind
            refine (M.setItemFromJson_returns_iff hmem hid).trans ?_
            constructor
            · intro hfits
              refine ⟨item.id, hid, fun itemLayout hlayout hsame sub hsub => ?_⟩
              rw [layout_of_id hmem hlayout hsame] at hsub
              exact hfits sub hsub
            · rintro ⟨named, hnamed, hfits⟩ sub hsub
              rw [hid] at hnamed
              cases hnamed
              exact hfits item.layout (layout_mem hmem) rfl sub hsub
        | none =>
            -- an unknown id: nothing is set
            simp only [M.setItemFromJson_of_id hid, hfind]
            refine ⟨fun _ => ⟨id, hid, fun itemLayout hlayout hsame => ?_⟩, fun _ => ⟨none, rfl⟩⟩
            exact absurd hsame (layout_id_ne hfind hlayout)
      -- no string "id": the failure escapes, and the message is not well typed
      · obtain ⟨failure, hfailure⟩ :=
          M.setItemFromJson_of_no_id lib fun named hnamed => hstring ⟨named, hnamed⟩
        simp only [hfailure]
        constructor
        · rintro ⟨found, hfound⟩
          cases hfound
        · rintro ⟨id, hid, -⟩
          exact absurd ⟨id, hid⟩ hstring

/-- What is returned is the item that the message names. -/
theorem found_named {jsStr : ByteArray} {id : String}
    (h : (M.setItemFromJsonStr lib jsStr).2 = .ok (some id)) :
    Named lib jsStr id ∧ ∃ item, (M.setItemFromJsonStr lib jsStr).1.find? id = some item := by
  unfold setItemFromJsonStr at h ⊢
  cases hparse : lib.parse jsStr with
  | parseError what => simp [hparse] at h
  | outOfRange what => simp [hparse] at h
  | value js =>
      simp only [hparse] at h ⊢
      by_cases hstring : ∃ named, js.find? "id" = some (.string named)
      · obtain ⟨named, hnamed⟩ := hstring
        obtain ⟨members, rfl⟩ := Json.object_of_find hnamed
        rw [M.setItemFromJson_of_id hnamed] at h ⊢
        cases hfind : M.find? named with
        | none => simp [hfind] at h
        | some item =>
            simp only [hfind] at h ⊢
            obtain ⟨success, -, hsuccess⟩ := exists_of_map_eq_ok h
            have hid : named = id := by
              cases success <;> simp_all
            subst hid
            refine ⟨⟨.object members, hparse, hnamed⟩,
              (item.setFromJson lib (.object members) true).1, ?_⟩
            rw [find?_setFromJson, if_pos rfl, hfind, Option.map_some]
      · obtain ⟨failure, hfailure⟩ :=
          M.setItemFromJson_of_no_id lib fun named hnamed => hstring ⟨named, hnamed⟩
        rw [hfailure] at h
        cases h

/-- **A telemetry message** is handled exactly when it is well typed. -/
theorem handled_iff (lib : JsonLibrary D) (jsStr : ByteArray) (M : TelemetryMap D) :
    Handled lib jsStr M ↔ WellTyped lib jsStr := by
  rw [← M.setItemFromJsonStr_returns_iff]
  constructor
  · intro h
    obtain ⟨found, hfound, -⟩ := h.returns
    exact ⟨found, hfound⟩
  · rintro ⟨found, hfound⟩
    refine ⟨⟨found, hfound, ?_⟩, M.others_setItemFromJsonStr lib jsStr⟩
    rintro id rfl
    exact M.found_named hfound

/-- A zenith angle that is a string. -/
def wrongAngle : Json ℚ :=
  (Json.null.set "id" (.string "zenithAngle")).set "measured" (.string "x")

/-- A value of the wrong type throws out of `setItemFromJsonStr`. -/
theorem not_handled_wrongAngle :
    ¬ Handled (.listedValues [wrongAngle]) wrongAngle.dump.toUTF8 new := by
  intro h
  obtain ⟨found, hfound, -⟩ := h.returns
  have herror : (new.setItemFromJsonStr (.listedValues [wrongAngle])
      wrongAngle.dump.toUTF8).2.isOk = false := by
    decide +kernel
  rw [hfound] at herror
  cases herror

end TelemetryMap

end M2Cell
