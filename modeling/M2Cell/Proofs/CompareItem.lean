import M2Cell.Telemetry.TelemetryMap

/-!
# Comparing telemetry items

What `compareItem` decides, for two items of any of the classes.  On single values
and on sub-items it is equality of id and value.  The comparison of composite items
looks at the class and at the sub-items only, and not at the id.  The sub-items
determine the class (`itemClass_eq_of_same`), and all classes but two have one fixed
id, so the ids can differ only for two items of `TItemPowerStatusBase` or two of
`TItemPositionBase`.

`compareTelemetryItemMaps` finds the items by their ids, so there the difference
does not show.

Equality of doubles is `==`, of which no more is used than that it is symmetric and transitive.
So sameness is defined level by level (`SameValue`, `SameSubs`, `SameItem`, `SameItems`), with
`symm` and `trans` beside each definition, and each level of the code is shown to decide its own
(`TItemValue.beq_iff`, `TItem.compareItem_iff`, `TelemetryItem.compareItem_iff`,
`compareMaps_iff`).  `Matches` is what the comparison of composite items really decides, and
`matches_iff` says what it has more than `SameItem`.
-/

namespace M2Cell

variable {D : Type} [Double D]

/-- `==` of floating-point numbers is symmetric and transitive. -/
class LawfulDouble (D : Type) [Double D] : Prop where
  beq_symm : ∀ a b : D, (a == b) = true → (b == a) = true
  beq_trans : ∀ a b c : D, (a == b) = true → (b == c) = true → (a == c) = true

instance lawfulDoubleRat : LawfulDouble ℚ where
  beq_symm a b h := by
    rw [beq_iff_eq] at h ⊢
    exact h.symm
  beq_trans a b c hab hbc := by
    rw [beq_iff_eq] at hab hbc ⊢
    exact hab.trans hbc

/-! ## Equal values -/

/-- The values are of the same type and the same; numbers are compared as numbers. -/
inductive SameValue : TItemValue D → TItemValue D → Prop
  | double {a b : D} (h : (a == b) = true) : SameValue (.double a) (.double b)
  | boolean (b : Bool) : SameValue (.boolean b) (.boolean b)
  | string (s : String) : SameValue (.string s) (.string s)
  | vectorDouble {as bs : List D} (h : List.Forall₂ (fun a b => (a == b) = true) as bs) :
      SameValue (.vectorDouble as) (.vectorDouble bs)
  | vectorInt (vals : List Int32) : SameValue (.vectorInt vals) (.vectorInt vals)

/-- The sub-items have the same keys and the same values. -/
def SameSubs (first second : List (TItem D)) : Prop :=
  Keyed.Same TItem.id (fun a b => SameValue a.value b.value) first second

/-- The items have the same id and the same values. -/
inductive SameItem : AnyItem D → AnyItem D → Prop
  | simple {a b : TItem D} (hid : a.id = b.id) (hvalue : SameValue a.value b.value) :
      SameItem (.simple a) (.simple b)
  | composite {a b : TelemetryItem D} (hid : a.id = b.id) (hsubs : SameSubs a.tiMap b.tiMap) :
      SameItem (.composite a) (.composite b)

theorem beq_list_iff (as bs : List D) :
    (as == bs) = true ↔ List.Forall₂ (fun a b => (a == b) = true) as bs := by
  induction as generalizing bs with
  | nil => cases bs <;> simp
  | cons a as ih =>
      cases bs with
      | nil => simp
      | cons b bs => rw [List.cons_beq_cons, Bool.and_eq_true, List.forall₂_cons, ih]

namespace SameValue

variable {a b c : TItemValue D}

theorem kind_eq (h : SameValue a b) : a.kind = b.kind := by
  cases h with
  | vectorDouble h => simp [TItemValue.kind, h.length_eq]
  | double | boolean | string | vectorInt => rfl

theorem symm [LawfulDouble D] (h : SameValue a b) : SameValue b a := by
  cases h with
  | double h => exact .double (LawfulDouble.beq_symm _ _ h)
  | boolean b => exact .boolean b
  | string s => exact .string s
  | vectorDouble h => exact .vectorDouble (h.flip.imp fun a b => LawfulDouble.beq_symm b a)
  | vectorInt vals => exact .vectorInt vals

theorem forall₂_trans [LawfulDouble D] {as bs cs : List D}
    (hab : List.Forall₂ (fun a b => (a == b) = true) as bs)
    (hbc : List.Forall₂ (fun a b => (a == b) = true) bs cs) :
    List.Forall₂ (fun a b => (a == b) = true) as cs := by
  induction hab generalizing cs with
  | nil =>
      cases hbc
      exact .nil
  | cons hhead _ ih =>
      cases hbc with
      | cons hhead' htail => exact .cons (LawfulDouble.beq_trans _ _ _ hhead hhead') (ih htail)

theorem trans [LawfulDouble D] (hab : SameValue a b) (hbc : SameValue b c) : SameValue a c := by
  cases hab with
  | double h =>
      cases hbc with
      | double h' => exact .double (LawfulDouble.beq_trans _ _ _ h h')
  | vectorDouble h =>
      cases hbc with
      | vectorDouble h' => exact .vectorDouble (forall₂_trans h h')
  | boolean | string | vectorInt => exact hbc

end SameValue

/-! ## What the comparisons decide -/

theorem TItemValue.beq_iff (a b : TItemValue D) : a.beq b = true ↔ SameValue a b := by
  constructor
  · intro h
    cases a <;> cases b <;> try cases h
    all_goals simp only [beq, beq_iff_eq, Bool.and_eq_true] at h
    · exact .double h
    · exact h ▸ .boolean _
    · exact h ▸ .string _
    · exact .vectorDouble ((beq_list_iff _ _).mp h.2)
    · exact h.2 ▸ .vectorInt _
  · rintro (h | _ | _ | h | _)
    · exact h
    · simp [beq]
    · simp [beq]
    · simp [beq, h.length_eq, (beq_list_iff _ _).mpr h]
    · simp [beq]

theorem TItem.compareItem_iff (a b : TItem D) :
    a.compareItem b = true ↔ a.id = b.id ∧ SameValue a.value b.value := by
  rw [compareItem, Bool.and_eq_true, beq_iff_eq, TItemValue.beq_iff]

/-- The walk over one map finds out whether two maps with different keys are the same. -/
theorem compareTelemetryItemMaps_iff {ι : Type} {getId : ι → String} {compareItem : ι → ι → Bool}
    {mapA mapB : List ι} (hA : (mapA.map getId).Nodup) (hB : (mapB.map getId).Nodup) :
    TelemetryItem.compareTelemetryItemMaps getId compareItem mapA mapB = true ↔
      Keyed.Same getId (fun a b => compareItem a b = true) mapA mapB := by
  rw [Keyed.same_iff_walk hA hB, TelemetryItem.compareTelemetryItemMaps, Bool.and_eq_true,
    beq_iff_eq, List.all_eq_true]
  apply and_congr_right
  intro _
  apply forall₂_congr
  intro a _
  cases hlookup : Keyed.lookup getId (getId a) mapB <;> simp

/-! ## Composite items -/

/-- The composite items of the source: those of the map, and the two base classes,
whose constructors take any id. -/
def IsConcrete (itemLayout : TItemLayout) : Prop :=
  itemLayout ∈ TelemetryMap.layout ∨ (∃ id, itemLayout = tItemPowerStatusBase id) ∨
    ∃ id, itemLayout = tItemPositionBase id

/-- The classes that can have several ids. -/
def IsBase (itemClass : TItemClass) : Prop :=
  itemClass = .powerStatusBase ∨ itemClass = .positionBase

/-- Up to the id, a composite item is one of the map. -/
theorem exists_layout {itemLayout : TItemLayout} (h : IsConcrete itemLayout) :
    ∃ known ∈ TelemetryMap.layout, itemLayout.items = known.items ∧
      itemLayout.itemClass = known.itemClass ∧
      (itemLayout.id = known.id ∨ IsBase itemLayout.itemClass) := by
  rcases h with h | ⟨id, rfl⟩ | ⟨id, rfl⟩
  · exact ⟨itemLayout, h, rfl, rfl, Or.inl rfl⟩
  · exact ⟨tItemPowerStatus, by decide +kernel, rfl, rfl, Or.inr (Or.inl rfl)⟩
  · exact ⟨tItemPosition, by decide +kernel, rfl, rfl, Or.inr (Or.inr rfl)⟩

/-- The sub-items with their types determine the class. -/
theorem itemClass_layout : ∀ first ∈ TelemetryMap.layout, ∀ second ∈ TelemetryMap.layout,
    first.items ⊆ second.items → second.items ⊆ first.items →
      first.itemClass = second.itemClass := by
  decide +kernel

/-- A class with one id in the map has only this one. -/
theorem id_layout : ∀ first ∈ TelemetryMap.layout, ∀ second ∈ TelemetryMap.layout,
    first.itemClass = second.itemClass → first.id = second.id ∨
      first.itemClass = .powerStatusBase ∨ first.itemClass = .positionBase := by
  decide +kernel

/-- An item of one of the classes. -/
structure ConcreteItem (D : Type) where
  item : AnyItem D
  concrete : ∀ composite, item = .composite composite → IsConcrete composite.layout

namespace ConcreteItem

omit [Double D] in
/-- `getId`. -/
def getId (a : ConcreteItem D) : String := a.item.getId

/-- `compareItem`. -/
def compareItem (a b : ConcreteItem D) : Bool := a.item.compareItem b.item

end ConcreteItem

/-- A map of items, in which each item stands at its id. -/
structure ItemMap (D : Type) where
  items : List (ConcreteItem D)
  nodup : (items.map ConcreteItem.getId).Nodup

section composite

variable {a b c : TelemetryItem D}

omit [Double D] in
theorem tiMap_nodup (h : IsConcrete a.layout) : (a.tiMap.map TItem.id).Nodup := by
  obtain ⟨known, hknown, hitems, -⟩ := exists_layout h
  have hnodup := (TelemetryMap.subs_layout known hknown).1
  rwa [← hitems, TelemetryItem.layout, List.map_map] at hnodup

/-- With the same sub-items, the types of the sub-items are the same. -/
theorem items_subset (h : SameSubs a.tiMap b.tiMap) : a.layout.items ⊆ b.layout.items := by
  intro sub hsub
  obtain ⟨x, hx, rfl⟩ := List.mem_map.mp hsub
  obtain ⟨y, hy, hid⟩ := List.mem_map.mp ((h.keys x.id).mp (List.mem_map_of_mem hx))
  have hkind := (h.items x hx y hy hid.symm).kind_eq
  have hlayout : x.layout = y.layout := by
    rw [TItem.layout, TItem.layout, hid, hkind]
  rw [hlayout]
  exact List.mem_map_of_mem hy

theorem SameSubs.symm [LawfulDouble D] {first second : List (TItem D)}
    (h : SameSubs first second) : SameSubs second first :=
  Keyed.Same.symm h fun _ _ hvalue => hvalue.symm

theorem SameSubs.trans [LawfulDouble D] {first second third : List (TItem D)}
    (hfirst : SameSubs first second) (hsecond : SameSubs second third) :
    SameSubs first third :=
  Keyed.Same.trans hfirst hsecond fun _ _ _ hab hbc => hab.trans hbc

theorem itemClass_eq_of_same [LawfulDouble D] (ha : IsConcrete a.layout)
    (hb : IsConcrete b.layout) (h : SameSubs a.tiMap b.tiMap) : a.itemClass = b.itemClass := by
  obtain ⟨first, hfirst, hitems, hclass, -⟩ := exists_layout ha
  obtain ⟨second, hsecond, hitems', hclass', -⟩ := exists_layout hb
  have hab := items_subset h
  have hba := items_subset h.symm
  rw [hitems, hitems'] at hab hba
  exact hclass.trans ((itemClass_layout first hfirst second hsecond hab hba).trans hclass'.symm)

omit [Double D] in
/-- Two ids of one class. -/
theorem isBase_of_id_ne (ha : IsConcrete a.layout) (hb : IsConcrete b.layout)
    (hclass : a.itemClass = b.itemClass) (hid : a.id ≠ b.id) : IsBase a.itemClass := by
  obtain ⟨first, hfirst, -, hclassA, hidA⟩ := exists_layout ha
  obtain ⟨second, hsecond, -, hclassB, hidB⟩ := exists_layout hb
  -- each has the id of its class in the map, or is of one of the two base classes
  rcases hidA with hidA | hbase
  · rcases hidB with hidB | hbase
    · have hsame : first.itemClass = second.itemClass :=
        hclassA.symm.trans (hclass.trans hclassB)
      rcases id_layout first hfirst second hsecond hsame with heq | hbase
      · exact absurd (hidA.trans (heq.trans hidB.symm)) hid
      · rwa [← hclassA] at hbase
    · change IsBase b.itemClass at hbase
      rwa [hclass]
  · exact hbase

/-- Composite items are compared by their sub-items. -/
theorem TelemetryItem.compareItem_iff [LawfulDouble D] (ha : IsConcrete a.layout)
    (hb : IsConcrete b.layout) : a.compareItem b = true ↔ SameSubs a.tiMap b.tiMap := by
  have hsubs : compareTelemetryItemMaps TItem.id TItem.compareItem a.tiMap b.tiMap = true ↔
      SameSubs a.tiMap b.tiMap := by
    rw [compareTelemetryItemMaps_iff (tiMap_nodup ha) (tiMap_nodup hb)]
    constructor
    · intro h
      exact h.imp fun x _ y _ _ hxy => ((x.compareItem_iff y).mp hxy).2
    · intro h
      exact h.imp fun x _ y _ hid hxy => (x.compareItem_iff y).mpr ⟨hid, hxy⟩
  rw [compareItem, Bool.and_eq_true, beq_iff_eq, hsubs]
  constructor
  · intro h
    exact h.2
  · intro h
    exact ⟨itemClass_eq_of_same ha hb h, h⟩

end composite

/-! ## Items of any class -/

namespace ConcreteItem

variable {a b c : ConcreteItem D}

/-- The ids differ and nothing else does: two items of `TItemPowerStatusBase`, or two
of `TItemPositionBase`. -/
def DifferOnlyById (a b : ConcreteItem D) : Prop :=
  ∃ x y, a.item = .composite x ∧ b.item = .composite y ∧ x.id ≠ y.id ∧
    IsBase x.itemClass ∧ x.itemClass = y.itemClass ∧ SameSubs x.tiMap y.tiMap

/-- The ids of composite items are left out. -/
inductive Matches : AnyItem D → AnyItem D → Prop
  | simple {a b : TItem D} (hid : a.id = b.id) (hvalue : SameValue a.value b.value) :
      Matches (.simple a) (.simple b)
  | composite {a b : TelemetryItem D} (hsubs : SameSubs a.tiMap b.tiMap) :
      Matches (.composite a) (.composite b)

theorem Matches.symm [LawfulDouble D] {a b : AnyItem D} (h : Matches a b) : Matches b a := by
  cases h with
  | simple hid hvalue => exact .simple hid.symm hvalue.symm
  | composite hsubs => exact .composite hsubs.symm

theorem Matches.trans [LawfulDouble D] {a b c : AnyItem D} (hab : Matches a b)
    (hbc : Matches b c) : Matches a c := by
  cases hab with
  | simple hid hvalue =>
      cases hbc with
      | simple hid' hvalue' => exact .simple (hid.trans hid') (hvalue.trans hvalue')
  | composite hsubs =>
      cases hbc with
      | composite hsubs' => exact .composite (hsubs.trans hsubs')

theorem compareItem_iff [LawfulDouble D] (a b : ConcreteItem D) :
    a.compareItem b = true ↔ Matches a.item b.item := by
  obtain ⟨itemA, hA⟩ := a
  obtain ⟨itemB, hB⟩ := b
  constructor
  · intro h
    cases itemA with
    | simple x =>
        cases itemB with
        | simple y =>
            obtain ⟨hid, hvalue⟩ := (x.compareItem_iff y).mp h
            exact .simple hid hvalue
        | composite y => cases h
    | composite x =>
        cases itemB with
        | simple y => cases h
        | composite y =>
            exact .composite ((TelemetryItem.compareItem_iff (hA x rfl) (hB y rfl)).mp h)
  · intro h
    cases h with
    | simple hid hvalue => exact (TItem.compareItem_iff _ _).mpr ⟨hid, hvalue⟩
    | composite hsubs =>
        exact (TelemetryItem.compareItem_iff (hA _ rfl) (hB _ rfl)).mpr hsubs

/-- Items that match are the same, or differ by their ids. -/
theorem matches_iff [LawfulDouble D] (a b : ConcreteItem D) :
    Matches a.item b.item ↔ SameItem a.item b.item ∨ a.DifferOnlyById b := by
  obtain ⟨itemA, hA⟩ := a
  obtain ⟨itemB, hB⟩ := b
  constructor
  · intro h
    cases h with
    | simple hid hvalue => exact Or.inl (.simple hid hvalue)
    | @composite x y hsubs =>
        by_cases hid : x.id = y.id
        · exact Or.inl (.composite hid hsubs)
        · have hclass := itemClass_eq_of_same (hA x rfl) (hB y rfl) hsubs
          have hbase := isBase_of_id_ne (hA x rfl) (hB y rfl) hclass hid
          exact Or.inr ⟨x, y, rfl, rfl, hid, hbase, hclass, hsubs⟩
  · rintro (h | ⟨x, y, hx, hy, -, -, -, hsubs⟩)
    · cases h with
      | simple hid hvalue => exact .simple hid hvalue
      | composite _ hsubs => exact .composite hsubs
    · cases hx
      cases hy
      exact .composite hsubs

theorem not_sameItem_of_differ (h : a.DifferOnlyById b) : ¬ SameItem a.item b.item := by
  obtain ⟨x, y, hx, hy, hid, -⟩ := h
  rw [hx, hy]
  intro hsame
  cases hsame with
  | composite hid' _ => exact hid hid'

/-- Items with one id match when they are the same. -/
theorem sameItem_iff_of_getId [LawfulDouble D] (hid : a.getId = b.getId) :
    SameItem a.item b.item ↔ a.compareItem b = true := by
  rw [compareItem_iff, matches_iff]
  constructor
  · exact Or.inl
  · rintro (h | ⟨x, y, hx, hy, hne, -⟩)
    · exact h
    · rw [getId, getId, hx, hy] at hid
      exact absurd hid hne

end ConcreteItem

/-- Two maps have the same ids, and the items at each id are the same. -/
def SameItems (mapA mapB : ItemMap D) : Prop :=
  Keyed.Same ConcreteItem.getId (fun a b => SameItem a.item b.item) mapA.items mapB.items

theorem compareMaps_iff [LawfulDouble D] (mapA mapB : ItemMap D) :
    TelemetryItem.compareTelemetryItemMaps ConcreteItem.getId ConcreteItem.compareItem mapA.items
        mapB.items = true ↔ SameItems mapA mapB := by
  rw [compareTelemetryItemMaps_iff mapA.nodup mapB.nodup]
  constructor
  · intro h
    exact h.imp fun a _ b _ hid => (ConcreteItem.sameItem_iff_of_getId hid).mpr
  · intro h
    exact h.imp fun a _ b _ hid => (ConcreteItem.sameItem_iff_of_getId hid).mp

namespace ConcreteItem

/-- **`compareItem` decides equality** exactly when the items do not differ by the id only;
it is symmetric and transitive, and it decides equality of maps. -/
theorem decidesEquality_iff [LawfulDouble D] (a b c : ConcreteItem D) (mapA mapB : ItemMap D) :
    ((a.compareItem b = true ↔ SameItem a.item b.item) ↔ ¬ a.DifferOnlyById b) ∧
      (a.compareItem b = true → b.compareItem a = true) ∧
      (a.compareItem b = true → b.compareItem c = true → a.compareItem c = true) ∧
      (TelemetryItem.compareTelemetryItemMaps getId compareItem mapA.items mapB.items = true ↔
        SameItems mapA mapB) := by
  refine ⟨?_, ?_, ?_, compareMaps_iff mapA mapB⟩
  · rw [compareItem_iff, matches_iff]
    constructor
    · intro h hdiffer
      exact not_sameItem_of_differ hdiffer (h.mp (Or.inr hdiffer))
    · intro hdiffer
      exact or_iff_left hdiffer
  · simp only [compareItem_iff]
    exact Matches.symm
  · simp only [compareItem_iff]
    exact Matches.trans

end ConcreteItem

/-- An item as its constructor makes it. -/
def TItemLayout.fresh (itemLayout : TItemLayout) : TelemetryItem ℚ :=
  ⟨itemLayout.id, itemLayout.itemClass,
    itemLayout.items.map fun sub => ⟨sub.1, .default sub.2⟩⟩

theorem TItemLayout.layout_fresh (itemLayout : TItemLayout) :
    itemLayout.fresh.layout = itemLayout := by
  simp [fresh, TelemetryItem.layout, TItem.layout, Function.comp_def]

/-- A fresh item of a class. -/
def ConcreteItem.fresh (itemLayout : TItemLayout) (h : IsConcrete itemLayout) : ConcreteItem ℚ where
  item := .composite itemLayout.fresh
  concrete := by
    intro composite heq
    cases heq
    rwa [itemLayout.layout_fresh]

/-- The two power items of a fresh map. -/
def freshPowerStatus : ConcreteItem ℚ :=
  .fresh tItemPowerStatus (Or.inr (Or.inl ⟨"powerStatus", rfl⟩))

def freshPowerStatusRaw : ConcreteItem ℚ :=
  .fresh tItemPowerStatusRaw (Or.inr (Or.inl ⟨"powerStatusRaw", rfl⟩))

namespace ConcreteItem

theorem decidesEquality_iff_fresh :
    ((freshPowerStatus.compareItem freshPowerStatusRaw = true ↔
          SameItem freshPowerStatus.item freshPowerStatusRaw.item) ↔
        ¬ freshPowerStatus.DifferOnlyById freshPowerStatusRaw) ∧
      (freshPowerStatus.compareItem freshPowerStatusRaw = true →
        freshPowerStatusRaw.compareItem freshPowerStatus = true) ∧
      (freshPowerStatus.compareItem freshPowerStatusRaw = true →
        freshPowerStatusRaw.compareItem freshPowerStatus = true →
          freshPowerStatus.compareItem freshPowerStatus = true) ∧
      (TelemetryItem.compareTelemetryItemMaps getId compareItem [freshPowerStatus]
          [freshPowerStatusRaw] = true ↔
        SameItems ⟨[freshPowerStatus], by simp⟩ ⟨[freshPowerStatusRaw], by simp⟩) :=
  decidesEquality_iff freshPowerStatus freshPowerStatusRaw freshPowerStatus
    ⟨[freshPowerStatus], by simp⟩ ⟨[freshPowerStatusRaw], by simp⟩

/-- "powerStatus" and "powerStatusRaw" of a fresh map are equal for `compareItem`. -/
theorem not_decidesEquality_powerStatus :
    freshPowerStatus.compareItem freshPowerStatusRaw = true ∧
      freshPowerStatus.getId ≠ freshPowerStatusRaw.getId ∧
      ¬ (freshPowerStatus.compareItem freshPowerStatusRaw = true ↔
        SameItem freshPowerStatus.item freshPowerStatusRaw.item) := by
  have hequal : freshPowerStatus.compareItem freshPowerStatusRaw = true := by
    decide +kernel
  have hid : freshPowerStatus.getId ≠ freshPowerStatusRaw.getId := by
    decide +kernel
  refine ⟨hequal, hid, ?_⟩
  intro h
  have hsame : SameItem freshPowerStatus.item freshPowerStatusRaw.item := h.mp hequal
  cases hsame with
  | composite hid' _ => exact hid hid'

end ConcreteItem

end M2Cell
