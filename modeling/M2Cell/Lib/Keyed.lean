import Mathlib.Data.List.Nodup
import Mathlib.Data.List.Perm.Subperm

/-!
# Lists with keys

A map as the list of its items, each of which knows its key.  Changing the item
at a key (`modify`) leaves the items at the other keys alone, and two lists with
the same keys, all different, are equal when they agree at every key
(`eq_of_lookup`).

Two maps are the `Same` up to a relation when they have the same keys and the items
at each key are related.  For lists of one length it is enough to look up the items
of one list in the other (`same_iff_walk`).
-/

namespace M2Cell

namespace Keyed

variable {ι κ : Type*} [DecidableEq κ] (key : ι → κ)

/-- The first item with the key `k`. -/
def lookup (k : κ) (items : List ι) : Option ι := items.find? fun item => key item = k

/-- Change the item with the key `k`. -/
def modify (k : κ) (f : ι → ι) (items : List ι) : List ι :=
  items.map fun item => if key item = k then f item else item

variable {key} {k : κ} {items : List ι} {item : ι}

@[simp] theorem lookup_nil : lookup key k [] = none := rfl

theorem lookup_cons (head : ι) (rest : List ι) :
    lookup key k (head :: rest) = if key head = k then some head else lookup key k rest := by
  by_cases h : key head = k <;> simp [lookup, h]

theorem key_of_lookup (h : lookup key k items = some item) : key item = k := by
  simpa using List.find?_some h

theorem mem_of_lookup (h : lookup key k items = some item) : item ∈ items :=
  List.mem_of_find?_eq_some h

theorem lookup_eq_none_iff : lookup key k items = none ↔ ∀ item ∈ items, key item ≠ k := by
  simp [lookup]

/-- When the keys differ, an item is found under its key. -/
theorem lookup_of_mem (hnodup : (items.map key).Nodup) (hmem : item ∈ items) :
    lookup key (key item) items = some item := by
  induction items with
  | nil => cases hmem
  | cons head rest ih =>
      rw [List.map_cons, List.nodup_cons] at hnodup
      rw [lookup_cons]
      rcases List.mem_cons.mp hmem with rfl | hrest
      · rw [if_pos rfl]
      · have hne : key head ≠ key item := by
          intro heq
          exact hnodup.1 (heq ▸ List.mem_map_of_mem hrest)
        rw [if_neg hne, ih hnodup.2 hrest]

/-! ## Changing one item -/

theorem lookup_modify {f : ι → ι} (hf : ∀ item, key item = k → key (f item) = k) (other : κ) :
    lookup key other (modify key k f items) =
      if other = k then (lookup key k items).map f else lookup key other items := by
  induction items with
  | nil => simp [modify]
  | cons head rest ih =>
      have hrest : modify key k f (head :: rest) =
          (if key head = k then f head else head) :: modify key k f rest := rfl
      rw [hrest, lookup_cons, ih]
      by_cases hhead : key head = k
      · rw [if_pos hhead, hf head hhead, lookup_cons, lookup_cons, if_pos hhead, hhead]
        by_cases hother : other = k
        · simp [hother]
        · simp [hother, Ne.symm hother]
      · rw [if_neg hhead, lookup_cons, lookup_cons, if_neg hhead]
        by_cases hother : other = k
        · simp [hother, hhead]
        · simp [hother]

theorem map_modify {β : Type*} (g : ι → β) {f : ι → ι}
    (hf : ∀ item ∈ items, key item = k → g (f item) = g item) :
    (modify key k f items).map g = items.map g := by
  unfold modify
  rw [List.map_map]
  apply List.map_congr_left
  intro item hmem
  by_cases h : key item = k
  · simp [h, hf item hmem h]
  · simp [h]

/-! ## Equality -/

theorem eq_of_lookup {first second : List ι} (hkeys : first.map key = second.map key)
    (hnodup : (first.map key).Nodup) (h : ∀ k, lookup key k first = lookup key k second) :
    first = second := by
  have hlen : first.length = second.length := by
    simpa using congrArg List.length hkeys
  apply List.ext_getElem hlen
  intro i hfirst hsecond
  have hkey : key first[i] = key second[i] := by
    have hi := congrArg (fun l => l[i]?) hkeys
    simpa [hfirst, hsecond] using hi
  have hitem := lookup_of_mem hnodup (List.getElem_mem hfirst)
  have hitem' := lookup_of_mem (hkeys ▸ hnodup) (List.getElem_mem hsecond)
  rw [h, hkey, hitem'] at hitem
  exact (Option.some.inj hitem).symm

/-! ## Equality up to a relation -/

/-- The lists have the same keys, and the items at each key are related. -/
structure Same (key : ι → κ) (R : ι → ι → Prop) (first second : List ι) : Prop where
  keys : ∀ k, k ∈ first.map key ↔ k ∈ second.map key
  items : ∀ a ∈ first, ∀ b ∈ second, key a = key b → R a b

variable {R : ι → ι → Prop} {first second third : List ι}

omit [DecidableEq κ] in
theorem Same.imp {S : ι → ι → Prop} (h : Same key R first second)
    (himp : ∀ a ∈ first, ∀ b ∈ second, key a = key b → R a b → S a b) :
    Same key S first second :=
  ⟨h.keys, fun a ha b hb hkey => himp a ha b hb hkey (h.items a ha b hb hkey)⟩

omit [DecidableEq κ] in
theorem Same.symm (h : Same key R first second) (hsymm : ∀ a b, R a b → R b a) :
    Same key R second first :=
  ⟨fun k => (h.keys k).symm, fun b hb a ha hkey => hsymm a b (h.items a ha b hb hkey.symm)⟩

omit [DecidableEq κ] in
theorem Same.trans (hfirst : Same key R first second) (hsecond : Same key R second third)
    (htrans : ∀ a b c, R a b → R b c → R a c) : Same key R first third := by
  refine ⟨fun k => (hfirst.keys k).trans (hsecond.keys k), ?_⟩
  intro a ha c hc hkey
  obtain ⟨b, hb, hkeyb⟩ := List.mem_map.mp ((hfirst.keys (key a)).mp (List.mem_map_of_mem ha))
  exact htrans a b c (hfirst.items a ha b hb hkeyb.symm)
    (hsecond.items b hb c hc (hkeyb.trans hkey))

/-- Looking up the items of one list in the other is enough when the lengths agree. -/
theorem same_iff_walk (hfirst : (first.map key).Nodup) (hsecond : (second.map key).Nodup) :
    Same key R first second ↔
      first.length = second.length ∧
        ∀ a ∈ first, ∃ b, lookup key (key a) second = some b ∧ R a b := by
  constructor
  · intro h
    have hperm := (List.perm_ext_iff_of_nodup hfirst hsecond).mpr h.keys
    refine ⟨by simpa using hperm.length_eq, ?_⟩
    intro a ha
    obtain ⟨b, hb, hkey⟩ := List.mem_map.mp ((h.keys (key a)).mp (List.mem_map_of_mem ha))
    refine ⟨b, ?_, h.items a ha b hb hkey.symm⟩
    rw [← hkey]
    exact lookup_of_mem hsecond hb
  · rintro ⟨hlength, hwalk⟩
    have hsubset : first.map key ⊆ second.map key := by
      intro k hk
      obtain ⟨a, ha, rfl⟩ := List.mem_map.mp hk
      obtain ⟨b, hb, -⟩ := hwalk a ha
      rw [← key_of_lookup hb]
      exact List.mem_map_of_mem (mem_of_lookup hb)
    -- the keys differ, so none of the second list is left over
    have hperm : (first.map key).Perm (second.map key) := by
      apply (hfirst.subperm hsubset).perm_of_length_le
      simp [hlength]
    refine ⟨fun k => hperm.mem_iff, ?_⟩
    intro a ha b hb hkey
    obtain ⟨b', hb', hab⟩ := hwalk a ha
    rw [hkey, lookup_of_mem hsecond hb] at hb'
    rwa [Option.some.inj hb']

end Keyed

end M2Cell
