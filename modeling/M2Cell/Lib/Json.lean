import Mathlib.Data.List.Basic
import Mathlib.Data.Int.Basic
import Mathlib.Data.Rat.Floor
import M2Cell.Lib.Keyed

/-!
# JSON values

Values, accessors and exceptions of a JSON library.  The type `D` of
floating-point numbers is a variable.  An object is the list of its members in
increasing order of their keys, which `set` and `mergePatch` maintain.

Accessors fail the way the library documents it: `at` throws `out_of_range` on a
missing key and `type_error` on a value that is no object, a conversion throws
`type_error`, and `operator[]` on a constant object is undefined when the key is
missing.  Parsing, writing and the numeric conversions belong to the library and
are the fields of `JsonLibrary`.
-/

namespace M2Cell

/-- What is used of floating-point numbers: their `==`, which is reflexive on finite
numbers, and 0. -/
class Double (D : Type) extends BEq D, Zero D where
  isFinite : D → Bool
  beq_self : ∀ d : D, isFinite d = true → (d == d) = true

instance : Double ℚ where
  isFinite _ := true
  beq_self d _ := beq_self_eq_true d

/-- A JSON value. -/
inductive Json (D : Type)
  | null
  | boolean (b : Bool)
  | integer (n : ℤ)
  | float (d : D)
  | string (s : String)
  | array (items : List (Json D))
  | object (members : List (String × Json D))

/-- The classes of exceptions that the library throws. -/
inductive JsonErrorKind
  | parseError
  | typeError
  | outOfRange
  deriving DecidableEq, Repr

/-- `json::exception`. -/
structure JsonError where
  kind : JsonErrorKind
  what : String
  deriving DecidableEq, Repr

/-- What may go wrong in an access: an exception, or undefined behaviour. -/
inductive JsonFailure
  | exception (error : JsonError)
  | undefined
  deriving DecidableEq, Repr

/-- What `parse` does with a text. -/
inductive ParseResult (D : Type)
  | value (js : Json D)
  /-- The text is no JSON. -/
  | parseError (what : String)
  /-- A number of the text overflows a `double`. -/
  | outOfRange (what : String)

/-- The text has a number that overflows. -/
def ParseResult.isOutOfRange {D : Type} : ParseResult D → Bool
  | outOfRange _ => true
  | _ => false

instance neZeroUInt64 : NeZero (2 ^ 64) := ⟨by decide⟩

/-- What a program uses of the library besides values and accessors. -/
structure JsonLibrary (D : Type) where
  parse : ByteArray → ParseResult D
  dump : Json D → String
  /-- The conversion to `double`; `none` is a `type_error`. -/
  toDouble : Json D → Option D
  /-- The conversion to `int`. -/
  toInt : Json D → Option Int32
  /-- The conversion to `uint64_t`. -/
  toUInt64 : Json D → Option (Fin (2 ^ 64))

namespace JsonLibrary

variable {D : Type} (lib : JsonLibrary D)

/-- Writing `js` and parsing the text gives `js` back. -/
def RoundTrips (js : Json D) : Prop := lib.parse (lib.dump js).toUTF8 = .value js

/-- The documented conversions of numbers that are of the wanted type already. -/
structure Lawful : Prop where
  toDouble_float : ∀ d, lib.toDouble (.float d) = some d
  toInt_integer : ∀ n : Int32, lib.toInt (.integer n.toInt) = some n
  toUInt64_integer : ∀ n : Fin (2 ^ 64), lib.toUInt64 (.integer n.val) = some n

/-- The documented conversion to `uint64_t`: it casts any number, and throws on
strings, null, arrays and objects. -/
structure CastsNumbers : Prop where
  integer : ∀ n : ℤ, lib.toUInt64 (.integer n) = some (Fin.ofNat (2 ^ 64) (n % 2 ^ 64).toNat)
  float : ∀ d, ∃ n, lib.toUInt64 (.float d) = some n
  string : ∀ s, lib.toUInt64 (.string s) = none
  null : lib.toUInt64 .null = none
  array : ∀ items, lib.toUInt64 (.array items) = none
  object : ∀ members, lib.toUInt64 (.object members) = none

end JsonLibrary

namespace Json

variable {D : Type}

/-- `type_name`. -/
def typeName : Json D → String
  | null => "null"
  | boolean _ => "boolean"
  | integer _ => "number"
  | float _ => "number"
  | string _ => "string"
  | array _ => "array"
  | object _ => "object"

/-- The members of an object. -/
def members : Json D → List (String × Json D)
  | object members => members
  | _ => []

/-- The value at a key. -/
def find? (js : Json D) (key : String) : Option (Json D) := js.members.lookup key

/-! ## Access -/

/-- The `out_of_range` of a missing key. -/
def missingKey (key : String) : JsonError :=
  ⟨.outOfRange, "[json.exception.out_of_range.403] key '" ++ key ++ "' not found"⟩

/-- `at` with a key. -/
def atKey (js : Json D) (key : String) : Except JsonError (Json D) :=
  match js with
  | object members =>
      match members.lookup key with
      | some value => .ok value
      | none => .error (missingKey key)
  | _ => .error ⟨.typeError, "[json.exception.type_error.304] cannot use at() with " ++ js.typeName⟩

/-- `operator[]` of a constant value with a key. -/
def subscript (js : Json D) (key : String) : Except JsonFailure (Json D) :=
  match js with
  | object members =>
      match members.lookup key with
      | some value => .ok value
      | none => .error .undefined
  | _ =>
      .error (.exception ⟨.typeError,
        "[json.exception.type_error.305] cannot use operator[] with a string argument with "
          ++ js.typeName⟩)

/-- The `type_error` of a conversion. -/
def wrongType (expected : String) (js : Json D) : JsonError :=
  ⟨.typeError, "[json.exception.type_error.302] type must be " ++ expected ++ ", but is " ++
    js.typeName⟩

/-- A conversion that throws a `type_error` when it is not defined. -/
def convert {α : Type} (expected : String) (conversion : Json D → Option α) (js : Json D) :
    Except JsonError α :=
  match conversion js with
  | some value => .ok value
  | none => .error (wrongType expected js)

/-- The conversion to a string. -/
def toString? : Json D → Option String
  | string s => some s
  | _ => none

/-- The conversion to a `bool`. -/
def toBool? : Json D → Option Bool
  | boolean b => some b
  | _ => none

/-- The conversion to a vector, by the conversion of its items. -/
def toVector? {α : Type} (item : Json D → Option α) : Json D → Option (List α)
  | array items => items.mapM item
  | _ => none

/-- `T val = js.at(key)`: the member at the key, converted. -/
def fetch {α : Type} (js : Json D) (key expected : String) (conversion : Json D → Option α) :
    Except JsonError α := do
  let value ← js.atKey key
  value.convert expected conversion

/-- The member at the key, when it is there and converts. -/
def fetch? {α : Type} (js : Json D) (key : String) (conversion : Json D → Option α) : Option α :=
  (js.find? key).bind conversion

/-! ## Construction -/

/-- Put a member into a list that is ordered by keys. -/
def insertMember (key : String) (value : Json D) :
    List (String × Json D) → List (String × Json D)
  | [] => [(key, value)]
  | member :: rest =>
      if key < member.1 then (key, value) :: member :: rest
      else if key = member.1 then (key, value) :: rest
      else member :: insertMember key value rest

/-- `js[key] = value` for an object; a null value becomes an object. -/
def set (js : Json D) (key : String) (value : Json D) : Json D :=
  object (insertMember key value js.members)

mutual

/-- `merge_patch`. -/
def mergePatch (js : Json D) : Json D → Json D
  | object patch => object (mergeMembers js.members patch)
  | patch => patch

/-- The members after the merge of those of a patch. -/
def mergeMembers (members : List (String × Json D)) :
    List (String × Json D) → List (String × Json D)
  | [] => members
  | (key, null) :: rest => mergeMembers (members.filter fun member => member.1 ≠ key) rest
  | (key, value) :: rest =>
      mergeMembers
        (insertMember key (mergePatch ((members.lookup key).getD null) value) members) rest

end

/-! ## Lookups -/

@[simp] theorem find?_object (members : List (String × Json D)) (key : String) :
    (object members).find? key = members.lookup key := rfl

theorem toString?_eq_some {js : Json D} {s : String} (h : js.toString? = some s) :
    js = .string s := by
  cases js with
  | string s' => rw [Option.some.inj h]
  | null | boolean | integer | float | array | object => cases h

/-- A value with a member is an object. -/
theorem object_of_find {js value : Json D} {key : String} (h : js.find? key = some value) :
    ∃ members, js = .object members := by
  cases js with
  | object members => exact ⟨members, rfl⟩
  | null | boolean | integer | float | string | array => cases h

/-- `at` answers with the member, or throws. -/
theorem atKey_cases (js : Json D) (key : String) :
    (∃ value, js.find? key = some value ∧ js.atKey key = .ok value) ∨
      (js.find? key = none ∧ ∃ error, js.atKey key = .error error) := by
  cases js with
  | object members =>
      cases hlookup : members.lookup key with
      | some value => exact Or.inl ⟨value, hlookup, by simp [atKey, hlookup]⟩
      | none => exact Or.inr ⟨hlookup, _, by simp [atKey, hlookup]; rfl⟩
  | null | boolean | integer | float | string | array => exact Or.inr ⟨rfl, _, rfl⟩

/-- **A fetch** succeeds when the member is there and converts, and throws otherwise. -/
theorem fetch_cases {α : Type} (js : Json D) (key expected : String)
    (conversion : Json D → Option α) :
    (∃ value, js.fetch? key conversion = some value ∧
        js.fetch key expected conversion = .ok value) ∨
      (js.fetch? key conversion = none ∧
        ∃ error, js.fetch key expected conversion = .error error) := by
  rcases js.atKey_cases key with ⟨member, hfind, hat⟩ | ⟨hfind, error, hat⟩
  · cases hconv : conversion member with
    | some value =>
        refine Or.inl ⟨value, by rw [fetch?, hfind, Option.bind_some, hconv], ?_⟩
        simp only [fetch, hat, convert, hconv, bind, Except.bind]
    | none =>
        refine Or.inr ⟨by rw [fetch?, hfind, Option.bind_some, hconv], wrongType expected member, ?_⟩
        simp only [fetch, hat, convert, hconv, bind, Except.bind]
  · refine Or.inr ⟨by rw [fetch?, hfind, Option.bind_none], error, ?_⟩
    simp only [fetch, hat, bind, Except.bind]

theorem fetch_eq_ok {α : Type} {js : Json D} {key : String} {conversion : Json D → Option α}
    {value : α} (expected : String) (h : js.fetch? key conversion = some value) :
    js.fetch key expected conversion = .ok value := by
  rcases js.fetch_cases key expected conversion with ⟨value', hsome, hok⟩ | ⟨hnone, -⟩
  · rw [hok, Option.some.inj (hsome.symm.trans h)]
  · rw [hnone] at h
    cases h

theorem fetch_eq_error {α : Type} {js : Json D} {key : String} {conversion : Json D → Option α}
    (expected : String) (h : js.fetch? key conversion = none) :
    ∃ error, js.fetch key expected conversion = .error error := by
  rcases js.fetch_cases key expected conversion with ⟨value', hsome, -⟩ | ⟨-, herror⟩
  · rw [hsome] at h
    cases h
  · exact herror

/-- In an object, a missing member is `out_of_range` and a wrong one a `type_error`. -/
theorem fetch_object_cases {α : Type} (members : List (String × Json D)) (key expected : String)
    (conversion : Json D → Option α) :
    (∃ member value, (object members).find? key = some member ∧ conversion member = some value ∧
        (object members).fetch key expected conversion = .ok value) ∨
      (∃ member ex, (object members).find? key = some member ∧ conversion member = none ∧
        ex.kind = .typeError ∧ (object members).fetch key expected conversion = .error ex) ∨
      (∃ ex, (object members).find? key = none ∧ ex.kind = .outOfRange ∧
        (object members).fetch key expected conversion = .error ex) := by
  cases hlookup : members.lookup key with
  | none =>
      exact Or.inr (Or.inr ⟨missingKey key, hlookup, rfl, by
        simp only [fetch, atKey, hlookup, bind, Except.bind]⟩)
  | some member =>
      cases hconv : conversion member with
      | none =>
          exact Or.inr (Or.inl ⟨member, wrongType expected member, hlookup, hconv, rfl, by
            simp only [fetch, atKey, hlookup, convert, hconv, bind, Except.bind]⟩)
      | some value =>
          exact Or.inl ⟨member, value, hlookup, hconv, by
            simp only [fetch, atKey, hlookup, convert, hconv, bind, Except.bind]⟩

theorem lookup_cons_eq {β : Type} (member : String × β) (rest : List (String × β))
    (key : String) :
    (member :: rest).lookup key = if key = member.1 then some member.2 else rest.lookup key := by
  by_cases h : key = member.1
  · rw [if_pos h, h, List.lookup_cons_self]
  · rw [if_neg h, List.lookup_cons, beq_false_of_ne h]

/-- Putting a member in changes the value at its key only. -/
theorem lookup_insertMember (key other : String) (value : Json D)
    (members : List (String × Json D)) :
    (insertMember key value members).lookup other =
      if other = key then some value else members.lookup other := by
  induction members with
  | nil => exact lookup_cons_eq _ _ _
  | cons member rest ih =>
      by_cases hlt : key < member.1
      · rw [insertMember, if_pos hlt, lookup_cons_eq]
      · by_cases hkey : key = member.1
        · -- the old member of this key is dropped
          rw [insertMember, if_neg hlt, if_pos hkey, lookup_cons_eq, lookup_cons_eq member, ← hkey]
          split_ifs <;> rfl
        · rw [insertMember, if_neg hlt, if_neg hkey, lookup_cons_eq, ih, lookup_cons_eq member]
          by_cases hother : other = member.1
          · rw [if_pos hother, if_pos hother, if_neg fun h => hkey (h.symm.trans hother)]
          · rw [if_neg hother, if_neg hother]

theorem find?_set (js : Json D) (key other : String) (value : Json D) :
    (js.set key value).find? other = if other = key then some value else js.find? other :=
  lookup_insertMember key other value js.members

/-- A patch with one member that is neither null nor an object sets it. -/
theorem mergePatch_single (js : Json D) (key : String) {value : Json D} (hnull : value ≠ .null)
    (hpatch : ∀ target : Json D, target.mergePatch value = value) :
    js.mergePatch (.object [(key, value)]) = js.set key value := by
  rw [mergePatch, set]
  cases value with
  | null => exact absurd rfl hnull
  | boolean | integer | float | string | array | object =>
      simp only [mergeMembers, hpatch]

/-! ## Building objects -/

/-- Set several members one after the other. -/
def setAll (js : Json D) (members : List (String × Json D)) : Json D :=
  members.foldl (fun js member => js.set member.1 member.2) js

@[simp] theorem setAll_nil (js : Json D) : js.setAll [] = js := rfl

@[simp] theorem setAll_cons (js : Json D) (member : String × Json D)
    (rest : List (String × Json D)) :
    js.setAll (member :: rest) = (js.set member.1 member.2).setAll rest := rfl

theorem find?_setAll_of_notMem (js : Json D) {members : List (String × Json D)} {key : String}
    (hkey : key ∉ members.map Prod.fst) : (js.setAll members).find? key = js.find? key := by
  induction members generalizing js with
  | nil => rfl
  | cons member rest ih =>
      rw [List.map_cons, List.mem_cons, not_or] at hkey
      rw [setAll_cons, ih _ hkey.2, find?_set, if_neg hkey.1]

/-- Members with different keys do not overwrite each other. -/
theorem find?_setAll_of_mem (js : Json D) {members : List (String × Json D)}
    (hnodup : (members.map Prod.fst).Nodup) {member : String × Json D} (hmem : member ∈ members) :
    (js.setAll members).find? member.1 = some member.2 := by
  induction members generalizing js with
  | nil => cases hmem
  | cons head rest ih =>
      rw [List.map_cons, List.nodup_cons] at hnodup
      rw [setAll_cons]
      rcases List.mem_cons.mp hmem with rfl | hrest
      · rw [find?_setAll_of_notMem _ hnodup.1, find?_set, if_pos rfl]
      · exact ih _ hnodup.2 hrest

/-- A vector is read back from an array when its items are. -/
theorem toVector?_map {α : Type} {item : Json D → Option α} {encode : α → Json D}
    (h : ∀ a, item (encode a) = some a) (vals : List α) :
    (array (vals.map encode)).toVector? item = some vals := by
  unfold toVector?
  induction vals with
  | nil => rfl
  | cons val rest ih => simp [h, ih]

/-! ## Writing values with rational numbers -/

/-- The text of a string. -/
def dumpString (s : String) : String :=
  "\"" ++ String.join (s.toList.map fun c =>
    if c = '"' ∨ c = '\\' then "\\" ++ c.toString else c.toString) ++ "\""

/-- The first digits behind the point of a number between 0 and 1. -/
def dumpDigits : ℕ → ℚ → String
  | 0, _ => ""
  | fuel + 1, q =>
      let shifted := 10 * q
      toString ⌊shifted⌋ ++
        if shifted = ⌊shifted⌋ then "" else dumpDigits fuel (shifted - ⌊shifted⌋)

/-- The text of a floating-point number, with at most 17 digits behind the point. -/
def dumpFloat (q : ℚ) : String :=
  let size := if q < 0 then -q else q
  (if q < 0 then "-" else "") ++ toString ⌊size⌋ ++ "." ++ dumpDigits 17 (size - ⌊size⌋)

mutual

/-- `dump`. -/
def dump : Json ℚ → String
  | null => "null"
  | boolean b => if b then "true" else "false"
  | integer n => toString n
  | float q => dumpFloat q
  | string s => dumpString s
  | array items => "[" ++ dumpItems items ++ "]"
  | object members => "\x7b" ++ dumpMembers members ++ "\x7d"

/-- The items of an array. -/
def dumpItems : List (Json ℚ) → String
  | [] => ""
  | [item] => dump item
  | item :: rest => dump item ++ "," ++ dumpItems rest

/-- The members of an object. -/
def dumpMembers : List (String × Json ℚ) → String
  | [] => ""
  | [(key, value)] => dumpString key ++ ":" ++ dump value
  | (key, value) :: rest => dumpString key ++ ":" ++ dump value ++ "," ++ dumpMembers rest

end

end Json

namespace JsonLibrary

/-- The library over rational numbers, with a parser that knows the listed texts. -/
def listed (texts : List (ByteArray × ParseResult ℚ)) : JsonLibrary ℚ where
  parse text :=
    match texts.find? fun known => known.1.data = text.data with
    | some known => known.2
    | none => .parseError "[json.exception.parse_error.101] parse error"
  dump := Json.dump
  toDouble
    | .integer n => some n
    | .float q => some q
    | _ => none
  toInt
    | .integer n => some (Int32.ofInt n)
    | .float q => some (Int32.ofInt (q.num.tdiv q.den))
    | .boolean b => some (if b then 1 else 0)
    | _ => none
  toUInt64
    | .integer n => some (Fin.ofNat (2 ^ 64) (n % 2 ^ 64).toNat)
    | .float q => some (Fin.ofNat (2 ^ 64) (q.num.tdiv q.den % 2 ^ 64).toNat)
    | _ => none

/-- The library that knows the texts of the listed values. -/
def listedValues (values : List (Json ℚ)) : JsonLibrary ℚ :=
  listed (values.map fun js => (js.dump.toUTF8, .value js))

theorem lawful_listed (texts : List (ByteArray × ParseResult ℚ)) : (listed texts).Lawful where
  toDouble_float _ := rfl
  toInt_integer n := by simp [listed]
  toUInt64_integer n := by
    have hlt := n.isLt
    have hmod : ((n.val : ℤ) % 2 ^ 64).toNat = n.val := by omega
    simp only [listed, hmod, Option.some.injEq]
    exact Fin.ext (Nat.mod_eq_of_lt hlt)

theorem castsNumbers_listed (texts : List (ByteArray × ParseResult ℚ)) :
    (listed texts).CastsNumbers where
  integer _ := rfl
  float _ := ⟨_, rfl⟩
  string _ := rfl
  null := rfl
  array _ := rfl
  object _ := rfl

/-- When the texts differ, each value is read back. -/
theorem roundTrips_listedValues {values : List (Json ℚ)}
    (hnodup : (values.map fun js => js.dump.toUTF8).Nodup) {js : Json ℚ} (hmem : js ∈ values) :
    (listedValues values).RoundTrips js := by
  have hknown : (js.dump.toUTF8, ParseResult.value js) ∈
      values.map fun js => (js.dump.toUTF8, ParseResult.value js) :=
    List.mem_map_of_mem hmem
  have hkeys : ((values.map fun js => (js.dump.toUTF8, ParseResult.value js)).map
      Prod.fst).Nodup := by
    rwa [List.map_map]
  have hlookup := Keyed.lookup_of_mem hkeys hknown
  unfold Keyed.lookup at hlookup
  simp only [ByteArray.ext_iff] at hlookup
  simp only [RoundTrips, listedValues, listed, hlookup]

end JsonLibrary

end M2Cell
