import M2Cell.Util.NamedValue

/-!
# Which texts a named integer takes

`NamedInt::setFromString` looks only at the character where `strtol` stopped.  So it
takes the empty text as 0, and it takes every numeral: `strtol` saturates the number
at the bounds of `long`, and the assignment narrows it.  It takes a numeral that a NUL
ends, whatever follows.

`CleanText` rules these out, and `meets_iff` says that there is nothing else: a clean text of
which `strtol` leaves nothing is a decimal integer (`CleanText.rest_eq_nil_iff`), and a text is
clean when whatever is taken is one (`cleanText_of_rest_nil`).

The second half is about a row of a file.  The loop of `setMapValuesFromFile` stops at the first
value that cannot be set, so what matters are the cells that it comes to (`Reaches`).
`setMapValuesFromFile_append` cuts the loop at a value, and what was set stays in its place
(`getElem?_setMapValuesFromFile`).
-/

namespace M2Cell

variable {str : Text} {item : NamedInt} {value : ℤ}

/-- The text that `strtol` sees is not empty, and if it is a numeral, it is all of the text and
its number is an `int`. -/
def CleanText (str : Text) : Prop :=
  cStr str ≠ [] ∧ ∀ value, IsNumeral (cStr str) value → cStr str = str ∧ FitsInt value

/-! ## Decimal integers -/

theorem saturateLong_of_fitsInt (h : FitsInt value) : saturateLong value = value := by
  unfold saturateLong
  have hbounds := h
  unfold FitsInt at hbounds
  rw [min_eq_right (by omega), max_eq_right (by omega)]

/-- A number that saturates to an `int` is that `int`. -/
theorem eq_of_saturateLong_eq {other : ℤ} (h : FitsInt other)
    (heq : saturateLong value = other) : value = other := by
  unfold saturateLong at heq
  unfold FitsInt at h
  omega

theorem toInt_ofInt_of_fitsInt (h : FitsInt value) : (Int32.ofInt value).toInt = value :=
  Int32.toInt_ofInt_of_le h.1 h.2

/-- The number of a decimal integer is determined. -/
theorem eq_of_isDecimalInt {other : ℤ} (h : IsNumeral str value) (hother : IsDecimalInt str other) :
    value = other := by
  have hcStr := h.cStr_eq
  have hnumeral : IsNumeral (cStr str) value := by rwa [hcStr]
  have hotherNumeral : IsNumeral (cStr str) other := by
    rw [hcStr]
    exact hother.1
  have hother' := strtol_of_isNumeral hotherNumeral
  rw [strtol_of_isNumeral hnumeral, saturateLong_of_fitsInt hother.2] at hother'
  exact eq_of_saturateLong_eq hother.2 (Prod.mk.inj hother').1

/-- A clean text is refused unless it is a decimal integer. -/
theorem CleanText.rest_eq_nil_iff (h : CleanText str) :
    (strtol str).2 = [] ↔ ∃ value, IsDecimalInt str value := by
  rw [strtol_rest_eq_nil_iff]
  constructor
  · rintro (hempty | ⟨value, hvalue⟩)
    · exact absurd hempty h.1
    · obtain ⟨hall, hfits⟩ := h.2 value hvalue
      exact ⟨value, hall ▸ hvalue, hfits⟩
  · rintro ⟨value, hvalue, -⟩
    refine Or.inr ⟨value, ?_⟩
    rwa [hvalue.cStr_eq]

/-- A text is clean when whatever is taken is a decimal integer. -/
theorem cleanText_of_rest_nil (h : (strtol str).2 = [] → ∃ value, IsDecimalInt str value) :
    CleanText str := by
  rw [strtol_rest_eq_nil_iff] at h
  constructor
  · intro hempty
    obtain ⟨value, hvalue, -⟩ := h (Or.inl hempty)
    obtain ⟨spaces, sign, digits, hs, -, hne, -⟩ := id hvalue
    rw [hvalue.cStr_eq, hs, List.append_eq_nil_iff, List.append_eq_nil_iff] at hempty
    exact hne hempty.2.2
  · intro value hvalue
    obtain ⟨other, hother⟩ := h (Or.inr ⟨value, hvalue⟩)
    have hall := hother.1.cStr_eq
    rw [hall] at hvalue
    exact ⟨hall, eq_of_isDecimalInt hvalue hother ▸ hother.2⟩

namespace NamedInt

/-! ## One text -/

/-- What `strtol` leaves nothing of is stored. -/
theorem setFromString_of_rest_nil (hrest : (strtol str).2 = []) (item : NamedInt) :
    item.setFromString str = (item.setValueRead (Int32.ofInt (strtol str).1), .ok ()) := by
  rw [setFromString, if_neg (not_not.mpr hrest)]

/-- Everything else is refused, and the value stays. -/
theorem setFromString_of_rest_ne_nil (hrest : (strtol str).2 ≠ []) (item : NamedInt) :
    ∃ what, item.setFromString str = (item, .error what) := by
  rw [setFromString, if_pos hrest]
  exact ⟨_, rfl⟩

/-- **A decimal integer** is stored. -/
theorem setFromString_of_isDecimalInt (h : IsDecimalInt str value) (item : NamedInt) :
    item.setFromString str = (item.setValueRead (Int32.ofInt value), .ok ()) := by
  have hnumeral : IsNumeral (cStr str) value := by
    rw [h.1.cStr_eq]
    exact h.1
  have hstrtol := strtol_of_isNumeral hnumeral
  rw [saturateLong_of_fitsInt h.2] at hstrtol
  rw [setFromString_of_rest_nil (by rw [hstrtol]), hstrtol]

/-- `setFromString` takes the text exactly when it is a decimal integer, with its number, and
otherwise throws and leaves the item as it was. -/
def Meets (item : NamedInt) (str : Text) : Prop :=
  (∀ value, IsDecimalInt str value →
    ∃ v : Int32, v.toInt = value ∧ item.setFromString str = (item.setValueRead v, .ok ())) ∧
  ((¬ ∃ value, IsDecimalInt str value) → ∃ what, item.setFromString str = (item, .error what))

theorem meets_iff (item : NamedInt) (str : Text) : Meets item str ↔ CleanText str := by
  constructor
  · intro h
    refine cleanText_of_rest_nil fun hrest => ?_
    by_contra hnone
    obtain ⟨what, hwhat⟩ := h.2 hnone
    rw [setFromString_of_rest_nil hrest] at hwhat
    cases (Prod.mk.inj hwhat).2
  · intro h
    refine ⟨fun value hvalue => ?_, fun hnone => ?_⟩
    · exact ⟨_, toInt_ofInt_of_fitsInt hvalue.2, setFromString_of_isDecimalInt hvalue item⟩
    · refine setFromString_of_rest_ne_nil ?_ item
      rwa [ne_eq, h.rest_eq_nil_iff]

/-- Whatever is stored for a text is its number, exactly when the text is clean. -/
theorem stored_isDecimalInt_iff (item : NamedInt) (str : Text) :
    (∀ stored, item.setFromString str = (stored, .ok ()) →
      IsDecimalInt str stored.val.toInt) ↔ CleanText str := by
  constructor
  · intro h
    refine cleanText_of_rest_nil fun hrest => ?_
    exact ⟨_, h _ (setFromString_of_rest_nil hrest item)⟩
  · intro h stored hstored
    by_cases hrest : (strtol str).2 = []
    · obtain ⟨value, hvalue⟩ := h.rest_eq_nil_iff.mp hrest
      rw [setFromString_of_isDecimalInt hvalue] at hstored
      obtain ⟨rfl, -⟩ := Prod.mk.inj hstored
      change IsDecimalInt str (Int32.ofInt value).toInt
      rwa [toInt_ofInt_of_fitsInt hvalue.2]
    · obtain ⟨what, hwhat⟩ := setFromString_of_rest_ne_nil hrest item
      rw [hwhat] at hstored
      cases (Prod.mk.inj hstored).2

end NamedInt

/-! ## A row of a file -/

section rows

variable {D : Type} {lib : DoubleText D} {csvFile : CsvFile} {row : ℤ}

/-- The loop over two parts of the map: it comes to the second when all of the first was set. -/
theorem setMapValuesFromFile_append (before after : List (NamedValue D)) :
    NamedValue.setMapValuesFromFile lib csvFile row (before ++ after) =
      match NamedValue.setMapValuesFromFile lib csvFile row before with
      | (set, .ok ()) =>
          (set ++ (NamedValue.setMapValuesFromFile lib csvFile row after).1,
            (NamedValue.setMapValuesFromFile lib csvFile row after).2)
      | (set, .error failure) => (set ++ after, .error failure) := by
  induction before with
  | nil => rfl
  | cons nVal before ih =>
      simp only [List.cons_append, NamedValue.setMapValuesFromFile]
      cases csvFile.getValue nVal.getName row with
      | error failure => rfl
      | ok str =>
          dsimp only
          rcases nVal.setFromString lib str with ⟨stored, what | _⟩
          · rfl
          · dsimp only
            rw [ih]
            rcases NamedValue.setMapValuesFromFile lib csvFile row before with ⟨set, failure | _⟩
            · rfl
            · rfl

theorem setMapValuesFromFile_append_of_ok {before : List (NamedValue D)}
    (hbefore : (NamedValue.setMapValuesFromFile lib csvFile row before).2 = .ok ())
    (after : List (NamedValue D)) :
    NamedValue.setMapValuesFromFile lib csvFile row (before ++ after) =
      ((NamedValue.setMapValuesFromFile lib csvFile row before).1 ++
        (NamedValue.setMapValuesFromFile lib csvFile row after).1,
        (NamedValue.setMapValuesFromFile lib csvFile row after).2) := by
  rw [setMapValuesFromFile_append]
  rcases hset : NamedValue.setMapValuesFromFile lib csvFile row before with ⟨set, failure | _⟩
  · rw [hset] at hbefore
    cases hbefore
  · rfl

/-- Where the loop ends without an exception, it had none before. -/
theorem setMapValuesFromFile_ok_of_append {before after : List (NamedValue D)}
    (h : (NamedValue.setMapValuesFromFile lib csvFile row (before ++ after)).2 = .ok ()) :
    (NamedValue.setMapValuesFromFile lib csvFile row before).2 = .ok () := by
  rw [setMapValuesFromFile_append] at h
  rcases hset : NamedValue.setMapValuesFromFile lib csvFile row before with ⟨set, failure | _⟩
  · rw [hset] at h
    cases h
  · rfl

/-- The loop keeps the number of the values. -/
theorem length_setMapValuesFromFile (nvMap : List (NamedValue D)) :
    (NamedValue.setMapValuesFromFile lib csvFile row nvMap).1.length = nvMap.length := by
  induction nvMap with
  | nil => rfl
  | cons nVal rest ih =>
      rw [NamedValue.setMapValuesFromFile]
      split
      · rfl
      · split
        · rfl
        · rw [List.length_cons, ih, List.length_cons]

/-- The loop at an integer whose cell is taken. -/
theorem setMapValuesFromFile_int {stored : NamedInt}
    (hcell : csvFile.getValue item.name row = .ok str)
    (hstored : item.setFromString str = (stored, .ok ())) (after : List (NamedValue D)) :
    NamedValue.setMapValuesFromFile lib csvFile row (.int item :: after) =
      (.int stored :: (NamedValue.setMapValuesFromFile lib csvFile row after).1,
        (NamedValue.setMapValuesFromFile lib csvFile row after).2) := by
  have hset : (NamedValue.int item : NamedValue D).setFromString lib str =
      (NamedValue.int stored, .ok ()) := by
    rw [NamedValue.setFromString, hstored]
    rfl
  simp only [NamedValue.setMapValuesFromFile, NamedValue.getName, hcell, hset]

/-- What was set stays in its place. -/
theorem getElem?_setMapValuesFromFile {before : List (NamedValue D)} {stored : NamedInt}
    (hbefore : (NamedValue.setMapValuesFromFile lib csvFile row before).2 = .ok ())
    (hcell : csvFile.getValue item.name row = .ok str)
    (hstored : item.setFromString str = (stored, .ok ())) (after : List (NamedValue D)) :
    (NamedValue.setMapValuesFromFile lib csvFile row
      (before ++ .int item :: after)).1[before.length]? = some (.int stored) := by
  have hlength : (NamedValue.setMapValuesFromFile lib csvFile row before).1.length =
      before.length := length_setMapValuesFromFile before
  rw [setMapValuesFromFile_append_of_ok hbefore, setMapValuesFromFile_int hcell hstored, ← hlength,
    List.getElem?_append_right (Nat.le_refl _), Nat.sub_self, List.getElem?_cons_zero]

variable (lib csvFile row) in
/-- The loop comes to the item, whose cell has the text `str`. -/
def Reaches (nvMap : List (NamedValue D)) (item : NamedInt) (str : Text) : Prop :=
  ∃ before after, nvMap = before ++ NamedValue.int item :: after ∧
    (NamedValue.setMapValuesFromFile lib csvFile row before).2 = .ok () ∧
    csvFile.getValue item.name row = .ok str

/-- The loop has set all of a part of the map, the integer at its end included. -/
theorem setMapValuesFromFile_concat_int_iff {before : List (NamedValue D)} :
    (NamedValue.setMapValuesFromFile lib csvFile row (before ++ [.int item])).2 = .ok () ↔
      (NamedValue.setMapValuesFromFile lib csvFile row before).2 = .ok () ∧
        ∃ str stored, csvFile.getValue item.name row = .ok str ∧
          item.setFromString str = (stored, .ok ()) := by
  constructor
  · intro h
    have hbefore := setMapValuesFromFile_ok_of_append h
    rw [setMapValuesFromFile_append_of_ok hbefore] at h
    refine ⟨hbefore, ?_⟩
    simp only [NamedValue.setMapValuesFromFile, NamedValue.getName] at h
    cases hcell : csvFile.getValue item.name row with
    | error failure =>
        rw [hcell] at h
        cases h
    | ok str =>
        rw [hcell] at h
        rcases hset : item.setFromString str with ⟨stored, what | _⟩
        · simp only [NamedValue.setFromString, hset, Prod.map] at h
          cases h
        · exact ⟨str, stored, rfl, hset⟩
  · rintro ⟨hbefore, str, stored, hcell, hstored⟩
    rw [setMapValuesFromFile_append_of_ok hbefore, setMapValuesFromFile_int hcell hstored]
    rfl

variable (lib csvFile row) in
/-- **What is stored.**  Every integer that the loop sets without an exception is in the map
afterwards as the number that its cell has as text. -/
def StoresTexts (nvMap : List (NamedValue D)) : Prop :=
  ∀ before item after, nvMap = before ++ NamedValue.int item :: after →
    (NamedValue.setMapValuesFromFile lib csvFile row (before ++ [.int item])).2 = .ok () →
      ∃ str stored, csvFile.getValue item.name row = .ok str ∧
        (NamedValue.setMapValuesFromFile lib csvFile row nvMap).1[before.length]? =
          some (.int stored) ∧
        IsDecimalInt str stored.val.toInt

/-- The texts are stored exactly when the cells that the loop comes to are clean. -/
theorem storesTexts_iff (nvMap : List (NamedValue D)) :
    StoresTexts lib csvFile row nvMap ↔
      ∀ item str, Reaches lib csvFile row nvMap item str → CleanText str := by
  constructor
  -- the loop sets what `strtol` leaves nothing of, so its cell is a decimal integer
  · rintro h item str ⟨before, after, rfl, hbefore, hcell⟩
    refine cleanText_of_rest_nil fun hrest => ?_
    have hset := NamedInt.setFromString_of_rest_nil hrest item
    obtain ⟨str', stored, hcell', -, hdecimal⟩ := h before item after rfl
      (setMapValuesFromFile_concat_int_iff.mpr ⟨hbefore, str, _, hcell, hset⟩)
    obtain rfl := Except.ok.inj (hcell.symm.trans hcell')
    exact ⟨_, hdecimal⟩
  · rintro h before item after rfl hok
    obtain ⟨hbefore, str, stored, hcell, hstored⟩ := setMapValuesFromFile_concat_int_iff.mp hok
    have hclean : CleanText str := h item str ⟨before, after, rfl, hbefore, hcell⟩
    refine ⟨str, stored, hcell, getElem?_setMapValuesFromFile hbefore hcell hstored after, ?_⟩
    exact (NamedInt.stored_isDecimalInt_iff item str).mpr hclean stored hstored

/-- **Named integers.**  A text is converted as it should be exactly when it is clean; and a row
of a file is stored as it should be exactly when the cells of the integers that the loop comes to
are clean. -/
theorem setFromString_meets_iff (lib : DoubleText D) (csvFile : CsvFile) (row : ℤ)
    (nvMap : List (NamedValue D)) (item : NamedInt) (str : Text) :
    (NamedInt.Meets item str ↔ CleanText str) ∧
      (StoresTexts lib csvFile row nvMap ↔
        ∀ item str, Reaches lib csvFile row nvMap item str → CleanText str) :=
  ⟨NamedInt.meets_iff item str, storesTexts_iff nvMap⟩

end rows

/-- The text of the number after the largest `int`. -/
def intMaxPlusOne : Text := ['2', '1', '4', '7', '4', '8', '3', '6', '4', '8']

/-- It is taken, and becomes the smallest `int`. -/
theorem not_meets_intMaxPlusOne : ¬ NamedInt.Meets ⟨['n'], 0, 0⟩ intMaxPlusOne := by
  intro h
  have hnumeral : IsNumeral intMaxPlusOne 2147483648 :=
    ⟨[], .absent, intMaxPlusOne, rfl, List.forall_mem_nil _, by decide,
      List.all_eq_true.mp (by decide), by decide⟩
  have hclean := (NamedInt.meets_iff _ _).mp h
  have hfits := (hclean.2 2147483648 (by rwa [hnumeral.cStr_eq])).2
  exact absurd hfits.2 (by decide)

end M2Cell
