import Mathlib.Algebra.Ring.Int.Defs
import Mathlib.Data.List.TakeWhile
import Mathlib.Order.Lattice

/-!
# Numerals in C strings

`strtol` with base 10 and a 64-bit `long`, for the text of a `std::string`: the
function sees the part before the first NUL, skips white space, reads an optional
sign and as many digits as there are, and answers with the number, saturated at
the bounds of `long`, and with what is left.  Without digits the answer is 0 and
the whole text is left.

`IsNumeral` says which texts are decimal numbers.  `strtol_of_isNumeral` and
`strtol_rest_eq_nil_iff` are what a caller that checks the rest can know.
-/

namespace M2Cell

/-- `isspace` in the "C" locale. -/
def isSpace (c : Char) : Bool := c = ' ' || (9 ≤ c.toNat && c.toNat ≤ 13)

/-- `isdigit`. -/
def isDigit (c : Char) : Bool := 48 ≤ c.toNat && c.toNat ≤ 57

/-- The number that digits stand for. -/
def digitsValue (digits : List Char) : ℕ :=
  digits.foldl (fun value c => 10 * value + (c.toNat - 48)) 0

/-- The sign of a numeral. -/
inductive NumeralSign
  | absent
  | plus
  | minus
  deriving DecidableEq, Repr

namespace NumeralSign

/-- How the sign is written. -/
def text : NumeralSign → List Char
  | absent => []
  | plus => ['+']
  | minus => ['-']

/-- The number with the sign. -/
def apply : NumeralSign → ℕ → ℤ
  | absent, value => value
  | plus, value => value
  | minus, value => -value

/-- The sign at the start of a text, and what follows. -/
def read : List Char → NumeralSign × List Char
  | '-' :: rest => (minus, rest)
  | '+' :: rest => (plus, rest)
  | rest => (absent, rest)

end NumeralSign

/-- `s` is the numeral of `value`: white space, a sign, and one or more digits. -/
def IsNumeral (s : List Char) (value : ℤ) : Prop :=
  ∃ (spaces : List Char) (sign : NumeralSign) (digits : List Char),
    s = spaces ++ (sign.text ++ digits) ∧ (∀ c ∈ spaces, isSpace c = true) ∧ digits ≠ [] ∧
      (∀ c ∈ digits, isDigit c = true) ∧ value = sign.apply (digitsValue digits)

/-- `c_str` as a C function sees it. -/
def cStr (s : List Char) : List Char := s.takeWhile fun c => c ≠ '\x00'

/-- The bounds of `long`. -/
def saturateLong (value : ℤ) : ℤ := max (-2 ^ 63) (min (2 ^ 63 - 1) value)

/-- `strtol`: the number, and the text from `endPtr` on. -/
def strtol (s : List Char) : ℤ × List Char :=
  let signed := NumeralSign.read ((cStr s).dropWhile isSpace)
  let digits := signed.2.takeWhile isDigit
  if digits = [] then (0, cStr s)
  else (saturateLong (signed.1.apply (digitsValue digits)), signed.2.dropWhile isDigit)

/-! ## Characters -/

theorem isSpace_eq_false_of_isDigit {c : Char} (h : isDigit c = true) : isSpace c = false := by
  have hspace : c ≠ ' ' := by
    rintro rfl
    exact absurd h (by decide)
  simp only [isDigit, Bool.and_eq_true, decide_eq_true_eq] at h
  simp only [isSpace, hspace, decide_false, Bool.false_or, Bool.and_eq_false_imp,
    decide_eq_true_eq, decide_eq_false_iff_not]
  omega

theorem ne_of_isDigit {c : Char} (h : isDigit c = true) : c ≠ '-' ∧ c ≠ '+' ∧ c ≠ '\x00' := by
  refine ⟨?_, ?_, ?_⟩ <;>
  · rintro rfl
    exact absurd h (by decide)

theorem ne_nul_of_isSpace {c : Char} (h : isSpace c = true) : c ≠ '\x00' := by
  rintro rfl
  exact absurd h (by decide)

/-! ## Numerals -/

variable {s digits : List Char} {value : ℤ}

/-- A sign and digits start with a character that is no white space. -/
theorem dropWhile_isSpace_numeral (sign : NumeralSign) (hne : digits ≠ [])
    (hdigits : ∀ c ∈ digits, isDigit c = true) :
    (sign.text ++ digits).dropWhile isSpace = sign.text ++ digits := by
  obtain ⟨c, rest, rfl⟩ := List.exists_cons_of_ne_nil hne
  have hc : isSpace c = false := isSpace_eq_false_of_isDigit (hdigits c List.mem_cons_self)
  cases sign with
  | absent => simp [NumeralSign.text, hc]
  | plus => rfl
  | minus => rfl

/-- The sign before digits is read back. -/
theorem NumeralSign.read_text_append (sign : NumeralSign)
    (hdigits : ∀ c ∈ digits, isDigit c = true) : read (sign.text ++ digits) = (sign, digits) := by
  cases sign with
  | plus => rfl
  | minus => rfl
  | absent =>
      cases digits with
      | nil => rfl
      | cons c rest =>
          obtain ⟨hminus, hplus, -⟩ := ne_of_isDigit (hdigits c List.mem_cons_self)
          rw [text, List.nil_append, read]
          · exact fun _ h => hminus (List.cons.inj h).1
          · exact fun _ h => hplus (List.cons.inj h).1

/-- What is read is a sign and the rest. -/
theorem NumeralSign.text_append_read (s : List Char) : (read s).1.text ++ (read s).2 = s := by
  unfold read
  split <;> rfl

/-- A numeral has no NUL. -/
theorem IsNumeral.cStr_eq (h : IsNumeral s value) : cStr s = s := by
  obtain ⟨spaces, sign, digits, rfl, hspaces, -, hdigits, -⟩ := h
  unfold cStr
  rw [List.takeWhile_eq_self_iff]
  intro c hc
  rw [decide_eq_true_eq]
  rcases List.mem_append.mp hc with hspace | hrest
  · exact ne_nul_of_isSpace (hspaces c hspace)
  rcases List.mem_append.mp hrest with hsign | hdigit
  · cases sign with
    | absent => cases hsign
    | plus =>
        obtain rfl := List.mem_singleton.mp hsign
        decide
    | minus =>
        obtain rfl := List.mem_singleton.mp hsign
        decide
  · exact (ne_of_isDigit (hdigits c hdigit)).2.2

/-- **A numeral** is converted to its number, and nothing is left. -/
theorem strtol_of_isNumeral (h : IsNumeral (cStr s) value) :
    strtol s = (saturateLong value, []) := by
  obtain ⟨spaces, sign, digits, hs, hspaces, hne, hdigits, rfl⟩ := h
  have hread : NumeralSign.read ((cStr s).dropWhile isSpace) = (sign, digits) := by
    rw [hs, List.dropWhile_append_of_pos hspaces, dropWhile_isSpace_numeral sign hne hdigits,
      NumeralSign.read_text_append sign hdigits]
  have htake : digits.takeWhile isDigit = digits := List.takeWhile_eq_self_iff.mpr hdigits
  have hdrop : digits.dropWhile isDigit = [] := List.dropWhile_eq_nil_iff.mpr hdigits
  simp only [strtol, hread, htake, hdrop, if_neg hne]

/-- With nothing left of a text that was not empty, it was a numeral. -/
theorem isNumeral_of_strtol (hrest : (strtol s).2 = []) (hne : cStr s ≠ []) :
    ∃ value, IsNumeral (cStr s) value := by
  unfold strtol at hrest
  dsimp only at hrest
  split_ifs at hrest with hdigits
  · exact absurd hrest hne
  · dsimp only at hrest
    refine ⟨_, (cStr s).takeWhile isSpace, (NumeralSign.read ((cStr s).dropWhile isSpace)).1,
      (NumeralSign.read ((cStr s).dropWhile isSpace)).2.takeWhile isDigit, ?_,
      fun c hc => List.mem_takeWhile_imp hc, hdigits, fun c hc => List.mem_takeWhile_imp hc, rfl⟩
    have hall : (NumeralSign.read ((cStr s).dropWhile isSpace)).2.takeWhile isDigit =
        (NumeralSign.read ((cStr s).dropWhile isSpace)).2 := by
      have hsplit := List.takeWhile_append_dropWhile (p := isDigit)
        (l := (NumeralSign.read ((cStr s).dropWhile isSpace)).2)
      rwa [hrest, List.append_nil] at hsplit
    rw [hall, NumeralSign.text_append_read, List.takeWhile_append_dropWhile]

/-- **The rest** is empty for numerals, and for the empty text. -/
theorem strtol_rest_eq_nil_iff (s : List Char) :
    (strtol s).2 = [] ↔ cStr s = [] ∨ ∃ value, IsNumeral (cStr s) value := by
  constructor
  · intro hrest
    by_cases hne : cStr s = []
    · exact Or.inl hne
    · exact Or.inr (isNumeral_of_strtol hrest hne)
  · rintro (hempty | ⟨value, hvalue⟩)
    · simp [strtol, hempty, NumeralSign.read]
    · rw [strtol_of_isNumeral hvalue]

end M2Cell
