import Mathlib.Data.List.TakeWhile

/-!
# Delimited text

`getline` takes a piece of a text up to a delimiter and drops the delimiter.  It
fails when there is no character left, so a loop over it (`pieces`) does not see an
empty piece after the last delimiter: a delimiter ends a piece, and text that is left
over at the end is one more piece.

`joined` puts delimiters between pieces and `ended` one after each of them; only the
second is undone by `pieces` for all pieces.
-/

namespace M2Cell

variable {α : Type*} (delim : α)

/-! ## Joined and ended pieces -/

/-- The pieces with a delimiter between them. -/
def joined (parts : List (List α)) : List α := [delim].intercalate parts

/-- The pieces with a delimiter after each of them. -/
def ended (parts : List (List α)) : List α := parts.flatMap fun piece => piece ++ [delim]

section joined

variable {delim} {piece : List α} {parts : List (List α)}

@[simp] theorem joined_singleton (piece : List α) : joined delim [piece] = piece :=
  List.intercalate_singleton

theorem joined_cons (piece : List α) (hparts : parts ≠ []) :
    joined delim (piece :: parts) = piece ++ delim :: joined delim parts := by
  obtain ⟨next, rest, rfl⟩ := List.exists_cons_of_ne_nil hparts
  rw [joined, List.intercalate_cons_cons, List.append_assoc, List.singleton_append]
  rfl

/-- All pieces but the last one are ended. -/
theorem joined_concat (parts : List (List α)) (piece : List α) :
    joined delim (parts ++ [piece]) = ended delim parts ++ piece := by
  induction parts with
  | nil => simp [ended]
  | cons first parts ih =>
      rw [List.cons_append, joined_cons _ (by simp), ih]
      simp [ended]

end joined

/-! ## The loop -/

variable [DecidableEq α]

/-- `getline`: the next piece, and what follows its delimiter. -/
def getline : List α → Option (List α × List α)
  | [] => none
  | c :: rest =>
      some ((c :: rest).takeWhile (fun x => x ≠ delim),
        ((c :: rest).dropWhile fun x => x ≠ delim).drop 1)

theorem getline_length_lt {text piece rest : List α} (h : getline delim text = some (piece, rest)) :
    rest.length < text.length := by
  cases text with
  | nil => cases h
  | cons c tail =>
      obtain ⟨rfl, rfl⟩ := Prod.mk.inj (Option.some.inj h)
      have hdrop : ((c :: tail).dropWhile fun x => x ≠ delim).length ≤ (c :: tail).length :=
        (List.dropWhile_suffix _).length_le
      rw [List.length_drop, List.length_cons]
      rw [List.length_cons] at hdrop
      omega

/-- The loop over `getline`. -/
def pieces (text : List α) : List (List α) :=
  match _hline : getline delim text with
  | none => []
  | some (piece, rest) => piece :: pieces rest
termination_by text.length
decreasing_by exact getline_length_lt delim _hline

variable {delim} {piece rest : List α} {parts more : List (List α)}

@[simp] theorem pieces_nil : pieces delim ([] : List α) = [] := by
  rw [pieces]
  rfl

theorem pieces_of_getline {text : List α} (h : getline delim text = some (piece, rest)) :
    pieces delim text = piece :: pieces delim rest := by
  rw [pieces]
  split
  · next hnone => rw [h] at hnone; cases hnone
  · next hsome =>
      rw [h] at hsome
      obtain ⟨rfl, rfl⟩ := Prod.mk.inj (Option.some.inj hsome)
      rfl

theorem getline_append (hpiece : delim ∉ piece) :
    getline delim (piece ++ delim :: rest) = some (piece, rest) := by
  have hall : ∀ x ∈ piece, decide (x ≠ delim) = true := fun x hx =>
    decide_eq_true fun heq => hpiece (heq ▸ hx)
  have hget : getline delim (piece ++ delim :: rest) =
      some ((piece ++ delim :: rest).takeWhile (fun x => x ≠ delim),
        ((piece ++ delim :: rest).dropWhile fun x => x ≠ delim).drop 1) := by
    cases piece <;> rfl
  rw [hget, List.takeWhile_append_of_pos hall, List.dropWhile_append_of_pos hall]
  simp

theorem getline_last (hpiece : delim ∉ piece) (hne : piece ≠ []) :
    getline delim piece = some (piece, []) := by
  have hall : ∀ x ∈ piece, decide (x ≠ delim) = true := fun x hx =>
    decide_eq_true fun heq => hpiece (heq ▸ hx)
  obtain ⟨c, tail, rfl⟩ := List.exists_cons_of_ne_nil hne
  rw [getline, List.takeWhile_eq_self_iff.mpr hall, List.dropWhile_eq_nil_iff.mpr hall]
  rfl

/-- A piece and its delimiter at the start of a text. -/
theorem pieces_append (hpiece : delim ∉ piece) :
    pieces delim (piece ++ delim :: rest) = piece :: pieces delim rest :=
  pieces_of_getline (getline_append hpiece)

/-- A text without delimiters. -/
theorem pieces_last (hpiece : delim ∉ piece) (hne : piece ≠ []) :
    pieces delim piece = [piece] := by
  rw [pieces_of_getline (getline_last hpiece hne), pieces_nil]

/-- The first piece is what `getline` takes. -/
theorem getline_of_pieces {text : List α} (h : pieces delim text = piece :: more) :
    ∃ rest, getline delim text = some (piece, rest) ∧ pieces delim rest = more := by
  cases hget : getline delim text with
  | none =>
      cases text with
      | nil =>
          rw [pieces_nil] at h
          cases h
      | cons c tail => cases hget
  | some result =>
      rw [pieces_of_getline hget] at h
      obtain ⟨rfl, rfl⟩ := List.cons.inj h
      exact ⟨result.2, rfl, rfl⟩

/-- Delimiters alone end empty pieces. -/
theorem pieces_replicate (n : ℕ) : pieces delim (List.replicate n delim) = List.replicate n [] := by
  induction n with
  | zero => exact pieces_nil
  | succ n ih =>
      rw [List.replicate_succ, List.replicate_succ, ← ih]
      exact pieces_append List.not_mem_nil

/-! ## Reading back -/

/-- Ended pieces are read back, before any other text. -/
theorem pieces_ended_append (hparts : ∀ piece ∈ parts, delim ∉ piece) (rest : List α) :
    pieces delim (ended delim parts ++ rest) = parts ++ pieces delim rest := by
  induction parts with
  | nil => rfl
  | cons piece parts ih =>
      have htext : ended delim (piece :: parts) ++ rest =
          piece ++ delim :: (ended delim parts ++ rest) := by
        simp [ended]
      rw [htext, pieces_append (hparts piece List.mem_cons_self),
        ih fun other hother => hparts other (List.mem_cons_of_mem _ hother), List.cons_append]

/-- **Joined pieces** are read back, when the last one is not empty. -/
theorem pieces_joined (hparts : ∀ piece ∈ parts, delim ∉ piece) (hlast : parts.getLast? ≠ some []) :
    pieces delim (joined delim parts) = parts := by
  rcases parts.eq_nil_or_concat with rfl | ⟨front, last, rfl⟩
  · exact pieces_nil
  · rw [List.concat_eq_append] at hparts hlast ⊢
    rw [List.getLast?_concat] at hlast
    have hne : last ≠ [] := fun h => hlast (congrArg some h)
    have hpiece : delim ∉ last := hparts last (by simp)
    rw [joined_concat, pieces_ended_append, pieces_last hpiece hne]
    exact fun piece hpiece => hparts piece (List.mem_append_left _ hpiece)

/-- An empty last piece is lost. -/
theorem pieces_joined_concat_nil (hparts : ∀ piece ∈ parts, delim ∉ piece) :
    pieces delim (joined delim (parts ++ [[]])) = parts := by
  rw [joined_concat, pieces_ended_append hparts, pieces_nil, List.append_nil]

end M2Cell
