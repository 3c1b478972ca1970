import M2Cell.Lib.Framing

/-!
# Reading up to a terminator

`takeFrame` takes a stream apart at its first terminator.  A message without
terminators is read back with what follows it (`takeFrame_message`), and a stream without
a terminator gives nothing (`takeFrame_eq_none_iff`).

The terminator is two symbols, so a symbol in front of a message can make a terminator only with
the first one of the message.  That is how freedom from terminators passes to the rest of a
message and back (`Free.of_cons`, `Free.cons`), and how both directions go by induction on the
stream.  Conversely what is read is free (`eq_of_takeFrame`), so that the stream is the encoding
of what was read and of what is left.  A message of which the end is missing gives nothing yet
(`takeFrame_part`).
-/

namespace M2Cell

namespace Framing

variable {α : Type*} [DecidableEq α]

/-- The symbols before the first terminator, and those behind it. -/
def takeFrame (cr lf : α) : List α → Option (List α × List α)
  | first :: second :: rest =>
      if first = cr ∧ second = lf then some ([], rest)
      else (takeFrame cr lf (second :: rest)).map fun frame => (first :: frame.1, frame.2)
  | _ => none

variable {cr lf : α} {message rest stream : List α}

omit [DecidableEq α] in
theorem Free.of_cons {first : α} (h : Free cr lf (first :: message)) : Free cr lf message :=
  fun hinner => h (hinner.trans (List.suffix_cons first message).isInfix)

omit [DecidableEq α] in
/-- A symbol in front makes a terminator only together with the one behind it. -/
theorem Free.cons {first : α} (h : Free cr lf message)
    (hhead : first = cr → message.head? ≠ some lf) : Free cr lf (first :: message) := by
  rintro ⟨before, after, heq⟩
  cases before with
  | nil =>
      obtain ⟨rfl, rfl⟩ := List.cons.inj heq
      exact hhead rfl rfl
  | cons symbol before =>
      obtain ⟨-, hinside⟩ := List.cons.inj heq
      exact h ⟨before, after, hinside⟩

/-- A message with its terminator is read back. -/
theorem takeFrame_message (hne : cr ≠ lf) (hfree : Free cr lf message) (rest : List α) :
    takeFrame cr lf (message ++ cr :: lf :: rest) = some (message, rest) := by
  induction message with
  | nil => exact if_pos ⟨rfl, rfl⟩
  | cons first message ih =>
      have hrest := ih hfree.of_cons
      cases message with
      | nil =>
          -- the terminator does not begin at the last symbol of the message
          have hlast : ¬ (first = cr ∧ cr = lf) := fun h => hne h.2
          rw [List.nil_append] at hrest
          rw [List.singleton_append, takeFrame, if_neg hlast, hrest]
          rfl
      | cons second message =>
          have hinside : ¬ (first = cr ∧ second = lf) := by
            rintro ⟨rfl, rfl⟩
            exact hfree ⟨[], message, rfl⟩
          rw [List.cons_append] at hrest
          rw [List.cons_append, List.cons_append, takeFrame, if_neg hinside, hrest]
          rfl

/-- What is read is the message before the first terminator. -/
theorem eq_of_takeFrame (h : takeFrame cr lf stream = some (message, rest)) :
    stream = message ++ cr :: lf :: rest ∧ Free cr lf message := by
  induction stream generalizing message with
  | nil => cases h
  | cons first stream ih =>
      cases stream with
      | nil => cases h
      | cons second stream =>
          rw [takeFrame] at h
          split_ifs at h with hterminator
          · obtain ⟨rfl, rfl⟩ := hterminator
            cases h
            exact ⟨rfl, free_nil⟩
          · obtain ⟨⟨message', rest'⟩, hframe, heq⟩ := Option.map_eq_some_iff.mp h
            cases heq
            obtain ⟨hstream, hfree⟩ := ih hframe
            refine ⟨by rw [hstream]; rfl, hfree.cons fun hfirst hhead => hterminator ⟨hfirst, ?_⟩⟩
            -- the symbol behind the first one is that of the message
            obtain ⟨tail, rfl⟩ := List.head?_eq_some_iff.mp hhead
            exact (List.cons.inj hstream).1

theorem takeFrame_eq_none_iff : takeFrame cr lf stream = none ↔ Free cr lf stream := by
  constructor
  · intro h
    induction stream with
    | nil => exact free_nil
    | cons first stream ih =>
        cases stream with
        | nil => exact free_nil.cons fun _ => by simp
        | cons second stream =>
            rw [takeFrame] at h
            split_ifs at h with hterminator
            refine (ih (Option.map_eq_none_iff.mp h)).cons fun hfirst hhead => ?_
            exact hterminator ⟨hfirst, Option.some.inj hhead⟩
  · intro hfree
    by_contra hsome
    obtain ⟨⟨message, rest⟩, hframe⟩ := Option.ne_none_iff_exists'.mp hsome
    obtain ⟨rfl, -⟩ := eq_of_takeFrame hframe
    exact hfree ⟨message, rest, by simp⟩

/-- A part of a message with its terminator gives nothing. -/
theorem takeFrame_part (hne : cr ≠ lf) (hfree : Free cr lf message) {n : ℕ}
    (hn : n < message.length + 2) : takeFrame cr lf ((message ++ [cr, lf]).take n) = none := by
  rw [takeFrame_eq_none_iff]
  have hwith : Free cr lf (message ++ [cr]) := hfree.concat fun heq => absurd heq hne
  have hprefix : (message ++ [cr, lf]).take n <+: message ++ [cr] := by
    have hsplit : message ++ [cr, lf] = message ++ [cr] ++ [lf] := by simp
    have hlength : n ≤ (message ++ [cr]).length := by
      rw [List.length_append, List.length_singleton]
      omega
    rw [hsplit, List.take_append_of_le_length hlength]
    exact List.take_prefix n _
  exact fun hinner => hwith (hinner.trans hprefix.isInfix)

omit [DecidableEq α] in
theorem encode_append (cr lf : α) (first second : List (List α)) :
    encode cr lf (first ++ second) = encode cr lf first ++ encode cr lf second := by
  induction first with
  | nil => rfl
  | cons message rest ih => simp [encode, ih]

end Framing

end M2Cell
