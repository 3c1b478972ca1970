import Mathlib.Data.List.Infix

/-!
# Frames in a stream

A reader takes a stream apart into the messages between terminators.  A terminator
is a symbol `cr` followed by a symbol `lf`, and the reader looks at one symbol at
a time: it collects them in a buffer, and when an `lf` comes it looks at the last
symbol of the buffer, which is undefined when the buffer is empty.  Each complete
message is handed to a handler, which may fail.

A list of messages without terminators is handed over as it was sent exactly when
none of them begins with `lf` and the handler takes each of them
(`feed_encode_iff`).  The last symbol of an empty buffer is looked at exactly when
an `lf` comes at the beginning or directly after a terminator, and the handler has
taken everything before it (`feed_undefined_iff`).
-/

namespace M2Cell

namespace Framing

variable {α σ ε : Type*}

/-- What one symbol does to the buffer. -/
inductive Push (α : Type*)
  | more (buffer : List α)
  | frame (message : List α)
  /-- The last symbol of an empty buffer is looked at. -/
  | undefined

/-- The reader, with the messages handed over so far. -/
structure Reader (α σ : Type*) where
  buffer : List α
  handed : List (List α)
  state : σ

/-- Why a reader stops before the end of the stream. -/
inductive Stop (ε : Type*)
  | undefined
  | failure (error : ε)

/-- The stream of a list of messages. -/
def encode (cr lf : α) : List (List α) → List α
  | [] => []
  | message :: rest => message ++ cr :: lf :: encode cr lf rest

/-- The message contains no terminator. -/
def Free (cr lf : α) (message : List α) : Prop := ¬ [cr, lf] <:+: message

section reader

variable [DecidableEq α] (cr lf : α) (handle : σ → List α → Except ε σ)

/-- Put a symbol into the buffer, unless it completes a terminator. -/
def push (buffer : List α) (symbol : α) : Push α :=
  if symbol = lf then
    match buffer.getLast? with
    | none => .undefined
    | some last => if last = cr then .frame buffer.dropLast else .more (buffer ++ [symbol])
  else .more (buffer ++ [symbol])

/-- Read one symbol. -/
def read (reader : Reader α σ) (symbol : α) : Except (Stop ε) (Reader α σ) :=
  match push cr lf reader.buffer symbol with
  | .more buffer => .ok { reader with buffer := buffer }
  | .frame message =>
      match handle reader.state message with
      | .ok state => .ok ⟨[], reader.handed ++ [message], state⟩
      | .error error => .error (.failure error)
  | .undefined => .error .undefined

/-- Read a stream to its end. -/
def feed (reader : Reader α σ) : List α → Except (Stop ε) (Reader α σ)
  | [] => .ok reader
  | symbol :: rest =>
      match read cr lf handle reader symbol with
      | .ok next => feed next rest
      | .error stop => .error stop

end reader

/-! ## Messages without terminators -/

section free

variable {cr lf : α} {message : List α}

theorem free_nil : Free cr lf [] := by
  intro h
  simpa using List.eq_nil_of_infix_nil h

theorem Free.of_append {rest : List α} (h : Free cr lf (message ++ rest)) : Free cr lf message :=
  fun hinner => h (hinner.trans (List.prefix_append message rest).isInfix)

/-- A symbol at the end makes a terminator only together with the one before it. -/
theorem Free.concat {symbol : α} (h : Free cr lf message)
    (hlast : symbol = lf → message.getLast? ≠ some cr) : Free cr lf (message ++ [symbol]) := by
  rintro ⟨before, after, heq⟩
  rcases List.eq_nil_or_concat after with rfl | ⟨after, last, rfl⟩
  · -- the terminator is at the end
    have hend : (before ++ [cr]) ++ [lf] = message ++ [symbol] := by
      simpa using heq
    obtain ⟨hmessage, hsymbol⟩ := List.append_inj' hend rfl
    apply hlast (List.cons.inj hsymbol).1.symm
    rw [← hmessage, List.getLast?_concat]
  · have hinside : (before ++ [cr, lf] ++ after) ++ [last] = message ++ [symbol] := by
      simpa using heq
    obtain ⟨hmessage, -⟩ := List.append_inj' hinside rfl
    exact h ⟨before, after, hmessage⟩

/-- In a message without terminators an `lf` does not come after a `cr`. -/
theorem Free.getLast?_ne {before rest : List α} (h : Free cr lf (before ++ lf :: rest)) :
    before.getLast? ≠ some cr := by
  intro hlast
  obtain ⟨init, rfl⟩ := List.getLast?_eq_some_iff.mp hlast
  exact h ⟨init, rest, by simp⟩

end free

/-! ## One message -/

section feed

variable [DecidableEq α] {cr lf : α} {handle : σ → List α → Except ε σ}

theorem push_of_ne {buffer : List α} {symbol : α} (h : symbol ≠ lf) :
    push cr lf buffer symbol = .more (buffer ++ [symbol]) := by
  rw [push, if_neg h]

theorem push_concat_cr (buffer : List α) : push cr lf (buffer ++ [cr]) lf = .frame buffer := by
  simp [push]

theorem push_lf_nil : push cr lf [] lf = .undefined := by
  simp [push]

theorem push_of_last_ne {buffer : List α} {symbol : α} (hne : buffer ≠ [])
    (hlast : symbol = lf → buffer.getLast? ≠ some cr) :
    push cr lf buffer symbol = .more (buffer ++ [symbol]) := by
  by_cases h : symbol = lf
  · obtain ⟨last, hgetLast⟩ := Option.ne_none_iff_exists'.mp (mt List.getLast?_eq_none_iff.mp hne)
    have hcr : last ≠ cr := by
      rintro rfl
      exact hlast h hgetLast
    simp [push, h, hgetLast, hcr]
  · exact push_of_ne h

theorem feed_append (reader : Reader α σ) (first second : List α) :
    feed cr lf handle reader (first ++ second) =
      match feed cr lf handle reader first with
      | .ok next => feed cr lf handle next second
      | .error stop => .error stop := by
  induction first generalizing reader with
  | nil => rfl
  | cons symbol rest ih =>
      simp only [List.cons_append, feed]
      cases read cr lf handle reader symbol with
      | ok next => exact ih next
      | error stop => rfl

/-- The symbols of a message without terminators are collected. -/
theorem feed_collect (reader : Reader α σ) (symbols : List α)
    (hfree : Free cr lf (reader.buffer ++ symbols))
    (hhead : (reader.buffer ++ symbols).head? ≠ some lf) :
    feed cr lf handle reader symbols =
      .ok { reader with buffer := reader.buffer ++ symbols } := by
  induction symbols generalizing reader with
  | nil => simp [feed]
  | cons symbol rest ih =>
      have hpush : push cr lf reader.buffer symbol = .more (reader.buffer ++ [symbol]) := by
        by_cases hbuffer : reader.buffer = []
        · apply push_of_ne
          rintro rfl
          simp [hbuffer] at hhead
        · apply push_of_last_ne hbuffer
          rintro rfl
          exact hfree.getLast?_ne
      have happend : reader.buffer ++ symbol :: rest = reader.buffer ++ [symbol] ++ rest := by
        simp
      rw [happend] at hfree hhead ⊢
      simp only [feed, read, hpush]
      exact ih { reader with buffer := reader.buffer ++ [symbol] } hfree hhead

/-- A message and its terminator: the message is handed over. -/
theorem feed_message (hne : cr ≠ lf) {message : List α} (hfree : Free cr lf message)
    (hhead : message.head? ≠ some lf) (handed : List (List α)) (state : σ) (rest : List α) :
    feed cr lf handle ⟨[], handed, state⟩ (message ++ cr :: lf :: rest) =
      match handle state message with
      | .ok next => feed cr lf handle ⟨[], handed ++ [message], next⟩ rest
      | .error error => .error (.failure error) := by
  have hcollect : feed cr lf handle ⟨[], handed, state⟩ message = _ :=
    feed_collect ⟨[], handed, state⟩ message hfree hhead
  simp only [List.nil_append] at hcollect
  rw [feed_append, hcollect]
  simp only [feed, read, push_of_ne hne, push_concat_cr]
  cases handle state message <;> rfl

/-- An `lf` that comes when the buffer is empty. -/
theorem feed_lf (handed : List (List α)) (state : σ) (rest : List α) :
    feed cr lf handle ⟨[], handed, state⟩ (lf :: rest) = .error .undefined := by
  simp only [feed, read, push_lf_nil]

/-! ## Streams -/

variable {good : List α → Prop}

/-- **Messages**: they are handed over in order, and nothing remains in the buffer,
exactly when none begins with `lf` and the handler takes them. -/
theorem feed_encode_iff (hne : cr ≠ lf)
    (hgood : ∀ state message, (∃ next, handle state message = .ok next) ↔ good message)
    {messages : List (List α)} (hfree : ∀ message ∈ messages, Free cr lf message)
    (handed : List (List α)) (state : σ) :
    (∃ next, feed cr lf handle ⟨[], handed, state⟩ (encode cr lf messages) =
        .ok ⟨[], handed ++ messages, next⟩) ↔
      ∀ message ∈ messages, message.head? ≠ some lf ∧ good message := by
  induction messages generalizing handed state with
  | nil => simp [encode, feed]
  | cons message rest ih =>
      obtain ⟨hmessage, hrest⟩ := List.forall_mem_cons.mp hfree
      rw [List.forall_mem_cons, encode]
      by_cases hhead : message.head? = some lf
      · -- it begins with `lf`
        obtain ⟨tail, rfl⟩ := List.head?_eq_some_iff.mp hhead
        rw [List.cons_append, feed_lf]
        constructor
        · rintro ⟨next, hnext⟩
          cases hnext
        · intro h
          exact absurd hhead h.1.1
      · rw [feed_message hne hmessage hhead]
        cases hhandle : handle state message with
        | ok next =>
            have htaken : good message := (hgood state message).mp ⟨next, hhandle⟩
            have happend : handed ++ message :: rest = handed ++ [message] ++ rest := by simp
            simp only
            rw [happend, ih hrest]
            exact ⟨fun h => ⟨⟨hhead, htaken⟩, h⟩, fun h => h.2⟩
        | error error =>
            constructor
            · rintro ⟨next, hnext⟩
              cases hnext
            · intro h
              obtain ⟨next, hnext⟩ := (hgood state message).mpr h.1.2
              rw [hhandle] at hnext
              cases hnext

/-- After messages that are taken, an `lf` is undefined. -/
theorem feed_encode_lf (hne : cr ≠ lf)
    (hgood : ∀ state message, (∃ next, handle state message = .ok next) ↔ good message)
    {messages : List (List α)} (h : ∀ message ∈ messages, Free cr lf message ∧ good message)
    (handed : List (List α)) (state : σ) (rest : List α) :
    feed cr lf handle ⟨[], handed, state⟩ (encode cr lf messages ++ lf :: rest) =
      .error .undefined := by
  induction messages generalizing handed state with
  | nil => exact feed_lf handed state rest
  | cons message others ih =>
      obtain ⟨⟨hfree, htaken⟩, hothers⟩ := List.forall_mem_cons.mp h
      by_cases hhead : message.head? = some lf
      · obtain ⟨tail, rfl⟩ := List.head?_eq_some_iff.mp hhead
        exact feed_lf handed state _
      · obtain ⟨next, hnext⟩ := (hgood state message).mpr htaken
        rw [encode, List.append_assoc, List.cons_append, List.cons_append,
          feed_message hne hfree hhead, hnext]
        exact ih hothers _ next

/-- The messages before an undefined step were complete and were taken. -/
theorem exists_of_feed_undefined
    (hgood : ∀ state message, (∃ next, handle state message = .ok next) ↔ good message)
    (reader : Reader α σ) (hfree : Free cr lf reader.buffer) (stream : List α)
    (h : feed cr lf handle reader stream = .error .undefined) :
    ∃ messages rest, (∀ message ∈ messages, Free cr lf message ∧ good message) ∧
      reader.buffer ++ stream = encode cr lf messages ++ lf :: rest := by
  induction stream generalizing reader with
  | nil => cases h
  | cons symbol stream ih =>
      have hstep : reader.buffer ++ symbol :: stream = reader.buffer ++ [symbol] ++ stream := by
        simp
      by_cases hsymbol : symbol = lf
      · subst hsymbol
        cases hlast : reader.buffer.getLast? with
        | none =>
            rw [List.getLast?_eq_none_iff.mp hlast]
            exact ⟨[], stream, by simp, rfl⟩
        | some last =>
            obtain ⟨message, hbuffer⟩ := List.getLast?_eq_some_iff.mp hlast
            by_cases hcr : last = cr
            · -- a message is complete
              subst hcr
              have hmessage : Free last symbol message := Free.of_append (hbuffer ▸ hfree)
              simp only [feed, read, hbuffer, push_concat_cr] at h
              cases hhandle : handle reader.state message with
              | error error => simp [hhandle] at h
              | ok next =>
                  simp only [hhandle] at h
                  obtain ⟨messages, rest, hmessages, heq⟩ :=
                    ih ⟨[], reader.handed ++ [message], next⟩ free_nil h
                  have htaken : good message := (hgood reader.state message).mp ⟨next, hhandle⟩
                  refine ⟨message :: messages, rest,
                    List.forall_mem_cons.mpr ⟨⟨hmessage, htaken⟩, hmessages⟩, ?_⟩
                  rw [List.nil_append] at heq
                  rw [hbuffer, heq]
                  simp [encode]
            · have hne : reader.buffer.getLast? ≠ some cr := by
                rw [hlast]
                exact fun heq => hcr (Option.some.inj heq)
              have hpush : push cr symbol reader.buffer symbol =
                  .more (reader.buffer ++ [symbol]) := by
                refine push_of_last_ne ?_ fun _ => hne
                simp [hbuffer]
              simp only [feed, read, hpush] at h
              rw [hstep]
              exact ih { reader with buffer := reader.buffer ++ [symbol] }
                (hfree.concat fun _ => hne) h
      · simp only [feed, read, push_of_ne hsymbol] at h
        rw [hstep]
        exact ih { reader with buffer := reader.buffer ++ [symbol] }
          (hfree.concat fun heq => absurd heq hsymbol) h

/-- **The last symbol of an empty buffer** is looked at exactly when messages that
are taken are followed directly by an `lf`. -/
theorem feed_undefined_iff (hne : cr ≠ lf)
    (hgood : ∀ state message, (∃ next, handle state message = .ok next) ↔ good message)
    (handed : List (List α)) (state : σ) (stream : List α) :
    feed cr lf handle ⟨[], handed, state⟩ stream = .error .undefined ↔
      ∃ messages rest, (∀ message ∈ messages, Free cr lf message ∧ good message) ∧
        stream = encode cr lf messages ++ lf :: rest := by
  constructor
  · intro h
    exact exists_of_feed_undefined hgood ⟨[], handed, state⟩ free_nil stream h
  · rintro ⟨messages, rest, hmessages, rfl⟩
    exact feed_encode_lf hne hgood hmessages handed state rest

end feed

end Framing

end M2Cell
