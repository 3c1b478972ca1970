import M2Cell.Telemetry.HandlerThreads
import Mathlib.Data.List.Induction

/-!
# Which handlers are cleaned up

The iterator of the loop moves on before the element is erased.  The element behind an
erased one is therefore never looked at, and behind an erased last one the iterator is
beyond the end.  So the loop does its work exactly when every finished handler is
directly followed by an unfinished one (`cleansUp_iff`).

The induction is over the part of the vector from the iterator on.  What is before the
iterator stays; `length_le_of_cleanUpFrom` counts what stays at least, so that a skipped
handler shows.

It is an induction in steps of two, because the loop takes two handlers at once when it erases:
the finished one, and the one behind it, which stays unseen (`cleanUpFrom_of_finished`).  The
handlers are updated on the way, but not in whether they are finished
(`finished_update`).
-/

namespace M2Cell

/-! ## One handler -/

namespace HandlerJoins

/-- Checking a handler does not change whether it is finished. -/
theorem finished_checkJoinAll (joins : HandlerJoins) :
    joins.checkJoinAll.1.finished = joins.finished := by
  obtain ⟨⟨joinable, readyToJoin, joined⟩, ⟨rjoinable, rreadyToJoin, rjoined⟩⟩ := joins
  cases joined <;> cases rjoined <;> cases joinable <;> cases readyToJoin <;>
    cases rjoinable <;> cases rreadyToJoin <;> rfl

theorem finished_update (handlers : ℕ → HandlerJoins) (ptr other : ℕ) :
    (Function.update handlers ptr (handlers ptr).checkJoinAll.1 other).finished =
      (handlers other).finished := by
  by_cases h : other = ptr
  · rw [h, Function.update_self, finished_checkJoinAll]
  · rw [Function.update_of_ne h]

end HandlerJoins

/-! ## The loop -/

section loop

variable {kept rest : List ℕ} {handlers : ℕ → HandlerJoins} {finished : ℕ → Bool}

theorem cleanUpFrom_nil : cleanUpFrom kept kept.length handlers = .ok (kept, handlers) := by
  rw [cleanUpFrom, if_pos rfl]

/-- Beyond the end, the iterator is dereferenced. -/
theorem cleanUpFrom_beyond :
    cleanUpFrom kept (kept.length + 1) handlers = .error ⟨kept.length + 1, kept.length⟩ := by
  rw [cleanUpFrom, if_neg (by omega), dif_neg (by omega)]

/-- The loop at a handler: it stays, or it is erased and the iterator is one too far. -/
theorem cleanUpFrom_cons (ptr : ℕ) :
    cleanUpFrom (kept ++ ptr :: rest) kept.length handlers =
      if (handlers ptr).finished then
        cleanUpFrom (kept ++ rest) (kept.length + 1)
          (Function.update handlers ptr (handlers ptr).checkJoinAll.1)
      else
        cleanUpFrom (kept ++ ptr :: rest) (kept.length + 1)
          (Function.update handlers ptr (handlers ptr).checkJoinAll.1) := by
  have hlength : (kept ++ ptr :: rest).length = kept.length + rest.length + 1 := by
    rw [List.length_append, List.length_cons, Nat.add_assoc]
  have hptr : (kept ++ ptr :: rest)[kept.length] = ptr := by
    rw [List.getElem_append_right (Nat.le_refl _)]
    simp only [Nat.sub_self, List.getElem_cons_zero]
  have herase : (kept ++ ptr :: rest).eraseIdx kept.length = kept ++ rest := by
    rw [List.eraseIdx_append_of_length_le (Nat.le_refl _), Nat.sub_self, List.eraseIdx_cons_zero]
  rw [cleanUpFrom, if_neg (by omega), dif_pos (by omega)]
  simp only [hptr, herase]
  rfl

theorem length_concat (ptr : ℕ) : kept.length + 1 = (kept ++ [ptr]).length := by
  rw [List.length_append, List.length_singleton]

/-- An unfinished handler stays. -/
theorem cleanUpFrom_of_unfinished {ptr : ℕ} (hptr : (handlers ptr).finished = false) :
    cleanUpFrom (kept ++ ptr :: rest) kept.length handlers =
      cleanUpFrom ((kept ++ [ptr]) ++ rest) (kept ++ [ptr]).length
        (Function.update handlers ptr (handlers ptr).checkJoinAll.1) := by
  rw [cleanUpFrom_cons, hptr, if_neg Bool.false_ne_true, List.append_cons, length_concat]

/-- A finished handler is erased, and the one behind it stays without a look at it. -/
theorem cleanUpFrom_of_finished {ptr : ℕ} (hptr : (handlers ptr).finished = true) (next : ℕ) :
    cleanUpFrom (kept ++ ptr :: next :: rest) kept.length handlers =
      cleanUpFrom ((kept ++ [next]) ++ rest) (kept ++ [next]).length
        (Function.update handlers ptr (handlers ptr).checkJoinAll.1) := by
  rw [cleanUpFrom_cons, hptr, if_pos rfl, List.append_cons, length_concat]

/-- Behind a finished last handler the iterator is beyond the end. -/
theorem cleanUpFrom_of_finished_last {ptr : ℕ} (hptr : (handlers ptr).finished = true) :
    cleanUpFrom (kept ++ [ptr]) kept.length handlers =
      .error ⟨kept.length + 1, kept.length⟩ := by
  rw [cleanUpFrom_cons, hptr, if_pos rfl, List.append_nil, cleanUpFrom_beyond]

/-- What is before the iterator stays, and so do the unfinished handlers. -/
theorem length_le_of_cleanUpFrom (hfinished : ∀ ptr, (handlers ptr).finished = finished ptr)
    {result : List ℕ × (ℕ → HandlerJoins)}
    (h : cleanUpFrom (kept ++ rest) kept.length handlers = .ok result) :
    kept.length + (rest.filter fun ptr => !finished ptr).length ≤ result.1.length := by
  induction rest using List.twoStepInduction generalizing kept handlers with
  | nil =>
      rw [List.append_nil, cleanUpFrom_nil] at h
      obtain rfl := Except.ok.inj h
      simp
  | singleton ptr =>
      cases hptr : finished ptr with
      | true =>
          rw [cleanUpFrom_of_finished_last ((hfinished ptr).trans hptr)] at h
          cases h
      | false =>
          rw [cleanUpFrom_of_unfinished ((hfinished ptr).trans hptr), List.append_nil,
            cleanUpFrom_nil] at h
          obtain rfl := Except.ok.inj h
          simp [hptr]
  | cons_cons ptr next rest ih ihnext =>
      have hfinished' : ∀ other, (Function.update handlers ptr
          (handlers ptr).checkJoinAll.1 other).finished = finished other := fun other => by
        rw [HandlerJoins.finished_update, hfinished]
      cases hptr : finished ptr with
      | true =>
          rw [cleanUpFrom_of_finished ((hfinished ptr).trans hptr)] at h
          have hlength := ih hfinished' h
          -- `next` stays whether it is finished or not, so nothing is lost in the count
          have hnext : (next :: rest).countP (fun ptr => !finished ptr) ≤
              rest.countP (fun ptr => !finished ptr) + 1 := by
            rw [List.countP_cons]
            split_ifs <;> omega
          rw [List.filter_cons_of_neg (by simp [hptr]), ← List.countP_eq_length_filter]
          rw [← length_concat, ← List.countP_eq_length_filter] at hlength
          omega
      | false =>
          rw [cleanUpFrom_of_unfinished ((hfinished ptr).trans hptr)] at h
          have hlength := ihnext next hfinished' h
          rw [List.filter_cons_of_pos (by simp [hptr]), List.length_cons]
          rw [← length_concat] at hlength
          omega

/-- Every finished handler is directly followed by an unfinished one. -/
def EachFollowed (finished : ℕ → Bool) : List ℕ → Prop
  | [] => True
  | ptr :: rest =>
      (finished ptr = true → ∃ next ∈ rest.head?, finished next = false) ∧
        EachFollowed finished rest

theorem eachFollowed_of_unfinished {ptr : ℕ} (hptr : finished ptr = false) :
    EachFollowed finished (ptr :: rest) ↔ EachFollowed finished rest := by
  simp [EachFollowed, hptr]

/-- With an unfinished handler at the end, no two finished handlers are side by side. -/
theorem eachFollowed_concat_iff {ptr : ℕ} (hptr : finished ptr = false) (threads : List ℕ) :
    EachFollowed finished (threads ++ [ptr]) ↔
      threads.IsChain fun first second => finished first = true → finished second = false := by
  induction threads with
  | nil => simp [EachFollowed, hptr]
  | cons head rest ih =>
      rw [List.cons_append, EachFollowed, ih]
      cases rest with
      | nil => simp [hptr]
      | cons next after => simp

/-- From the iterator on, the unfinished handlers stay and nothing else, exactly when each
finished one is followed by an unfinished one. -/
theorem cleanUpFrom_eq_filter_iff (kept rest : List ℕ)
    (hfinished : ∀ ptr, (handlers ptr).finished = finished ptr) :
    (∃ handlers', cleanUpFrom (kept ++ rest) kept.length handlers =
        .ok (kept ++ rest.filter fun ptr => !finished ptr, handlers')) ↔
      EachFollowed finished rest := by
  induction rest using List.twoStepInduction generalizing kept handlers with
  | nil =>
      refine iff_of_true ⟨handlers, ?_⟩ trivial
      rw [List.append_nil, cleanUpFrom_nil, List.filter_nil, List.append_nil]
  | singleton ptr =>
      cases hptr : finished ptr with
      | true =>
          refine iff_of_false ?_ ?_
          · rintro ⟨handlers', h⟩
            rw [cleanUpFrom_of_finished_last ((hfinished ptr).trans hptr)] at h
            cases h
          · rintro ⟨hnext, -⟩
            obtain ⟨next, hnext, -⟩ := hnext hptr
            cases hnext
      | false =>
          have hfilter : [ptr].filter (fun ptr => !finished ptr) = [ptr] := by simp [hptr]
          rw [cleanUpFrom_of_unfinished ((hfinished ptr).trans hptr), List.append_nil,
            cleanUpFrom_nil, hfilter]
          exact iff_of_true ⟨_, rfl⟩ ((eachFollowed_of_unfinished hptr).mpr trivial)
  | cons_cons ptr next rest ih ihnext =>
      have hfinished' : ∀ other, (Function.update handlers ptr
          (handlers ptr).checkJoinAll.1 other).finished = finished other := fun other => by
        rw [HandlerJoins.finished_update, hfinished]
      cases hptr : finished ptr with
      | true =>
          rw [cleanUpFrom_of_finished ((hfinished ptr).trans hptr),
            List.filter_cons_of_neg (by simp [hptr])]
          cases hnext : finished next with
          | true =>
              -- the finished `next` stays, so there are too many
              refine iff_of_false ?_ ?_
              · rintro ⟨handlers', h⟩
                have hlength := length_le_of_cleanUpFrom hfinished' h
                rw [List.filter_cons_of_neg (by simp [hnext]), ← length_concat,
                  List.length_append] at hlength
                omega
              · rintro ⟨hfollowed, -⟩
                obtain ⟨other, hother, hunfinished⟩ := hfollowed hptr
                obtain rfl := Option.some.inj hother
                rw [hnext] at hunfinished
                cases hunfinished
          | false =>
              rw [List.filter_cons_of_pos (by simp [hnext]),
                List.append_cons kept next (rest.filter _), ih _ hfinished']
              constructor
              · intro h
                exact ⟨fun _ => ⟨next, rfl, hnext⟩, (eachFollowed_of_unfinished hnext).mpr h⟩
              · intro h
                exact (eachFollowed_of_unfinished hnext).mp h.2
      | false =>
          rw [cleanUpFrom_of_unfinished ((hfinished ptr).trans hptr),
            List.filter_cons_of_pos (by simp [hptr]),
            List.append_cons kept ptr ((next :: rest).filter _), ihnext next _ hfinished',
            eachFollowed_of_unfinished hptr]

end loop

/-! ## The whole vector -/

/-- The loop stays inside the vector, ends, and leaves the unfinished handlers in their order. -/
def CleansUp (handlerThreads : List ℕ) (handlers : ℕ → HandlerJoins) : Prop :=
  ∃ handlers', cleanUp handlerThreads handlers =
    .ok (handlerThreads.filter fun ptr => !(handlers ptr).finished, handlers')

/-- **Cleaning up.**  The loop does its work exactly when every finished handler is directly
followed by an unfinished one. -/
theorem cleansUp_iff (handlerThreads : List ℕ) (handlers : ℕ → HandlerJoins) :
    CleansUp handlerThreads handlers ↔
      EachFollowed (fun ptr => (handlers ptr).finished) handlerThreads :=
  cleanUpFrom_eq_filter_iff [] handlerThreads fun _ => rfl

/-- After a client with a running handler was added, the loop does its work exactly when no
two of the other handlers that are side by side are both finished. -/
theorem addHandler_iff (handlerThreads : List ℕ) (handlerThrd : ℕ) (handlers : ℕ → HandlerJoins)
    (hrunning : (handlers handlerThrd).finished = false) :
    (∃ handlers', addHandler handlerThreads handlerThrd handlers =
        .ok ((handlerThreads.filter fun ptr => !(handlers ptr).finished) ++ [handlerThrd],
          handlers')) ↔
      handlerThreads.IsChain fun first second =>
        (handlers first).finished = true → (handlers second).finished = false := by
  have hfinished : ∀ ptr, (handlers ptr).finished = (handlers ptr).finished := fun _ => rfl
  have hiff := cleanUpFrom_eq_filter_iff [] (handlerThreads ++ [handlerThrd]) hfinished
  have hlast : [handlerThrd].filter (fun ptr => !(handlers ptr).finished) = [handlerThrd] := by
    simp [hrunning]
  rw [List.filter_append, hlast, eachFollowed_concat_iff hrunning] at hiff
  exact hiff

/-- A handler whose threads have reached their ends. -/
def endedHandler : HandlerJoins := ⟨⟨true, true, false⟩, ⟨true, true, false⟩⟩

/-- A handler whose threads run. -/
def runningHandler : HandlerJoins := ⟨⟨true, false, false⟩, ⟨true, false, false⟩⟩

/-- Two finished handlers side by side, before the handler of the new client. -/
theorem not_cleansUp_two_ended :
    ¬ CleansUp [0, 1, 2] (fun ptr => if ptr < 2 then endedHandler else runningHandler) := by
  intro h
  have hfollowed := (cleanUpFrom_eq_filter_iff [] [0, 1, 2] fun _ => rfl).mp h
  obtain ⟨next, hnext, hunfinished⟩ := hfollowed.1 rfl
  obtain rfl := Option.some.inj hnext
  cases hunfinished

end M2Cell
