import M2Cell.Server.OutgoingWrites

/-!
# Outgoing messages and their mixing

Nothing keeps the writes of a connection apart: there is no queue of messages and no
strand.  A step that starts a write leaves the stream as it is, and a step that sends
bytes keeps the messages apart exactly when no other message is partly sent and the ack
of a final reply is there (`unmixed_step_iff`).  `unmixed_iff` is the statement about
runs, for the numbered bytes and for the bytes that the client reads.

The stream is that of `M2Cell.Lib.SharedStream`, where each byte has the number of its write, so
that mixing is a matter of these numbers: `SharedStream.unmixed_send_iff` is the one step in
which it can begin.  That the text of an unmixed stream is a concatenation of whole messages is
`Unmixed.concatenated`.
-/

namespace M2Cell

namespace Outgoing

variable {s : Outgoing}

theorem unmixed_start : start.Unmixed := SharedStream.unmixed_empty

/-- Starting a write sends nothing. -/
theorem Unmixed.asyncWrite (h : s.Unmixed) (kind : OutgoingWrite) (msg : String) :
    (s.asyncWrite kind msg).Unmixed := by
  refine SharedStream.Unmixed.start h (fun write ack hlt hneeds => ?_) (buffer msg)
  rw [← s.aligned] at hlt
  rwa [Needs, Outgoing.asyncWrite, List.getElem?_append_left hlt] at hneeds

/-- **One step** keeps the messages apart exactly when its bytes are sent alone. -/
theorem unmixed_step_iff (action : OutgoingAction) (h : s.Unmixed) :
    (s.step action).Unmixed ↔ s.Alone action := by
  cases action with
  | readCommand responseStr =>
      refine iff_of_true ?_ trivial
      simp only [step]
      split_ifs
      · exact h.asyncWrite .ack responseStr
      · exact h
  | finalReply ack finalMsg =>
      refine iff_of_true ?_ trivial
      simp only [step]
      split_ifs
      · exact h.asyncWrite (.final ack) finalMsg
      · exact h
  | asyncWriteToAllComConn msg => exact iff_of_true (h.asyncWrite .broadcast msg) trivial
  | asyncWriteSome write bytes => exact SharedStream.unmixed_send_iff h
  | responseSent =>
      refine iff_of_true ?_ trivial
      simp only [step]
      split
      · split_ifs <;> exact h
      · exact h

/-- **The messages of a connection.**  They are kept apart in the runs in which bytes are
only sent while no other message is partly sent and after the ack that they need, and in
no others.  In these runs the client reads whole messages, each once, and at the end
perhaps a part of one more. -/
theorem unmixed_iff (actions : List OutgoingAction) :
    (Always step (fun s action => (s.step action).Unmixed) start actions ↔
      Always step Alone start actions) ∧
    (Always step Alone start actions →
      Always step (fun s action => (s.step action).Concatenated) start actions) := by
  have hiff := always_iff_of_step Unmixed (fun s action h => unmixed_step_iff action h)
    unmixed_start actions
  refine ⟨hiff, fun halone => ?_⟩
  refine Always.imp Unmixed (fun s action h hcond => ?_) unmixed_start halone
  have hnext := (unmixed_step_iff action h).mpr hcond
  exact ⟨hnext, hnext.concatenated⟩

/-- An ack and a broadcast, the first of which is sent in two parts. -/
theorem not_concatenated_twoParts :
    ¬ Always step (fun s action => (s.step action).Concatenated) start
      [.readCommand "a", .asyncWriteToAllComConn "b", .asyncWriteSome 0 1, .asyncWriteSome 1 3,
        .asyncWriteSome 0 2] := by
  intro h
  have hlast := (always_iff_split _ _).mp h [.readCommand "a", .asyncWriteToAllComConn "b",
    .asyncWriteSome 0 1, .asyncWriteSome 1 3] (.asyncWriteSome 0 2) [] rfl
  obtain ⟨order, hperm, hitems, _⟩ := hlast.finished (by decide +kernel)
  obtain ⟨first, second, rfl⟩ := List.length_eq_two.mp hperm.length_eq
  have hmixed : ∀ first < 2, ∀ second < 2, ([97, 98, 13, 10, 13, 10] : List UInt8) ≠
      [first, second].flatMap ([[97, 13, 10], [98, 13, 10]].getD · []) := by
    decide
  have hmem (i : ℕ) (hi : i ∈ [first, second]) : i < 2 := List.mem_range.mp (hperm.mem_iff.mp hi)
  exact hmixed first (hmem first (by simp)) second (hmem second (by simp)) hitems

end Outgoing

end M2Cell
