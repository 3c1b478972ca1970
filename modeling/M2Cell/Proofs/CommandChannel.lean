import M2Cell.Control.NetCommandFactory

/-!
# The command channel

What the clients of the command server are promised, for any list of messages
given to one factory.  A message is acknowledged when its "sequence_id" is above
everything read before it and it is a valid command, and every reply carries the
"sequence_id" of the message, or 0 when it cannot be read.  So no message is
acknowledged, or has its action executed, a second time.

`interpretCommand` lets an exception out exactly when a number of the message
overflows a `double`: the parser throws `out_of_range` then, and only
`parse_error` is caught.

One message is the subject of `interpretCommand_spec`, which this module uses after any list of
earlier ones: the factory has its map of commands as it was (`cmdMap_after`), and a number is
above all that were read before exactly when it is above `_prevSeqId`
(`prevSeqId_after_lt_iff`).  That nothing is acknowledged twice is a statement about the numbers
alone: they are a sublist of those that a high-water mark takes (`acks_sublist_taken`), and these
increase.
-/

namespace M2Cell

namespace NetCommandFactory

variable {D : Type} (lib : JsonLibrary D)

/-- The factory after the messages `earlier`. -/
def after (earlier : List ByteArray) : NetCommandFactory := run (receive lib) normal earlier

/-- The message has a "sequence_id" above 0 and above all that were read before it. -/
def Fresh (earlier : List ByteArray) (m : ByteArray) : Prop :=
  ∃ seqId, seq? lib m = some seqId ∧ 0 < seqId ∧
    ∀ m' ∈ earlier, ∀ seqId', seq? lib m' = some seqId' → seqId' < seqId

/-- The reply law for the message `m` after the messages `earlier`. -/
structure Replied (earlier : List ByteArray) (m : ByteArray) (cmd : NetCommand) : Prop where
  interpreted : (interpretCommand lib m (after lib earlier)).2 =
    .ok (lib.dump cmd.ackJson.toJson, cmd)
  ackSeqId : cmd.ackJson.sequenceId = (seq? lib m).getD 0
  respSeqId : ∀ (clock : Clocks) (controller : Controller D),
    (cmd.run clock controller).2.sequenceId = (seq? lib m).getD 0
  ack_iff : cmd.ackJson.id = "ack" ↔ Fresh lib earlier m ∧ Valid lib m
  /-- Without an acknowledgement nothing happens but a final "fail". -/
  noAck : cmd.ackJson.id ≠ "ack" → cmd.ackJson.id = "noack" ∧
    ∀ (clock : Clocks) (controller : Controller D),
      (cmd.run clock controller).1 = controller ∧ (cmd.run clock controller).2.id = "fail"

/-- The "sequence_id"s of the acknowledgements that the messages get from `f`. -/
def acks (f : NetCommandFactory) : List ByteArray → List SeqId
  | [] => []
  | m :: rest =>
      match (interpretCommand lib m f).2 with
      | .ok (_, cmd) =>
          if cmd.ackJson.id = "ack" then cmd.ackJson.sequenceId :: acks (receive lib f m) rest
          else acks (receive lib f m) rest
      | .error _ => acks (receive lib f m) rest

/-- The reply law of the command channel. -/
structure ReplyLaw (ms : List ByteArray) : Prop where
  replied : ∀ earlier m later, ms = earlier ++ m :: later → ∃ cmd, Replied lib earlier m cmd
  /-- The acknowledgements are in order, so none comes twice. -/
  increasing : (acks lib normal ms).Pairwise (· < ·)
  monotone : ∀ earlier later, ms = earlier ++ later →
    (after lib earlier).prevSeqId ≤ (after lib ms).prevSeqId
  /-- `_prevSeqId` is the largest number read. -/
  prevSeqId : (∀ m ∈ ms, ∀ seqId, seq? lib m = some seqId → seqId ≤ (after lib ms).prevSeqId) ∧
    ((after lib ms).prevSeqId = 0 ∨ ∃ m ∈ ms, seq? lib m = some (after lib ms).prevSeqId)

variable {lib} {earlier : List ByteArray} {m : ByteArray}

theorem cmdMap_after (earlier : List ByteArray) :
    (after lib earlier).cmdMap = normal.cmdMap :=
  cmdMap_run rfl earlier

theorem prevSeqId_after (earlier : List ByteArray) :
    (after lib earlier).prevSeqId = HighWater.mark 0 (earlier.filterMap (seq? lib)) :=
  prevSeqId_run rfl earlier

/-! ## Freshness -/

theorem prevSeqId_after_lt_iff (earlier : List ByteArray) (seqId : SeqId) :
    (after lib earlier).prevSeqId < seqId ↔
      0 < seqId ∧ ∀ m' ∈ earlier, ∀ seqId', seq? lib m' = some seqId' → seqId' < seqId := by
  rw [prevSeqId_after, HighWater.mark_filterMap_lt_iff]

/-- The factory accepts exactly the fresh valid messages. -/
theorem accepted_after_iff (earlier : List ByteArray) (m : ByteArray) :
    (after lib earlier).Accepted lib m ↔ Fresh lib earlier m ∧ Valid lib m := by
  apply and_congr_left
  intro _
  constructor
  · rintro ⟨seqId, hseq, hlt⟩
    exact ⟨seqId, hseq, (prevSeqId_after_lt_iff earlier seqId).mp hlt⟩
  · rintro ⟨seqId, hseq, hlt⟩
    exact ⟨seqId, hseq, (prevSeqId_after_lt_iff earlier seqId).mpr hlt⟩

/-! ## The reply to one message -/

theorem Answered.ack_iff {acked : Prop} {seqId : SeqId} {cmd : NetCommand}
    (h : Answered acked seqId cmd) : cmd.ackJson.id = "ack" ↔ acked := by
  constructor
  · intro hid
    by_contra hno
    rw [(h.noAck hno).ackId] at hid
    exact absurd hid (by decide)
  · exact h.ack

theorem replied_of_not_overflows (hlib : lib.Lawful) (earlier : List ByteArray)
    (hover : ¬ Overflows lib m) : ∃ cmd, Replied lib earlier m cmd := by
  obtain ⟨cmd, hcmd, hanswered⟩ := interpretCommand_spec hlib (cmdMap_after earlier) hover
  have hack := hanswered.ack_iff
  rw [accepted_after_iff] at hack
  refine ⟨cmd, hcmd, hanswered.ackSeqId, fun _ _ => hanswered.respSeqId, hack, ?_⟩
  intro hid
  have hnoAck := hanswered.noAck fun hyes => hid (hanswered.ack hyes)
  exact ⟨hnoAck.ackId, fun clock controller => hnoAck.run clock controller⟩

/-! ## The acknowledgements of a run -/

/-- The acknowledged numbers are among those that a high-water mark takes. -/
theorem acks_sublist_taken (hlib : lib.Lawful) {f : NetCommandFactory}
    (hmap : f.cmdMap = normal.cmdMap) {ms : List ByteArray}
    (hms : ∀ m ∈ ms, ¬ Overflows lib m) :
    (acks lib f ms).Sublist (HighWater.taken f.prevSeqId (ms.filterMap (seq? lib))) := by
  induction ms generalizing f with
  | nil => exact List.Sublist.slnil
  | cons m rest ih =>
      obtain ⟨cmd, hcmd, hanswered⟩ :=
        interpretCommand_spec hlib hmap (hms m List.mem_cons_self)
      have hrest := ih (f := receive lib f m) (by rw [receive_eq hmap, cmdMap_see, hmap])
        fun m' hm' => hms m' (List.mem_cons_of_mem m hm')
      simp only [acks, hcmd]
      rw [receive_eq hmap] at hrest ⊢
      cases hseq : seq? lib m with
      | none =>
          -- an unreadable message is not acknowledged
          have hno : ¬ f.Accepted lib m := by
            rintro ⟨⟨seqId, hsome, -⟩, -⟩
            rw [hseq] at hsome
            cases hsome
          rw [if_neg (mt hanswered.ack_iff.mp hno), List.filterMap_cons_none hseq]
          rwa [see_of_none hseq] at hrest ⊢
      | some seqId =>
          rw [List.filterMap_cons_some hseq, HighWater.taken]
          rw [see_of_some hseq] at hrest ⊢
          -- a number that is not above the mark is neither taken nor acknowledged
          by_cases hle : seqId ≤ f.prevSeqId
          · have hno : ¬ f.Accepted lib m := by
              rintro ⟨⟨seqId', hsome, hlt⟩, -⟩
              rw [hseq] at hsome
              cases hsome
              exact absurd hle (not_le.mpr hlt)
            rw [if_neg (mt hanswered.ack_iff.mp hno), if_pos hle]
            rwa [HighWater.next, if_pos hle] at hrest ⊢
          · have hackSeq : cmd.ackJson.sequenceId = seqId := by
              rw [hanswered.ackSeqId, hseq, Option.getD_some]
            rw [if_neg hle, hackSeq]
            split_ifs
            · exact hrest.cons_cons seqId
            · exact hrest.cons seqId

/-! ## The reply law -/

/-- **The reply law** of the command channel. -/
theorem replyLaw (lib : JsonLibrary D) (hlib : lib.Lawful) (ms : List ByteArray)
    (hms : ∀ m ∈ ms, ¬ Overflows lib m) : ReplyLaw lib ms where
  replied earlier m later hsplit :=
    replied_of_not_overflows hlib earlier (hms m (by rw [hsplit]; simp))
  increasing := (HighWater.taken_pairwise _ _).sublist (acks_sublist_taken hlib rfl hms)
  monotone earlier later hsplit := by
    rw [prevSeqId_after, prevSeqId_after, hsplit, List.filterMap_append, HighWater.mark_append]
    exact HighWater.le_mark _ _
  prevSeqId := by
    rw [prevSeqId_after]
    refine ⟨fun m hm seqId hseq => HighWater.mem_le_mark ?_, ?_⟩
    · exact List.mem_filterMap.mpr ⟨m, hm, hseq⟩
    · rcases HighWater.mark_mem 0 (ms.filterMap (seq? lib)) with hzero | hmem
      · exact Or.inl hzero
      · exact Or.inr (List.mem_filterMap.mp hmem)

/-- The JSON value of a command without fields. -/
def commandJson (id : String) (seqId : ℤ) : Json ℚ :=
  (Json.null.set "id" (.string id)).set "sequence_id" (.integer seqId)

/-- An echo, the same message again, an unknown command, and no JSON at all. -/
theorem replyLaw_replayed :
    ReplyLaw
      (.listedValues [(commandJson "cmd_echo" 5).set "msg" (.string "x"), commandJson "cmd_x" 7])
      [((commandJson "cmd_echo" 5).set "msg" (.string "x")).dump.toUTF8,
        ((commandJson "cmd_echo" 5).set "msg" (.string "x")).dump.toUTF8,
        (commandJson "cmd_x" 7).dump.toUTF8, "x".toUTF8] :=
  replyLaw _ (JsonLibrary.lawful_listed _) _ (by decide +kernel)

/-! ## Exceptions -/

/-- `interpretCommand` returns an acknowledgement or a noack, and a command. -/
def Returns (lib : JsonLibrary D) (m : ByteArray) (f : NetCommandFactory) : Prop :=
  ∃ cmd, (interpretCommand lib m f).2 = .ok (lib.dump cmd.ackJson.toJson, cmd) ∧
    (cmd.ackJson.id = "ack" ∨ cmd.ackJson.id = "noack")

/-- **No exception escapes** from `interpretCommand` exactly when no number of the
message overflows, whatever came before. -/
theorem returns_iff (lib : JsonLibrary D) (hlib : lib.Lawful) (earlier : List ByteArray)
    (m : ByteArray) : Returns lib m (after lib earlier) ↔ ¬ Overflows lib m := by
  constructor
  · rintro ⟨cmd, hcmd, -⟩ hover
    obtain ⟨ex, hex⟩ := interpretCommand_of_overflows (f := after lib earlier) hover
    rw [hex] at hcmd
    cases hcmd
  · intro hover
    obtain ⟨cmd, hcmd⟩ := replied_of_not_overflows hlib earlier hover
    refine ⟨cmd, hcmd.interpreted, ?_⟩
    by_cases hid : cmd.ackJson.id = "ack"
    · exact Or.inl hid
    · exact Or.inr (hcmd.noAck hid).1

theorem returns_iff_garbage :
    Returns (.listedValues []) "x".toUTF8 (after (.listedValues []) []) ↔
      ¬ Overflows (.listedValues []) "x".toUTF8 :=
  returns_iff _ (JsonLibrary.lawful_listed _) [] _

/-- A number that overflows. -/
def overflowing : JsonLibrary ℚ :=
  .listed [("1e999".toUTF8, .outOfRange
    "[json.exception.out_of_range.406] number overflow parsing '1e999'")]

/-- The text `1e999` throws out of `interpretCommand`. -/
theorem not_returns_overflowing : ¬ Returns overflowing "1e999".toUTF8 normal := by
  rintro ⟨cmd, hcmd, -⟩
  have hover : Overflows overflowing "1e999".toUTF8 := by decide +kernel
  obtain ⟨ex, hex⟩ := interpretCommand_of_overflows (f := normal) hover
  rw [hex] at hcmd
  cases hcmd

end NetCommandFactory

end M2Cell
