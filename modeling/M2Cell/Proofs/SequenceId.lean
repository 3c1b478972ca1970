import M2Cell.Control.NetCommandFactory

/-!
# Ill-formed sequence numbers

`getCommandFor` rejects a message, without an effect on the factory, exactly when
the conversion of its "sequence_id" to `uint64_t` throws (`rejected_iff`): a
command that was made or answered with the default noack is no rejection.  The
conversion casts every number, so a negative or a fractional one is taken for
another number, and it may be the largest one.

The conversion is inverted first (`toUInt64_eq_none_iff`): it fails on what is no number, and on
a boolean if the library throws there.  Then a message falls into one of two classes.  If it
cannot be read, `getCommandFor` throws before it touches the factory
(`rejected_of_unreadable`); if it can, there is a command in the end, be it the default noack
(`not_rejected_of_read`).
-/

namespace M2Cell

variable {D : Type} {lib : JsonLibrary D}

/-- A non-negative integer that 64 bits can represent. -/
def IsSeqId : Json D → Prop
  | .integer n => 0 ≤ n ∧ n < 2 ^ 64
  | _ => False

/-- The message is an object with a string "id" and the "sequence_id" `value`. -/
def HasSeqId (lib : JsonLibrary D) (m : ByteArray) (value : Json D) : Prop :=
  ∃ js id, lib.parse m = .value js ∧ js.find? "id" = some (.string id) ∧
    js.find? "sequence_id" = some value

/-- Values that are no number; of a boolean when the conversion throws on it. -/
def NotCast (lib : JsonLibrary D) : Json D → Prop
  | .integer _ => False
  | .float _ => False
  | .boolean b => lib.toUInt64 (.boolean b) = none
  | .string _ => True
  | .null => True
  | .array _ => True
  | .object _ => True

theorem toUInt64_eq_none_iff (hlib : lib.CastsNumbers) (value : Json D) :
    lib.toUInt64 value = none ↔ NotCast lib value := by
  cases value with
  | integer n => simp [NotCast, hlib.integer]
  | float d =>
      obtain ⟨n, hn⟩ := hlib.float d
      simp [NotCast, hn]
  | boolean b => exact Iff.rfl
  | string s => simp [NotCast, hlib.string]
  | null => simp [NotCast, hlib.null]
  | array items => simp [NotCast, hlib.array]
  | object members => simp [NotCast, hlib.object]

namespace NetCommandFactory

/-- `getCommandFor` throws a `NetCommandException` and the factory stays as it is. -/
def Rejected (lib : JsonLibrary D) (m : ByteArray) (f : NetCommandFactory) : Prop :=
  (∃ issue, (getCommandFor lib m f).2 = .error (.netCommand issue)) ∧
    (getCommandFor lib m f).1 = f

variable {m : ByteArray} {f : NetCommandFactory}

/-- A message that cannot be read is rejected when it is JSON. -/
theorem rejected_of_unreadable (hread : read? lib m = none) (hover : ¬ Overflows lib m) :
    Rejected lib m f := by
  obtain ⟨issue, hparse⟩ := parse_of_unreadable hread hover
  refine ⟨⟨issue, ?_⟩, ?_⟩ <;> simp only [getCommandFor, hparse]

/-- With "id" and "sequence_id" read, some command is made. -/
theorem exists_createCommand (cmdMap : List (String × NetCommandClass)) {inJson : Json D}
    {cmdId : String} {seqId : SeqId}
    (hheader : NetCommand.header? lib inJson = some (cmdId, seqId)) :
    ∃ cmd, createCommand lib cmdMap inJson cmdId = .ok cmd := by
  have hnoAck (userInfo : String) : ∃ cmd, defaultNoAck lib inJson userInfo = .ok cmd := by
    obtain ⟨cmd, hcmd, -⟩ := defaultNoAck_spec userInfo hheader
    exact ⟨cmd, hcmd⟩
  unfold createCommand
  cases cmdMap.lookup cmdId with
  | none => exact hnoAck _
  | some cmdFactory =>
      dsimp only
      cases NetCommand.createNewNetCommand lib cmdFactory inJson with
      | ok cmdOut => exact ⟨cmdOut, rfl⟩
      | error ex => exact hnoAck _

/-- A message that can be read is not rejected. -/
theorem not_rejected_of_read {message : Json D × String × SeqId}
    (hread : read? lib m = some message) : ¬ Rejected lib m f := by
  obtain ⟨inJson, cmdId, seqId⟩ := message
  obtain ⟨hparse, hheader⟩ := parse_of_read hread
  rintro ⟨⟨issue, hissue⟩, -⟩
  simp only [getCommandFor, hparse, NetCommand.header_eq_ok hheader] at hissue
  -- a number that is not larger is answered with the default noack
  by_cases hle : seqId ≤ f.prevSeqId
  · obtain ⟨cmd, hcmd, -⟩ := defaultNoAck_spec (badSeqId seqId cmdId f.prevSeqId) hheader
    rw [if_pos hle, hcmd] at hissue
    cases hissue
  · obtain ⟨cmd, hcmd⟩ := exists_createCommand f.cmdMap hheader
    rw [if_neg hle, hcmd] at hissue
    cases hissue

/-- What is read of a message is decided by the conversion. -/
theorem read?_eq_none_iff {value : Json D} (hm : HasSeqId lib m value) :
    read? lib m = none ↔ lib.toUInt64 value = none := by
  obtain ⟨js, id, hparse, hid, hvalue⟩ := hm
  have hname : js.fetch? "id" (Json.toString? : Json D → Option String) = some id := by
    rw [Json.fetch?, hid, Option.bind_some, Json.toString?]
  have hnumber : js.fetch? "sequence_id" lib.toUInt64 = lib.toUInt64 value := by
    rw [Json.fetch?, hvalue, Option.bind_some]
  simp only [read?, hparse, NetCommand.header?, hname, hnumber]
  cases lib.toUInt64 value <;> simp

theorem not_overflows {value : Json D} (hm : HasSeqId lib m value) : ¬ Overflows lib m := by
  obtain ⟨js, id, hparse, -⟩ := hm
  simp [Overflows, hparse, ParseResult.isOutOfRange]

/-- **A "sequence_id"**, ill-formed or not, is rejected without effect exactly when it
is no number, and for a boolean when the conversion throws. -/
theorem rejected_iff (hlib : lib.CastsNumbers) (m : ByteArray) (f : NetCommandFactory)
    (value : Json D) (hm : HasSeqId lib m value) :
    Rejected lib m f ↔ NotCast lib value := by
  rw [← toUInt64_eq_none_iff hlib, ← read?_eq_none_iff hm]
  constructor
  · intro hrejected
    by_contra hread
    obtain ⟨message, hmessage⟩ := Option.ne_none_iff_exists'.mp hread
    exact not_rejected_of_read hmessage hrejected
  · intro hread
    exact rejected_of_unreadable hread (not_overflows hm)

/-- A message with the "sequence_id" `value`. -/
def seqIdMessage (value : Json ℚ) : Json ℚ :=
  (Json.null.set "id" (.string "cmd_ack")).set "sequence_id" value

theorem hasSeqId_seqIdMessage (value : Json ℚ) :
    HasSeqId (.listedValues [seqIdMessage value]) (seqIdMessage value).dump.toUTF8 value := by
  refine ⟨seqIdMessage value, "cmd_ack", ?_, ?_, ?_⟩
  · exact JsonLibrary.roundTrips_listedValues (by simp) List.mem_cons_self
  · simp [seqIdMessage, Json.find?_set]
  · simp [seqIdMessage, Json.find?_set]

/-- A "sequence_id" that is a string. -/
theorem rejected_iff_hello :
    Rejected (.listedValues [seqIdMessage (.string "hello")])
        (seqIdMessage (.string "hello")).dump.toUTF8 normal ↔
      NotCast (.listedValues [seqIdMessage (.string "hello")]) (.string "hello") :=
  rejected_iff (JsonLibrary.castsNumbers_listed _) _ normal _ (hasSeqId_seqIdMessage _)

/-- The "sequence_id" -1 is acknowledged, and no later message has a larger one. -/
theorem not_rejected_minus_one :
    HasSeqId (.listedValues [seqIdMessage (.integer (-1))])
        (seqIdMessage (.integer (-1))).dump.toUTF8 (.integer (-1)) ∧
      ¬ IsSeqId (.integer (-1) : Json ℚ) ∧
      ¬ Rejected (.listedValues [seqIdMessage (.integer (-1))])
        (seqIdMessage (.integer (-1))).dump.toUTF8 normal ∧
      (getCommandFor (.listedValues [seqIdMessage (.integer (-1))])
        (seqIdMessage (.integer (-1))).dump.toUTF8 normal).1.prevSeqId = Fin.last (2 ^ 64 - 1) := by
  refine ⟨hasSeqId_seqIdMessage _, ?_, ?_, ?_⟩
  · simp [IsSeqId]
  · rintro ⟨-, hsame⟩
    have hseq : (getCommandFor (.listedValues [seqIdMessage (.integer (-1))])
        (seqIdMessage (.integer (-1))).dump.toUTF8 normal).1.prevSeqId ≠ 0 := by
      decide +kernel
    rw [hsame] at hseq
    exact hseq rfl
  · decide +kernel

end NetCommandFactory

end M2Cell
