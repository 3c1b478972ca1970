import M2Cell.Control.NetCommand
import M2Cell.Lib.HighWater
import M2Cell.Lib.Run

/-!
# The command factory

`NetCommandFactory` turns messages into commands.  It keeps the largest
"sequence_id" it has seen and answers a message that is not above it, an unknown
command or missing fields with the default noack.  `interpretCommand` of
`ComControl` adds the noack for messages that cannot be read at all.

A message that can be read has three parts: its JSON value, "id" and
"sequence_id" (`read?`).  `interpretCommand_spec` says what any message is answered with,
and `prevSeqId_run` that the factory is a high-water mark over what it has read.

The spec is put together from its cases.  A known command with its required fields is made,
anything else gets the default noack (`createCommand_spec`); a message that can be read gets one
or the other (`getCommandFor_of_read`), and one that cannot gets the noack that `getNoAck` makes up
(`getNoAck_spec`).  What remains is a number that overflows a `double`: it is thrown out of
`interpretCommand` (`interpretCommand_of_overflows`), since only `parse_error` is caught.
-/

namespace M2Cell

/-- `NetCommandFactory`. -/
structure NetCommandFactory where
  cmdMap : List (String × NetCommandClass)
  prevSeqId : SeqId
  deriving DecidableEq, Repr

namespace NetCommandFactory

variable {D : Type} (lib : JsonLibrary D)

/-- `NetCommandFactory::create`. -/
def create : NetCommandFactory := ⟨[], 0⟩

/-- `addNetCommand`. -/
def addNetCommand (cmd : NetCommandClass) (f : NetCommandFactory) :
    Except Issue NetCommandFactory :=
  match f.cmdMap.lookup cmd.getCommandName with
  | none => .ok { f with cmdMap := (cmd.getCommandName, cmd) :: f.cmdMap }
  | some _ =>
      .error ⟨"addNetCommand failed as this command was already in the map " ++ cmd.getCommandName,
        "addNetCommand", "NetCommandFactory.cpp", 51⟩

/-- `ComControl::setupNormalFactory`. -/
def setupNormalFactory (f : NetCommandFactory) : Except Issue NetCommandFactory := do
  let f ← f.addNetCommand .ack
  let f ← f.addNetCommand .noAck
  let f ← f.addNetCommand .echo
  let f ← f.addNetCommand .switchCommandSource
  let f ← f.addNetCommand .power
  f.addNetCommand .systemShutdown

/-- The default noack for `inJson`, with the text `userInfo`. -/
def defaultNoAck (inJson : Json D) (userInfo : String) : Except NetException NetCommand :=
  match NetCommand.createNewNetCommand lib .noAck inJson with
  | .ok cmd => .ok (cmd.setAckUserInfo userInfo)
  | .error issue => .error (.netCommand issue)

/-- The text for a "sequence_id" that is not above the previous one. -/
def badSeqId (seqId : SeqId) (cmdId : String) (prevSeqId : SeqId) : String :=
  "Bad sequence_id " ++ toString seqId ++ " " ++ cmdId ++ " previous sequence_id was " ++
    toString prevSeqId

/-- The end of `getCommandFor`: look the command up and make it. -/
def createCommand (cmdMap : List (String × NetCommandClass)) (inJson : Json D) (cmdId : String) :
    Except NetException NetCommand :=
  match cmdMap.lookup cmdId with
  | none => defaultNoAck lib inJson ("Original command not found " ++ cmdId)
  | some cmdFactory =>
      match NetCommand.createNewNetCommand lib cmdFactory inJson with
      | .ok cmdOut => .ok cmdOut
      | .error ex => defaultNoAck lib inJson ("Invalid json " ++ ex.what)

/-- `getCommandFor`. -/
def getCommandFor (jsonStr : ByteArray) (f : NetCommandFactory) :
    NetCommandFactory × Except NetException NetCommand :=
  match NetCommand.parse lib jsonStr with
  | .error ex => (f, .error ex)
  | .ok inJson =>
      match NetCommand.header lib inJson with
      | .error ex => (f, .error (.json ex))
      | .ok (cmdId, seqId) =>
          if seqId ≤ f.prevSeqId then
            (f, defaultNoAck lib inJson (badSeqId seqId cmdId f.prevSeqId))
          else
            -- the number counts as seen whatever becomes of the command
            ({ f with prevSeqId := seqId }, createCommand lib f.cmdMap inJson cmdId)

/-- The message that `getNoAck` makes up. -/
def noAckJson : Json D := (Json.null.set "id" (.string "noack")).set "sequence_id" (.integer 0)

/-- `getNoAck`. -/
def getNoAck : Except NetException NetCommand := defaultNoAck lib noAckJson "factory default noack"

/-- `ComControl::interpretCommand`: the reply to send at once, and the command to run. -/
def interpretCommand (commandStr : ByteArray) (f : NetCommandFactory) :
    NetCommandFactory × Except NetException (String × NetCommand) :=
  let result := getCommandFor lib commandStr f
  let netCmd : Except NetException NetCommand :=
    match result.2 with
    | .ok netCmd => .ok netCmd
    | .error (.netCommand _) => getNoAck lib
    -- only `NetCommandException` is caught
    | .error (.json ex) => .error (.json ex)
  (result.1, netCmd.map fun netCmd => (lib.dump netCmd.ackJson.toJson, netCmd))

/-! ## The registered commands -/

/-- The factory of the command server. -/
def normal : NetCommandFactory where
  cmdMap :=
    [("cmd_systemShutdown", .systemShutdown), ("cmd_power", .power),
      ("cmd_switchCommandSource", .switchCommandSource), ("cmd_echo", .echo),
      ("cmd_noack", .noAck), ("cmd_ack", .ack)]
  prevSeqId := 0

theorem setupNormalFactory_create : setupNormalFactory create = .ok normal := by
  decide +kernel

/-- The name decides the class. -/
theorem lookup_normal (cmdId : String) (cls : NetCommandClass) :
    normal.cmdMap.lookup cmdId = some cls ↔ cls.getCommandName = cmdId := by
  constructor
  · intro h
    simp only [normal, Json.lookup_cons_eq, List.lookup_nil] at h
    split_ifs at h with h₁ h₂ h₃ h₄ h₅ h₆ <;> cases h <;> exact Eq.symm ‹_›
  · rintro rfl
    cases cls <;> decide +kernel

theorem getCommandName_inj {cls cls' : NetCommandClass}
    (h : cls.getCommandName = cls'.getCommandName) : cls = cls' := by
  have hlookup := (lookup_normal _ cls).mpr h
  rw [(lookup_normal _ cls').mpr rfl] at hlookup
  exact (Option.some.inj hlookup).symm

/-! ## What can be read of a message -/

/-- The JSON value of a message, its "id" and its "sequence_id". -/
def read? (m : ByteArray) : Option (Json D × String × SeqId) :=
  match lib.parse m with
  | .value inJson => (NetCommand.header? lib inJson).map fun header => (inJson, header)
  | _ => none

/-- The "sequence_id" of a message that can be read. -/
def seq? (m : ByteArray) : Option SeqId := (read? lib m).map fun message => message.2.2

/-- The message is a registered command other than "cmd_noack" with its required fields. -/
def Valid (m : ByteArray) : Prop :=
  ∃ inJson seqId cls, read? lib m = some (inJson, cls.getCommandName, seqId) ∧
    cls ≠ NetCommandClass.noAck ∧ NetCommand.RequiredFields lib inJson cls

/-- A number in the message overflows a `double`. -/
def Overflows (m : ByteArray) : Prop := (lib.parse m).isOutOfRange = true

instance (m : ByteArray) : Decidable (Overflows lib m) :=
  inferInstanceAs (Decidable (_ = true))

variable {lib} {m : ByteArray}

theorem parse_of_read {inJson : Json D} {cmdId : String} {seqId : SeqId}
    (h : read? lib m = some (inJson, cmdId, seqId)) :
    NetCommand.parse lib m = .ok inJson ∧ NetCommand.header? lib inJson = some (cmdId, seqId) := by
  unfold read? at h
  cases hparse : lib.parse m with
  | value js =>
      rw [hparse] at h
      obtain ⟨header, hheader, heq⟩ := Option.map_eq_some_iff.mp h
      cases heq
      exact ⟨by simp only [NetCommand.parse, hparse, NetCommand.header_eq_ok hheader], hheader⟩
  | parseError what => simp [hparse] at h
  | outOfRange what => simp [hparse] at h

theorem parse_of_unreadable (hread : read? lib m = none) (hover : ¬ Overflows lib m) :
    ∃ issue, NetCommand.parse lib m = .error (.netCommand issue) := by
  unfold read? at hread
  cases hparse : lib.parse m with
  | value js =>
      rw [hparse] at hread
      obtain ⟨error, herror⟩ := NetCommand.header_eq_error (Option.map_eq_none_iff.mp hread)
      exact ⟨_, by simp only [NetCommand.parse, hparse, herror]; rfl⟩
  | parseError what => exact ⟨_, by simp only [NetCommand.parse, hparse]; rfl⟩
  | outOfRange what => exact absurd (by rw [Overflows, hparse]; rfl) hover

theorem parse_of_overflows (hover : Overflows lib m) :
    ∃ ex, NetCommand.parse lib m = .error (.json ex) := by
  unfold Overflows at hover
  cases hparse : lib.parse m with
  | outOfRange what => exact ⟨⟨.outOfRange, what⟩, by simp only [NetCommand.parse, hparse]⟩
  | value | parseError => simp [hparse, ParseResult.isOutOfRange] at hover

/-! ## Answers -/

theorem defaultNoAck_spec {inJson : Json D} {name : String} {seqId : SeqId} (userInfo : String)
    (h : NetCommand.header? lib inJson = some (name, seqId)) :
    ∃ cmd, defaultNoAck lib inJson userInfo = .ok cmd ∧ NetCommand.IsNoAck seqId cmd := by
  obtain ⟨cmd, hcreate, hbuilt⟩ := NetCommand.createNoAck_spec h
  exact ⟨cmd.setAckUserInfo userInfo, by simp only [defaultNoAck, hcreate],
    hbuilt.isNoAck.setAckUserInfo userInfo⟩

theorem getNoAck_spec (hlib : lib.Lawful) :
    ∃ cmd, getNoAck lib = .ok cmd ∧ NetCommand.IsNoAck 0 cmd := by
  have hseq : lib.toUInt64 (.integer 0) = some 0 := hlib.toUInt64_integer 0
  have hid : noAckJson.fetch? "id" (Json.toString? : Json D → Option String) = some "noack" := by
    simp [noAckJson, Json.fetch?, Json.find?_set, Json.toString?]
  have hnum : noAckJson.fetch? "sequence_id" lib.toUInt64 = some 0 := by
    simp [noAckJson, Json.fetch?, Json.find?_set, hseq]
  have hheader : NetCommand.header? lib noAckJson = some ("noack", 0) := by
    simp only [NetCommand.header?, hid, hnum]
  exact defaultNoAck_spec "factory default noack" hheader

/-- A command is answered: acknowledged, or with the noack, which fails. -/
structure Answered (acked : Prop) (seqId : SeqId) (cmd : NetCommand) : Prop where
  ackSeqId : cmd.ackJson.sequenceId = seqId
  respSeqId : cmd.respJson.sequenceId = seqId
  ack : acked → cmd.ackJson.id = "ack"
  noAck : ¬ acked → NetCommand.IsNoAck seqId cmd

theorem Answered.of_noAck {acked : Prop} {seqId : SeqId} {cmd : NetCommand} (hacked : ¬ acked)
    (h : NetCommand.IsNoAck seqId cmd) : Answered acked seqId cmd :=
  ⟨h.ackSeqId, h.respSeqId, fun hyes => absurd hyes hacked, fun _ => h⟩

/-- The factory that has seen the message as well. -/
def see (lib : JsonLibrary D) (m : ByteArray) (f : NetCommandFactory) : NetCommandFactory :=
  match seq? lib m with
  | some seqId => { f with prevSeqId := HighWater.next f.prevSeqId seqId }
  | none => f

/-- A message that the factory acknowledges. -/
def Accepted (lib : JsonLibrary D) (m : ByteArray) (f : NetCommandFactory) : Prop :=
  (∃ seqId, seq? lib m = some seqId ∧ f.prevSeqId < seqId) ∧ Valid lib m

variable {f : NetCommandFactory}

/-- A known command with its required fields is made, anything else gets the default noack. -/
theorem createCommand_spec {inJson : Json D} {cmdId : String} {seqId : SeqId} (acked : Prop)
    (hheader : NetCommand.header? lib inJson = some (cmdId, seqId))
    (hacked : acked ↔ ∃ cls, cls.getCommandName = cmdId ∧ cls ≠ NetCommandClass.noAck ∧
      NetCommand.RequiredFields lib inJson cls) :
    ∃ cmd, createCommand lib normal.cmdMap inJson cmdId = .ok cmd ∧ Answered acked seqId cmd := by
  unfold createCommand
  cases hlookup : normal.cmdMap.lookup cmdId with
  | none =>
      obtain ⟨cmd, hcmd, hnoAck⟩ :=
        defaultNoAck_spec ("Original command not found " ++ cmdId) hheader
      refine ⟨cmd, hcmd, .of_noAck ?_ hnoAck⟩
      intro hyes
      obtain ⟨cls, hname, -⟩ := hacked.mp hyes
      rw [(lookup_normal cmdId cls).mpr hname] at hlookup
      cases hlookup
  | some cls =>
      have hname := (lookup_normal cmdId cls).mp hlookup
      have hsame {cls'} (hname' : NetCommandClass.getCommandName cls' = cmdId) : cls' = cls :=
        getCommandName_inj (hname'.trans hname.symm)
      rcases NetCommand.checked_createNewNetCommand cls hheader with
        ⟨hfields, cmd, hcmd, hbuilt⟩ | ⟨hfields, issue, hissue⟩
      · refine ⟨cmd, by simp only [hcmd], hbuilt.ackSeqId, hbuilt.respSeqId, ?_, ?_⟩
        · intro hyes
          obtain ⟨cls', hname', hne, -⟩ := hacked.mp hyes
          rw [hsame hname'] at hne
          rw [hbuilt.ackId, if_neg hne]
        · intro hno
          by_cases hcls : cls = .noAck
          · subst hcls
            exact hbuilt.isNoAck
          · exact absurd (hacked.mpr ⟨cls, hname, hcls, hfields⟩) hno
      · obtain ⟨cmd, hcmd, hnoAck⟩ := defaultNoAck_spec ("Invalid json " ++ issue.what) hheader
        refine ⟨cmd, by simp only [hissue, hcmd], .of_noAck ?_ hnoAck⟩
        intro hyes
        obtain ⟨cls', hname', -, hfields'⟩ := hacked.mp hyes
        rw [hsame hname'] at hfields'
        exact hfields hfields'

/-- A message that can be read is acknowledged or answered with the default noack. -/
theorem getCommandFor_of_read (hmap : f.cmdMap = normal.cmdMap) {inJson : Json D} {cmdId : String}
    {seqId : SeqId} (hread : read? lib m = some (inJson, cmdId, seqId)) :
    (getCommandFor lib m f).1 = f.see lib m ∧
      ∃ cmd, (getCommandFor lib m f).2 = .ok cmd ∧ Answered (f.Accepted lib m) seqId cmd := by
  obtain ⟨hparse, hheader⟩ := parse_of_read hread
  have hseq : seq? lib m = some seqId := by rw [seq?, hread]; rfl
  simp only [getCommandFor, hparse, NetCommand.header_eq_ok hheader, see, hseq, HighWater.next]
  by_cases hle : seqId ≤ f.prevSeqId
  · -- a number that is not above the mark
    obtain ⟨cmd, hcmd, hnoAck⟩ := defaultNoAck_spec (badSeqId seqId cmdId f.prevSeqId) hheader
    rw [if_pos hle, if_pos hle]
    refine ⟨rfl, cmd, hcmd, .of_noAck ?_ hnoAck⟩
    rintro ⟨⟨seqId', hseq', hlt⟩, -⟩
    rw [hseq] at hseq'
    cases hseq'
    exact absurd hle (not_le.mpr hlt)
  · rw [if_neg hle, if_neg hle]
    refine ⟨rfl, ?_⟩
    rw [hmap]
    apply createCommand_spec _ hheader
    constructor
    · rintro ⟨-, inJson', seqId', cls, hread', hne, hfields⟩
      rw [hread] at hread'
      cases hread'
      exact ⟨cls, rfl, hne, hfields⟩
    · rintro ⟨cls, rfl, hne, hfields⟩
      exact ⟨⟨seqId, hseq, not_le.mp hle⟩, inJson, seqId, cls, hread, hne, hfields⟩

theorem fst_getCommandFor (hmap : f.cmdMap = normal.cmdMap) (m : ByteArray) :
    (getCommandFor lib m f).1 = f.see lib m := by
  cases hread : read? lib m with
  | some message => exact (getCommandFor_of_read hmap hread).1
  | none =>
      have hseq : seq? lib m = none := by rw [seq?, hread]; rfl
      by_cases hover : Overflows lib m
      · obtain ⟨ex, hparse⟩ := parse_of_overflows hover
        simp only [getCommandFor, hparse, see, hseq]
      · obtain ⟨issue, hparse⟩ := parse_of_unreadable hread hover
        simp only [getCommandFor, hparse, see, hseq]

/-- **Any message** without an overflowing number is acknowledged or answered
with a noack, under its own "sequence_id" or 0. -/
theorem interpretCommand_spec (hlib : lib.Lawful) (hmap : f.cmdMap = normal.cmdMap)
    (hover : ¬ Overflows lib m) :
    ∃ cmd, (interpretCommand lib m f).2 = .ok (lib.dump cmd.ackJson.toJson, cmd) ∧
      Answered (f.Accepted lib m) ((seq? lib m).getD 0) cmd := by
  cases hread : read? lib m with
  | some message =>
      obtain ⟨inJson, cmdId, seqId⟩ := message
      obtain ⟨-, cmd, hcmd, hanswered⟩ := getCommandFor_of_read hmap hread
      refine ⟨cmd, by simp only [interpretCommand, hcmd, Except.map], ?_⟩
      rw [seq?, hread]
      exact hanswered
  | none =>
      obtain ⟨issue, hparse⟩ := parse_of_unreadable hread hover
      obtain ⟨cmd, hcmd, hnoAck⟩ := getNoAck_spec hlib
      refine ⟨cmd, by simp only [interpretCommand, getCommandFor, hparse, hcmd, Except.map], ?_⟩
      rw [seq?, hread]
      refine .of_noAck ?_ hnoAck
      rintro ⟨-, inJson, seqId, cls, hread', -⟩
      rw [hread] at hread'
      cases hread'

/-- An overflowing number is thrown out of `interpretCommand`. -/
theorem interpretCommand_of_overflows (hover : Overflows lib m) :
    ∃ ex, (interpretCommand lib m f).2 = .error ex := by
  obtain ⟨ex, hparse⟩ := parse_of_overflows hover
  exact ⟨.json ex, by simp only [interpretCommand, getCommandFor, hparse, Except.map]⟩

/-! ## Runs of the factory -/

/-- The factory after a message, which may come on any connection. -/
def receive (lib : JsonLibrary D) (f : NetCommandFactory) (m : ByteArray) : NetCommandFactory :=
  (interpretCommand lib m f).1

theorem receive_eq (hmap : f.cmdMap = normal.cmdMap) (m : ByteArray) :
    receive lib f m = f.see lib m :=
  fst_getCommandFor hmap m

theorem see_of_none (hseq : seq? lib m = none) : f.see lib m = f := by
  rw [see, hseq]

theorem see_of_some {seqId : SeqId} (hseq : seq? lib m = some seqId) :
    f.see lib m = { f with prevSeqId := HighWater.next f.prevSeqId seqId } := by
  rw [see, hseq]

@[simp] theorem cmdMap_see (m : ByteArray) : (f.see lib m).cmdMap = f.cmdMap := by
  unfold see
  split <;> rfl

theorem cmdMap_run (hmap : f.cmdMap = normal.cmdMap) (ms : List ByteArray) :
    (run (receive lib) f ms).cmdMap = normal.cmdMap := by
  refine run_invariant (fun f : NetCommandFactory => f.cmdMap = normal.cmdMap) ?_ hmap ms
  intro f m hf
  rw [receive_eq hf, cmdMap_see, hf]

/-- **The factory is a high-water mark** over the numbers it has read. -/
theorem prevSeqId_run (hmap : f.cmdMap = normal.cmdMap) (ms : List ByteArray) :
    (run (receive lib) f ms).prevSeqId =
      HighWater.mark f.prevSeqId (ms.filterMap (seq? lib)) := by
  induction ms generalizing f with
  | nil => rfl
  | cons m rest ih =>
      have hmap' : (f.see lib m).cmdMap = normal.cmdMap := by rw [cmdMap_see, hmap]
      rw [run_cons, receive_eq hmap, ih hmap']
      cases hseq : seq? lib m with
      | none => rw [see_of_none hseq, List.filterMap_cons_none hseq]
      | some seqId => rw [see_of_some hseq, List.filterMap_cons_some hseq, HighWater.mark_cons]

end NetCommandFactory

end M2Cell
