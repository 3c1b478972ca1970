import M2Cell.Proofs.CommandChannel

/-!
# Clients on one factory

`ControlMain` makes one `NetCommandFactory`, and `ComControlServer` hands it to the
connection of every client, so the numbers of all clients meet in one
`_prevSeqId`.  The decisions a client gets are those it would get alone exactly
when no other client was ahead of it: at every message that would be
acknowledged alone, all numbers read from the others before are smaller.

Two runs are compared, one of all messages and one of the client's own.  `decisions_eq_iff` is
the induction on the messages: the decisions are the same in both runs when they are at each
message of the client, with what came before it as the difference.  Whether a number is fresh is
a matter of the largest one before (`fresh_iff`), and so the comparison of two decisions comes
down to `HighWater.fresh_iff_of_own` (`fresh_own_iff`).
-/

namespace M2Cell

open NetCommandFactory

variable {D : Type} (lib : JsonLibrary D)

/-- `ComControlServer`. -/
structure ComControlServer where
  cmdFactory : NetCommandFactory

/-- The clients, by their connections. -/
abbrev Client := ℕ

namespace ComControlServer

/-- The server that `ControlMain` starts. -/
def new : ComControlServer := ⟨normal⟩

/-- A message on the connection of a client: every connection has the server's factory. -/
def receive (s : ComControlServer) (message : Client × ByteArray) : ComControlServer :=
  ⟨NetCommandFactory.receive lib s.cmdFactory message.2⟩

/-- Whether a message is acknowledged; `none` when an exception escapes. -/
def decision (s : ComControlServer) (m : ByteArray) : Option Bool :=
  match (interpretCommand lib m s.cmdFactory).2 with
  | .ok (_, cmd) => some (cmd.ackJson.id == "ack")
  | .error _ => none

/-- The decisions that the client `a` gets in a run. -/
def decisions (a : Client) (s : ComControlServer) : List (Client × ByteArray) → List (Option Bool)
  | [] => []
  | message :: rest =>
      if message.1 = a then decision lib s message.2 :: decisions a (s.receive lib message) rest
      else decisions a (s.receive lib message) rest

/-- The messages of a client. -/
def own (a : Client) (messages : List (Client × ByteArray)) : List (Client × ByteArray) :=
  messages.filter fun message => message.1 = a

/-- The number of a message. -/
def seqOf (message : Client × ByteArray) : Option SeqId := seq? lib message.2

/-- The client `a` gets the decisions that it would get alone. -/
def Undisturbed (a : Client) (messages : List (Client × ByteArray)) : Prop :=
  decisions lib a new messages = decisions lib a new (own a messages)

/-- When the client `a` sends a message that would be acknowledged if it were
alone, the numbers read from the other clients are smaller. -/
def NobodyAhead (a : Client) (messages : List (Client × ByteArray)) : Prop :=
  ∀ earlier m later, messages = earlier ++ (a, m) :: later →
    Fresh lib ((own a earlier).map Prod.snd) m → Valid lib m →
      ∀ other ∈ earlier, other.1 ≠ a → ∀ k, seqOf lib other = some k → ∀ seqId,
        seq? lib m = some seqId → k < seqId

variable {lib} {a : Client} {s t : ComControlServer}

/-! ## One decision -/

theorem decision_eq_some (hlib : lib.Lawful) (earlier : List ByteArray) {m : ByteArray}
    (hover : ¬ Overflows lib m) :
    ∃ b, decision lib ⟨after lib earlier⟩ m = some b ∧
      (b = true ↔ Fresh lib earlier m ∧ Valid lib m) := by
  obtain ⟨cmd, hcmd⟩ := replied_of_not_overflows hlib earlier hover
  refine ⟨cmd.ackJson.id == "ack", by simp only [decision, hcmd.interpreted], ?_⟩
  rw [beq_iff_eq, hcmd.ack_iff]

theorem decision_of_overflows (s : ComControlServer) {m : ByteArray} (hover : Overflows lib m) :
    decision lib s m = none := by
  obtain ⟨ex, hex⟩ := interpretCommand_of_overflows (f := s.cmdFactory) hover
  simp only [decision, hex]

theorem not_valid_of_overflows {m : ByteArray} (hover : Overflows lib m) : ¬ Valid lib m := by
  rintro ⟨inJson, seqId, cls, hread, -⟩
  obtain ⟨ex, hparse⟩ := parse_of_overflows hover
  rw [(parse_of_read hread).1] at hparse
  cases hparse

/-- The decisions about a message after two lists of messages. -/
theorem decision_eq_iff (hlib : lib.Lawful) (first second : List ByteArray) (m : ByteArray) :
    decision lib ⟨after lib first⟩ m = decision lib ⟨after lib second⟩ m ↔
      (Valid lib m → (Fresh lib first m ↔ Fresh lib second m)) := by
  by_cases hover : Overflows lib m
  · rw [decision_of_overflows _ hover, decision_of_overflows _ hover]
    exact ⟨fun _ hvalid => absurd hvalid (not_valid_of_overflows hover), fun _ => rfl⟩
  · obtain ⟨b, hb, hbiff⟩ := decision_eq_some hlib first hover
    obtain ⟨c, hc, hciff⟩ := decision_eq_some hlib second hover
    rw [hb, hc, Option.some.injEq, Bool.eq_iff_iff, hbiff, hciff, and_congr_left_iff]

/-! ## Freshness among all and among its own -/

theorem fresh_iff (lib : JsonLibrary D) (earlier : List (Client × ByteArray)) (m : ByteArray) :
    Fresh lib (earlier.map Prod.snd) m ↔
      ∃ seqId, seq? lib m = some seqId ∧
        HighWater.mark 0 (earlier.filterMap (seqOf lib)) < seqId := by
  apply exists_congr
  intro seqId
  rw [HighWater.mark_filterMap_lt_iff, List.forall_mem_map]
  rfl

/-- The decision is the one made alone when nobody is ahead at this message. -/
theorem fresh_own_iff (a : Client) (earlier : List (Client × ByteArray)) (m : ByteArray) :
    (Fresh lib (earlier.map Prod.snd) m ↔ Fresh lib ((own a earlier).map Prod.snd) m) ↔
      (Fresh lib ((own a earlier).map Prod.snd) m →
        ∀ other ∈ earlier, other.1 ≠ a → ∀ k, seqOf lib other = some k → ∀ seqId,
          seq? lib m = some seqId → k < seqId) := by
  rw [fresh_iff, fresh_iff]
  constructor
  · rintro hiff hown other hmem hne k hk seqId hseq
    obtain ⟨seqId', hseq', hlt⟩ := hiff.mpr hown
    rw [hseq] at hseq'
    cases hseq'
    exact (HighWater.fresh_iff_of_own (seqOf lib) (fun message => message.1 = a)
      (HighWater.own_fresh_of_fresh _ _ hlt)).mp hlt other hmem hne k hk
  · intro hahead
    constructor
    · rintro ⟨seqId, hseq, hlt⟩
      exact ⟨seqId, hseq, HighWater.own_fresh_of_fresh _ _ hlt⟩
    · rintro ⟨seqId, hseq, hlt⟩
      refine ⟨seqId, hseq, (HighWater.fresh_iff_of_own (seqOf lib) _ hlt).mpr ?_⟩
      intro other hmem hne k hk
      exact hahead ⟨seqId, hseq, hlt⟩ other hmem hne k hk seqId hseq

/-! ## The decisions of a run -/

theorem run_receive (s : ComControlServer) (messages : List (Client × ByteArray)) :
    run (receive lib) s messages =
      ⟨run (NetCommandFactory.receive lib) s.cmdFactory (messages.map Prod.snd)⟩ := by
  induction messages generalizing s with
  | nil => rfl
  | cons message rest ih => rw [run_cons, ih, List.map_cons, run_cons]; rfl

/-- Two servers give a client the same decisions when they do at each of its messages. -/
theorem decisions_eq_iff (messages : List (Client × ByteArray)) :
    decisions lib a s messages = decisions lib a t (own a messages) ↔
      ∀ earlier m later, messages = earlier ++ (a, m) :: later →
        decision lib (run (receive lib) s earlier) m =
          decision lib (run (receive lib) t (own a earlier)) m := by
  induction messages generalizing s t with
  | nil => simp [decisions, own]
  | cons message rest ih =>
      obtain ⟨client, m₀⟩ := message
      -- a message of the client is in both runs, another one in the first only
      by_cases hclient : client = a
      · subst hclient
        have hown {later} : own client ((client, m₀) :: later) = (client, m₀) :: own client later :=
          List.filter_cons_of_pos (decide_eq_true rfl)
        rw [hown, decisions, if_pos rfl, decisions, if_pos rfl, List.cons.injEq, ih]
        constructor
        · rintro ⟨hhead, htail⟩ earlier m later hsplit
          cases earlier with
          | nil =>
              cases hsplit
              exact hhead
          | cons first earlier =>
              cases hsplit
              rw [hown]
              exact htail earlier m later rfl
        · intro h
          refine ⟨h [] m₀ rest rfl, fun earlier m later hsplit => ?_⟩
          have hm := h ((client, m₀) :: earlier) m later (by rw [hsplit, List.cons_append])
          rwa [hown] at hm
      · have hown {later} : own a ((client, m₀) :: later) = own a later :=
          List.filter_cons_of_neg (by simpa using hclient)
        rw [hown, decisions, if_neg hclient, ih]
        constructor
        · intro h earlier m later hsplit
          cases earlier with
          | nil =>
              cases hsplit
              exact absurd rfl hclient
          | cons first earlier =>
              cases hsplit
              rw [hown]
              exact h earlier m later rfl
        · intro h earlier m later hsplit
          have hm := h ((client, m₀) :: earlier) m later (by rw [hsplit, List.cons_append])
          rwa [hown] at hm

/-- **Clients do not disturb each other** exactly when nobody is ahead. -/
theorem undisturbed_iff (lib : JsonLibrary D) (hlib : lib.Lawful) (a : Client)
    (messages : List (Client × ByteArray)) :
    Undisturbed lib a messages ↔ NobodyAhead lib a messages := by
  unfold Undisturbed NobodyAhead
  rw [decisions_eq_iff]
  refine forall_congr' fun earlier => forall_congr' fun m => forall_congr' fun later =>
    forall_congr' fun _ => ?_
  rw [run_receive, run_receive]
  refine (decision_eq_iff hlib _ _ m).trans ?_
  rw [fresh_own_iff]
  exact ⟨fun h hfresh hvalid => h hvalid hfresh, fun h hvalid hfresh => h hfresh hvalid⟩

/-! ## Two clients -/

/-- A client numbers its messages upwards. -/
def Increasing (lib : JsonLibrary D) (a : Client) (messages : List (Client × ByteArray)) : Prop :=
  ((own a messages).filterMap (seqOf lib)).Pairwise (· < ·)

/-- Two acknowledgements with the numbers 1 and 5. -/
def twoCommands : JsonLibrary ℚ :=
  .listedValues [commandJson "cmd_ack" 1, commandJson "cmd_ack" 5]

/-- Client 2 sends number 5, then client 1 starts with number 1. -/
def otherFirst : List (Client × ByteArray) :=
  [(2, (commandJson "cmd_ack" 5).dump.toUTF8), (1, (commandJson "cmd_ack" 1).dump.toUTF8)]

/-- Client 1 starts with number 1, then client 2 sends number 5. -/
theorem undisturbed_ownFirst :
    Undisturbed twoCommands 1 otherFirst.reverse ↔ NobodyAhead twoCommands 1 otherFirst.reverse :=
  undisturbed_iff _ (JsonLibrary.lawful_listed _) 1 _

/-- The first message of client 1 is not acknowledged, since client 2 was ahead. -/
theorem not_undisturbed_otherFirst :
    Increasing twoCommands 1 otherFirst ∧ Increasing twoCommands 2 otherFirst ∧
      ¬ Undisturbed twoCommands 1 otherFirst := by
  refine ⟨?_, ?_, ?_⟩
  · unfold Increasing
    decide +kernel
  · unfold Increasing
    decide +kernel
  · unfold Undisturbed
    decide +kernel

end ComControlServer

end M2Cell
