import M2Cell.Simulator.SimCore
import M2Cell.Lib.OnDelay

/-!
# The simulated breakers

A simulated breaker is an on-delay timer of its reset bit: it opens with the bit and closes
when the bit has been high for longer than `breakerCloseTimeSec` (`breaker_law`).  The
readings of the bit are those of `calcBreakers`, one in each iteration.

The breaker inputs can be changed from outside, which the tests do to trip a breaker.  A reset
clears what was written before it: from a state with an open breaker, when nobody writes the
inputs, they are all high as soon as the breaker is closed and the simulator has written them.

There is one exception.  The simulator and the other threads write single bits of one word
without a common lock, so a write of another input can bring back an old value of a breaker
input, and nothing writes it again until the breaker opens.  `Apart` excludes just this: that
the simulator stores a bit between the two halves of a `writeInputPortBit`.

`Inputs` is the invariant.  It speaks of all the values that can still reach the input port
(`ports`): the port itself, and what the simulator and another thread have read of it.
-/

namespace M2Cell

open SimPowerSubsystem OnDelay

namespace SimCore

variable {s : SimCore} {ty : PowerSystemType} {history : List (Time × Bool)}

/-- The reset bit that an action reads for the breaker of a subsystem. -/
def reading (ty : PowerSystemType) (s : SimCore) (a : SimAction) : List (Time × Bool) :=
  match a, s.next with
  | .perform, some (.calcBreakers ty') =>
      if ty' = ty then [(s.timestamp, OutputPortBits.getBitAtPos s.outputPort (breakerResetPos ty))]
      else []
  | _, _ => []

/-- The reset bits that are read in a run, newest first. -/
def readings (ty : PowerSystemType) : SimCore → List SimAction → List (Time × Bool)
  | _, [] => []
  | s, a :: rest => readings ty (s.step a) rest ++ reading ty s a

theorem readings_append (s : SimCore) (acts more : List SimAction) :
    readings ty s (acts ++ more) = readings ty (run step s acts) more ++ readings ty s acts := by
  induction acts generalizing s with
  | nil => simp [readings]
  | cons a rest ih => rw [List.cons_append, readings, ih, run_cons, readings, List.append_assoc]

theorem readings_concat (s : SimCore) (acts : List SimAction) (a : SimAction) :
    readings ty s (acts ++ [a]) = reading ty (run step s acts) a ++ readings ty s acts := by
  rw [readings_append]
  rfl

theorem reading_eq_nil {a : SimAction} (h : a = .perform → s.next ≠ some (.calcBreakers ty)) :
    reading ty s a = [] := by
  unfold reading
  split
  · next ty' hnext =>
      have hne : ty' ≠ ty := fun heq => h rfl (by rw [hnext, heq])
      rw [if_neg hne]
  · rfl

theorem reading_calcBreakers {todo : List SimStep} (hnone : s.breakerWrites = [])
    (htodo : s.todo = .calcBreakers ty :: todo) :
    reading ty s .perform =
      [(s.timestamp, OutputPortBits.getBitAtPos s.outputPort (breakerResetPos ty))] := by
  simp [reading, next_eq hnone htodo]

/-! ## The breaker is an on-delay timer -/

/-- What the breaker has kept of the readings. -/
structure Follows (ty : PowerSystemType) (history : List (Time × Bool))
    (sub : SimPowerSubsystem) : Prop where
  targ : sub.breakerClosedTarg = (history.head?.map Prod.snd).getD true
  since : (∃ reading ∈ history, reading.2 = false) → ∀ t, riseTime history = some t →
    sub.breakerClosedTargTs = t
  closed : sub.breakerClosed = true ↔ SwitchedOn (breakerCloseTimeSec ty) history
  prev : history ≠ [] → sub.breakerClosedPrev = sub.breakerClosed

theorem follows_new : Follows ty [] .new where
  targ := rfl
  since := by simp
  closed := by simp [SimPowerSubsystem.new, SwitchedOn]
  prev h := absurd rfl h

/-- Once there was a low reading, the breaker knows since when the bit is high. -/
theorem Follows.resetSince_high {sub : SimPowerSubsystem} (h : Follows ty history sub) (ts : Time)
    (hlow : ∃ reading ∈ history, reading.2 = false) :
    sub.resetSince true ts = (riseTime history).getD ts := by
  have htarg := h.targ
  cases history with
  | nil => simp at hlow
  | cons newest rest =>
      obtain ⟨t, bit⟩ := newest
      rw [List.head?_cons, Option.map_some, Option.getD_some] at htarg
      cases bit with
      | true =>
          have hsince := h.since hlow _ (riseTime_high t rest)
          rw [resetSince, htarg, if_pos rfl, hsince, riseTime_high]
          rfl
      | false =>
          rw [resetSince, htarg, if_neg (by simp)]
          rfl

/-- **One reading.** -/
theorem Follows.read {sub : SimPowerSubsystem} (h : Follows ty history sub) {ts : Time}
    (hle : ∀ reading ∈ history, reading.1 ≤ ts) (outputPort : OutputPortBits) {reset : Bool}
    (hreset : OutputPortBits.getBitAtPos outputPort (breakerResetPos ty) = reset) :
    Follows ty ((ts, reset) :: history) (sub.calcBreakers ty outputPort ts).1 := by
  rw [calcBreakers_eq sub ty outputPort ts hreset]
  refine ⟨rfl, fun hlow t ht => ?_, ?_, fun _ => rfl⟩
  · cases reset with
    | false => simp [riseTime] at ht
    | true =>
        have hlow' : ∃ reading ∈ history, reading.2 = false := by simpa using hlow
        rw [riseTime_high, Option.some.injEq] at ht
        exact (h.resetSince_high ts hlow').trans ht
  · cases reset with
    | false => simp [closes, switchedOn_low]
    | true =>
        rw [switchedOn_high hle, ← h.closed]
        by_cases hlow : ∃ reading ∈ history, reading.2 = false
        · simp [closes, h.resetSince_high ts hlow, timePassedSec]
        · have hclosed : sub.breakerClosed = true :=
            h.closed.mpr (Or.inl fun reading hmem => by
              by_contra hfalse
              exact hlow ⟨reading, hmem, by simpa using hfalse⟩)
          simp [closes, hclosed]

/-- What holds of a subsystem and of the readings of its reset bit. -/
structure Breakers (ty : PowerSystemType) (history : List (Time × Bool)) (s : SimCore) : Prop where
  le : ∀ reading ∈ history, reading.1 ≤ s.timestamp
  follows : Follows ty history (s.sub ty)

theorem breakers_step (hs : s.Breakers ty history) {a : SimAction} (hforward : s.Forward a) :
    (s.step a).Breakers ty (reading ty s a ++ history) := by
  have htime := timestamp_le_step hforward
  have hmove := subMove_step ty s a
  revert hmove
  generalize hsub : (s.step a).sub ty = sub
  intro hmove
  cases hmove with
  | keep a hvoltage hbreakers =>
      rw [reading_eq_nil hbreakers, List.nil_append]
      exact ⟨fun reading h => (hs.le reading h).trans htime, hsub ▸ hs.follows⟩
  | calcBreakers todo hnone htodo =>
      rw [reading_calcBreakers hnone htodo]
      refine ⟨fun reading h => ?_, ?_⟩
      · obtain rfl | h := List.mem_cons.mp h
        · exact htime
        · exact (hs.le reading h).trans htime
      · rw [hsub]
        exact hs.follows.read hs.le s.outputPort rfl
  | calcVoltageCurrent todo hnone htodo =>
      rw [reading_eq_nil fun _ => by simp [next_eq hnone htodo], List.nil_append]
      refine ⟨fun reading h => (hs.le reading h).trans htime, ?_⟩
      rw [hsub]
      exact ⟨hs.follows.targ, hs.follows.since, hs.follows.closed, hs.follows.prev⟩
  | overVoltage overVoltage =>
      refine ⟨fun reading h => (hs.le reading h).trans htime, ?_⟩
      rw [hsub]
      exact ⟨hs.follows.targ, hs.follows.since, hs.follows.closed, hs.follows.prev⟩
  | overCurrent overCurrent =>
      refine ⟨fun reading h => (hs.le reading h).trans htime, ?_⟩
      rw [hsub]
      exact ⟨hs.follows.targ, hs.follows.since, hs.follows.closed, hs.follows.prev⟩

theorem breakers_run (ty : PowerSystemType) (unset : SimInfo) (startTime : Time)
    {acts : List SimAction} (hforward : Always step Forward (new unset startTime) acts) :
    (run step (new unset startTime) acts).Breakers ty (readings ty (new unset startTime) acts) := by
  induction acts using List.reverseRecOn with
  | nil => exact ⟨by simp [readings], follows_new⟩
  | append_singleton acts a ih =>
      rw [always_append] at hforward
      rw [run_concat, readings_concat]
      exact breakers_step (ih hforward.1) hforward.2.1

/-- **What an action does to a breaker**: the step of its own, or nothing. -/
theorem breaker_step (ty : PowerSystemType) (s : SimCore) (a : SimAction) :
    (∃ todo, a = .perform ∧ s.breakerWrites = [] ∧ s.todo = .calcBreakers ty :: todo ∧
        (s.step a).sub ty = ((s.sub ty).calcBreakers ty s.outputPort s.timestamp).1) ∨
      (a = .perform → s.next ≠ some (.calcBreakers ty)) ∧
        ((s.step a).sub ty).breakerClosed = (s.sub ty).breakerClosed ∧
        ((s.step a).sub ty).breakerClosedPrev = (s.sub ty).breakerClosedPrev ∧
        ((s.step a).sub ty).breakerClosedTarg = (s.sub ty).breakerClosedTarg ∧
        ((s.step a).sub ty).breakerClosedTargTs = (s.sub ty).breakerClosedTargTs := by
  have hmove := subMove_step ty s a
  revert hmove
  generalize (s.step a).sub ty = sub
  intro hmove
  cases hmove with
  | calcBreakers todo hnone htodo => exact Or.inl ⟨todo, rfl, hnone, htodo, rfl⟩
  | keep a hvoltage hbreakers => exact Or.inr ⟨hbreakers, rfl, rfl, rfl, rfl⟩
  | calcVoltageCurrent todo hnone htodo =>
      exact Or.inr ⟨fun _ => by simp [next_eq hnone htodo], rfl, rfl, rfl, rfl⟩
  | overVoltage overVoltage => exact Or.inr ⟨nofun, rfl, rfl, rfl, rfl⟩
  | overCurrent overCurrent => exact Or.inr ⟨nofun, rfl, rfl, rfl, rfl⟩

/-! ## Writes of the inputs -/

/-- What `calcBreakers` of a subsystem writes is what its breaker has become, and a breaker
whose inputs are written at all is not what it was. -/
theorem calcBreakers_writes (ty : PowerSystemType) (s : SimCore) {todo : List SimStep}
    (hnone : s.breakerWrites = []) (htodo : s.todo = .calcBreakers ty :: todo) :
    ((s.step .perform).sub ty).breakerClosedPrev = (s.sub ty).breakerClosedPrev ∧
        (s.step .perform).breakerWrites = [] ∨
      (s.step .perform).breakerWrites =
        SimPowerSubsystem.breakerWrites ty ((s.step .perform).sub ty).breakerClosedPrev := by
  rw [step_perform hnone htodo]
  simp only [performStep, sub_setSub, calcBreakers_eq _ _ _ _ rfl]
  split_ifs with hprev
  · exact Or.inl ⟨hprev, rfl⟩
  · exact Or.inr rfl

/-! ## The breaker inputs -/

/-- The action begins no write of a breaker input of the subsystem. -/
def KeepsInputs (ty : PowerSystemType) : SimAction → Prop
  | .beginWriteInputPortBit pos _ => pos ∉ breakerBitPositions ty
  | _ => True

instance decidableKeepsInputs (ty : PowerSystemType) : ∀ a, Decidable (KeepsInputs ty a)
  | .beginWriteInputPortBit pos _ => inferInstanceAs (Decidable (pos ∉ breakerBitPositions ty))
  | .beginIteration _ => inferInstanceAs (Decidable True)
  | .perform => inferInstanceAs (Decidable True)
  | .writeBreakerBit => inferInstanceAs (Decidable True)
  | .setNewOutputPort _ => inferInstanceAs (Decidable True)
  | .writeNewOutputPortBit _ _ => inferInstanceAs (Decidable True)
  | .endWriteInputPortBit => inferInstanceAs (Decidable True)
  | .forceOverVoltage _ _ => inferInstanceAs (Decidable True)
  | .forceOverCurrent _ _ => inferInstanceAs (Decidable True)
  | .stop => inferInstanceAs (Decidable True)

/-- The simulator stores no input between the two halves of a `writeInputPortBit`. -/
def Apart (s : SimCore) : SimAction → Prop
  | .writeBreakerBit => s.loaded.isSome → s.portWrite.isNone
  | _ => True

instance decidableApart (s : SimCore) : ∀ a, Decidable (s.Apart a)
  | .writeBreakerBit => inferInstanceAs (Decidable (s.loaded.isSome → s.portWrite.isNone))
  | .beginIteration _ => inferInstanceAs (Decidable True)
  | .perform => inferInstanceAs (Decidable True)
  | .setNewOutputPort _ => inferInstanceAs (Decidable True)
  | .writeNewOutputPortBit _ _ => inferInstanceAs (Decidable True)
  | .beginWriteInputPortBit _ _ => inferInstanceAs (Decidable True)
  | .endWriteInputPortBit => inferInstanceAs (Decidable True)
  | .forceOverVoltage _ _ => inferInstanceAs (Decidable True)
  | .forceOverCurrent _ _ => inferInstanceAs (Decidable True)
  | .stop => inferInstanceAs (Decidable True)

/-- All breaker inputs of the subsystem are high. -/
def InputsHigh (ty : PowerSystemType) (inputPort : InputPortBits) : Prop :=
  ∀ pos ∈ breakerBitPositions ty, InputPortBits.getBitAtPos inputPort pos = true

instance decidableInputsHigh (ty : PowerSystemType) (inputPort : InputPortBits) :
    Decidable (InputsHigh ty inputPort) :=
  inferInstanceAs (Decidable (∀ pos ∈ breakerBitPositions ty, _))

/-- The writes that are left for a breaker say what the breaker is. -/
def Pending (ty : PowerSystemType) (s : SimCore) : Prop :=
  ∀ write ∈ s.breakerWrites, write.1 ∈ breakerBitPositions ty →
    write.2 = (s.sub ty).breakerClosedPrev

/-- An input is high, or is to be written so. -/
def HighOr (ty : PowerSystemType) (s : SimCore) (inputPort : InputPortBits) : Prop :=
  ∀ pos ∈ breakerBitPositions ty,
    InputPortBits.getBitAtPos inputPort pos = true ∨ (pos, true) ∈ s.breakerWrites

theorem pending_new (unset : SimInfo) (startTime : Time) : (new unset startTime).Pending ty :=
  fun _ h => absurd h List.not_mem_nil

/-- Outside its own step a breaker stays what it is. -/
theorem prev_step {a : SimAction} (hother : a = .perform → s.next ≠ some (.calcBreakers ty)) :
    ((s.step a).sub ty).breakerClosedPrev = (s.sub ty).breakerClosedPrev := by
  obtain ⟨todo, rfl, hnone, htodo, -⟩ | ⟨-, -, hprev, -⟩ := breaker_step ty s a
  · exact absurd (next_eq hnone htodo) (hother rfl)
  · exact hprev

/-- The step of a breaker, for the writes that are left. -/
theorem pending_calcBreakers (ty ty' : PowerSystemType) {todo : List SimStep}
    (hnone : s.breakerWrites = []) (htodo : s.todo = .calcBreakers ty' :: todo) :
    (s.step .perform).Pending ty := by
  intro write hwrite hpos
  obtain ⟨-, hnil⟩ | hwrites := calcBreakers_writes ty' s hnone htodo
  · rw [hnil] at hwrite
    exact absurd hwrite List.not_mem_nil
  · rw [hwrites] at hwrite
    obtain ⟨hpos', hset⟩ := mem_breakerWrites.mp hwrite
    obtain rfl | rfl := ty.eq_or_eq_other ty'
    · exact hset
    · exact absurd hpos' (breakerBitPositions_disjoint ty hpos)

theorem pending_step (hs : s.Pending ty) (a : SimAction) : (s.step a).Pending ty := by
  have hmove := portMove_step s a
  have hprev := @prev_step s ty a
  generalize hr : s.step a = r at hmove hprev ⊢
  cases hmove with
  | keep a r hports hwrites hwrite hnext =>
      intro write hmem hpos
      rw [hprev fun h => hnext h ty]
      exact hs write (hwrites ▸ hmem) hpos
  | calcBreakers ty' todo hnone htodo =>
      rw [← hr]
      exact pending_calcBreakers ty ty' hnone htodo
  | load hnone => exact hs
  | store inputPort pos set rest hloaded hwrites =>
      intro write hmem hpos
      exact hs write (hwrites ▸ List.mem_cons_of_mem _ hmem) hpos
  | beginWrite pos set hnone hpos => exact hs
  | endWrite write hwrite => exact hs

/-- What holds of the inputs of a breaker that nobody else writes. -/
structure Inputs (ty : PowerSystemType) (s : SimCore) : Prop where
  pending : s.Pending ty
  portWrite : ∀ write, s.portWrite = some write → write.pos ∉ breakerBitPositions ty
  high : (s.sub ty).breakerClosedPrev = true → ∀ inputPort ∈ s.ports, s.HighOr ty inputPort

/-- The inputs of a breaker that is open may be anything. -/
theorem inputs_of_open (hpending : s.Pending ty)
    (hwrite : ∀ write, s.portWrite = some write → write.pos ∉ breakerBitPositions ty)
    (hopen : (s.sub ty).breakerClosedPrev = false) : s.Inputs ty :=
  ⟨hpending, hwrite, fun h => by
    rw [hopen] at h
    cases h⟩

/-- The step of a breaker, for the inputs of a subsystem. -/
theorem high_calcBreakers (hs : s.Inputs ty) {ty' : PowerSystemType} {todo : List SimStep}
    (hnone : s.breakerWrites = []) (htodo : s.todo = .calcBreakers ty' :: todo)
    (hclosed : ((s.step .perform).sub ty).breakerClosedPrev = true) :
    ∀ inputPort ∈ s.ports, (s.step .perform).HighOr ty inputPort := by
  -- a breaker that was closed has all its inputs high, since no write is left
  have hbefore (hprev : (s.sub ty).breakerClosedPrev = true) :
      ∀ inputPort ∈ s.ports, (s.step .perform).HighOr ty inputPort := by
    intro inputPort hport pos hpos
    left
    obtain hbit | hmem := hs.high hprev inputPort hport pos hpos
    · exact hbit
    · rw [hnone] at hmem
      exact absurd hmem List.not_mem_nil
  obtain rfl | rfl := ty.eq_or_eq_other ty'
  · obtain ⟨hsame, -⟩ | hwrites := calcBreakers_writes _ s hnone htodo
    · exact hbefore (hsame ▸ hclosed)
    · intro inputPort hport pos hpos
      right
      rw [hwrites, hclosed]
      exact mem_breakerWrites.mpr ⟨hpos, rfl⟩
  · rw [prev_step fun _ => by rw [next_eq hnone htodo]; simp] at hclosed
    exact hbefore hclosed

/-- A bit that is stored is high, or no input of the breaker. -/
theorem HighOr.writeBit {inputPort : InputPortBits} (h : s.HighOr ty inputPort) {pos : ℕ}
    {set : Bool} (hset : pos ∈ breakerBitPositions ty → set = true) :
    s.HighOr ty (inputPort.writeBit pos set) := by
  intro other hother
  by_cases hsame : other = pos
  · subst hsame
    left
    rw [InputPortBits.getBitAtPos_writeBit _ (breakerBitPositions_lt hother), if_pos rfl]
    exact hset hother
  · rw [InputPortBits.getBitAtPos_writeBit_of_ne _ hsame]
    exact h other hother

/-- A write that is done is not to be done any more. -/
theorem HighOr.done {inputPort : InputPortBits} (h : s.HighOr ty inputPort) {r : SimCore} {pos : ℕ}
    {set : Bool} (hwrites : s.breakerWrites = (pos, set) :: r.breakerWrites)
    (hset : pos ∈ breakerBitPositions ty → set = true) :
    r.HighOr ty (inputPort.writeBit pos set) := by
  intro other hother
  by_cases hsame : other = pos
  · subst hsame
    left
    rw [InputPortBits.getBitAtPos_writeBit _ (breakerBitPositions_lt hother), if_pos rfl]
    exact hset hother
  · rw [InputPortBits.getBitAtPos_writeBit_of_ne _ hsame]
    refine (h other hother).imp_right fun hmem => ?_
    rw [hwrites] at hmem
    refine (List.mem_cons.mp hmem).resolve_left fun heq => ?_
    exact hsame (Prod.mk.inj heq).1

/-- **The inputs of a breaker.**  Every value that can still reach the input port has them high,
or the simulator is to write them. -/
theorem inputs_step (hs : s.Inputs ty) {a : SimAction} (ha : KeepsInputs ty a)
    (hapart : s.Apart a) :
    (s.step a).Inputs ty := by
  refine ⟨pending_step hs.pending a, ?_, ?_⟩
  · have hmove := portMove_step s a
    generalize s.step a = r at hmove
    cases hmove with
    | keep a r hports hwrites hwrite hnext =>
        rw [hwrite]
        exact hs.portWrite
    | calcBreakers ty' todo hnone htodo => exact hs.portWrite
    | load hnone => exact hs.portWrite
    | store inputPort pos set rest hloaded hwrites => exact hs.portWrite
    | beginWrite pos set hnone hpos =>
        rintro write heq
        obtain rfl := Option.some.inj heq
        exact ha
    | endWrite write hwrite => exact nofun
  · have hmove := portMove_step s a
    have hprev := @prev_step s ty a
    generalize hr : s.step a = r at hmove hprev ⊢
    cases hmove with
    | keep a r hports hwrites hwrite hnext =>
        intro hclosed inputPort hport pos hpos
        rw [hprev fun h => hnext h ty] at hclosed
        rw [hports] at hport
        rw [hwrites]
        exact hs.high hclosed inputPort hport pos hpos
    | calcBreakers ty' todo hnone htodo =>
        rw [← hr]
        intro hclosed inputPort hport
        have hports : (s.step .perform).ports = s.ports := by
          rw [step_perform hnone htodo]
          exact ports_performStep s _
        rw [hports] at hport
        exact high_calcBreakers hs hnone htodo hclosed inputPort hport
    | load hnone =>
        intro hclosed inputPort hport
        have hport' : inputPort ∈ s.ports := by
          simp only [ports, Option.toList_some, hnone, Option.toList_none, List.mem_cons,
            List.cons_append, List.nil_append] at hport ⊢
          tauto
        exact hs.high hclosed inputPort hport'
    | store inputPort pos set rest hloaded hwrites =>
        intro hclosed port hport
        -- the port is stored while no other thread has read it
        have halone : s.portWrite = none := by simpa [Apart, hloaded] using hapart
        have hstored : port = inputPort.writeBit pos set := by
          simpa [ports, halone] using hport
        have hread : inputPort ∈ s.ports := by simp [ports, hloaded]
        rw [hstored]
        refine (hs.high hclosed inputPort hread).done hwrites fun hpos => ?_
        have hset := hs.pending (pos, set) (hwrites ▸ List.mem_cons_self) hpos
        exact hset.trans hclosed
    | beginWrite pos set hnone hpos =>
        intro hclosed inputPort hport
        have hport' : inputPort ∈ s.ports := by
          simp only [ports, Option.toList_some, hnone, Option.toList_none, List.mem_cons,
            List.mem_append, List.map_cons, List.map_nil, List.not_mem_nil, or_false] at hport ⊢
          tauto
        exact hs.high hclosed inputPort hport'
    | endWrite write hwrite =>
        intro hclosed port hport
        have hread : write.inputPort ∈ s.ports := by simp [ports, hwrite]
        have hnot := hs.portWrite write hwrite
        simp only [ports, Option.toList_none, List.map_nil, List.append_nil, List.mem_cons] at hport
        obtain rfl | hloaded := hport
        · exact (hs.high hclosed _ hread).writeBit fun h => absurd h hnot
        · exact hs.high hclosed port (by simp [ports, hloaded])

/-- A closed breaker whose inputs are written has them all high. -/
theorem Inputs.inputsHigh (hs : s.Inputs ty) (hclosed : (s.sub ty).breakerClosedPrev = true)
    (hdone : s.breakerWrites = []) : InputsHigh ty s.inputPort := by
  intro pos hpos
  obtain hbit | hmem := hs.high hclosed s.inputPort List.mem_cons_self pos hpos
  · exact hbit
  · rw [hdone] at hmem
    exact absurd hmem List.not_mem_nil

/-- A breaker that has been open knows what it is. -/
theorem Breakers.prev_eq (hs : s.Breakers ty history) (hread : history ≠ []) :
    (s.sub ty).breakerClosedPrev = (s.sub ty).breakerClosed := hs.follows.prev hread

/-- Only a reading opens a breaker. -/
theorem Breakers.ne_nil_of_open (hs : s.Breakers ty history)
    (hopen : (s.sub ty).breakerClosed = false) : history ≠ [] := by
  intro hnil
  have hclosed := hs.follows.closed.mpr (Or.inl (by simp [hnil]))
  rw [hopen] at hclosed
  exact absurd hclosed (by decide)

/-- **The breaker law.**  After every run in which the clock does not go back, whatever was
written or forced in it, the breaker is an on-delay timer of its reset bit.  And when it has
been open since somebody wrote its inputs, and the simulator stored nothing in the middle of a
write of another input since, then they are all high as soon as it is closed and its inputs are
written. -/
theorem breaker_law (ty : PowerSystemType) (unset : SimInfo) (startTime : Time)
    (acts : List SimAction) (hforward : Always step Forward (new unset startTime) acts) :
    (((run step (new unset startTime) acts).sub ty).breakerClosed = true ↔
        SwitchedOn (breakerCloseTimeSec ty) (readings ty (new unset startTime) acts)) ∧
      ∀ first rest, acts = first ++ rest →
        ((run step (new unset startTime) first).sub ty).breakerClosed = false →
        (∀ write, (run step (new unset startTime) first).portWrite = some write →
          write.pos ∉ breakerBitPositions ty) →
        Always step (fun s a => KeepsInputs ty a ∧ s.Apart a) (run step (new unset startTime) first)
          rest →
        ((run step (new unset startTime) acts).sub ty).breakerClosed = true →
        (run step (new unset startTime) acts).breakerWrites = [] →
        InputsHigh ty (run step (new unset startTime) acts).inputPort := by
  have hall := breakers_run ty unset startTime hforward
  refine ⟨hall.follows.closed, ?_⟩
  intro first rest hsplit hopen hwrite hrest hclosed hdone
  subst hsplit
  have hforward' := (always_append _ _ _).mp hforward
  have hfirst : (run step (new unset startTime) first).Breakers ty
      (readings ty (new unset startTime) first) := breakers_run ty unset startTime hforward'.1
  have hread := hfirst.ne_nil_of_open hopen
  have hpending : (run step (new unset startTime) first).Pending ty :=
    hforward'.1.invariant (Pending ty) (fun _ a hs _ => pending_step hs a)
      (pending_new unset startTime)
  have hstart := inputs_of_open hpending hwrite ((hfirst.prev_eq hread).trans hopen)
  have hinputs := hrest.invariant (Inputs ty) (fun _ _ hs ha => inputs_step hs ha.1 ha.2) hstart
  have hmore : readings ty (new unset startTime) (first ++ rest) ≠ [] := by
    rw [readings_append]
    exact List.append_ne_nil_of_right_ne_nil _ hread
  rw [← run_append] at hinputs
  exact hinputs.inputsHigh ((hall.prev_eq hmore).trans hclosed) hdone

/-- The breaker of comm power is open after a reset, and one of its inputs is written meanwhile;
it is closed again, with all inputs high, 0.26 s after the reset bit went high.  Another input
is written in between. -/
theorem breaker_law_reset :
    InputsHigh .comm (run step (new ⟨⟨0, 0, 0, 0, 0, 0⟩, false, false, 0, 0⟩ 0)
      ((iteration 0.1 ++ [.beginWriteInputPortBit 15 true, .endWriteInputPortBit]) ++
        (.setNewOutputPort 16 :: iteration 0.2 ++
          [.beginWriteInputPortBit 3 false, .endWriteInputPortBit] ++ iteration 0.46))).inputPort :=
  (breaker_law .comm ⟨⟨0, 0, 0, 0, 0, 0⟩, false, false, 0, 0⟩ 0 _ (by decide +kernel)).2 _ _ rfl
    (by decide +kernel) (by decide +kernel) (by decide +kernel) (by decide +kernel)
    (by decide +kernel)

end SimCore

end M2Cell
