import M2Cell.Simulator.SimPowerSubsystem
import M2Cell.Lib.Run

/-!
# The simulator of the hardware

`SimCore` simulates what the FPGA would read and write.  Its thread runs the loop of
`_simRun`: it copies the output port that other threads have set, lets both subsystems go
on by the time that has passed, and publishes what it finds in `_simInfo`.  An iteration is
a list of steps (`iterationSteps`); the other threads write `_newOutput`, the input port and
the two switches of a subsystem between any two of them.

Writing a bit of the input port means to read the whole port and to store it again.  The
thread of the simulator does so without a lock, for one input after the other
(`writeBreakerBit`), while `writeInputPortBit` takes `_mtx`, so that at most one of the other
threads is at it (`beginWriteInputPortBit`, `endWriteInputPortBit`).  Reading and storing
are two steps, and a store may undo what was stored since the port was read.

`_mtx` also guards the copy of the output port, `_newOutput` and `_simInfo`.  Here a
`writeInputPortBit` that is under way holds nobody up, so there are more runs than in the
program.

`_simInfo` starts with the two ports blank and its other fields not initialized, so `new`
takes them from outside.

What an action does is said once, in `Moves`: it begins an iteration, performs its next
step, or is one of those that leave the iteration alone (`Outside`).  `SubMove` says the same
for one subsystem, and `PortMove` for the input port.
-/

namespace M2Cell

/-- `SysInfo`, with the fields that the power code does not read. -/
structure SimInfo extends SysInfo where
  motorBreakerClosed : Bool
  commBreakerClosed : Bool
  iterations : ℕ
  timestamp : Time
  deriving DecidableEq, Repr

/-- The steps of an iteration of `_simRun`. -/
inductive SimStep
  | readOutput
  | calcBreakers (ty : PowerSystemType)
  | calcVoltageCurrent (ty : PowerSystemType)
  | publish
  /-- Count the iteration and keep its time. -/
  | advance
  deriving DecidableEq, Repr

/-- A `writeInputPortBit` under way, which has read the input port. -/
structure InputPortWrite where
  pos : ℕ
  set : Bool
  inputPort : InputPortBits

/-- `SimCore`, without what waits for the simulator. -/
structure SimCore where
  /-- `_simLoop`. -/
  simLoop : Bool
  outputPort : OutputPortBits
  inputPort : InputPortBits
  /-- `_motorSub` and `_commSub`. -/
  sub : PowerSystemType → SimPowerSubsystem
  newOutput : OutputPortBits
  simInfo : SimInfo
  iterations : ℕ
  prevTimeStamp : Time
  /-- The local variable of `_simRun`. -/
  timestamp : Time
  /-- The steps that are left of the iteration. -/
  todo : List SimStep
  /-- The input bits that the last `calcBreakers` has still to write. -/
  breakerWrites : List (ℕ × Bool)
  /-- The input port as it was read for the first of them. -/
  loaded : Option InputPortBits
  /-- The `writeInputPortBit` that holds `_mtx`. -/
  portWrite : Option InputPortWrite

/-- What happens to the simulator. -/
inductive SimAction
  /-- The loop begins an iteration at this time. -/
  | beginIteration (timestamp : Time)
  /-- The next step of the iteration. -/
  | perform
  /-- One half of the next write of `calcBreakers`. -/
  | writeBreakerBit
  | setNewOutputPort (outputPort : OutputPortBits)
  | writeNewOutputPortBit (pos : Fin 8) (set : Bool)
  | beginWriteInputPortBit (pos : ℕ) (set : Bool)
  | endWriteInputPortBit
  | forceOverVoltage (ty : PowerSystemType) (overVoltage : Bool)
  | forceOverCurrent (ty : PowerSystemType) (overCurrent : Bool)
  | stop

namespace SimCore

open InputPortBits

/-- The inputs that should normally be high. -/
def normallyHigh : List ℕ :=
  [redundancyOk, loadDistributionOk, powerSupply1DcOk, powerSupply2DcOk, powerSupply1CurrentOk,
    powerSupply2CurrentOk]

/-- The input port after the constructor. -/
def newInputPort : InputPortBits :=
  normallyHigh.foldl (fun port pos => port.writeBit pos true) 0

/-- The constructor and `start`, at the time `startTime`. -/
def new (unset : SimInfo) (startTime : Time) : SimCore where
  simLoop := true
  outputPort := 0
  inputPort := newInputPort
  sub _ := .new
  newOutput := 0
  simInfo := { unset with outputPort := 0, inputPort := 0 }
  iterations := 0
  prevTimeStamp := startTime
  timestamp := startTime
  todo := []
  breakerWrites := []
  loaded := none
  portWrite := none

/-- The body of the loop of `_simRun`, after it has read the clock. -/
def iterationSteps : List SimStep :=
  [.readOutput, .calcBreakers .motor, .calcVoltageCurrent .motor, .calcBreakers .comm,
    .calcVoltageCurrent .comm, .publish, .advance]

/-- What the step `publish` stores. -/
def info (s : SimCore) : SimInfo where
  outputPort := s.outputPort
  inputPort := s.inputPort
  motorVoltage := (s.sub .motor).voltage
  motorCurrent := (s.sub .motor).current
  motorBreakerClosed := (s.sub .motor).breakerClosed
  commVoltage := (s.sub .comm).voltage
  commCurrent := (s.sub .comm).current
  commBreakerClosed := (s.sub .comm).breakerClosed
  iterations := s.iterations
  timestamp := s.timestamp

/-- Work on one subsystem. -/
def setSub (ty : PowerSystemType) (sub : SimPowerSubsystem) (s : SimCore) : SimCore :=
  { s with sub := Function.update s.sub ty sub }

/-- `timeDiff` of `_simRun`: up to 104 days the count of nanoseconds is a double, so that only its
division is rounded. -/
def timeDiff (s : SimCore) : ℚ :=
  SimPowerSubsystem.round64 (timePassedSec s.prevTimeStamp s.timestamp)

/-- One step of an iteration. -/
def performStep (s : SimCore) : SimStep → SimCore
  | .readOutput => { s with outputPort := s.newOutput }
  | .calcBreakers ty =>
      let result := (s.sub ty).calcBreakers ty s.outputPort s.timestamp
      { s.setSub ty result.1 with breakerWrites := result.2 }
  | .calcVoltageCurrent ty =>
      s.setSub ty ((s.sub ty).calcVoltageCurrent ty s.outputPort s.timeDiff)
  | .publish => { s with simInfo := s.info }
  | .advance => { s with iterations := s.iterations + 1, prevTimeStamp := s.timestamp }

/-- The next step of the iteration, which waits for the writes of the last one. -/
def next (s : SimCore) : Option SimStep :=
  if s.breakerWrites = [] then s.todo.head? else none

/-- One half of the next write of `calcBreakers`. -/
def writeBreakerBit (s : SimCore) : SimCore :=
  match s.breakerWrites, s.loaded with
  | _ :: _, none => { s with loaded := some s.inputPort }
  | (pos, set) :: rest, some inputPort =>
      { s with inputPort := inputPort.writeBit pos set, loaded := none, breakerWrites := rest }
  | [], _ => s

/-- One action. -/
def step (s : SimCore) : SimAction → SimCore
  | .beginIteration timestamp =>
      if s.todo = [] ∧ s.simLoop then { s with timestamp := timestamp, todo := iterationSteps }
      else s
  | .perform =>
      match s.next with
      | some next => { s.performStep next with todo := s.todo.tail }
      | none => s
  | .writeBreakerBit => s.writeBreakerBit
  | .setNewOutputPort outputPort => { s with newOutput := outputPort }
  | .writeNewOutputPortBit pos set => { s with newOutput := s.newOutput.writeBit pos set }
  -- a position outside the port throws
  | .beginWriteInputPortBit pos set =>
      if s.portWrite.isNone ∧ pos < 32 then { s with portWrite := some ⟨pos, set, s.inputPort⟩ }
      else s
  | .endWriteInputPortBit =>
      match s.portWrite with
      | some write =>
          { s with inputPort := write.inputPort.writeBit write.pos write.set, portWrite := none }
      | none => s
  | .forceOverVoltage ty overVoltage =>
      s.setSub ty { s.sub ty with overVoltage := overVoltage }
  | .forceOverCurrent ty overCurrent =>
      s.setSub ty { s.sub ty with overCurrent := overCurrent }
  | .stop => { s with simLoop := false }

/-- The clock does not go back: an iteration begins no earlier than the last one. -/
def Forward (s : SimCore) : SimAction → Prop
  | .beginIteration timestamp => s.timestamp ≤ timestamp
  | _ => True

instance decidableForward (s : SimCore) : ∀ a, Decidable (s.Forward a)
  | .beginIteration timestamp => inferInstanceAs (Decidable (s.timestamp ≤ timestamp))
  | .perform => inferInstanceAs (Decidable True)
  | .writeBreakerBit => inferInstanceAs (Decidable True)
  | .setNewOutputPort _ => inferInstanceAs (Decidable True)
  | .writeNewOutputPortBit _ _ => inferInstanceAs (Decidable True)
  | .beginWriteInputPortBit _ _ => inferInstanceAs (Decidable True)
  | .endWriteInputPortBit => inferInstanceAs (Decidable True)
  | .forceOverVoltage _ _ => inferInstanceAs (Decidable True)
  | .forceOverCurrent _ _ => inferInstanceAs (Decidable True)
  | .stop => inferInstanceAs (Decidable True)

/-- The steps of a whole iteration, with the writes of both `calcBreakers`. -/
def wholeIteration : List SimAction :=
  [.perform, .perform] ++ List.replicate 18 .writeBreakerBit ++ [.perform, .perform] ++
    List.replicate 12 .writeBreakerBit ++ [.perform, .perform, .perform]

/-- A whole iteration at the time `timestamp`. -/
def iteration (timestamp : Time) : List SimAction := .beginIteration timestamp :: wholeIteration

/-! ## What an action does -/

/-- What the actions leave alone that are no part of an iteration. -/
structure Outside (s r : SimCore) : Prop where
  todo : r.todo = s.todo
  timestamp : r.timestamp = s.timestamp
  prevTimeStamp : r.prevTimeStamp = s.prevTimeStamp
  iterations : r.iterations = s.iterations
  simInfo : r.simInfo = s.simInfo
  outputPort : r.outputPort = s.outputPort

theorem Outside.refl (s : SimCore) : Outside s s := ⟨rfl, rfl, rfl, rfl, rfl, rfl⟩

/-- **What an action does.** -/
inductive Moves (s : SimCore) : SimAction → SimCore → Prop
  | begins (timestamp : Time) (hidle : s.todo = []) :
      Moves s (.beginIteration timestamp) { s with timestamp := timestamp, todo := iterationSteps }
  | performs (next : SimStep) (todo : List SimStep) (hnone : s.breakerWrites = [])
      (htodo : s.todo = next :: todo) :
      Moves s .perform { s.performStep next with todo := todo }
  | outside (a : SimAction) (r : SimCore) (hnext : a = .perform → s.next = none)
      (hkeeps : Outside s r) : Moves s a r

/-- The iteration goes on, or waits. -/
theorem perform_cases (s : SimCore) :
    s.next = none ∧ s.step .perform = s ∨
      ∃ next todo, s.breakerWrites = [] ∧ s.todo = next :: todo ∧
        s.step .perform = { s.performStep next with todo := todo } := by
  cases hnext : s.next with
  | none =>
      left
      simp only [step, hnext, and_self]
  | some next =>
      have hnone : s.breakerWrites = [] := by
        by_contra hsome
        simp [SimCore.next, hsome] at hnext
      obtain ⟨todo, htodo⟩ : ∃ todo, s.todo = next :: todo := by
        rw [SimCore.next, if_pos hnone] at hnext
        exact List.head?_eq_some_iff.mp hnext
      right
      refine ⟨next, todo, hnone, htodo, ?_⟩
      simp only [step, hnext, htodo, List.tail_cons]

theorem outside_writeBreakerBit (s : SimCore) : Outside s s.writeBreakerBit := by
  unfold writeBreakerBit
  split <;> exact ⟨rfl, rfl, rfl, rfl, rfl, rfl⟩

theorem moves_step (s : SimCore) (a : SimAction) : Moves s a (s.step a) := by
  cases a with
  | beginIteration timestamp =>
      simp only [step]
      split_ifs with hbegin
      · exact .begins timestamp hbegin.1
      · exact .outside _ _ nofun (Outside.refl s)
  | perform =>
      obtain ⟨hnone, hsame⟩ | ⟨next, todo, hnone, htodo, hstep⟩ := perform_cases s
      · rw [hsame]
        exact .outside _ _ (fun _ => hnone) (Outside.refl s)
      · rw [hstep]
        exact .performs next todo hnone htodo
  | writeBreakerBit => exact .outside _ _ nofun (outside_writeBreakerBit s)
  | setNewOutputPort outputPort => exact .outside _ _ nofun ⟨rfl, rfl, rfl, rfl, rfl, rfl⟩
  | writeNewOutputPortBit pos set => exact .outside _ _ nofun ⟨rfl, rfl, rfl, rfl, rfl, rfl⟩
  | beginWriteInputPortBit pos set =>
      simp only [step]
      split_ifs <;> exact .outside _ _ nofun ⟨rfl, rfl, rfl, rfl, rfl, rfl⟩
  | endWriteInputPortBit =>
      simp only [step]
      split <;> exact .outside _ _ nofun ⟨rfl, rfl, rfl, rfl, rfl, rfl⟩
  | forceOverVoltage ty overVoltage => exact .outside _ _ nofun ⟨rfl, rfl, rfl, rfl, rfl, rfl⟩
  | forceOverCurrent ty overCurrent => exact .outside _ _ nofun ⟨rfl, rfl, rfl, rfl, rfl, rfl⟩
  | stop => exact .outside _ _ nofun ⟨rfl, rfl, rfl, rfl, rfl, rfl⟩

/-! ## The order of an iteration -/

/-- After a step of an iteration neither it nor the copy of the output port is left, and
`publish` and `advance` are the last two. -/
theorem iterationSteps_spec {next : SimStep} {todo : List SimStep}
    (h : next :: todo <:+ iterationSteps) :
    next ∉ todo ∧ .readOutput ∉ todo ∧ (todo = [] ↔ next = .advance) ∧
      (next = .publish ↔ todo = [.advance]) := by
  rw [← List.mem_tails] at h
  have hall : ∀ steps ∈ iterationSteps.tails, ∀ next ∈ steps.head?,
      next ∉ steps.tail ∧ .readOutput ∉ steps.tail ∧ (steps.tail = [] ↔ next = .advance) ∧
        (next = .publish ↔ steps.tail = [.advance]) := by
    decide
  exact hall _ h next rfl

/-- What holds of the steps that are left and of the two times. -/
structure Ordered (s : SimCore) : Prop where
  todo : s.todo <:+ iterationSteps
  time_le : s.prevTimeStamp ≤ s.timestamp
  time_eq : s.todo = [] → s.prevTimeStamp = s.timestamp

theorem ordered_new (unset : SimInfo) (startTime : Time) : (new unset startTime).Ordered :=
  ⟨List.nil_suffix, le_rfl, fun _ => rfl⟩

section steps

variable {s : SimCore} {ty ty' : PowerSystemType} {next : SimStep} {todo : List SimStep}

@[simp] theorem sub_setSub (sub : SimPowerSubsystem) : (s.setSub ty sub).sub ty = sub := by
  simp [setSub]

theorem sub_setSub_of_ne (h : ty' ≠ ty) (sub : SimPowerSubsystem) :
    (s.setSub ty sub).sub ty' = s.sub ty' := by
  simp [setSub, h]

/-- The published voltages and currents are those of the subsystems. -/
@[simp] theorem voltage_info : s.info.toSysInfo.voltage ty = (s.sub ty).voltage := by
  cases ty <;> rfl

@[simp] theorem current_info : s.info.toSysInfo.current ty = (s.sub ty).current := by
  cases ty <;> rfl

/-- The next step, when no write is left of the last one. -/
theorem next_eq (hnone : s.breakerWrites = []) (htodo : s.todo = next :: todo) :
    s.next = some next := by
  rw [SimCore.next, if_pos hnone, htodo, List.head?_cons]

theorem step_perform (hnone : s.breakerWrites = []) (htodo : s.todo = next :: todo) :
    s.step .perform = { s.performStep next with todo := todo } := by
  simp only [step, next_eq hnone htodo, htodo, List.tail_cons]

@[simp] theorem newOutput_performStep : (s.performStep next).newOutput = s.newOutput := by
  cases next <;> rfl

@[simp] theorem timestamp_performStep : (s.performStep next).timestamp = s.timestamp := by
  cases next <;> rfl

theorem prevTimeStamp_performStep :
    (s.performStep next).prevTimeStamp =
      if next = .advance then s.timestamp else s.prevTimeStamp := by
  cases next <;> rfl

theorem outputPort_performStep :
    (s.performStep next).outputPort = if next = .readOutput then s.newOutput else s.outputPort := by
  cases next <;> rfl

theorem simInfo_performStep :
    (s.performStep next).simInfo = if next = .publish then s.info else s.simInfo := by
  cases next <;> rfl

theorem iterations_performStep :
    (s.performStep next).iterations =
      if next = .advance then s.iterations + 1 else s.iterations := by
  cases next <;> rfl

/-- Only the steps of a subsystem write it. -/
theorem sub_performStep (hbreakers : next ≠ .calcBreakers ty)
    (hvoltage : next ≠ .calcVoltageCurrent ty) : (s.performStep next).sub ty = s.sub ty := by
  cases next with
  | calcBreakers ty' =>
      have hne : ty ≠ ty' := fun h => hbreakers (by rw [h])
      exact sub_setSub_of_ne hne _
  | calcVoltageCurrent ty' =>
      have hne : ty ≠ ty' := fun h => hvoltage (by rw [h])
      exact sub_setSub_of_ne hne _
  | readOutput | publish | advance => rfl

/-- **The order is kept**, as long as the clock does not go back. -/
theorem ordered_step (hs : s.Ordered) (a : SimAction) (hforward : s.Forward a) :
    (s.step a).Ordered := by
  have hmoves := moves_step s a
  generalize s.step a = r at hmoves
  cases hmoves with
  | begins timestamp hidle =>
      have hprev : s.prevTimeStamp ≤ timestamp := hs.time_le.trans hforward
      exact ⟨List.suffix_refl _, hprev, fun h => absurd h (List.cons_ne_nil _ _)⟩
  | performs next todo hnone htodo =>
      have hsuffix := hs.todo
      rw [htodo] at hsuffix
      obtain ⟨-, -, hlast, -⟩ := iterationSteps_spec hsuffix
      refine ⟨(List.suffix_cons _ _).trans hsuffix, ?_, fun hnil => ?_⟩
      · simp only [prevTimeStamp_performStep, timestamp_performStep]
        split_ifs
        · exact le_rfl
        · exact hs.time_le
      · simp only [prevTimeStamp_performStep, timestamp_performStep]
        rw [if_pos (hlast.mp hnil)]
  | outside a r hnext hkeeps =>
      refine ⟨?_, ?_, ?_⟩
      · rw [hkeeps.todo]
        exact hs.todo
      · rw [hkeeps.prevTimeStamp, hkeeps.timestamp]
        exact hs.time_le
      · rw [hkeeps.todo, hkeeps.prevTimeStamp, hkeeps.timestamp]
        exact hs.time_eq

end steps

/-! ## The time of a voltage -/

/-- The time for which the voltage of a subsystem is computed. -/
def voltageTime (ty : PowerSystemType) (s : SimCore) : Time :=
  if .calcVoltageCurrent ty ∈ s.todo then s.prevTimeStamp else s.timestamp

/-- How many iterations have computed the voltage of a subsystem. -/
def voltageCount (ty : PowerSystemType) (s : SimCore) : ℕ :=
  if s.todo = [] ∨ .calcVoltageCurrent ty ∈ s.todo then s.iterations else s.iterations + 1

section voltage

variable {s : SimCore} {ty : PowerSystemType} {next : SimStep} {todo : List SimStep}

theorem voltageTime_of_nil (htodo : s.todo = []) : s.voltageTime ty = s.timestamp := by
  rw [voltageTime, if_neg (by rw [htodo]; exact List.not_mem_nil)]

theorem voltageCount_of_nil (htodo : s.todo = []) : s.voltageCount ty = s.iterations := by
  rw [voltageCount, if_pos (Or.inl htodo)]

/-- The voltage step of an iteration. -/
theorem voltage_calcVoltageCurrent (hs : s.Ordered) (hnone : s.breakerWrites = [])
    (htodo : s.todo = .calcVoltageCurrent ty :: todo) :
    s.voltageTime ty = s.prevTimeStamp ∧ (s.step .perform).voltageTime ty = s.timestamp ∧
      (s.step .perform).voltageCount ty = s.voltageCount ty + 1 := by
  have hsuffix := hs.todo
  rw [htodo] at hsuffix
  obtain ⟨hnot, -, hlast, -⟩ := iterationSteps_spec hsuffix
  have hnil : todo ≠ [] := fun h => absurd (hlast.mp h) (by simp)
  refine ⟨?_, ?_, ?_⟩
  · rw [voltageTime, htodo, if_pos List.mem_cons_self]
  · rw [step_perform hnone htodo, voltageTime, if_neg hnot, timestamp_performStep]
  · have hafter : ¬ (todo = [] ∨ SimStep.calcVoltageCurrent ty ∈ todo) := not_or.mpr ⟨hnil, hnot⟩
    rw [step_perform hnone htodo, voltageCount, voltageCount, if_neg hafter, htodo,
      if_pos (Or.inr List.mem_cons_self)]
    rfl

/-- No other action moves the time of a voltage, or counts. -/
theorem voltageTime_step (hs : s.Ordered) (a : SimAction)
    (hother : a = .perform → s.next ≠ some (.calcVoltageCurrent ty)) :
    (s.step a).voltageTime ty = s.voltageTime ty ∧
      (s.step a).voltageCount ty = s.voltageCount ty := by
  have hmoves := moves_step s a
  generalize s.step a = r at hmoves
  cases hmoves with
  | begins timestamp hidle =>
      have hmem : SimStep.calcVoltageCurrent ty ∈ iterationSteps := by cases ty <;> decide
      rw [voltageTime, if_pos hmem, voltageTime_of_nil hidle, voltageCount, if_pos (Or.inr hmem),
        voltageCount_of_nil hidle]
      exact ⟨hs.time_eq hidle, rfl⟩
  | performs next todo hnone htodo =>
      have hne : SimStep.calcVoltageCurrent ty ≠ next := by
        intro h
        apply hother rfl
        rw [next_eq hnone htodo, h]
      have hmem : .calcVoltageCurrent ty ∈ next :: todo ↔ .calcVoltageCurrent ty ∈ todo := by
        rw [List.mem_cons, or_iff_right hne]
      have hsuffix := hs.todo
      rw [htodo] at hsuffix
      obtain ⟨-, -, hlast, -⟩ := iterationSteps_spec hsuffix
      constructor
      · unfold voltageTime
        simp only [htodo, hmem, timestamp_performStep, prevTimeStamp_performStep]
        split_ifs with hleft hadvance
        · rw [hlast.mpr hadvance] at hleft
          exact absurd hleft List.not_mem_nil
        · rfl
        · rfl
      · unfold voltageCount
        simp only [htodo, hmem, iterations_performStep, reduceCtorEq, false_or]
        by_cases hnil : todo = []
        · rw [if_pos (Or.inl hnil), if_pos (hlast.mp hnil), hnil, if_neg List.not_mem_nil]
        · have hmore : ¬ next = .advance := fun h => hnil (hlast.mpr h)
          rw [if_neg hmore]
          simp only [hnil, false_or]
  | outside a r hnext hkeeps =>
      unfold voltageTime voltageCount
      rw [hkeeps.todo, hkeeps.prevTimeStamp, hkeeps.timestamp, hkeeps.iterations]
      exact ⟨rfl, rfl⟩

end voltage

/-! ## Output bits -/

section bits

variable {s : SimCore} {pos : Fin 8} {value : Bool}

/-- The action leaves the bit of the new output port as it is. -/
def KeepsBit (pos : Fin 8) (value : Bool) : SimAction → Prop
  | .setNewOutputPort port => OutputPortBits.getBitAtPos port pos = value
  | .writeNewOutputPortBit pos' set => pos' = pos → set = value
  | _ => True

instance decidableKeepsBit (pos : Fin 8) (value : Bool) : ∀ a, Decidable (KeepsBit pos value a)
  | .setNewOutputPort port =>
      inferInstanceAs (Decidable (OutputPortBits.getBitAtPos port pos = value))
  | .writeNewOutputPortBit pos' set => inferInstanceAs (Decidable (pos' = pos → set = value))
  | .beginIteration _ => inferInstanceAs (Decidable True)
  | .perform => inferInstanceAs (Decidable True)
  | .writeBreakerBit => inferInstanceAs (Decidable True)
  | .beginWriteInputPortBit _ _ => inferInstanceAs (Decidable True)
  | .endWriteInputPortBit => inferInstanceAs (Decidable True)
  | .forceOverVoltage _ _ => inferInstanceAs (Decidable True)
  | .forceOverCurrent _ _ => inferInstanceAs (Decidable True)
  | .stop => inferInstanceAs (Decidable True)

/-- Only two actions write the new output port. -/
theorem newOutput_step (s : SimCore) {a : SimAction}
    (hset : ∀ port, a ≠ .setNewOutputPort port)
    (hwrite : ∀ pos set, a ≠ .writeNewOutputPortBit pos set) :
    (s.step a).newOutput = s.newOutput := by
  cases a with
  | beginIteration timestamp =>
      simp only [step]
      split_ifs <;> rfl
  | perform =>
      simp only [step]
      split
      · exact newOutput_performStep
      · rfl
  | writeBreakerBit =>
      simp only [step, writeBreakerBit]
      split <;> rfl
  | beginWriteInputPortBit pos set =>
      simp only [step]
      split_ifs <;> rfl
  | endWriteInputPortBit =>
      simp only [step]
      split <;> rfl
  | setNewOutputPort port => exact absurd rfl (hset port)
  | writeNewOutputPortBit pos set => exact absurd rfl (hwrite pos set)
  | forceOverVoltage ty overVoltage => rfl
  | forceOverCurrent ty overCurrent => rfl
  | stop => rfl

theorem newOutput_keeps (hs : OutputPortBits.getBitAtPos s.newOutput pos = value) {a : SimAction}
    (ha : KeepsBit pos value a) : OutputPortBits.getBitAtPos (s.step a).newOutput pos = value := by
  cases a with
  | setNewOutputPort port => exact ha
  | writeNewOutputPortBit pos' set =>
      simp only [step, OutputPortBits.getBitAtPos_writeBit]
      split_ifs with hpos
      · exact ha hpos.symm
      · exact hs
  | _ =>
      rw [newOutput_step s (by simp) (by simp)]
      exact hs

/-- The iterations work with the output bit `value`. -/
structure Held (pos : Fin 8) (value : Bool) (s : SimCore) : Prop where
  newOutput : OutputPortBits.getBitAtPos s.newOutput pos = value
  outputPort : s.todo ≠ [] → .readOutput ∉ s.todo →
    OutputPortBits.getBitAtPos s.outputPort pos = value

theorem held_of_idle (hidle : s.todo = [])
    (hbit : OutputPortBits.getBitAtPos s.newOutput pos = value) : s.Held pos value :=
  ⟨hbit, fun h => absurd hidle h⟩

theorem held_step (hs : s.Held pos value) {a : SimAction} (ha : KeepsBit pos value a) :
    (s.step a).Held pos value := by
  refine ⟨newOutput_keeps hs.newOutput ha, ?_⟩
  have hmoves := moves_step s a
  generalize s.step a = r at hmoves
  cases hmoves with
  | begins timestamp hidle => exact fun _ h => absurd List.mem_cons_self h
  | performs next todo hnone htodo =>
      intro _ hread
      simp only [outputPort_performStep]
      split_ifs with hnext
      · exact hs.newOutput
      · apply hs.outputPort
        · rw [htodo]
          exact List.cons_ne_nil _ _
        · rw [htodo, List.mem_cons, not_or]
          exact ⟨fun h => hnext h.symm, hread⟩
  | outside a r hnext hkeeps =>
      rw [hkeeps.todo, hkeeps.outputPort]
      exact hs.outputPort

/-- After the copy of the output port every step of the iteration sees the bit. -/
theorem Held.at_step (hs : s.Held pos value) (hordered : s.Ordered) {next : SimStep}
    {todo : List SimStep} (htodo : s.todo = next :: todo) (hnext : .readOutput ≠ next) :
    OutputPortBits.getBitAtPos s.outputPort pos = value := by
  have hsuffix := hordered.todo
  rw [htodo] at hsuffix
  apply hs.outputPort
  · rw [htodo]
    exact List.cons_ne_nil _ _
  · rw [htodo, List.mem_cons, not_or]
    exact ⟨hnext, (iterationSteps_spec hsuffix).2.1⟩

end bits

/-! ## Records -/

/-- What an action publishes. -/
theorem simInfo_step (s : SimCore) (a : SimAction) :
    (s.step a).simInfo = s.simInfo ∨
      (∃ todo, a = .perform ∧ s.breakerWrites = [] ∧ s.todo = .publish :: todo) ∧
        (s.step a).simInfo = s.info := by
  have hmoves := moves_step s a
  generalize s.step a = r at hmoves
  cases hmoves with
  | begins timestamp hidle => exact Or.inl rfl
  | performs next todo hnone htodo =>
      simp only [simInfo_performStep]
      split_ifs with hpublish
      · rw [hpublish] at htodo
        exact Or.inr ⟨⟨todo, trivial, hnone, htodo⟩, rfl⟩
      · exact Or.inl rfl
  | outside a r hnext hkeeps => exact Or.inl hkeeps.simInfo

/-- An iteration is counted only after its record was published. -/
theorem published_step {s : SimCore} (hs : s.Ordered) (a : SimAction) :
    0 < (s.step a).iterations ∨ (s.step a).todo = [.advance] →
      (0 < s.iterations ∨ s.todo = [.advance]) ∨ (s.step a).simInfo = s.info := by
  intro h
  have hmoves := moves_step s a
  generalize s.step a = r at hmoves h
  cases hmoves with
  | begins timestamp hidle => exact Or.inl (Or.inl (h.resolve_right (by simp [iterationSteps])))
  | performs next todo hnone htodo =>
      have hsuffix := hs.todo
      rw [htodo] at hsuffix
      obtain ⟨-, -, hlast, hpublish⟩ := iterationSteps_spec hsuffix
      simp only [iterations_performStep] at h
      obtain hcount | hadvance := h
      · split_ifs at hcount with hnext
        · exact Or.inl (Or.inr (by rw [htodo, hlast.mpr hnext, hnext]))
        · exact Or.inl (Or.inl hcount)
      · simp only [simInfo_performStep]
        exact Or.inr (if_pos (hpublish.mpr hadvance))
  | outside a r hnext hkeeps =>
      rw [hkeeps.iterations, hkeeps.todo] at h
      exact Or.inl h

/-- An iteration that is counted stays counted. -/
theorem iterations_le_step (s : SimCore) (a : SimAction) :
    s.iterations ≤ (s.step a).iterations := by
  have hmoves := moves_step s a
  generalize s.step a = r at hmoves
  cases hmoves with
  | begins timestamp hidle => exact le_rfl
  | performs next todo hnone htodo =>
      simp only [iterations_performStep]
      split_ifs <;> omega
  | outside a r hnext hkeeps => exact hkeeps.iterations.ge

/-- The time of the record that was published last is one of the simulator. -/
def Dated (s : SimCore) : Prop :=
  0 < s.iterations ∨ s.todo = [.advance] → s.simInfo.timestamp ≤ s.timestamp

/-- An iteration begins no earlier than the last one, so the time does not go back. -/
theorem timestamp_le_step {s : SimCore} {a : SimAction} (hforward : s.Forward a) :
    s.timestamp ≤ (s.step a).timestamp := by
  have hmoves := moves_step s a
  generalize s.step a = r at hmoves
  cases hmoves with
  | begins timestamp hidle => exact hforward
  | performs next todo hnone htodo => exact timestamp_performStep.ge
  | outside a r hnext hkeeps => exact hkeeps.timestamp.ge

theorem dated_step {s : SimCore} (hs : s.Dated) (hordered : s.Ordered) {a : SimAction}
    (hforward : s.Forward a) : (s.step a).Dated := by
  intro h
  have htime := timestamp_le_step hforward
  obtain hsame | ⟨-, hinfo⟩ := simInfo_step s a
  · obtain hbefore | hinfo := published_step hordered a h
    · rw [hsame]
      exact (hs hbefore).trans htime
    · rw [hinfo]
      exact htime
  · rw [hinfo]
    exact htime

/-- A record shows the output bit with which the iterations work. -/
theorem Held.published {s : SimCore} {pos : Fin 8} {value : Bool} (hs : s.Held pos value)
    (hordered : s.Ordered) (a : SimAction) :
    (s.step a).simInfo = s.simInfo ∨
      OutputPortBits.getBitAtPos (s.step a).simInfo.outputPort pos = value := by
  obtain hsame | ⟨⟨todo, -, -, htodo⟩, hinfo⟩ := simInfo_step s a
  · exact Or.inl hsame
  · rw [hinfo]
    exact Or.inr (hs.at_step hordered htodo (by simp))

/-! ## What an action does to a subsystem -/

section subMove

variable {s : SimCore}

/-- What happens to a subsystem in an action. -/
inductive SubMove (ty : PowerSystemType) (s : SimCore) : SimAction → SimPowerSubsystem → Prop
  | keep (a : SimAction) (hvoltage : a = .perform → s.next ≠ some (.calcVoltageCurrent ty))
      (hbreakers : a = .perform → s.next ≠ some (.calcBreakers ty)) :
      SubMove ty s a (s.sub ty)
  | calcBreakers (todo : List SimStep) (hnone : s.breakerWrites = [])
      (htodo : s.todo = .calcBreakers ty :: todo) :
      SubMove ty s .perform ((s.sub ty).calcBreakers ty s.outputPort s.timestamp).1
  | calcVoltageCurrent (todo : List SimStep) (hnone : s.breakerWrites = [])
      (htodo : s.todo = .calcVoltageCurrent ty :: todo) :
      SubMove ty s .perform ((s.sub ty).calcVoltageCurrent ty s.outputPort s.timeDiff)
  | overVoltage (overVoltage : Bool) :
      SubMove ty s (.forceOverVoltage ty overVoltage) { s.sub ty with overVoltage := overVoltage }
  | overCurrent (overCurrent : Bool) :
      SubMove ty s (.forceOverCurrent ty overCurrent) { s.sub ty with overCurrent := overCurrent }

/-- A step of an iteration. -/
theorem subMove_perform (ty : PowerSystemType) (s : SimCore) :
    SubMove ty s .perform ((s.step .perform).sub ty) := by
  obtain ⟨hnone, hsame⟩ | ⟨next, todo, hnone, htodo, hstep⟩ := perform_cases s
  · rw [hsame]
    exact .keep _ (fun _ => by simp [hnone]) fun _ => by simp [hnone]
  rw [hstep]
  by_cases hbreakers : next = .calcBreakers ty
  · subst hbreakers
    simp only [performStep, sub_setSub]
    exact .calcBreakers todo hnone htodo
  by_cases hvoltage : next = .calcVoltageCurrent ty
  · subst hvoltage
    simp only [performStep, sub_setSub]
    exact .calcVoltageCurrent todo hnone htodo
  simp only [sub_performStep hbreakers hvoltage]
  refine .keep _ (fun _ => ?_) fun _ => ?_
  · rw [next_eq hnone htodo, Ne, Option.some.injEq]
    exact hvoltage
  · rw [next_eq hnone htodo, Ne, Option.some.injEq]
    exact hbreakers

theorem subMove_step (ty : PowerSystemType) (s : SimCore) (a : SimAction) :
    SubMove ty s a ((s.step a).sub ty) := by
  have hsame {b : SimAction} (hne : b ≠ .perform) : SubMove ty s b (s.sub ty) :=
    .keep b (fun h => absurd h hne) fun h => absurd h hne
  cases a with
  | beginIteration timestamp =>
      simp only [step]
      split_ifs <;> exact hsame nofun
  | perform => exact subMove_perform ty s
  | writeBreakerBit =>
      simp only [step, writeBreakerBit]
      split <;> exact hsame nofun
  | setNewOutputPort outputPort => exact hsame nofun
  | writeNewOutputPortBit pos set => exact hsame nofun
  | beginWriteInputPortBit pos set =>
      simp only [step]
      split_ifs <;> exact hsame nofun
  | endWriteInputPortBit =>
      simp only [step]
      split <;> exact hsame nofun
  | forceOverVoltage ty' overVoltage =>
      by_cases hty : ty = ty'
      · subst hty
        simp only [step, sub_setSub]
        exact .overVoltage overVoltage
      · simp only [step, sub_setSub_of_ne hty]
        exact hsame nofun
  | forceOverCurrent ty' overCurrent =>
      by_cases hty : ty = ty'
      · subst hty
        simp only [step, sub_setSub]
        exact .overCurrent overCurrent
      · simp only [step, sub_setSub_of_ne hty]
        exact hsame nofun
  | stop => exact hsame nofun

end subMove

/-! ## The input port -/

/-- The values that can still reach the input port. -/
def ports (s : SimCore) : List InputPortBits :=
  s.inputPort :: (s.loaded.toList ++ s.portWrite.toList.map InputPortWrite.inputPort)

theorem ports_performStep (s : SimCore) (next : SimStep) :
    (s.performStep next).ports = s.ports := by
  cases next <;> rfl

/-- What an action does to the input port and its writes. -/
inductive PortMove (s : SimCore) : SimAction → SimCore → Prop
  | keep (a : SimAction) (r : SimCore) (hports : r.ports = s.ports)
      (hwrites : r.breakerWrites = s.breakerWrites) (hwrite : r.portWrite = s.portWrite)
      (hnext : a = .perform → ∀ ty, s.next ≠ some (.calcBreakers ty)) : PortMove s a r
  | calcBreakers (ty : PowerSystemType) (todo : List SimStep) (hnone : s.breakerWrites = [])
      (htodo : s.todo = .calcBreakers ty :: todo) :
      PortMove s .perform { s.performStep (.calcBreakers ty) with todo := todo }
  | load (hnone : s.loaded = none) :
      PortMove s .writeBreakerBit { s with loaded := some s.inputPort }
  | store (inputPort : InputPortBits) (pos : ℕ) (set : Bool) (rest : List (ℕ × Bool))
      (hloaded : s.loaded = some inputPort) (hwrites : s.breakerWrites = (pos, set) :: rest) :
      PortMove s .writeBreakerBit
        { s with inputPort := inputPort.writeBit pos set, loaded := none, breakerWrites := rest }
  | beginWrite (pos : ℕ) (set : Bool) (hnone : s.portWrite = none) (hpos : pos < 32) :
      PortMove s (.beginWriteInputPortBit pos set)
        { s with portWrite := some ⟨pos, set, s.inputPort⟩ }
  | endWrite (write : InputPortWrite) (hwrite : s.portWrite = some write) :
      PortMove s .endWriteInputPortBit
        { s with inputPort := write.inputPort.writeBit write.pos write.set, portWrite := none }

theorem portMove_step (s : SimCore) (a : SimAction) : PortMove s a (s.step a) := by
  cases a with
  | beginIteration timestamp =>
      simp only [step]
      split_ifs <;> exact .keep _ _ rfl rfl rfl nofun
  | perform =>
      obtain ⟨hnone, hsame⟩ | ⟨next, todo, hnone, htodo, hstep⟩ := perform_cases s
      · rw [hsame]
        exact .keep _ _ rfl rfl rfl fun _ ty => by simp [hnone]
      rw [hstep]
      by_cases hbreakers : ∃ ty, next = .calcBreakers ty
      · obtain ⟨ty, rfl⟩ := hbreakers
        exact .calcBreakers ty todo hnone htodo
      · have hother : ∀ ty, s.next ≠ some (.calcBreakers ty) := by
          intro ty h
          rw [next_eq hnone htodo, Option.some.injEq] at h
          exact hbreakers ⟨ty, h⟩
        refine .keep _ _ (ports_performStep s next) ?_ ?_ fun _ => hother
        · cases next with
          | calcBreakers ty => exact absurd ⟨ty, rfl⟩ hbreakers
          | _ => rfl
        · cases next <;> rfl
  | writeBreakerBit =>
      simp only [step, writeBreakerBit]
      split
      · next hwrites hnone => exact .load hnone
      · next pos set rest inputPort hwrites hloaded =>
          exact .store inputPort pos set rest hloaded hwrites
      · exact .keep _ _ rfl rfl rfl nofun
  | setNewOutputPort port => exact .keep _ _ rfl rfl rfl nofun
  | writeNewOutputPortBit pos set => exact .keep _ _ rfl rfl rfl nofun
  | beginWriteInputPortBit pos set =>
      simp only [step]
      split_ifs with hfree
      · exact .beginWrite pos set (Option.isNone_iff_eq_none.mp hfree.1) hfree.2
      · exact .keep _ _ rfl rfl rfl nofun
  | endWriteInputPortBit =>
      simp only [step]
      split
      · next write hwrite => exact .endWrite write hwrite
      · exact .keep _ _ rfl rfl rfl nofun
  | forceOverVoltage ty overVoltage => exact .keep _ _ rfl rfl rfl nofun
  | forceOverCurrent ty overCurrent => exact .keep _ _ rfl rfl rfl nofun
  | stop => exact .keep _ _ rfl rfl rfl nofun

end SimCore

end M2Cell
