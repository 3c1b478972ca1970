import M2Cell.Control.Operations
import M2Cell.Simulator.SimCore

/-!
# The closed loop of hardware and controller

Three threads and the commands close the loop.  The thread of the simulator runs
iterations; the thread of the `FpgaIo` hands it the output port and reads the `SysInfo` it
published last; the thread of the `PowerSystem` processes what was read.  A `LoopAction` is
a step of one of them, in any order.

A pass of the `FpgaIo` is a list of steps (`FpgaStep`).  It begins with a look at
`_powerSys`, and what it finds decides over the whole pass: with no `PowerSystem` registered
all power is turned off first (`_emergencyTurnOffAllPower`), one bit at a time, each under its
own lock of `_portMtx`.  Then the output port is written and the `SysInfo` is read.
The source holds `_portMtx` over these two; here other actions may come in between, so there
are more runs than in the program.

The `FpgaIo` takes none of the locks of the power system, so it can write in the middle of an
operation.  `_setPowerOn` and `_setPowerOff` write their bits, one after the other, before
anything else that they set.  So an operation has two halves: it begins, and `finish` sets the
rest (`ahead`).  What the `FpgaIo` writes in between takes each bit either from before the
operation or from after it (`outputPortBetween`), so it can carry a bit whose target is not
there yet, and one of two bits without the other.  One bit is written twice in an operation:
`_processPowerOn` pulls a reset bit low at the end of phase 1, and a fault that turns the
subsystem off later in the same `_processDaq` sets it again (`pullReset`).  And a bit that the
`FpgaIo` turns off is overtaken by an operation that has still to write it (`WritesLater`); one
that turns power on writes the bit also when it is set already.

Among themselves the operations are whole: the next one begins when the last one has
finished.  What happens when `_processDaq` and a command overlap is the subject of
`M2Cell.Control.Interleaving`.  `_daqTimeoutCheck` is two operations, since it reads the data
after it has turned power off: the first ends with `timedOut`, and `processOld` is the second.

What an action does is said once for the system (`SystemMove`, `system_step`) and once for the
simulator and the record (`DataMove`).  The statements about the loop are about
`settled`, the system that the operation under way leaves.
-/

namespace M2Cell

open PowerSubsystemConfig

/-- The operations that other threads than that of the `PowerSystem` perform. -/
def Op.IsCommand : Op → Prop
  | .subsystemDaq _ _ _ _ => False
  | .processDaq _ _ => False
  | .checkTimeout _ _ => False
  | .updatePowerFaults _ _ _ => False
  | _ => True

instance decidableIsCommand (op : Op) : Decidable op.IsCommand := by
  cases op <;> unfold Op.IsCommand <;> infer_instance

/-- The subsystem that an operation turns on, if nothing stands against it. -/
def Op.turnsOn : Op → Option PowerSystemType
  | .setPowerOn ty _ => some ty
  | .powerMotor on _ => if on then some .motor else none
  | .powerComm on _ => if on then some .comm else none
  | .cmdPower powerType on _ => if on then some powerType else none
  | _ => none

/-- The steps of a pass of `_readWriteFpga`. -/
inductive FpgaStep
  /-- The two writes of `_emergencyTurnOffAllPower`. -/
  | motorPowerOff
  | commPowerOff
  /-- Set the output port of the simulator. -/
  | writeFpga
  /-- Read the system information. -/
  | readFpga
  deriving DecidableEq, Repr

/-- The output bit that a step turns off. -/
def FpgaStep.turnsOff : FpgaStep → Option (Fin 8)
  | .motorPowerOff => some OutputPortBits.motorPowerOn
  | .commPowerOff => some OutputPortBits.ilcCommPowerOn
  | .writeFpga => none
  | .readFpga => none

/-- An operation under way. -/
structure Underway where
  /-- What it makes of the system. -/
  leaves : System
  turnsOn : Option PowerSystemType

/-- The operation sets the bit, also when it is set already, if nothing stands against it. -/
def Underway.Sets (op : Underway) (pos : Fin 8) : Prop :=
  ∃ ty ∈ op.turnsOn, (psCfg ty).outputPowerOnBitPos = pos

instance decidableSets (op : Underway) (pos : Fin 8) : Decidable (op.Sets pos) :=
  inferInstanceAs (Decidable (∃ ty ∈ op.turnsOn, _))

/-- The simulator, the `FpgaIo` and the system. -/
structure ClosedLoop where
  sim : SimCore
  /-- `FpgaIo::_sysInfo`. -/
  sysInfo : SimInfo
  /-- `FpgaIo::_powerSys` points to a `PowerSystem`. -/
  registered : Bool
  /-- The steps that are left of the pass of the `FpgaIo`. -/
  pass : List FpgaStep
  /-- `PowerSystem::_daqReadTime`. -/
  daqReadTime : Time
  /-- `_daqTimeoutCheck` has still to process the data. -/
  timedOut : Bool
  system : System
  /-- The operation under way. -/
  ahead : Option Underway

/-- What happens in the loop. -/
inductive LoopAction
  | sim (a : SimAction)
  /-- The `FpgaIo` looks at `_powerSys`. -/
  | beginPass
  /-- The next step of its pass, when the operation under way has written these bits. -/
  | fpga (written : OutputPortBits)
  | daqInfoRead (daqReadTime : Time) (clock : Clocks)
  /-- `_daqTimeoutCheck` turns power off if the last read was too long ago. -/
  | daqTimeoutCheck (now : Time) (clock : Clocks)
  /-- Then it reads the data and processes them, old as they may be. -/
  | processOld (clock : Clocks)
  | command (op : Op)
  /-- The operation under way is done. -/
  | finish
  | registerPowerSys (registered : Bool)

namespace ClosedLoop

/-- The system when the operation under way is done. -/
def settled (s : ClosedLoop) : System := s.ahead.elim s.system Underway.leaves

/-- The operation under way turns the subsystem off. -/
def TurnsOff (ty : PowerSystemType) (s : ClosedLoop) : Prop :=
  (s.system.sub ty).targPowerState = .on ∧ (s.settled.sub ty).targPowerState = .off

instance decidableTurnsOff (ty : PowerSystemType) (s : ClosedLoop) : Decidable (s.TurnsOff ty) :=
  inferInstanceAs (Decidable (_ ∧ _))

/-- The port with the reset bit that phase 1 has pulled low, if the subsystem is turned off later
in the same operation. -/
def pullReset (ty : PowerSystemType) (s : ClosedLoop) (port : OutputPortBits) : OutputPortBits :=
  if s.TurnsOff ty then port.writeBit (psCfg ty).outputBreakerBitPos false else port

/-- `FpgaIo::_outputPort`, when the operation under way has written the bits `written` for the last
time. -/
def outputPortBetween (s : ClosedLoop) (written : OutputPortBits) : OutputPortBits :=
  (s.settled.outputPort &&& written) |||
    (s.pullReset .motor (s.pullReset .comm s.system.outputPort) &&& ~~~written)

/-- The operation under way has still to write the bit: it changes it, or sets it again. -/
def WritesLater (s : ClosedLoop) (written : OutputPortBits) (pos : Fin 8) : Prop :=
  (OutputPortBits.getBitAtPos s.system.outputPort pos ≠
      OutputPortBits.getBitAtPos s.settled.outputPort pos ∨
    ∃ op ∈ s.ahead, op.Sets pos) ∧ OutputPortBits.getBitAtPos written pos = false

instance decidableWritesLater (s : ClosedLoop) (written : OutputPortBits) (pos : Fin 8) :
    Decidable (s.WritesLater written pos) :=
  inferInstanceAs (Decidable (_ ∧ _))

/-- `FpgaIo::writeOutputPortBitPos`, called by the `FpgaIo` itself. -/
def writeOutputPortBitPos (written : OutputPortBits) (pos : Fin 8) (set : Bool) (s : ClosedLoop) :
    ClosedLoop :=
  let write (system : System) : System :=
    { system with outputPort := system.outputPort.writeBit pos set }
  { s with
    system := write s.system
    ahead :=
      if s.WritesLater written pos then s.ahead
      else s.ahead.map fun op => { op with leaves := write op.leaves } }

/-- What a pass does that finds a `PowerSystem`, or none. -/
def passSteps (registered : Bool) : List FpgaStep :=
  if registered then [.writeFpga, .readFpga]
  else [.motorPowerOff, .commPowerOff, .writeFpga, .readFpga]

/-- A step of a pass. -/
def performFpga (written : OutputPortBits) (s : ClosedLoop) : FpgaStep → ClosedLoop
  -- `_emergencyTurnOffAllPower`
  | .motorPowerOff => s.writeOutputPortBitPos written OutputPortBits.motorPowerOn false
  | .commPowerOff => s.writeOutputPortBitPos written OutputPortBits.ilcCommPowerOn false
  | .writeFpga => { s with sim := s.sim.step (.setNewOutputPort (s.outputPortBetween written)) }
  | .readFpga => { s with sysInfo := s.sim.simInfo }

/-- `PowerSystem::_checkTimeout`. -/
def checkTimeout (diffInSeconds : ℚ) (clock : Clocks) (s : ClosedLoop) : System :=
  (PowerSystem.checkTimeout clock diffInSeconds s.system).1

/-- `PowerSystem::_checkTimeout` and `_processDaq` for the data in `_sysInfo`. -/
def processDaq (diffInSeconds : ℚ) (clock : Clocks) (s : ClosedLoop) : System :=
  PowerSystem.processDaq clock s.sysInfo.toSysInfo (s.checkTimeout diffInSeconds clock)

/-- One action. -/
def step (s : ClosedLoop) : LoopAction → ClosedLoop
  | .sim a => { s with sim := s.sim.step a }
  | .beginPass => if s.pass = [] then { s with pass := passSteps s.registered } else s
  | .fpga written =>
      match s.pass with
      | [] => s
      | next :: pass => { s.performFpga written next with pass := pass }
  -- the age of the data is the time since they were published
  | .daqInfoRead daqReadTime clock =>
      if s.ahead.isNone then
        { s with
          daqReadTime := daqReadTime
          ahead := some ⟨s.processDaq (timePassedSec s.sysInfo.timestamp daqReadTime) clock, none⟩ }
      else s
  | .daqTimeoutCheck now clock =>
      if s.ahead.isNone ∧ timePassedSec s.daqReadTime now > 1.5 then
        { s with
          timedOut := true
          ahead := some ⟨s.checkTimeout (timePassedSec s.daqReadTime now) clock, none⟩ }
      else s
  -- old data are processed as well, so that the power off logic runs
  | .processOld clock =>
      if s.ahead.isNone ∧ s.timedOut then
        { s with
          timedOut := false
          ahead := some ⟨PowerSystem.processDaq clock s.sysInfo.toSysInfo s.system, none⟩ }
      else s
  | .command op =>
      if s.ahead.isNone then { s with ahead := some ⟨s.system.step op, op.turnsOn⟩ } else s
  | .finish => { s with system := s.settled, ahead := none }
  | .registerPowerSys registered => { s with registered := registered }

/-- The loop when the `FpgaIo` has read for the first time. -/
def start (sim : SimCore) (system : System) (daqReadTime : Time) : ClosedLoop where
  sim := sim
  sysInfo := sim.simInfo
  registered := true
  pass := []
  daqReadTime := daqReadTime
  timedOut := false
  system := system
  ahead := none

/-- The clock of the simulator does not go back. -/
def Forward (s : ClosedLoop) : LoopAction → Prop
  | .sim a => s.sim.Forward a
  | _ => True

instance decidableForward (s : ClosedLoop) : ∀ a, Decidable (s.Forward a)
  | .sim a => inferInstanceAs (Decidable (s.sim.Forward a))
  | .beginPass => inferInstanceAs (Decidable True)
  | .fpga _ => inferInstanceAs (Decidable True)
  | .daqInfoRead _ _ => inferInstanceAs (Decidable True)
  | .daqTimeoutCheck _ _ => inferInstanceAs (Decidable True)
  | .processOld _ => inferInstanceAs (Decidable True)
  | .command _ => inferInstanceAs (Decidable True)
  | .finish => inferInstanceAs (Decidable True)
  | .registerPowerSys _ => inferInstanceAs (Decidable True)

/-- The action is one of the program: the output port of the simulator is written by the
`FpgaIo` only, and the commands do not process data. -/
def InProgram : LoopAction → Prop
  | .sim (.setNewOutputPort _) => False
  | .sim (.writeNewOutputPortBit _ _) => False
  | .command op => op.IsCommand
  | _ => True

instance decidableInProgram : ∀ a, Decidable (InProgram a)
  | .sim (.setNewOutputPort _) => inferInstanceAs (Decidable False)
  | .sim (.writeNewOutputPortBit _ _) => inferInstanceAs (Decidable False)
  | .sim (.beginIteration _) => inferInstanceAs (Decidable True)
  | .sim .perform => inferInstanceAs (Decidable True)
  | .sim .writeBreakerBit => inferInstanceAs (Decidable True)
  | .sim (.beginWriteInputPortBit _ _) => inferInstanceAs (Decidable True)
  | .sim .endWriteInputPortBit => inferInstanceAs (Decidable True)
  | .sim (.forceOverVoltage _ _) => inferInstanceAs (Decidable True)
  | .sim (.forceOverCurrent _ _) => inferInstanceAs (Decidable True)
  | .sim .stop => inferInstanceAs (Decidable True)
  | .beginPass => inferInstanceAs (Decidable True)
  | .fpga _ => inferInstanceAs (Decidable True)
  | .daqInfoRead _ _ => inferInstanceAs (Decidable True)
  | .daqTimeoutCheck _ _ => inferInstanceAs (Decidable True)
  | .processOld _ => inferInstanceAs (Decidable True)
  | .command op => inferInstanceAs (Decidable op.IsCommand)
  | .finish => inferInstanceAs (Decidable True)
  | .registerPowerSys _ => inferInstanceAs (Decidable True)

/-- One pass of a `FpgaIo` that finds a `PowerSystem`. -/
def exchange : List LoopAction := [.beginPass, .fpga 0, .fpga 0]

/-- A read that is processed. -/
def readAt (time : Time) : List LoopAction := [.daqInfoRead time fun _ => ⟨time, time⟩, .finish]

/-- One iteration, one exchange with the `FpgaIo`, and a read that is processed. -/
def cycle (timestamp : Time) : List LoopAction :=
  (SimCore.iteration timestamp).map .sim ++ exchange ++ readAt timestamp

/-- The simulator after its first iteration. -/
def published : SimCore :=
  run SimCore.step (SimCore.new ⟨⟨0, 0, 0, 0, 0, 0⟩, false, false, 0, 0⟩ 0) (SimCore.iteration 0.1)

/-! ## What an action does -/

section moves

variable {s : ClosedLoop} {ty : PowerSystemType}

/-- With no operation under way the system is what it will be. -/
theorem settled_of_none (hnone : s.ahead = none) : s.settled = s.system := by
  rw [settled, hnone, Option.elim_none]

theorem settled_writeOutputPortBitPos (written : OutputPortBits) (pos : Fin 8) (set : Bool)
    (s : ClosedLoop) :
    (s.writeOutputPortBitPos written pos set).settled =
      if s.WritesLater written pos then s.settled
      else { s.settled with outputPort := s.settled.outputPort.writeBit pos set } := by
  cases hahead : s.ahead with
  | none =>
      have hnot : ¬ s.WritesLater written pos := by
        simp [WritesLater, settled_of_none hahead, hahead]
      simp [writeOutputPortBitPos, settled, hahead, hnot]
  | some op =>
      unfold writeOutputPortBitPos
      dsimp only
      split_ifs <;> simp [settled, hahead]

theorem getBitAtPos_pullReset {pos : Fin 8}
    (hpos : pos = (psCfg ty).outputBreakerBitPos → ¬ s.TurnsOff ty) (port : OutputPortBits) :
    OutputPortBits.getBitAtPos (s.pullReset ty port) pos = OutputPortBits.getBitAtPos port pos := by
  unfold pullReset
  split_ifs with hoff
  · rw [OutputPortBits.getBitAtPos_writeBit, if_neg fun h => hpos h hoff]
  · rfl

/-- A bit that the operation under way leaves as it is, or has written, or has still to write.
A reset bit may be low in between if the operation turns its subsystem off. -/
theorem getBitAtPos_outputPortBetween (s : ClosedLoop) (written : OutputPortBits) {pos : Fin 8}
    (hpos : ∀ ty, pos = (psCfg ty).outputBreakerBitPos → ¬ s.TurnsOff ty) :
    OutputPortBits.getBitAtPos (s.outputPortBetween written) pos =
        OutputPortBits.getBitAtPos s.settled.outputPort pos ∨
      OutputPortBits.getBitAtPos (s.outputPortBetween written) pos =
        OutputPortBits.getBitAtPos s.system.outputPort pos := by
  have hfirst : OutputPortBits.getBitAtPos
      (s.pullReset .motor (s.pullReset .comm s.system.outputPort)) pos =
        OutputPortBits.getBitAtPos s.system.outputPort pos :=
    (getBitAtPos_pullReset (hpos .motor) _).trans (getBitAtPos_pullReset (hpos .comm) _)
  unfold outputPortBetween
  rw [← hfirst]
  unfold OutputPortBits.getBitAtPos
  rw [Word.bit_or, Word.bit_and, Word.bit_and, Word.bit_not]
  cases Word.bit written pos
  · right
    rw [Bool.and_false, Bool.false_or, Bool.not_false, Bool.and_true]
  · left
    rw [Bool.and_true, Bool.not_true, Bool.and_false, Bool.or_false]

/-- A power bit is what it is before the operation under way, or after it. -/
theorem powerOn_outputPortBetween (s : ClosedLoop) (written : OutputPortBits)
    (ty : PowerSystemType) :
    OutputPortBits.getBitAtPos (s.outputPortBetween written) (psCfg ty).outputPowerOnBitPos =
        OutputPortBits.getBitAtPos s.settled.outputPort (psCfg ty).outputPowerOnBitPos ∨
      OutputPortBits.getBitAtPos (s.outputPortBetween written) (psCfg ty).outputPowerOnBitPos =
        OutputPortBits.getBitAtPos s.system.outputPort (psCfg ty).outputPowerOnBitPos := by
  refine getBitAtPos_outputPortBetween s written fun ty' hpos => ?_
  have hne : ∀ ty ty' : PowerSystemType,
      (psCfg ty).outputPowerOnBitPos ≠ (psCfg ty').outputBreakerBitPos := by
    decide
  exact absurd hpos (hne ty ty')

/-- What an action does to the system that the operation under way leaves. -/
inductive SystemMove (s : ClosedLoop) : LoopAction → System → Prop
  | keep (a : LoopAction) : SystemMove s a s.settled
  | powerOff (written : OutputPortBits) (next : FpgaStep) (pass : List FpgaStep) (pos : Fin 8)
      (hpass : s.pass = next :: pass) (hnext : next.turnsOff = some pos) :
      SystemMove s (.fpga written)
        { s.settled with outputPort := s.settled.outputPort.writeBit pos false }
  | daqInfoRead (daqReadTime : Time) (clock : Clocks) (hnone : s.ahead = none) :
      SystemMove s (.daqInfoRead daqReadTime clock)
        (s.processDaq (timePassedSec s.sysInfo.timestamp daqReadTime) clock)
  | daqTimeoutCheck (now : Time) (clock : Clocks) (hnone : s.ahead = none)
      (hlate : timePassedSec s.daqReadTime now > 1.5) :
      SystemMove s (.daqTimeoutCheck now clock)
        (s.checkTimeout (timePassedSec s.daqReadTime now) clock)
  | processOld (clock : Clocks) (hnone : s.ahead = none) (htimedOut : s.timedOut = true) :
      SystemMove s (.processOld clock) (PowerSystem.processDaq clock s.sysInfo.toSysInfo s.system)
  | command (op : Op) (hnone : s.ahead = none) : SystemMove s (.command op) (s.system.step op)

theorem systemMove_step (s : ClosedLoop) (a : LoopAction) : SystemMove s a (s.step a).settled := by
  cases a with
  | sim a => exact .keep _
  | beginPass =>
      simp only [step]
      split_ifs <;> exact .keep _
  | fpga written =>
      simp only [step]
      split
      · exact .keep _
      · next next pass hpass =>
          -- the operation under way may overtake the write
          have hwrite {pos : Fin 8} (hnext : next.turnsOff = some pos) :
              SystemMove s (.fpga written) (s.writeOutputPortBitPos written pos false).settled := by
            rw [settled_writeOutputPortBitPos]
            split_ifs
            · exact .keep _
            · exact .powerOff written next pass pos hpass hnext
          cases next with
          | motorPowerOff => exact hwrite rfl
          | commPowerOff => exact hwrite rfl
          | writeFpga => exact .keep _
          | readFpga => exact .keep _
  | daqInfoRead daqReadTime clock =>
      simp only [step]
      split_ifs with hnone
      · exact .daqInfoRead daqReadTime clock (Option.isNone_iff_eq_none.mp hnone)
      · exact .keep _
  | daqTimeoutCheck now clock =>
      simp only [step]
      split_ifs with hlate
      · exact .daqTimeoutCheck now clock (Option.isNone_iff_eq_none.mp hlate.1) hlate.2
      · exact .keep _
  | processOld clock =>
      simp only [step]
      split_ifs with htimedOut
      · exact .processOld clock (Option.isNone_iff_eq_none.mp htimedOut.1) htimedOut.2
      · exact .keep _
  | command op =>
      simp only [step]
      split_ifs with hnone
      · exact .command op (Option.isNone_iff_eq_none.mp hnone)
      · exact .keep _
  | finish => exact .keep _
  | registerPowerSys registered => exact .keep _

/-- The system is what it was, what the operation has made of it, or what the `FpgaIo` has written
one bit of. -/
theorem system_step (s : ClosedLoop) (a : LoopAction) :
    (s.step a).system = s.system ∨ (s.step a).system = s.settled ∨
      ∃ written next pass pos, a = .fpga written ∧ s.pass = next :: pass ∧
        next.turnsOff = some pos ∧ (s.step a).system =
          { s.system with outputPort := s.system.outputPort.writeBit pos false } := by
  cases a with
  | sim a => exact Or.inl rfl
  | beginPass =>
      simp only [step]
      split_ifs <;> exact Or.inl rfl
  | fpga written =>
      simp only [step]
      split
      · exact Or.inl rfl
      · next next pass hpass =>
          cases next with
          | motorPowerOff => exact Or.inr (Or.inr ⟨written, _, pass, _, rfl, hpass, rfl, rfl⟩)
          | commPowerOff => exact Or.inr (Or.inr ⟨written, _, pass, _, rfl, hpass, rfl, rfl⟩)
          | writeFpga => exact Or.inl rfl
          | readFpga => exact Or.inl rfl
  | daqInfoRead daqReadTime clock =>
      simp only [step]
      split_ifs <;> exact Or.inl rfl
  | daqTimeoutCheck now clock =>
      simp only [step]
      split_ifs <;> exact Or.inl rfl
  | processOld clock =>
      simp only [step]
      split_ifs <;> exact Or.inl rfl
  | command op =>
      simp only [step]
      split_ifs <;> exact Or.inl rfl
  | finish => exact Or.inr (Or.inl rfl)
  | registerPowerSys registered => exact Or.inl rfl

/-- A step that turns a bit off, when no operation under way turns it on. -/
theorem getBitAtPos_turnsOff {next : FpgaStep} {pass : List FpgaStep} {pos : Fin 8}
    (hpass : s.pass = next :: pass) (hnext : next.turnsOff = some pos)
    (hsets : ∀ op ∈ s.ahead, ¬ op.Sets pos)
    (hfalls : OutputPortBits.getBitAtPos s.system.outputPort pos = false →
      OutputPortBits.getBitAtPos s.settled.outputPort pos = false) (written : OutputPortBits) :
    OutputPortBits.getBitAtPos (s.step (.fpga written)).system.outputPort pos = false ∧
      OutputPortBits.getBitAtPos (s.step (.fpga written)).settled.outputPort pos = false := by
  have hsettled : OutputPortBits.getBitAtPos
      (s.writeOutputPortBitPos written pos false).settled.outputPort pos = false := by
    rw [settled_writeOutputPortBitPos]
    split_ifs with hlater
    · cases hbit : OutputPortBits.getBitAtPos s.system.outputPort pos with
      | false => exact hfalls hbit
      | true =>
          -- the operation has still to turn the bit off
          have hne := hlater.1.resolve_right fun ⟨op, hop, hset⟩ => hsets op hop hset
          rw [hbit] at hne
          simpa using hne.symm
    · simp
  have hwrite : OutputPortBits.getBitAtPos
      (s.writeOutputPortBitPos written pos false).system.outputPort pos = false := by
    simp [writeOutputPortBitPos]
  simp only [step, hpass]
  cases next with
  | motorPowerOff =>
      obtain rfl := Option.some.inj hnext
      exact ⟨hwrite, hsettled⟩
  | commPowerOff =>
      obtain rfl := Option.some.inj hnext
      exact ⟨hwrite, hsettled⟩
  | writeFpga => exact absurd hnext (by simp [FpgaStep.turnsOff])
  | readFpga => exact absurd hnext (by simp [FpgaStep.turnsOff])

/-- What an action does to the pass of the `FpgaIo`. -/
theorem pass_step (s : ClosedLoop) (a : LoopAction) :
    (s.step a).pass = s.pass ∨ s.pass = [] ∧ (s.step a).pass = passSteps s.registered ∨
      ∃ written, a = .fpga written ∧ (s.step a).pass = s.pass.tail := by
  cases a with
  | sim a => exact Or.inl rfl
  | beginPass =>
      simp only [step]
      split_ifs with hidle
      · exact Or.inr (Or.inl ⟨hidle, rfl⟩)
      · exact Or.inl rfl
  | fpga written =>
      refine Or.inr (Or.inr ⟨written, rfl, ?_⟩)
      simp only [step]
      split
      · next hnil => rw [hnil, List.tail_nil]
      · next next pass hpass => rw [hpass, List.tail_cons]
  | daqInfoRead daqReadTime clock =>
      simp only [step]
      split_ifs <;> exact Or.inl rfl
  | daqTimeoutCheck now clock =>
      simp only [step]
      split_ifs <;> exact Or.inl rfl
  | processOld clock =>
      simp only [step]
      split_ifs <;> exact Or.inl rfl
  | command op =>
      simp only [step]
      split_ifs <;> exact Or.inl rfl
  | finish => exact Or.inl rfl
  | registerPowerSys registered => exact Or.inl rfl

/-- What an action does to the simulator and to the record that was read. -/
inductive DataMove (s : ClosedLoop) : LoopAction → SimCore → SimInfo → Prop
  | keep (a : LoopAction) : DataMove s a s.sim s.sysInfo
  | sim (a : SimAction) : DataMove s (.sim a) (s.sim.step a) s.sysInfo
  | writeFpga (written : OutputPortBits) (pass : List FpgaStep)
      (hpass : s.pass = .writeFpga :: pass) :
      DataMove s (.fpga written)
        (s.sim.step (.setNewOutputPort (s.outputPortBetween written))) s.sysInfo
  | readFpga (written : OutputPortBits) (pass : List FpgaStep)
      (hpass : s.pass = .readFpga :: pass) :
      DataMove s (.fpga written) s.sim s.sim.simInfo

theorem dataMove_step (s : ClosedLoop) (a : LoopAction) :
    DataMove s a (s.step a).sim (s.step a).sysInfo := by
  cases a with
  | sim a => exact .sim a
  | beginPass =>
      simp only [step]
      split_ifs <;> exact .keep _
  | fpga written =>
      simp only [step]
      split
      · exact .keep _
      · next next pass hpass =>
          cases next with
          | motorPowerOff => exact .keep _
          | commPowerOff => exact .keep _
          | writeFpga => exact .writeFpga written pass hpass
          | readFpga => exact .readFpga written pass hpass
  | daqInfoRead daqReadTime clock =>
      simp only [step]
      split_ifs <;> exact .keep _
  | daqTimeoutCheck now clock =>
      simp only [step]
      split_ifs <;> exact .keep _
  | processOld clock =>
      simp only [step]
      split_ifs <;> exact .keep _
  | command op =>
      simp only [step]
      split_ifs <;> exact .keep _
  | finish => exact .keep _
  | registerPowerSys registered => exact .keep _

end moves

end ClosedLoop

end M2Cell
