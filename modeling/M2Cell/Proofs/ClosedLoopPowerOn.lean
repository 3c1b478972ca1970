import M2Cell.Proofs.ClosedLoopFaults
import M2Cell.Proofs.ClosedLoopPowerOff
import M2Cell.Proofs.PowerUpReads
import M2Cell.Proofs.SimPowerUp

/-!
# Power comes on in the closed loop

A command asks for comm power; when it has finished, the next write of the `FpgaIo` takes the
bit to the hardware, the second iteration after that is certain to work with it, the voltage
rises, the breakers close, and the records show it in time for the verdict of the state machine
(`comm_comes_on`).

The program has no control over when its threads run, so the result is about runs that are in
time (`Orderly`, `Early`, `Fresh`): up to nine reads may find records from before the hardware
had power, and a record is not older than `maxAge` when it is read, less what the hardware took
to see the bit.  The other operations of such a run are harmless (`Op.Harmless`), and nobody
forces the hardware or writes an input of it.

The proof follows the power through the loop:

- `Calm` is what holds before: undisturbed hardware (`Quiet`), bits that agree with the targets
  (`Governed`), breakers whose inputs nobody writes;
- `Coming` is what the command begins: the subsystem climbs, read by read (`coming_read`), and
  nothing else moves it (`coming_step`);
- `Waiting` lasts until the hardware is certain to have power; the write and two iterations give
  `SimCore.Energizing` and with it `Supplied`;
- `Up` is the rest: a read that is in time fits (`Up.fits`), so the first late one brings the
  actual state to `ON`, and a subsystem that is `ON` reads full power from then on.

Reads begin and finish like every operation, so all of this is said of `settled`, the system that
the operation under way leaves.
-/

namespace M2Cell

open SimPowerSubsystem PowerSubsystemConfig

/-! ## Records of powered hardware -/

namespace SimCore

variable {ty : PowerSystemType} {start : Time} {first : ℚ} {info : SimInfo}

/-- When all breaker inputs are high, so are the three inputs of each feed. -/
theorem InputsHigh.feeds {inputPort : InputPortBits} (h : InputsHigh ty inputPort) :
    ∀ feed ∈ (psCfg ty).breakerFeedGroup.feeds, feed.highCount inputPort = 3 := by
  have hpositions : ∀ feed ∈ (psCfg ty).breakerFeedGroup.feeds,
      ∀ pos ∈ [feed.bit0Pos, feed.bit1Pos, feed.bit2Pos],
        pos ∈ breakerBitPositions ty ∨ pos = InputPortBits.alwaysHigh := by
    cases ty <;> decide
  have halways : InputPortBits.getBitAtPos inputPort InputPortBits.alwaysHigh = true := rfl
  intro feed hfeed
  have hbit : ∀ pos ∈ [feed.bit0Pos, feed.bit1Pos, feed.bit2Pos],
      InputPortBits.getBitAtPos inputPort pos = true := by
    intro pos hpos
    obtain hbreaker | rfl := hpositions feed hfeed pos hpos
    · exact h pos hbreaker
    · exact halways
  simp only [List.forall_mem_cons, List.not_mem_nil, false_implies, implies_true, and_true] at hbit
  obtain ⟨h0, h1, h2⟩ := hbit
  simp [Feed.highCount, h0, h1, h2]

/-- The breakers close before the voltage may be asked for. -/
theorem breakerCloseTimeSec_lt {dt : ℚ}
    (htime : (psCfg ty).outputOnMaxDelay ≤ dt * rampFactor) : breakerCloseTimeSec ty < dt := by
  have hpulse : breakerCloseTimeSec ty * rampFactor < (psCfg ty).outputOnMaxDelay := by
    cases ty <;> decide +kernel
  exact lt_of_mul_lt_mul_right (hpulse.trans_le htime) (by norm_num [rampFactor])

/-- The interlock of the motor lets the power through. -/
def Interlocked (ty : PowerSystemType) (info : SysInfo) : Prop :=
  ty = .motor →
    OutputPortBits.getBitAtPos info.outputPort OutputPortBits.crioInterlockEnable = true ∧
      InputPortBits.getBitAtPos info.inputPort InputPortBits.interlockPowerRelay = false

/-- **A record that is new enough is healthy.** -/
theorem healthyTelemetry_of_shows (hshows : ShowsPower ty start info) {count : ℕ}
    (hvoltage : Tracks ty true (info.timestamp - start) first count (info.toSysInfo.voltage ty))
    (hnonneg : 0 ≤ first) (hle : first ≤ voltageNominal ty) (hcount : count ≤ maxCount)
    (hsound : Sound info.toSysInfo) (hinterlock : Interlocked ty info.toSysInfo)
    (htime : (psCfg ty).outputOnMaxDelay ≤ (info.timestamp - start) * rampFactor) :
    HealthyTelemetry ty info.toSysInfo := by
  have hfull : info.toSysInfo.voltage ty = (psCfg ty).nominalVoltage :=
    hvoltage.eq_rampEnd hnonneg hle hcount htime
  have hnominal : (psCfg ty).minVoltageWarn ≤ (psCfg ty).nominalVoltage ∧
      (psCfg ty).nominalVoltage ≤ (psCfg ty).maxVoltageWarn := by
    cases ty <;> norm_num [minVoltageWarn, maxVoltageWarn, psCfg, setupMotor, setupComm]
  have hmax := currentMax_pos ty
  have hcurrent := hsound.current_le ty
  rw [currentMax] at hmax hcurrent
  refine ⟨?_, fun hty => (hinterlock hty).1, fun hty => (hinterlock hty).2,
    (hshows.breakers (breakerCloseTimeSec_lt htime)).feeds, ?_, ?_, by linarith⟩
  · rw [← powerOnBitPos_eq]
    exact hshows.relay
  · rw [hfull]
    exact hnominal.1
  · rw [hfull]
    exact hnominal.2

end SimCore

namespace ClosedLoop

variable {s : ClosedLoop} {ty : PowerSystemType}

/-! ## A loop that nobody disturbs -/

/-- The action is one of the program, leaves the hardware alone, and begins no write of an
input. -/
def Leaves : LoopAction → Prop
  | .sim a => InProgram (.sim a) ∧ SimCore.LeavesAlone a ∧ SimCore.WritesNoInput a
  | a => InProgram a

instance decidableLeaves : ∀ a, Decidable (Leaves a)
  | .sim a =>
      inferInstanceAs
        (Decidable (InProgram (.sim a) ∧ SimCore.LeavesAlone a ∧ SimCore.WritesNoInput a))
  | .beginPass => inferInstanceAs (Decidable (InProgram .beginPass))
  | .fpga written => inferInstanceAs (Decidable (InProgram (.fpga written)))
  | .daqInfoRead t clock => inferInstanceAs (Decidable (InProgram (.daqInfoRead t clock)))
  | .daqTimeoutCheck t clock => inferInstanceAs (Decidable (InProgram (.daqTimeoutCheck t clock)))
  | .processOld clock => inferInstanceAs (Decidable (InProgram (.processOld clock)))
  | .command op => inferInstanceAs (Decidable (InProgram (.command op)))
  | .finish => inferInstanceAs (Decidable (InProgram .finish))
  | .registerPowerSys r => inferInstanceAs (Decidable (InProgram (.registerPowerSys r)))

theorem Leaves.gentle {a : LoopAction} (h : Leaves a) : Gentle a := by
  cases a with
  | sim a => exact ⟨h.1, h.2.1⟩
  | _ => exact h

/-- What holds of the records and the breakers as long as nobody writes an input. -/
structure Recorded (ty : PowerSystemType) (sim : SimCore) (sysInfo : SimInfo) : Prop where
  bounded : sim.Bounded ty
  published : 0 < sim.iterations
  breaker : sim.BreakerOk ty
  dated : sim.Dated
  /-- No record is read before an older one. -/
  read_le : sysInfo.timestamp ≤ sim.simInfo.timestamp

theorem Recorded.simInfo_le {sim : SimCore} {sysInfo : SimInfo} (h : Recorded ty sim sysInfo) :
    sim.simInfo.timestamp ≤ sim.timestamp :=
  h.dated (Or.inl h.published)

/-- The time of the record that is published last does not go back. -/
theorem simInfo_le_step {sim : SimCore} (hsim : sim.simInfo.timestamp ≤ sim.timestamp)
    (a : SimAction) : sim.simInfo.timestamp ≤ (sim.step a).simInfo.timestamp := by
  obtain hsame | ⟨-, hinfo⟩ := SimCore.simInfo_step sim a
  · rw [hsame]
  · rw [hinfo]
    exact hsim

theorem Recorded.sim_step {sim : SimCore} {sysInfo : SimInfo} (hs : Recorded ty sim sysInfo)
    {a : SimAction} (hforward : sim.Forward a) (hallows : SimCore.AllowsVoltage ty a)
    (ha : SimCore.WritesNoInput a) : Recorded ty (sim.step a) sysInfo where
  bounded := SimCore.bounded_step hs.bounded hforward hallows
  published := hs.published.trans_le (SimCore.iterations_le_step sim a)
  breaker := SimCore.breakerOk_step hs.breaker hforward ha
  dated := SimCore.dated_step hs.dated hs.bounded.ordered hforward
  read_le := hs.read_le.trans (simInfo_le_step hs.simInfo_le a)

theorem recorded_step (hs : Recorded ty s.sim s.sysInfo) {a : LoopAction}
    (hforward : s.Forward a) (ha : Leaves a) :
    Recorded ty (s.step a).sim (s.step a).sysInfo ∧
      s.sysInfo.timestamp ≤ (s.step a).sysInfo.timestamp := by
  have hmove := dataMove_step s a
  generalize (s.step a).sim = sim, (s.step a).sysInfo = sysInfo at hmove
  cases hmove with
  | keep a => exact ⟨hs, le_rfl⟩
  | sim a => exact ⟨hs.sim_step hforward (ha.2.1.allowsVoltage ty) ha.2.2, le_rfl⟩
  | writeFpga written pass hpass => exact ⟨hs.sim_step trivial trivial trivial, le_rfl⟩
  | readFpga written pass hpass =>
      exact ⟨⟨hs.bounded, hs.published, hs.breaker, hs.dated, le_rfl⟩, hs.read_le⟩

/-- What holds in the loop as long as the hardware is left alone and a `PowerSystem` is
registered. -/
structure Calm (ty : PowerSystemType) (s : ClosedLoop) : Prop where
  quiet : s.Quiet
  governed : s.Governed
  recorded : Recorded ty s.sim s.sysInfo

theorem calm_step (hs : s.Calm ty) {a : LoopAction} (hforward : s.Forward a) (ha : Leaves a)
    (hregistered : StaysRegistered true a) : (s.step a).Calm ty where
  quiet := quiet_step hs.quiet hforward ha.gentle
  governed := governed_step hs.governed hregistered
  recorded := (recorded_step hs.recorded hforward ha).1

/-! ## The hardware has power -/

/-- Whatever the `FpgaIo` writes, the power bit and the reset bit are high. -/
def Lights (ty : PowerSystemType) (s : ClosedLoop) : Prop :=
  ∀ written, OutputPortBits.getBitAtPos (s.outputPortBetween written) (powerOnBitPos ty) = true ∧
    OutputPortBits.getBitAtPos (s.outputPortBetween written) (breakerResetPos ty) = true

/-- The output bits of a subsystem with the target on, outside `RESET`. -/
theorem bits_of_wellFormed {system : System} (hsystem : system.WellFormed)
    (htarg : (system.sub ty).targPowerState = .on)
    (hactual : (system.sub ty).actualPowerState ≠ .reset) :
    OutputPortBits.getBitAtPos system.outputPort (powerOnBitPos ty) = true ∧
      OutputPortBits.getBitAtPos system.outputPort (breakerResetPos ty) = true := by
  have hcoupled := hsystem.coupled ty
  rw [powerOnBitPos_eq, breakerResetPos_eq]
  refine ⟨hcoupled.power.mpr htarg, ?_⟩
  by_contra hlow
  exact hactual (hcoupled.reset (by simpa using hlow)).2

/-- The bits are high before the operation under way and after it, and so in between. -/
theorem Governed.lights (hs : s.Governed) (htarg : (s.system.sub ty).targPowerState = .on)
    (hactual : (s.system.sub ty).actualPowerState ≠ .reset)
    (htarg' : (s.settled.sub ty).targPowerState = .on)
    (hactual' : (s.settled.sub ty).actualPowerState ≠ .reset) : s.Lights ty := by
  obtain ⟨hpower, hreset⟩ := bits_of_wellFormed hs.system htarg hactual
  obtain ⟨hpower', hreset'⟩ := bits_of_wellFormed hs.settled htarg' hactual'
  intro written
  constructor
  · rw [powerOnBitPos_eq] at hpower hpower' ⊢
    obtain hafter | hbefore := powerOn_outputPortBetween s written ty
    · exact hafter.trans hpower'
    · exact hbefore.trans hpower
  · -- nothing turns the subsystem off, so its reset bit is not pulled low on the way
    have hkept (ty' : PowerSystemType) (hpos : breakerResetPos ty = (psCfg ty').outputBreakerBitPos) :
        ¬ s.TurnsOff ty' := by
      have hinjective : ∀ ty ty' : PowerSystemType,
          breakerResetPos ty = (psCfg ty').outputBreakerBitPos → ty = ty' := by
        decide
      rintro ⟨-, hoff⟩
      rw [← hinjective ty ty' hpos, htarg'] at hoff
      exact PowerState.noConfusion hoff
    obtain hafter | hbefore := getBitAtPos_outputPortBetween s written hkept
    · exact hafter.trans hreset'
    · exact hbefore.trans hreset

/-- The hardware works with the power bit since the simulator was `old`, and the record that was
read shows it, if it is newer. -/
structure Supplied (ty : PowerSystemType) (old sim : SimCore) (sysInfo : SimInfo) : Prop where
  energized : sim.Energized ty old.timestamp (old.sub ty).voltage old.iterations old.simInfo
  bounded : old.Bounded ty
  dated : old.simInfo.timestamp ≤ old.timestamp
  read : sysInfo.timestamp ≤ old.timestamp ∨ SimCore.ShowsPower ty old.timestamp sysInfo ∧
    Tracks ty true (sysInfo.timestamp - old.timestamp) (old.sub ty).voltage
      (sysInfo.iterations + 1 - old.iterations) (sysInfo.toSysInfo.voltage ty)

variable {old : SimCore}

theorem Supplied.sim_step {sim : SimCore} {sysInfo : SimInfo} (hs : Supplied ty old sim sysInfo)
    {a : SimAction} (hforward : sim.Forward a) (hallows : SimCore.AllowsVoltage ty a)
    (hpower : SimCore.KeepsBit (powerOnBitPos ty) true a)
    (hreset : SimCore.KeepsBit (breakerResetPos ty) true a) (ha : SimCore.WritesNoInput a) :
    Supplied ty old (sim.step a) sysInfo :=
  ⟨SimCore.energized_step hs.energized hforward hallows hpower hreset ha, hs.bounded, hs.dated,
    hs.read⟩

/-- The `FpgaIo` reads what the simulator has published. -/
theorem Supplied.readFpga {sim : SimCore} {sysInfo : SimInfo} (hs : Supplied ty old sim sysInfo) :
    Supplied ty old sim sim.simInfo := by
  refine ⟨hs.energized, hs.bounded, hs.dated, ?_⟩
  obtain hsame | ⟨-, hvoltage⟩ := hs.energized.ramping.published
  · exact Or.inl (hsame ▸ hs.dated)
  · obtain hsame | hshows := hs.energized.record
    · exact Or.inl (hsame ▸ hs.dated)
    · exact Or.inr ⟨hshows, hvoltage⟩

theorem supplied_step (hs : Supplied ty old s.sim s.sysInfo) (hlights : s.Lights ty)
    {a : LoopAction} (hforward : s.Forward a) (ha : Leaves a) :
    Supplied ty old (s.step a).sim (s.step a).sysInfo := by
  have hmove := dataMove_step s a
  generalize (s.step a).sim = sim, (s.step a).sysInfo = sysInfo at hmove
  cases hmove with
  | keep a => exact hs
  | sim a =>
      have hkeeps := keepsBit_of_inProgram ha.1
      exact hs.sim_step hforward (ha.2.1.allowsVoltage ty) (hkeeps _ _) (hkeeps _ _) ha.2.2
  | writeFpga written pass hpass =>
      obtain ⟨hpower, hreset⟩ := hlights written
      exact hs.sim_step trivial trivial hpower hreset trivial
  | readFpga written pass hpass => exact hs.readFpga

/-! ## Reads in time -/

/-- The next read is one of the first nine, which are only counted. -/
def Counts (sub : PowerSubsystem) : Prop :=
  sub.actualPowerState = .off ∨
    sub.actualPowerState = .turningOn ∧ sub.phase = 1 ∧ sub.telemCounter < 9

instance decidableCounts (sub : PowerSubsystem) : Decidable (Counts sub) :=
  inferInstanceAs (Decidable (_ ∨ _))

/-- How old a record may be for the verdict, if the hardware saw the bit at once. -/
def maxAge (ty : PowerSystemType) : ℚ :=
  (psCfg ty).outputOnMaxDelay - (psCfg ty).outputOnMaxDelay / rampFactor

/-- The times of the reads that are processed. -/
def readTimes (ty : PowerSystemType) : List LoopAction → List Time
  | [] => []
  | .daqInfoRead _ clock :: rest => (clock ty).now :: readTimes ty rest
  | _ :: rest => readTimes ty rest

theorem readTimes_append (ty : PowerSystemType) (acts more : List LoopAction) :
    readTimes ty (acts ++ more) = readTimes ty acts ++ readTimes ty more := by
  induction acts with
  | nil => rfl
  | cons a rest ih =>
      cases a with
      | daqInfoRead t clock => simp [readTimes, ih]
      | _ => exact ih

theorem readTimes_eq_nil {a : LoopAction} (hread : ∀ t clock, a ≠ .daqInfoRead t clock)
    (ty : PowerSystemType) : readTimes ty [a] = [] := by
  cases a with
  | daqInfoRead t clock => exact absurd rfl (hread t clock)
  | _ => rfl

/-- The `i`-th of some times. -/
def nth (i : ℕ) (times : List Time) : Time := times[i]?.getD 0

theorem nth_concat (i : ℕ) (times : List Time) (t : Time) :
    nth i (times ++ [t]) = if times.length = i then t else nth i times := by
  unfold nth
  obtain hlt | rfl | hgt := lt_trichotomy times.length i
  · have hne : ¬ times.length = i := by omega
    rw [if_neg hne, List.getElem?_eq_none (by simp; omega), List.getElem?_eq_none (by omega)]
  · rw [if_pos rfl, List.getElem?_append_right le_rfl, Nat.sub_self]
    rfl
  · have hne : ¬ times.length = i := by omega
    rw [if_neg hne, List.getElem?_append_left hgt]

/-- The stages while comm power comes up. -/
def stages (times : List Time) : PowerSystemType → Stage
  | .motor => .resting
  | .comm => .risen times.length (nth 0 times) (nth 9 times)

theorem next_stages (times : List Time) (clock : Clocks) :
    (fun ty => (stages times ty).next (clock ty).now) = stages (times ++ [(clock .comm).now]) := by
  funext ty
  cases ty with
  | motor => rfl
  | comm => simp only [stages, Stage.next, List.length_append, List.length_singleton, nth_concat]

/-- Comm power was asked for at the time `asked`, and reads were processed at the given times. -/
structure Coming (asked : Time) (times : List Time) (s : ClosedLoop) : Prop where
  calm : s.Calm .comm
  timedOut : s.timedOut = false
  steady : Steady (stages times) s.settled
  asked_le : ∀ t ∈ times, asked ≤ t
  notReset : (s.system.sub .comm).actualPowerState ≠ .reset
  free : s.system.checkForFaults .comm = false

/-- The data do not get too old, the reads are processed one after the other, and the commands
are harmless. -/
def InTime (asked : Time) (s : ClosedLoop) : LoopAction → Prop
  | .daqInfoRead daqReadTime clock =>
      s.ahead.isNone ∧ timePassedSec s.sysInfo.timestamp daqReadTime ≤ 1.5 ∧
        asked ≤ (clock .comm).now
  | .daqTimeoutCheck now _ => timePassedSec s.daqReadTime now ≤ 1.5
  | .command op => op.Harmless
  | _ => True

instance decidableInTime (asked : Time) (s : ClosedLoop) : ∀ a, Decidable (s.InTime asked a)
  | .sim _ => inferInstanceAs (Decidable True)
  | .beginPass => inferInstanceAs (Decidable True)
  | .fpga _ => inferInstanceAs (Decidable True)
  | .daqInfoRead _ _ => inferInstanceAs (Decidable (_ ∧ _ ∧ _))
  | .daqTimeoutCheck now _ => inferInstanceAs (Decidable (timePassedSec s.daqReadTime now ≤ 1.5))
  | .processOld _ => inferInstanceAs (Decidable True)
  | .command op => inferInstanceAs (Decidable op.Harmless)
  | .finish => inferInstanceAs (Decidable True)
  | .registerPowerSys _ => inferInstanceAs (Decidable True)

/-- What every action is while comm power comes up. -/
def Orderly (asked : Time) (s : ClosedLoop) (a : LoopAction) : Prop :=
  s.Forward a ∧ Leaves a ∧ StaysRegistered true a ∧ s.InTime asked a

instance decidableOrderly (asked : Time) (s : ClosedLoop) (a : LoopAction) :
    Decidable (s.Orderly asked a) :=
  inferInstanceAs (Decidable (_ ∧ _))

/-- A read before the hardware is certain to have power is one of the first nine. -/
def Early (s : ClosedLoop) : LoopAction → Prop
  | .daqInfoRead _ _ => Counts (s.settled.sub .comm)
  | _ => True

instance decidableEarly (s : ClosedLoop) : ∀ a, Decidable (s.Early a)
  | .sim _ => inferInstanceAs (Decidable True)
  | .beginPass => inferInstanceAs (Decidable True)
  | .fpga _ => inferInstanceAs (Decidable True)
  | .daqInfoRead _ _ => inferInstanceAs (Decidable (Counts (s.settled.sub .comm)))
  | .daqTimeoutCheck _ _ => inferInstanceAs (Decidable True)
  | .processOld _ => inferInstanceAs (Decidable True)
  | .command _ => inferInstanceAs (Decidable True)
  | .finish => inferInstanceAs (Decidable True)
  | .registerPowerSys _ => inferInstanceAs (Decidable True)

/-- A read after that finds a record that is not too old, and but for the first nine one that
is newer than the power, by no more iterations than may be rounded. -/
def Fresh (old : SimCore) (age : ℚ) (s : ClosedLoop) : LoopAction → Prop
  | .daqInfoRead _ clock =>
      (clock .comm).now ≤ s.sysInfo.timestamp + age ∧
        (Counts (s.settled.sub .comm) ∨
          old.timestamp < s.sysInfo.timestamp ∧
            s.sysInfo.iterations + 1 - old.iterations ≤ maxCount)
  | _ => True

instance decidableFresh (old : SimCore) (age : ℚ) (s : ClosedLoop) :
    ∀ a, Decidable (s.Fresh old age a)
  | .sim _ => inferInstanceAs (Decidable True)
  | .beginPass => inferInstanceAs (Decidable True)
  | .fpga _ => inferInstanceAs (Decidable True)
  | .daqInfoRead _ clock =>
      inferInstanceAs
        (Decidable ((clock .comm).now ≤ s.sysInfo.timestamp + age ∧
          (Counts (s.settled.sub .comm) ∨ old.timestamp < s.sysInfo.timestamp ∧
            s.sysInfo.iterations + 1 - old.iterations ≤ maxCount)))
  | .daqTimeoutCheck _ _ => inferInstanceAs (Decidable True)
  | .processOld _ => inferInstanceAs (Decidable True)
  | .command _ => inferInstanceAs (Decidable True)
  | .finish => inferInstanceAs (Decidable True)
  | .registerPowerSys _ => inferInstanceAs (Decidable True)

section coming

variable {asked : Time} {times : List Time}

theorem Coming.climbing (hs : s.Coming asked times) :
    Call.Climbing times.length (nth 0 times) (nth 9 times) (s.settled.sub .comm) :=
  hs.steady.stage .comm

theorem Coming.targ (hs : s.Coming asked times) : (s.settled.sub .comm).targPowerState = .on :=
  hs.climbing.rising.targ

theorem Coming.actual (hs : s.Coming asked times) :
    (s.settled.sub .comm).actualPowerState ≠ .reset := by
  intro hreset
  have hstage := hs.climbing.rising.2
  rw [hreset] at hstage
  exact hstage

/-- What an action makes of the system itself. -/
theorem Coming.system_step (hs : s.Coming asked times) (a : LoopAction) :
    ((s.step a).system.sub .comm).actualPowerState ≠ .reset ∧
      (s.step a).system.checkForFaults .comm = false ∧
      ((s.system.sub .comm).targPowerState = .on →
        ((s.step a).system.sub .comm).targPowerState = .on) := by
  obtain hsame | hdone | ⟨written, next, pass, pos, -, -, -, hwrite⟩ := ClosedLoop.system_step s a
  · rw [hsame]
    exact ⟨hs.notReset, hs.free, id⟩
  · rw [hdone]
    exact ⟨hs.actual, hs.steady.faults .comm (by simp [stages]), fun _ => hs.targ⟩
  · rw [hwrite]
    exact ⟨hs.notReset, hs.free, id⟩

/-- With the target on in the system as well, every write has the bits high. -/
theorem Coming.lights (hs : s.Coming asked times)
    (hstarted : (s.system.sub .comm).targPowerState = .on) : s.Lights .comm :=
  hs.calm.governed.lights hstarted hs.notReset hs.targ hs.actual

/-- No data get old. -/
theorem Coming.timedOut_step (hs : s.Coming asked times) {a : LoopAction}
    (ha : s.Orderly asked a) : (s.step a).timedOut = false := by
  cases a with
  | daqTimeoutCheck now clock =>
      have hnot : ¬ timePassedSec s.daqReadTime now > 1.5 := not_lt.mpr ha.2.2.2
      simp only [step, hnot, and_false, if_false]
      exact hs.timedOut
  | fpga written =>
      simp only [step]
      split
      · exact hs.timedOut
      · next next pass hpass => cases next <;> exact hs.timedOut
  | processOld clock =>
      simp only [step, hs.timedOut, Bool.false_eq_true, and_false, if_false]
  | beginPass | daqInfoRead daqReadTime clock | command op =>
      simp only [step]
      split_ifs <;> exact hs.timedOut
  | sim a => exact hs.timedOut
  | finish => exact hs.timedOut
  | registerPowerSys registered => exact hs.timedOut

/-- Nothing but reads moves the state machines. -/
theorem settled_step (hs : s.Coming asked times) {a : LoopAction} (ha : s.Orderly asked a)
    (hread : ∀ t clock, a ≠ .daqInfoRead t clock) :
    Steady (stages times) (s.step a).settled ∧
      ∀ ty, (s.step a).settled.sub ty = s.settled.sub ty := by
  obtain ⟨-, -, -, hrest⟩ := ha
  have hmove := systemMove_step s a
  generalize (s.step a).settled = r at hmove
  cases hmove with
  | keep a => exact ⟨hs.steady, fun _ => rfl⟩
  | powerOff written next pass pos hpass hnext =>
      have hnot := hs.calm.governed.pass next (by rw [hpass]; exact List.mem_cons_self)
      exact absurd hnext (by simp [hnot])
  | daqInfoRead t clock hnone => exact absurd rfl (hread t clock)
  | daqTimeoutCheck now clock hnone hlate => exact absurd hlate (not_lt.mpr hrest)
  | processOld clock hnone htimedOut => exact absurd (hs.timedOut.symm.trans htimedOut) (by decide)
  | command op hnone =>
      rw [← settled_of_none hnone]
      exact ⟨hs.steady.harmless hrest, (System.step_of_harmless _ hrest).1⟩

theorem coming_step (hs : s.Coming asked times) {a : LoopAction} (ha : s.Orderly asked a)
    (hread : ∀ t clock, a ≠ .daqInfoRead t clock) : (s.step a).Coming asked times := by
  obtain ⟨hnotReset, hfree, -⟩ := hs.system_step a
  exact ⟨calm_step hs.calm ha.1 ha.2.1 ha.2.2.1, hs.timedOut_step ha,
    (settled_step hs ha hread).1, hs.asked_le, hnotReset, hfree⟩

/-- A read of a record that fits. -/
theorem coming_read (hs : s.Coming asked times) {daqReadTime : Time} {clock : Clocks}
    (ha : s.Orderly asked (.daqInfoRead daqReadTime clock))
    (hfits : Call.Fits .comm (clock .comm) times.length
      ⟨{ s.settled.sub .comm with sysInfo := s.sysInfo.toSysInfo }, 0, 0⟩) :
    (s.step (.daqInfoRead daqReadTime clock)).Coming asked (times ++ [(clock .comm).now]) ∧
      Call.Moves .comm (clock .comm) times.length (nth 0 times) (nth 9 times)
        (s.settled.sub .comm) ((s.step (.daqInfoRead daqReadTime clock)).settled.sub .comm) := by
  have htimedOut := hs.timedOut_step ha
  obtain ⟨hforward, hleaves, hregistered, hnone, hage, hasked⟩ := ha
  -- a sound record has healthy supplies, and the motor rests
  have hfitsAll : FitsAll (stages times) clock s.sysInfo.toSysInfo s.settled := by
    refine ⟨fun ty => ?_, healthFaults_of_sound hs.calm.quiet.sysInfo s.settled,
      fun h => absurd rfl h⟩
    cases ty with
    | motor => trivial
    | comm => exact hfits
  have hsettled := settled_of_none (Option.isNone_iff_eq_none.mp hnone)
  have hsame : s.checkTimeout (timePassedSec s.sysInfo.timestamp daqReadTime) clock =
      s.settled := by
    simp only [checkTimeout, PowerSystem.checkTimeout, decide_eq_true_eq]
    rw [if_neg (not_lt.mpr hage), hsettled]
  have hsystem : (s.step (.daqInfoRead daqReadTime clock)).settled =
      PowerSystem.processDaq clock s.sysInfo.toSysInfo s.settled := by
    simp only [step, hnone, if_true]
    change s.processDaq _ clock = _
    rw [processDaq, hsame]
  obtain ⟨hsteady, hmoves⟩ := hs.steady.processDaq hfitsAll
  rw [next_stages] at hsteady
  obtain ⟨hnotReset, hfree, -⟩ := hs.system_step (.daqInfoRead daqReadTime clock)
  refine ⟨⟨calm_step hs.calm hforward hleaves hregistered, htimedOut, hsystem ▸ hsteady,
    fun t ht => ?_, hnotReset, hfree⟩, ?_⟩
  · obtain hbefore | hnew := List.mem_append.mp ht
    · exact hs.asked_le t hbefore
    · rw [List.mem_singleton.mp hnew]
      exact hasked
  · rw [hsystem]
    exact hmoves .comm

/-- A record of the first nine reads fits. -/
theorem Coming.fits_of_counts (hs : s.Coming asked times) (hcounts : Counts (s.settled.sub .comm))
    (clock : Clock) :
    times.length < 9 ∧ Call.Fits .comm clock times.length
      ⟨{ s.settled.sub .comm with sysInfo := s.sysInfo.toSysInfo }, 0, 0⟩ := by
  have hsound := hs.calm.quiet.sysInfo
  have hstage := hs.climbing.rising.2
  -- the reads that count are the first nine, which look at neither output nor voltage
  have hfew : times.length < 9 := by
    obtain hoff | ⟨hturning, hone, hcount⟩ := hcounts
    · rw [hoff] at hstage
      omega
    · rw [hturning] at hstage
      obtain ⟨-, -, hsame⟩ | ⟨htwo, -⟩ := hstage
      · omega
      · omega
  have hnot : (s.settled.sub .comm).actualPowerState ≠ .on := by
    intro hon
    obtain hoff | ⟨hturning, -⟩ := hcounts
    · rw [hoff] at hon
      exact absurd hon (by decide)
    · rw [hturning] at hon
      exact absurd hon (by decide)
  have hlimits := hsound.voltage_le .comm
  have hcurrent := hsound.current_le .comm
  refine ⟨hfew, ?_, ?_, rfl, fun hnine => by omega, fun h => ?_⟩
  · exact hlimits.trans (by
      norm_num [voltageNominal, maxVoltageWarn, psCfg, setupComm])
  · exact hcurrent.trans (by norm_num [currentMax, psCfg, setupComm])
  · obtain hon | ⟨hnine, -⟩ := h
    · exact absurd hon hnot
    · omega

/-! ## Until the hardware has power -/

/-- Before the hardware is certain to have power, comm power comes up and is not on yet. -/
structure Waiting (asked : Time) (times : List Time) (s : ClosedLoop) : Prop where
  coming : s.Coming asked times
  notOn : (s.settled.sub .comm).actualPowerState ≠ .on

theorem waiting_step (hs : s.Waiting asked times) {a : LoopAction} (ha : s.Orderly asked a)
    (hearly : s.Early a) : (s.step a).Waiting asked (times ++ readTimes .comm [a]) := by
  by_cases hread : ∀ t clock, a ≠ .daqInfoRead t clock
  · rw [readTimes_eq_nil hread, List.append_nil]
    refine ⟨coming_step hs.coming ha hread, ?_⟩
    rw [(settled_step hs.coming ha hread).2]
    exact hs.notOn
  cases a with
  | daqInfoRead daqReadTime clock =>
      obtain ⟨hfew, hfits⟩ := hs.coming.fits_of_counts hearly (clock .comm)
      obtain ⟨hcoming, hmoves⟩ := coming_read hs.coming ha hfits
      refine ⟨hcoming, fun hon => ?_⟩
      obtain hbefore | ⟨hnine, -⟩ := hmoves.verdict hon
      · exact hs.notOn hbefore
      · omega
  | _ => exact absurd (fun _ _ => by simp) hread

theorem waiting_run (hs : s.Waiting asked times) {acts : List LoopAction}
    (hacts : Always step (fun s a => s.Orderly asked a ∧ s.Early a) s acts) :
    (run step s acts).Waiting asked (times ++ readTimes .comm acts) := by
  induction acts generalizing s times with
  | nil =>
      rw [readTimes, List.append_nil]
      exact hs
  | cons a rest ih =>
      have hnext := waiting_step hs hacts.1.1 hacts.1.2
      have hrest := ih hnext hacts.2
      rw [List.append_assoc, ← readTimes_append, List.singleton_append] at hrest
      exact hrest

/-- The output port keeps asking for the power. -/
theorem energizing_loop {written : ℕ} (hs : s.sim.Energizing .comm written)
    (hordered : s.sim.Ordered) (hlights : s.Lights .comm) {a : LoopAction} (ha : Leaves a) :
    (s.step a).sim.Energizing .comm written := by
  have hmove := dataMove_step s a
  generalize (s.step a).sim = sim, (s.step a).sysInfo = sysInfo at hmove
  cases hmove with
  | keep a => exact hs
  | sim a =>
      have hkeeps := keepsBit_of_inProgram ha.1
      exact SimCore.energizing_step hs hordered (hkeeps _ _) (hkeeps _ _)
  | writeFpga mask pass hpass =>
      obtain ⟨hpower, hreset⟩ := hlights mask
      exact SimCore.energizing_step hs hordered hpower hreset
  | readFpga mask pass hpass => exact hs

/-- After a write the hardware is powered when two iterations have ended. -/
theorem energizing_run (hs : s.Waiting asked times)
    (hstarted : (s.system.sub .comm).targPowerState = .on)
    (hwrite : s.pass.head? = some .writeFpga) {mask : OutputPortBits} {between : List LoopAction}
    (hacts : Always step (fun s a => s.Orderly asked a ∧ s.Early a) s (.fpga mask :: between))
    {r : ClosedLoop} (hr : r = run step s (.fpga mask :: between)) :
    r.sim.Energizing .comm s.sim.iterations ∧ (r.system.sub .comm).targPowerState = .on := by
  have hwritten : (s.step (.fpga mask)).sim.Energizing .comm s.sim.iterations := by
    obtain ⟨hpower, hreset⟩ := hs.coming.lights hstarted mask
    have hcount : (s.step (.fpga mask)).sim.iterations = s.sim.iterations := by
      obtain ⟨pass, hpass⟩ := List.head?_eq_some_iff.mp hwrite
      simp only [step, hpass]
      rfl
    rw [← hcount]
    rw [← newOutput_writeFpga hwrite] at hpower hreset
    exact SimCore.energizing_start hpower hreset
  have hnext := waiting_step hs hacts.1.1 hacts.1.2
  -- from the write on the bits stay high, whatever comes
  have hrest := hacts.2.invariant
    (fun r => (∃ times, r.Waiting asked times) ∧ r.sim.Energizing .comm s.sim.iterations ∧
      (r.system.sub .comm).targPowerState = .on)
    (by
      rintro r a ⟨⟨times, hwaiting⟩, henergizing, hstarted⟩ ha
      exact ⟨⟨_, waiting_step hwaiting ha.1 ha.2⟩,
        energizing_loop henergizing hwaiting.coming.calm.recorded.bounded.ordered
          (hwaiting.coming.lights hstarted) ha.1.2.1,
        (hwaiting.coming.system_step a).2.2 hstarted⟩)
    ⟨⟨_, hnext⟩, hwritten, (hs.coming.system_step _).2.2 hstarted⟩
  rw [← run_cons, ← hr] at hrest
  exact hrest.2

/-! ## With power -/

variable {age : ℚ}

/-- Comm power comes up on powered hardware. -/
structure Up (asked : Time) (old : SimCore) (times : List Time) (s : ClosedLoop) : Prop where
  coming : s.Coming asked times
  started : (s.system.sub .comm).targPowerState = .on
  supplied : Supplied .comm old s.sim s.sysInfo
  full : (s.settled.sub .comm).actualPowerState = .on →
    (psCfg .comm).outputOnMaxDelay ≤ (s.sysInfo.timestamp - old.timestamp) * rampFactor

/-- A subsystem is not in a phase since before it was asked for. -/
theorem Coming.asked_le_phaseStart (hs : s.Coming asked times) (hnine : 9 ≤ times.length)
    (hturning : (s.settled.sub .comm).actualPowerState = .turningOn) :
    asked ≤ (s.settled.sub .comm).phaseStartTime := by
  have hnth (i : ℕ) (hi : i < times.length) : asked ≤ nth i times := by
    rw [nth, List.getElem?_eq_getElem hi]
    exact hs.asked_le _ (List.getElem_mem hi)
  have hstage := hs.climbing.rising.2
  rw [hturning] at hstage
  obtain ⟨hone, -, -⟩ | ⟨-, hten, hstart⟩ := hstage
  · rw [(hs.climbing.turning hturning).2 hone]
    exact hnth 0 (by omega)
  · rw [hstart]
    exact hnth 9 (by omega)

/-- When the wait of a phase is over, a record that is not too old shows full power. -/
theorem full_of_late {start phaseStart now recorded : Time} (hasked : asked ≤ phaseStart)
    (hlate : timePassedSec phaseStart now > (psCfg ty).outputOnMaxDelay)
    (hfresh : now ≤ recorded + age) (hage : start - asked + age ≤ maxAge ty) :
    (psCfg ty).outputOnMaxDelay ≤ (recorded - start) * rampFactor := by
  have hrate : (0 : ℚ) < rampFactor := by norm_num [rampFactor]
  have hlong : (psCfg ty).outputOnMaxDelay / rampFactor ≤ recorded - start := by
    unfold maxAge at hage
    unfold timePassedSec at hlate
    linarith
  exact (div_le_iff₀ hrate).mp hlong

/-- The verdict comes only when the record shows full power. -/
theorem Up.full_of_verdict (hs : s.Up asked old times)
    (hage : old.timestamp - asked + age ≤ maxAge .comm) {now : Time}
    (hyoung : now ≤ s.sysInfo.timestamp + age)
    (hverdict : (s.settled.sub .comm).actualPowerState = .on ∨ 9 ≤ times.length ∧
      timePassedSec (s.settled.sub .comm).phaseStartTime now > (psCfg .comm).outputOnMaxDelay) :
    (psCfg .comm).outputOnMaxDelay ≤ (s.sysInfo.timestamp - old.timestamp) * rampFactor := by
  obtain hon | ⟨hnine, hlate⟩ := hverdict
  · exact hs.full hon
  cases hactual : (s.settled.sub .comm).actualPowerState with
  | on => exact hs.full hactual
  | turningOn =>
      have hasked := hs.coming.asked_le_phaseStart hnine hactual
      exact full_of_late hasked hlate hyoung hage
  | off =>
      have hstage := hs.coming.climbing.rising.2
      rw [hactual] at hstage
      omega
  | unknown | reset | turningOff =>
      have hstage := hs.coming.climbing.rising.2
      rw [hactual] at hstage
      exact hstage.elim

/-- A record that is in time fits. -/
theorem Up.fits (hs : s.Up asked old times) (hage : old.timestamp - asked + age ≤ maxAge .comm)
    {daqReadTime : Time} {clock : Clocks}
    (hfresh : s.Fresh old age (.daqInfoRead daqReadTime clock)) :
    Call.Fits .comm (clock .comm) times.length
      ⟨{ s.settled.sub .comm with sysInfo := s.sysInfo.toSysInfo }, 0, 0⟩ := by
  obtain ⟨hyoung, hcounts | ⟨hnew, hcount⟩⟩ := hfresh
  · exact (hs.coming.fits_of_counts hcounts (clock .comm)).2
  have hsound := hs.coming.calm.quiet.sysInfo
  obtain ⟨hshows, hvoltage⟩ := hs.supplied.read.resolve_left (not_le.mpr hnew)
  have hlimits := hsound.voltage_le .comm
  have hcurrent := hsound.current_le .comm
  have hrelay := hshows.relay
  rw [powerOnBitPos_eq] at hrelay
  have hold := hs.supplied.bounded
  refine ⟨?_, ?_, rfl, fun _ => ?_, fun h => ?_⟩
  · exact hlimits.trans (by norm_num [voltageNominal, maxVoltageWarn, psCfg, setupComm])
  · exact hcurrent.trans (by norm_num [currentMax, psCfg, setupComm])
  · rw [Call.outputIsOn_eq_true_iff]
    exact ⟨hrelay, fun h => absurd h (by decide)⟩
  · exact SimCore.healthyTelemetry_of_shows hshows hvoltage hold.nonneg hold.le_nominal hcount
      hsound (fun h => absurd h (by decide)) (hs.full_of_verdict hage hyoung h)

theorem up_step (hs : s.Up asked old times) (hage : old.timestamp - asked + age ≤ maxAge .comm)
    {a : LoopAction} (ha : s.Orderly asked a) (hfresh : s.Fresh old age a) :
    (s.step a).Up asked old (times ++ readTimes .comm [a]) ∧
      ((s.settled.sub .comm).actualPowerState = .on →
        ((s.step a).settled.sub .comm).actualPowerState = .on) := by
  have hsupplied := supplied_step hs.supplied (hs.coming.lights hs.started) ha.1 ha.2.1
  have hstarted := (hs.coming.system_step a).2.2 hs.started
  have htime := (recorded_step hs.coming.calm.recorded ha.1 ha.2.1).2
  have hlater (hfull : (psCfg .comm).outputOnMaxDelay ≤
      (s.sysInfo.timestamp - old.timestamp) * rampFactor) : (psCfg .comm).outputOnMaxDelay ≤
        ((s.step a).sysInfo.timestamp - old.timestamp) * rampFactor := by
    have hrate : (0 : ℚ) ≤ rampFactor := by norm_num [rampFactor]
    exact hfull.trans (mul_le_mul_of_nonneg_right (sub_le_sub_right htime _) hrate)
  -- only a read moves the state machines
  by_cases hread : ∀ t clock, a ≠ .daqInfoRead t clock
  · rw [readTimes_eq_nil hread, List.append_nil]
    have hsub := (settled_step hs.coming ha hread).2 .comm
    refine ⟨⟨coming_step hs.coming ha hread, hstarted, hsupplied, fun hon => ?_⟩, fun hon => ?_⟩
    · rw [hsub] at hon
      exact hlater (hs.full hon)
    · rw [hsub]
      exact hon
  cases a with
  | daqInfoRead daqReadTime clock =>
      obtain ⟨hcoming, hmoves⟩ := coming_read hs.coming ha (hs.fits hage hfresh)
      exact ⟨⟨hcoming, hstarted, hsupplied, fun hon =>
        hlater (hs.full_of_verdict hage hfresh.1 (hmoves.verdict hon))⟩, hmoves.on⟩
  | _ => exact absurd (fun _ _ => by simp) hread

theorem up_run (hs : s.Up asked old times) (hage : old.timestamp - asked + age ≤ maxAge .comm)
    {acts : List LoopAction}
    (hacts : Always step (fun s a => s.Orderly asked a ∧ s.Fresh old age a) s acts) :
    (run step s acts).Up asked old (times ++ readTimes .comm acts) := by
  induction acts generalizing s times with
  | nil =>
      rw [readTimes, List.append_nil]
      exact hs
  | cons a rest ih =>
      have hnext := (up_step hs hage hacts.1.1 hacts.1.2).1
      have hrest := ih hnext hacts.2
      rw [List.append_assoc, ← readTimes_append, List.singleton_append] at hrest
      exact hrest

/-- From a read that leaves the actual state `ON` on it stays so, and the system shows it when the
read has finished. -/
theorem on_run (hs : s.Up asked old times) (hage : old.timestamp - asked + age ≤ maxAge .comm)
    (hsettled : (s.settled.sub .comm).actualPowerState = .on) {acts : List LoopAction}
    (hacts : Always step (fun s a => s.Orderly asked a ∧ s.Fresh old age a) s acts) :
    ((run step s acts).settled.sub .comm).actualPowerState = .on ∧
      ((s.system.sub .comm).actualPowerState = .on ∨ .finish ∈ acts →
        ((run step s acts).system.sub .comm).actualPowerState = .on) := by
  induction acts generalizing s times with
  | nil => exact ⟨hsettled, fun h => h.resolve_right List.not_mem_nil⟩
  | cons a rest ih =>
      obtain ⟨hnext, hon⟩ := up_step hs hage hacts.1.1 hacts.1.2
      obtain ⟨hend, hfinished⟩ := ih hnext (hon hsettled) hacts.2
      refine ⟨hend, fun h => hfinished ?_⟩
      -- the system shows it already, or when the read has finished
      obtain hactual | hmem := h
      · left
        obtain hsame | hdone | ⟨written, next, pass, pos, -, -, -, hwrite⟩ :=
          ClosedLoop.system_step s a
        · rw [hsame]
          exact hactual
        · rw [hdone]
          exact hsettled
        · rw [hwrite]
          exact hactual
      · obtain rfl | hmem := List.mem_cons.mp hmem
        · exact Or.inl hsettled
        · exact Or.inr hmem

/-- The first read that comes later than `outputOnMaxDelay` after the tenth. -/
theorem Up.on_of_late (hs : s.Up asked old times)
    (hage : old.timestamp - asked + age ≤ maxAge .comm) {daqReadTime : Time} {clock : Clocks}
    (ha : s.Orderly asked (.daqInfoRead daqReadTime clock))
    (hfresh : s.Fresh old age (.daqInfoRead daqReadTime clock)) {tenth : Time}
    (htenth : times[9]? = some tenth)
    (hlate : timePassedSec tenth (clock .comm).now > (psCfg .comm).outputOnMaxDelay) :
    ((s.step (.daqInfoRead daqReadTime clock)).settled.sub .comm).actualPowerState = .on := by
  obtain ⟨-, hmoves⟩ := coming_read hs.coming ha (hs.fits hage hfresh)
  have hten : 10 ≤ times.length := (List.getElem?_eq_some_iff.mp htenth).1
  have hnth : nth 9 times = tenth := by rw [nth, htenth, Option.getD_some]
  exact hmoves.late hten (hnth ▸ hlate)

end coming

/-! ## The command -/

/-- The simulator after a run in which the clock does not go back, nobody disturbs the hardware,
and nobody writes an input. -/
def Untouched (sim : SimCore) : Prop :=
  ∃ unset startTime acts,
    Always SimCore.step (fun sim a => sim.Forward a ∧ SimCore.LeavesAlone a ∧
      SimCore.WritesNoInput a) (SimCore.new unset startTime) acts ∧
    sim = run SimCore.step (SimCore.new unset startTime) acts

theorem Untouched.spec {sim : SimCore} (hsim : Untouched sim) :
    sim.Regular ∧ sim.BreakerOk .comm ∧ sim.Dated := by
  obtain ⟨unset, startTime, acts, hacts, rfl⟩ := hsim
  have hdated : (SimCore.new unset startTime).Dated := by
    intro h
    obtain hpos | hlast := h
    · exact absurd hpos (lt_irrefl 0)
    · exact absurd hlast (List.cons_ne_nil _ _).symm
  exact hacts.invariant (fun sim => sim.Regular ∧ sim.BreakerOk .comm ∧ sim.Dated)
    (fun sim a h ha => ⟨SimCore.regular_step h.1 ha.1 ha.2.1,
      SimCore.breakerOk_step h.2.1 ha.1 ha.2.2,
      SimCore.dated_step h.2.2 (h.1.bounded .comm).ordered ha.1⟩)
    ⟨SimCore.regular_new unset startTime, SimCore.breakerOk_new unset startTime, hdated⟩

/-- The loop after a run in which nobody disturbed the hardware and a `PowerSystem` was
registered, with no operation under way and nothing left of a timeout, both subsystems in `OFF`,
and the Model in a state that allows power.  The run starts when the simulator has finished its
first iteration. -/
def Rested (s : ClosedLoop) : Prop :=
  (∃ sim port daqReadTime acts, Untouched sim ∧ 0 < sim.iterations ∧
    Always step (fun s a => s.Forward a ∧ Leaves a ∧ StaysRegistered true a)
      (ClosedLoop.start sim (System.new port) daqReadTime) acts ∧
    s = run step (ClosedLoop.start sim (System.new port) daqReadTime) acts) ∧
    s.ahead.isNone ∧ s.timedOut = false ∧ (∀ ty, Stage.resting.Of (s.system.sub ty)) ∧
    ¬ s.system.PowerMustBeOff

theorem Rested.calm (hs : s.Rested) : s.Calm .comm := by
  obtain ⟨⟨sim, port, daqReadTime, acts, hsim, hpublished, hacts, rfl⟩, -⟩ := hs
  obtain ⟨hregular, hbreaker, hdated⟩ := hsim.spec
  have hgoverned : (ClosedLoop.start sim (System.new port) daqReadTime).Governed :=
    ⟨rfl, by simp [start], System.wellFormed_new port, System.wellFormed_new port⟩
  have hstart : (ClosedLoop.start sim (System.new port) daqReadTime).Calm .comm :=
    ⟨quiet_start hregular hpublished port daqReadTime, hgoverned,
      ⟨hregular.bounded .comm, hpublished, hbreaker, hdated, le_rfl⟩⟩
  exact hacts.invariant (fun s => s.Calm .comm)
    (fun s a h ha => calm_step h ha.1 ha.2.1 ha.2.2) hstart

/-- The command that asks for comm power. -/
def askForComm (clock : Clocks) : LoopAction := .command (.powerComm true clock)

/-- After the command comm power waits for the hardware. -/
theorem Rested.waiting (hs : s.Rested) {clock : Clocks}
    (haccepted : (PowerSystem.powerComm clock true s.system).2 = true) (asked : Time) :
    (s.step (askForComm clock)).Waiting asked [] := by
  have hcalm := calm_step hs.calm (a := askForComm clock) trivial trivial trivial
  obtain ⟨-, hnone, htimedOut, hrest, hmodel⟩ := hs
  have hon : PowerSystem.powerComm clock true s.system = s.system.setPowerOn .comm clock := by
    simp [PowerSystem.powerComm]
  rw [hon] at haccepted
  have hturned := System.turnedOn_setPowerOn .comm clock s.system haccepted
  have hfree : s.system.checkForFaults .comm = false := by
    by_contra hfaults
    rw [Bool.not_eq_false] at hfaults
    simp [System.setPowerOn, Call.setPowerOn, hfaults] at haccepted
  have hsystem : (s.step (askForComm clock)).settled = (s.system.setPowerOn .comm clock).1 := by
    rw [← hon]
    simp only [askForComm, step, hnone, if_true]
    rfl
  have hsame : (s.step (askForComm clock)).system = s.system := by
    simp only [askForComm, step, hnone, if_true]
  have hoff : (s.system.sub .comm).actualPowerState = .off := (hrest .comm).2
  have hclimbing : Call.Climbing 0 (nth 0 []) (nth 9 [])
      ((s.system.setPowerOn .comm clock).1.sub .comm) := by
    rw [hturned.sub]
    refine ⟨⟨rfl, ?_⟩, fun hturning => ?_⟩
    · simp only [hoff]
      exact ⟨trivial, trivial⟩
    · rw [hoff] at hturning
      exact absurd hturning (by decide)
  -- the motor rests, and comm power waits for its first read
  refine ⟨⟨hcalm, ?_, ?_, by simp, ?_, ?_⟩, ?_⟩
  · simp only [askForComm, step, hnone, if_true]
    exact htimedOut
  · rw [hsystem]
    refine ⟨fun ty => ?_, ?_, fun ty hty => ?_⟩
    · cases ty with
      | motor =>
          have hmotor := hrest .motor
          exact hmotor
      | comm => exact hclimbing
    · simpa [System.setPowerOn, System.PowerMustBeOff] using hmodel
    · cases ty with
      | motor => exact absurd rfl hty
      | comm => rw [System.setPowerOn, System.checkForFaults_store, hfree]
  · rw [hsame, hoff]
    decide
  · rw [hsame]
    exact hfree
  · rw [hsystem, hturned.sub]
    change (s.system.sub .comm).actualPowerState ≠ .on
    rw [hoff]
    decide

/-- When the hardware is certain to have power, comm power is up but for the reads. -/
theorem Waiting.up {asked : Time} {times : List Time} (hs : s.Waiting asked times)
    (hstarted : (s.system.sub .comm).targPowerState = .on) {written : ℕ}
    (henergizing : s.sim.Energizing .comm written) (hidle : s.sim.todo = [])
    (htwo : written + 2 ≤ s.sim.iterations) : s.Up asked s.sim times := by
  have hrecorded := hs.coming.calm.recorded
  have henergized := henergizing.energized hrecorded.bounded hrecorded.breaker hidle htwo
  exact ⟨hs.coming, hstarted, ⟨henergized, hrecorded.bounded, hrecorded.simInfo_le,
    Or.inl (hrecorded.read_le.trans hrecorded.simInfo_le)⟩, fun hon => absurd hon hs.notOn⟩

/-- **Comm power comes on.**  With both subsystems in `OFF` a command for comm power is accepted
at the time `asked`.  When it has finished the `FpgaIo` writes the output port, and two more
iterations of the simulator end.  Whatever else happens in time, the target stays on, no fault is
recorded that gates comm power, and the first read that comes later than `outputOnMaxDelay` after
the tenth brings the actual state to `ON` when it has finished, where it stays. -/
theorem comm_comes_on (hs : s.Rested) {clock : Clocks}
    (haccepted : (PowerSystem.powerComm clock true s.system).2 = true) {asked : Time} {age : ℚ}
    {before : List LoopAction} {t : ClosedLoop}
    (ht : t = run step (s.step (askForComm clock)) before)
    (hfinished : (t.system.sub .comm).targPowerState = .on)
    (hwrite : t.pass.head? = some .writeFpga) {mask : OutputPortBits} {between : List LoopAction}
    (hwaiting : Always step (fun s a => s.Orderly asked a ∧ s.Early a) (s.step (askForComm clock))
      (before ++ .fpga mask :: between))
    {r : ClosedLoop} (hr : r = run step t (.fpga mask :: between)) (hidle : r.sim.todo = [])
    (htwo : t.sim.iterations + 2 ≤ r.sim.iterations)
    (hage : r.sim.timestamp - asked + age ≤ maxAge .comm) {after : List LoopAction}
    (hafter : Always step (fun s a => s.Orderly asked a ∧ s.Fresh r.sim age a) r after) :
    (((run step r after).system.sub .comm).targPowerState = .on ∧
        (run step r after).system.checkForFaults .comm = false) ∧
      ∀ first daqReadTime clock' rest tenth,
        after = first ++ .daqInfoRead daqReadTime clock' :: rest →
        (readTimes .comm (before ++ .fpga mask :: between ++ first))[9]? = some tenth →
        timePassedSec tenth (clock' .comm).now > (psCfg .comm).outputOnMaxDelay →
        ((run step r after).settled.sub .comm).actualPowerState = .on ∧
          (.finish ∈ rest → ((run step r after).system.sub .comm).actualPowerState = .on) := by
  have hstart := hs.waiting haccepted asked
  rw [always_append, ← ht] at hwaiting
  have hbefore := waiting_run hstart hwaiting.1
  rw [← ht] at hbefore
  obtain ⟨henergizing, hstarted⟩ := energizing_run hbefore hfinished hwrite hwaiting.2 hr
  have hend := waiting_run hbefore hwaiting.2
  rw [← hr, List.nil_append, ← readTimes_append] at hend
  -- from here on every new record shows the power
  have hup := hend.up hstarted henergizing hidle htwo
  constructor
  · have hrun := up_run hup hage hafter
    exact ⟨hrun.started, hrun.coming.free⟩
  · intro first daqReadTime clock' rest tenth hsplit htenth hlate
    subst hsplit
    rw [always_append] at hafter
    obtain ⟨hfirst, ⟨hread, hfresh⟩, hrest⟩ := hafter
    have hmiddle := up_run hup hage hfirst
    rw [← readTimes_append] at hmiddle
    have hon := hmiddle.on_of_late hage hread hfresh htenth hlate
    have hnext := (up_step hmiddle hage hread hfresh).1
    rw [run_append, run_cons]
    exact (on_run hnext hage hon hrest).imp_right fun h hmem => h (Or.inr hmem)

/-- A client connects, the Model goes to `STANDBY`, and one read finds everything off. -/
def standsBy : List LoopAction :=
  [.command (.reportComConnectionCount 1 fun _ => ⟨0.1, 0.1⟩), .finish, .command .finishSetup,
    .finish, .command (.changeState .standby fun _ => ⟨0.1, 0.1⟩), .finish] ++ cycle 0.2

def standingBy : ClosedLoop := run step (ClosedLoop.start published (System.new 4) 0.1) standsBy

theorem rested_standingBy : standingBy.Rested := by
  have hsim : Untouched published := ⟨_, 0, SimCore.iteration 0.1, by decide +kernel, rfl⟩
  refine ⟨⟨published, 4, 0.1, standsBy, hsim, by decide +kernel, by decide +kernel, rfl⟩,
    by decide +kernel, by decide +kernel, ?_, by decide +kernel⟩
  intro ty
  cases ty with
  | motor => exact ⟨by decide +kernel, by decide +kernel⟩
  | comm => exact ⟨by decide +kernel, by decide +kernel⟩

/-- Comm power was asked for, and the `FpgaIo` is about to write. -/
def commAsked : ClosedLoop :=
  run step (standingBy.step (askForComm fun _ => ⟨0.2, 0.2⟩)) [.finish, .beginPass]

/-- The rest of the pass, and two iterations 20 ms apart. -/
def twoIterations : List LoopAction :=
  .fpga 0 :: (SimCore.iteration 0.22 ++ SimCore.iteration 0.24).map .sim

/-- The hardware has power. -/
def commPowered : ClosedLoop := run step commAsked (.fpga 0 :: twoIterations)

/-- Ten reads, 50 ms apart. -/
def tenReads : List LoopAction :=
  (List.range 10).flatMap fun i => cycle (0.3 + i / 20)

/-- The last iteration and exchange, before the read. -/
def lastExchange : List LoopAction := (SimCore.iteration 1.31).map .sim ++ exchange

/-- Comm power is `ON` at the eleventh read. -/
theorem comm_comes_on_standby :
    ((run step commPowered (tenReads ++ lastExchange ++ readAt 1.31)).system.sub
      .comm).actualPowerState = .on := by
  have hwaiting : Always step (fun s a => s.Orderly 0.2 a ∧ s.Early a)
      (standingBy.step (askForComm fun _ => ⟨0.2, 0.2⟩))
      ([.finish, .beginPass] ++ .fpga 0 :: twoIterations) := by
    decide +kernel
  have hafter : Always step (fun s a => s.Orderly 0.2 a ∧ s.Fresh commPowered.sim 0.05 a)
      commPowered (tenReads ++ lastExchange ++ readAt 1.31) := by
    decide +kernel
  have hon := (comm_comes_on rested_standingBy (by decide +kernel) (t := commAsked) rfl
    (by decide +kernel) (by decide +kernel) hwaiting rfl (by decide +kernel) (by decide +kernel)
    (by decide +kernel) hafter).2
  exact (hon (tenReads ++ lastExchange) 1.31 (fun _ => ⟨1.31, 1.31⟩) [.finish] 0.75
    (by simp [readAt]) (by decide +kernel) (by decide +kernel)).2 (by simp)

end ClosedLoop

end M2Cell
