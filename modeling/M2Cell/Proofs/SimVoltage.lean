import M2Cell.Simulator.SimCore

/-!
# The simulated voltage follows a ramp

Between two iterations of the simulator any time may pass, and the other threads may write
in between.  As long as the new output port keeps the power bit of a subsystem as it is and
nobody forces its voltage, the voltage is where one undisturbed ramp is at the same time,
up to the rounding of the doubles (`voltage_ramp`).  When the iterations come plays no part;
how many there are counts for the rounding, each of them as an error of `voltageTolerance` in
the voltage at which the ramp starts (`Tracks`).

The error is gone at the end of the ramp: after `outputOnMaxDelay / 1.25` the voltage is
nominal, and after `outputOffMaxDelay / 1.25` it is zero, for less than `maxCount`
iterations, which is more than a thousand years.  The rates leave room for that, since they
are 1.3 times what the delays ask for.

`Bounded` holds in every state that is reached without force, and `Ramping` from the moment
on at which the power bit is what it stays.  What a step does to the voltage is said in
`voltage_step`: it is a step of a ramp (`calcVoltage_near`) or leaves the voltage alone.
-/

namespace M2Cell

open SimPowerSubsystem PowerSubsystemConfig

namespace SimPowerSubsystem

variable (ty : PowerSystemType) (powerOn : Bool)

/-- How long a ramp may take. -/
def maxDelay : ℚ :=
  if powerOn then (psCfg ty).outputOnMaxDelay else (psCfg ty).outputOffMaxDelay

/-- A ramp takes its delay divided by this. -/
def rampFactor : ℚ := 1.25

/-- So many iterations may be rounded before a ramp could be late. -/
def maxCount : ℕ := 2 ^ 42

/-- The voltage is where the ramp from `first` is after the time `dt` and `count` roundings. -/
def Tracks (dt first : ℚ) (count : ℕ) (voltage : ℚ) : Prop :=
  Near (ramp ty powerOn dt) first (count * voltageTolerance ty) voltage

variable {ty} {powerOn} {dt dt' first voltage voltage' : ℚ} {count : ℕ}

theorem tracks_zero (hnonneg : 0 ≤ voltage) (hle : voltage ≤ voltageNominal ty) :
    Tracks ty powerOn 0 voltage 0 voltage := by
  unfold Tracks
  rw [Nat.cast_zero, zero_mul, near_zero_iff]
  cases powerOn with
  | true => exact (rampUp_zero hle).symm
  | false => exact (rampDown_zero hnonneg).symm

/-- **One more step**, which is rounded once more. -/
theorem Tracks.step (h : Tracks ty powerOn dt first count voltage) (hnonneg : 0 ≤ voltage)
    (hle : voltage ≤ voltageNominal ty)
    (hstep : Near (ramp ty powerOn dt') voltage (voltageTolerance ty) voltage')
    (hend : voltage = rampEnd ty powerOn → voltage' = rampEnd ty powerOn) :
    Tracks ty powerOn (dt + dt') first (count + 1) voltage' := by
  have herror : ((count + 1 : ℕ) : ℚ) * voltageTolerance ty =
      count * voltageTolerance ty + voltageTolerance ty := by
    push_cast
    ring
  unfold Tracks at h ⊢
  rw [herror]
  cases powerOn with
  | true => exact near_rampUp_step h (fun hlimit => hend (le_antisymm hle hlimit)) hstep
  | false => exact near_rampDown_step h (fun hzero => hend (le_antisymm hzero hnonneg)) hstep

/-- The errors of `maxCount` roundings are small. -/
theorem tolerance_le (ty : PowerSystemType) (hcount : count ≤ maxCount) :
    count * voltageTolerance ty ≤ 1 / 64 * voltageNominal ty := by
  have hcast : (count : ℚ) ≤ 2 ^ 42 := by exact_mod_cast hcount
  calc
    count * voltageTolerance ty ≤ 2 ^ 42 * voltageTolerance ty :=
      mul_le_mul_of_nonneg_right hcast (voltageTolerance_nonneg ty)
    _ = 1 / 64 * voltageNominal ty := by
      rw [voltageTolerance]
      ring

/-- What the rates make of the time that a ramp may take. -/
theorem le_rate_mul {delay rate : ℚ} (hdelay : 0 < delay)
    (hrate : voltageNominal ty / delay * 1.29 ≤ rate) (htime : delay ≤ dt * rampFactor) :
    voltageNominal ty * 1.03 ≤ rate * dt := by
  have hnominal := voltageNominal_pos ty
  have hdt : 0 ≤ dt := by
    rw [rampFactor] at htime
    linarith
  calc
    voltageNominal ty * 1.03 ≤ voltageNominal ty * (1.29 / 1.25) :=
      mul_le_mul_of_nonneg_left (by norm_num) hnominal.le
    _ = voltageNominal ty / delay * (1.29 / 1.25) * delay := by
      rw [div_mul_eq_mul_div, div_mul_cancel₀ _ hdelay.ne']
    _ ≤ voltageNominal ty / delay * (1.29 / 1.25) * (dt * rampFactor) := by
      apply mul_le_mul_of_nonneg_left htime
      exact mul_nonneg (div_nonneg hnominal.le hdelay.le) (by norm_num)
    _ = voltageNominal ty / delay * 1.29 * dt := by
      rw [rampFactor]
      ring
    _ ≤ rate * dt := mul_le_mul_of_nonneg_right hrate hdt

/-- **A ramp is at its end in time**, and the errors of the roundings are gone. -/
theorem Tracks.eq_rampEnd (h : Tracks ty powerOn dt first count voltage) (hnonneg : 0 ≤ first)
    (hle : first ≤ voltageNominal ty) (hcount : count ≤ maxCount)
    (htime : maxDelay ty powerOn ≤ dt * rampFactor) : voltage = rampEnd ty powerOn := by
  have herror := tolerance_le ty hcount
  have hnominal := voltageNominal_pos ty
  obtain ⟨hlow, hhigh⟩ := h
  cases powerOn with
  | true =>
      -- the rate has more to spare than the roundings take
      have hreached := le_rate_mul (outputOnMaxDelay_pos ty) (le_voltageChangeRateOn ty) htime
      rw [show ramp ty true dt (first - count * voltageTolerance ty) = voltageNominal ty from
        rampUp_eq_limit (by linarith)] at hlow
      exact le_antisymm (hhigh.trans (min_le_left _ _)) hlow
  | false =>
      have hreached := le_rate_mul (outputOffMaxDelay_pos ty) (le_voltageChangeRateOff ty) htime
      rw [show ramp ty false dt (first + count * voltageTolerance ty) = 0 from
        rampDown_eq_zero (by linarith)] at hhigh
      exact le_antisymm hhigh ((le_max_left _ _).trans hlow)

end SimPowerSubsystem

namespace SimCore

variable {s : SimCore} {ty : PowerSystemType} {powerOn : Bool}

/-! ## Bounds -/

/-- The action does not force the voltage of the subsystem. -/
def AllowsVoltage (ty : PowerSystemType) : SimAction → Prop
  | .forceOverVoltage ty' overVoltage => ty' = ty → overVoltage = false
  | _ => True

instance decidableAllowsVoltage (ty : PowerSystemType) : ∀ a, Decidable (AllowsVoltage ty a)
  | .forceOverVoltage ty' overVoltage =>
      inferInstanceAs (Decidable (ty' = ty → overVoltage = false))
  | .beginIteration _ => inferInstanceAs (Decidable True)
  | .perform => inferInstanceAs (Decidable True)
  | .writeBreakerBit => inferInstanceAs (Decidable True)
  | .setNewOutputPort _ => inferInstanceAs (Decidable True)
  | .writeNewOutputPortBit _ _ => inferInstanceAs (Decidable True)
  | .beginWriteInputPortBit _ _ => inferInstanceAs (Decidable True)
  | .endWriteInputPortBit => inferInstanceAs (Decidable True)
  | .forceOverCurrent _ _ => inferInstanceAs (Decidable True)
  | .stop => inferInstanceAs (Decidable True)

/-- What holds without force. -/
structure Bounded (ty : PowerSystemType) (s : SimCore) : Prop where
  ordered : s.Ordered
  unforced : (s.sub ty).overVoltage = false
  nonneg : 0 ≤ (s.sub ty).voltage
  le_nominal : (s.sub ty).voltage ≤ voltageNominal ty

theorem bounded_new (unset : SimInfo) (startTime : Time) : (new unset startTime).Bounded ty :=
  ⟨ordered_new unset startTime, rfl, le_rfl, (voltageNominal_pos ty).le⟩

/-- **The voltage step** of an iteration is a step of a ramp, and nothing else moves an
unforced voltage. -/
theorem voltage_step (hs : s.Bounded ty) {a : SimAction} (ha : AllowsVoltage ty a) :
    ((s.step a).sub ty).overVoltage = false ∧
      (((s.step a).sub ty).voltage = (s.sub ty).voltage ∧
          (s.step a).voltageTime ty = s.voltageTime ty ∧
          (s.step a).voltageCount ty = s.voltageCount ty ∨
        (∃ todo, s.todo = .calcVoltageCurrent ty :: todo) ∧
          s.voltageTime ty ≤ (s.step a).voltageTime ty ∧
          (s.step a).voltageCount ty = s.voltageCount ty + 1 ∧
          ((s.step a).sub ty).voltage =
            (s.sub ty).calcVoltage ty (OutputPortBits.getBitAtPos s.outputPort (powerOnBitPos ty))
              (round64 ((s.step a).voltageTime ty - s.voltageTime ty))) := by
  have hmove := subMove_step ty s a
  revert hmove
  generalize hsub : (s.step a).sub ty = sub
  intro hmove
  cases hmove with
  -- nothing is computed
  | keep a hvoltage hbreakers =>
      exact ⟨hs.unforced, Or.inl ⟨rfl, voltageTime_step hs.ordered a hvoltage⟩⟩
  | calcBreakers todo hnone htodo =>
      have hother : s.next ≠ some (.calcVoltageCurrent ty) := by simp [next_eq hnone htodo]
      obtain ⟨hvoltage, hforced, -⟩ := voltage_calcBreakers (s.sub ty) ty s.outputPort s.timestamp
      exact ⟨hforced.trans hs.unforced,
        Or.inl ⟨hvoltage, voltageTime_step hs.ordered _ fun _ => hother⟩⟩
  | calcVoltageCurrent todo hnone htodo =>
      obtain ⟨hbefore, hafter, hcount⟩ := voltage_calcVoltageCurrent hs.ordered hnone htodo
      refine ⟨hs.unforced, Or.inr ⟨⟨todo, htodo⟩, ?_, hcount, ?_⟩⟩
      · rw [hbefore, hafter]
        exact hs.ordered.time_le
      · rw [hbefore, hafter]
        rfl
  | overVoltage overVoltage =>
      exact ⟨ha rfl, Or.inl ⟨rfl, voltageTime_step hs.ordered _ nofun⟩⟩
  | overCurrent overCurrent =>
      exact ⟨hs.unforced, Or.inl ⟨rfl, voltageTime_step hs.ordered _ nofun⟩⟩

theorem bounded_step (hs : s.Bounded ty) {a : SimAction} (hforward : s.Forward a)
    (ha : AllowsVoltage ty a) : (s.step a).Bounded ty := by
  have hordered := ordered_step hs.ordered a hforward
  obtain ⟨hunforced, ⟨hkeep, -⟩ | ⟨-, htime, -, hvoltage⟩⟩ := voltage_step hs ha
  · exact ⟨hordered, hunforced, hkeep ▸ hs.nonneg, hkeep ▸ hs.le_nominal⟩
  · obtain ⟨hnonneg, hle⟩ := calcVoltage_bounds (round64_nonneg (sub_nonneg.mpr htime))
      hs.unforced hs.nonneg hs.le_nominal
    exact ⟨hordered, hunforced, hvoltage ▸ hnonneg, hvoltage ▸ hle⟩

/-! ## Ramps -/

/-- The voltage of the subsystem, and the published one, have followed a ramp that started
at `start` from the voltage `first`, when the voltage had been computed `count` times; nothing
was published since when `simInfo` is still `before`. -/
structure Ramping (ty : PowerSystemType) (powerOn : Bool) (start : Time) (first : ℚ) (count : ℕ)
    (before : SimInfo) (s : SimCore) : Prop where
  bounded : s.Bounded ty
  powered : s.Held (powerOnBitPos ty) powerOn
  start_le : start ≤ s.voltageTime ty
  count_le : count ≤ s.voltageCount ty
  voltage : Tracks ty powerOn (s.voltageTime ty - start) first (s.voltageCount ty - count)
    (s.sub ty).voltage
  published : s.simInfo = before ∨
    start ≤ s.simInfo.timestamp ∧
      Tracks ty powerOn (s.simInfo.timestamp - start) first (s.simInfo.iterations + 1 - count)
        (s.simInfo.toSysInfo.voltage ty)

theorem ramping_start (hs : s.Bounded ty) (hpowered : s.Held (powerOnBitPos ty) powerOn) :
    s.Ramping ty powerOn (s.voltageTime ty) (s.sub ty).voltage (s.voltageCount ty) s.simInfo := by
  refine ⟨hs, hpowered, le_rfl, le_rfl, ?_, Or.inl rfl⟩
  rw [sub_self, Nat.sub_self]
  exact tracks_zero hs.nonneg hs.le_nominal

/-- A published voltage is one of the time of the iteration. -/
theorem voltageTime_publish (ty : PowerSystemType) (hs : s.Ordered) {todo : List SimStep}
    (htodo : s.todo = .publish :: todo) :
    s.voltageTime ty = s.timestamp ∧ s.voltageCount ty = s.iterations + 1 := by
  have hsuffix := hs.todo
  rw [htodo] at hsuffix
  rw [voltageTime, voltageCount, htodo, (iterationSteps_spec hsuffix).2.2.2.mp rfl,
    if_neg (by simp), if_neg (by simp)]
  exact ⟨rfl, rfl⟩

variable {start : Time} {first : ℚ} {count : ℕ} {before : SimInfo}

/-- The record that is published while the voltage is on the ramp. -/
theorem Ramping.published_step (hs : s.Ramping ty powerOn start first count before)
    (a : SimAction) :
    (s.step a).simInfo = before ∨
      start ≤ (s.step a).simInfo.timestamp ∧
        Tracks ty powerOn ((s.step a).simInfo.timestamp - start) first
          ((s.step a).simInfo.iterations + 1 - count)
          ((s.step a).simInfo.toSysInfo.voltage ty) := by
  obtain hsame | ⟨⟨todo, -, -, htodo⟩, hinfo⟩ := simInfo_step s a
  · rw [hsame]
    exact hs.published
  · obtain ⟨htime, hcount⟩ := voltageTime_publish ty hs.bounded.ordered htodo
    have hstart := hs.start_le
    have hvoltage := hs.voltage
    rw [htime] at hstart
    rw [htime, hcount] at hvoltage
    rw [hinfo, voltage_info]
    exact Or.inr ⟨hstart, hvoltage⟩

theorem ramping_step (hs : s.Ramping ty powerOn start first count before) {a : SimAction}
    (hforward : s.Forward a) (hallows : AllowsVoltage ty a)
    (hkeeps : KeepsBit (powerOnBitPos ty) powerOn a) :
    (s.step a).Ramping ty powerOn start first count before := by
  have hbounded := bounded_step hs.bounded hforward hallows
  have hpowered := held_step hs.powered hkeeps
  have hpublished := hs.published_step a
  obtain ⟨-, ⟨hkeep, htime, hcount⟩ | ⟨⟨todo, htodo⟩, htime, hcount, hvoltage⟩⟩ :=
    voltage_step hs.bounded hallows
  · refine ⟨hbounded, hpowered, htime ▸ hs.start_le, hcount ▸ hs.count_le, ?_, hpublished⟩
    rw [hkeep, htime, hcount]
    exact hs.voltage
  -- the voltage is computed with the bit as it was held
  · have hbit := hs.powered.at_step hs.bounded.ordered htodo (by simp)
    rw [hbit] at hvoltage
    have hle := hs.count_le
    refine ⟨hbounded, hpowered, hs.start_le.trans htime, by omega, ?_, hpublished⟩
    obtain ⟨hnear, hend⟩ := calcVoltage_near powerOn (sub_nonneg.mpr htime)
      hs.bounded.unforced hs.bounded.nonneg hs.bounded.le_nominal
    rw [← hvoltage] at hnear hend
    have hnext := hs.voltage.step hs.bounded.nonneg hs.bounded.le_nominal hnear hend
    have hdt : s.voltageTime ty - start + ((s.step a).voltageTime ty - s.voltageTime ty) =
        (s.step a).voltageTime ty - start := by ring
    have hn : s.voltageCount ty - count + 1 = (s.step a).voltageCount ty - count := by omega
    rw [hdt, hn] at hnext
    exact hnext

/-- The simulator after a run in which the clock does not go back and nobody forces the
voltage of the subsystem. -/
def Unforced (ty : PowerSystemType) (s : SimCore) : Prop :=
  ∃ unset startTime acts,
    Always step (fun s a => s.Forward a ∧ AllowsVoltage ty a) (new unset startTime) acts ∧
    s = run step (new unset startTime) acts

theorem Unforced.bounded (hs : s.Unforced ty) : s.Bounded ty := by
  obtain ⟨unset, startTime, acts, hacts, rfl⟩ := hs
  exact hacts.invariant (Bounded ty) (fun _ _ hs ha => bounded_step hs ha.1 ha.2)
    (bounded_new unset startTime)

/-- **The voltage follows a ramp.**  Start between two iterations, with the power bit of the
new output port as it stays.  Then the voltage, and every voltage that is published, is the one
of a single ramp at its time, up to the tolerance for each iteration in the voltage at which the
ramp starts, and within its limits; and it is at the end of the ramp when the delay divided by
1.25 has passed. -/
theorem voltage_ramp (hs : s.Unforced ty) (hidle : s.todo = [])
    (hpower : OutputPortBits.getBitAtPos s.newOutput (powerOnBitPos ty) = powerOn)
    {acts : List SimAction}
    (hacts : Always step (fun s a => s.Forward a ∧ AllowsVoltage ty a ∧
      KeepsBit (powerOnBitPos ty) powerOn a) s acts)
    {r : SimCore} (hr : r = run step s acts) :
    (0 ≤ (r.sub ty).voltage ∧ (r.sub ty).voltage ≤ voltageNominal ty) ∧
      Tracks ty powerOn (r.voltageTime ty - s.timestamp) (s.sub ty).voltage
        (r.voltageCount ty - s.iterations) (r.sub ty).voltage ∧
      (r.simInfo = s.simInfo ∨
        Tracks ty powerOn (r.simInfo.timestamp - s.timestamp) (s.sub ty).voltage
          (r.simInfo.iterations + 1 - s.iterations) (r.simInfo.toSysInfo.voltage ty)) ∧
      (maxDelay ty powerOn ≤ (r.voltageTime ty - s.timestamp) * rampFactor →
        r.voltageCount ty - s.iterations ≤ maxCount → (r.sub ty).voltage = rampEnd ty powerOn) := by
  have hbounded := hs.bounded
  have hstart := ramping_start hbounded (held_of_idle hidle hpower)
  rw [voltageTime_of_nil hidle, voltageCount_of_nil hidle] at hstart
  have hrun := hacts.invariant
    (Ramping ty powerOn s.timestamp (s.sub ty).voltage s.iterations s.simInfo)
    (fun _ _ hs ha => ramping_step hs ha.1 ha.2.1 ha.2.2) hstart
  rw [← hr] at hrun
  exact ⟨⟨hrun.bounded.nonneg, hrun.bounded.le_nominal⟩, hrun.voltage,
    hrun.published.imp_right And.right, fun htime hcount =>
      hrun.voltage.eq_rampEnd hbounded.nonneg hbounded.le_nominal hcount htime⟩

/-- A new simulator with the comm power bit high. -/
def commPowered : SimCore :=
  run step (new ⟨⟨0, 0, 0, 0, 0, 0⟩, false, false, 0, 0⟩ 0) [.setNewOutputPort 2]

/-- Comm power is on after 0.44 s, in three iterations. -/
theorem voltage_ramp_comm :
    ((run step commPowered (iteration 0.1 ++ iteration 0.4 ++ iteration 0.44)).sub
      .comm).voltage = 24 := by
  have hunforced : Unforced .comm commPowered :=
    ⟨_, 0, [.setNewOutputPort 2], by decide, rfl⟩
  have hpower : OutputPortBits.getBitAtPos commPowered.newOutput (powerOnBitPos .comm) = true := by
    decide
  have hacts : Always step (fun s a => s.Forward a ∧ AllowsVoltage .comm a ∧
      KeepsBit (powerOnBitPos .comm) true a) commPowered
      (iteration 0.1 ++ iteration 0.4 ++ iteration 0.44) := by
    decide +kernel
  exact (voltage_ramp hunforced rfl hpower hacts rfl).2.2.2 (by decide +kernel)
    (by decide +kernel)

end SimCore

end M2Cell
