import M2Cell.Control.Operations

/-!
# The output port

Both subsystems write one output port.  In every run the bits agree with the
targets (`System.wellFormed_run`); here this is joined with what a single operation
on one subsystem may write.  It leaves the spare bits alone, and it leaves the
bits of the other subsystem alone with one exception: a DAQ call that reports a
change of state while the Model must have all power off turns both subsystems
off.

The exception is a condition on the state before the call (`ShutsDown`).  Without it the call is
confined to its subsystem (`confined_processDaq`), with it the other subsystem is off afterwards
(`offBits_processDaq`): the report is the only point at which a DAQ call leaves its subsystem.
`confined_step`, `spare_step` and `turnedOn_step` say the same of every operation on one
subsystem, and `outputPort_run` puts them after any run.
-/

namespace M2Cell

open PowerSubsystemConfig

/-- The operations on one subsystem. -/
def Op.IsOn (ty : PowerSystemType) : Op → Prop
  | .setPowerOn ty' _ => ty' = ty
  | .setPowerOff ty' _ => ty' = ty
  | .subsystemDaq ty' _ _ _ => ty' = ty
  | _ => False

namespace System

/-- A DAQ call reports a change of state to a Model that turns all power off. -/
def ShutsDown (ty : PowerSystemType) (clock : Clocks) (info : SysInfo) (s : System) : Prop :=
  let t := s.processFaults ty clock info
  t.stateChanged ty = true ∧ (t.sub ty).context = true ∧ t.PowerMustBeOff ∧ ¬ t.TargetsOff

/-- The operation is a DAQ call that shuts all power down. -/
def OpShutsDown (s : System) : Op → Prop
  | .subsystemDaq ty info _ clock => s.ShutsDown ty clock info
  | _ => False

/-- The output bits of a subsystem are the same in both systems. -/
def SameBits (ty : PowerSystemType) (s r : System) : Prop :=
  OutputPortBits.getBitAtPos r.outputPort (psCfg ty).outputPowerOnBitPos =
      OutputPortBits.getBitAtPos s.outputPort (psCfg ty).outputPowerOnBitPos ∧
    OutputPortBits.getBitAtPos r.outputPort (psCfg ty).outputBreakerBitPos =
      OutputPortBits.getBitAtPos s.outputPort (psCfg ty).outputBreakerBitPos

/-- The output bits of a subsystem are those of `setPowerOff`. -/
def OffBits (ty : PowerSystemType) (s : System) : Prop :=
  OutputPortBits.getBitAtPos s.outputPort (psCfg ty).outputPowerOnBitPos = false ∧
    OutputPortBits.getBitAtPos s.outputPort (psCfg ty).outputBreakerBitPos = true

theorem Confined.sameBits {ty : PowerSystemType} {s r : System} (h : Confined ty s r) :
    SameBits ty.other s r := bits_eq_of_port h.port

/-- A coupled subsystem whose target is off has its bits off. -/
theorem offBits_of_coupled {ty : PowerSystemType} {s : System}
    (hs : M2Cell.Coupled ty (s.sub ty) s.outputPort) (hoff : (s.sub ty).targPowerState = .off) :
    OffBits ty s := by
  refine ⟨hs.power_off hoff, ?_⟩
  have hreset := mt hs.reset (by simp [hoff])
  simpa using hreset

/-! ## One DAQ call -/

section daq

variable {ty : PowerSystemType} {clock : Clocks} {info : SysInfo} {faultsSet : FaultStatusBits}
  {s : System}

/-- What follows the report in a DAQ call is confined to the subsystem. -/
theorem confined_afterReport (ty : PowerSystemType) (clock : Clocks) (faultsSet : FaultStatusBits)
    (t : System) :
    Confined ty t ((t.savePrev ty).processTarg ty clock faultsSet).1 :=
  (confined_savePrev ty t).trans (confined_processTarg ty clock faultsSet _)

/-- A DAQ call that does not shut down leaves the other subsystem alone. -/
theorem confined_processDaq (h : ¬ s.ShutsDown ty clock info) :
    Confined ty s (s.processDaq ty clock info faultsSet).1 := by
  have hstart := confined_processFaults ty clock info s
  refine (hstart.trans ?_).trans (confined_afterReport ty clock faultsSet _)
  unfold ShutsDown at h
  dsimp only at h
  generalize s.processFaults ty clock info = t at h ⊢
  -- a report that does not make the Model turn power off leaves the subsystems alone
  by_cases hchanged : t.stateChanged ty = true
  · simp only [hchanged, if_true, reportStateChange]
    by_cases hcontext : (t.sub ty).context = true
    · simp only [hcontext, if_true, reportPowerSystemStateChange_eq]
      have hmove : ¬ (t.PowerMustBeOff ∧ ¬ t.TargetsOff) := by
        intro hoff
        exact h ⟨hchanged, hcontext, hoff.1, hoff.2⟩
      rw [if_neg hmove]
      exact ⟨by cases ty <;> rfl, fun _ _ _ => rfl⟩
    · simp only [hcontext]
      exact .refl t
  · simp only [hchanged]
    exact .refl t

/-- A DAQ call that shuts down turns the other subsystem off. -/
theorem offBits_processDaq (h : s.ShutsDown ty clock info) :
    OffBits ty.other (s.processDaq ty clock info faultsSet).1 := by
  unfold ShutsDown at h
  dsimp only at h
  unfold processDaq prepareDaq
  dsimp only
  generalize s.processFaults ty clock info = t at h ⊢
  obtain ⟨hchanged, hcontext, hmust, hon⟩ := h
  simp only [hchanged, if_true, reportStateChange, hcontext, reportPowerSystemStateChange_eq]
  rw [if_pos ⟨hmust, hon⟩]
  have hbits := (confined_afterReport ty clock faultsSet (t.turnOffAll clock)).sameBits
  have hoff := offBits_of_coupled (coupled_turnOffAll clock t ty.other)
    (targetsOff_turnOffAll clock t ty.other)
  exact ⟨hbits.1.trans hoff.1, hbits.2.trans hoff.2⟩

end daq

/-! ## Operations on one subsystem -/

section operations

variable {ty : PowerSystemType} {s : System} {op : Op}

theorem confined_step (hop : Op.IsOn ty op) (hshut : ¬ s.OpShutsDown op) :
    Confined ty s (s.step op) := by
  cases op with
  | setPowerOn ty' clock => obtain rfl := hop; exact confined_setPowerOn s _ clock
  | setPowerOff ty' clock => obtain rfl := hop; exact confined_setPowerOff s _ clock
  | subsystemDaq ty' info faultsSet clock => obtain rfl := hop; exact confined_processDaq hshut
  | _ => exact hop.elim

/-- A shutdown writes none of the spare bits either. -/
theorem spare_step (hop : Op.IsOn ty op) {pos : Fin 8} (hpos : Spare pos) :
    OutputPortBits.getBitAtPos (s.step op).outputPort pos =
      OutputPortBits.getBitAtPos s.outputPort pos := by
  cases op with
  | setPowerOn ty' clock => exact (confined_setPowerOn s ty' clock).spare hpos
  | setPowerOff ty' clock => exact (confined_setPowerOff s ty' clock).spare hpos
  | subsystemDaq ty' info faultsSet clock =>
      exact (descends_processDaq ty' clock info faultsSet s).spare pos hpos
  | _ => exact hop.elim

/-- Only a `setPowerOn` that returns true turns a target on. -/
theorem turnedOn_step (hop : Op.IsOn ty op) {ty' : PowerSystemType}
    (hoff : (s.sub ty').targPowerState = .off) (hon : ((s.step op).sub ty').targPowerState = .on) :
    ∃ clock, op = .setPowerOn ty' clock ∧ (s.setPowerOn ty' clock).2 = true := by
  cases op with
  -- the subsystem that is asked for, or the other one, whose target stays
  | setPowerOn on clock =>
      rcases on.eq_or_eq_other ty' with rfl | rfl
      · refine ⟨clock, rfl, ?_⟩
        by_contra hfalse
        have htarg := (setPowerOn_spec s ty' clock).2.1
        rw [if_neg hfalse] at htarg
        rw [step, htarg] at hon
        exact absurd hon (by decide)
      · rw [step, (confined_setPowerOn s on clock).other, hoff] at hon
        exact absurd hon (by decide)
  | setPowerOff on clock =>
      have htarg := (descends_setPowerOff s on clock).targ_off hoff
      rw [step, htarg] at hon
      exact absurd hon (by decide)
  | subsystemDaq on info faultsSet clock =>
      have htarg := (descends_processDaq on clock info faultsSet s).targ_off hoff
      rw [step, htarg] at hon
      exact absurd hon (by decide)
  | _ => exact hop.elim

end operations

/-- **The output port.**  In every state of every run the target of a subsystem
is `ON` or `OFF`, its power bit is high exactly for `ON`, and its reset bit is
low only in `RESET` with the target `ON`.  An operation on one subsystem turns a
target on only by an accepted `setPowerOn`, leaves the spare bits alone, and
leaves the bits of the other subsystem alone unless it is a DAQ call that makes
the Model shut all power down; then these bits are off. -/
theorem outputPort_run (port : OutputPortBits) (ops : List Op) :
    (∀ ty, M2Cell.Coupled ty ((run step (new port) ops).sub ty)
      (run step (new port) ops).outputPort) ∧
    ∀ (ty : PowerSystemType) (op : Op), Op.IsOn ty op →
      (∀ ty', ((run step (new port) ops).sub ty').targPowerState = .off →
        ((run step (new port) (ops ++ [op])).sub ty').targPowerState = .on →
        ∃ clock, op = .setPowerOn ty' clock ∧
          ((run step (new port) ops).setPowerOn ty' clock).2 = true) ∧
      (∀ pos, Spare pos →
        OutputPortBits.getBitAtPos (run step (new port) (ops ++ [op])).outputPort pos =
          OutputPortBits.getBitAtPos (run step (new port) ops).outputPort pos) ∧
      (¬ (run step (new port) ops).OpShutsDown op →
        SameBits ty.other (run step (new port) ops) (run step (new port) (ops ++ [op]))) ∧
      ((run step (new port) ops).OpShutsDown op →
        OffBits ty.other (run step (new port) (ops ++ [op]))) := by
  constructor
  · exact (wellFormed_run port ops).coupled
  intro ty op hop
  rw [run_concat]
  generalize run step (new port) ops = s
  refine ⟨?_, ?_, ?_, ?_⟩
  · intro ty' hoff hon
    exact turnedOn_step hop hoff hon
  · intro pos hpos
    exact spare_step hop hpos
  · intro hshut
    exact (confined_step hop hshut).sameBits
  · intro hshut
    -- of the operations on one subsystem only a DAQ call can shut down
    cases op with
    | subsystemDaq ty' info faultsSet clock =>
        obtain rfl := hop
        exact offBits_processDaq hshut
    | _ => exact hshut.elim

/-- With a connection, comm is turned on while the Model is still in `STARTUP`;
the next DAQ call of the motor turns it off again. -/
theorem motorDaq_writes_comm :
    ¬ ∀ (port : OutputPortBits) (ops : List Op) (ty : PowerSystemType) (op : Op), Op.IsOn ty op →
      SameBits ty.other (run step (new port) ops) (run step (new port) (ops ++ [op])) := by
  intro h
  have hbits := h 0
    [.setContext .motor true, .reportComConnectionCount 1 fun _ => ⟨0, 0⟩,
      .setPowerOn .comm fun _ => ⟨0, 0⟩] .motor
    (.subsystemDaq .motor ⟨2, 0x3F, 0, 0, 24, 0⟩ 0 fun _ => ⟨1, 1⟩) rfl
  exact absurd hbits.1 (by decide +kernel)

end System

end M2Cell
