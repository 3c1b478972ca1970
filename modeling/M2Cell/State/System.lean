import M2Cell.Control.Coupling
import M2Cell.FaultMgr.FaultMgr

/-!
# The state of the whole system

`System` gathers what the power code shares: the two subsystems of the
`PowerSystem`, the output port of the `FpgaIo`, the `FaultMgr` and the state of
the `Model`.  A member function of a subsystem works on a `Call`; `call` takes
it out of the system and `store` puts the result back.

`Descends` lifts `Follows` to the system: no target is turned on and the output
bits stay coupled.  `Confined` says that one subsystem was worked on and the
other was left alone.

Both are relations between the system before and after, closed under composition, so a long
function is described by composing what its parts do (`Descends.trans`, `Confined.trans`,
`Descends.ite` for a branch).  The lemmas about `store` and `call` come first and are `simp`
lemmas; after them no proof needs to look into these two.  A `setPowerOff` descends and is
confined, a `setPowerOn` is confined, and `setPowerOn_spec` says when it succeeds.
-/

namespace M2Cell

open PowerSubsystemConfig

/-- `State::StateEnum`. -/
inductive StateEnum
  | offline
  | startup
  | standby
  | idle
  | pause
  | inMotion
  deriving DecidableEq, Repr

/-- The state that the power code shares. -/
structure System where
  motor : PowerSubsystem
  comm : PowerSubsystem
  /-- `FpgaIo::_outputPort`. -/
  outputPort : OutputPortBits
  faultMgr : FaultMgr
  /-- `StateMap::_currentState`. -/
  currentState : StateEnum
  /-- `Model::_setupFinished`, which `isStartupFinished` returns. -/
  setupFinished : Bool
  /-- `PowerSystem::_boostCurrentFaultEnabled`. -/
  boostCurrentFaultEnabled : Bool
  deriving DecidableEq

/-- The clock readings of an operation, for each subsystem. -/
abbrev Clocks := PowerSystemType → Clock

namespace System

/-- The subsystem of a type. -/
def sub (s : System) : PowerSystemType → PowerSubsystem
  | .motor => s.motor
  | .comm => s.comm

/-- Replace the subsystem of a type. -/
def setSub (ty : PowerSystemType) (sub : PowerSubsystem) (s : System) : System :=
  match ty with
  | .motor => { s with motor := sub }
  | .comm => { s with comm := sub }

/-- What a member function of the subsystem works on. -/
def call (ty : PowerSystemType) (faultsSet : FaultStatusBits) (s : System) : Call where
  sub := s.sub ty
  outputPort := s.outputPort
  faultsSet := faultsSet

/-- Put the subsystem and the output port of a call back. -/
def store (ty : PowerSystemType) (c : Call) (s : System) : System :=
  { s.setSub ty c.sub with outputPort := c.outputPort }

/-- `PowerSubsystem::_checkForFaults`. -/
def checkForFaults (ty : PowerSystemType) (s : System) : Bool :=
  s.faultMgr.checkForPowerSubsystemFaults (PowerSubsystem.checkForFaultsMask ty)

/-- `PowerSubsystem::setPowerOff`. -/
def setPowerOff (ty : PowerSystemType) (clock : Clocks) (s : System) : System :=
  s.store ty ((s.call ty 0).setPowerOff ty (clock ty).stamp)

/-- `PowerSubsystem::setPowerOn`. -/
def setPowerOn (ty : PowerSystemType) (clock : Clocks) (s : System) : System × Bool :=
  let result := (s.call ty 0).setPowerOn ty (s.checkForFaults ty) (clock ty).stamp
  (s.store ty result.1, result.2)

/-- `PowerSubsystem::setContext`. -/
def setContext (ty : PowerSystemType) (context : Bool) (s : System) : System :=
  s.store ty { s.call ty 0 with sub := { s.sub ty with context := context } }

/-- The system before the bodies of the two `PowerSubsystem` constructors. -/
def newUnset (port : OutputPortBits) : System where
  motor := .default
  comm := .default
  outputPort := port
  faultMgr := .new
  currentState := .startup
  setupFinished := false
  boostCurrentFaultEnabled := true

/-- The constructed system, over an output port with any bits.  Both constructors
turn the power off; the report that follows has no context yet. -/
def new (port : OutputPortBits) : System :=
  ((newUnset port).setPowerOff .motor fun _ => ⟨0, 0⟩).setPowerOff .comm fun _ => ⟨0, 0⟩

/-! ## `store` -/

section store

variable (s : System) (ty : PowerSystemType) (c : Call) (faultsSet : FaultStatusBits)

@[simp] theorem sub_call : (s.call ty faultsSet).sub = s.sub ty := rfl

@[simp] theorem outputPort_call : (s.call ty faultsSet).outputPort = s.outputPort := rfl

@[simp] theorem faultsSet_call : (s.call ty faultsSet).faultsSet = faultsSet := rfl

@[simp] theorem sub_store : (s.store ty c).sub ty = c.sub := by
  cases ty <;> rfl

@[simp] theorem sub_other_store : (s.store ty c).sub ty.other = s.sub ty.other := by
  cases ty <;> rfl

@[simp] theorem outputPort_store : (s.store ty c).outputPort = c.outputPort := rfl

@[simp] theorem faultMgr_store : (s.store ty c).faultMgr = s.faultMgr := by
  cases ty <;> rfl

@[simp] theorem currentState_store : (s.store ty c).currentState = s.currentState := by
  cases ty <;> rfl

@[simp] theorem setupFinished_store : (s.store ty c).setupFinished = s.setupFinished := by
  cases ty <;> rfl

@[simp] theorem boostCurrentFaultEnabled_store :
    (s.store ty c).boostCurrentFaultEnabled = s.boostCurrentFaultEnabled := by
  cases ty <;> rfl

@[simp] theorem checkForFaults_store (ty' : PowerSystemType) :
    (s.store ty c).checkForFaults ty' = s.checkForFaults ty' := by
  simp [checkForFaults]

end store

/-! ## The output bits of both subsystems -/

/-- The output bits of both subsystems agree with their targets. -/
def Coupled (s : System) : Prop := ∀ ty, M2Cell.Coupled ty (s.sub ty) s.outputPort

/-- The target of the subsystem is off and its power bit is low. -/
def PowerOff (ty : PowerSystemType) (s : System) : Prop :=
  (s.sub ty).targPowerState = .off ∧
    OutputPortBits.getBitAtPos s.outputPort (psCfg ty).outputPowerOnBitPos = false

/-- A bit that belongs to neither subsystem: `CRIO_INTERLOCK_ENABLE` and the spare bits. -/
def Spare (pos : Fin 8) : Prop :=
  ∀ ty, pos ≠ (psCfg ty).outputPowerOnBitPos ∧ pos ≠ (psCfg ty).outputBreakerBitPos

/-- The two bits of a subsystem do not move when only the other one's may. -/
theorem bits_eq_of_port {ty : PowerSystemType} {port port' : OutputPortBits}
    (hport : ∀ pos, pos ≠ (psCfg ty).outputPowerOnBitPos → pos ≠ (psCfg ty).outputBreakerBitPos →
      OutputPortBits.getBitAtPos port' pos = OutputPortBits.getBitAtPos port pos) :
    OutputPortBits.getBitAtPos port' (psCfg ty.other).outputPowerOnBitPos =
        OutputPortBits.getBitAtPos port (psCfg ty.other).outputPowerOnBitPos ∧
      OutputPortBits.getBitAtPos port' (psCfg ty.other).outputBreakerBitPos =
        OutputPortBits.getBitAtPos port (psCfg ty.other).outputBreakerBitPos := by
  obtain ⟨_, hpp, hpr, hrp, hrr⟩ := outputBits_disjoint ty
  exact ⟨hport _ hpp.symm hrp.symm, hport _ hpr.symm hrr.symm⟩

/-- An operation on the subsystem `ty` that leaves the other one alone. -/
structure Confined (ty : PowerSystemType) (s r : System) : Prop where
  other : r.sub ty.other = s.sub ty.other
  port : ∀ pos, pos ≠ (psCfg ty).outputPowerOnBitPos → pos ≠ (psCfg ty).outputBreakerBitPos →
    OutputPortBits.getBitAtPos r.outputPort pos = OutputPortBits.getBitAtPos s.outputPort pos

namespace Confined

variable {ty : PowerSystemType} {s t r : System}

theorem refl (s : System) : Confined ty s s := ⟨rfl, fun _ _ _ => rfl⟩

theorem trans (h : Confined ty s t) (h' : Confined ty t r) : Confined ty s r :=
  ⟨h'.other.trans h.other, fun pos hpower hreset =>
    (h'.port pos hpower hreset).trans (h.port pos hpower hreset)⟩

/-- The other subsystem stays coupled. -/
theorem coupled_other (h : Confined ty s r)
    (hs : M2Cell.Coupled ty.other (s.sub ty.other) s.outputPort) :
    M2Cell.Coupled ty.other (r.sub ty.other) r.outputPort := by
  have hbits := bits_eq_of_port h.port
  exact hs.congr (by rw [h.other]) (by rw [h.other]) hbits.1 hbits.2

/-- Both stay coupled when the one worked on is. -/
theorem coupled (h : Confined ty s r) (hs : s.Coupled)
    (hty : M2Cell.Coupled ty (r.sub ty) r.outputPort) : r.Coupled := by
  intro ty'
  rcases ty.eq_or_eq_other ty' with rfl | rfl
  · exact hty
  · exact h.coupled_other (hs ty.other)

theorem powerOff_other (h : Confined ty s r) (hs : PowerOff ty.other s) : PowerOff ty.other r :=
  ⟨by rw [h.other, hs.1], (bits_eq_of_port h.port).1.trans hs.2⟩

/-- A subsystem that is off stays off when the one worked on does. -/
theorem powerOff (h : Confined ty s r) (hty : PowerOff ty s → PowerOff ty r)
    (ty' : PowerSystemType) (hs : PowerOff ty' s) : PowerOff ty' r := by
  rcases ty.eq_or_eq_other ty' with rfl | rfl
  · exact hty hs
  · exact h.powerOff_other hs

/-- Low power bits stay low when that of the one worked on does. -/
theorem low (h : Confined ty s r)
    (hty : OutputPortBits.getBitAtPos s.outputPort (psCfg ty).outputPowerOnBitPos = false →
      OutputPortBits.getBitAtPos r.outputPort (psCfg ty).outputPowerOnBitPos = false)
    (ty' : PowerSystemType)
    (hs : OutputPortBits.getBitAtPos s.outputPort (psCfg ty').outputPowerOnBitPos = false) :
    OutputPortBits.getBitAtPos r.outputPort (psCfg ty').outputPowerOnBitPos = false := by
  rcases ty.eq_or_eq_other ty' with rfl | rfl
  · exact hty hs
  · exact (bits_eq_of_port h.port).1.trans hs

theorem spare (h : Confined ty s r) {pos : Fin 8} (hpos : Spare pos) :
    OutputPortBits.getBitAtPos r.outputPort pos = OutputPortBits.getBitAtPos s.outputPort pos :=
  h.port pos (hpos ty).1 (hpos ty).2

end Confined

/-- A step that turns nothing on. -/
structure Descends (s r : System) : Prop where
  targ : ∀ ty, (r.sub ty).targPowerState = (s.sub ty).targPowerState ∨
    (r.sub ty).targPowerState = .off
  spare : ∀ pos, Spare pos →
    OutputPortBits.getBitAtPos r.outputPort pos = OutputPortBits.getBitAtPos s.outputPort pos
  powerOff : ∀ ty, PowerOff ty s → PowerOff ty r
  /-- A low power bit stays low, whatever the target is. -/
  low : ∀ ty, OutputPortBits.getBitAtPos s.outputPort (psCfg ty).outputPowerOnBitPos = false →
    OutputPortBits.getBitAtPos r.outputPort (psCfg ty).outputPowerOnBitPos = false
  actual : ∀ ty, (s.sub ty).actualPowerState ≠ .turningOff →
    (r.sub ty).actualPowerState ≠ .turningOff
  coupled : s.Coupled → r.Coupled

namespace Descends

variable {s t r : System}

theorem refl (s : System) : Descends s s :=
  ⟨fun _ => Or.inl rfl, fun _ _ => rfl, fun _ => id, fun _ => id, fun _ => id, id⟩

theorem trans (h : Descends s t) (h' : Descends t r) : Descends s r where
  targ ty := by
    rcases h'.targ ty with hsame | hoff
    · rw [hsame]; exact h.targ ty
    · exact Or.inr hoff
  spare pos hpos := (h'.spare pos hpos).trans (h.spare pos hpos)
  powerOff ty hs := h'.powerOff ty (h.powerOff ty hs)
  low ty hs := h'.low ty (h.low ty hs)
  actual ty hs := h'.actual ty (h.actual ty hs)
  coupled hs := h'.coupled (h.coupled hs)

theorem targ_off (h : Descends s r) {ty : PowerSystemType}
    (htarg : (s.sub ty).targPowerState = .off) : (r.sub ty).targPowerState = .off := by
  rcases h.targ ty with hsame | hoff
  · rw [hsame, htarg]
  · exact hoff

theorem targ_on (h : Descends s r) {ty : PowerSystemType}
    (htarg : (r.sub ty).targPowerState = .on) : (s.sub ty).targPowerState = .on := by
  rcases h.targ ty with hsame | hoff
  · rw [← hsame, htarg]
  · simp [hoff] at htarg

theorem ite {p : Prop} [Decidable p] (ht : Descends s t) (hr : Descends s r) :
    Descends s (if p then t else r) := by
  split
  · exact ht
  · exact hr

end Descends

/-! ## Calls in the system -/

section calls

variable (s : System) {ty : PowerSystemType} {faultsSet : FaultStatusBits} {c : Call}

theorem confined_store
    (hport : ∀ pos, pos ≠ (psCfg ty).outputPowerOnBitPos → pos ≠ (psCfg ty).outputBreakerBitPos →
      OutputPortBits.getBitAtPos c.outputPort pos = OutputPortBits.getBitAtPos s.outputPort pos) :
    Confined ty s (s.store ty c) :=
  ⟨by simp, by simpa using hport⟩

/-- A call of the state machine, put back into the system. -/
theorem descends_store (h : Call.Follows ty (s.call ty faultsSet) c) :
    Descends s (s.store ty c) where
  targ ty' := by
    rcases ty.eq_or_eq_other ty' with rfl | rfl
    · simpa using h.targ
    · simp
  spare pos hpos := (confined_store s h.port).spare hpos
  powerOff := by
    apply (confined_store s h.port).powerOff
    intro hs
    have htarg := h.targ_off hs.1
    exact ⟨by simpa using htarg, by simpa using h.power (fun _ => hs.2) htarg⟩
  low := (confined_store s h.port).low (by simpa using h.low)
  actual ty' := by
    rcases ty.eq_or_eq_other ty' with rfl | rfl
    · simpa using h.actual
    · simp
  coupled hs := (confined_store s h.port).coupled hs (by simpa using h.coupled (hs ty))

variable (ty) (clock : Clocks)

theorem confined_setPowerOff : Confined ty s (s.setPowerOff ty clock) :=
  confined_store s (Call.follows_setPowerOff (s.call ty 0) _).port

theorem descends_setPowerOff : Descends s (s.setPowerOff ty clock) :=
  descends_store s (Call.follows_setPowerOff (s.call ty 0) _)

@[simp] theorem targPowerState_setPowerOff :
    ((s.setPowerOff ty clock).sub ty).targPowerState = .off := by
  simp [setPowerOff]

@[simp] theorem actualPowerState_setPowerOff (ty' : PowerSystemType) :
    ((s.setPowerOff ty clock).sub ty').actualPowerState = (s.sub ty').actualPowerState := by
  rcases ty.eq_or_eq_other ty' with rfl | rfl <;> simp [setPowerOff]

@[simp] theorem context_setPowerOff (ty' : PowerSystemType) :
    ((s.setPowerOff ty clock).sub ty').context = (s.sub ty').context := by
  rcases ty.eq_or_eq_other ty' with rfl | rfl <;> simp [setPowerOff]

@[simp] theorem currentState_setPowerOff :
    (s.setPowerOff ty clock).currentState = s.currentState := by
  simp [setPowerOff]

@[simp] theorem faultMgr_setPowerOff : (s.setPowerOff ty clock).faultMgr = s.faultMgr := by
  simp [setPowerOff]

@[simp] theorem setupFinished_setPowerOff :
    (s.setPowerOff ty clock).setupFinished = s.setupFinished := by
  simp [setPowerOff]

/-- `setPowerOff` couples the subsystem in any state. -/
theorem coupled_setPowerOff :
    M2Cell.Coupled ty ((s.setPowerOff ty clock).sub ty) (s.setPowerOff ty clock).outputPort := by
  simp only [setPowerOff, sub_store, outputPort_store]
  exact Call.coupled_setPowerOff (s.call ty 0) _

theorem confined_setPowerOn : Confined ty s (s.setPowerOn ty clock).1 :=
  confined_store s (Call.port_setPowerOn (s.call ty 0) _ _)

@[simp] theorem actualPowerState_setPowerOn (ty' : PowerSystemType) :
    ((s.setPowerOn ty clock).1.sub ty').actualPowerState = (s.sub ty').actualPowerState := by
  rcases ty.eq_or_eq_other ty' with rfl | rfl
  · simp only [setPowerOn, sub_store, Call.setPowerOn]
    split_ifs <;> simp
  · rw [(confined_setPowerOn s ty clock).other]

@[simp] theorem faultMgr_setPowerOn : (s.setPowerOn ty clock).1.faultMgr = s.faultMgr := by
  simp [setPowerOn]

/-- **A `setPowerOn`** returns true exactly when there is no fault and the CRIO
bit was read back; then the target is on, otherwise it is off. -/
theorem setPowerOn_spec :
    (s.setPowerOn ty clock).2 = (!s.checkForFaults ty && (s.sub ty).getCrioReadyOutputOn ty) ∧
      ((s.setPowerOn ty clock).1.sub ty).targPowerState =
        (if (s.setPowerOn ty clock).2 then .on else .off) ∧
      M2Cell.Coupled ty ((s.setPowerOn ty clock).1.sub ty) (s.setPowerOn ty clock).1.outputPort := by
  simp only [setPowerOn, sub_store, outputPort_store]
  exact Call.setPowerOn_spec (s.call ty 0) (s.checkForFaults ty) (clock ty).stamp

/-- The constructed system is coupled. -/
theorem coupled_new (port : OutputPortBits) : (new port).Coupled := by
  intro ty
  cases ty with
  | motor =>
      have hcomm := confined_setPowerOff ((newUnset port).setPowerOff .motor fun _ => ⟨0, 0⟩) .comm
        fun _ => ⟨0, 0⟩
      exact hcomm.coupled_other (coupled_setPowerOff _ .motor _)
  | comm => exact coupled_setPowerOff _ .comm _

end calls

end System

end M2Cell
