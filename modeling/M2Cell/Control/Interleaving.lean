import M2Cell.Control.PowerSystem
import M2Cell.Lib.Run

/-!
# Interleaved DAQ processing

`PowerSubsystem::processDaq` takes `_powerStateMtx` twice: in the `setPowerOff` of
its fault check and for the state machine.  It compares the states with the saved
pair, reports and assigns the pair without the mutex, so other threads may act in
between.

`Threads` is the system with each subsystem at some point of its `processDaq`,
and an `Action` is one step of it, a power command, `goToSafeMode` or a change of
the fault manager.  An action of `processDaq` that is not at its point does
nothing.  `run_daqActions` says that the steps of one `processDaq` without anything
in between are `System.processDaq`.
-/

namespace M2Cell

/-- How far a subsystem is in its `processDaq`. -/
inductive DaqPoint
  | idle
  /-- The faults are checked. -/
  | checked
  /-- The pair of states differs from the saved one. -/
  | changed
  /-- The pair of states is the saved one. -/
  | unchanged
  /-- The change is reported to the Model. -/
  | reported
  /-- The pair is saved. -/
  | saved
  deriving DecidableEq, Repr

/-- The system while both subsystems process their DAQ data. -/
structure Threads where
  system : System
  point : PowerSystemType → DaqPoint

/-- What the threads do. -/
inductive Action
  | setPowerOn (ty : PowerSystemType) (clock : Clocks)
  | setPowerOff (ty : PowerSystemType) (clock : Clocks)
  | goToSafeMode (clock : Clocks)
  /-- The Model goes to `OFFLINE`: the connections are lost or the system shuts down. -/
  | goOffline (clock : Clocks)
  | faultMgr (op : FaultMgrOp)
  | checkFaults (ty : PowerSystemType) (info : SysInfo) (clock : Clocks)
  | compare (ty : PowerSystemType)
  | report (ty : PowerSystemType) (clock : Clocks)
  | savePrev (ty : PowerSystemType)
  | processTarg (ty : PowerSystemType) (faultsSet : FaultStatusBits) (clock : Clocks)

namespace Threads

/-- Work on the system without moving in a `processDaq`. -/
def act (f : System → System) (t : Threads) : Threads := { t with system := f t.system }

/-- Move the `processDaq` of `ty` to the point `next` while working on the system. -/
def move (ty : PowerSystemType) (next : DaqPoint) (f : System → System) (t : Threads) : Threads where
  system := f t.system
  point := Function.update t.point ty next

/-- One action. -/
def step (t : Threads) : Action → Threads
  | .setPowerOn ty clock => t.act fun s => (s.setPowerOn ty clock).1
  | .setPowerOff ty clock => t.act fun s => s.setPowerOff ty clock
  | .goToSafeMode clock => t.act fun s => (s.goToSafeMode clock).1
  | .goOffline clock => t.act fun s => (s.changeState clock .offline).1
  | .faultMgr op => t.act fun s => { s with faultMgr := s.faultMgr.step op }
  | .checkFaults ty info clock =>
      if t.point ty = .idle then t.move ty .checked fun s => s.processFaults ty clock info else t
  | .compare ty =>
      if t.point ty = .checked then
        t.move ty (if t.system.stateChanged ty then .changed else .unchanged) id
      else t
  | .report ty clock =>
      if t.point ty = .changed then t.move ty .reported fun s => s.reportStateChange ty clock else t
  | .savePrev ty =>
      if t.point ty = .unchanged ∨ t.point ty = .reported then
        t.move ty .saved fun s => s.savePrev ty
      else t
  | .processTarg ty faultsSet clock =>
      if t.point ty = .saved then t.move ty .idle fun s => (s.processTarg ty clock faultsSet).1
      else t

/-- The steps of one `processDaq`. -/
def daqActions (ty : PowerSystemType) (info : SysInfo) (faultsSet : FaultStatusBits)
    (clock : Clocks) : List Action :=
  [.checkFaults ty info clock, .compare ty, .report ty clock, .savePrev ty,
    .processTarg ty faultsSet clock]

variable (t : Threads) (ty : PowerSystemType) (f : System → System) (next : DaqPoint)

@[simp] theorem system_act : (t.act f).system = f t.system := rfl

@[simp] theorem point_act : (t.act f).point = t.point := rfl

@[simp] theorem system_move : (t.move ty next f).system = f t.system := rfl

@[simp] theorem point_move : (t.move ty next f).point ty = next := by
  simp [move]

theorem point_move_of_ne {ty' : PowerSystemType} (h : ty' ≠ ty) :
    (t.move ty next f).point ty' = t.point ty' := by
  simp [move, h]

/-- **The steps of one `processDaq`** with nothing in between are the whole of it. -/
theorem run_daqActions (info : SysInfo) (faultsSet : FaultStatusBits) (clock : Clocks)
    (hidle : t.point ty = .idle) :
    (run step t (daqActions ty info faultsSet clock)).system =
        (t.system.processDaq ty clock info faultsSet).1 ∧
      (run step t (daqActions ty info faultsSet clock)).point ty = .idle := by
  cases hchanged : (t.system.processFaults ty clock info).stateChanged ty with
  | true => simp [daqActions, step, hidle, hchanged, System.processDaq, System.prepareDaq]
  | false => simp [daqActions, step, hidle, hchanged, System.processDaq, System.prepareDaq]

end Threads

end M2Cell
