import M2Cell.Lib.Run
import Mathlib.Data.List.Sort
import Mathlib.Logic.Function.Basic

/-!
# Broadcasts and the owners of a connection

`ComServer::asyncWriteToAllComConn` holds `_mapMtx` and goes over the map.  The map
has weak pointers only; a connection belongs to the pending asynchronous operations,
their handlers and the command threads, and for each element of the map the loop
makes an owner of its own.  The owner that goes last runs `~ComConnection`, which
calls `shutdown`, which calls `eraseConnection`, on the thread on which it goes.

A thread is at one of the points of `BroadcastPoint`, and `useCount` is the
`use_count` of the shared pointers to a connection.  An action of a thread that is
not at its point does nothing, and one that waits for the mutex does nothing while
the mutex is held.
-/

namespace M2Cell

/-- A `ComConnection` as its owners see it. -/
structure OwnedConnection where
  useCount : ℕ
  /-- The owners other than the loops of broadcasts. -/
  operations : ℕ
  /-- `_shutdown`. -/
  shutdown : Bool
  deriving DecidableEq, Repr

/-- How far a thread is. -/
inductive BroadcastPoint
  /-- It runs a handler, a command or nothing. -/
  | idle
  /-- In the loop of `asyncWriteToAllComConn`, before the elements `todo`. -/
  | iterating (todo : List ℕ)
  /-- The weak pointer of the element is locked. -/
  | owning (connId : ℕ) (todo : List ℕ)
  /-- `asyncWrite` of the element has returned. -/
  | written (connId : ℕ) (todo : List ℕ)
  /-- At the mutex in `eraseConnection`; `todo` when a broadcast dropped the last owner. -/
  | erasing (connId : ℕ) (todo : Option (List ℕ))
  deriving DecidableEq, Repr

/-- The threads of a `ComServer`, its map and the connections. -/
structure Broadcasts where
  /-- The thread that holds `_mapMtx`. -/
  mapMtx : Option ℕ
  /-- The keys of `_connections`, in order. -/
  connections : List ℕ
  conn : ℕ → OwnedConnection
  connIdSeq : ℕ
  point : ℕ → BroadcastPoint

/-- The steps of the threads. -/
inductive BroadcastAction
  /-- `_beginAccept` makes a connection and hands it to the accept operation. -/
  | beginAccept
  /-- `_handleAccept` inserts the connection. -/
  | emplace (connId : ℕ)
  /-- `asyncWriteToAllComConn` locks the mutex. -/
  | lockMap (thread : ℕ)
  | lockWeak (thread : ℕ)
  | asyncWrite (thread : ℕ)
  /-- The pointer that the loop made goes out of scope. -/
  | dropConn (thread : ℕ)
  | unlockMap (thread : ℕ)
  /-- A handler makes another owner, or `ComServer::shutdown` locks a weak pointer. -/
  | startOperation (connId : ℕ)
  /-- An operation or a command thread ends and drops its pointer. -/
  | endOperation (thread connId : ℕ)
  /-- `ComServer::shutdown` calls `ComConnection::shutdown`. -/
  | shutdownConn (thread connId : ℕ)
  | eraseConnection (thread : ℕ)

namespace Broadcasts

/-- The server before its first connection. -/
def start : Broadcasts where
  mapMtx := none
  connections := []
  conn _ := ⟨0, 0, false⟩
  connIdSeq := 0
  point _ := .idle

/-- Move a thread. -/
def move (thread : ℕ) (point : BroadcastPoint) (s : Broadcasts) : Broadcasts :=
  { s with point := Function.update s.point thread point }

/-- Write a connection. -/
def setConn (connId : ℕ) (conn : OwnedConnection) (s : Broadcasts) : Broadcasts :=
  { s with conn := Function.update s.conn connId conn }

@[simp] theorem point_move (thread : ℕ) (point : BroadcastPoint) (s : Broadcasts) :
    (s.move thread point).point thread = point :=
  Function.update_self ..

theorem point_move_of_ne {thread other : ℕ} (hne : other ≠ thread) (point : BroadcastPoint)
    (s : Broadcasts) : (s.move thread point).point other = s.point other :=
  Function.update_of_ne hne ..

@[simp] theorem conn_move (thread : ℕ) (point : BroadcastPoint) (s : Broadcasts) :
    (s.move thread point).conn = s.conn := rfl

@[simp] theorem conn_setConn (connId : ℕ) (conn : OwnedConnection) (s : Broadcasts) :
    (s.setConn connId conn).conn connId = conn :=
  Function.update_self ..

theorem conn_setConn_of_ne {connId other : ℕ} (hne : other ≠ connId) (conn : OwnedConnection)
    (s : Broadcasts) : (s.setConn connId conn).conn other = s.conn other :=
  Function.update_of_ne hne ..

@[simp] theorem setConn_setConn (connId : ℕ) (conn conn' : OwnedConnection) (s : Broadcasts) :
    (s.setConn connId conn).setConn connId conn' = s.setConn connId conn' := by
  simp only [setConn, Function.update_idem]

@[simp] theorem setConn_self (connId : ℕ) (s : Broadcasts) :
    s.setConn connId (s.conn connId) = s := by
  simp only [setConn, Function.update_eq_self]

/-- Where a thread goes on after a destructor. -/
def resume : Option (List ℕ) → BroadcastPoint
  | none => .idle
  | some todo => .iterating todo

/-- `ComConnection::shutdown`, up to the mutex in `eraseConnection`. -/
def shutdown (thread connId : ℕ) (todo : Option (List ℕ)) (s : Broadcasts) : Broadcasts :=
  if (s.conn connId).shutdown then s.move thread (resume todo)
  else
    (s.setConn connId { s.conn connId with shutdown := true }).move thread (.erasing connId todo)

/-- A shared pointer goes out of scope; the last one runs `~ComConnection`. -/
def release (thread connId : ℕ) (todo : Option (List ℕ)) (s : Broadcasts) : Broadcasts :=
  let s := s.setConn connId { s.conn connId with useCount := (s.conn connId).useCount - 1 }
  if (s.conn connId).useCount = 0 then s.shutdown thread connId todo
  else s.move thread (resume todo)

/-- One step of a thread. -/
def step (s : Broadcasts) : BroadcastAction → Broadcasts
  | .beginAccept =>
      { s.setConn s.connIdSeq ⟨1, 1, false⟩ with connIdSeq := s.connIdSeq + 1 }
  | .emplace connId =>
      if s.mapMtx = none ∧ 0 < (s.conn connId).operations ∧ connId ∉ s.connections then
        { s with connections := s.connections.orderedInsert (· ≤ ·) connId }
      else s
  | .lockMap thread =>
      if s.mapMtx = none ∧ s.point thread = .idle then
        { s with mapMtx := some thread }.move thread (.iterating s.connections)
      else s
  | .lockWeak thread =>
      match s.point thread with
      | .iterating (connId :: todo) =>
          -- an expired pointer gives no connection
          if (s.conn connId).useCount = 0 then s.move thread (.iterating todo)
          else
            (s.setConn connId
              { s.conn connId with useCount := (s.conn connId).useCount + 1 }).move thread
                (.owning connId todo)
      | _ => s
  | .asyncWrite thread =>
      match s.point thread with
      | .owning connId todo =>
          -- the handler of the write owns the connection from here on
          (s.setConn connId
            { s.conn connId with
              useCount := (s.conn connId).useCount + 1
              operations := (s.conn connId).operations + 1 }).move thread (.written connId todo)
      | _ => s
  | .dropConn thread =>
      match s.point thread with
      | .written connId todo => s.release thread connId (some todo)
      | _ => s
  | .unlockMap thread =>
      if s.point thread = .iterating [] then { s with mapMtx := none }.move thread .idle else s
  | .startOperation connId =>
      if 0 < (s.conn connId).useCount then
        s.setConn connId
          { s.conn connId with
            useCount := (s.conn connId).useCount + 1
            operations := (s.conn connId).operations + 1 }
      else s
  | .endOperation thread connId =>
      if s.point thread = .idle ∧ 0 < (s.conn connId).operations then
        (s.setConn connId
          { s.conn connId with operations := (s.conn connId).operations - 1 }).release thread
            connId none
      else s
  | .shutdownConn thread connId =>
      if s.point thread = .idle ∧ 0 < (s.conn connId).operations then
        s.shutdown thread connId none
      else s
  | .eraseConnection thread =>
      match s.point thread with
      | .erasing connId todo =>
          -- the mutex is not recursive: its own thread waits as well
          if s.mapMtx = none then
            { s with connections := s.connections.erase connId }.move thread (resume todo)
          else s
      | _ => s

end Broadcasts

end M2Cell
