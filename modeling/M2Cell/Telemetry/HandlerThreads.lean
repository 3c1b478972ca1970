import Mathlib.Data.List.Basic

/-!
# Cleaning up handlers

`_handlerThreads` is a vector of pointers to handlers, each of which has a handler
thread and a reader thread to join.  After `_server` has added a handler, it goes
through the vector, joins the threads that are at their end, and erases the handlers
that have both threads joined.

The loop advances its iterator before it erases at the old one.  Iterators are
positions, and `erase` shifts the later elements down by one; to dereference a
position that is not in the vector is undefined.

What a handler does while it runs is in `TelemetryCom`, where `remove` stands for
this loop.
-/

namespace M2Cell

/-- What a handler knows of joining one of its two threads. -/
structure ThreadJoin where
  /-- `joinable` of the thread object. -/
  joinable : Bool
  /-- `_readyToJoinHandler`, `_readyToJoinReader`: the thread has reached its end. -/
  readyToJoin : Bool
  /-- `_joinedHandler`, `_joinedReader`. -/
  joined : Bool
  deriving DecidableEq, Repr

/-- `_joinHandler`, `_joinReader`. -/
def ThreadJoin.join (thread : ThreadJoin) : ThreadJoin :=
  if thread.joined then thread else { thread with joinable := false, joined := true }

/-- The threads of a `ServerConnectionHandler`. -/
structure HandlerJoins where
  handler : ThreadJoin
  reader : ThreadJoin
  deriving DecidableEq, Repr

namespace HandlerJoins

/-- `getJoinedAll`. -/
def getJoinedAll (joins : HandlerJoins) : Bool := joins.handler.joined && joins.reader.joined

/-- `_checkJoinReader`. -/
def checkJoinReader (joins : HandlerJoins) : HandlerJoins × Bool :=
  if joins.reader.joined then (joins, true)
  else if !joins.reader.joinable || !joins.reader.readyToJoin then (joins, false)
  else ({ joins with reader := joins.reader.join }, true)

/-- `checkJoinAll`. -/
def checkJoinAll (joins : HandlerJoins) : HandlerJoins × Bool :=
  if joins.handler.joined then joins.checkJoinReader
  else if !joins.handler.joinable || !joins.handler.readyToJoin then (joins, false)
  else { joins with handler := joins.handler.join }.checkJoinReader

/-- The loop erases the handler when it comes to it. -/
def finished (joins : HandlerJoins) : Bool :=
  joins.checkJoinAll.2 || joins.checkJoinAll.1.getJoinedAll

end HandlerJoins

/-- The position that was dereferenced, and the size of the vector. -/
structure OutOfRange where
  position : ℕ
  size : ℕ
  deriving DecidableEq, Repr

/-- The loop in `_server`, with the iterator at `iter`. -/
def cleanUpFrom (handlerThreads : List ℕ) (iter : ℕ) (handlers : ℕ → HandlerJoins) :
    Except OutOfRange (List ℕ × (ℕ → HandlerJoins)) :=
  if iter = handlerThreads.length then .ok (handlerThreads, handlers)
  else if hiter : iter < handlerThreads.length then
    -- `oldIter` keeps the position, and the iterator moves on at once
    let ptr := handlerThreads[iter]
    let checked := (handlers ptr).checkJoinAll
    let handlers' := Function.update handlers ptr checked.1
    if checked.2 || checked.1.getJoinedAll then
      cleanUpFrom (handlerThreads.eraseIdx iter) (iter + 1) handlers'
    else cleanUpFrom handlerThreads (iter + 1) handlers'
  else .error ⟨iter, handlerThreads.length⟩
termination_by handlerThreads.length - iter
decreasing_by
  · have hlength := List.length_eraseIdx_add_one hiter
    omega
  · omega

/-- The loop over the whole vector. -/
def cleanUp (handlerThreads : List ℕ) (handlers : ℕ → HandlerJoins) :
    Except OutOfRange (List ℕ × (ℕ → HandlerJoins)) :=
  cleanUpFrom handlerThreads 0 handlers

/-- `_server` adds the handler of a new client, then cleans up. -/
def addHandler (handlerThreads : List ℕ) (handlerThrd : ℕ) (handlers : ℕ → HandlerJoins) :
    Except OutOfRange (List ℕ × (ℕ → HandlerJoins)) :=
  cleanUp (handlerThreads ++ [handlerThrd]) handlers

end M2Cell
