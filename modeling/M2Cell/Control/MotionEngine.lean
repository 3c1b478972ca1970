import M2Cell.Lib.Run

/-!
# The motion engine

A `MotionEngine` owns two threads: its event thread `_eThrd`, which runs the commands of
its queue, and `_timeoutThread`, which queues a timeout check from time to time.
`engineStart` starts them, `engineStop` makes them end, `engineJoin` joins them.  Each of
the three remembers in a flag that it was called.

The calls come one after another, from any threads; only an `engineJoin` can wait, and
others may be called meanwhile.  The destructor is `engineStop` and `engineJoin`, and then
the destructors of the members.

A `std::thread` is one of four things (`StdThread`), of which two are joinable; the destructor of
a joinable one terminates the program, and `join` of one that is not joinable throws.  A call
returns, throws, or waits (`EngineResult`), and an `engineJoin` that waits goes on with `resume`,
which finds out whether the thread has ended meanwhile.  The timeout thread looks at
`_timeoutLoop` once in each turn, and the event thread takes one command in each.
-/

namespace M2Cell

/-- A `std::thread`. -/
inductive StdThread
  /-- It was default-constructed. -/
  | none
  | running
  /-- Its function has returned. -/
  | ended
  | joined
  deriving DecidableEq, Repr

/-- `joinable`. -/
def StdThread.joinable : StdThread → Bool
  | running => true
  | ended => true
  | none => false
  | joined => false

/-- The commands of the event thread. -/
inductive EngineCommand
  | comTimeoutCheck
  /-- `MsgEnd` of `queEnd`. -/
  | msgEnd
  deriving DecidableEq, Repr

/-- What an `engineJoin` waits for. -/
inductive EngineJoinPoint
  | eThrd
  | timeoutThread
  deriving DecidableEq, Repr

/-- The life of the object. -/
inductive EngineStage
  | alive
  /-- The destructor waits in `engineJoin`. -/
  | destroying
  | destroyed
  /-- `std::terminate` was called. -/
  | terminated
  deriving DecidableEq, Repr

/-- A `MotionEngine` with its threads. -/
structure MotionEngine where
  eStarted : Bool
  eStopCalled : Bool
  eJoinCalled : Bool
  timeoutLoop : Bool
  /-- The thread of `_eThrd`. -/
  eThrd : StdThread
  /-- `eLoop` of `_eThrd`. -/
  eLoop : Bool
  /-- `eQue` of `_eThrd`. -/
  eQue : List EngineCommand
  timeoutThread : StdThread
  /-- The `engineJoin` that waits. -/
  joining : Option EngineJoinPoint
  stage : EngineStage
  deriving DecidableEq, Repr

/-- What is thrown. -/
inductive EngineException
  | bug (what : String)
  /-- `std::system_error`, of a `join` of a thread that is not joinable. -/
  | systemError
  deriving DecidableEq, Repr

/-- How a call goes on. -/
inductive EngineResult
  | returned
  | threw (ex : EngineException)
  | waits
  /-- A thread was assigned to a joinable one. -/
  | terminated
  deriving DecidableEq, Repr

/-- The calls. -/
inductive EngineCall
  | engineStart
  | engineStop
  | engineJoin
  deriving DecidableEq, Repr

/-- The calls and the steps of the threads. -/
inductive EngineAction
  | call (call : EngineCall)
  | destructor
  /-- One turn of the loop of `_eThrd`. -/
  | handleCmds
  /-- `queueTimeoutCheck`, of the timeout thread or of anyone else. -/
  | queueTimeoutCheck
  /-- The timeout thread reads `_timeoutLoop`. -/
  | testTimeoutLoop
  /-- The `engineJoin` that waits looks at its thread again. -/
  | resume
  deriving DecidableEq, Repr

/-- `to_string` of a flag. -/
def flagText (flag : Bool) : String := if flag then "1" else "0"

namespace MotionEngine

/-- The constructor. -/
def new : MotionEngine where
  eStarted := false
  eStopCalled := false
  eJoinCalled := false
  timeoutLoop := true
  eThrd := .none
  eLoop := true
  eQue := []
  timeoutThread := .none
  joining := none
  stage := .alive

/-- `_eThrd.run()` and the start of `_timeoutThread`. -/
def runThreads (e : MotionEngine) : MotionEngine × EngineResult :=
  if e.eThrd.joinable then ({ e with stage := .terminated }, .terminated)
  else if e.timeoutThread.joinable then
    ({ e with eThrd := .running, stage := .terminated }, .terminated)
  else ({ e with eThrd := .running, timeoutThread := .running }, .returned)

/-- `engineStart`: the flag is exchanged in the condition. -/
def engineStart (e : MotionEngine) : MotionEngine × EngineResult :=
  let exchanged := { e with eStarted := true }
  if e.eStarted || e.eStopCalled then
    (exchanged, .threw (.bug
      ("MotionEngine::engineStart() can only be called once eStarted=" ++
        flagText exchanged.eStarted ++ " eEnded=" ++ flagText exchanged.eStopCalled)))
  else exchanged.runThreads

/-- `engineStop`. -/
def engineStop (e : MotionEngine) : MotionEngine × Bool :=
  if e.eStopCalled then (e, false)
  else
    ({ e with eStopCalled := true, timeoutLoop := false, eQue := e.eQue ++ [.msgEnd] }, true)

/-- The end of `engineJoin`: `_timeoutThread` is joined if it can be. -/
def joinTimeoutThread (e : MotionEngine) : MotionEngine × EngineResult :=
  match e.timeoutThread with
  | .running => ({ e with joining := some .timeoutThread }, .waits)
  | .ended => ({ e with timeoutThread := .joined, joining := none }, .returned)
  | .none => ({ e with joining := none }, .returned)
  | .joined => ({ e with joining := none }, .returned)

/-- `_eThrd.join()`, and what follows. -/
def joinEThrd (e : MotionEngine) : MotionEngine × EngineResult :=
  match e.eThrd with
  | .running => ({ e with joining := some .eThrd }, .waits)
  | .ended => joinTimeoutThread { e with eThrd := .joined }
  | .none => ({ e with joining := none }, .threw .systemError)
  | .joined => ({ e with joining := none }, .threw .systemError)

/-- `engineJoin`, up to where it waits. -/
def engineJoin (e : MotionEngine) : MotionEngine × EngineResult :=
  if e.eJoinCalled then (e, .returned)
  else
    let exchanged := { e with eJoinCalled := true }
    if exchanged.eStarted then exchanged.joinEThrd else exchanged.joinTimeoutThread

/-- The `engineJoin` that waits goes on. -/
def resume (e : MotionEngine) : MotionEngine × EngineResult :=
  match e.joining with
  | none => (e, .waits)
  | some .eThrd => e.joinEThrd
  | some .timeoutThread => e.joinTimeoutThread

/-- The destructor after its `engineJoin`: an exception does not leave it, and the members'
destructors do not accept a joinable thread. -/
def finishDestructor (result : MotionEngine × EngineResult) : MotionEngine :=
  match result.2 with
  | .returned =>
      if result.1.timeoutThread.joinable || result.1.eThrd.joinable then
        { result.1 with stage := .terminated }
      else { result.1 with stage := .destroyed }
  | .threw _ => { result.1 with stage := .terminated }
  | .terminated => { result.1 with stage := .terminated }
  | .waits => { result.1 with stage := .destroying }

/-- The destructor, up to where it waits. -/
def destructor (e : MotionEngine) : MotionEngine :=
  finishDestructor e.engineStop.1.engineJoin

/-- One turn of `_handleCmds`.  Without a command it waits. -/
def handleCmds (e : MotionEngine) : MotionEngine :=
  if e.eThrd = .running then
    if e.eLoop then
      match e.eQue with
      | [] => e
      | .comTimeoutCheck :: rest => { e with eQue := rest }
      | .msgEnd :: rest => { e with eQue := rest, eLoop := false }
    else { e with eThrd := .ended }
  else e

/-- `queueTimeoutCheck`. -/
def queueTimeoutCheck (e : MotionEngine) : MotionEngine :=
  { e with eQue := e.eQue ++ [.comTimeoutCheck] }

/-- The condition of the loop of the timeout thread. -/
def testTimeoutLoop (e : MotionEngine) : MotionEngine :=
  if e.timeoutThread = .running ∧ e.timeoutLoop = false then { e with timeoutThread := .ended }
  else e

/-- One call. -/
def call (e : MotionEngine) : EngineCall → MotionEngine × EngineResult
  | .engineStart => e.engineStart
  | .engineStop => (e.engineStop.1, .returned)
  | .engineJoin => e.engineJoin

/-- One action. -/
def step (e : MotionEngine) : EngineAction → MotionEngine
  | .call call => (e.call call).1
  | .destructor => e.destructor
  | .handleCmds => e.handleCmds
  | .queueTimeoutCheck => e.queueTimeoutCheck
  | .testTimeoutLoop => e.testTimeoutLoop
  | .resume =>
      if e.joining = none then e
      else if e.stage = .destroying then finishDestructor e.resume
      else e.resume.1

/-- Calls are made while the object lives, the destructor runs when no call is left. -/
def Enabled (e : MotionEngine) : EngineAction → Prop
  | .call _ => e.stage = .alive
  | .destructor => e.stage = .alive ∧ e.joining = none
  | _ => True

instance (e : MotionEngine) : ∀ action, Decidable (e.Enabled action)
  | .call _ => inferInstanceAs (Decidable (_ = _))
  | .destructor => inferInstanceAs (Decidable (_ ∧ _))
  | .handleCmds => inferInstanceAs (Decidable True)
  | .queueTimeoutCheck => inferInstanceAs (Decidable True)
  | .testTimeoutLoop => inferInstanceAs (Decidable True)
  | .resume => inferInstanceAs (Decidable True)

end MotionEngine

namespace EngineAction

/-- The call that an action is. -/
def call? : EngineAction → Option EngineCall
  | call c => some c
  | _ => none

end EngineAction

end M2Cell
