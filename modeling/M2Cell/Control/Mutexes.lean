import M2Cell.Control.Defs
import M2Cell.Lib.LockOrder

/-!
# The mutexes of the power control

The functions that take the mutexes of `Globals`, `Model`, `PowerSubsystem`, `FpgaIo`,
`SimCore`, `FaultMgr`, `FaultStatusBits`, `NetCommandFactory` and `ComServer`, as far as
these mutexes go.  A branch of a function is a choice when something is locked in it.
`VMUTEX_HELD` and `VMUTEX_NOT_HELD` are the checks of a `VMutex`; those that are a
`std::mutex` have no checks, and nothing reads who holds them.

The loop of `asyncWriteToAllComConn` holds `_mapMtx` and makes an owner of each
connection.  When that owner is the last one, its end runs `~ComConnection`, which shuts
the connection down while the mutex is held.  `drops` says whether loops may drop last
owners; what depends on it takes it as an argument.

The sections follow the classes, what is called before what calls it: the simulator and
the `FpgaIo`, a subsystem, the model, the fault manager, the connections and the server,
the power system, the commands.  `entries` lists what the threads call, and `Calls` is
one thread's calls of it, in any number and order.
-/

namespace M2Cell

inductive Mutex
  | tcpIpConnectedMtx
  | hardPointListMtx
  | temperatureOffsetsRingMtx
  | temperatureOffsetsIntakeMtx
  | temperatureOffsetsExhaustMtx
  /-- `Model::_mtx`. -/
  | modelMtx
  | powerStateMtx (ty : PowerSystemType)
  | portMtx
  /-- `SimCore::_mtx`. -/
  | simMtx
  | powerFaultMtx
  | telemetryFaultMtx
  | summarySystemFaultsMtx
  | faultMaskCreationMtx
  /-- `NetCommandFactory::_mtx`. -/
  | factoryMtx
  | mapMtx
  deriving DecidableEq, Repr

namespace Mutex

/-- The code of a function. -/
abbrev Code := LockCode Mutex

/-! ## `SimCore` and `FpgaIo` -/

/-- A pass of the loop of `_simRun`. -/
def simRun : Code := .block [.guarded .simMtx .skip, .guarded .simMtx .skip]

def setNewOutputPort : Code := .guarded .simMtx .skip

/-- `SimCore::getSysInfo`. -/
def simSysInfo : Code := .guarded .simMtx .skip

def writeOutputPortBitPos : Code := .block [.checkNotHeld .portMtx, .guarded .portMtx .skip]

def getSysInfo : Code := .block [.checkNotHeld .portMtx, .guarded .portMtx .skip]

def emergencyTurnOffAllPower : Code :=
  .block [.checkNotHeld .portMtx, writeOutputPortBitPos, writeOutputPortBitPos]

/-- A pass of the loop of `_readWriteFpga`. -/
def readWriteFpga : Code :=
  .block [.maybe emergencyTurnOffAllPower,
    .guarded .portMtx (.block [setNewOutputPort, simSysInfo])]

/-! ## `PowerSubsystem` -/

/-- `FaultMgr::checkForPowerSubsystemFaults`. -/
def checkForPowerSubsystemFaults : Code := .guarded .powerFaultMtx .skip

section subsystem

variable (ty : PowerSystemType)

def getActualPowerState : Code :=
  .block [.checkNotHeld (.powerStateMtx ty), .guarded (.powerStateMtx ty) .skip]

def getTargPowerState : Code :=
  .block [.checkNotHeld (.powerStateMtx ty), .guarded (.powerStateMtx ty) .skip]

def checkForFaults : Code := checkForPowerSubsystemFaults

/-- `_setPowerOff`. -/
def setPowerOffHeld : Code :=
  .block [.checkHeld (.powerStateMtx ty), writeOutputPortBitPos, writeOutputPortBitPos]

/-- `_setPowerOn`. -/
def setPowerOnHeld : Code :=
  .block [.checkHeld (.powerStateMtx ty), checkForFaults,
    .choice (setPowerOffHeld ty) (.block [writeOutputPortBitPos, writeOutputPortBitPos])]

def setPowerOn : Code :=
  .block [.checkNotHeld (.powerStateMtx ty), .guarded (.powerStateMtx ty) (setPowerOnHeld ty)]

def setPowerOff : Code :=
  .block [.checkNotHeld (.powerStateMtx ty), .guarded (.powerStateMtx ty) (setPowerOffHeld ty)]

def updateFaults : Code := setPowerOffHeld ty

def checkForPowerOnBreakerFault : Code :=
  .choice (.maybe (setPowerOffHeld ty)) (updateFaults ty)

def processPowerOn : Code :=
  .block [.checkHeld (.powerStateMtx ty),
    -- the voltage or the current is too high, or what the state does
    .choice (setPowerOffHeld ty) <|
    -- on
    .choice (.choice (setPowerOffHeld ty)
      (.block [checkForPowerOnBreakerFault ty, .maybe (setPowerOffHeld ty)])) <|
    -- turning on
    .choice (.choice (setPowerOffHeld ty) (.choice (updateFaults ty)
      (.maybe writeOutputPortBitPos))) <|
    -- reset
    .choice (.choice (.block [writeOutputPortBitPos, setPowerOffHeld ty])
      (.choice (updateFaults ty)
        (.maybe (.block [writeOutputPortBitPos, .maybe (checkForPowerOnBreakerFault ty)]))))
    -- no such state
    (setPowerOffHeld ty)]

def processPowerOff : Code :=
  .block [.checkHeld (.powerStateMtx ty),
    .choice (setPowerOffHeld ty) <|
    .block [.maybe (setPowerOffHeld ty), .maybe (setPowerOffHeld ty)]]

def getPowerSystemStateJson : Code :=
  .block [.checkNotHeld (.powerStateMtx ty),
    .guarded (.powerStateMtx ty) (.checkHeld (.powerStateMtx ty))]

end subsystem

/-! ## `Model` and the states -/

/-- `_turnOffAll`. -/
def turnOffAll : Code :=
  .block [.checkHeld .modelMtx, .maybe (.block [setPowerOff .motor, setPowerOff .comm])]

/-- `StateMap::changeState`: some states turn all power off when they are entered. -/
def changeStateHeld : Code := .maybe turnOffAll

def getCurrentState : Code := .guarded .modelMtx .skip

def getState : Code := .guarded .modelMtx .skip

def changeState : Code := .guarded .modelMtx changeStateHeld

def ctrlSetup : Code := .guarded .modelMtx .skip

def ctrlStart : Code := .guarded .modelMtx changeStateHeld

/-- `_goToSafeMode`. -/
def goToSafeModeHeld : Code := .block [.checkHeld .modelMtx, turnOffAll, changeStateHeld]

def goToSafeMode : Code :=
  .block [.checkNotHeld .modelMtx, .guarded .modelMtx goToSafeModeHeld]

/-- `systemShutdown`, and what it does before it stops the loops. -/
def systemShutdown : Code :=
  .block [.checkNotHeld .modelMtx, getState, changeState, .guarded .modelMtx turnOffAll]

/-! ## `FaultMgr` -/

def getMaskOpenLoopControl : Code := .maybe (.guarded .faultMaskCreationMtx .skip)

def getMaskTelemetryOnlyControl : Code :=
  .maybe (.block [getMaskOpenLoopControl, .guarded .faultMaskCreationMtx .skip])

def getMaskFaults : Code :=
  .maybe (.block [getMaskTelemetryOnlyControl, .guarded .faultMaskCreationMtx .skip])

/-- `BasicFaultMgr::BasicFaultMgr`. -/
def basicFaultMgr : Code := .block [getMaskFaults, getMaskFaults]

def resetFaults : Code :=
  .block [basicFaultMgr, .guarded .powerFaultMtx .skip, .guarded .telemetryFaultMtx .skip,
    .guarded .summarySystemFaultsMtx .skip]

def reportComConnectionCount : Code :=
  .choice (.block [.guarded .summarySystemFaultsMtx .skip, goToSafeMode]) resetFaults

def reportMotionEngineTimeout : Code := .guarded .summarySystemFaultsMtx .skip

def updatePowerFaults : Code :=
  .block [basicFaultMgr, .guarded .powerFaultMtx .skip,
    .maybe (.block [.maybe goToSafeMode, basicFaultMgr, .guarded .summarySystemFaultsMtx .skip])]

def enableFaultsInMask : Code :=
  .block [.guarded .summarySystemFaultsMtx .skip, .guarded .powerFaultMtx .skip,
    .guarded .telemetryFaultMtx .skip]

/-! ## `ComConnection` -/

def setTcpIpConnected : Code :=
  .guarded .tcpIpConnectedMtx (.maybe (.block [getState, changeState]))

def getTcpIpConnected : Code := .guarded .tcpIpConnectedMtx .skip

/-- `_sendWelcomeMsg`, with the getters of `Globals` that lock. -/
def sendWelcomeMsg : Code :=
  .maybe (.block [getTcpIpConnected, .guarded .hardPointListMtx .skip,
    .guarded .temperatureOffsetsRingMtx .skip, .guarded .temperatureOffsetsIntakeMtx .skip,
    .guarded .temperatureOffsetsExhaustMtx .skip])

def beginProtocol : Code := .block [setTcpIpConnected, sendWelcomeMsg]

def handleAccept : Code :=
  .block [.guarded .mapMtx .skip, reportComConnectionCount, .maybe beginProtocol]

def eraseConnection : Code := .block [.guarded .mapMtx .skip, .maybe reportComConnectionCount]

/-- `ComConnection::shutdown`. -/
def shutdownConn : Code := .maybe (.block [.maybe setTcpIpConnected, .maybe eraseConnection])

/-! ## `ComServer` -/

def connectionCount : Code := .guarded .mapMtx .skip

/-- `ComServer::shutdown`, up to the shutdown of each connection. -/
def copyConnections : Code := .guarded .mapMtx .skip

/-- A pass of the loop that drops the last owner of a connection shuts it down. -/
def asyncWriteToAllComConn (drops : Bool) : Code :=
  .guarded .mapMtx (.loop (if drops then .maybe shutdownConn else .skip))

/-! ## Reports of the power state -/

def reportPowerSystemStateChange (drops : Bool) : Code :=
  .block [.checkNotHeld .modelMtx,
    .guarded .modelMtx (.block [getTargPowerState .comm, getTargPowerState .motor,
      getActualPowerState .comm, getActualPowerState .motor,
      .maybe (.choice turnOffAll changeStateHeld)]),
    .maybe (asyncWriteToAllComConn drops)]

/-! ## `PowerSystem` -/

section powerSystem

variable (drops : Bool)

def reportStateChange : Code := .maybe (reportPowerSystemStateChange drops)

/-- `PowerSubsystem::processDaq`. -/
def processDaqOf (ty : PowerSystemType) : Code :=
  .block [.checkNotHeld (.powerStateMtx ty), checkForFaults, .maybe (setPowerOff ty),
    .maybe (reportStateChange drops),
    .guarded (.powerStateMtx ty) (.choice (processPowerOn ty)
      (.block [.maybe (setPowerOffHeld ty), processPowerOff ty]))]

/-- `PowerSystem::_processDaq`. -/
def processDaq : Code :=
  .block [.maybe updatePowerFaults, .maybe (setPowerOff .motor), processDaqOf drops .motor,
    processDaqOf drops .comm, updatePowerFaults]

def checkTimeout : Code :=
  .maybe (.block [setPowerOff .motor, setPowerOff .comm, updatePowerFaults])

def daqInfoRead : Code := .block [getSysInfo, checkTimeout, processDaq drops]

def daqTimeoutCheck : Code :=
  .block [checkTimeout, .maybe (.block [getSysInfo, processDaq drops])]

end powerSystem

def writeCrioInterlockEnable : Code := writeOutputPortBitPos

def powerMotor : Code :=
  .block [.maybe (getActualPowerState .comm),
    .maybe (.choice (setPowerOn .motor) (setPowerOff .motor))]

def powerComm : Code :=
  .block [getActualPowerState .motor, .maybe (setPowerOff .motor),
    .choice (setPowerOn .comm) (setPowerOff .comm)]

/-- `PowerSystem::~PowerSystem`. -/
def destroyPowerSystem : Code := .block [setPowerOff .motor, setPowerOff .comm]

/-! ## The commands -/

def cmdPowerBase : Code := .maybe (.choice powerMotor powerComm)

/-- `getCommandFor`, in `interpretCommand`. -/
def interpretCommand : Code := .guarded .factoryMtx .skip

/-- `NCmdPower::action`. -/
def actionPower (drops : Bool) (ty : PowerSystemType) : Code :=
  .block [getCurrentState, .maybe cmdPowerBase, getPowerSystemStateJson ty,
    .maybe (asyncWriteToAllComConn drops)]

/-- `NCmdSwitchCommandSource::action`. -/
def actionSwitchCommandSource (drops : Bool) : Code := .maybe (asyncWriteToAllComConn drops)

/-! ## The threads -/

/-- What the threads call: those of `FpgaIo`, `SimCore`, `PowerSystem`, `MotionEngine` and
`ComServer`, the commands, and what ends the program.  `ComServer::shutdown` is two of
them, the copying of the map and the shutdown of one connection. -/
def entries (drops : Bool) : List Code :=
  [readWriteFpga, simRun, daqInfoRead drops, daqTimeoutCheck drops, reportMotionEngineTimeout,
    handleAccept, shutdownConn, connectionCount, copyConnections, interpretCommand,
    actionPower drops .motor, actionPower drops .comm, actionSwitchCommandSource drops,
    systemShutdown, writeCrioInterlockEnable, enableFaultsInMask, destroyPowerSystem, ctrlSetup,
    ctrlStart]

/-- The calls of a thread. -/
structure Calls (drops : Bool) where
  todo : List (LockOp Mutex)
  calls : LockCalls (fun code : Code => code ∈ entries drops) todo

/-- The threads of the program, each with its calls. -/
def startCalls {T : Type*} {drops : Bool} (threads : T → Calls drops) : LockState Mutex T :=
  .start fun t => (threads t).todo

end Mutex

end M2Cell
