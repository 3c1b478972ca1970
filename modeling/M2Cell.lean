import M2Cell.Lib.Word
import M2Cell.Lib.Run
import M2Cell.Lib.Latch
import M2Cell.Lib.Watch
import M2Cell.Lib.HighWater
import M2Cell.Lib.Json
import M2Cell.Lib.Keyed
import M2Cell.Lib.PartialWrite
import M2Cell.Lib.Framing
import M2Cell.Lib.ReadUntil
import M2Cell.Lib.Ledger
import M2Cell.Lib.Descriptors
import M2Cell.Lib.SharedStream
import M2Cell.Lib.StreamReader
import M2Cell.Lib.IndexedVector
import M2Cell.Lib.Strtol
import M2Cell.Lib.Getline
import M2Cell.Lib.Heap
import M2Cell.Lib.Rounding
import M2Cell.Lib.Ramp
import M2Cell.Lib.OnDelay
import M2Cell.Control.Defs
import M2Cell.FaultMgr.FaultStatusBits
import M2Cell.FaultMgr.BasicFaultMgr
import M2Cell.FaultMgr.FaultMgr
import M2Cell.Control.PowerSubsystemConfig
import M2Cell.Control.PowerSubsystem
import M2Cell.Control.Coupling
import M2Cell.State.System
import M2Cell.State.Model
import M2Cell.State.Globals
import M2Cell.Control.PowerSystem
import M2Cell.Control.Operations
import M2Cell.Control.Interleaving
import M2Cell.Control.PowerOnSteps
import M2Cell.Control.PowerEvents
import M2Cell.Control.DaqThread
import M2Cell.Control.MotionEngine
import M2Cell.State.SystemShutdown
import M2Cell.Control.NetCommand
import M2Cell.Control.NetCommandFactory
import M2Cell.Telemetry.TelemetryItem
import M2Cell.Telemetry.TelemetryMap
import M2Cell.Telemetry.TelemetryMapObject
import M2Cell.Telemetry.TItemVector
import M2Cell.Telemetry.TelemetryReader
import M2Cell.Telemetry.TelemetryCom
import M2Cell.Telemetry.HandlerThreads
import M2Cell.Server.ConnectionMap
import M2Cell.Server.ComServer
import M2Cell.Server.Welcome
import M2Cell.Server.Broadcast
import M2Cell.Server.OutgoingWrites
import M2Cell.Util.ThreadPool
import M2Cell.Util.ThreadLimit
import M2Cell.Util.CsvFile
import M2Cell.Util.NamedValue
import M2Cell.Proofs.PowerOn
import M2Cell.Proofs.FaultLatch
import M2Cell.Proofs.OutputPort
import M2Cell.Proofs.FaultSummary
import M2Cell.Proofs.MotorComm
import M2Cell.Proofs.StuckRelay
import M2Cell.Proofs.Health
import M2Cell.Proofs.ModelAgreement
import M2Cell.Proofs.SystemShutdown
import M2Cell.Proofs.CommandChannel
import M2Cell.Proofs.ClientNumbering
import M2Cell.Proofs.TelemetryMessage
import M2Cell.Proofs.TelemetryRoundTrip
import M2Cell.Proofs.ConnectionFault
import M2Cell.Proofs.ConnectionCount
import M2Cell.Proofs.AcceptLoop
import M2Cell.Proofs.TelemetrySockets
import M2Cell.Proofs.TelemetryFraming
import M2Cell.Proofs.SequenceId
import M2Cell.Proofs.TelemetryUpdate
import M2Cell.Proofs.CompareItem
import M2Cell.Proofs.PowerOnCompletes
import M2Cell.Proofs.SettlingTime
import M2Cell.Proofs.ResetPulse
import M2Cell.Proofs.BroadcastLock
import M2Cell.Proofs.OutgoingMessages
import M2Cell.Proofs.ThreadPool
import M2Cell.Proofs.HandlerCleanup
import M2Cell.Proofs.MotionEngine
import M2Cell.Proofs.EngineLifecycle
import M2Cell.Proofs.CsvFile
import M2Cell.Proofs.TelemetryMapObject
import M2Cell.Proofs.ThreadLimit
import M2Cell.Proofs.PhaseInvariant
import M2Cell.Proofs.TItemVector
import M2Cell.Proofs.NamedValue
import M2Cell.Simulator.SimPowerSubsystem
import M2Cell.Simulator.SimCore
import M2Cell.Proofs.SimVoltage
import M2Cell.Proofs.SimBreakers
import M2Cell.Control.ClosedLoop
import M2Cell.Control.FaultsSet
import M2Cell.Proofs.ClosedLoopFaults
import M2Cell.Proofs.ClosedLoopPowerOff
import M2Cell.Proofs.SimPowerUp
import M2Cell.Proofs.PowerUpReads
import M2Cell.Proofs.ClosedLoopPowerOn
import M2Cell.Client.ComClient
import M2Cell.Proofs.ComClient
import M2Cell.Server.CommandServer
import M2Cell.Client.CommandSession
import M2Cell.Proofs.CommandServer
import M2Cell.Proofs.CommandStages
import M2Cell.Proofs.CommandSession
import M2Cell.Lib.LockOrder
import M2Cell.Control.Mutexes
import M2Cell.Proofs.Mutexes
