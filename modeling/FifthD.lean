import FifthD.Library.Machine
import FifthD.Library.FreeList
import FifthD.Source.ErrorHandler
import FifthD.Source.ManagedBuffer
import FifthD.Guarantees.SlotPool
import FifthD.Library.Framing
import FifthD.Source.IpcMsg
import FifthD.Source.SoftwareBus
import FifthD.Guarantees.BusStep
import FifthD.Guarantees.BusRouting
import FifthD.Guarantees.BusForward
import FifthD.Guarantees.BusSlots
import FifthD.Source.Transmitter
import FifthD.Guarantees.TransmitterFraming
import FifthD.Guarantees.ClientRoundTrip
import FifthD.Library.Table
import FifthD.Source.KeysDb
import FifthD.Spec.KeyMap
import FifthD.Guarantees.KeyStore
import FifthD.Library.Interaction
import FifthD.Library.Transaction
import FifthD.Source.Module
import FifthD.Guarantees.ProvisioningStep
import FifthD.Guarantees.Provisioning
import FifthD.Guarantees.StoredIdentity
import FifthD.Guarantees.ConcurrentStart
import FifthD.Guarantees.KeyHistory
import FifthD.Guarantees.KeyIsolation
import FifthD.Guarantees.KeyReprovision
import FifthD.Guarantees.KeyLoading
import FifthD.Guarantees.ProvisioningTruth
import FifthD.Guarantees.BusStale
import FifthD.Guarantees.BusBounds
import FifthD.Guarantees.ProcessTable
import FifthD.Source.ThreadPool
import FifthD.Guarantees.PoolWakeups
import FifthD.Guarantees.PoolTasks
import FifthD.Library.Recency
import FifthD.Source.LruCache
import FifthD.Guarantees.CacheStep
import FifthD.Guarantees.CacheRecency
import FifthD.Guarantees.PoolSteps
import FifthD.Guarantees.CacheInclusion
import FifthD.Guarantees.CacheSafety
import FifthD.Guarantees.BusReceive
import FifthD.Guarantees.TransmitterChunks
import FifthD.Guarantees.TransmitterIdentity
import FifthD.Source.Schema
import FifthD.Guarantees.StatementLeaks
import FifthD.Guarantees.SchemaCheck
import FifthD.Source.Database
import FifthD.Guarantees.DatabaseReopen
import FifthD.Guarantees.SlotHolders
import FifthD.Source.Senders
import FifthD.Guarantees.TransmitterSenders
import FifthD.Guarantees.SenderAlone
import FifthD.Source.NetHelpers
import FifthD.Library.UpwardSearch
import FifthD.Guarantees.PortDiscovery
import FifthD.Library.Potential
import FifthD.Guarantees.BusTrace
import FifthD.Guarantees.BusLifetime
import FifthD.Guarantees.BusMemory
import FifthD.Source.Receiver
import FifthD.Guarantees.BusLoop
import FifthD.Guarantees.ClientDelivery
import FifthD.Library.Record
import FifthD.Source.PeerModule
import FifthD.Guarantees.MessageFormat
import FifthD.Guarantees.PeerTraffic
import FifthD.Guarantees.PoolLiveness
import FifthD.Library.Crash
import FifthD.Guarantees.KilledStarts
import FifthD.Source.Processes
import FifthD.Guarantees.NodeStart
import FifthD.Source.KeyMemory
import FifthD.Guarantees.KeyMemorySafety
import FifthD.Guarantees.NodeMemory
import FifthD.Guarantees.NodeTrust
import FifthD.Guarantees.SlotCanaries
import FifthD.Source.DatabaseFile
import FifthD.Guarantees.DatabaseSetup
import FifthD.Guarantees.ProcessPids
import FifthD.Library.Traces
import FifthD.Library.Mutex
import FifthD.Library.MutexTraces
import FifthD.Library.MutexProgress
import FifthD.Source.PoolAccess
import FifthD.Guarantees.LockedPool
import FifthD.Source.CacheAccess
import FifthD.Guarantees.LockedCache
import FifthD.Source.Allocator
import FifthD.Guarantees.ThreadStarts
