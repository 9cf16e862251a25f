import AdvanceUnix.Transition
import AdvanceUnix.RingWindow
import AdvanceUnix.BoundedQueue
import AdvanceUnix.BoundedQueueInvariant
import AdvanceUnix.BoundedQueueWakeup
import AdvanceUnix.CallTree
import AdvanceUnix.Termination
import AdvanceUnix.SystemCalls
import AdvanceUnix.DescriptorReceive
import AdvanceUnix.DescriptorAccounting
import AdvanceUnix.Channel
import AdvanceUnix.TransferLoop
import AdvanceUnix.PipeTransfer
import AdvanceUnix.ScatterGather
import AdvanceUnix.ScatterGatherOrder
import AdvanceUnix.ScatteredStore
import AdvanceUnix.ScatterGatherRoundTrip
import AdvanceUnix.LittleEndian
import AdvanceUnix.InotifyParser
import AdvanceUnix.InotifyGrammar
import AdvanceUnix.FilesystemEvents
import AdvanceUnix.InotifyNames
import AdvanceUnix.FilesystemEventsObserved
import AdvanceUnix.AioRead
import AdvanceUnix.AioLifecycle
import AdvanceUnix.AioCancelReap
import AdvanceUnix.ChildProcess
import AdvanceUnix.ChildOwnership
import AdvanceUnix.SharedMemory
import AdvanceUnix.DescriptorSend
import AdvanceUnix.NamedFifo
import AdvanceUnix.SysvQueue
import AdvanceUnix.OwnedSignals
import AdvanceUnix.Processes
import AdvanceUnix.PipeTransferRefinement
import AdvanceUnix.PortableSignals
import AdvanceUnix.SignalDelivery
import AdvanceUnix.SignalContract
import AdvanceUnix.SignalProtocol
import AdvanceUnix.DescriptorHandover
import AdvanceUnix.HandoverContract
import AdvanceUnix.HandoverProtocol
import AdvanceUnix.HandoverOutcome
import AdvanceUnix.Delimited
import AdvanceUnix.AttributeList
import AdvanceUnix.MaximalRuns
import AdvanceUnix.SparseFiles
import AdvanceUnix.ExtentVerdict
import AdvanceUnix.ProcessControl
import AdvanceUnix.DescriptorTable
import AdvanceUnix.SpawnRedirection
import AdvanceUnix.CaptureVerdict
import AdvanceUnix.CaptureWait
import AdvanceUnix.FifoHandover
import AdvanceUnix.FifoProtocol
import AdvanceUnix.FifoOutcome
import AdvanceUnix.SessionReport
import AdvanceUnix.SessionHandover
import AdvanceUnix.SessionProtocol
import AdvanceUnix.SessionOutcome
import AdvanceUnix.Ledger
import AdvanceUnix.Resources
import AdvanceUnix.Filesystem
import AdvanceUnix.ResourceRelease
import AdvanceUnix.MappingRelease
import AdvanceUnix.ReleaseOutcome
import AdvanceUnix.SavedSetting
import AdvanceUnix.ResourceLimits
import AdvanceUnix.Terminal
import AdvanceUnix.FileMetadata
import AdvanceUnix.SettingRestoration
import AdvanceUnix.SignalRestoration
import AdvanceUnix.SettingOutcome
import AdvanceUnix.ThreadData
import AdvanceUnix.ThreadDataSteps
import AdvanceUnix.ThreadDataInvariant
import AdvanceUnix.ThreadDataOutcome
import AdvanceUnix.FullTransfer
import AdvanceUnix.FullTransferAgreement
import AdvanceUnix.FullTransferRefinement
import AdvanceUnix.FifoReadiness
import AdvanceUnix.EventLoop
import AdvanceUnix.EventLoopSteps
import AdvanceUnix.EventLoopInvariant
import AdvanceUnix.EventLoopOutcome
import AdvanceUnix.ZeroCopy
import AdvanceUnix.ZeroCopyInvariant
import AdvanceUnix.ZeroCopyOutcome
import AdvanceUnix.CallIdioms
import AdvanceUnix.SysvHandover
import AdvanceUnix.SysvProtocol
import AdvanceUnix.SysvOutcome
import AdvanceUnix.RecordLocks
import AdvanceUnix.FileLocking
import AdvanceUnix.FileLockingOutcome
import AdvanceUnix.MessageQueue
import AdvanceUnix.MessageQueueOutcome
import AdvanceUnix.PositionedIo
import AdvanceUnix.FileIoMain
import AdvanceUnix.FileIoOutcome
import AdvanceUnix.MemfdSeals
import AdvanceUnix.MemfdSealsOutcome
import AdvanceUnix.TcpLoopback
import AdvanceUnix.TcpConnection
import AdvanceUnix.TcpLoopbackOutcome
import AdvanceUnix.SharedHandover
import AdvanceUnix.SharedProtocol
import AdvanceUnix.SharedOutcome
import AdvanceUnix.FilledStreams
import AdvanceUnix.TransferRules
import AdvanceUnix.TerminalDiscipline
import AdvanceUnix.TerminalOutcome
import AdvanceUnix.StagedQueue
import AdvanceUnix.StdioBuffering
import AdvanceUnix.StdioOutcome
import AdvanceUnix.Audit
import AdvanceUnix.SignalDescriptor
import AdvanceUnix.SignalDescriptorOutcome
import AdvanceUnix.PidDescriptor
import AdvanceUnix.PidDescriptorOutcome
import AdvanceUnix.CpuAffinity
import AdvanceUnix.CpuAffinityOutcome
import AdvanceUnix.MemoryMapping
import AdvanceUnix.MemoryMappingOutcome
import AdvanceUnix.AttributeRoundTrip
import AdvanceUnix.AttributeOutcome
