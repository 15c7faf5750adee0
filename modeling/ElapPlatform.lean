import ElapPlatform.PlatformBasics
import ElapPlatform.UnixSocketTransfer
import ElapPlatform.SelfDelimitingCode
import ElapPlatform.UnixSocketConnection
import ElapPlatform.UnixSocketMessageRuns
import ElapPlatform.UnixSocketFramingRuns
import ElapPlatform.UnixSocketRoundTrip
import ElapPlatform.InteractionProgram
import ElapPlatform.SqliteEngine
import ElapPlatform.TransitionRun
import ElapPlatform.DatabaseStatements
import ElapPlatform.PersistentStoreOperations
import ElapPlatform.PersistentStoreWrites
import ElapPlatform.PersistentStoreMapRefinement
import ElapPlatform.PersistentStoreInterleaving
import ElapPlatform.PersistentStoreSerialization
import ElapPlatform.ThreadManagerConservation
import ElapPlatform.ThreadManagerDestruction
import ElapPlatform.ThreadManagerStopRequests
import ElapPlatform.SystemNamespace
import ElapPlatform.SystemNamespaceOwnership
import ElapPlatform.SharedMemoryRegion
import ElapPlatform.PosixMessageQueue
import ElapPlatform.NamedObjectRuns
import ElapPlatform.NamedObjectOwnership
import ElapPlatform.UnixSocketKernel
import ElapPlatform.UnixSocketServer
import ElapPlatform.UnixSocketServerRuns
import ElapPlatform.PartialMapUpdate
import ElapPlatform.UnixSocketPathOwnership
import ElapPlatform.RelyGuaranteeCalls
import ElapPlatform.UnixSocketInterleaving
import ElapPlatform.UnixSocketListenContract
import ElapPlatform.UnixSocketSafeCalls
import ElapPlatform.UnixSocketListenRaces
import ElapPlatform.ConfigurationFileText
import ElapPlatform.ConfigurationBackends
import ElapPlatform.ConfigurationEquivalence
import ElapPlatform.PersistentStoreKeyIdentity
import ElapPlatform.StringValueRoundTrip
import ElapPlatform.EventBusModel
import ElapPlatform.EventBusDelivery
import ElapPlatform.ServiceApplicationModel
import ElapPlatform.InteractionTranscript
import ElapPlatform.ServiceLifecycle
import ElapPlatform.ServiceLifecycleRuns
import ElapPlatform.MappedMemory
import ElapPlatform.SharedMemoryTranscripts
import ElapPlatform.SharedMemoryContents
import ElapPlatform.SharedMemoryBoundedArray
import ElapPlatform.ExclusiveHolders
import ElapPlatform.ResourceLedger
import ElapPlatform.NamedObjectMoves
import ElapPlatform.NamedObjectLinearity
import ElapPlatform.DeviceImplementations
import ElapPlatform.DeviceManagerModel
import ElapPlatform.DeviceLifecycle
import ElapPlatform.ConfigurationGrammar
import ElapPlatform.ServiceConfigurationRoutes
import ElapPlatform.DeviceDelivery
import ElapPlatform.UnixSocketTranscripts
import ElapPlatform.UnixSocketGuardedUnlinks
import ElapPlatform.UnixSocketEviction
import ElapPlatform.UnixSocketStreamCalls
import ElapPlatform.UnixSocketSendBuffer
import ElapPlatform.UnixSocketDeadlines
import ElapPlatform.UnixSocketAcceptTimeout
import ElapPlatform.UnixSocketFrameDecoding
import ElapPlatform.UnixSocketTimedAgreement
import ElapPlatform.UnixSocketStreamRefinement
import ElapPlatform.EventBusCodec
import ElapPlatform.InteractionPostcondition
import ElapPlatform.NamedObjectAcquisition
import ElapPlatform.UnixSocketPartialMessages
import ElapPlatform.InteractionRecording
import ElapPlatform.DeviceManagerTraces
import ElapPlatform.GrantLedger
import ElapPlatform.FileDeviceDescriptors
import ElapPlatform.HealthMonitorModel
import ElapPlatform.CpuStatLine
import ElapPlatform.MemInfoAlignment
import ElapPlatform.GpioSysfsExports
import ElapPlatform.GpioExportOwnership
import ElapPlatform.GpioExportMarks
import ElapPlatform.GpioExportRuns
import ElapPlatform.CheckedArithmetic
import ElapPlatform.MessageQueueDeadlines
import ElapPlatform.CallTranscripts
import ElapPlatform.KeyedTable
import ElapPlatform.HealthMonitorServices
import ElapPlatform.ConfigurationIntegers
import ElapPlatform.FileDeviceWrites
import ElapPlatform.DatabaseQueryCalls
import ElapPlatform.DatabaseQueryAgreement
import ElapPlatform.InteractionInterpretation
import ElapPlatform.StorageConfigService
import ElapPlatform.StorageConfigServiceStart
import ElapPlatform.ParallelPrograms
import ElapPlatform.SampleIpcPrograms
import ElapPlatform.UnixSocketMovedBytes
import ElapPlatform.SampleIpcLimits
import ElapPlatform.UnixSocketDescriptors
import ElapPlatform.DatabaseHandleLinearity
import ElapPlatform.MutexAtomicity
import ElapPlatform.LogTimestamps
import ElapPlatform.ConsoleLogger
import ElapPlatform.ConsoleLoggerLines
import ElapPlatform.PersistentStoreFiles
import ElapPlatform.PersistentStoreReopening
import ElapPlatform.ConfigurationEntries
import ElapPlatform.ConfigurationEntryRuns
import ElapPlatform.InteractionCommentary
import ElapPlatform.ServiceApplicationLog
import ElapPlatform.ServiceRunReports
import ElapPlatform.SampleIpcListener
import ElapPlatform.SampleServiceModel
import ElapPlatform.SampleServiceRuns
import ElapPlatform.MessageQueuePriorities
