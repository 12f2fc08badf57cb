import PycloudParallel.JobQueueSingleActiveJob
import PycloudParallel.NodeWorkerSlots
import PycloudParallel.NodeStopFinality
import PycloudParallel.NodeServiceNames
import PycloudParallel.ManagedGlobalsSurvival
import PycloudParallel.ExecutorClientRequests
import PycloudParallel.CodeCreatesKept
import PycloudParallel.ResourceSignalDelivery
import PycloudParallel.ResultPullRuns
import PycloudParallel.RegistrarRecovery
import PycloudParallel.RegistrarInventory
import PycloudParallel.ServiceStreamEnds
import PycloudParallel.LocalRegistryTruth
import PycloudParallel.ObjectStoreRuns
import PycloudParallel.CallFailoverFinality
import PycloudParallel.TaskPayloadLanes
import PycloudParallel.ServiceCallsHealth
import PycloudParallel.ObjectDownloadsWhole
import PycloudParallel.NodeReportsListed
import PycloudParallel.DataPinsFollow
import PycloudParallel.TaskPoolDrainRounds
import PycloudParallel.TransportRestricted
import PycloudParallel.TransportRelocations
import PycloudParallel.HttpPoolSoundness
import PycloudParallel.WorkerGlobals
import PycloudParallel.JobQueueProgress
import PycloudParallel.RouteProbesHeld
import PycloudParallel.RouteReservationsExact
import PycloudParallel.ReplicaHeartbeatsFinal
import PycloudParallel.JobQueueRefsOutlive
import PycloudParallel.StartupGlobalsMount
import PycloudParallel.StartupSlotsExact
import PycloudParallel.HttpAdmissionExact
import PycloudParallel.AsyncCallsExact
import PycloudParallel.PackagingRuns
import PycloudParallel.PoolSubmissionsFind
import PycloudParallel.TaskNodesExact
import PycloudParallel.TaskPoolImapWindow
import PycloudParallel.SchedulerDominance
import PycloudParallel.SegmentGcCompacted
import PycloudParallel.ItemCallsExact
import PycloudParallel.CandidateFailoverRoutes
import PycloudParallel.AdminTokensWindow
import PycloudParallel.NodeTableDiagnosis
import PycloudParallel.NodeTableEndpoints
import PycloudParallel.NodeTableStartup
import PycloudParallel.TaskPoolInflight
