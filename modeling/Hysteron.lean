import Hysteron.Safety.NilSafety
import Hysteron.Safety.SyncElection
import Hysteron.Safety.MasterChange
import Hysteron.Safety.Generations
import Hysteron.Safety.FailureDetection
import Hysteron.Safety.Timelines
import Hysteron.Safety.LostUpdates
import Hysteron.Safety.KubeSwap
import Hysteron.Safety.KeeperData
import Hysteron.Safety.SyncFence
import Hysteron.Safety.Reinitialize
import Hysteron.Safety.Pause
import Hysteron.Safety.ProxyHandover
import Hysteron.Safety.ProxyStaleness
import Hysteron.Safety.SyncReports
import Hysteron.Safety.SyncMinimum
import Hysteron.Safety.StandbyCluster
import Hysteron.Safety.MergedSpec
import Hysteron.Safety.CandidateOrder
import Hysteron.Safety.ProxyGeneration
import Hysteron.Safety.Followers
import Hysteron.Safety.SlotGrace
import Hysteron.Safety.StandbyCount
import Hysteron.Safety.SlotReconcile
import Hysteron.Safety.ParameterLimits
import Hysteron.Safety.ConfRoundTrip
import Hysteron.Safety.PrimaryConninfo
import Hysteron.Safety.PasswordFile
import Hysteron.Safety.ReadOnlyPools
import Hysteron.Safety.HbaRules
import Hysteron.Safety.LogSecrecy
import Hysteron.Safety.SlotOvertake
import Hysteron.Safety.SlotRetries
import Hysteron.Safety.RestoreCommand
import Hysteron.Safety.WalFiles
import Hysteron.Safety.Timings
import Hysteron.Safety.ConnRoundTrip
import Hysteron.Safety.SqlQuoting
import Hysteron.Safety.DestinationTable
import Hysteron.Safety.WalKeepSize
import Hysteron.Safety.HistoryFiles
import Hysteron.Safety.ManagedDirs
import Hysteron.Safety.Cooldown
import Hysteron.Safety.Versions
