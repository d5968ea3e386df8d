import PowerMaxCsi.Service.DegradedDelete
import PowerMaxCsi.Service.DeletionSafety
import PowerMaxCsi.Service.DeviceCleanup
import PowerMaxCsi.Service.DeviceMounts
import PowerMaxCsi.Service.GroupSnapshots
import PowerMaxCsi.Service.HostConnectivity
import PowerMaxCsi.Service.HostSessions
import PowerMaxCsi.Service.IdentifierLength
import PowerMaxCsi.Service.LegsDeleted
import PowerMaxCsi.Service.LockManager
import PowerMaxCsi.Service.MetroSetupSafety
import PowerMaxCsi.Service.NodeCache
import PowerMaxCsi.Service.NodeInitiators
import PowerMaxCsi.Service.NodeTargets
import PowerMaxCsi.Service.ProtectedNames
import PowerMaxCsi.Service.ProtectionGroups
import PowerMaxCsi.Service.ReplicationActions
import PowerMaxCsi.Service.RequestsAnswered
import PowerMaxCsi.Service.ReusedVolume
import PowerMaxCsi.Service.SnapCleanup
import PowerMaxCsi.Service.SnapLocks
import PowerMaxCsi.Service.SnapSessions
import PowerMaxCsi.Service.TopologyRules
import PowerMaxCsi.Service.UnpublishSafety
import PowerMaxCsi.Service.WorkerRuns
import PowerMaxCsi.Migration.PairIsolation
import PowerMaxCsi.Capacity.Failover
import PowerMaxCsi.Capacity.LeastLoaded
import PowerMaxCsi.Journal.AdmissionSafety
import PowerMaxCsi.Journal.QueueAdmission
import PowerMaxCsi.Journal.ReplayPasses
import PowerMaxCsi.Metro.ArbitrationPriority
import PowerMaxCsi.Metro.FailureWindow
import PowerMaxCsi.Metro.LeaseSafety
import PowerMaxCsi.Metro.SharedVerdict
import PowerMaxCsi.Addons.Confirmation
import PowerMaxCsi.Addons.GroupNames
import PowerMaxCsi.Addons.Listing
import PowerMaxCsi.Addons.Membership
import PowerMaxCsi.Addons.StaleState
import PowerMaxCsi.Proxy.CredentialUpdates
import PowerMaxCsi.Proxy.Envoys
import PowerMaxCsi.Proxy.LockOrder
import PowerMaxCsi.Proxy.PathAuthorization
import PowerMaxCsi.Proxy.ProxyHealth
import PowerMaxCsi.Proxy.TimedCache
