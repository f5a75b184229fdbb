import GateRust.Lib.Machine
import GateRust.Lib.Notify
import GateRust.Lib.Pipe
import GateRust.Lib.CrashDisk
import GateRust.Lib.HashMap
import GateRust.Lib.MapSums
import GateRust.Lib.FramedLink
import GateRust.Lib.Serde
import GateRust.Lib.History
import GateRust.Lib.Results
import GateRust.Lib.Watch
import GateRust.Lib.SymbolicMac
import GateRust.Lib.UnixPath
import GateRust.Lib.Unordered
import GateRust.Lib.Utf8
import GateRust.Lib.SplitOnce
import GateRust.Lib.Delimited
import GateRust.Lib.ByteStream
import GateRust.Lib.Json
import GateRust.Lib.KeyedList
import GateRust.Lib.VirtualSchedule
import GateRust.Lib.SortedSearch
import GateRust.Lib.HeaderMap
import GateRust.Tunnel.Config
import GateRust.Tunnel.Protocol
import GateRust.Tunnel.ControlStream
import GateRust.Tunnel.UdpRelay
import GateRust.Tunnel.Runtime
import GateRust.Tunnel.RuntimeInvariant
import GateRust.Tunnel.Authentication
import GateRust.Tunnel.Ownership
import GateRust.Tunnel.ServerSession
import GateRust.Tunnel.Client
import GateRust.Tunnel.ClientWatcher
import GateRust.Tunnel.ClientServices
import GateRust.Tunnel.ClientUpdates
import GateRust.Tunnel.DataStreams
import GateRust.Tunnel.Addresses
import GateRust.Tunnel.TunnelSelection
import GateRust.Tunnel.SelectedServices
import GateRust.Tunnel.AddressTexts
import GateRust.Tunnel.Admission
import GateRust.Tunnel.Socks5
import GateRust.Tunnel.ServerNames
import GateRust.Tunnel.ManagedClient
import GateRust.Tunnel.AdministratorDisconnect
import GateRust.Tunnel.ServerConfig
import GateRust.Tunnel.ResourceBudget
import GateRust.Tunnel.UdpSessions
import GateRust.Tunnel.UdpAccounting
import GateRust.Tunnel.BindSockets
import GateRust.Tunnel.Listeners
import GateRust.Tunnel.ListenersInvariant
import GateRust.Tunnel.ListenerReload
import GateRust.Tunnel.ListenerEnds
import GateRust.Tunnel.ConnectionLimit
import GateRust.Tunnel.ServerReload
import GateRust.Tunnel.ServerTls
import GateRust.Tunnel.Catalogs
import GateRust.Tunnel.ControlFrames
import GateRust.Tunnel.DeviceIdentity
import GateRust.Tunnel.RateLimit
import GateRust.Tunnel.Relay
import GateRust.Tunnel.RelayProgress
import GateRust.Tunnel.Bootstrap
import GateRust.Control.Store
import GateRust.Control.StoreInvariant
import GateRust.Control.Login
import GateRust.Control.Sessions
import GateRust.Proxy.Config
import GateRust.Proxy.CertificateCache
import GateRust.Proxy.AccountCache
import GateRust.Proxy.CertificateResolver
import GateRust.Proxy.Issuance
import GateRust.Proxy.DnsRecords
import GateRust.Proxy.ChallengeCleanup
import GateRust.Proxy.CertificateManager
import GateRust.Proxy.GoDaddy
import GateRust.Proxy.Reload
import GateRust.Proxy.IssuanceLedger
import GateRust.Proxy.InstalledResults
import GateRust.Proxy.ActiveTasks
import GateRust.Proxy.TaskRequests
import GateRust.Proxy.AuthorizationRun
import GateRust.Proxy.CacheWrites
import GateRust.Proxy.DeployedPairs
import GateRust.Proxy.Validation
import GateRust.Proxy.WatchedProxy
import GateRust.Proxy.Shutdown
import GateRust.Proxy.NormalForm
import GateRust.Proxy.ServedNames
import GateRust.Proxy.Router
import GateRust.Proxy.CanonicalConfig
import GateRust.Proxy.Migration
import GateRust.Proxy.RouteChoice
import GateRust.Proxy.Forwarding
import GateRust.Proxy.HopHeaders
import GateRust.Proxy.PreparedRequests
import GateRust.Proxy.ProxyServer
import GateRust.Proxy.Statuses
import GateRust.Proxy.Renewal
import GateRust.Proxy.RenewalDelays
import GateRust.Proxy.Listeners
import GateRust.Proxy.Connections
import GateRust.Proxy.ConnectionLimit
import GateRust.Control.ConfigPaths
import GateRust.Control.ConfigReports
import GateRust.Control.Mutations
import GateRust.Control.MutationEffects
import GateRust.Control.Snapshots
import GateRust.Control.Secrets
import GateRust.Control.CrashSafety
import GateRust.Control.CrashRefinement
import GateRust.Control.ClientGenerator
import GateRust.Tunnel.ClientRequests
import GateRust.Tunnel.ClientConfig
import GateRust.Tunnel.ConfigToml
import GateRust.Tunnel.ServiceUpdates
import GateRust.Tunnel.UpdateAnswers
import GateRust.Tunnel.ClientDisconnect
import GateRust.Tunnel.DeclaredKinds
import GateRust.Tunnel.StreamKinds
import GateRust.Desktop.ClientRuntime
import GateRust.Desktop.LoginFiles
import GateRust.Desktop.SingleInstance
import GateRust.Web.Convergence
import GateRust.Web.StoredToken
import GateRust.Web.DashboardStream
