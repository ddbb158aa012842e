import NetManager.Conn.NetConnService
import NetManager.Conn.Identity
import NetManager.Conn.Registry
import NetManager.Library.FirstMatch
import NetManager.Conn.WellFormed
import NetManager.Conn.DefaultService
import NetManager.Conn.Representation
import NetManager.Conn.Membership
import NetManager.Conn.NetIdPool
import NetManager.Conn.SupplierId
import NetManager.Conn.Isolation
import NetManager.Conn.Connection
import NetManager.Conn.ReConnect
import NetManager.Conn.ControllerDiscipline
import NetManager.Library.Reconcile
import NetManager.Conn.Routes
import NetManager.Library.Decimal
import NetManager.Library.Table
import NetManager.Policy.NetPolicyService
import NetManager.Policy.PolicyMap
import NetManager.Policy.InitPolicy
import NetManager.Policy.Reload
import NetManager.Policy.Restart
import NetManager.Policy.LifeCycle
import NetManager.Policy.StartUp
import NetManager.Policy.Entries
import NetManager.Policy.FailedChange
import NetManager.Policy.Lookups
import NetManager.Policy.Access
import NetManager.Policy.NarrowLong
import NetManager.Policy.LoadedFile
import NetManager.Policy.UnreadableFile
import NetManager.Ethernet.DevInterfaceState
import NetManager.Ethernet.EthernetManagement
import NetManager.Ethernet.Availability
import NetManager.Ethernet.LateResult
import NetManager.Conn.Frame
import NetManager.Library.Subscription
import NetManager.Conn.Callbacks
import NetManager.Conn.Notifications
import NetManager.Conn.Withdrawal
import NetManager.Ethernet.DhcpClient
import NetManager.Ethernet.HeldSuppliers
import NetManager.Ipc.Parcel
import NetManager.Ipc.LinkInfoFormat
import NetManager.Ipc.ConfigurationFormat
import NetManager.Ipc.EthernetService
import NetManager.Conn.Refusal
import NetManager.Conn.NetdSide
import NetManager.Conn.PhysicalNetwork
import NetManager.Conn.Leftovers
import NetManager.Library.CheckThenAct
import NetManager.Conn.ConcurrentRegistration
import NetManager.Library.RecordWalk
import NetManager.Ethernet.NetLinkRtnl
import NetManager.Ethernet.NetLinkBounds
import NetManager.Ethernet.NetLinkDump
import NetManager.Ethernet.StrayClient
import NetManager.Ethernet.LinkInfoNames
import NetManager.Ethernet.StartUpRace
import NetManager.Ipc.DnsResolverClient
import NetManager.Ipc.DnsResolverService
import NetManager.Ipc.ResolverRequests
import NetManager.Ipc.ResolverSafety
import NetManager.Ipc.ResolverConfiguration
import NetManager.Conn.Capabilities
import NetManager.Conn.RegisteredCapabilities
import NetManager.Conn.DeclaredLater
import NetManager.Conn.LinkHistory
import NetManager.Conn.Mtu
import NetManager.Ethernet.LeaseRenewal
import NetManager.Conn.NetdFailures
import NetManager.Conn.ServiceOrder
import NetManager.Conn.Specifier
import NetManager.Conn.NetIdRuns
import NetManager.Ethernet.ActiveInterfaces
import NetManager.Ethernet.StartUpDump
import NetManager.Ipc.ResolverReplies
import NetManager.Ipc.RoundTrips
import NetManager.Ipc.SameAddresses
import NetManager.Library.Letters
import NetManager.Ipc.HostNames
import NetManager.Conn.SupplierStatus
import NetManager.Ipc.SupplierUpdates
import NetManager.Library.MixedCells
import NetManager.Ipc.Message
import NetManager.Ipc.NetConnServiceStub
import NetManager.Ipc.NetConnServiceProxy
import NetManager.Conn.Directory
import NetManager.Conn.DirectoryRefinement
import NetManager.System.EthernetSystem
import NetManager.System.Delivery
import NetManager.System.InterfaceStatus
import NetManager.Conn.NetdMirror
import NetManager.System.InterfaceInNetd
import NetManager.Ipc.NetPolicyServiceStub
import NetManager.Ipc.NetPolicyServiceProxy
import NetManager.Ipc.ServiceClient
import NetManager.System.PolicySystem
import NetManager.Ipc.NetConnCallback
import NetManager.System.CallbackSystem
import NetManager.System.LinkSystem
import NetManager.System.LinkStatus
import NetManager.Ipc.InterfaceBook
import NetManager.Ipc.EthernetServiceStub
import NetManager.Ipc.EthernetServiceProxy
import NetManager.Conn.CacheLifetimes
import NetManager.System.ResolverSystem
