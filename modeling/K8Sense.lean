import K8Sense.Library.Transition
import K8Sense.Library.Keyed
import K8Sense.Library.Text
import K8Sense.Library.Grouping
import K8Sense.Library.Recency
import K8Sense.Library.Semaphore
import K8Sense.Library.Distinct
import K8Sense.Cache.Path
import K8Sense.Cache.Key
import K8Sense.Cache.Expiring
import K8Sense.Cache.Response
import K8Sense.Cache.Middleware
import K8Sense.Cache.Soundness
import K8Sense.Cache.Freshness
import K8Sense.Cache.Watchers
import K8Sense.Cache.Clientsets
import K8Sense.Multiplexer.Connection
import K8Sense.Multiplexer.Server
import K8Sense.Multiplexer.Lifecycle
import K8Sense.Multiplexer.Registry
import K8Sense.Doctor.LiveScan
import K8Sense.Doctor.Finding
import K8Sense.Doctor.Scanner
import K8Sense.Doctor.ScanStore
import K8Sense.Doctor.Alerting
import K8Sense.Doctor.Role
import K8Sense.Doctor.Response
import K8Sense.Doctor.GuidedFix
import K8Sense.Doctor.Restore
import K8Sense.Doctor.Revert
import K8Sense.Doctor.CustomRules
import K8Sense.Multiplexer.Routing
import K8Sense.Multiplexer.Reconnection
import K8Sense.Multiplexer.Turns
import K8Sense.Doctor.Licence
import K8Sense.Doctor.Kube
import K8Sense.Doctor.Tables
import K8Sense.Doctor.ApiServer
import K8Sense.Doctor.Catalog
import K8Sense.Doctor.Runbooks
import K8Sense.Doctor.Handlers
import K8Sense.Doctor.AccountHandlers
import K8Sense.Doctor.ReadOnly
import K8Sense.Doctor.FindingHistory
import K8Sense.Doctor.Frames
import K8Sense.Doctor.SessionValidity
import K8Sense.Doctor.Interleaving
import K8Sense.Doctor.Accounts
import K8Sense.Doctor.AuditTrail
import K8Sense.Doctor.Scheduler
import K8Sense.Doctor.Parallelism
import K8Sense.Doctor.Workload
import K8Sense.Doctor.NetworkMap
import K8Sense.Doctor.NetworkEdges
import K8Sense.Doctor.NetworkGraph
import K8Sense.Doctor.NetworkFilter
import K8Sense.Doctor.NetworkCheck
import K8Sense.Doctor.RuleSettings
import K8Sense.Doctor.Suppressions
import K8Sense.Doctor.Compliance
import K8Sense.Doctor.ComplianceDrift
import K8Sense.Doctor.Retention
import K8Sense.Stateless.Keys
import K8Sense.Auth.Cookies
import K8Sense.Doctor.Trial
import K8Sense.Forwarding.Store
import K8Sense.Forwarding.Isolation
import K8Sense.Helm.Status
import K8Sense.Helm.Answers
import K8Sense.Kubeconfig.Context
import K8Sense.Kubeconfig.Rename
import K8Sense.Kubeconfig.Load
import K8Sense.Stateless.Cached
import K8Sense.Stateless.ClusterNames
import K8Sense.Stateless.Deletion
import K8Sense.Kubeconfig.Persist
import K8Sense.Kubeconfig.AddCluster
import K8Sense.Forwarding.Lifecycle
import K8Sense.Forwarding.Quiescence
import K8Sense.Kubeconfig.Sync
import K8Sense.Kubeconfig.DeleteCluster
import K8Sense.Proxy.External
import K8Sense.Library.Double
import K8Sense.Frontend.KubeList
import K8Sense.App.RunCmd
import K8Sense.App.ToolState
import K8Sense.Plugins.Refresh
import K8Sense.Frontend.WebSocketManager
import K8Sense.Frontend.Subscriptions
import K8Sense.Doctor.DiffIdentity
import K8Sense.Doctor.Cancellation
import K8Sense.Doctor.RootContainers
import K8Sense.Doctor.Upgrade
import K8Sense.Doctor.UpgradeReport
import K8Sense.Doctor.Manifest
import K8Sense.Doctor.VulnReport
import K8Sense.Doctor.TrivyLog
import K8Sense.Doctor.InternalRegistry
import K8Sense.Doctor.ServiceReferences
import K8Sense.Library.Recurrence
import K8Sense.Doctor.CronSchedule
import K8Sense.Doctor.CronHealth
import K8Sense.Library.Wrapping
import K8Sense.Doctor.QuotaBands
import K8Sense.Doctor.LicenceExpiry
import K8Sense.Library.Ranked
import K8Sense.Doctor.Grounding
import K8Sense.Doctor.Rebind
import K8Sense.Doctor.Timeline
import K8Sense.Doctor.BodyPeek
import K8Sense.Doctor.LocalChart
import K8Sense.Library.Utf8
import K8Sense.Cache.Fidelity
import K8Sense.Cache.Invalidation
import K8Sense.Cache.Attributes
import K8Sense.Kubeconfig.Names
import K8Sense.Library.Terminated
import K8Sense.Inventory.Fingerprint
import K8Sense.Library.Paths
import K8Sense.Plugins.Deletion
import K8Sense.Library.Base64
import K8Sense.Auth.BearerProtocol
import K8Sense.Nodes.Drain
import K8Sense.Frontend.SharedSockets
import K8Sense.Frontend.ListRequests
import K8Sense.Frontend.Activities
import K8Sense.Frontend.ApiDiscovery
import K8Sense.Library.Traversal
import K8Sense.ResourceMap.Conservation
import K8Sense.Frontend.Units
import K8Sense.Frontend.ValidationErrors
import K8Sense.ResourceMap.Selection
import K8Sense.Frontend.ClusterActionSlice
import K8Sense.Library.LabelSyntax
import K8Sense.Library.FormUrl
import K8Sense.Frontend.LabelQuery
import K8Sense.Library.JsonPatch
import K8Sense.Frontend.PatchUtils
import K8Sense.Library.TextDecoder
import K8Sense.Frontend.PluginLoading
import K8Sense.Frontend.TerminalStream
import K8Sense.Library.Utf16
import K8Sense.Library.DataTypes
import K8Sense.Library.LimitedSet
import K8Sense.Frontend.TypeSoundness
import K8Sense.Cache.KeyEncoding
import K8Sense.Cache.Cleanup
import K8Sense.Doctor.Migrations
import K8Sense.Proxy.ServiceProxy
import K8Sense.App.McpClient
import K8Sense.App.McpDialogs
import K8Sense.Library.Action
import K8Sense.Plugins.Packages
import K8Sense.Plugins.Places
import K8Sense.Plugins.Installation
import K8Sense.Plugins.Footprint
import K8Sense.Plugins.Containment
import K8Sense.Plugins.Atomicity
import K8Sense.Frontend.Activities
import K8Sense.Library.Replay
import K8Sense.Frontend.StreamResults
import K8Sense.Frontend.StreamLifecycle
import K8Sense.Library.Feed
import K8Sense.Frontend.Notifications
