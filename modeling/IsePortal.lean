import IsePortal.Library.Runs
import IsePortal.Cache.Representation
import IsePortal.Cache.Coalescing
import IsePortal.Cache.Limits
import IsePortal.Cache.LiveEntries
import IsePortal.Cache.Restart
import IsePortal.Cache.Outage
import IsePortal.Prewarm.FullScan
import IsePortal.Prewarm.TierEmas
import IsePortal.Prewarm.SingleRun
import IsePortal.Service.UpdateFrame
import IsePortal.Service.ListAgreement
import IsePortal.Service.StaleBadge
import IsePortal.Guest.Worker
import IsePortal.Guest.Tracking
import IsePortal.Accounts.Interleaving
import IsePortal.Accounts.LastAdmin
import IsePortal.Accounts.Lockout
import IsePortal.Accounts.ReadFaults
import IsePortal.Accounts.Revocation
import IsePortal.Accounts.TacacsRefresh
import IsePortal.Accounts.TypedRuns
import IsePortal.Accounts.PasswordPolicy
import IsePortal.Api.AutoTag
import IsePortal.Api.EndpointScope
import IsePortal.Api.AuthStatus
import IsePortal.Api.PskReads
import IsePortal.Audit.Rollback
import IsePortal.Ise.SingleProbe
import IsePortal.Ise.ReadWriteSplit
import IsePortal.Ise.CompleteListings
import IsePortal.Pxgrid.Stomp
import IsePortal.Pxgrid.Broadcast
import IsePortal.Pxgrid.KnownFields
import IsePortal.Pxgrid.Reconciliation
import IsePortal.Pxgrid.SessionDisk
import IsePortal.Pxgrid.SessionIsolation
import IsePortal.Policy.Negation
import IsePortal.Policy.PolicySets
import IsePortal.Policy.IdentityGroups
import IsePortal.Policy.RuleReads
import IsePortal.Dacl.ListReads
import IsePortal.Selfregister.ClientIp
import IsePortal.Selfregister.OwnMac
import IsePortal.Selfregister.OneWrite
import IsePortal.Selfregister.GuestGroup
import IsePortal.Selfregister.Expiry
import IsePortal.Service.BulkAccount
import IsePortal.Policy.EditorRoundTrip
import IsePortal.Attributes.CleanupFrame
import IsePortal.Frontend.OfflineQueue
import IsePortal.Settings.StoredExactly
import IsePortal.Recovery.Agreement
import IsePortal.Service.WrittenValues
import IsePortal.Settings.NoOldData
import IsePortal.Library.Writes
import IsePortal.Policy.FullEvaluation
import IsePortal.Policy.RadiusPrompt
import IsePortal.Policy.SelectionLaw
import IsePortal.Cache.Backoff
import IsePortal.Service.PagedListing
import IsePortal.Service.ConcurrentListing
import IsePortal.Frontend.SavedFields
import IsePortal.Api.RateLimiter
import IsePortal.Nmap.Flags
import IsePortal.Pxgrid.ChurnAlerts
import IsePortal.Dacl.Validation
import IsePortal.Update.Packages
import IsePortal.Api.TokenStrings
import IsePortal.Prewarm.FirstSeenHistory
import IsePortal.Api.Trends
import IsePortal.Prewarm.HotQueue
import IsePortal.Prewarm.DripLoop
import IsePortal.Frontend.BrowseFilter
import IsePortal.Audit.Search
import IsePortal.Ise.Anc
import IsePortal.Ise.MntSessions
import IsePortal.Frontend.CsvRoundTrip
import IsePortal.Audit.Stale
import IsePortal.Library.Buckets
import IsePortal.Frontend.BrowseTree
import IsePortal.Frontend.TreePartition
import IsePortal.Library.Rekeying
import IsePortal.Frontend.TreeBranches
import IsePortal.Frontend.TreeMerges
import IsePortal.Frontend.TidyGroups
import IsePortal.Frontend.TreeHide
import IsePortal.Frontend.MergeRuns
import IsePortal.Frontend.HiddenBranches
import IsePortal.Frontend.TreeSelection
import IsePortal.Frontend.ColumnOrder
import IsePortal.Ise.GroupPaths
import IsePortal.Api.Logs
import IsePortal.Attributes.ValueStore
import IsePortal.Ise.ProfileNames
import IsePortal.Platform.AtomicJson
import IsePortal.Platform.UrlEncoded
import IsePortal.Frontend.SharedFilter
import IsePortal.Frontend.DirtyRows
import IsePortal.Backup.Tables
import IsePortal.Backup.Restore
import IsePortal.Backup.FailedRestore
import IsePortal.Backup.RoundTrip
