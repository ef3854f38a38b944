import OvsdbClient.Json.Printer
import OvsdbClient.Network.Retention
import OvsdbClient.Proofs.GlobalCounter
import OvsdbClient.Proofs.Integrity
import OvsdbClient.Proofs.MappingBatches
import OvsdbClient.Proofs.ReadYourWrites
import OvsdbClient.Proofs.ReplicaRefinement
import OvsdbClient.Proofs.StoppedLocks
import OvsdbClient.Schema.Document
import OvsdbClient.Proofs.DisjointCommits
import OvsdbClient.Proofs.LockOrder
import OvsdbClient.Proofs.PassingTime
import OvsdbClient.Proofs.Retrying
import OvsdbClient.Proofs.RowWaits
import OvsdbClient.Proofs.Bootstrapping
import OvsdbClient.Proofs.Rounding
import OvsdbClient.Proofs.AttachedServers
import OvsdbClient.Proofs.MappingsReadBack
import OvsdbClient.Proofs.CommitEffects
import OvsdbClient.Proofs.RegistryCalls
import OvsdbClient.Proofs.MappingPrograms
import OvsdbClient.Proofs.AdvanceAdditivity
import OvsdbClient.Proofs.TimelyRows
import OvsdbClient.Retry.Script
import OvsdbClient.Proofs.RetryBudgets
import OvsdbClient.Proofs.MappingEntries
import OvsdbClient.Proofs.LiveSessions
import OvsdbClient.Proofs.MappingRemovals
import OvsdbClient.Proofs.Reachability
import OvsdbClient.Proofs.Mutations
import OvsdbClient.Proofs.QueuedOperations
import OvsdbClient.Proofs.ValidSettings
import OvsdbClient.Proofs.FittingSubmissions
import OvsdbClient.Proofs.SchemaDocuments
import OvsdbClient.Proofs.AnnouncedChanges
import OvsdbClient.Proofs.ReplicaContents
import OvsdbClient.Proofs.SelectedTables
