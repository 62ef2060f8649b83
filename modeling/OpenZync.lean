import OpenZync.Auth.CodesUsedOnce
import OpenZync.Auth.EntitledTokens
import OpenZync.Auth.Enumeration
import OpenZync.Auth.GrantsWithin
import OpenZync.Auth.InvitesUsedOnce
import OpenZync.Auth.PasswordChanges
import OpenZync.Auth.RevokedKeys
import OpenZync.Auth.ThrottleExpiry
import OpenZync.Auth.TokenReuse
import OpenZync.Config.ConfigUpdates
import OpenZync.Config.SystemConfig
import OpenZync.Config.SystemSettings
import OpenZync.Context.FreshContext
import OpenZync.Context.StampedeLock
import OpenZync.Facts.BatchSplit
import OpenZync.Facts.ClosingEvents
import OpenZync.Facts.InvalidationPasses
import OpenZync.Facts.LockKeys
import OpenZync.Facts.NameSupersession
import OpenZync.Facts.OverlapCoverage
import OpenZync.Facts.PostCommitEffects
import OpenZync.Facts.RetractionTerminal
import OpenZync.Facts.SupersessionLineage
import OpenZync.Facts.ValidityRanges
import OpenZync.Graph.ActiveCarriers
import OpenZync.Graph.BulkAtomicity
import OpenZync.Graph.ConnectionPool
import OpenZync.Graph.EdgeParity
import OpenZync.Graph.EdgeTypes
import OpenZync.Graph.GraphPages
import OpenZync.Graph.RowMerge
import OpenZync.Graph.SurrealTraversal
import OpenZync.Graph.TemporalFilter
import OpenZync.Llm.StructuredChat
import OpenZync.Memory.CommittedOnce
import OpenZync.Memory.EnqueuedOnce
import OpenZync.Memory.IdempotencyKeys
import OpenZync.Memory.OrphanedBlobs
import OpenZync.Memory.ReplaySoundness
import OpenZync.Memory.SequenceNumbers
import OpenZync.Memory.SettledUploads
import OpenZync.Memory.WipedProject
import OpenZync.Middleware.RateLimit
import OpenZync.Pii.Coverage
import OpenZync.Projects.OwnerKept
import OpenZync.Projects.PinsKept
import OpenZync.Prompts.Defaults
import OpenZync.Repositories.EpisodePages
import OpenZync.Repositories.MetadataUpdates
import OpenZync.Repositories.PageCursors
import OpenZync.Retrieval.HybridSearch
import OpenZync.Retrieval.Reranking
import OpenZync.Rls.RememberedContext
import OpenZync.Webhooks.Deliveries
import OpenZync.Workers.AttachmentTexts
import OpenZync.Workers.CommunityReruns
import OpenZync.Workers.DatedFacts
import OpenZync.Workers.DuplicateClusters
import OpenZync.Workers.EntitySection
import OpenZync.Workers.ExtractStructured
import OpenZync.Workers.ForgottenBlobs
import OpenZync.Workers.LeaderElection
import OpenZync.Workers.LinkBit
import OpenZync.Workers.ObservationPass
import OpenZync.Workers.ScanFailOpen
import OpenZync.Workers.SlotMaps
import OpenZync.Workers.SustainedEdges
import OpenZync.Workers.UnauditedMerges
