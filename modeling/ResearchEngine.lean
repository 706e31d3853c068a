import ResearchEngine.TransitionRuns
import ResearchEngine.KeyedTable
import ResearchEngine.ResultRelation
import ResearchEngine.Vocabulary
import ResearchEngine.JobStore
import ResearchEngine.PyText
import ResearchEngine.WorkerRun
import ResearchEngine.ApiSession
import ResearchEngine.ReaperSweep
import ResearchEngine.JobMachine
import ResearchEngine.MachineInvariant
import ResearchEngine.LifecycleRuns
import ResearchEngine.CancelSafety
import ResearchEngine.DeclaredRuns
import ResearchEngine.SingleClaim
import ResearchEngine.EvidenceUpload
import ResearchEngine.EvidenceDigests
import ResearchEngine.EvidenceGrowth
import ResearchEngine.WriteOnce
import ResearchEngine.ServiceValues
import ResearchEngine.SitusFields
import ResearchEngine.AddressMatch
import ResearchEngine.ParcelResolution
import ResearchEngine.Geocode
import ResearchEngine.PropertyContext
import ResearchEngine.SourceAdapters
import ResearchEngine.StepAssembly
import ResearchEngine.ResearchRun
import ResearchEngine.DocumentFetcher
import ResearchEngine.ConfirmedParcel
import ResearchEngine.SearchedAddress
import ResearchEngine.JobRows
import ResearchEngine.RunListings
import ResearchEngine.UndisturbedRun
import ResearchEngine.DocumentCall
import ResearchEngine.OneContext
import ResearchEngine.SourceFailures
import ResearchEngine.SettledDocuments
import ResearchEngine.JobAccounts
import ResearchEngine.TerminalJobs
import ResearchEngine.OrphanedJobs
import ResearchEngine.IdempotencyKeys
import ResearchEngine.TenantView
import ResearchEngine.IdempotentCreate
import ResearchEngine.ReplayedCreate
import ResearchEngine.JobSchema
import ResearchEngine.ServiceCalls
import ResearchEngine.TenantIsolation
import ResearchEngine.SuppressedParcel
import ResearchEngine.SourceCrash
import ResearchEngine.StagedFiles
import ResearchEngine.UploadedEvidence
import ResearchEngine.StepIndependence
import ResearchEngine.StepLinks
import ResearchEngine.ClerkDocuments
import ResearchEngine.StepFields
import ResearchEngine.ResultFields
import ResearchEngine.JobCallbacks
import ResearchEngine.EvidenceLinks
import ResearchEngine.MovingWindow
import ResearchEngine.RateLimit
import ResearchEngine.StagingFolders
import ResearchEngine.StableSort
import ResearchEngine.FirstMatch
import ResearchEngine.FieldProjection
import ResearchEngine.ProjectedReads
import ResearchEngine.ProjectionGaps
import ResearchEngine.HttpErrors
import ResearchEngine.BearerTokens
import ResearchEngine.DocumentOrder
import ResearchEngine.CancelledCounter
import ResearchEngine.RaisingPrograms
import ResearchEngine.ServiceTransactions
import ResearchEngine.StreetMatch
import ResearchEngine.FileAudit
import ResearchEngine.JsonReplies
import ResearchEngine.CountyKnown
import ResearchEngine.CountyDropdown
import ResearchEngine.AnsweringStores
import ResearchEngine.BlobStorage
import ResearchEngine.InterchangeableStores
import ResearchEngine.LayerOrder
import ResearchEngine.Regex
import ResearchEngine.DeedPicks
import ResearchEngine.VestingDeed
import ResearchEngine.SubdivisionMatch
import ResearchEngine.LegalReferences
import ResearchEngine.PlatAgreement
import ResearchEngine.ClerkReferences
import ResearchEngine.ReferenceSelection
import ResearchEngine.SitusOrder
import ResearchEngine.SitusShield
import ResearchEngine.SitusParts
import ResearchEngine.PageViewer
import ResearchEngine.PageCapture
import ResearchEngine.PortalFetch
import ResearchEngine.DeedLabels
import ResearchEngine.NumberedLabels
import ResearchEngine.ManateeLabels
import ResearchEngine.FetchedLabels
import ResearchEngine.FirstOccurrences
import ResearchEngine.CreatedRows
import ResearchEngine.DocumentTypes
import ResearchEngine.RetriedJobs
import ResearchEngine.RetriedVocabulary
import ResearchEngine.SequentialRun
import ResearchEngine.StorageKeys
import ResearchEngine.StagingNames
import ResearchEngine.StagingPlaces
import ResearchEngine.ManifestLog
import ResearchEngine.SqlPredicates
import ResearchEngine.ParcelQueries
import ResearchEngine.MarkupTemplates
import ResearchEngine.ReportPages
import ResearchEngine.MalformedFields
import ResearchEngine.SafeReports
import ResearchEngine.CallbackSession
import ResearchEngine.CallbackDelivery
import ResearchEngine.CallbackPromise
import ResearchEngine.RunLedger
import ResearchEngine.RowWrites
import ResearchEngine.RunLength
import ResearchEngine.TaskAttempts
import ResearchEngine.RetryCounts
import ResearchEngine.CallbackTruth
import ResearchEngine.RowTimes
import ResearchEngine.CallRefinement
import ResearchEngine.ParcelIdSearch
import ResearchEngine.HttpApi
import ResearchEngine.TruthfulReplies
import ResearchEngine.MigrationRuns
import ResearchEngine.ManateeFiles
import ResearchEngine.CountyRegistry
