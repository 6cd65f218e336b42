import WealthFinder.Machine
import WealthFinder.StreamGroup
import WealthFinder.StreamHolders
import WealthFinder.Progress
import WealthFinder.Refinement
import WealthFinder.SemaphoreProgress
import WealthFinder.RunningBest
import WealthFinder.Regex
import WealthFinder.Tables
import WealthFinder.Semaphore
import WealthFinder.InFlight
import WealthFinder.WorkLog
import WealthFinder.Subsequence
import WealthFinder.Numerals
import WealthFinder.JsonStrings
import WealthFinder.ExpiringHashes
import WealthFinder.Ingestion.Cleaning
import WealthFinder.Ingestion.CleaningSteps
import WealthFinder.Ingestion.CleaningDelivery
import WealthFinder.Ingestion.CleaningOverlap
import WealthFinder.Ingestion.CleaningVerdicts
import WealthFinder.Ingestion.BatchIsolation
import WealthFinder.Ingestion.DatabaseClient
import WealthFinder.Ingestion.RetryResults
import WealthFinder.Ingestion.CrawlService
import WealthFinder.Ingestion.CrawlSignals
import WealthFinder.Ingestion.CrawlRounds
import WealthFinder.Ingestion.CrawlAnnouncements
import WealthFinder.Ingestion.PageCrawler
import WealthFinder.Ingestion.CrawlWorkers
import WealthFinder.Ingestion.CrawlWorkerTurns
import WealthFinder.Ingestion.CrawlAccounts
import WealthFinder.Ingestion.CrawlInvariant
import WealthFinder.Ingestion.ArticleSources
import WealthFinder.Ingestion.CrawlOutcomes
import WealthFinder.Ingestion.CrawlProgress
import WealthFinder.Ingestion.CrawlerRuns
import WealthFinder.Ingestion.IngestionService
import WealthFinder.Ingestion.IngestionTurns
import WealthFinder.Ingestion.IngestionStore
import WealthFinder.Ingestion.CrawlsInService
import WealthFinder.Ingestion.ArticleProvenance
import WealthFinder.Pipeline.Models
import WealthFinder.Pipeline.SlidingWindow
import WealthFinder.Pipeline.DatabaseClient
import WealthFinder.Pipeline.TransactionEvents
import WealthFinder.Pipeline.TransactionOutcome
import WealthFinder.Pipeline.TransactionAccounting
import WealthFinder.Pipeline.EventRepository
import WealthFinder.Pipeline.PersistRules
import WealthFinder.Pipeline.DerivedFields
import WealthFinder.Pipeline.DerivedRuns
import WealthFinder.Pipeline.Agreement
import WealthFinder.Pipeline.PersistTransactions
import WealthFinder.Pipeline.PersistAgreement
import WealthFinder.Pipeline.Aggregation
import WealthFinder.Pipeline.AggregationSteps
import WealthFinder.Pipeline.Membership
import WealthFinder.Pipeline.ActiveEvents
import WealthFinder.Pipeline.GroupForward
import WealthFinder.Pipeline.Versions
import WealthFinder.Pipeline.PythonText
import WealthFinder.Pipeline.EventAggregationStore
import WealthFinder.Pipeline.ActiveEventMap
import WealthFinder.Pipeline.Announcing
import WealthFinder.Pipeline.Outbox
import WealthFinder.Pipeline.FlushedRows
import WealthFinder.Pipeline.StreamClient
import WealthFinder.Pipeline.AggregationConsumer
import WealthFinder.Pipeline.AggregationConsumerSteps
import WealthFinder.Pipeline.ConsumerAcks
import WealthFinder.Pipeline.FirstDeliveries
import WealthFinder.Pipeline.EntityAnalysis
import WealthFinder.Pipeline.EntityAnalysisSteps
import WealthFinder.Pipeline.EntityDeliveries
import WealthFinder.Pipeline.EntitySkill
import WealthFinder.Pipeline.StoredValues
import WealthFinder.Pipeline.EntityEventRepository
import WealthFinder.Pipeline.PersistEntities
import WealthFinder.Pipeline.FailedPersist
import WealthFinder.Pipeline.TransactionPrograms
import WealthFinder.Pipeline.PersistEventsCall
import WealthFinder.Pipeline.StockListGate
import WealthFinder.Pipeline.WorkerPool
import WealthFinder.Pipeline.RuleScore
import WealthFinder.Pipeline.RuleScoreBounds
import WealthFinder.Pipeline.Scoring
import WealthFinder.Pipeline.CommittedVersions
import WealthFinder.Pipeline.ScoringConsistency
import WealthFinder.Pipeline.ScoringConsumer
import WealthFinder.Pipeline.ScoringDeliveries
import WealthFinder.Pipeline.ScoringSignals
import WealthFinder.Pipeline.ScoredSignals
import WealthFinder.Pipeline.EventScoreRepository
import WealthFinder.Pipeline.StorageRoundTrips
import WealthFinder.Pipeline.NameMatching
import WealthFinder.Pipeline.StockNames
import WealthFinder.Pipeline.NameLookup
import WealthFinder.Pipeline.NameCheck
import WealthFinder.Pipeline.SubsequenceSpan
import WealthFinder.Pipeline.LatinPrefixes
import WealthFinder.Pipeline.PrintedCode
import WealthFinder.Pipeline.StockListRefresh
import WealthFinder.Pipeline.LayerSupervision
import WealthFinder.Pipeline.GroupPermits
import WealthFinder.Pipeline.GroupOrder
import WealthFinder.Pipeline.InFlightGuard
import WealthFinder.Pipeline.RetryLimit
