import StockAiPlatform.Analysis.Momentum
import StockAiPlatform.Analysis.ScaleInvariance
import StockAiPlatform.Analysis.ThemeSignals
import StockAiPlatform.Api.AccountOverview
import StockAiPlatform.Api.AccountRuns
import StockAiPlatform.Api.ApprovedOrders
import StockAiPlatform.Api.DeniedApprovals
import StockAiPlatform.Api.HeaderEvasion
import StockAiPlatform.Api.HealthRoutes
import StockAiPlatform.Api.HoldingCheckRoutes
import StockAiPlatform.Api.Listings
import StockAiPlatform.Api.MalformedDeltas
import StockAiPlatform.Api.NotionalCaps
import StockAiPlatform.Api.OrderDesk
import StockAiPlatform.Api.PaperIsolation
import StockAiPlatform.Api.RealOrderRoutes
import StockAiPlatform.Api.ScoreDeltas
import StockAiPlatform.Api.ValidationViews
import StockAiPlatform.Api.WatchlistRuns
import StockAiPlatform.Backtest.AggregationPaths
import StockAiPlatform.Broker.ConcurrentExecution
import StockAiPlatform.Broker.ConcurrentSync
import StockAiPlatform.Broker.DailyCap
import StockAiPlatform.Broker.ExecutionIsolation
import StockAiPlatform.Broker.FillAttribution
import StockAiPlatform.Broker.FillCompleteness
import StockAiPlatform.Broker.GateAgreement
import StockAiPlatform.Broker.OrderEncoding
import StockAiPlatform.Broker.PlaceMessages
import StockAiPlatform.Config.LogMasking
import StockAiPlatform.Data.CircuitBreakerRuns
import StockAiPlatform.Data.DartOutcomes
import StockAiPlatform.Data.FeedIngestion
import StockAiPlatform.Data.ImportRuns
import StockAiPlatform.Data.KisClient
import StockAiPlatform.Data.MetricImportOutcomes
import StockAiPlatform.Data.RssOutcomes
import StockAiPlatform.Decision.ConsensusRuns
import StockAiPlatform.Decision.Drawdown
import StockAiPlatform.Decision.HoldingLots
import StockAiPlatform.Decision.HoldingMonotone
import StockAiPlatform.Decision.RankingOutcomes
import StockAiPlatform.Decision.RecordedDeltas
import StockAiPlatform.Decision.ResultIsolation
import StockAiPlatform.Decision.ResultLookAhead
import StockAiPlatform.Decision.ScoreDropRuns
import StockAiPlatform.Notification.AlertRuns
import StockAiPlatform.Paper.LedgerRuns
import StockAiPlatform.Scheduler.ConcurrentDecisions
import StockAiPlatform.Scheduler.IndicatorJob
import StockAiPlatform.Scheduler.RunJob
import StockAiPlatform.Scheduler.UniverseTracking
