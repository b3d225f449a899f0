import AlphaForge.Lib.Numbers
import AlphaForge.Lib.Transactions
import AlphaForge.Positions.Writers
import AlphaForge.Positions.Conservation
import AlphaForge.Lib.Timeline
import AlphaForge.Candles.Outcome
import AlphaForge.Positions.Scan
import AlphaForge.Positions.Replay
import AlphaForge.Portfolio.Risk
import AlphaForge.Portfolio.Allocator
import AlphaForge.Portfolio.Limits
import AlphaForge.Portfolio.Evidence
import AlphaForge.Portfolio.Order
import AlphaForge.Decisions.RewardRisk
import AlphaForge.Decisions.TradeQuality
import AlphaForge.Decisions.Projection
import AlphaForge.Ownership.Lease
import AlphaForge.Control.KillSwitch
import AlphaForge.Recovery.Evaluate
import AlphaForge.Recovery.Safety
import AlphaForge.Runtime.State
import AlphaForge.Runtime.FailClosed
import AlphaForge.Runtime.Reconciliation
import AlphaForge.Runtime.GateEvidence
import AlphaForge.Portfolio.RiskHistory
import AlphaForge.Runtime.Submission
import AlphaForge.Lib.Dictionary
import AlphaForge.Portfolio.Exposure
import AlphaForge.Lib.Payload
import AlphaForge.Decisions.Parity
import AlphaForge.Backtest.FirstTouch
import AlphaForge.Backtest.PortfolioState
import AlphaForge.Lib.Occurrences
import AlphaForge.Runtime.ReconciliationEngine
import AlphaForge.Lib.Ranking
import AlphaForge.Universe.Candidate
import AlphaForge.Lib.Extended
import AlphaForge.Universe.Selection
import AlphaForge.Universe.Canonical
import AlphaForge.Backtest.OpenLimits
import AlphaForge.Burnin.Observations
import AlphaForge.Universe.Robust
import AlphaForge.Release.Gates
import AlphaForge.Release.Readiness
import AlphaForge.Burnin.Qualification
import AlphaForge.Burnin.Verdict
import AlphaForge.Lib.Json
import AlphaForge.Universe.Evidence
import AlphaForge.Universe.Tamper
import AlphaForge.Universe.Replay
import AlphaForge.Lib.Checks
import AlphaForge.WalkForward.Contract
import AlphaForge.Burnin.Shadow
import AlphaForge.Burnin.Drawdown
import AlphaForge.Lifecycle.Contract
import AlphaForge.Lifecycle.Emission
import AlphaForge.Lib.Arrangement
import AlphaForge.Lifecycle.Readiness
import AlphaForge.Burnin.Campaign
import AlphaForge.Learning.ClosedTrades
import AlphaForge.Runtime.ProcessSymbol
import AlphaForge.Runtime.Deduplication
import AlphaForge.Lib.Differences
import AlphaForge.MultiTimeframe.Contexts
import AlphaForge.MultiTimeframe.Candidate
import AlphaForge.Exchange.Rows
import AlphaForge.Lib.Procedures
import AlphaForge.MultiTimeframe.Coherence
import AlphaForge.Exchange.Transport
import AlphaForge.Exchange.Snapshot
import AlphaForge.Exchange.Exposure
import AlphaForge.Adaptive.Audit
import AlphaForge.Lib.PyText
import AlphaForge.Lib.Tasks
import AlphaForge.Telegram.World
import AlphaForge.Telegram.Adapter
import AlphaForge.Telegram.Controller
import AlphaForge.Telegram.Transport
import AlphaForge.Telegram.Invariants
import AlphaForge.Telegram.Poll
import AlphaForge.Telegram.Batch
import AlphaForge.Telegram.Delivery
import AlphaForge.Telegram.Confirmations
import AlphaForge.Portfolio.Capacity
import AlphaForge.Learning.Thresholds
import AlphaForge.Decisions.EffectiveRr
import AlphaForge.Portfolio.Sizing
import AlphaForge.Exchange.Cooldown
import AlphaForge.History.Cache
import AlphaForge.Backtest.Counts
import AlphaForge.Backtest.DailyLimits
import AlphaForge.Candles.GridWindow
import AlphaForge.Lib.PartialSums
import AlphaForge.Backtest.EquityCurve
import AlphaForge.Burnin.RejectLabels
import AlphaForge.Lib.Chained
import AlphaForge.Storage.Archive
import AlphaForge.Storage.Archived
import AlphaForge.Storage.Removals
import AlphaForge.Storage.SingleRun
import AlphaForge.Execution.Microstructure
import AlphaForge.Execution.Safety
import AlphaForge.Positions.Rounding
import AlphaForge.Storage.Kept
import AlphaForge.Storage.Verified
