import DyData.AccountQualification
import DyData.BillingAuthority
import DyData.BillingConfirmations
import DyData.BillingDispute
import DyData.BillingDisputeOutcome
import DyData.BillingSourceCapture
import DyData.BillingSourceMatch
import DyData.BillingSourceTotals
import DyData.ConfirmedBills
import DyData.FifoNetting
import DyData.HeavyQueueBudget
import DyData.HeavyQueueClaim
import DyData.HeavyQueueClaimEffects
import DyData.HeavyQueueClaimSpec
import DyData.HeavyQueueControl
import DyData.HeavyQueueEffects
import DyData.HeavyQueueFailure
import DyData.HeavyQueueFencing
import DyData.HeavyQueueHealth
import DyData.HeavyQueueHistory
import DyData.HeavyQueueInspection
import DyData.HeavyQueueLease
import DyData.HeavyQueueRecovery
import DyData.HeavyQueueRows
import DyData.HeavyQueueStaleTokens
import DyData.HeavySlot
import DyData.JsonValue
import DyData.KeyedTotals
import DyData.LatestRegister
import DyData.ManagementAmounts
import DyData.ManagementApplications
import DyData.ManagementCredit
import DyData.ManagementInvoicedMonths
import DyData.ManagementInvoices
import DyData.ManagementNetting
import DyData.ManagementProjection
import DyData.ManagementRuns
import DyData.MaterializationCompleteness
import DyData.MaterializationQueue
import DyData.MonthKeys
import DyData.ProjectionAnswers
import DyData.ProjectionCampaign
import DyData.ProjectionCompaction
import DyData.ProjectionCompactionBuild
import DyData.ProjectionCompactionRun
import DyData.ProjectionCompactionSpec
import DyData.ProjectionFrame
import DyData.ProjectionHeads
import DyData.ProjectionHistory
import DyData.ProjectionLineage
import DyData.ProjectionMaintenance
import DyData.ProjectionProgress
import DyData.ProjectionProvenance
import DyData.ProjectionPublish
import DyData.ProjectionPublishSpec
import DyData.ProjectionReadable
import DyData.ProjectionReading
import DyData.ProjectionRoundTrip
import DyData.ProjectionRounds
import DyData.ProjectionRows
import DyData.ProjectionSound
import DyData.ProjectionSources
import DyData.PromotionConservation
import DyData.PromotionInvoices
import DyData.PromotionOffers
import DyData.PromotionSelection
import DyData.PythonText
import DyData.QualificationFreeze
import DyData.RawImpacts
import DyData.RawObservations
import DyData.RawRecordEffects
import DyData.RawRecords
import DyData.RebuildChange
import DyData.RebuildEffects
import DyData.RebuildFencing
import DyData.RebuildOutcome
import DyData.RebuildQueue
import DyData.RebuildSupersede
import DyData.RebuildWorld
import DyData.RelationalTable
import DyData.RuleVersionRuns
import DyData.RuleVersions
import DyData.SettlementAuthority
import DyData.SettlementCarryforward
import DyData.SettlementCarryforwardSpec
import DyData.SettlementLedger
import DyData.SettlementProjections
import DyData.SettlementProjectionsAgree
import DyData.SettlementRefundOrder
import DyData.SettlementRefundPostings
import DyData.SettlementRefundRounds
import DyData.SettlementRefundRun
import DyData.SettlementRefundSpec
import DyData.SettlementRefundState
import DyData.SettlementRefunds
import DyData.SettlementRows
import DyData.SparseBuild
import DyData.SparseCumulative
import DyData.SparseRows
import DyData.SparseTransactions
import DyData.SparseMonths
import DyData.StageExecutions
import DyData.StageRunner
import DyData.TextCode
import DyData.VerifyMonths
import DyData.ReceiptAmounts
import DyData.RequestLimits
