import NhaTrangLaundry.Db.OutboxExclusive
import NhaTrangLaundry.Db.CancellationOrder
import NhaTrangLaundry.Db.PaymentsOwed
import NhaTrangLaundry.Lib.Table
import NhaTrangLaundry.Db.IdempotencyOnce
import NhaTrangLaundry.Lib.Jsonb
import NhaTrangLaundry.Domain.CanonicalForm
import NhaTrangLaundry.Lib.Uuid
import NhaTrangLaundry.Lib.Datetime
import NhaTrangLaundry.Lib.JsonLoads
import NhaTrangLaundry.Lib.Outcome
import NhaTrangLaundry.Lib.Sorting
import NhaTrangLaundry.Domain.Pricing
import NhaTrangLaundry.Lib.LargestRemainder
import NhaTrangLaundry.Domain.QuoteParsing
import NhaTrangLaundry.Domain.Promotion
import NhaTrangLaundry.Domain.Delivery
import NhaTrangLaundry.Domain.RangePrices
import NhaTrangLaundry.Domain.Remedies
import NhaTrangLaundry.Domain.QuoteComposition
import NhaTrangLaundry.Domain.QuoteDerivation
import NhaTrangLaundry.Db.StopRelease
import NhaTrangLaundry.Db.HandedOver
import NhaTrangLaundry.Db.ShelfClock
import NhaTrangLaundry.Db.NeverStuck
import NhaTrangLaundry.Db.ConsoleOffers
import NhaTrangLaundry.Db.AccountLedger
import NhaTrangLaundry.Db.RemedyCeilings
import NhaTrangLaundry.Db.CreditsOnce
import NhaTrangLaundry.Db.InboxOnce
import NhaTrangLaundry.Db.AgentRunsOnce
import NhaTrangLaundry.Db.WashesApart
import NhaTrangLaundry.Db.PromiseChain
import NhaTrangLaundry.Db.CustomerRetention
import NhaTrangLaundry.Db.LawfulPurges
import NhaTrangLaundry.Db.ApprovalsOnce
import NhaTrangLaundry.Db.ExportRelease
import NhaTrangLaundry.Db.StoreAccessChanges
import NhaTrangLaundry.Db.BindingsOnce
import NhaTrangLaundry.Domain.VietQrDamage
import NhaTrangLaundry.Contracts.ToolRegistry
import NhaTrangLaundry.Contracts.AgentRunner
import NhaTrangLaundry.Worker.AgentBridge
import NhaTrangLaundry.Worker.BridgeSteps
import NhaTrangLaundry.Worker.BridgeBudget
import NhaTrangLaundry.Lib.DecimalOrder
import NhaTrangLaundry.Domain.PriceTiers
import NhaTrangLaundry.Lib.RemainderShares
import NhaTrangLaundry.Domain.CreditAllocation
import NhaTrangLaundry.Domain.PromotionArithmetic
import NhaTrangLaundry.Domain.WaitingClock
import NhaTrangLaundry.Db.WaitingDays
import NhaTrangLaundry.Lib.Keyset
import NhaTrangLaundry.Db.PagedReads
import NhaTrangLaundry.Db.PagedComplete
import NhaTrangLaundry.Lib.Extremes
import NhaTrangLaundry.Domain.LateDelivery
import NhaTrangLaundry.Db.LateDeliveries
import NhaTrangLaundry.Lib.DaySums
import NhaTrangLaundry.Db.DailyMoney
import NhaTrangLaundry.Lib.HashWords
import NhaTrangLaundry.Lib.JsonSchema
import NhaTrangLaundry.Worker.StrictSchema
import NhaTrangLaundry.Worker.SchemaFragment
import NhaTrangLaundry.Worker.StrictForms
import NhaTrangLaundry.Worker.StrictValidity
import NhaTrangLaundry.Worker.CompletedCalls
import NhaTrangLaundry.Worker.RootUnions
import NhaTrangLaundry.Worker.RootCalls
import NhaTrangLaundry.Worker.RefusedNulls
import NhaTrangLaundry.Worker.RequestSchemas
import NhaTrangLaundry.Domain.QrAmount
import NhaTrangLaundry.Domain.AccountAllocation
import NhaTrangLaundry.Domain.TransferCode
import NhaTrangLaundry.Domain.WaiverPreview
import NhaTrangLaundry.Db.FixedFees
import NhaTrangLaundry.Domain.PriceTotals
import NhaTrangLaundry.Domain.PromiseArithmetic
import NhaTrangLaundry.Domain.FeeStart
import NhaTrangLaundry.Db.Disposals
import NhaTrangLaundry.Db.DisposedOrders
import NhaTrangLaundry.Api.Assistant
import NhaTrangLaundry.Domain.RemedyPayable
import NhaTrangLaundry.Domain.PromiseOptions
import NhaTrangLaundry.Lib.Isoformat
import NhaTrangLaundry.Db.OrderViews
import NhaTrangLaundry.Domain.CanonicalContent
import NhaTrangLaundry.Domain.ItemisedDiscounts
import NhaTrangLaundry.Domain.FrozenPromotions
import NhaTrangLaundry.Domain.CarriedCredits
import NhaTrangLaundry.Db.CashSheets
import NhaTrangLaundry.Worker.ModelTurns
import NhaTrangLaundry.Web.Quantities
import NhaTrangLaundry.Db.Identity
import NhaTrangLaundry.Db.IdentityRuns
import NhaTrangLaundry.Db.SignIns
import NhaTrangLaundry.Db.InvoiceRequests
import NhaTrangLaundry.Db.InvoiceCoverage
