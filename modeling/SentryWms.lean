import SentryWms.Picking.Retry
import SentryWms.Picking.Allocation
import SentryWms.History.Completion
import SentryWms.History.ShortClose
import SentryWms.SalesOrders.CancelReturn
import SentryWms.TransferOrders.Inert
import SentryWms.TransferOrders.Reserved
import SentryWms.Picking.Consumption
import SentryWms.Events.Consumers
import SentryWms.Snapshot.Watermark
import SentryWms.Webhooks.HeadOfLine
import SentryWms.Webhooks.Stream
import SentryWms.Pos.Idempotency
import SentryWms.Fulfillment.Dockd
import SentryWms.WorkControl.SkuCatalog
import SentryWms.Stock.StateSync
import SentryWms.Inbound.Versions
import SentryWms.Inbound.OrderStatus
import SentryWms.Sync.Completions
import SentryWms.Sync.Exclusion
import SentryWms.Audit.Tampering
import SentryWms.Channels.Delivery
import SentryWms.TransferOrders.Closure
import SentryWms.TransferOrders.LineQuantities
import SentryWms.SalesOrders.ReturnSafety
import SentryWms.Auth.TokenScopes
import SentryWms.Webhooks.ReplayBatch
import SentryWms.Fulfillment.ScanSafety
import SentryWms.Stock.UnitSafety
import SentryWms.Stock.RowSafety
import SentryWms.Stock.CycleCounts
import SentryWms.Receiving.SessionCancel
import SentryWms.Receiving.ReceiveCancel
import SentryWms.Fulfillment.ShipVoid
import SentryWms.SalesOrders.AdminUndo
import SentryWms.Auth.PasswordChange
import SentryWms.Auth.LoginAttempts
import SentryWms.Mobile.ScanQueue
import SentryWms.Mobile.BatchedReceive
import SentryWms.Inbound.LookupPrefetch
import SentryWms.Receiving.BackorderRelease
import SentryWms.TransferOrders.ApprovalStock
import SentryWms.Webhooks.Verdicts
import SentryWms.Pos.CartCheck
import SentryWms.Admin.Code128
import SentryWms.Webhooks.RateLimiter
import SentryWms.Connectors.CircuitBreaker
import SentryWms.Admin.PreferredBins
import SentryWms.Webhooks.PubsubSigning
import SentryWms.WorkControl.TaskTimes
import SentryWms.Inbound.DecimalBounds
import SentryWms.SalesOrders.Demand
import SentryWms.SalesOrders.Lockstep
import SentryWms.WorkControl.Forecast
import SentryWms.Mobile.ReceiveLines
