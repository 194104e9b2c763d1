import Stablenode.AccountBatches
import Stablenode.AddressValidity
import Stablenode.Allowance
import Stablenode.AssignmentEnds
import Stablenode.AtomicEvents
import Stablenode.AuthSoundness
import Stablenode.BalanceHealth
import Stablenode.BalanceRaces
import Stablenode.BalanceRows
import Stablenode.BucketMembership
import Stablenode.BulkCleanup
import Stablenode.CreditedOnce
import Stablenode.DepositAmounts
import Stablenode.EtherscanBreaker
import Stablenode.EtherscanDelivery
import Stablenode.EventAmounts
import Stablenode.FulfillCoherence
import Stablenode.FulfillIsolation
import Stablenode.Funding
import Stablenode.LedgerNet
import Stablenode.LifeCycle
import Stablenode.LinkedAddresses
import Stablenode.MarketRate
import Stablenode.MessageLink
import Stablenode.OneLockOrder
import Stablenode.OneRate
import Stablenode.OrderOffers
import Stablenode.OrderReferences
import Stablenode.OrderSigns
import Stablenode.PaidSync
import Stablenode.PartialSettlement
import Stablenode.PaymentLifeCycle
import Stablenode.PollingCache
import Stablenode.QueueRuns
import Stablenode.ReassignListener
import Stablenode.RecipientChannel
import Stablenode.Refusals
import Stablenode.Replay
import Stablenode.ReservedAmounts
import Stablenode.RetryWorkers
import Stablenode.RpcEvents
import Stablenode.SingleCredit
import Stablenode.SingleSubmission
import Stablenode.TransactionLeaks
import Stablenode.TransferTokens
import Stablenode.TronEvents
import Stablenode.WebhookAgreement
import Stablenode.WebhookCalls
import Stablenode.WebhookRetries
import Stablenode.ZeroTransfers
