import Stablenode.BalanceManagement
import Stablenode.Fields
import Stablenode.Table

/-! The rows of the database and of Redis that the order handlers read and write
(ent/schema), and the store that holds them. -/
namespace Stablenode

open BalanceManagement

inductive LockOrderStatus where
  | pending | processing | cancelled | fulfilled | validated | settled | refunded
  deriving DecidableEq

inductive ValidationStatus where
  | pending | success | failed
  deriving DecidableEq

inductive PaymentOrderStatus where
  | initiated | processing | pending | validated | expired | settled | refunded
  deriving DecidableEq

inductive ReceiveAddressStatus where
  | poolReady | poolAssigned | poolProcessing | poolCompleted | unused | used | expired
  deriving DecidableEq

inductive TransactionStatus where
  | orderInitiated | cryptoDeposited | orderCreated | orderProcessing | orderFulfilled
  | orderValidated | orderSettled | orderRefunded | gasPrefunded | gatewayApproved
  deriving DecidableEq

inductive VisibilityMode where
  | privateMode | publicMode
  deriving DecidableEq

structure Token where
  id : ℕ
  symbol : String
  baseCurrency : String
  decimals : ℕ
  network : String
  deriving DecidableEq

structure ProvisionBucket where
  currency : String
  minAmount : ℚ
  maxAmount : ℚ
  deriving DecidableEq

structure ProviderProfile where
  id : String
  visibilityMode : VisibilityMode
  deriving DecidableEq

structure ProviderOrderToken where
  provider : String
  token : ℕ
  currency : String
  network : String
  address : String
  rateSlippage : ℚ
  deriving DecidableEq

structure ProviderCurrency where
  provider : String
  currency : String
  balance : Balance
  isAvailable : Bool
  updatedAt : ℕ
  deriving DecidableEq

structure LockPaymentOrder where
  id : ℕ
  gatewayId : String
  amount : ℚ
  protocolFee : ℚ
  rate : ℚ
  txHash : String
  status : LockOrderStatus
  blockNumber : ℕ
  institution : String
  accountIdentifier : String
  accountName : String
  memo : String
  cancellationCount : ℕ
  cancellationReasons : List String
  messageHash : String
  token : Token
  provisionBucket : Option ProvisionBucket
  provider : Option String
  createdAt : ℕ
  updatedAt : ℕ
  deriving DecidableEq

def fiatAmount (amount rate : ℚ) : ℚ := Decimal.roundBank (amount * rate) 0

def LockPaymentOrder.fiat (o : LockPaymentOrder) : ℚ := fiatAmount o.amount o.rate

def LockPaymentOrder.edges (o : LockPaymentOrder) : Option (String × ProvisionBucket) :=
  o.provider.bind fun provider => o.provisionBucket.map fun bucket => (provider, bucket)

structure LockOrderFulfillment where
  id : ℕ
  txId : String
  psp : String
  validationStatus : ValidationStatus
  validationError : String
  order : ℕ
  updatedAt : ℕ
  deriving DecidableEq

structure TransactionLog where
  id : ℕ
  status : TransactionStatus
  txHash : String
  gatewayId : String
  network : String
  lockOrder : Option ℕ
  paymentOrder : Option ℕ
  deriving DecidableEq

structure PaymentOrder where
  id : ℕ
  token : Token
  amount : ℚ
  amountPaid : ℚ
  percentSettled : ℚ
  senderFee : ℚ
  networkFee : ℚ
  rate : ℚ
  txHash : String
  blockNumber : ℕ
  fromAddress : String
  returnAddress : String
  receiveAddressText : String
  gatewayId : Option String
  messageHash : Option String
  status : PaymentOrderStatus
  hasLinkedAddress : Bool
  memo : String
  providerId : String
  institution : String
  createdAt : ℕ
  updatedAt : ℕ
  deriving DecidableEq

structure ReceiveAddress where
  id : ℕ
  address : String
  status : ReceiveAddressStatus
  txHash : String
  validUntil : Option ℕ
  lastUsed : Option ℕ
  lastIndexedBlock : ℕ
  paymentOrder : Option ℕ
  deriving DecidableEq

structure OrderRequest where
  order : ℕ
  fields : List (String × String)
  expiresAt : Option ℕ
  deriving DecidableEq

def OrderRequest.field (r : OrderRequest) (name : String) : String :=
  ((r.fields.find? fun f => f.1 = name).map Prod.snd).getD ""

inductive QueueEntry where
  | offer (provider token : String) (rate minAmount maxAmount : Option ℚ)
  | malformed (text : String)
  deriving DecidableEq

structure QueueKey where
  bucket : ProvisionBucket
  prev : Bool
  deriving DecidableEq

structure Queue where
  key : QueueKey
  entries : List QueueEntry
  deriving DecidableEq

inductive ExternalCall where
  /-- `RefundOrder`, with the lock order it is called for. -/
  | refundOrder (order : ℕ) (network gatewayId : String)
  | refundUnindexed (network gatewayId : String)
  | settleOrder (order : ℕ)
  /-- The transaction of `CreateOrder`, with the message hash it carries. -/
  | createOrder (paymentOrder : ℕ) (messageHash : String)
  /-- `SendPaymentOrderWebhook` with an entity of this id and status. -/
  | paymentOrderWebhook (paymentOrder : ℕ) (status : PaymentOrderStatus)
  | newOrder (provider : String) (order : ℕ)
  deriving DecidableEq

structure Store where
  lockOrders : Table LockPaymentOrder.id
  fulfillments : Table LockOrderFulfillment.id
  balances : Table fun r : ProviderCurrency => (r.provider, r.currency)
  providers : Table ProviderProfile.id
  providerOrderTokens : List ProviderOrderToken
  fiatCurrencies : List String
  paymentOrders : Table PaymentOrder.id
  receiveAddresses : Table ReceiveAddress.id
  transactionLogs : Table TransactionLog.id
  orderRequests : Table OrderRequest.order
  excludeLists : List (ℕ × String)
  queues : Table Queue.key
  now : ℕ
  calls : List ExternalCall
  deriving DecidableEq

namespace Store

def empty : Store where
  lockOrders := .empty
  fulfillments := .empty
  balances := .empty
  providers := .empty
  providerOrderTokens := []
  fiatCurrencies := []
  paymentOrders := .empty
  receiveAddresses := .empty
  transactionLogs := .empty
  orderRequests := .empty
  excludeLists := []
  queues := .empty
  now := 0
  calls := []

def balance (s : Store) (provider currency : String) : Option Balance :=
  (s.balances.get (provider, currency)).map ProviderCurrency.balance

def hasLockOrder (s : Store) (order : ℕ) : Bool := (s.lockOrders.get order).isSome

def hasFulfillment (s : Store) (fulfillment : ℕ) : Bool := (s.fulfillments.get fulfillment).isSome

def fulfillmentsOf (s : Store) (order : ℕ) : List LockOrderFulfillment :=
  s.fulfillments.select fun f => f.order = order

def excludeList (s : Store) (order : ℕ) : List String :=
  (s.excludeLists.filter fun e => e.1 = order).map Prod.snd

def queue (s : Store) (key : QueueKey) : List QueueEntry :=
  ((s.queues.get key).map Queue.entries).getD []

end Store

/-! A store with one provider, one balance row and one processing order, for concrete runs. -/
namespace Sample

def token : Token := ⟨1, "USDC", "USD", 6, "base"⟩

def bucket : ProvisionBucket := ⟨"NGN", 0, 1000⟩

def provider : ProviderProfile := ⟨"p1", .publicMode⟩

def otherProvider : ProviderProfile := ⟨"p2", .publicMode⟩

def lockOrder : LockPaymentOrder where
  id := 1
  gatewayId := "g1"
  amount := 40
  protocolFee := 0
  rate := 1
  txHash := ""
  status := .processing
  blockNumber := 1
  institution := "bank"
  accountIdentifier := "001"
  accountName := "name"
  memo := ""
  cancellationCount := 0
  cancellationReasons := []
  messageHash := "m1"
  token := token
  provisionBucket := some bucket
  provider := some "p1"
  createdAt := 0
  updatedAt := 0

def fulfillment (id : ℕ) (txId : String) (status : ValidationStatus) (order : ℕ) :
    LockOrderFulfillment :=
  ⟨id, txId, "psp", status, "", order, 0⟩

def balancesOf (b : Balance) : Table fun r : ProviderCurrency => (r.provider, r.currency) :=
  ⟨[⟨"p1", "NGN", b, true, 0⟩, ⟨"p2", "NGN", b, true, 0⟩], by simp⟩

def store : Store :=
  { Store.empty with
    lockOrders := .single lockOrder
    balances := .single ⟨"p1", "NGN", ⟨100, 0, 100⟩, true, 0⟩
    providers := ⟨[provider, otherProvider], by decide⟩ }

end Sample

def raisesDuplicate (old new : PaymentOrder) : Bool :=
  old.amountPaid ≥ Decimal.round (old.amount + old.senderFee + old.networkFee) new.token.decimals ∧
    old.status = new.status ∧ old.gatewayId = none

structure OrderConfig where
  refundCancellationCount : ℕ := 3
  orderRefundTimeout : ℕ := 300
  orderFulfillmentValidity : ℕ := 60
  orderRequestValidity : ℕ := 30
  deriving DecidableEq

end Stablenode
