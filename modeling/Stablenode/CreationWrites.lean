import Stablenode.OrderStatus

/-! What the indexing of `OrderCreated` events reads and writes, with the check of the builder
(ent/lockpaymentorder_create.go). -/
namespace Stablenode

open BalanceManagement Proc

structure OrderCreatedEvent where
  blockNumber : ℕ
  txHash : String
  token : String
  amount : ℚ
  protocolFee : ℚ
  orderId : String
  rate : ℚ
  messageHash : String
  sender : String
  deriving DecidableEq

structure PaymentOrderRecipient where
  institution : String
  accountIdentifier : String
  accountName : String
  memo : String
  providerId : String
  deriving DecidableEq

structure FiatCurrency where
  code : String
  isEnabled : Bool
  marketRate : ℚ
  deriving DecidableEq

structure Institution where
  code : String
  fiatCurrency : Option FiatCurrency
  deriving DecidableEq

def Institution.loadedCurrency (i : Institution) : Option FiatCurrency :=
  i.fiatCurrency.filter FiatCurrency.isEnabled

structure ProviderOffer where
  provider : String
  visibilityMode : VisibilityMode
  kybApproved : Bool
  availableIn : List String
  token : ℕ
  currency : String
  network : String
  address : String
  minOrderAmount : ℚ
  maxOrderAmount : ℚ
  deriving DecidableEq

structure Indexer where
  conf : OrderConfig
  env : Environment
  fuel : ℕ
  network : String
  production : Bool
  tokens : List (String × Token)
  institutions : List Institution
  fiatCurrencies : List FiatCurrency
  provisionBuckets : List ProvisionBucket
  offers : List ProviderOffer
  /-- `GetOrderRecipientFromMessageHash`. A message that is JSON `null` gives no error and no
  recipient. -/
  recipient : String → Option (Option PaymentOrderRecipient)
  amlCompliance : String → Option Bool

structure LockPaymentOrderFields where
  token : Token
  gatewayId : String
  amount : ℚ
  rate : ℚ
  protocolFee : ℚ
  amountInUsd : ℚ
  blockNumber : ℕ
  txHash : String
  institution : String
  accountIdentifier : String
  accountName : String
  sender : String
  providerId : String
  memo : String
  messageHash : String
  provisionBucket : Option ProvisionBucket
  deriving DecidableEq

def LockPaymentOrderFields.assignment (fields : LockPaymentOrderFields) (order : ℕ) :
    OrderFields where
  id := order
  token := fields.token
  amount := fields.amount
  rate := fields.rate
  institution := fields.institution
  providerId := fields.providerId
  provisionBucket := fields.provisionBucket
  updatedAt := 0

structure LockOrderCreate where
  gatewayId : Option String := none
  amount : Option ℚ := none
  protocolFee : Option ℚ := none
  rate : Option ℚ := none
  orderPercent : Option ℚ := none
  sender : Option String := none
  txHash : Option String := none
  status : Option LockOrderStatus := none
  blockNumber : Option ℕ := none
  institution : Option String := none
  accountIdentifier : Option String := none
  accountName : Option String := none
  memo : Option String := none
  cancellationCount : Option ℕ := none
  cancellationReasons : Option (List String) := none
  messageHash : Option String := none
  amountInUsd : Option ℚ := none
  token : Option Token := none
  provisionBucket : Option ProvisionBucket := none
  provider : Option String := none
  deriving DecidableEq

namespace LockOrderCreate

def defaults (c : LockOrderCreate) : LockOrderCreate :=
  { c with
    status := c.status.or (some .pending)
    cancellationCount := c.cancellationCount.or (some 0)
    cancellationReasons := c.cancellationReasons.or (some []) }

def missing (field : String) : String :=
  "ent: missing required field \"LockPaymentOrder." ++ field ++ "\""

def tooLong (field : String) : String :=
  "ent: validator failed for field \"LockPaymentOrder." ++ field ++
    "\": value is greater than the required length"

def tests (c : LockOrderCreate) : List (Bool × String) :=
  [(c.gatewayId.isNone, missing "gateway_id"),
    (c.amount.isNone, missing "amount"),
    (c.protocolFee.isNone, missing "protocol_fee"),
    (c.rate.isNone, missing "rate"),
    (c.orderPercent.isNone, missing "order_percent"),
    (c.txHash.any fun h => 70 < h.utf8ByteSize, tooLong "tx_hash"),
    (c.status.isNone, missing "status"),
    (c.blockNumber.isNone, missing "block_number"),
    (c.institution.isNone, missing "institution"),
    (c.accountIdentifier.isNone, missing "account_identifier"),
    (c.accountName.isNone, missing "account_name"),
    (c.cancellationCount.isNone, missing "cancellation_count"),
    (c.cancellationReasons.isNone, missing "cancellation_reasons"),
    (c.messageHash.any fun h => 400 < h.utf8ByteSize, tooLong "message_hash"),
    (c.amountInUsd.isNone, missing "amount_in_usd"),
    (c.token.isNone, "ent: missing required edge \"LockPaymentOrder.token\"")]

def check (c : LockOrderCreate) : Option String := (c.tests.find? Prod.fst).map Prod.snd

def row (c : LockOrderCreate) (token : Token) (id now : ℕ) : LockPaymentOrder where
  id := id
  gatewayId := c.gatewayId.getD ""
  amount := c.amount.getD 0
  protocolFee := c.protocolFee.getD 0
  rate := c.rate.getD 0
  txHash := c.txHash.getD ""
  status := c.status.getD .pending
  blockNumber := c.blockNumber.getD 0
  institution := c.institution.getD ""
  accountIdentifier := c.accountIdentifier.getD ""
  accountName := c.accountName.getD ""
  memo := c.memo.getD ""
  cancellationCount := c.cancellationCount.getD 0
  cancellationReasons := c.cancellationReasons.getD []
  messageHash := c.messageHash.getD ""
  token := token
  provisionBucket := c.provisionBucket
  provider := c.provider
  createdAt := now
  updatedAt := now

end LockOrderCreate

def LockPaymentOrder.index (o : LockPaymentOrder) :
    (String × ℚ × String × ℕ) × (String × String × String × String × ℕ) :=
  ((o.gatewayId, o.rate, o.txHash, o.blockNumber),
    (o.institution, o.accountIdentifier, o.accountName, o.memo, o.token.id))

instance (o : LockPaymentOrder) (s : Store) :
    Decidable (o.index ∈ s.lockOrders.rows.map LockPaymentOrder.index) := inferInstance

def LockOrderCreate.save (c : LockOrderCreate) (s : Store) : Except String LockPaymentOrder :=
  match c.defaults.check, c.token with
  | some e, _ => .error e
  | none, none => .error (missing "token")
  | none, some token =>
    let row := c.defaults.row token s.lockOrders.fresh s.now
    if row.index ∈ s.lockOrders.rows.map LockPaymentOrder.index then
      .error "duplicate key value violates unique constraint"
    else .ok row

def Store.isIndexed (s : Store) (network : String) (event : OrderCreatedEvent) : Bool :=
  s.lockOrders.rows.any fun o =>
    (o.txHash = event.txHash ∨ o.messageHash = event.messageHash ∨ o.gatewayId = event.orderId) ∧
      o.token.network = network

def Store.createdLogs (s : Store) (txHash gatewayId : String) : List TransactionLog :=
  s.transactionLogs.select fun l =>
    l.status = .orderCreated ∧ l.txHash = txHash ∧ l.gatewayId = gatewayId

def OrderCreatedEvent.linkTo (event : OrderCreatedEvent) (o : PaymentOrder) : PaymentOrder :=
  { o with
    txHash := event.txHash
    blockNumber := event.blockNumber
    gatewayId := some event.orderId
    status := .pending }

inductive CreationWrite where
  | order (w : OrderWrite)
  | linkPaymentOrder (paymentOrder : ℕ) (event : OrderCreatedEvent)
  | refetchPaymentOrder (paymentOrder : ℕ)
  /-- The insertion of `HandleCancellation`. -/
  | createCancelled (c : LockOrderCreate)
  /-- The commit of `CreateLockPaymentOrder`, with the log if it has created one. -/
  | createCommit (c : LockOrderCreate) (network : String) (withLog : Bool)
  deriving DecidableEq

namespace CreationWrite

abbrev read : CreationWrite := .order .read

def exec : CreationWrite → Store → Store
  | order w, s => w.exec s
  | linkPaymentOrder paymentOrder event, s =>
    let isTarget (o : PaymentOrder) : Bool := o.id = paymentOrder
    if s.paymentUpdateRaises isTarget event.linkTo then s
    else s.updatePaymentOrders isTarget event.linkTo fun _ => rfl
  | refetchPaymentOrder _, s => s
  | createCancelled c, s =>
    match c.save s with
    | .error _ => s
    | .ok row => { s with lockOrders := s.lockOrders.insert row }
  | createCommit c network withLog, s =>
    match c.save s with
    | .error _ => s
    | .ok row =>
      { s with
        lockOrders := s.lockOrders.insert row
        transactionLogs :=
          if withLog then
            s.transactionLogs.insert
              { s.newLog .orderCreated network with
                txHash := row.txHash
                gatewayId := row.gatewayId
                lockOrder := some row.id }
          else s.transactionLogs }

end CreationWrite

abbrev CreationProgram := Proc CreationWrite Store

end Stablenode
