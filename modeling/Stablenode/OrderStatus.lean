import Stablenode.ProviderController

/-! The settlement and refund events of the gateway contract and the cancellation of a
created lock order (services/common/order.go). -/
namespace Stablenode

open BalanceManagement Proc

structure OrderSettledEvent where
  blockNumber : ℕ
  txHash : String
  splitOrderId : Option ℕ
  orderId : String
  settlePercent : ℚ
  deriving DecidableEq

structure OrderRefundedEvent where
  blockNumber : ℕ
  txHash : String
  orderId : String
  deriving DecidableEq

def Store.paymentOrderOf (s : Store) (messageHash network : String) :
    Except QueryError PaymentOrder :=
  only (s.paymentOrders.select fun o =>
    o.messageHash = some messageHash ∧ o.token.network = network)

def Store.balanceEdges (s : Store) (p : LockPaymentOrder → Bool) : Option (String × String × ℚ) :=
  match only (s.lockOrders.select p) with
  | .error _ => none
  | .ok o => o.edges.map fun e => (e.1, e.2.currency, o.fiat)

def Store.refusesLockOrderLink (s : Store) (event : GatewayEvent) : Bool :=
  ¬ s.transactionLogs.rows.any event.isLog ∧ 1 < (s.lockOrders.select event.selects).length

def PaymentOrder.entity (o : PaymentOrder) (change : Option PaymentOrderChange) :
    ℕ × PaymentOrderStatus :=
  (o.id, (change.bind PaymentOrderChange.status).getD o.status)

def commitGatewayEvent (event : GatewayEvent) (change : Option PaymentOrderChange)
    (webhook : Option (ℕ × PaymentOrderStatus)) (commitError senderError webhookError : String) :
    OrderProgram (Except String Unit) :=
  attempt (.gatewayCommit event change) (ret (.error commitError)) fun s =>
  if s.refusesGatewayCommit event change then ret (.error senderError)
  else
    match webhook with
    | none => ret (.ok ())
    | some (id, status) =>
      attempt (.call (.paymentOrderWebhook id status)) (ret (.error webhookError)) fun _ =>
      ret (.ok ())

namespace OrderRefundedEvent

def gatewayEvent (event : OrderRefundedEvent) (network : String) : GatewayEvent :=
  .refunded event.orderId network event.txHash event.blockNumber

def change (event : OrderRefundedEvent) (network messageHash : String) (o : PaymentOrder) :
    Option PaymentOrderChange :=
  if o.status = .refunded then none
  else some
    { paymentOrder := o.id
      messageHash := messageHash
      network := some network
      gatewayId := if o.hasLinkedAddress then "" else event.orderId
      txHash := event.txHash
      blockNumber := event.blockNumber
      status := some .refunded
      percentSettled := none }

end OrderRefundedEvent

namespace OrderSettledEvent

def gatewayEvent (event : OrderSettledEvent) (network : String) (splitOrderId : ℕ) : GatewayEvent :=
  .settled splitOrderId event.orderId network event.txHash event.blockNumber

def change (event : OrderSettledEvent) (messageHash : String) (o : PaymentOrder) :
    Option PaymentOrderChange :=
  let settledPercent := o.percentSettled + Decimal.div event.settlePercent 1000
  if o.status = .settled then none
  else some
    { paymentOrder := o.id
      messageHash := messageHash
      network := none
      gatewayId := event.orderId
      txHash := event.txHash
      blockNumber := event.blockNumber
      status := if 100 ≤ settledPercent then some .settled else none
      percentSettled := some (min settledPercent 100) }

end OrderSettledEvent

def updateOrderStatusRefunded (network : String) (event : OrderRefundedEvent)
    (messageHash : String) : OrderProgram (Except String Unit) :=
  let fetchFailed := ret (.error "UpdateOrderStatusRefunded.fetchOrder")
  let aggregatorFailed := ret (.error "UpdateOrderStatusRefunded.aggregator")
  attempt .read fetchFailed fun s =>
  match s.paymentOrderOf messageHash network with
  | .error .notSingular => fetchFailed
  | found =>
    let paymentOrder := found.toOption
    let change := paymentOrder.bind (event.change network messageHash)
    let commit := commitGatewayEvent (event.gatewayEvent network) change
      (paymentOrder.map fun o => o.entity change)
      "UpdateOrderStatusRefunded.commit" "UpdateOrderStatusRefunded.sender"
      "UpdateOrderStatusRefunded.webhook"
    attempt .read aggregatorFailed fun s =>
    if s.refusesLockOrderLink (event.gatewayEvent network) then aggregatorFailed
    else
      match s.balanceEdges (event.gatewayEvent network).selects with
      | none => commit
      | some (provider, currency, amount) =>
        -- in a transaction of its own; its error is logged
        (releaseReservedBalance provider currency amount).bind fun _ => commit

def updateOrderStatusSettled (network : String) (event : OrderSettledEvent)
    (messageHash : String) : OrderProgram (Except String Unit) :=
  let fetchFailed := ret (.error "UpdateOrderStatusSettled.fetchOrder")
  attempt .read fetchFailed fun s =>
  match s.paymentOrderOf messageHash network with
  | .error .notSingular => fetchFailed
  | found =>
    match event.splitOrderId with
    | none => ret (.error "UpdateOrderStatusSettled.splitOrderId")
    | some splitOrderId =>
      let paymentOrder := found.toOption
      let change := paymentOrder.bind (event.change messageHash)
      let commit := commitGatewayEvent (event.gatewayEvent network splitOrderId) change
        (if change.isSome then paymentOrder.map fun o => o.entity change else none)
        "UpdateOrderStatusSettled.sender" "UpdateOrderStatusSettled.sender"
        "UpdateOrderStatusSettled.webhook"
      attempt .read (ret (.error "UpdateOrderStatusSettled.aggregator")) fun s =>
      match s.balanceEdges (event.gatewayEvent network splitOrderId).selects with
      | none => commit
      | some (provider, currency, amount) =>
        attempt .read commit fun s =>
        match s.balance provider currency with
        | none => commit
        | some b => ignore (.settleBalance provider currency (settle b amount)) commit

def handleCancellation (created : LockPaymentOrder) (reason : String) :
    OrderProgram (Except String Unit) :=
  attempt (.handleCancellationUpdate created.id reason)
    (ret (.error (created.gatewayId ++ " - failed to update lock payment order"))) fun _ =>
  let networkFailed := ret (.error (created.gatewayId ++ " - failed to fetch network"))
  attempt .read networkFailed fun s =>
  match s.lockOrders.get created.id with
  | none => networkFailed
  | some order =>
    ignore (.call (.refundOrder created.id order.token.network created.gatewayId)) (ret (.ok ()))

end Stablenode
