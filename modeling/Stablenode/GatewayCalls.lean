import Stablenode.Faults
import Stablenode.OrderStatus

/-! Settlement and refund (services/common/order.go) call by call. -/
namespace Stablenode.GatewayCalls

open BalanceManagement Proc

inductive CallName where
  | fetchOrder | begin | updateLog | createLog | updateLockOrder | queryLockOrder
  | getBalance | findBalance | updateBalance
  | beginValidation | queryValidation | fixBalances | commitValidation
  | beginRelease | queryRelease | updateRelease | commitRelease
  | updatePaymentOrder | queryReceiveAddress | updateReceiveAddress | commit
  | webhook
  deriving DecidableEq

structure LogEntry where
  status : TransactionStatus
  gatewayId : String
  network : String
  txHash : String
  deriving DecidableEq

def LogEntry.isLog (e : LogEntry) (l : TransactionLog) : Bool :=
  l.status = e.status ∧ l.gatewayId = e.gatewayId ∧ l.network = e.network

inductive TxStatement where
  | updateLog (entry : LogEntry)
  | createLog (entry : LogEntry)
  | updateLockOrders (event : GatewayEvent) (log : Option ℕ)
  | updatePaymentOrders (change : PaymentOrderChange) (log : Option ℕ)
  deriving DecidableEq

def linkPaymentLog (s : Store) (log : Option ℕ) (p : PaymentOrder → Bool) : Store :=
  match s.paymentOrders.select p with
  | [o] =>
    { s with
      transactionLogs := s.transactionLogs.update (fun l => some l.id = log)
        (fun l => { l with paymentOrder := some o.id }) fun _ => rfl }
  | _ => s

namespace TxStatement

def exec : TxStatement → Store → Store
  | updateLog entry, s =>
    { s with
      transactionLogs := s.transactionLogs.update entry.isLog
        (fun l => { l with txHash := entry.txHash }) fun _ => rfl }
  | createLog entry, s =>
    { s with
      transactionLogs := s.transactionLogs.insert
        { s.newLog entry.status entry.network with
          txHash := entry.txHash
          gatewayId := entry.gatewayId } }
  | updateLockOrders event log, s =>
    (s.linkLog log event.selects).updateLockOrders event.selects
      (fun o =>
        { o with
          status := event.lockOrderStatus
          blockNumber := event.blockNumber
          txHash := event.txHash })
      event.updated_id
  | updatePaymentOrders c log, s =>
    (linkPaymentLog s log c.selects).updatePaymentOrders c.selects c.apply c.apply_id

def refused : TxStatement → Store → Bool
  | updateLockOrders event log, s => log.isSome ∧ 1 < (s.lockOrders.select event.selects).length
  | updatePaymentOrders c log, s =>
    (log.isSome ∧ 1 < (s.paymentOrders.select c.selects).length) ∨
      s.paymentUpdateRaises c.selects c.apply
  | _, _ => false

end TxStatement

structure Session where
  store : Store
  tx : List TxStatement

def Session.view (d : Session) : Store := d.tx.foldl (fun s st => st.exec s) d.store

inductive GatewayCall where
  /-- A call that changes no committed row: a query, the start of a transaction, or a statement
  of the balance service that only its commit makes visible. -/
  | query (name : CallName)
  | statement (name : CallName) (st : TxStatement)
  | commit
  | write (name : CallName) (w : OrderWrite)

namespace GatewayCall

def name : GatewayCall → CallName
  | query name => name
  | statement name _ => name
  | commit => .commit
  | write name _ => name

def exec : GatewayCall → Session → Session
  | query _, d => d
  | statement _ st, d => if st.refused d.view then d else { d with tx := d.tx ++ [st] }
  | commit, d => ⟨d.view, []⟩
  | write _ w, d => { d with store := w.exec d.store }

end GatewayCall

abbrev GatewayProgram := Proc GatewayCall Session

inductive GatewayFailure where
  | fetchOrder | transaction | update | create | splitOrderId | aggregator | sender | commit
  | webhook
  deriving DecidableEq

structure StatusUpdate where
  messageHash : String
  entry : LogEntry
  /-- The lock orders to update; `none` when the split order id cannot be parsed. -/
  event : Option GatewayEvent
  change : PaymentOrder → Option PaymentOrderChange
  recycles : PaymentOrderChange → Bool
  notifies : PaymentOrder → Bool
  balanceStep : String → String → ℚ → GatewayProgram Unit

namespace StatusUpdate

variable (U : StatusUpdate)

def finish (paymentOrder : Option PaymentOrder) : GatewayProgram (Except GatewayFailure Unit) :=
  attempt .commit (ret (.error .commit)) fun _ =>
  match paymentOrder.filter U.notifies with
  | none => ret (.ok ())
  | some o =>
    let entity := o.entity (U.change o)
    attempt (.write .webhook (.call (.paymentOrderWebhook entity.1 entity.2)))
      (ret (.error .webhook)) fun _ => ret (.ok ())

def updateSender (paymentOrder : Option PaymentOrder) (log : Option ℕ) :
    GatewayProgram (Except GatewayFailure Unit) :=
  match paymentOrder.bind U.change with
  | none => U.finish paymentOrder
  | some change =>
    attempt (.statement .updatePaymentOrder (.updatePaymentOrders change log)) (ret (.error .sender))
      fun d =>
    if (TxStatement.updatePaymentOrders change log).refused d.view then ret (.error .sender)
    else if U.recycles change then
      -- errors of the receive address are logged
      ignore (.query .queryReceiveAddress) <| ignore (.query .updateReceiveAddress) <|
        U.finish paymentOrder
    else U.finish paymentOrder

def updateAggregator (paymentOrder : Option PaymentOrder) (log : Option ℕ) :
    GatewayProgram (Except GatewayFailure Unit) :=
  match U.event with
  | none => ret (.error .splitOrderId)
  | some event =>
    attempt (.statement .updateLockOrder (.updateLockOrders event log)) (ret (.error .aggregator))
      fun d =>
    if (TxStatement.updateLockOrders event log).refused d.view then ret (.error .aggregator)
    else
      attempt (.query .queryLockOrder) (U.updateSender paymentOrder log) fun d =>
      match d.view.balanceEdges event.selects with
      | none => U.updateSender paymentOrder log
      | some (provider, currency, amount) =>
        (U.balanceStep provider currency amount).bind fun _ => U.updateSender paymentOrder log

def updateLogs (paymentOrder : Option PaymentOrder) : GatewayProgram (Except GatewayFailure Unit) :=
  attempt (.statement .updateLog (.updateLog U.entry)) (ret (.error .update)) fun d =>
  if d.view.transactionLogs.rows.any U.entry.isLog then U.updateAggregator paymentOrder none
  else
    attempt (.statement .createLog (.createLog U.entry)) (ret (.error .create)) fun d =>
    U.updateAggregator paymentOrder (some d.view.transactionLogs.fresh)

def run : GatewayProgram (Except GatewayFailure Unit) :=
  attempt (.query .fetchOrder) (ret (.error .fetchOrder)) fun d =>
  match d.store.paymentOrderOf U.messageHash U.entry.network with
  | .error .notSingular => ret (.error .fetchOrder)
  | found => attempt (.query .begin) (ret (.error .transaction)) fun _ => U.updateLogs found.toOption

end StatusUpdate

def releaseStep (provider currency : String) (amount : ℚ) : GatewayProgram Unit :=
  attempt (.query .beginValidation) (ret ()) fun _ =>
  attempt (.query .queryValidation) (ret ()) fun d =>
  match d.store.balance provider currency with
  | none => ret ()
  | some b =>
    match validateAndFixBalances b with
    | .error _ => ignore (.query .fixBalances) (ret ())
    | .ok _ =>
      attempt (.query .commitValidation) (ret ()) fun _ =>
      attempt (.query .beginRelease) (ret ()) fun _ =>
      attempt (.query .queryRelease) (ret ()) fun d =>
      match d.store.balance provider currency with
      | none => ret ()
      | some b =>
        match releaseInTx b amount with
        | .error _ => ret ()
        | .ok b' =>
          attempt (.query .updateRelease) (ret ()) fun _ =>
          ignore (.write .commitRelease (.releaseCommit provider currency b')) (ret ())

def settleStep (provider currency : String) (amount : ℚ) : GatewayProgram Unit :=
  attempt (.query .getBalance) (ret ()) fun d =>
  match d.store.balance provider currency with
  | none => ret ()
  | some b =>
    attempt (.query .findBalance) (ret ()) fun d =>
    if (d.store.balance provider currency).isSome then
      ignore (.write .updateBalance (.settleBalance provider currency (settle b amount))) (ret ())
    else ret ()

def refundedUpdate (network : String) (event : OrderRefundedEvent) (messageHash : String) :
    StatusUpdate where
  messageHash := messageHash
  entry := ⟨.orderRefunded, event.orderId, network, event.txHash⟩
  event := some (event.gatewayEvent network)
  change := event.change network messageHash
  recycles _ := false
  notifies _ := true
  balanceStep := releaseStep

def settledUpdate (network : String) (event : OrderSettledEvent) (messageHash : String) :
    StatusUpdate where
  messageHash := messageHash
  entry := ⟨.orderSettled, event.orderId, network, event.txHash⟩
  event := event.splitOrderId.map (event.gatewayEvent network)
  change := event.change messageHash
  recycles c := c.status = some .settled
  notifies o := (event.change messageHash o).isSome
  balanceStep := settleStep

def updateOrderStatusRefunded (network : String) (event : OrderRefundedEvent)
    (messageHash : String) : GatewayProgram (Except GatewayFailure Unit) :=
  (refundedUpdate network event messageHash).run

def updateOrderStatusSettled (network : String) (event : OrderSettledEvent)
    (messageHash : String) : GatewayProgram (Except GatewayFailure Unit) :=
  (settledUpdate network event messageHash).run

end Stablenode.GatewayCalls
