import Stablenode.Process
import Stablenode.Store

/-! The writes of the order side, one constructor for each statement or commit, and their effect. -/
namespace Stablenode

open BalanceManagement

inductive RequestEnd where
  | accepted | declined
  deriving DecidableEq

structure PaymentOrderChange where
  paymentOrder : ℕ
  messageHash : String
  network : Option String
  gatewayId : String
  txHash : String
  blockNumber : ℕ
  status : Option PaymentOrderStatus
  percentSettled : Option ℚ
  deriving DecidableEq

def PaymentOrderChange.selects (c : PaymentOrderChange) (o : PaymentOrder) : Bool :=
  o.messageHash = some c.messageHash ∧ (c.network = none ∨ c.network = some o.token.network)

def PaymentOrderChange.apply (c : PaymentOrderChange) (o : PaymentOrder) : PaymentOrder :=
  { o with
    gatewayId := some c.gatewayId
    txHash := c.txHash
    blockNumber := c.blockNumber
    status := c.status.getD o.status
    percentSettled := c.percentSettled.getD o.percentSettled }

lemma PaymentOrderChange.apply_id (c : PaymentOrderChange) (o : PaymentOrder) :
    (c.apply o).id = o.id := rfl

inductive GatewayEvent where
  | settled (order : ℕ) (gatewayId network txHash : String) (blockNumber : ℕ)
  | refunded (gatewayId network txHash : String) (blockNumber : ℕ)
  deriving DecidableEq

namespace GatewayEvent

def gatewayId : GatewayEvent → String
  | settled _ g _ _ _ => g
  | refunded g _ _ _ => g

def network : GatewayEvent → String
  | settled _ _ n _ _ => n
  | refunded _ n _ _ => n

def txHash : GatewayEvent → String
  | settled _ _ _ h _ => h
  | refunded _ _ h _ => h

def blockNumber : GatewayEvent → ℕ
  | settled _ _ _ _ b => b
  | refunded _ _ _ b => b

def lockOrderStatus : GatewayEvent → LockOrderStatus
  | settled .. => .settled
  | refunded .. => .refunded

def logStatus : GatewayEvent → TransactionStatus
  | settled .. => .orderSettled
  | refunded .. => .orderRefunded

def selects : GatewayEvent → LockPaymentOrder → Bool
  | settled order _ network _ _, o => o.id = order ∧ o.token.network = network
  | refunded gatewayId network _ _, o => o.gatewayId = gatewayId ∧ o.token.network = network

def isLog (e : GatewayEvent) (l : TransactionLog) : Bool :=
  l.status = e.logStatus ∧ l.gatewayId = e.gatewayId ∧ l.network = e.network

lemma updated_id (e : GatewayEvent) (o : LockPaymentOrder) :
    LockPaymentOrder.id
      { o with status := e.lockOrderStatus, blockNumber := e.blockNumber, txHash := e.txHash } = o.id :=
  rfl

end GatewayEvent

inductive OrderWrite where
  | read
  | tick (seconds : ℕ)
  | reserveCommit (order : ℕ) (provider currency : String) (amount : ℚ) (new : Balance)
  /-- The commit of `ReleaseReservedBalance` without a caller transaction. -/
  | releaseCommit (provider currency : String) (new : Balance)
  | settleBalance (provider currency : String) (new : Balance)
  | syncBalance (provider currency : String) (new : Balance)
  | setOrderRequest (order : ℕ) (fields : List (String × String))
  | expireOrderRequestAt (order time : ℕ)
  | expireOrderRequest (order : ℕ)
  | deleteOrderRequest (why : RequestEnd) (order : ℕ) (provider : String)
  | pushExclude (order : ℕ) (provider : String)
  | popQueue (key : QueueKey)
  | pushQueue (key : QueueKey) (entry : QueueEntry)
  /-- `LSET` at an index counted from the end. -/
  | setQueueFromEnd (key : QueueKey) (index : ℕ) (entry : QueueEntry)
  | removeFromQueue (key : QueueKey) (entry : QueueEntry)
  | call (c : ExternalCall)
  | createLog (status : TransactionStatus) (network : String)
  | acceptCommit (order : ℕ) (provider : String) (logged : Bool)
  | createFulfillment (order : ℕ) (txId psp : String) (status : ValidationStatus) (error : String)
  /-- The commit of `FulfillOrder` for a successful validation. -/
  | validateCommit (order fulfillment : ℕ) (network provider currency : String) (new : Balance)
  | setFulfillment (fulfillment : ℕ) (status : ValidationStatus) (error : Option String)
  /-- `FulfillOrder`: fulfilled, if the order is processing or fulfilled. -/
  | fulfillUpdate (order : ℕ) (log : Option ℕ)
  | setPaymentOrderStatus (paymentOrder : ℕ) (status : PaymentOrderStatus)
  | setPaymentOrderRate (paymentOrder : ℕ) (rate : ℚ)
  | cancelUpdate (order count : ℕ) (reason : Option String)
  | handleCancellationUpdate (order : ℕ) (reason : String)
  | reassignUpdate (order : ℕ)
  | deleteFulfillment (fulfillment : ℕ)
  | syncStatus (order : ℕ) (status : LockOrderStatus) (log : Option ℕ)
  | deleteOrder (order : ℕ)
  | gatewayCommit (event : GatewayEvent) (payment : Option PaymentOrderChange)
  deriving DecidableEq

namespace Store

def setBalance (s : Store) (provider currency : String) (b : Balance) : Store :=
  { s with
    balances := s.balances.modify (provider, currency)
      (fun r => { r with balance := b, updatedAt := s.now }) fun _ => rfl }

def setFunds (s : Store) (provider currency : String) (b : Balance) : Store :=
  { s with
    balances := s.balances.modify (provider, currency)
      (fun r =>
        { r with
          balance := ⟨b.available, b.reserved, r.balance.total⟩
          updatedAt := s.now }) fun _ => rfl }

def updateLockOrders (s : Store) (p : LockPaymentOrder → Bool)
    (f : LockPaymentOrder → LockPaymentOrder) (hf : ∀ o, (f o).id = o.id) : Store :=
  { s with
    lockOrders := s.lockOrders.update p (fun o => { f o with updatedAt := s.now }) hf }

def setLockOrderStatus (s : Store) (order : ℕ) (status : LockOrderStatus) : Store :=
  s.updateLockOrders (fun o => o.id = order) (fun o => { o with status }) fun _ => rfl

def linkLog (s : Store) (log : Option ℕ) (p : LockPaymentOrder → Bool) : Store :=
  match s.lockOrders.select p with
  | [o] =>
    { s with
      transactionLogs := s.transactionLogs.update (fun l => some l.id = log)
        (fun l => { l with lockOrder := some o.id }) fun _ => rfl }
  | _ => s

def newLog (s : Store) (status : TransactionStatus) (network : String) : TransactionLog where
  id := s.transactionLogs.fresh
  status := status
  txHash := ""
  gatewayId := ""
  network := network
  lockOrder := none
  paymentOrder := none

def updatePaymentOrders (s : Store) (p : PaymentOrder → Bool) (f : PaymentOrder → PaymentOrder)
    (hf : ∀ o, (f o).id = o.id) : Store :=
  { s with
    paymentOrders := s.paymentOrders.update p (fun o => { f o with updatedAt := s.now }) hf }

def paymentUpdateRaises (s : Store) (p : PaymentOrder → Bool) (f : PaymentOrder → PaymentOrder) :
    Bool :=
  (s.paymentOrders.select p).any fun o => raisesDuplicate o (f o)

def refusesGatewayCommit (s : Store) (event : GatewayEvent) (payment : Option PaymentOrderChange) :
    Bool :=
  (¬ s.transactionLogs.rows.any event.isLog ∧ 1 < (s.lockOrders.select event.selects).length) ∨
    payment.any fun c =>
      (¬ s.transactionLogs.rows.any event.isLog ∧ 1 < (s.paymentOrders.select c.selects).length) ∨
        s.paymentUpdateRaises c.selects c.apply

def recordGatewayLog (s : Store) (event : GatewayEvent) (payment : Option PaymentOrderChange) :
    Store :=
  if s.transactionLogs.rows.any event.isLog then
    { s with
      transactionLogs := s.transactionLogs.update event.isLog
        (fun l => { l with txHash := event.txHash }) fun _ => rfl }
  else
    { s with
      transactionLogs := s.transactionLogs.insert
        { s.newLog event.logStatus event.network with
          txHash := event.txHash
          gatewayId := event.gatewayId
          lockOrder := (s.lockOrders.select event.selects).head?.map LockPaymentOrder.id
          paymentOrder := payment.bind fun c =>
            (s.paymentOrders.select c.selects).head?.map PaymentOrder.id } }

def changePaymentOrders (s : Store) : Option PaymentOrderChange → Store
  | none => s
  | some c => s.updatePaymentOrders c.selects c.apply c.apply_id

def updateQueue (s : Store) (key : QueueKey) (f : List QueueEntry → List QueueEntry) : Store :=
  if (s.queues.get key).isSome then
    { s with queues := s.queues.modify key (fun q => { q with entries := f q.entries }) fun _ => rfl }
  else { s with queues := s.queues.insert ⟨key, f []⟩ }

def deleteRequest (s : Store) (order : ℕ) : Store :=
  { s with orderRequests := s.orderRequests.delete fun r => r.order = order }

end Store

lemma Store.balance_setBalance (s : Store) (p cur P c : String) (b : Balance) :
    (s.setBalance p cur b).balance P c =
      if (P, c) = (p, cur) then (s.balance P c).map fun _ => b else s.balance P c := by
  simp only [Store.balance, Store.setBalance]
  split_ifs with h
  · rw [h, Table.get_modify_self, Option.map_map, Option.map_map]
    rfl
  · rw [Table.get_modify_of_ne _ _ _ h]

lemma Store.balance_setFunds (s : Store) (p cur P c : String) (b : Balance) :
    (s.setFunds p cur b).balance P c =
      if (P, c) = (p, cur) then
        (s.balance P c).map fun old => ⟨b.available, b.reserved, old.total⟩
      else s.balance P c := by
  simp only [Store.balance, Store.setFunds]
  split_ifs with h
  · rw [h, Table.get_modify_self, Option.map_map, Option.map_map]
    rfl
  · rw [Table.get_modify_of_ne _ _ _ h]

lemma Store.setFunds_eq_setBalance {s : Store} {p cur : String} {old b : Balance}
    (hold : s.balance p cur = some old) (htotal : b.total = old.total) :
    s.setFunds p cur b = s.setBalance p cur b := by
  have hrows : ∀ hf hg, s.balances.modify (p, cur)
      (fun r => { r with balance := ⟨b.available, b.reserved, r.balance.total⟩, updatedAt := s.now })
        hf =
        s.balances.modify (p, cur) (fun r => { r with balance := b, updatedAt := s.now }) hg := by
    intro hf hg
    refine Table.update_congr hf hg fun r hr hkey => ?_
    have hget : s.balances.get (r.provider, r.currency) = some r := Table.get_of_mem hr
    rw [show (r.provider, r.currency) = (p, cur) from of_decide_eq_true hkey] at hget
    have hrow : r.balance = old := by simpa [Store.balance, hget] using hold
    rw [hrow, ← htotal]
  rw [Store.setFunds, Store.setBalance, hrows]

open Store

def OrderWrite.exec : OrderWrite → Store → Store
  | read, s => s
  | tick seconds, s => { s with now := s.now + seconds }
  | reserveCommit _ provider currency _ new, s => s.setFunds provider currency new
  | releaseCommit provider currency new, s => s.setFunds provider currency new
  | settleBalance provider currency new, s => s.setBalance provider currency new
  | syncBalance provider currency new, s =>
    if (s.balances.get (provider, currency)).isSome then s.setBalance provider currency new
    else { s with balances := s.balances.insert ⟨provider, currency, new, true, s.now⟩ }
  | setOrderRequest order fields, s =>
    if (s.orderRequests.get order).isSome then
      { s with
        orderRequests := s.orderRequests.modify order
          (fun r => { r with fields := Fields.setFields r.fields fields }) fun _ => rfl }
    else { s with orderRequests := s.orderRequests.insert ⟨order, fields, none⟩ }
  | expireOrderRequestAt order time, s =>
    { s with
      orderRequests := s.orderRequests.modify order
        (fun r => { r with expiresAt := some time }) fun _ => rfl }
  | expireOrderRequest order, s => s.deleteRequest order
  | deleteOrderRequest _ order _, s => s.deleteRequest order
  | pushExclude order provider, s => { s with excludeLists := s.excludeLists ++ [(order, provider)] }
  | popQueue key, s => s.updateQueue key List.tail
  | pushQueue key entry, s => s.updateQueue key (· ++ [entry])
  | setQueueFromEnd key index entry, s =>
    s.updateQueue key fun entries => (entries.reverse.set index entry).reverse
  | removeFromQueue key entry, s => s.updateQueue key (List.filter (· ≠ entry))
  | call c, s => { s with calls := s.calls ++ [c] }
  | createLog status network, s =>
    { s with transactionLogs := s.transactionLogs.insert (s.newLog status network) }
  | acceptCommit order provider logged, s =>
    if s.hasLockOrder order then
      let s := if logged then
          { s with
            transactionLogs := s.transactionLogs.insert
              { s.newLog .orderProcessing "" with lockOrder := some order } }
        else s
      s.updateLockOrders (fun o => o.id = order)
        (fun o => { o with status := .processing, provider := some provider }) fun _ => rfl
    else s
  | createFulfillment order txId psp status error, s =>
    if s.hasLockOrder order then
      { s with
        fulfillments := s.fulfillments.insert
          ⟨s.fulfillments.fresh, txId, psp, status, error, order, s.now⟩ }
    else s
  | validateCommit order fulfillment network provider currency new, s =>
    if s.hasFulfillment fulfillment then
      let s := { s with
        fulfillments := s.fulfillments.modify fulfillment
          (fun f => { f with validationStatus := .success, updatedAt := s.now }) fun _ => rfl
        transactionLogs := s.transactionLogs.insert
          { s.newLog .orderValidated network with
            lockOrder := if s.hasLockOrder order then some order else none } }
      (s.setLockOrderStatus order .validated).setFunds provider currency new
    else s
  | setFulfillment fulfillment status error, s =>
    { s with
      fulfillments := s.fulfillments.modify fulfillment
        (fun f =>
          { f with
            validationStatus := status
            validationError := error.getD f.validationError
            updatedAt := s.now })
        fun _ => rfl }
  | fulfillUpdate order log, s =>
    let isTarget (o : LockPaymentOrder) : Bool :=
      o.id = order ∧ (o.status = .processing ∨ o.status = .fulfilled)
    (s.linkLog log isTarget).updateLockOrders isTarget
      (fun o => { o with status := .fulfilled }) fun _ => rfl
  | setPaymentOrderStatus paymentOrder status, s =>
    let isTarget (o : PaymentOrder) : Bool := o.id = paymentOrder
    if s.paymentUpdateRaises isTarget fun o => { o with status } then s
    else s.updatePaymentOrders isTarget (fun o => { o with status }) fun _ => rfl
  | setPaymentOrderRate paymentOrder rate, s =>
    let isTarget (o : PaymentOrder) : Bool := o.id = paymentOrder
    if s.paymentUpdateRaises isTarget fun o => { o with rate } then s
    else s.updatePaymentOrders isTarget (fun o => { o with rate }) fun _ => rfl
  | cancelUpdate order count reason, s =>
    s.updateLockOrders (fun o => o.id = order)
      (fun o =>
        { o with
          status := .cancelled
          cancellationCount := count
          cancellationReasons := o.cancellationReasons ++ reason.toList })
      fun _ => rfl
  | handleCancellationUpdate order reason, s =>
    s.updateLockOrders (fun o => o.id = order)
      (fun o =>
        { o with
          status := .cancelled
          cancellationCount := 3
          cancellationReasons := [reason] })
      fun _ => rfl
  | reassignUpdate order, s =>
    s.updateLockOrders (fun o => o.id = order)
      (fun o => { o with status := .pending, provider := none }) fun _ => rfl
  | deleteFulfillment fulfillment, s =>
    { s with fulfillments := s.fulfillments.delete fun f => f.id = fulfillment }
  | syncStatus order status log, s =>
    (s.linkLog log fun o => o.id = order).setLockOrderStatus order status
  | deleteOrder order, s =>
    -- fulfilments go with their order, transaction logs lose the reference
    { s with
      lockOrders := s.lockOrders.delete fun o => o.id = order
      fulfillments := s.fulfillments.delete fun f => f.order = order
      transactionLogs := s.transactionLogs.update (fun l => l.lockOrder = some order)
        (fun l => { l with lockOrder := none }) fun _ => rfl }
  | gatewayCommit event payment, s =>
    if s.refusesGatewayCommit event payment then s
    else
      ((s.recordGatewayLog event payment).updateLockOrders event.selects
        (fun o =>
          { o with
            status := event.lockOrderStatus
            blockNumber := event.blockNumber
            txHash := event.txHash })
        event.updated_id).changePaymentOrders payment

@[simp] lemma OrderWrite.exec_read (s : Store) : read.exec s = s := rfl

abbrev OrderProgram := Proc OrderWrite Store

end Stablenode
