import Stablenode.OrderWrites

/-! The writes of the payment side, and their effect. -/
namespace Stablenode

structure TokenTransferEvent where
  blockNumber : ℕ
  txHash : String
  fromAddress : String
  toAddress : String
  value : ℚ
  deriving DecidableEq

structure DepositUpdate where
  network : String
  returnAddress : Option String
  amount : Option ℚ
  rate : Option ℚ
  deriving DecidableEq

inductive PaymentOrderUpdate where
  | messageHash (hash : String)
  | status (status : PaymentOrderStatus)
  | rate (rate : ℚ)
  | amountPaid (amount : ℚ)
  deriving DecidableEq

inductive CreateOrderCause where
  | deposit (event : TokenTransferEvent) (amount fees : ℚ) (decimals : ℕ)
  | retry (orderAmountWithFees : ℚ)
  deriving DecidableEq

inductive PaymentWrite where
  | read
  | depositCommit (order : ℕ) (event : TokenTransferEvent) (update : DepositUpdate)
  | markAddressUsed (address : ℕ) (event : TokenTransferEvent)
  | setAddressValidUntil (address time : ℕ)
  | expireAddress (address : ℕ)
  /-- The query with which `CreateOrder` starts. -/
  | createOrder (cause : CreateOrderCause) (order : ℕ)
  | update (order : ℕ) (update : PaymentOrderUpdate)
  | call (c : ExternalCall)
  deriving DecidableEq

def DepositUpdate.apply (u : DepositUpdate) (event : TokenTransferEvent) (o : PaymentOrder) :
    PaymentOrder :=
  { o with
    fromAddress := event.fromAddress
    txHash := event.txHash
    blockNumber := event.blockNumber
    amountPaid := event.value
    status := .pending
    returnAddress := u.returnAddress.getD o.returnAddress
    amount := u.amount.getD o.amount
    rate := u.rate.getD o.rate }

def PaymentOrderUpdate.apply (u : PaymentOrderUpdate) (o : PaymentOrder) : PaymentOrder :=
  match u with
  | messageHash hash => { o with messageHash := some hash, status := .pending }
  | status st => { o with status := st }
  | rate r => { o with rate := r }
  | amountPaid a => { o with amountPaid := a }

lemma PaymentOrderUpdate.apply_id (u : PaymentOrderUpdate) (o : PaymentOrder) :
    (u.apply o).id = o.id := by
  cases u <;> rfl

namespace Store

def refusesDeposit (s : Store) (order : ℕ) (event : TokenTransferEvent) (u : DepositUpdate) : Bool :=
  s.paymentUpdateRaises (fun o => o.id = order) (u.apply event)

def depositLog (s : Store) (order : ℕ) (event : TokenTransferEvent) (u : DepositUpdate) :
    TransactionLog :=
  { s.newLog .cryptoDeposited u.network with
    txHash := event.txHash
    paymentOrder := (s.paymentOrders.get order).map PaymentOrder.id }

def refusesUpdate (s : Store) (order : ℕ) (u : PaymentOrderUpdate) : Bool :=
  (s.paymentOrders.get order).isNone ∨ s.paymentUpdateRaises (fun o => o.id = order) u.apply

def updateReceiveAddress (s : Store) (address : ℕ) (f : ReceiveAddress → ReceiveAddress)
    (hf : ∀ r, (f r).id = r.id) : Store :=
  { s with receiveAddresses := s.receiveAddresses.modify address f hf }

end Store

open Store

def PaymentWrite.exec : PaymentWrite → Store → Store
  | read, s => s
  | depositCommit order event u, s =>
    if s.refusesDeposit order event u then s
    else
      { s with
        transactionLogs := s.transactionLogs.insert (s.depositLog order event u)
        paymentOrders := s.paymentOrders.modify order
          (fun o => { u.apply event o with updatedAt := s.now }) fun _ => rfl }
  | markAddressUsed address event, s =>
    s.updateReceiveAddress address
      (fun r =>
        { r with
          status := .used
          lastUsed := some s.now
          txHash := event.txHash
          lastIndexedBlock := event.blockNumber })
      fun _ => rfl
  | setAddressValidUntil address time, s =>
    s.updateReceiveAddress address (fun r => { r with validUntil := some time }) fun _ => rfl
  | expireAddress address, s =>
    s.updateReceiveAddress address (fun r => { r with status := .expired }) fun _ => rfl
  | createOrder _ _, s => s
  | update order u, s =>
    if s.refusesUpdate order u then s
    else
      { s with
        paymentOrders := s.paymentOrders.modify order
          (fun o => { u.apply o with updatedAt := s.now }) fun o => u.apply_id o }
  | call c, s => { s with calls := s.calls ++ [c] }

variable {event : TokenTransferEvent} {order : ℕ} {s : Store} {u : DepositUpdate}

lemma PaymentWrite.exec_depositCommit_logs (h : s.refusesDeposit order event u = false) :
    ((depositCommit order event u).exec s).transactionLogs.rows =
      s.transactionLogs.rows ++ [s.depositLog order event u] := by
  simp only [exec, h, Bool.false_eq_true, if_false]
  exact Table.insert_rows (Table.get_fresh _)

lemma PaymentWrite.exec_depositCommit_get (h : s.refusesDeposit order event u = false) (id : ℕ) :
    ((depositCommit order event u).exec s).paymentOrders.get id =
      if id = order then
        (s.paymentOrders.get order).map fun o => { u.apply event o with updatedAt := s.now }
      else s.paymentOrders.get id := by
  simp only [exec, h, Bool.false_eq_true, if_false]
  exact Table.get_modify s.paymentOrders order
    (fun o => { u.apply event o with updatedAt := s.now }) (fun _ => rfl) id

lemma PaymentWrite.exec_update_get {u : PaymentOrderUpdate} (h : s.refusesUpdate order u = false)
    (id : ℕ) :
    ((update order u).exec s).paymentOrders.get id =
      if id = order then
        (s.paymentOrders.get order).map fun o => { u.apply o with updatedAt := s.now }
      else s.paymentOrders.get id := by
  simp only [exec, h, Bool.false_eq_true, if_false]
  exact Table.get_modify s.paymentOrders order
    (fun o => { u.apply o with updatedAt := s.now }) u.apply_id id

abbrev PaymentProgram := Proc PaymentWrite Store

end Stablenode
