import Stablenode.Deposits
import Stablenode.GatewayCalls
import Stablenode.Transactions

/-! The functions that open a database transaction, exit by exit (services/balance_management.go,
services/priority_queue.go, services/common/indexer.go, services/common/order.go,
controllers/provider/provider.go). -/
namespace Stablenode.TransactionScopes

open BalanceManagement GatewayCalls Proc

inductive TxName where
  | validation | balance | caller
  deriving DecidableEq

inductive Query where
  | balance (tx : TxName)
  | countAddresses | findLog | senderProvider | institution | providerRate
  | fetchOrder | lockOrder | currentBalance | findBalance | receiveAddress
  | fulfillment | createdFulfillment | paymentOrder
  deriving DecidableEq

inductive Step where
  | query (q : Query)
  | updateBalance (tx : TxName) (row : Balance)
  | order (w : OrderWrite)
  | depositLog (network : String) (event : TokenTransferEvent)
  | depositUpdate (order : ℕ) (event : TokenTransferEvent) (update : DepositUpdate)
  | markAddressUsed (address : ℕ) (event : TokenTransferEvent)
  /-- The function that `UpdateReceiveAddressStatus` is given; it opens no transaction. -/
  | createOrder (order : ℕ)
  | addressValidity (address : ℕ)
  | updateLog (entry : LogEntry)
  | createLog (entry : LogEntry)
  | updateLockOrders (event : GatewayEvent)
  | updatePaymentOrders (change : PaymentOrderChange)
  | recycleAddress (order : ℕ)
  | validateOrder (order : ℕ)
  deriving DecidableEq

abbrev TxProgram := Proc (TxCall TxName Step) Store

inductive ServiceFailure where
  | startTransaction
  | getProviderBalance
  | fix (e : ValidationError)
  | balance (e : BalanceError)
  | update
  | commit
  | validation (e : ServiceFailure)
  deriving DecidableEq

def commitTx (tx : TxName) : TxProgram (Exit (Except ServiceFailure Unit)) :=
  attempt (.commit tx) (ret ⟨.error .commit, false⟩) fun _ => ret ⟨.ok (), false⟩

section Balance

variable (provider currency : String)

def validateAndFixBalances : TxProgram (Except ServiceFailure Unit) :=
  attempt (.begin .validation) (ret (.error .startTransaction)) fun _ =>
  rollbackOnErr .validation <|
  attempt (.step (.query (.balance .validation))) (ret ⟨.error .getProviderBalance, true⟩) fun s =>
  match s.balance provider currency with
  | none => ret ⟨.error .getProviderBalance, true⟩
  | some b =>
    match validateBalanceConsistencyInternal b with
    | .ok _ => commitTx .validation
    | .error e =>
      -- `validationErr` and `fixErr` are not the variable of the deferred function
      attempt (.step (.updateBalance .validation (fixBalanceInconsistenciesInternal b)))
        (ret ⟨.error (.fix e), false⟩) fun _ =>
      match validateBalanceConsistencyInternal b with
      | .ok _ => commitTx .validation
      | .error e => ret ⟨.error (.balance (.stillInconsistent e)), false⟩

variable (amount : ℚ)

def reserveWithin (tx : TxName) : TxProgram (Except ServiceFailure Unit) :=
  attempt (.step (.query (.balance tx))) (ret (.error .getProviderBalance)) fun s =>
  match s.balance provider currency with
  | none => ret (.error .getProviderBalance)
  | some b =>
    match reserveInTx b amount with
    | .error e => ret (.error (.balance e))
    | .ok b' => attempt (.step (.updateBalance tx b')) (ret (.error .update)) fun _ => ret (.ok ())

def reserveBalance : TxProgram (Except ServiceFailure Unit) :=
  (validateAndFixBalances provider currency).bind fun
  | .error e => ret (.error (.validation e))
  | .ok _ =>
    attempt (.begin .balance) (ret (.error .startTransaction)) fun _ =>
    rollbackOnErr .balance <|
    (reserveWithin provider currency amount .balance).bind fun
    -- the deferred function reads `txErr`, which is nil once the transaction is open
    | .error e => ret ⟨.error e, false⟩
    | .ok _ => commitTx .balance

def releaseWithin (tx : TxName) : TxProgram (Exit (Except ServiceFailure Unit)) :=
  attempt (.step (.query (.balance tx))) (ret ⟨.error .getProviderBalance, true⟩) fun s =>
  match s.balance provider currency with
  | none => ret ⟨.error .getProviderBalance, true⟩
  | some b =>
    match releaseInTx b amount with
    | .error e => ret ⟨.error (.balance e), false⟩
    | .ok b' =>
      attempt (.step (.updateBalance tx b')) (ret ⟨.error .update, true⟩) fun _ =>
      ret ⟨.ok (), false⟩

def releaseReservedBalance : TxProgram (Except ServiceFailure Unit) :=
  (validateAndFixBalances provider currency).bind fun
  | .error e => ret (.error (.validation e))
  | .ok _ =>
    attempt (.begin .balance) (ret (.error .startTransaction)) fun _ =>
    rollbackOnErr .balance <|
    (releaseWithin provider currency amount .balance).bind fun
    | ⟨.error e, err⟩ => ret ⟨.error e, err⟩
    | ⟨.ok _, _⟩ => commitTx .balance

def releaseAlways (skips : Balance → Bool) (newRow : Balance → Balance) :
    TxProgram (Except ServiceFailure Unit) :=
  attempt (.begin .balance) (ret (.error .startTransaction)) fun _ =>
  rollbackOnErr .balance <|
  attempt (.step (.query (.balance .balance))) (ret ⟨.error .getProviderBalance, true⟩) fun s =>
  match s.balance provider currency with
  | none => ret ⟨.error .getProviderBalance, true⟩
  | some b =>
    if skips b then commitTx .balance
    else
      attempt (.step (.updateBalance .balance (newRow b))) (ret ⟨.error .update, true⟩) fun _ =>
      commitTx .balance

def handleOrderTimeout : TxProgram (Except ServiceFailure Unit) :=
  releaseAlways provider currency (fun b => b.reserved ≤ 0)
    fun b => BalanceManagement.handleOrderTimeout b amount

def cancelOrderAndReleaseBalance : TxProgram (Except ServiceFailure Unit) :=
  releaseAlways provider currency (fun _ => false)
    fun b => BalanceManagement.cancelOrderAndReleaseBalance b amount

end Balance

inductive SendError where
  | startTransaction
  | reserve (e : ServiceFailure)
  | redis
  | notify
  | commit
  deriving DecidableEq

def notifyAndCommit (order : OrderFields) (expireFailed : Bool) :
    TxProgram (Exit (Completion SendError)) :=
  attempt (.step (.order (.call (.newOrder order.providerId order.id))))
    (ret ⟨.error .notify, expireFailed⟩) fun _ =>
  attempt (.commit .caller) (ret ⟨.error .commit, expireFailed⟩) fun _ => ret ⟨.ok, expireFailed⟩

def offer (conf : OrderConfig) (order : OrderFields) (bucket : ProvisionBucket) :
    TxProgram (Exit (Completion SendError)) :=
  attempt (.step (.order (.setOrderRequest order.id (orderRequestData order bucket.currency))))
    (ret ⟨.error .redis, false⟩) fun s =>
  attempt (.step (.order (.expireOrderRequestAt order.id (s.now + conf.orderRequestValidity))))
    (notifyAndCommit order true) fun _ => notifyAndCommit order false

def sendOrderRequest (conf : OrderConfig) (order : OrderFields) :
    TxProgram (Completion SendError) :=
  match order.provisionBucket with
  | none => ret .panicked
  | some bucket =>
    attempt (.begin .caller) (ret (.error .startTransaction)) fun _ =>
    rollbackOnErr .caller <|
    (reserveWithin order.providerId bucket.currency order.fiat .caller).bind fun
    | .error e => ret ⟨.error (.reserve e), true⟩
    | .ok _ => offer conf order bucket

section Deposit

variable (env : PaymentEnvironment) (receiveAddress : ReceiveAddress) (paymentOrder : PaymentOrder)
  (event : TokenTransferEvent)

def depositFailed : TxProgram (Except String Bool) :=
  ret (.error "UpdateReceiveAddressStatus.db")

def finishDeposit : TxProgram (Except String Bool) :=
  if 0 < event.value then
    attempt (.step (.markAddressUsed receiveAddress.id event)) depositFailed fun _ =>
    attempt (.step (.createOrder paymentOrder.id))
      (ret (.error "UpdateReceiveAddressStatus.CreateOrder")) fun _ => ret (.ok true)
  else
    attempt (.step (.addressValidity receiveAddress.id))
      (ret (.error "UpdateReceiveAddressStatus.HandleReceiveAddressValidity")) fun _ =>
    ret (.ok false)

def lookUpRate (now : ℕ) (k : TxProgram (Except String Bool)) : TxProgram (Except String Bool) :=
  if ¬ transferMatches paymentOrder event.value ∧ refreshesRate now paymentOrder then
    attempt (.step (.query .senderProvider)) depositFailed fun _ =>
    attempt (.step (.query .institution)) depositFailed fun _ =>
    attempt (.step (.query .providerRate)) depositFailed fun _ => k
  else k

def saveDeposit (u : DepositUpdate) : TxProgram (Except String Bool) :=
  if (paymentOrder.txHash = "" ∨ paymentOrder.txHash = event.txHash) ∧
      paymentOrder.status = .initiated then
    attempt (.step (.depositLog u.network event))
      (ret (.error "UpdateReceiveAddressStatus.transactionlog")) fun _ =>
    attempt (.step (.depositUpdate paymentOrder.id event u)) depositFailed fun _ =>
    attempt (.commit .caller) depositFailed fun _ => finishDeposit receiveAddress paymentOrder event
  else finishDeposit receiveAddress paymentOrder event

def deposit : TxProgram (Except String Bool) :=
  attempt (.begin .caller) depositFailed fun s =>
  lookUpRate paymentOrder event s.now <|
  match depositUpdate env s.now paymentOrder event with
  | none => depositFailed
  | some u => saveDeposit receiveAddress paymentOrder event u

def updateReceiveAddressStatus : TxProgram (Except String Bool) :=
  if equalFold event.toAddress receiveAddress.address then
    attempt (.step (.query .countAddresses)) depositFailed fun s =>
    if s.addressTaken receiveAddress event then ret (.ok false)
    else if paymentOrder.txHash = event.txHash then ret (.ok false)
    else
      attempt (.step (.query .findLog)) (deposit env receiveAddress paymentOrder event) fun s =>
      if s.isLogged event then ret (.ok false) else deposit env receiveAddress paymentOrder event
  else ret (.ok false)

end Deposit

section StatusUpdate

def settleStep (provider currency : String) (amount : ℚ) : TxProgram Unit :=
  attempt (.step (.query .currentBalance)) (ret ()) fun s =>
  match s.balance provider currency with
  | none => ret ()
  | some b =>
    attempt (.step (.query .findBalance)) (ret ()) fun _ =>
    ignore (.step (.order (.settleBalance provider currency (settle b amount)))) (ret ())

variable (U : StatusUpdate) (balanceStep : String → String → ℚ → TxProgram Unit)

def finishUpdate (paymentOrder : Option PaymentOrder) : TxProgram (Except GatewayFailure Unit) :=
  attempt (.commit .caller) (ret (.error .commit)) fun _ =>
  match paymentOrder.filter U.notifies with
  | none => ret (.ok ())
  | some o =>
    let entity := o.entity (U.change o)
    attempt (.step (.order (.call (.paymentOrderWebhook entity.1 entity.2))))
      (ret (.error .webhook)) fun _ => ret (.ok ())

def updateSender (paymentOrder : Option PaymentOrder) : TxProgram (Except GatewayFailure Unit) :=
  match paymentOrder.bind U.change with
  | none => finishUpdate U paymentOrder
  | some change =>
    attempt (.step (.updatePaymentOrders change)) (ret (.error .sender)) fun _ =>
    if U.recycles change then
      ignore (.step (.query .receiveAddress)) <| ignore (.step (.recycleAddress change.paymentOrder)) <|
        finishUpdate U paymentOrder
    else finishUpdate U paymentOrder

def updateAggregator (paymentOrder : Option PaymentOrder) : TxProgram (Except GatewayFailure Unit) :=
  match U.event with
  | none => ret (.error .splitOrderId)
  | some event =>
    attempt (.step (.updateLockOrders event)) (ret (.error .aggregator)) fun _ =>
    attempt (.step (.query .lockOrder)) (updateSender U paymentOrder) fun s =>
    match s.balanceEdges event.selects with
    | none => updateSender U paymentOrder
    | some (provider, currency, amount) =>
      (balanceStep provider currency amount).bind fun _ => updateSender U paymentOrder

def updateLogs (paymentOrder : Option PaymentOrder) : TxProgram (Except GatewayFailure Unit) :=
  attempt (.step (.updateLog U.entry)) (ret (.error .update)) fun s =>
  if s.transactionLogs.rows.any U.entry.isLog then updateAggregator U balanceStep paymentOrder
  else
    attempt (.step (.createLog U.entry)) (ret (.error .create)) fun _ =>
    updateAggregator U balanceStep paymentOrder

def updateOrderStatus : TxProgram (Except GatewayFailure Unit) :=
  attempt (.step (.query .fetchOrder)) (ret (.error .fetchOrder)) fun s =>
  match s.paymentOrderOf U.messageHash U.entry.network with
  | .error .notSingular => ret (.error .fetchOrder)
  | found =>
    attempt (.begin .caller) (ret (.error .transaction)) fun _ =>
    updateLogs U balanceStep found.toOption

def updateOrderStatusSettled (network : String) (event : OrderSettledEvent)
    (messageHash : String) : TxProgram (Except GatewayFailure Unit) :=
  updateOrderStatus (settledUpdate network event messageHash) settleStep

def updateOrderStatusRefunded (network : String) (event : OrderRefundedEvent)
    (messageHash : String) : TxProgram (Except GatewayFailure Unit) :=
  updateOrderStatus (refundedUpdate network event messageHash) fun provider currency amount =>
    (releaseReservedBalance provider currency amount).discard

end StatusUpdate

section Fulfill

def failedUpdate : TxProgram Reply :=
  ret (.response 500 "error" "Failed to update lock order status" none)

def fulfilled : TxProgram Reply :=
  ret (.response 200 "success" "Order fulfilled successfully" none)

def markPaymentOrderValidated (messageHash : String) (k : TxProgram Reply) : TxProgram Reply :=
  attempt (.step (.query .paymentOrder)) k fun s =>
  match only (s.paymentOrders.select fun o => o.messageHash = some messageHash) with
  | .error _ => k
  | .ok paymentOrder =>
    ignore (.step (.order (.setPaymentOrderStatus paymentOrder.id .validated))) <|
    ignore (.step (.order (.call (.paymentOrderWebhook paymentOrder.id paymentOrder.status)))) k

def releaseAndCommit (orderID : ℕ) (order : LockPaymentOrder) (provider currency : String) :
    TxProgram Reply :=
  (releaseWithin provider currency order.fiat .caller).bind fun
  | ⟨.error _, _⟩ => ignore (.rollback .caller) failedUpdate
  | ⟨.ok _, _⟩ =>
    attempt (.commit .caller) failedUpdate fun _ =>
    markPaymentOrderValidated order.messageHash <|
    ignore (.step (.order (.call (.settleOrder orderID)))) fulfilled

def validateWithin (orderID : ℕ) (f : LockOrderFulfillment) (order : LockPaymentOrder)
    (edges : Option (String × ProvisionBucket)) : TxProgram Reply :=
  let rolledBack := ignore (.rollback .caller) failedUpdate
  attempt (.begin .caller) failedUpdate fun _ =>
  attempt (.step (.order (.setFulfillment f.id .success none))) rolledBack fun _ =>
  attempt (.step (.order (.createLog .orderValidated order.token.network))) rolledBack fun _ =>
  attempt (.step (.validateOrder orderID)) rolledBack fun _ =>
  match edges with
  | none => ret .panicked
  | some (provider, bucket) => releaseAndCommit orderID order provider bucket.currency

def fulfillWith (orderID : ℕ) (payload : FulfillLockOrderPayload) (f : LockOrderFulfillment)
    (order : LockPaymentOrder) (edges : Option (String × ProvisionBucket)) : TxProgram Reply :=
  match payload.validationStatus with
  | .success =>
    if order.status = .validated then ret (.response 200 "success" "Order already validated" none)
    else validateWithin orderID f order edges
  | .failed =>
    attempt (.step (.order (.setFulfillment f.id .failed (some payload.validationError))))
      failedUpdate fun _ =>
    attempt (.step (.order (.fulfillUpdate orderID none))) failedUpdate fun _ =>
    match edges with
    | none => ret .panicked
    | some (provider, bucket) =>
      (releaseReservedBalance provider bucket.currency order.fiat).bind fun _ => fulfilled
  | .pending =>
    attempt (.step (.order (.createLog .orderFulfilled order.token.network))) failedUpdate fun s =>
    attempt (.step (.order (.fulfillUpdate orderID (some s.transactionLogs.fresh)))) failedUpdate
      fun _ => fulfilled

def byTxId (s : Store) (txId : String) : Except QueryError LockOrderFulfillment :=
  only (s.fulfillments.select fun f => f.txId = txId)

def fulfillLoaded (orderID : ℕ) (payload : FulfillLockOrderPayload) (s : Store)
    (f : LockOrderFulfillment) (edges : LockPaymentOrder → Option (String × ProvisionBucket)) :
    TxProgram Reply :=
  match s.lockOrders.get f.order with
  | none => ret .panicked
  | some order => fulfillWith orderID payload f order (edges order)

def fulfillCreated (orderID : ℕ) (payload : FulfillLockOrderPayload) : TxProgram Reply :=
  attempt (.step (.order (.createFulfillment orderID payload.txId payload.psp .pending "")))
    failedUpdate fun _ =>
  attempt (.step (.query .createdFulfillment)) (ret .panicked) fun s =>
  match byTxId s payload.txId with
  | .error _ => ret .panicked
  | .ok f => fulfillLoaded orderID payload s f fun _ => none

def fulfillOrder (payload : FulfillLockOrderPayload) (param : Option ℕ) : TxProgram Reply :=
  if payload.psp = "" ∨ payload.txId = "" then
    ret (.response 400 "error" "Failed to validate payload" none)
  else
    match param with
    | none => ret (.response 400 "error" "Invalid Order ID" none)
    | some orderID =>
      attempt (.step (.query .fulfillment)) (ret .panicked) fun s =>
      match byTxId s payload.txId with
      | .error .notSingular => ret .panicked
      | .error .notFound => fulfillCreated orderID payload
      | .ok f => fulfillLoaded orderID payload s f LockPaymentOrder.edges

end Fulfill

end Stablenode.TransactionScopes
