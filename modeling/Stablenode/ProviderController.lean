import Stablenode.PriorityQueue

/-! The order handlers of a provider (controllers/provider/provider.go). -/
namespace Stablenode

open BalanceManagement Proc

structure AcceptOrderResponse where
  id : ℕ
  amount : ℚ
  institution : String
  accountIdentifier : String
  accountName : String
  memo : String
  deriving DecidableEq

inductive Reply where
  | response (code : ℕ) (status message : String) (data : Option AcceptOrderResponse)
  | panicked
  deriving DecidableEq

def apiError (code : ℕ) (message : String) : OrderProgram Reply :=
  ret (.response code "error" message none)

def apiSuccess (code : ℕ) (message : String) : OrderProgram Reply :=
  ret (.response code "success" message none)

def Store.isOffered (s : Store) (order : ℕ) (provider : String) : Bool :=
  (s.orderRequests.get order).any fun r => r.fields ≠ [] ∧ r.field "providerId" = provider

def takeOrderRequest (why : RequestEnd) (orderID : ℕ) (provider : String)
    (failed : OrderProgram Reply) (k : OrderProgram Reply) : OrderProgram Reply :=
  attempt .read failed fun s =>
  if s.isOffered orderID provider then
    attempt (.deleteOrderRequest why orderID provider) failed fun _ => k
  else apiError 404 "Order request not found or is expired"

def acceptOrder (provider : ProviderProfile) : Option ℕ → OrderProgram Reply
  | none => apiError 400 "Invalid Order ID"
  | some orderID =>
    let failed := apiError 500 "Failed to update lock order status"
    takeOrderRequest .accepted orderID provider.id
      (apiError 500 "Failed to accept order request") <|
    attempt .read failed fun s =>
    let logged := s.transactionLogs.rows.any fun l =>
      l.lockOrder = some orderID ∧ l.status = .orderProcessing
    attempt (.acceptCommit orderID provider.id (!logged)) failed fun s =>
    match s.lockOrders.get orderID with
    | none => apiError 404 "Order not found"
    | some order =>
      ret (.response 201 "success" "Order request accepted successfully"
        (some ⟨orderID, order.fiat, order.institution, order.accountIdentifier,
          order.accountName, order.memo⟩))

def declineOrder (provider : ProviderProfile) : Option ℕ → OrderProgram Reply
  | none => apiError 400 "Invalid Order ID"
  | some orderID =>
    let failed := apiError 500 "Failed to decline order request"
    takeOrderRequest .declined orderID provider.id failed <|
    attempt (.pushExclude orderID provider.id) failed fun _ =>
    apiSuccess 200 "Order request declined successfully"

structure FulfillLockOrderPayload where
  psp : String
  txId : String
  validationStatus : ValidationStatus
  validationError : String
  deriving DecidableEq

def markPaymentOrderValidated (messageHash : String) : OrderProgram Unit :=
  attempt .read (ret ()) fun s =>
  match only (s.paymentOrders.select fun o => o.messageHash = some messageHash) with
  | .error _ => ret ()
  | .ok paymentOrder =>
    ignore (.setPaymentOrderStatus paymentOrder.id .validated) <|
    -- the update returns a new entity, the webhook gets the one of the query
    ignore (.call (.paymentOrderWebhook paymentOrder.id paymentOrder.status)) <| ret ()

def fulfillWith (orderID : ℕ) (payload : FulfillLockOrderPayload) (f : LockOrderFulfillment)
    (order : LockPaymentOrder) (edges : Option (String × ProvisionBucket)) : OrderProgram Reply :=
  let failed := apiError 500 "Failed to update lock order status"
  let done := apiSuccess 200 "Order fulfilled successfully"
  match payload.validationStatus with
  | .success =>
    if order.status = .validated then apiSuccess 200 "Order already validated"
    else
      attempt .read failed fun s =>
      if ¬ s.hasFulfillment f.id then failed
      else
        match edges with
        | none => ret .panicked
        | some (provider, bucket) =>
          attempt .read failed fun s =>
          match s.balance provider bucket.currency with
          | none => failed
          | some b =>
            match releaseInTx b order.fiat with
            | .error _ => failed
            | .ok b' =>
              attempt (.validateCommit orderID f.id order.token.network provider bucket.currency b')
                failed fun s =>
              if ¬ s.hasFulfillment f.id then failed
              else
                (markPaymentOrderValidated order.messageHash).bind fun _ =>
                ignore (.call (.settleOrder orderID)) done
  | .failed =>
    attempt (.setFulfillment f.id .failed (some payload.validationError)) failed fun s =>
    if ¬ s.hasFulfillment f.id then failed
    else
      attempt (.fulfillUpdate orderID none) failed fun _ =>
      match edges with
      | none => ret .panicked
      | some (provider, bucket) =>
        (releaseReservedBalance provider bucket.currency order.fiat).bind fun _ => done
  | .pending =>
    attempt (.createLog .orderFulfilled order.token.network) failed fun s =>
    attempt (.fulfillUpdate orderID (some s.transactionLogs.fresh)) failed fun _ => done

def fulfillOrder (payload : FulfillLockOrderPayload) (param : Option ℕ) : OrderProgram Reply :=
  if payload.psp = "" ∨ payload.txId = "" then apiError 400 "Failed to validate payload"
  else
    match param with
    | none => apiError 400 "Invalid Order ID"
    | some orderID =>
      let byTxId (s : Store) := only (s.fulfillments.select fun f => f.txId = payload.txId)
      -- the log of a failed query reads the network of a nil fulfilment
      attempt .read (ret .panicked) fun s =>
      match byTxId s with
      | .error .notSingular => ret .panicked
      | .error .notFound =>
        let failed := apiError 500 "Failed to update lock order status"
        attempt (.createFulfillment orderID payload.txId payload.psp .pending "") failed fun s =>
        if ¬ s.hasLockOrder orderID then failed
        else
          attempt .read (ret .panicked) fun s =>
          match byTxId s with
          | .error _ => ret .panicked
          | .ok f =>
            match s.lockOrders.get f.order with
            | none => ret .panicked
            -- this query loads neither the provider nor the bucket of the order
            | some order => fulfillWith orderID payload f order none
      | .ok f =>
        match s.lockOrders.get f.order with
        | none => ret .panicked
        | some order => fulfillWith orderID payload f order order.edges

def removeProviderFromQueue (key : QueueKey) (provider : String) : ℕ → ℕ → OrderProgram Unit
  | 0, _ => ret ()
  | fuel + 1, index =>
    attempt .read (ret ()) fun s =>
    match (s.queue key).reverse[index]? with
    | none => ret ()
    | some (.malformed _) => removeProviderFromQueue key provider fuel (index + 1)
    | some (.offer p _ _ _ _) =>
      if p = provider then
        ignore (.setQueueFromEnd key index (.malformed "DELETED_PROVIDER")) <|
        ignore (.removeFromQueue key (.malformed "DELETED_PROVIDER")) <| ret ()
      else removeProviderFromQueue key provider fuel (index + 1)

variable (conf : OrderConfig)

def cancelWith (provider : ProviderProfile) (order : LockPaymentOrder) (count : ℕ)
    (reason : Option String) : OrderProgram Reply :=
  let failed := apiError 500 "Failed to cancel order"
  attempt (.cancelUpdate order.id count reason) failed fun s =>
  if ¬ s.hasLockOrder order.id then failed
  else
    let order := { order with status := .cancelled, cancellationCount := count }
    match order.provisionBucket with
    | none => ret .panicked
    | some bucket =>
      (releaseReservedBalance provider.id bucket.currency order.fiat).bind fun _ =>
      let exclude :=
        attempt (.pushExclude order.id provider.id) (apiError 500 "Failed to decline order request")
          fun _ => apiSuccess 200 "Order cancelled successfully"
      if conf.refundCancellationCount ≤ order.cancellationCount ∧ order.status = .cancelled then
        ignore (.call (.refundOrder order.id order.token.network order.gatewayId)) exclude
      else exclude

def cancelFound (fuel : ℕ) (provider : ProviderProfile) (reason : String)
    (order : LockPaymentOrder) : OrderProgram Reply :=
  if reason = "Invalid recipient bank details" ∨ provider.visibilityMode = .privateMode then
    cancelWith conf provider order (order.cancellationCount + conf.refundCancellationCount)
      (some reason)
  else if reason ≠ "Insufficient funds" then
    cancelWith conf provider order (order.cancellationCount + 1) (some reason)
  else
    match order.provisionBucket with
    | none => ret .panicked
    | some bucket =>
      (removeProviderFromQueue ⟨bucket, false⟩ provider.id fuel 0).bind fun _ =>
      cancelWith conf provider order order.cancellationCount none

def cancelOrder (fuel : ℕ) (provider : ProviderProfile) (reason : String) (param : Option ℕ) :
    OrderProgram Reply :=
  if reason = "" then apiError 400 "Failed to validate payload"
  else
    match param with
    | none => apiError 400 "Invalid Order ID"
    | some orderID =>
      let notFound := apiError 404 "Could not find payment order"
      attempt .read notFound fun s =>
      match s.lockOrders.get orderID with
      | none => notFound
      | some order =>
        if order.provider ≠ some provider.id then notFound
        else cancelFound conf fuel provider reason order

end Stablenode
