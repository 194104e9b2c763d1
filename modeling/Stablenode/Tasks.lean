import Stablenode.OrderStatus

/-! The background tasks on lock orders (tasks/tasks.go). -/
namespace Stablenode

open BalanceManagement Proc

variable (conf : OrderConfig) (env : Environment) (fuel : ℕ)

def LockPaymentOrder.reassignFields (order : LockPaymentOrder) : OrderFields where
  id := order.id
  token := order.token
  amount := order.amount
  rate := order.rate
  institution := order.institution
  providerId := ""
  provisionBucket := order.provisionBucket
  updatedAt := 0

def LockPaymentOrder.fieldsFor (order : LockPaymentOrder) (provider : String) : OrderFields :=
  { order.reassignFields with providerId := provider }

def reassignCancelledOrder (order : LockPaymentOrder) (provider : ProviderProfile)
    (fulfillment : Option ℕ) : OrderProgram Bool :=
  if provider.visibilityMode ≠ .privateMode ∧
      order.cancellationCount < conf.refundCancellationCount then
    attempt (.pushExclude order.id provider.id) (ret true) fun _ =>
    attempt (.reassignUpdate order.id) (ret true) fun s =>
    if ¬ s.hasLockOrder order.id then ret true
    else
      let assign := (assignLockPaymentOrder conf env fuel order.reassignFields).bind fun
        | .panicked => ret false
        | _ => ret true
      match fulfillment with
      | none => assign
      | some f =>
        attempt (.deleteFulfillment f) (ret true) fun s =>
        if ¬ s.hasFulfillment f then ret true else assign
  else ret true

def reassignStaleOrderRequest : Option ℕ → OrderProgram (Completion AssignError)
  | none => ret .ok
  | some order =>
    attempt .read (ret .panicked) fun s =>
    match s.lockOrders.get order with
    | none => ret .panicked
    | some _ => attempt .read (ret (.error .redis)) fun _ => ret .panicked

def syncSelects (s : Store) (o : LockPaymentOrder) : Bool :=
  let fs := s.fulfillmentsOf o.id
  (o.status = .fulfilled ∧
    (fs.any (fun f => f.validationStatus = .failed) ∨
      fs.any (fun f => f.validationStatus = .pending ∧
        f.updatedAt + conf.orderFulfillmentValidity ≤ s.now) ∨
      fs.any fun f => f.validationStatus = .success)) ∨
  (o.status = .cancelled ∧ (fs.any (fun f => f.validationStatus = .pending) ∨ fs = [])) ∨
  (o.status = .processing ∧ o.updatedAt + 30 ≤ s.now ∧ fs = [])

def syncValidated (order : LockPaymentOrder) : OrderProgram Bool :=
  attempt (.createLog .orderValidated order.token.network) (ret true) fun s =>
  ignore (.syncStatus order.id .validated (some s.transactionLogs.fresh)) (ret true)

def syncUnfulfilled (order : LockPaymentOrder) : OrderProgram Bool :=
  match env.txStatus order.id none, order.provisionBucket with
  | .noSecret, _ => ret true
  | _, none => ret false
  | .sendError is400, some _ =>
    if is400 then ignore (.syncStatus order.id .pending none) (ret true) else ret true
  | .unparsable, some _ =>
    attempt .read (ret true) fun s =>
    if order.status = .processing ∧
        order.updatedAt + 2 * conf.orderFulfillmentValidity < s.now then
      ignore (.deleteOrder order.id) (ret true)
    else ret true
  | .malformed, some _ => ret false
  | .status status psp txId error, some _ =>
    if status = "failed" then
      attempt (.createFulfillment order.id txId psp .failed error) (ret true) fun s =>
      if s.hasLockOrder order.id then ignore (.syncStatus order.id .fulfilled none) (ret true)
      else ret true
    else if status = "success" then
      attempt (.createFulfillment order.id txId psp .success "") (ret true) fun s =>
      if s.hasLockOrder order.id then syncValidated order else ret true
    else ret true

def syncFulfillment (order : LockPaymentOrder) (provider : ProviderProfile)
    (f : LockOrderFulfillment) : OrderProgram Bool :=
  match f.validationStatus with
  | .pending =>
    match env.txStatus order.id (some f.id), order.provisionBucket with
    | .noSecret, _ => ret true
    | _, none => ret false
    | .sendError _, some _ => ret true
    | .unparsable, some _ => ret true
    | .malformed, some _ => ret false
    | .status status _ _ error, some _ =>
      if status = "failed" then
        attempt (.setFulfillment f.id .failed (some error)) (ret true) fun s =>
        if s.hasFulfillment f.id then ignore (.syncStatus order.id .fulfilled none) (ret true)
        else ret true
      else if status = "success" then
        attempt (.setFulfillment f.id .success none) (ret true) fun s =>
        if s.hasFulfillment f.id then syncValidated order else ret true
      else ret true
  | .failed => reassignCancelledOrder conf env fuel order provider (some f.id)
  | .success => syncValidated order

def syncOrder (order : LockPaymentOrder) (provider : Option ProviderProfile)
    (fs : List LockOrderFulfillment) : OrderProgram Bool :=
  match provider with
  | none => ret true
  | some provider =>
    if fs = [] then
      if order.status = .cancelled then reassignCancelledOrder conf env fuel order provider none
      else syncUnfulfilled conf env order
    else forWhile fs (syncFulfillment conf env fuel order provider)

def syncLockOrderFulfillments : OrderProgram Bool :=
  attempt .read (ret true) fun s =>
  forWhile (s.lockOrders.select (syncSelects conf s)) fun o =>
    syncOrder conf env fuel o (o.provider.bind s.providers.get) (s.fulfillmentsOf o.id)

def refundSelects (s : Store) (o : LockPaymentOrder) : Bool :=
  let fs := s.fulfillmentsOf o.id
  let hasFailed := fs.any fun f => f.validationStatus = .failed
  o.gatewayId ≠ "" ∧ s.now ≤ o.updatedAt + 300 ∧
    (((o.status = .pending ∨ o.status = .cancelled) ∧
        o.createdAt + conf.orderRefundTimeout ≤ s.now ∧ (fs = [] ∨ hasFailed)) ∨
      ((o.provider.bind s.providers.get).any (fun p => p.visibilityMode = .privateMode) ∧
        o.status = .fulfilled ∧ hasFailed))

def refundStaleOrders : OrderProgram Unit :=
  attempt .read (ret ()) fun s =>
  forEach (s.lockOrders.select (refundSelects conf s)) fun o =>
    ignore (.call (.refundOrder o.id o.token.network o.gatewayId)) (ret ())

structure ReportedBalance where
  provider : String
  currency : String
  available : ℚ
  total : ℚ
  deriving DecidableEq

def updateProviderBalance (r : ReportedBalance) : OrderProgram Unit :=
  let write := ignore (.syncBalance r.provider r.currency ⟨r.available, 0, r.total⟩) (ret ())
  attempt .read (ret ()) fun s =>
  if (s.balances.get (r.provider, r.currency)).isSome then write
  else if (s.providers.get r.provider).isSome ∧ r.currency ∈ s.fiatCurrencies then write
  else ret ()

def fetchProviderBalances (reported : List ReportedBalance) : OrderProgram Unit :=
  forEach (reported.filter fun r => 0 ≤ r.available ∧ 0 ≤ r.total) updateProviderBalance

end Stablenode
