import Stablenode.LedgerRuns

/-! What one order does to the balance row of its provider, from the offer to settlement or refund.
-/
namespace Stablenode.OrderLedger

open BalanceManagement Proc

structure OrderRun where
  conf : OrderConfig
  env : Environment
  fuel : ℕ
  store : Store
  provider : ProviderProfile
  order : LockPaymentOrder
  bucket : ProvisionBucket
  row : Balance
  psp : String
  txId : String
  fulfillment : Option LockOrderFulfillment
  reason : String
  messageHash : String
  settledEvent : OrderSettledEvent
  refundedEvent : OrderRefundedEvent
  stored : store.lockOrders.get order.id = some order
  has_bucket : order.provisionBucket = some bucket
  gatewayId_unique : ∀ o ∈ store.lockOrders.rows, o.gatewayId = order.gatewayId →
    o.token.network = order.token.network → o.id = order.id
  has_row : store.balance provider.id bucket.currency = some row
  consistent : Consistent row
  fiat_nonneg : 0 ≤ order.fiat
  fiat_le : order.fiat ≤ row.available
  notified : env.newOrder provider.id order.id = true
  psp_ne : psp ≠ ""
  txId_ne : txId ≠ ""
  recorded : (store.fulfillments.select fun f => f.txId = txId) = fulfillment.toList
  recorded_for : ∀ f ∈ fulfillment, f.order = order.id
  reason_ne : reason ≠ ""
  paymentOrder_unique : (store.paymentOrders.select fun o =>
    o.messageHash = some messageHash ∧ o.token.network = order.token.network).length ≤ 1
  settled_order : settledEvent.splitOrderId = some order.id
  refunded_gatewayId : refundedEvent.orderId = order.gatewayId

inductive Route where
  | settled
  | cancelled
  | failedValidation
  | reassigned
  deriving DecidableEq

namespace OrderRun

variable (R : OrderRun)

def fulfill (status : ValidationStatus) : OrderProgram Unit :=
  (fulfillOrder ⟨R.psp, R.txId, status, ""⟩ (some R.order.id)).discard

def cancel : OrderProgram Unit :=
  (cancelOrder R.conf R.fuel R.provider R.reason (some R.order.id)).discard

def reassign : OrderProgram Unit :=
  attempt .read (ret ()) fun s =>
  match s.lockOrders.get R.order.id with
  | none => ret ()
  | some o => (reassignCancelledOrder R.conf R.env R.fuel o R.provider none).discard

def settle : OrderProgram Unit :=
  (updateOrderStatusSettled R.order.token.network R.settledEvent R.messageHash).discard

def refund : OrderProgram Unit :=
  (updateOrderStatusRefunded R.order.token.network R.refundedEvent R.messageHash).discard

def offer : OrderProgram Unit :=
  (sendOrderRequest R.conf R.env (R.order.fieldsFor R.provider.id)).bind fun _ =>
  (acceptOrder R.provider (some R.order.id)).discard

def program : Route → OrderProgram Unit
  | .settled => forEach [R.offer, R.fulfill .success, R.settle] id
  | .cancelled => forEach [R.offer, R.cancel, R.refund] id
  | .failedValidation => forEach [R.offer, R.fulfill .failed, R.refund] id
  | .reassigned => forEach [R.offer, R.cancel, R.reassign, R.refund] id

def finalRow (route : Route) : Option Balance :=
  ((R.program route).after OrderWrite.exec R.store).balance R.provider.id R.bucket.currency

def expectedRow : Route → Balance
  | .settled =>
    { R.row with
      available := R.row.available - R.order.fiat
      total := R.row.total - R.order.fiat }
  | _ => R.row

def cancelCount : ℕ :=
  if R.reason = "Invalid recipient bank details" ∨ R.provider.visibilityMode = .privateMode then
    R.order.cancellationCount + R.conf.refundCancellationCount
  else if R.reason ≠ "Insufficient funds" then R.order.cancellationCount + 1
  else R.order.cancellationCount

def Reassigns : Prop :=
  R.provider.visibilityMode ≠ .privateMode ∧ R.cancelCount < R.conf.refundCancellationCount

def RefusesSecond : Prop :=
  R.order.fiat = 0 ∨ (0 < R.row.reserved ∧ R.row.reserved < R.order.fiat)

def Exact : Route → Prop
  | .settled => R.order.fiat = 0 ∨ R.fulfillment = none
  | .cancelled => R.RefusesSecond
  | .failedValidation => R.RefusesSecond ∨ R.fulfillment = none
  | .reassigned => R.RefusesSecond ∨ R.Reassigns

structure Tracks (s : Store) (o : LockPaymentOrder) (b : Balance) : Prop where
  stored : s.lockOrders.get R.order.id = some o
  amount : o.amount = R.order.amount
  rate : o.rate = R.order.rate
  token : o.token = R.order.token
  gatewayId : o.gatewayId = R.order.gatewayId
  has_bucket : o.provisionBucket = some R.bucket
  unique : ∀ o' ∈ s.lockOrders.rows, o'.gatewayId = R.order.gatewayId →
    o'.token.network = R.order.token.network → o'.id = R.order.id
  paymentOrder : (s.paymentOrders.select fun p =>
    p.messageHash = some R.messageHash ∧ p.token.network = R.order.token.network).length ≤ 1
  row : s.balance R.provider.id R.bucket.currency = some b

variable {R}

lemma tracks_store : R.Tracks R.store R.order R.row :=
  ⟨R.stored, rfl, rfl, rfl, rfl, R.has_bucket, R.gatewayId_unique, R.paymentOrder_unique, R.has_row⟩

variable {w : OrderWrite} {s : Store} {o : LockPaymentOrder} {b : Balance}

namespace Tracks

variable {t : Store} {o' : LockPaymentOrder} {b' : Balance} (h : R.Tracks s o b)

include h

lemma id_eq : o.id = R.order.id := Table.get_key h.stored

lemma fiat : o.fiat = R.order.fiat := by
  rw [LockPaymentOrder.fiat, h.amount, h.rate, LockPaymentOrder.fiat]

lemma hasLockOrder : s.hasLockOrder R.order.id = true := by
  rw [Store.hasLockOrder, h.stored]
  rfl

lemma of_row (hl : t.lockOrders = s.lockOrders) (hp : t.paymentOrders = s.paymentOrders)
    (hb : t.balance R.provider.id R.bucket.currency = some b') : R.Tracks t o b' :=
  ⟨hl ▸ h.stored, h.amount, h.rate, h.token, h.gatewayId, h.has_bucket, hl ▸ h.unique,
    hp ▸ h.paymentOrder, hb⟩

lemma exec (hl : w.writesLockOrder = false) (hp : w.writesPaymentOrder = false)
    (hb : w.writesBalance = false) : R.Tracks (w.exec s) o b :=
  h.of_row (OrderWrite.exec_lockOrders hl s) (OrderWrite.exec_paymentOrders hp s)
    ((OrderWrite.exec_balance hb s _ _).trans h.row)

lemma change {n : LockPaymentOrder} (hp : w.writesPaymentOrder = false)
    (ho : w.changeOrder s o = some n)
    (hb : (w.exec s).balance R.provider.id R.bucket.currency = some b') :
    R.Tracks (w.exec s) n b' := by
  obtain ⟨-, ha, hr, ht, hg, hk⟩ := OrderWrite.changeOrder_same ho
  have hget : (w.exec s).lockOrders.get R.order.id = some n := by
    rw [OrderWrite.exec_getLockOrder, h.stored]
    exact ho
  have hunique : ∀ o₁ ∈ (w.exec s).lockOrders.rows, o₁.gatewayId = R.order.gatewayId →
      o₁.token.network = R.order.token.network → o₁.id = R.order.id := by
    intro o₁ hmem hgw hnet
    obtain ⟨o₀, hmem₀, h₀⟩ := OrderWrite.mem_exec_lockOrders hmem
    obtain ⟨hid, -, -, ht₀, hg₀, -⟩ := OrderWrite.changeOrder_same h₀
    rw [hid]
    exact h.unique o₀ hmem₀ (hg₀ ▸ hgw) (ht₀ ▸ hnet)
  exact ⟨hget, ha.trans h.amount, hr.trans h.rate, ht.trans h.token, hg.trans h.gatewayId,
    hk.trans h.has_bucket, hunique, (OrderWrite.exec_paymentOrders hp s).symm ▸ h.paymentOrder, hb⟩

lemma updatePaymentOrders {p : PaymentOrder → Bool}
    {f : PaymentOrder → PaymentOrder} {hf : ∀ o, (f o).id = o.id}
    (hsame : ∀ o, (f o).messageHash = o.messageHash ∧ (f o).token = o.token) :
    R.Tracks (s.updatePaymentOrders p f hf) o b := by
  refine ⟨h.stored, h.amount, h.rate, h.token, h.gatewayId, h.has_bucket, h.unique, ?_, h.row⟩
  rw [Store.updatePaymentOrders, Table.select_update_length]
  · exact h.paymentOrder
  · intro p
    obtain ⟨hm, ht⟩ := hsame p
    simp only [hm, ht]

lemma setBalance (b' : Balance) :
    R.Tracks (s.setBalance R.provider.id R.bucket.currency b') o b' := by
  refine h.of_row rfl rfl ?_
  rw [Store.balance_setBalance, if_pos rfl, h.row]
  rfl

lemma setFunds (htotal : b'.total = b.total) :
    R.Tracks (s.setFunds R.provider.id R.bucket.currency b') o b' := by
  rw [Store.setFunds_eq_setBalance h.row htotal]
  exact h.setBalance b'

lemma setFunds_of_ne {p cur : String} (hne : (R.provider.id, R.bucket.currency) ≠ (p, cur))
    (b' : Balance) : R.Tracks (s.setFunds p cur b') o b := by
  refine h.of_row rfl rfl ?_
  rw [Store.balance_setFunds, if_neg hne]
  exact h.row

lemma release (hc : Consistent b) (a : ℚ) :
    R.Tracks (s.release R.provider.id R.bucket.currency a) o
      (if AcceptsRelease b a then afterRelease b a else b) := by
  rw [Store.release, h.row]
  by_cases ha : AcceptsRelease b a
  · simp only [hc, ha, and_self, if_true]
    exact h.setBalance _
  · simp only [ha, and_false, if_false]
    exact h

end Tracks

variable (R) in
def heldRow : Balance :=
  { R.row with
    available := R.row.available - R.order.fiat
    reserved := R.row.reserved + R.order.fiat }

lemma heldRow_consistent : Consistent R.heldRow := by
  have h := R.consistent
  have ha := R.fiat_nonneg
  have hle := R.fiat_le
  refine ⟨?_, ?_, ?_⟩
  · simp only [heldRow]
    linarith
  · have := h.reserved_nonneg
    simp only [heldRow]
    linarith
  · have := h.sum_le_total
    simp only [heldRow]
    linarith

lemma heldRow_acceptsRelease : AcceptsRelease R.heldRow R.order.fiat := by
  have := R.consistent.reserved_nonneg
  refine Or.inl ?_
  simp only [heldRow]
  linarith

lemma afterRelease_heldRow : afterRelease R.heldRow R.order.fiat = R.row := by
  simp [afterRelease, heldRow]

lemma isOffered_setOrderRequest (s : Store) (order : OrderFields) (currency : String) (time : ℕ) :
    ((OrderWrite.expireOrderRequestAt order.id time).exec
      ((OrderWrite.setOrderRequest order.id (orderRequestData order currency)).exec s)).isOffered
        order.id order.providerId = true := by
  have hprovider := writtenRequest_holds order currency (s.orderRequests.get order.id)
    (f := ("providerId", order.providerId)) (by simp [orderRequestData])
  rw [Store.isOffered, OrderWrite.get_expireOrderRequestAt, OrderWrite.get_setOrderRequest,
    Option.map_some, Option.any_some, decide_eq_true_eq]
  exact ⟨List.ne_nil_of_mem hprovider.1, writtenRequest_provider order currency _⟩

lemma sendOrderRequest_tracks :
    let s := (sendOrderRequest R.conf R.env (R.order.fieldsFor R.provider.id)).after
      OrderWrite.exec R.store
    R.Tracks s R.order R.heldRow ∧ s.isOffered R.order.id R.provider.id = true ∧
      s.fulfillments = R.store.fulfillments := by
  have hbucket : (R.order.fieldsFor R.provider.id).provisionBucket = some R.bucket := R.has_bucket
  have hrow : R.store.balance (R.order.fieldsFor R.provider.id).providerId R.bucket.currency =
      some R.row := R.has_row
  have hreserve : reserveInTx R.row (R.order.fieldsFor R.provider.id).fiat = .ok R.heldRow := by
    change reserveInTx R.row R.order.fiat = .ok R.heldRow
    rw [reserveInTx, if_neg (not_lt.2 R.fiat_le), heldRow]
  have hnotified : R.env.newOrder (R.order.fieldsFor R.provider.id).providerId
      (R.order.fieldsFor R.provider.id).id = true := R.notified
  intro s
  have hs : s = (OrderWrite.reserveCommit R.order.id R.provider.id R.bucket.currency R.order.fiat
      R.heldRow).exec ((OrderWrite.call (.newOrder R.provider.id R.order.id)).exec
        ((OrderWrite.expireOrderRequestAt R.order.id
          (R.store.now + R.conf.orderRequestValidity)).exec
          ((OrderWrite.setOrderRequest R.order.id
            (orderRequestData (R.order.fieldsFor R.provider.id) R.bucket.currency)).exec
              R.store))) := by
    simp only [s, sendOrderRequest, hbucket, after_attempt, OrderWrite.exec_read, hrow, hreserve,
      after_ignore, hnotified, if_true, after_ret]
    rfl
  have hsent := (tracks_store (R := R)).exec
    (w := .setOrderRequest R.order.id
      (orderRequestData (R.order.fieldsFor R.provider.id) R.bucket.currency)) rfl rfl rfl
  have hexpiry := hsent.exec
    (w := .expireOrderRequestAt R.order.id (R.store.now + R.conf.orderRequestValidity)) rfl rfl rfl
  have hcalled := hexpiry.exec (w := .call (.newOrder R.provider.id R.order.id)) rfl rfl rfl
  refine ⟨hs ▸ hcalled.setFunds rfl, ?_, ?_⟩
  · rw [hs]
    exact isOffered_setOrderRequest R.store (R.order.fieldsFor R.provider.id) _ _
  rw [hs]
  simp only [OrderWrite.exec_fulfillments (w := .reserveCommit ..) rfl,
    OrderWrite.exec_fulfillments (w := .call _) rfl,
    OrderWrite.exec_fulfillments (w := .expireOrderRequestAt ..) rfl,
    OrderWrite.exec_fulfillments (w := .setOrderRequest ..) rfl]

lemma acceptOrder_tracks {s : Store} {o : LockPaymentOrder} {b : Balance} (h : R.Tracks s o b)
    (hoffered : s.isOffered R.order.id R.provider.id = true) :
    let s' := (acceptOrder R.provider (some R.order.id)).after OrderWrite.exec s
    R.Tracks s'
        { o with status := .processing, provider := some R.provider.id, updatedAt := s.now } b ∧
      s'.fulfillments = s.fulfillments := by
  have hdeleted := h.exec (w := .deleteOrderRequest .accepted R.order.id R.provider.id) rfl rfl rfl
  have hcommit (logged : Bool) := hdeleted.change
    (w := .acceptCommit R.order.id R.provider.id logged) rfl
    (congrArg some (if_pos h.id_eq)) ((OrderWrite.exec_balance rfl _ _ _).trans hdeleted.row)
  simp only [acceptOrder, takeOrderRequest, after_attempt, OrderWrite.exec_read, hoffered, if_true]
  split <;>
    (simp only [apiError, after_ret]
     exact ⟨hcommit _, by rw [OrderWrite.exec_fulfillments rfl, OrderWrite.exec_fulfillments rfl]⟩)

lemma offer_tracks : let s := R.offer.after OrderWrite.exec R.store
    (∃ o, R.Tracks s o R.heldRow ∧ o.provider = some R.provider.id ∧ o.status = .processing ∧
      o.cancellationCount = R.order.cancellationCount) ∧
      s.fulfillments = R.store.fulfillments := by
  obtain ⟨hsent, hoffered, hf⟩ := sendOrderRequest_tracks (R := R)
  obtain ⟨haccepted, hf'⟩ := acceptOrder_tracks hsent hoffered
  intro s
  have hs : s = (acceptOrder R.provider (some R.order.id)).after OrderWrite.exec
      ((sendOrderRequest R.conf R.env (R.order.fieldsFor R.provider.id)).after
        OrderWrite.exec R.store) := by
    simp only [s, offer, after_bind, after_discard]
  rw [hs]
  exact ⟨⟨_, haccepted, rfl, rfl, rfl⟩, hf'.trans hf⟩

section Handlers

lemma markPaymentOrderValidated_tracks (h : R.Tracks s o b) (messageHash : String) :
    R.Tracks ((markPaymentOrderValidated messageHash).after OrderWrite.exec s) o b := by
  rw [markPaymentOrderValidated, after_attempt, OrderWrite.exec_read]
  split
  · simpa using h
  simp only [after_ignore, after_ret]
  refine Tracks.exec ?_ rfl rfl rfl
  simp only [OrderWrite.exec]
  split_ifs
  · exact h
  · exact h.updatePaymentOrders fun _ => ⟨rfl, rfl⟩

lemma edges_eq (h : R.Tracks s o b) (hp : o.provider = some R.provider.id) :
    o.edges = some (R.provider.id, R.bucket) := by
  rw [LockPaymentOrder.edges, hp, h.has_bucket]
  rfl

def releasedRow (R : OrderRun) (edges : Option (String × ProvisionBucket)) (b : Balance) : Balance :=
  if edges.isSome then afterRelease b R.order.fiat else b

variable {edges : Option (String × ProvisionBucket)} {f : LockOrderFulfillment}

lemma fulfillWith_success_tracks (h : R.Tracks s o b) (hstatus : o.status ≠ .validated)
    (ha : AcceptsRelease b R.order.fiat) (hf : s.hasFulfillment f.id = true)
    (he : ∀ e ∈ edges, e = (R.provider.id, R.bucket)) (payload : FulfillLockOrderPayload)
    (hpayload : payload.validationStatus = .success) :
    ∃ o', R.Tracks ((fulfillWith R.order.id payload f o edges).after OrderWrite.exec s) o'
      (R.releasedRow edges b) ∧ o'.provider = o.provider := by
  unfold fulfillWith
  simp only [hpayload, hstatus, if_false, after_attempt, OrderWrite.exec_read, hf,
    not_true_eq_false]
  cases edges with
  | none => exact ⟨o, by simpa [releasedRow] using h, rfl⟩
  | some e =>
    obtain rfl := he e rfl
    have hcommit := h.change (n := { o with status := .validated, updatedAt := s.now })
      (w := .validateCommit R.order.id f.id o.token.network R.provider.id R.bucket.currency
        (afterRelease b R.order.fiat)) rfl
      (congrArg some (if_pos ⟨h.id_eq, hf⟩))
      ((OrderWrite.exec_validateCommit_balance _ _ _ _ _ _ _ _ _ hf).trans
        (by rw [if_pos rfl, h.row]; rfl))
    simp only [after_attempt, OrderWrite.exec_read, h.row, releaseInTx_eq, h.fiat, ha, if_true, hf,
      not_true_eq_false, if_false, after_bind, after_ignore, apiSuccess, after_ret]
    exact ⟨_, (markPaymentOrderValidated_tracks hcommit _).exec rfl rfl rfl, rfl⟩

lemma fulfillWith_failed_tracks (h : R.Tracks s o b) (hstatus : o.status = .processing)
    (hc : Consistent b) (ha : AcceptsRelease b R.order.fiat) (hf : s.hasFulfillment f.id = true)
    (he : ∀ e ∈ edges, e = (R.provider.id, R.bucket)) (payload : FulfillLockOrderPayload)
    (hpayload : payload.validationStatus = .failed) :
    ∃ o', R.Tracks ((fulfillWith R.order.id payload f o edges).after OrderWrite.exec s) o'
      (R.releasedRow edges b) ∧ o'.provider = o.provider := by
  have hset := h.exec (w := .setFulfillment f.id .failed (some payload.validationError)) rfl rfl rfl
  have hupdate := hset.change (w := .fulfillUpdate R.order.id none)
    (n := { o with status := .fulfilled, updatedAt := s.now }) rfl
    (congrArg some (if_pos ⟨h.id_eq, Or.inl hstatus⟩))
    ((OrderWrite.exec_balance rfl _ _ _).trans hset.row)
  unfold fulfillWith
  simp only [hpayload, after_attempt, hf, not_true_eq_false, if_false]
  cases edges with
  | none =>
    exact ⟨{ o with status := .fulfilled, updatedAt := s.now },
      by simpa [releasedRow] using hupdate, rfl⟩
  | some e =>
    obtain rfl := he e rfl
    have hrelease := hupdate.release hc o.fiat
    rw [h.fiat, if_pos ha] at hrelease
    simp only [after_bind, releaseReservedBalance_after, apiSuccess, after_ret, h.fiat]
    exact ⟨_, hrelease, rfl⟩

lemma fulfill_tracks (h : R.Tracks s o R.heldRow) (hp : o.provider = some R.provider.id)
    (hstatus : o.status = .processing) (hs : s.fulfillments = R.store.fulfillments)
    {status : ValidationStatus} (hv : status = .success ∨ status = .failed) :
    ∃ o', R.Tracks ((R.fulfill status).after OrderWrite.exec s) o'
      (if R.fulfillment = none then R.heldRow else R.row) ∧ o'.provider = some R.provider.id := by
  have hwith : ∀ {t : Store} {f : LockOrderFulfillment} {e : Option (String × ProvisionBucket)},
      R.Tracks t o R.heldRow → t.hasFulfillment f.id = true →
      (∀ p ∈ e, p = (R.provider.id, R.bucket)) →
      ∃ o', R.Tracks ((fulfillWith R.order.id ⟨R.psp, R.txId, status, ""⟩ f o e).after
        OrderWrite.exec t) o' (R.releasedRow e R.heldRow) ∧ o'.provider = o.provider := by
    intro t f e ht hf he
    rcases hv with rfl | rfl
    · exact fulfillWith_success_tracks ht (by simp [hstatus]) heldRow_acceptsRelease hf he _ rfl
    · exact fulfillWith_failed_tracks ht hstatus heldRow_consistent heldRow_acceptsRelease hf he _ rfl
  have hrecorded := R.recorded
  rw [← hs] at hrecorded
  have hvalid : ¬ (R.psp = "" ∨ R.txId = "") := not_or.2 ⟨R.psp_ne, R.txId_ne⟩
  rw [fulfill, after_discard]
  unfold fulfillOrder
  rw [if_neg hvalid]
  simp only [after_attempt, OrderWrite.exec_read]
  cases hf : R.fulfillment with
  | none =>
    rw [hf] at hrecorded
    have hnone : only (s.fulfillments.select fun f => f.txId = R.txId) = .error .notFound := by
      rw [hrecorded]
      rfl
    obtain ⟨f, hfound, hforder⟩ := only_after_createFulfillment h.hasLockOrder hnone R.psp
    have hcreated := h.exec (w := .createFulfillment R.order.id R.txId R.psp .pending "") rfl rfl rfl
    have hget : ((OrderWrite.createFulfillment R.order.id R.txId R.psp .pending "").exec
        s).lockOrders.get f.order = some o := hforder ▸ hcreated.stored
    obtain ⟨o', ho', hprovider⟩ := hwith (f := f) (e := none) hcreated
      (by rw [Store.hasFulfillment, get_of_only hfound]; rfl) (by simp)
    refine ⟨o', ?_, hprovider.trans hp⟩
    simp only [hnone, after_attempt, h.hasLockOrder, not_true_eq_false, if_false,
      OrderWrite.exec_read, hfound, hget]
    simpa [releasedRow] using ho'
  | some f =>
    rw [hf] at hrecorded
    have hfound : only (s.fulfillments.select fun f => f.txId = R.txId) = .ok f :=
      only_eq_ok_iff.2 hrecorded
    have hget := h.stored
    rw [← R.recorded_for f hf] at hget
    obtain ⟨o', ho', hprovider⟩ := hwith (f := f) (e := some (R.provider.id, R.bucket)) h
      (by rw [Store.hasFulfillment, get_of_only hfound]; rfl) (by simp)
    refine ⟨o', ?_, hprovider.trans hp⟩
    simp only [hfound, hget, edges_eq h hp]
    simpa [releasedRow, afterRelease_heldRow] using ho'

lemma removeProviderFromQueue_after (key : QueueKey) (provider : String) (fuel index : ℕ)
    (s : Store) :
    ∃ queues, (removeProviderFromQueue key provider fuel index).after OrderWrite.exec s =
      { s with queues := queues } := by
  obtain ⟨queues, hq⟩ := removeProviderFromQueue_watched key provider fuel index (s, [])
  have hfst := congrArg Prod.fst hq
  rw [watched_fst] at hfst
  exact ⟨queues, hfst⟩

lemma cancelWith_tracks (h : R.Tracks s o R.heldRow) (hp : o.provider = some R.provider.id)
    (count : ℕ) (reason : Option String) :
    ∃ o', R.Tracks ((cancelWith R.conf R.provider o count reason).after OrderWrite.exec s) o' R.row ∧
      o'.provider = some R.provider.id ∧ o'.cancellationCount = count := by
  have hupdate := h.change (w := .cancelUpdate o.id count reason) rfl
    (congrArg some (if_pos rfl)) ((OrderWrite.exec_balance rfl _ _ _).trans h.row)
  have hrelease := hupdate.release heldRow_consistent R.order.fiat
  rw [if_pos heldRow_acceptsRelease, afterRelease_heldRow] at hrelease
  have hstored : s.hasLockOrder o.id = true := h.id_eq ▸ h.hasLockOrder
  have hfiat : fiatAmount o.amount o.rate = R.order.fiat := h.fiat
  unfold cancelWith
  simp only [after_attempt, hstored, not_true_eq_false, if_false, h.has_bucket, after_bind,
    releaseReservedBalance_after, LockPaymentOrder.fiat, hfiat]
  split_ifs
  · simp only [after_ignore, after_attempt, apiSuccess, after_ret]
    exact ⟨_, (hrelease.exec rfl rfl rfl).exec rfl rfl rfl, hp, rfl⟩
  · simp only [after_attempt, apiSuccess, after_ret]
    exact ⟨_, hrelease.exec rfl rfl rfl, hp, rfl⟩

lemma cancel_tracks (h : R.Tracks s o R.heldRow) (hp : o.provider = some R.provider.id)
    (hcount : o.cancellationCount = R.order.cancellationCount) :
    ∃ o', R.Tracks (R.cancel.after OrderWrite.exec s) o' R.row ∧
      o'.provider = some R.provider.id ∧ o'.cancellationCount = R.cancelCount := by
  rw [cancel, after_discard]
  unfold cancelOrder
  rw [if_neg R.reason_ne]
  simp only [after_attempt, OrderWrite.exec_read, h.stored, hp, ne_eq, not_true_eq_false, if_false]
  rw [cancelFound, cancelCount]
  split_ifs
  · rw [← hcount]
    exact cancelWith_tracks h hp _ _
  · rw [← hcount]
    exact cancelWith_tracks h hp _ _
  simp only [h.has_bucket, after_bind]
  obtain ⟨queues, hq⟩ := removeProviderFromQueue_after ⟨R.bucket, false⟩ R.provider.id R.fuel 0 s
  rw [hq, ← hcount]
  exact cancelWith_tracks (s := { s with queues := queues }) (h.of_row rfl rfl h.row) hp _ _

def Excluded (R : OrderRun) (o : LockPaymentOrder) (b : Balance) (x : Store × Unit) : Prop :=
  R.Tracks x.1 o b ∧ R.provider.id ∈ x.1.excludeList R.order.id

def unwatched : OrderWrite → Store → Unit → Unit := fun _ _ u => u

lemma excluded_exec (hl : w.writesLockOrder = false) (hp : w.writesPaymentOrder = false)
    (hb : w.writesBalance = false) (x : Store × Unit) (hx : R.Excluded o b x) :
    R.Excluded o b (watch OrderWrite.exec unwatched w x) :=
  ⟨hx.1.exec hl hp hb, w.mem_excludeList hx.2⟩

lemma excluded_setPaymentOrderRate (order : ℕ) (rate : ℚ) (x : Store × Unit)
    (hx : R.Excluded o b x) :
    R.Excluded o b (watch OrderWrite.exec unwatched (.setPaymentOrderRate order rate) x) := by
  refine ⟨?_, OrderWrite.mem_excludeList _ hx.2⟩
  simp only [watch, OrderWrite.exec]
  split_ifs
  · exact hx.1
  · exact hx.1.updatePaymentOrders fun _ => ⟨rfl, rfl⟩

lemma sendOrderRequest_excluded (order : OrderFields) (hne : order.providerId ≠ R.provider.id) :
    Keeps OrderWrite.exec unwatched (R.Excluded o b) (fun _ _ => True)
      (sendOrderRequest R.conf R.env order) := by
  rw [sendOrderRequest]
  split
  · exact keeps_ret _
  rename_i bucket _
  refine keeps_attempt (fun x hx _ => excluded_exec rfl rfl rfl x hx) fun s => ?_
  split
  · exact keeps_ret _
  split
  · exact keeps_ret _
  rename_i new _
  refine keeps_attempt (fun x hx _ => excluded_exec rfl rfl rfl x hx) fun s => ?_
  refine keeps_ignore (fun x hx _ => excluded_exec rfl rfl rfl x hx) ?_
  split_ifs
  · refine keeps_attempt (fun x hx _ => excluded_exec rfl rfl rfl x hx) fun s => ?_
    refine keeps_attempt (fun x hx _ => ?_) fun _ => keeps_ret _
    refine ⟨hx.1.setFunds_of_ne ?_ new, OrderWrite.mem_excludeList _ hx.2⟩
    exact fun h => hne (Prod.mk.inj h).1.symm
  · exact keeps_ret _

lemma excluded_assignmentInvariant :
    AssignmentInvariant unwatched (R.Excluded o b) (fun _ _ => True) R.conf R.env R.order.id
      (R.provider.id ∈ ·) where
  write := by
    rintro w hw x hx -
    cases hw with
    | setPaymentOrderRate order rate => exact excluded_setPaymentOrderRate order rate x hx
    | _ => exact excluded_exec rfl rfl rfl x hx
  excludeList := fun _ hx => hx.2
  send := fun order _ _ hgood hp => sendOrderRequest_excluded order fun h => hp (h ▸ hgood)

lemma reassign_tracks (h : R.Tracks s o b) (hp : o.provider = some R.provider.id)
    (hcount : o.cancellationCount = R.cancelCount) :
    ∃ o', R.Tracks (R.reassign.after OrderWrite.exec s) o' b ∧
      (R.Reassigns → o'.provider = none) ∧ (¬ R.Reassigns → o'.provider = some R.provider.id) := by
  simp only [reassign, after_attempt, OrderWrite.exec_read, h.stored, after_discard,
    reassignCancelledOrder, hcount]
  by_cases hr : R.Reassigns
  · have hr' : R.provider.visibilityMode ≠ .privateMode ∧
        R.cancelCount < R.conf.refundCancellationCount := hr
    have hexcluded := h.exec (w := .pushExclude o.id R.provider.id) rfl rfl rfl
    have hupdate := hexcluded.change (w := .reassignUpdate o.id) rfl
      (congrArg some (if_pos rfl)) ((OrderWrite.exec_balance rfl _ _ _).trans hexcluded.row)
    have hstored : s.hasLockOrder o.id = true := h.id_eq ▸ h.hasLockOrder
    have hmem : R.provider.id ∈ ((OrderWrite.reassignUpdate o.id).exec
        ((OrderWrite.pushExclude o.id R.provider.id).exec s)).excludeList R.order.id := by
      refine OrderWrite.mem_excludeList _ ?_
      simp [OrderWrite.exec, Store.excludeList, h.id_eq]
    have hkeeps : ∀ k : Completion AssignError → OrderProgram Bool, (∀ r, ∃ c, k r = ret c) →
        Keeps OrderWrite.exec unwatched
          (R.Excluded { o with status := .pending, provider := none, updatedAt := s.now } b)
          (fun _ _ => True)
          ((assignLockPaymentOrder R.conf R.env R.fuel o.reassignFields).bind k) := fun k hk =>
      keeps_bind (assignLockPaymentOrder_keeps excluded_assignmentInvariant _ h.id_eq) fun r => by
        obtain ⟨c, hc⟩ := hk r
        exact hc ▸ keeps_ret c
    have hfinal := fun k hk => (hkeeps k hk (_, ()) ⟨hupdate, hmem⟩
      (Run.admitted_of_forall (fun _ _ => trivial) _ _)).1
    simp only [watched_fst] at hfinal
    rw [if_pos hr']
    simp only [after_attempt, OrderWrite.exec, Store.hasLockOrder] at hfinal hstored ⊢
    simp only [hstored, not_true_eq_false, if_false]
    exact ⟨_, hfinal _ fun r => by cases r <;> exact ⟨_, rfl⟩, fun _ => rfl, fun hn => absurd hr hn⟩
  · have hr' : ¬ (R.provider.visibilityMode ≠ .privateMode ∧
        R.cancelCount < R.conf.refundCancellationCount) := hr
    rw [if_neg hr', after_ret]
    exact ⟨o, h, fun h => absurd h hr, fun _ => hp⟩

lemma commitGatewayEvent_balances (event : GatewayEvent) (change : Option PaymentOrderChange)
    (webhook : Option (ℕ × PaymentOrderStatus)) (e₁ e₂ e₃ : String) (s : Store) :
    ((commitGatewayEvent event change webhook e₁ e₂ e₃).after OrderWrite.exec s).balances =
      s.balances := by
  unfold commitGatewayEvent
  rw [after_attempt]
  split_ifs
  · rw [after_ret, OrderWrite.exec_balances rfl]
  cases webhook with
  | none => rw [after_ret, OrderWrite.exec_balances rfl]
  | some id =>
    simp only [after_attempt, after_ret]
    rw [OrderWrite.exec_balances rfl, OrderWrite.exec_balances rfl]

variable (h : R.Tracks s o b)
include h

lemma paymentOrderOf_ne :
    s.paymentOrderOf R.messageHash R.order.token.network ≠ .error .notSingular :=
  only_ne_notSingular h.paymentOrder

lemma select_settled :
    s.lockOrders.select
      (R.settledEvent.gatewayEvent R.order.token.network R.order.id).selects = [o] := by
  refine Table.select_eq_singleton (Table.mem_of_get h.stored) ?_ fun o' _ ho' => ?_
  · simp [OrderSettledEvent.gatewayEvent, GatewayEvent.selects, h.id_eq, h.token]
  · simp only [OrderSettledEvent.gatewayEvent, GatewayEvent.selects, decide_eq_true_eq] at ho'
    rw [ho'.1, h.id_eq]

lemma select_refunded :
    s.lockOrders.select
      (R.refundedEvent.gatewayEvent R.order.token.network).selects = [o] := by
  refine Table.select_eq_singleton (Table.mem_of_get h.stored) ?_ fun o' hmem ho' => ?_
  · simp [OrderRefundedEvent.gatewayEvent, GatewayEvent.selects, R.refunded_gatewayId, h.gatewayId,
      h.token]
  · simp only [OrderRefundedEvent.gatewayEvent, GatewayEvent.selects, decide_eq_true_eq,
      R.refunded_gatewayId] at ho'
    rw [h.unique o' hmem ho'.1 ho'.2, h.id_eq]

lemma settle_row (hp : o.provider = some R.provider.id) :
    (R.settle.after OrderWrite.exec s).balance R.provider.id R.bucket.currency =
      some (BalanceManagement.settle b R.order.fiat) := by
  have hedges : s.balanceEdges
      (R.settledEvent.gatewayEvent R.order.token.network R.order.id).selects =
        some (R.provider.id, R.bucket.currency, R.order.fiat) := by
    rw [Store.balanceEdges, select_settled h]
    simp [only, edges_eq h hp, h.fiat]
  have hset := (h.setBalance (BalanceManagement.settle b R.order.fiat)).row
  rw [settle, after_discard, updateOrderStatusSettled, after_attempt, OrderWrite.exec_read]
  split
  · rename_i hfound
    exact absurd hfound (paymentOrderOf_ne h)
  · simp only [R.settled_order, after_attempt, OrderWrite.exec_read, hedges, h.row, after_ignore]
    rw [Store.balance, commitGatewayEvent_balances]
    exact hset

lemma refusesLockOrderLink_refunded :
    s.refusesLockOrderLink (R.refundedEvent.gatewayEvent R.order.token.network) = false := by
  simp [Store.refusesLockOrderLink, select_refunded h]

lemma refund_balances :
    (R.refund.after OrderWrite.exec s).balances =
      match s.balanceEdges (R.refundedEvent.gatewayEvent R.order.token.network).selects with
      | none => s.balances
      | some (provider, currency, amount) =>
        ((releaseReservedBalance provider currency amount).after OrderWrite.exec s).balances := by
  rw [refund, after_discard, updateOrderStatusRefunded, after_attempt, OrderWrite.exec_read]
  split
  · rename_i hfound
    exact absurd hfound (paymentOrderOf_ne h)
  simp only [after_attempt, OrderWrite.exec_read, refusesLockOrderLink_refunded h,
    Bool.false_eq_true, if_false]
  cases s.balanceEdges (R.refundedEvent.gatewayEvent R.order.token.network).selects with
  | none => exact commitGatewayEvent_balances ..
  | some e => exact (congrArg Store.balances (after_bind ..)).trans (commitGatewayEvent_balances ..)

lemma refund_row (hc : Consistent b) (hp : o.provider = some R.provider.id) :
    (R.refund.after OrderWrite.exec s).balance R.provider.id R.bucket.currency =
      some (if AcceptsRelease b R.order.fiat then afterRelease b R.order.fiat else b) := by
  rw [Store.balance, refund_balances h, Store.balanceEdges, select_refunded h]
  simp only [only, edges_eq h hp, h.fiat, releaseReservedBalance_after]
  exact (h.release hc R.order.fiat).row

lemma refund_row_unassigned (hp : o.provider = none) :
    (R.refund.after OrderWrite.exec s).balance R.provider.id R.bucket.currency = some b := by
  rw [Store.balance, refund_balances h, Store.balanceEdges, select_refunded h]
  simp only [only, LockPaymentOrder.edges, hp]
  exact h.row

end Handlers

lemma second_release_iff :
    (if AcceptsRelease R.row R.order.fiat then afterRelease R.row R.order.fiat else R.row) = R.row ↔
      R.RefusesSecond := by
  have hr := R.consistent.reserved_nonneg
  have ha := R.fiat_nonneg
  rw [RefusesSecond]
  split_ifs with hacc
  · have hfiat : afterRelease R.row R.order.fiat = R.row ↔ R.order.fiat = 0 := by
      constructor
      · intro h
        have := congrArg Balance.available h
        simp only [afterRelease] at this
        linarith
      · intro h
        simp [afterRelease, h]
    rw [hfiat]
    refine ⟨Or.inl, ?_⟩
    rintro (h | ⟨hpos, hlt⟩)
    · exact h
    · rcases hacc with hle | hzero
      · linarith
      · linarith
  · refine ⟨fun _ => Or.inr ?_, fun _ => rfl⟩
    rw [AcceptsRelease, not_or, not_le] at hacc
    exact ⟨lt_of_le_of_ne hr (Ne.symm hacc.2), hacc.1⟩

lemma settle_row_iff :
    BalanceManagement.settle R.row R.order.fiat = R.expectedRow .settled ↔ R.order.fiat = 0 := by
  constructor
  · intro h
    have := congrArg Balance.available h
    simp only [BalanceManagement.settle, expectedRow] at this
    linarith
  · intro h
    have hr := R.consistent.reserved_nonneg
    have ht := R.consistent.total_nonneg
    simp [BalanceManagement.settle, expectedRow, h, hr, ht]

lemma settle_heldRow :
    BalanceManagement.settle R.heldRow R.order.fiat = R.expectedRow .settled := by
  have hr := R.consistent.reserved_nonneg
  have ht : R.order.fiat ≤ R.row.total := by
    have := R.fiat_le
    have := R.consistent.sum_le_total
    linarith
  simp [BalanceManagement.settle, expectedRow, heldRow, hr, ht]

end OrderRun

open OrderRun

theorem finalRow_eq_expectedRow_iff (R : OrderRun) (route : Route) :
    R.finalRow route = some (R.expectedRow route) ↔ R.Exact route := by
  obtain ⟨⟨o, h, hp, hstatus, hcount⟩, hf⟩ := offer_tracks (R := R)
  rw [finalRow]
  cases route with
  | settled =>
    obtain ⟨o', h', hp'⟩ := fulfill_tracks h hp hstatus hf (Or.inl rfl)
    simp only [program, forEach, id, after_bind, after_ret]
    rw [settle_row h' hp', Option.some.injEq, Exact]
    by_cases hnone : R.fulfillment = none
    · simp [hnone, settle_heldRow]
    · simp [hnone, settle_row_iff]
  | cancelled =>
    obtain ⟨o', h', hp', -⟩ := cancel_tracks h hp hcount
    simp only [program, forEach, id, after_bind, after_ret]
    rw [refund_row h' R.consistent hp', Option.some.injEq]
    exact second_release_iff
  | failedValidation =>
    obtain ⟨o', h', hp'⟩ := fulfill_tracks h hp hstatus hf (Or.inr rfl)
    simp only [program, forEach, id, after_bind, after_ret]
    by_cases hnone : R.fulfillment = none
    · rw [if_pos hnone] at h'
      rw [refund_row h' heldRow_consistent hp', if_pos heldRow_acceptsRelease,
        afterRelease_heldRow]
      exact iff_of_true rfl (Or.inr hnone)
    · rw [if_neg hnone] at h'
      rw [refund_row h' R.consistent hp', Option.some.injEq, Exact]
      exact second_release_iff.trans (by simp [hnone])
  | reassigned =>
    obtain ⟨o₁, h₁, hp₁, hc₁⟩ := cancel_tracks h hp hcount
    obtain ⟨o', h', hgone, hkept⟩ := reassign_tracks h₁ hp₁ hc₁
    simp only [program, forEach, id, after_bind, after_ret]
    by_cases hr : R.Reassigns
    · rw [refund_row_unassigned h' (hgone hr)]
      exact iff_of_true rfl (Or.inr hr)
    · rw [refund_row h' R.consistent (hkept hr), Option.some.injEq, Exact]
      exact second_release_iff.trans (by simp [hr])

def sampleRun (b : Balance) (hb : Consistent b) (ha : 40 ≤ b.available) : OrderRun where
  conf := {}
  env := .silent
  fuel := 1
  store :=
    { Sample.store with
      lockOrders := .single { Sample.lockOrder with status := .pending, provider := none }
      fulfillments := .single (Sample.fulfillment 1 "t1" .pending 1)
      balances := ⟨[⟨"p1", "NGN", b, true, 0⟩], List.nodup_singleton _⟩ }
  provider := Sample.provider
  order := { Sample.lockOrder with status := .pending, provider := none }
  bucket := Sample.bucket
  row := b
  psp := "psp"
  txId := "t1"
  fulfillment := some (Sample.fulfillment 1 "t1" .pending 1)
  reason := "closed"
  messageHash := "m1"
  settledEvent := ⟨2, "0x2", some 1, "g1", 100000⟩
  refundedEvent := ⟨2, "0x2", "g1"⟩
  stored := rfl
  has_bucket := rfl
  gatewayId_unique := fun o ho _ _ => by rw [List.mem_singleton.1 ho]
  has_row := rfl
  consistent := hb
  fiat_nonneg := by decide +kernel
  fiat_le := le_trans (by decide +kernel) ha
  notified := rfl
  psp_ne := by decide
  txId_ne := by decide
  recorded := rfl
  recorded_for := fun f hf => by rw [← Option.some.inj hf]; rfl
  reason_ne := by decide
  paymentOrder_unique := Nat.zero_le _
  settled_order := rfl
  refunded_gatewayId := rfl

theorem finalRow_cancelled_beside_small_reservation :
    (sampleRun ⟨90, 10, 100⟩ (by decide +kernel) (by decide +kernel)).finalRow .cancelled =
      some ⟨90, 10, 100⟩ :=
  (finalRow_eq_expectedRow_iff _ .cancelled).2 (Or.inr (by decide +kernel))

theorem finalRow_settled_cancelled_inexact :
    let R := sampleRun ⟨100, 0, 100⟩ (by decide +kernel) (by decide +kernel)
    R.finalRow .settled = some ⟨100, 0, 60⟩ ∧ R.expectedRow .settled = ⟨60, 0, 60⟩ ∧
      R.finalRow .cancelled = some ⟨140, -40, 100⟩ ∧ R.expectedRow .cancelled = ⟨100, 0, 100⟩ ∧
      R.finalRow .failedValidation = some ⟨140, -40, 100⟩ := by
  decide +kernel

end Stablenode.OrderLedger
