import Stablenode.OrderLedger

/-! Sequential runs of handlers, gateway events and tasks: which keep the reserved balance equal to
the holds. -/
namespace Stablenode.OrderLedger

open BalanceManagement Proc Run

inductive LedgerEvent where
  | sendOrderRequest (env : Environment) (order : OrderFields)
  | acceptOrder (provider : ProviderProfile) (param : Option ℕ)
  | declineOrder (provider : ProviderProfile) (param : Option ℕ)
  | requestExpiry (order : ℕ)
  | fulfillOrder (payload : FulfillLockOrderPayload) (param : Option ℕ)
  | cancelOrder (fuel : ℕ) (provider : ProviderProfile) (reason : String) (param : Option ℕ)
  | syncLockOrderFulfillments (env : Environment) (fuel : ℕ)
  | orderRefunded (network : String) (event : OrderRefundedEvent) (messageHash : String)
  | orderSettled (network : String) (event : OrderSettledEvent) (messageHash : String)
  | fetchProviderBalances (reported : List ReportedBalance)
  | tick (seconds : ℕ)

def expireRequest (order : ℕ) : OrderProgram Unit :=
  attempt .read (ret ()) fun s =>
  if (s.orderRequests.get order).any fun r => r.expiresAt.any (· ≤ s.now) then
    ignore (.expireOrderRequest order) (ret ())
  else ret ()

def LedgerEvent.program (conf : OrderConfig) : LedgerEvent → OrderProgram Unit
  | sendOrderRequest env order => (Stablenode.sendOrderRequest conf env order).discard
  | acceptOrder provider param => (Stablenode.acceptOrder provider param).discard
  | declineOrder provider param => (Stablenode.declineOrder provider param).discard
  | requestExpiry order => expireRequest order
  | fulfillOrder payload param => (Stablenode.fulfillOrder payload param).discard
  | cancelOrder fuel provider reason param =>
    (Stablenode.cancelOrder conf fuel provider reason param).discard
  | syncLockOrderFulfillments env fuel =>
    (Stablenode.syncLockOrderFulfillments conf env fuel).discard
  | orderRefunded network event messageHash =>
    (updateOrderStatusRefunded network event messageHash).discard
  | orderSettled network event messageHash =>
    (updateOrderStatusSettled network event messageHash).discard
  | fetchProviderBalances reported => Stablenode.fetchProviderBalances reported
  | tick seconds => ignore (.tick seconds) (ret ())

def ledgerStep (conf : OrderConfig) (e : LedgerEvent) (x : Store × List Hold) : Store × List Hold :=
  (e.program conf).watched OrderWrite.exec holds x

variable {s : Store} {cur p : String} {y : Store × List Hold} {x : Store × List Hold}

section Releases

variable (P c : String)

def released (s : Store) (p cur : String) (a : ℚ) : ℚ :=
  if (P, c) = (p, cur) ∧ (s.balance p cur).any (fun b => Consistent b ∧ AcceptsRelease b a) then a
  else 0

def releasedInTx (s : Store) (p cur : String) (a : ℚ) : ℚ :=
  if (P, c) = (p, cur) ∧ (s.balance p cur).any (fun b => AcceptsRelease b a) then a else 0

def settledFrom (s : Store) (p cur : String) (a : ℚ) : ℚ :=
  if (P, c) = (p, cur) then ((s.balance p cur).map fun b => min a b.reserved).getD 0 else 0

variable {P c}

lemma reserved_release (s : Store) (p cur : String) (a : ℚ) :
    reserved P c (s.release p cur a) = reserved P c s - released P c s p cur a := by
  rw [Store.release, released]
  cases hb : s.balance p cur with
  | none => simp
  | some b =>
    by_cases ha : Consistent b ∧ AcceptsRelease b a
    · simp only [if_true, Option.any_some, ha, decide_true, and_true]
      by_cases hm : (P, c) = (p, cur)
      · obtain ⟨rfl, rfl⟩ := Prod.mk.inj hm
        rw [reserved_setBalance_self hb, if_pos rfl, reserved, hb]
        rfl
      · rw [reserved_setBalance_of_ne hm, if_neg hm, sub_zero]
    · simp [ha]

lemma watched_release (p cur : String) (a : ℚ) (x : Store × List Hold) :
    (releaseReservedBalance p cur a).watched OrderWrite.exec holds x = (x.1.release p cur a, x.2) := by
  refine Prod.ext (by simp) ?_
  rw [watched, releaseReservedBalance_history]
  cases x.1.balance p cur with
  | none => rfl
  | some b =>
    dsimp only
    split_ifs <;> rfl

lemma reserved_settleBalance {b : Balance} (hb : s.balance p cur = some b) (a : ℚ) :
    reserved P c (s.setBalance p cur (settle b a)) = reserved P c s - settledFrom P c s p cur a := by
  rw [settledFrom, hb]
  split_ifs with hm
  · obtain ⟨rfl, rfl⟩ := Prod.mk.inj hm
    rw [reserved_setBalance_self hb, reserved, hb]
    simp only [settle, Option.map_some, Option.getD_some]
    split_ifs with hneg
    · rw [min_eq_right (by linarith), sub_self]
    · rw [min_eq_left (by linarith)]
  · rw [reserved_setBalance_of_ne hm, sub_zero]

lemma released_of_balances_eq {t : Store} (h : t.balances = s.balances) (p cur : String) (a : ℚ) :
    released P c t p cur a = released P c s p cur a := by
  have hb : t.balance p cur = s.balance p cur := by rw [Store.balance, h, Store.balance]
  rw [released, hb, released]

lemma matched_release {a ended : ℚ} (hx : Matched P c x) (hb : y.1.balances = x.1.balances)
    (hh : held P c y.2 = held P c x.2 - ended) (he : ended = released P c x.1 p cur a) :
    Matched P c (y.1.release p cur a, y.2) := by
  rw [Matched, reserved_release, reserved_of_balances_eq hb, released_of_balances_eq hb, hh, he,
    show reserved P c x.1 = held P c x.2 from hx]

lemma matched_of_ended_zero {ended : ℚ} (hx : Matched P c x) (hb : y.1.balances = x.1.balances)
    (hh : held P c y.2 = held P c x.2 - ended) (he : ended = 0) : Matched P c y := by
  rw [Matched, reserved_of_balances_eq hb, hh, he, sub_zero]
  exact hx

end Releases

section Events

variable (P c : String) (conf : OrderConfig)

def cancelTarget (s : Store) (provider : ProviderProfile) (reason : String) (param : Option ℕ) :
    Option LockPaymentOrder :=
  if reason = "" then none
  else (param.bind s.lockOrders.get).filter fun o =>
    o.provider = some provider.id ∧
      (o.provisionBucket.isSome ∨ reason ≠ "Insufficient funds" ∨
        provider.visibilityMode = .privateMode)

def releasedVia (s : Store) (edges : Option (String × ProvisionBucket)) (a : ℚ) : ℚ :=
  (edges.map fun e => released P c s e.1 e.2.currency a).getD 0

def validatedVia (s : Store) (edges : Option (String × ProvisionBucket)) (a : ℚ) : ℚ :=
  (edges.map fun e => releasedInTx P c s e.1 e.2.currency a).getD 0

variable {P c conf}

variable {o : LockPaymentOrder} {provider : ProviderProfile} {f : LockOrderFulfillment}
  {txId messageHash network : String}
  (hx : Matched P c x)
include hx

lemma cancelWith_matched (ho : o.provider = some provider.id)
    (hs : x.1.hasLockOrder o.id = true)
    (he : heldFor P c (· = o.id) x.2 = releasedVia P c x.1 o.edges o.fiat) (count : ℕ)
    (reason : Option String) :
    Matched P c ((cancelWith conf provider o count reason).watched OrderWrite.exec holds x) := by
  have hb : (watch OrderWrite.exec holds (.cancelUpdate o.id count reason) x).1.balances =
      x.1.balances := OrderWrite.exec_balances rfl x.1
  have hh : held P c (watch OrderWrite.exec holds (.cancelUpdate o.id count reason) x).2 =
      held P c x.2 - heldFor P c (· = o.id) x.2 := held_filter_order o.id x.2
  rw [releasedVia, LockPaymentOrder.edges, ho] at he
  rw [cancelWith, watched_attempt]
  simp only [hs, not_true_eq_false, if_false]
  cases hbucket : o.provisionBucket with
  | none =>
    rw [hbucket] at he
    rw [watched_ret]
    exact matched_of_ended_zero hx hb hh he
  | some bucket =>
    rw [hbucket] at he
    simp only [watched_bind, watched_release]
    have hm := matched_release hx hb hh he
    split_ifs
    · rw [watched_ignore, watched_attempt, apiSuccess, watched_ret]
      exact matched_of_quiet rfl _ (matched_of_quiet rfl _ hm trivial) trivial
    · rw [watched_attempt, apiSuccess, watched_ret]
      exact matched_of_quiet rfl _ hm trivial

omit hx in
lemma removeProviderFromQueue_watched (key : QueueKey) (provider : String) (fuel index : ℕ)
    (x : Store × List Hold) :
    ∃ queues, (removeProviderFromQueue key provider fuel index).watched OrderWrite.exec holds x =
      ({ x.1 with queues := queues }, x.2) := by
  induction fuel generalizing index with
  | zero => exact ⟨x.1.queues, by rw [removeProviderFromQueue, watched_ret]⟩
  | succ fuel ih =>
    rw [removeProviderFromQueue, watched_attempt, watch_read]
    split
    · exact ⟨x.1.queues, by rw [watched_ret]⟩
    · exact ih _
    split_ifs
    · simp only [watched_ignore, watched_ret, watch, OrderWrite.exec]
      obtain ⟨q₁, h₁⟩ := x.1.updateQueue_frame key _
      rw [h₁]
      obtain ⟨q₂, h₂⟩ := Store.updateQueue_frame { x.1 with queues := q₁ } key _
      rw [h₂]
      exact ⟨q₂, rfl⟩
    · exact ih _

lemma cancelFound_matched (fuel : ℕ) (ho : o.provider = some provider.id)
    (hs : x.1.hasLockOrder o.id = true) (reason : String)
    (he : o.provisionBucket.isSome = true ∨ reason ≠ "Insufficient funds" ∨
      provider.visibilityMode = .privateMode →
        heldFor P c (· = o.id) x.2 = releasedVia P c x.1 o.edges o.fiat) :
    Matched P c ((cancelFound conf fuel provider reason o).watched OrderWrite.exec holds x) := by
  rw [cancelFound]
  split_ifs with hinvalid hother
  · refine cancelWith_matched hx ho hs (he (Or.inr ?_)) _ _
    rcases hinvalid with rfl | hprivate
    · exact Or.inl (by decide)
    · exact Or.inr hprivate
  · exact cancelWith_matched hx ho hs (he (Or.inr (Or.inl hother))) _ _
  cases hbucket : o.provisionBucket with
  | none => simpa using hx
  | some bucket =>
    simp only [watched_bind]
    obtain ⟨queues, hq⟩ := removeProviderFromQueue_watched ⟨bucket, false⟩ provider.id fuel 0 x
    rw [hq]
    exact cancelWith_matched (x := ({ x.1 with queues := queues }, x.2)) hx ho hs
      (he (Or.inl (by rw [hbucket]; rfl))) _ _

lemma cancelOrder_matched (fuel : ℕ) (provider : ProviderProfile)
    (reason : String) (param : Option ℕ) (he : ∀ o ∈ cancelTarget x.1 provider reason param,
      heldFor P c (· = o.id) x.2 = releasedVia P c x.1 o.edges o.fiat) :
    Matched P c ((cancelOrder conf fuel provider reason param).watched OrderWrite.exec holds x) := by
  unfold cancelOrder
  by_cases hreason : reason = ""
  · rw [if_pos hreason]
    simpa [apiError] using hx
  rw [if_neg hreason]
  cases param with
  | none => simpa [apiError] using hx
  | some id =>
    simp only [watched_attempt, watch_read]
    cases hget : x.1.lockOrders.get id with
    | none => simpa [apiError] using hx
    | some o =>
      by_cases hp : o.provider = some provider.id
      · have hs : x.1.hasLockOrder o.id = true := by
          rw [Store.hasLockOrder, Table.get_key hget, hget]
          rfl
        simp only [hp, not_true_eq_false, if_false, ne_eq]
        refine cancelFound_matched hx fuel hp hs reason fun hor => he o ?_
        simp [cancelTarget, hreason, hget, hp, hor]
      · simpa [hp, apiError] using hx

lemma matched_validateCommit {f : ℕ} (hf : x.1.hasFulfillment f = true) {a : ℚ}
    {b : Balance} (hrow : x.1.balance p cur = some b) (ha : AcceptsRelease b a)
    (hz : releasedInTx P c x.1 p cur a = 0) (order : ℕ) (network : String) :
    Matched P c (watch OrderWrite.exec holds
      (.validateCommit order f network p cur (afterRelease b a)) x) := by
  rw [Matched, watch, reserved, OrderWrite.exec_validateCommit_balance _ _ _ _ _ _ _ _ _ hf]
  have hx' : reserved P c x.1 = held P c x.2 := hx
  split_ifs with hm
  · obtain ⟨rfl, rfl⟩ := Prod.mk.inj hm
    have ha0 : a = 0 := by
      simpa [releasedInTx, hrow, ha] using hz
    rw [reserved, hrow] at hx'
    rw [hrow, ha0]
    simpa [afterRelease, holds] using hx'
  · exact hx'

lemma markPaymentOrderValidated_matched (messageHash : String) :
    Matched P c ((markPaymentOrderValidated messageHash).watched OrderWrite.exec holds x) := by
  rw [markPaymentOrderValidated, watched_attempt, watch_read]
  split
  · simpa using hx
  · simp only [watched_ignore, watched_ret]
    exact matched_of_quiet rfl _ (matched_of_quiet rfl _ hx trivial) trivial

lemma fulfillWith_matched (orderID : ℕ) {payload : FulfillLockOrderPayload}
    (hf : x.1.fulfillments.get f.id = some f) (hid : o.id = f.order)
    {edges : Option (String × ProvisionBucket)}
    (hsuccess : payload.validationStatus = .success → o.status ≠ .validated →
      validatedVia P c x.1 edges o.fiat = 0)
    (hfailed : payload.validationStatus = .failed →
      heldFor P c (· = o.id) x.2 = releasedVia P c x.1 edges o.fiat) :
    Matched P c ((fulfillWith orderID payload f o edges).watched OrderWrite.exec holds x) := by
  have hhas : x.1.hasFulfillment f.id = true := by rw [Store.hasFulfillment, hf]; rfl
  unfold fulfillWith
  cases hstatus : payload.validationStatus with
  | success =>
    by_cases hvalidated : o.status = .validated
    · simpa [hvalidated, apiSuccess] using hx
    simp only [hvalidated, if_false, watched_attempt, watch_read, hhas, not_true_eq_false]
    have hz := hsuccess hstatus hvalidated
    cases edges with
    | none => simpa using hx
    | some pb =>
      obtain ⟨p, bucket⟩ := pb
      simp only [watched_attempt, watch_read]
      cases hrow : x.1.balance p bucket.currency with
      | none => simpa [apiError] using hx
      | some b =>
        simp only [releaseInTx_eq]
        by_cases ha : AcceptsRelease b o.fiat
        · simp only [ha, if_true, watched_attempt, hhas, not_true_eq_false, if_false, watched_bind,
            watched_ignore, apiSuccess, watched_ret]
          have hv := matched_validateCommit hx hhas hrow ha hz orderID o.token.network
          exact matched_of_quiet rfl _ (markPaymentOrderValidated_matched hv _) trivial
        · simpa [ha, apiError] using hx
  | failed =>
    have he := hfailed hstatus
    simp only [watched_attempt, hhas, not_true_eq_false, if_false]
    set y := watch OrderWrite.exec holds (.fulfillUpdate orderID none)
      (watch OrderWrite.exec holds (.setFulfillment f.id .failed (some payload.validationError)) x)
      with hy
    have hb : y.1.balances = x.1.balances := by
      simp only [hy, watch]
      rw [OrderWrite.exec_balances rfl, OrderWrite.exec_balances rfl]
    have hh : held P c y.2 = held P c x.2 - heldFor P c (· = o.id) x.2 := by
      simp only [hy, watch, holds, hf, Option.any_some, hid]
      exact held_filter_order f.order x.2
    cases edges with
    | none =>
      rw [watched_ret]
      exact matched_of_ended_zero hx hb hh he
    | some pb =>
      simp only [watched_bind, watched_release, apiSuccess, watched_ret]
      exact matched_release hx hb hh he
  | pending =>
    simp only [watched_attempt, apiSuccess, watched_ret]
    exact matched_of_quiet rfl _ (matched_of_quiet rfl _ hx trivial) trivial

variable (P c) in
def FulfillOk (x : Store × List Hold) (payload : FulfillLockOrderPayload) (id : ℕ) : Prop :=
  match only (x.1.fulfillments.select fun f => f.txId = payload.txId) with
  | .ok f => ∀ o ∈ x.1.lockOrders.get f.order,
    match payload.validationStatus with
    | .success => o.status ≠ .validated → validatedVia P c x.1 o.edges o.fiat = 0
    | .failed => heldFor P c (· = o.id) x.2 = releasedVia P c x.1 o.edges o.fiat
    | .pending => True
  | .error .notFound =>
    payload.validationStatus = .failed → x.1.hasLockOrder id = true → heldFor P c (· = id) x.2 = 0
  | .error .notSingular => True

instance (x : Store × List Hold) (payload : FulfillLockOrderPayload) (id : ℕ) :
    Decidable (FulfillOk P c x payload id) := by
  unfold FulfillOk
  split
  · cases payload.validationStatus <;> infer_instance
  · infer_instance
  · infer_instance

omit hx in
lemma get_of_only (h : only (s.fulfillments.select fun f => f.txId = txId) = .ok f) :
    s.fulfillments.get f.id = some f := by
  have hmem : f ∈ s.fulfillments.select fun f => f.txId = txId := by
    rw [only_eq_ok_iff.1 h]
    simp
  exact Table.get_of_mem (List.mem_of_mem_filter hmem)

omit hx in
lemma only_after_createFulfillment {id : ℕ} (hs : s.hasLockOrder id = true)
    (h : only (s.fulfillments.select fun f => f.txId = txId) = .error .notFound) (psp : String) :
    ∃ f, only (((OrderWrite.createFulfillment id txId psp .pending "").exec s).fulfillments.select
      fun f => f.txId = txId) = .ok f ∧ f.order = id := by
  have hnil : (s.fulfillments.select fun f => f.txId = txId) = [] := by
    revert h
    rcases s.fulfillments.select fun f => f.txId = txId with _ | ⟨a, _ | ⟨b, l⟩⟩ <;> simp [only]
  refine ⟨⟨s.fulfillments.fresh, txId, psp, .pending, "", id, s.now⟩, ?_, rfl⟩
  simp only [OrderWrite.exec, hs, if_true]
  rw [Table.select_insert (Table.get_fresh _), hnil]
  simp [only]

lemma fulfillOrder_matched (payload : FulfillLockOrderPayload)
    (param : Option ℕ)
    (hok : payload.psp ≠ "" → payload.txId ≠ "" → ∀ id ∈ param, FulfillOk P c x payload id) :
    Matched P c ((fulfillOrder payload param).watched OrderWrite.exec holds x) := by
  unfold fulfillOrder
  by_cases hpayload : payload.psp = "" ∨ payload.txId = ""
  · rw [if_pos hpayload]
    simpa [apiError] using hx
  rw [if_neg hpayload]
  rw [not_or] at hpayload
  cases param with
  | none => simpa [apiError] using hx
  | some id =>
    have ho := hok hpayload.1 hpayload.2 id rfl
    rw [FulfillOk] at ho
    simp only [watched_attempt, watch_read]
    cases hfind : only (x.1.fulfillments.select fun f => f.txId = payload.txId) with
    | error e =>
      cases e with
      | notSingular => simpa using hx
      | notFound =>
        simp only [hfind] at ho
        simp only [watched_attempt]
        set y := watch OrderWrite.exec holds
          (.createFulfillment id payload.txId payload.psp .pending "") x with hy
        have hym : Matched P c y := matched_of_quiet rfl x hx trivial
        by_cases hs : x.1.hasLockOrder id = true
        · simp only [hs, not_true_eq_false, if_false, watched_attempt, watch_read]
          obtain ⟨f, hf, hforder⟩ := only_after_createFulfillment hs hfind payload.psp
          have hf' : only (y.1.fulfillments.select fun f => f.txId = payload.txId) = .ok f := hf
          simp only [hf']
          cases hget : y.1.lockOrders.get f.order with
          | none => simpa using hym
          | some o =>
            refine fulfillWith_matched hym id (get_of_only hf') (Table.get_key hget)
              (fun _ _ => rfl) fun hst => ?_
            have ho' : heldFor P c (· = id) y.2 = 0 := ho hst hs
            rw [Table.get_key hget, hforder]
            exact ho'
        · simpa [hs, apiError] using hym
    | ok f =>
      simp only [hfind] at ho
      simp only
      cases hget : x.1.lockOrders.get f.order with
      | none => simpa using hx
      | some o =>
        have hcond := ho o hget
        refine fulfillWith_matched hx id (get_of_only hfind) (Table.get_key hget) ?_ ?_ <;>
          (intro hst; simpa only [hst] using hcond)

lemma acceptOrder_matched (provider : ProviderProfile) (param : Option ℕ) :
    Matched P c ((acceptOrder provider param).watched OrderWrite.exec holds x) := by
  cases param with
  | none => simpa [acceptOrder, apiError] using hx
  | some id =>
    simp only [acceptOrder, takeOrderRequest, watched_attempt, watch_read]
    split_ifs
    · simp only [watched_attempt, watch_read]
      have hy := matched_of_quiet (w := .deleteOrderRequest .accepted id provider.id) rfl x hx trivial
      split <;> (simp only [apiError, watched_ret]; exact matched_of_quiet rfl _ hy trivial)
    · simpa [apiError] using hx

lemma matched_of_offer_ended {id : ℕ} {q : String → Prop} [DecidablePred q]
    (hb : y.1.balances = x.1.balances)
    (hy : y.2 = x.2.filter fun h => !decide (h.order = id ∧ q h.provider))
    (he : q P → heldFor P c (· = id) x.2 = 0) : Matched P c y := by
  refine matched_of_ended_zero hx hb
    (by rw [hy]; exact amountWhere_filter_not _ (fun h => h.order = id ∧ q h.provider) x.2) ?_
  by_cases hP : q P
  · rw [← he hP]
    refine amountWhere_congr (fun h => ?_) _
    by_cases h₁ : h.provider = P <;> simp [h₁, hP]
  · rw [amountWhere, List.filter_eq_nil_iff.2]
    · rfl
    · intro h _ hh
      simp only [Bool.and_eq_true, decide_eq_true_eq] at hh
      exact hP (hh.1.1 ▸ hh.2.2)

lemma declineOrder_matched (provider : ProviderProfile) (param : Option ℕ)
    (he : ∀ id ∈ param, provider.id = P → x.1.isOffered id P = true →
      heldFor P c (· = id) x.2 = 0) :
    Matched P c ((declineOrder provider param).watched OrderWrite.exec holds x) := by
  cases param with
  | none => simpa [declineOrder, apiError] using hx
  | some id =>
    simp only [declineOrder, takeOrderRequest, watched_attempt, watch_read]
    split_ifs with hoffered
    · simp only [watched_attempt, apiSuccess, watched_ret]
      refine matched_of_quiet rfl _ ?_ trivial
      exact matched_of_offer_ended (q := (· = provider.id)) hx
        (OrderWrite.exec_balances rfl x.1) rfl fun hP => he id rfl hP.symm (hP ▸ hoffered)
    · simpa [apiError] using hx

lemma expireRequest_matched (id : ℕ)
    (he : x.1.isOffered id P = true → heldFor P c (· = id) x.2 = 0) :
    Matched P c ((expireRequest id).watched OrderWrite.exec holds x) := by
  simp only [expireRequest, watched_attempt, watch_read]
  split_ifs
  · simp only [watched_ignore, watched_ret]
    exact matched_of_offer_ended (q := (x.1.isOffered id ·)) hx
      (OrderWrite.exec_balances rfl x.1) rfl he
  · simpa using hx

variable (P c) in
def endedBy (x : Store × List Hold) (event : GatewayEvent) (change : Option PaymentOrderChange) : ℚ :=
  if x.1.refusesGatewayCommit event change then 0
  else heldFor P c (fun id => (x.1.lockOrders.get id).any event.selects) x.2

omit hx in
lemma commitGatewayEvent_matched {event : GatewayEvent} {change : Option PaymentOrderChange}
    (hx : reserved P c x.1 = held P c x.2 - endedBy P c x event change)
    (webhook : Option (ℕ × PaymentOrderStatus)) (e₁ e₂ e₃ : String) :
    Matched P c ((commitGatewayEvent event change webhook e₁ e₂ e₃).watched
      OrderWrite.exec holds x) := by
  have hm : Matched P c (watch OrderWrite.exec holds (.gatewayCommit event change) x) := by
    rw [Matched, watch, reserved_of_balances_eq (OrderWrite.exec_balances rfl x.1), hx]
    simp only [endedBy, holds]
    split_ifs
    · rw [sub_zero]
    · exact (amountWhere_filter_not _ (fun h => (x.1.lockOrders.get h.order).any event.selects) _).symm
  unfold commitGatewayEvent
  rw [watched_attempt]
  split_ifs
  · simpa using hm
  cases webhook with
  | none => simpa using hm
  | some id =>
    simp only [watched_attempt, watched_ret]
    exact matched_of_quiet rfl _ hm trivial

variable (P c) in
def RefundOk (x : Store × List Hold) (network : String) (event : OrderRefundedEvent)
    (messageHash : String) : Prop :=
  let paymentOrder := x.1.paymentOrderOf messageHash network
  let gatewayEvent := event.gatewayEvent network
  paymentOrder ≠ .error .notSingular → x.1.refusesLockOrderLink gatewayEvent = false →
    endedBy P c x gatewayEvent (paymentOrder.toOption.bind (event.change network messageHash)) =
      ((x.1.balanceEdges gatewayEvent.selects).map fun e => released P c x.1 e.1 e.2.1 e.2.2).getD 0

lemma updateOrderStatusRefunded_matched {event : OrderRefundedEvent}
    (hok : RefundOk P c x network event messageHash) :
    Matched P c ((updateOrderStatusRefunded network event messageHash).watched
      OrderWrite.exec holds x) := by
  rw [updateOrderStatusRefunded, watched_attempt, watch_read]
  split
  · simpa using hx
  rename_i found hfound
  have hok' := hok (fun h => hfound h)
  simp only [watched_attempt, watch_read]
  by_cases hlink : x.1.refusesLockOrderLink (event.gatewayEvent network) = true
  · simpa [hlink] using hx
  simp only [hlink]
  have hended := hok' (by simpa using hlink)
  cases hedges : x.1.balanceEdges (event.gatewayEvent network).selects with
  | none =>
    simp only [hedges] at hended
    refine commitGatewayEvent_matched ?_ _ _ _ _
    rw [hended]
    exact (sub_zero (held P c x.2)).symm ▸ hx
  | some e =>
    obtain ⟨p, cur, a⟩ := e
    simp only [hedges, Option.map_some, Option.getD_some] at hended
    simp only [Bool.false_eq_true, if_false, watched_bind, watched_release]
    refine commitGatewayEvent_matched ?_ _ _ _ _
    rw [reserved_release, show reserved P c x.1 = held P c x.2 from hx, ← hended]
    obtain ⟨b, hb⟩ := x.1.release_frame p cur a
    rw [hb]
    rfl

variable (P c) in
def SettleOk (x : Store × List Hold) (network : String) (event : OrderSettledEvent)
    (messageHash : String) : Prop :=
  let paymentOrder := x.1.paymentOrderOf messageHash network
  paymentOrder ≠ .error .notSingular → ∀ id ∈ event.splitOrderId,
    endedBy P c x (event.gatewayEvent network id)
        (paymentOrder.toOption.bind (event.change messageHash)) =
      ((x.1.balanceEdges (event.gatewayEvent network id).selects).map fun e =>
        settledFrom P c x.1 e.1 e.2.1 e.2.2).getD 0

lemma updateOrderStatusSettled_matched {event : OrderSettledEvent}
    (hok : SettleOk P c x network event messageHash) :
    Matched P c ((updateOrderStatusSettled network event messageHash).watched
      OrderWrite.exec holds x) := by
  have hx' : reserved P c x.1 = held P c x.2 := hx
  rw [updateOrderStatusSettled, watched_attempt, watch_read]
  split
  · simpa using hx
  rename_i found hfound
  have hok' := hok (fun h => hfound h)
  cases hid : event.splitOrderId with
  | none => simpa using hx
  | some id =>
    have hended := hok' id hid
    simp only [watched_attempt, watch_read]
    cases hedges : x.1.balanceEdges (event.gatewayEvent network id).selects with
    | none =>
      simp only [hedges, Option.map_none, Option.getD_none] at hended
      refine commitGatewayEvent_matched ?_ _ _ _ _
      rw [hended, hx', sub_zero]
    | some e =>
      obtain ⟨p, cur, a⟩ := e
      simp only [hedges, Option.map_some, Option.getD_some] at hended
      simp only [watched_attempt, watch_read]
      cases hb : x.1.balance p cur with
      | none =>
        refine commitGatewayEvent_matched ?_ _ _ _ _
        rw [hended, hx', settledFrom, hb]
        simp
      | some b =>
        simp only [watched_ignore]
        refine commitGatewayEvent_matched ?_ _ _ _ _
        simp only [watch, OrderWrite.exec]
        rw [reserved_settleBalance hb, hx', ← hended]
        rfl

omit hx in
lemma reserved_exec_syncBalance (s : Store) (p cur : String) (b : Balance) :
    reserved P c ((OrderWrite.syncBalance p cur b).exec s) =
      if (P, c) = (p, cur) then b.reserved else reserved P c s := by
  simp only [OrderWrite.exec]
  cases hrow : s.balances.get (p, cur) with
  | some r =>
    simp only [Option.isSome_some, if_true]
    have hb : s.balance p cur = some r.balance := by rw [Store.balance, hrow]; rfl
    split_ifs with hm
    · obtain ⟨rfl, rfl⟩ := Prod.mk.inj hm
      exact reserved_setBalance_self hb
    · exact reserved_setBalance_of_ne hm
  | none =>
    simp only [Option.isSome_none, Bool.false_eq_true, if_false]
    split_ifs with hm
    · obtain ⟨rfl, rfl⟩ := Prod.mk.inj hm
      rw [reserved, Store.balance, Table.get_insert_self hrow]
      rfl
    · have hg := Table.get_insert_of_ne (t := s.balances) (a := ⟨p, cur, b, true, s.now⟩) hm
      simp only [reserved, Store.balance, hg]

lemma updateProviderBalance_matched (r : ReportedBalance)
    (he : r.provider = P → r.currency = c → held P c x.2 = 0) :
    Matched P c ((updateProviderBalance r).watched OrderWrite.exec holds x) ∧
      ((updateProviderBalance r).watched OrderWrite.exec holds x).2 = x.2 := by
  have hw : Matched P c (watch OrderWrite.exec holds
      (.syncBalance r.provider r.currency ⟨r.available, 0, r.total⟩) x) := by
    have hx' : reserved P c x.1 = held P c x.2 := hx
    rw [Matched, watch, reserved_exec_syncBalance]
    split_ifs with hm
    · obtain ⟨h₁, h₂⟩ := Prod.mk.inj hm
      exact (he h₁.symm h₂.symm).symm
    · exact hx'
  simp only [updateProviderBalance, watched_attempt, watch_read]
  split_ifs
  · rw [watched_ignore, watched_ret]
    exact ⟨hw, rfl⟩
  · rw [watched_ignore, watched_ret]
    exact ⟨hw, rfl⟩
  · rw [watched_ret]
    exact ⟨hx, rfl⟩

lemma forEach_updateProviderBalance_matched (rs : List ReportedBalance)
    (he : ∀ r ∈ rs, r.provider = P → r.currency = c → held P c x.2 = 0) :
    Matched P c ((forEach rs updateProviderBalance).watched OrderWrite.exec holds x) := by
  induction rs generalizing x with
  | nil => simpa [forEach] using hx
  | cons r rs ih =>
    obtain ⟨hm, hh⟩ := updateProviderBalance_matched hx r (he r (by simp))
    rw [forEach, watched_bind]
    refine ih hm fun r' hr' => ?_
    rw [hh]
    exact he r' (by simp [hr'])

omit hx

variable (P c conf) in
def LedgerEvent.Disciplined : LedgerEvent → Store × List Hold → Prop
  | sendOrderRequest env order, x =>
    Admitted (watch OrderWrite.exec holds) (WriteOk P c) x
      ((Stablenode.sendOrderRequest conf env order).history OrderWrite.exec [] x.1)
  | acceptOrder _ _, _ => True
  | declineOrder provider param, x =>
    ∀ id ∈ param, provider.id = P → x.1.isOffered id P = true →
      heldFor P c (· = id) x.2 = 0
  | requestExpiry id, x => x.1.isOffered id P = true → heldFor P c (· = id) x.2 = 0
  | fulfillOrder payload param, x =>
    payload.psp ≠ "" → payload.txId ≠ "" → ∀ id ∈ param, FulfillOk P c x payload id
  | cancelOrder _ provider reason param, x =>
    ∀ o ∈ cancelTarget x.1 provider reason param,
      heldFor P c (· = o.id) x.2 = releasedVia P c x.1 o.edges o.fiat
  | syncLockOrderFulfillments env fuel, x =>
    Admitted (watch OrderWrite.exec holds) (WriteOk P c) x
      ((Stablenode.syncLockOrderFulfillments conf env fuel).history OrderWrite.exec [] x.1)
  | orderRefunded network event messageHash, x => RefundOk P c x network event messageHash
  | orderSettled network event messageHash, x => SettleOk P c x network event messageHash
  | fetchProviderBalances reported, x =>
    ∀ r ∈ reported, r.provider = P → r.currency = c → 0 ≤ r.available → 0 ≤ r.total →
      held P c x.2 = 0
  | tick _, _ => True

instance (x : Store × List Hold) (network : String) (event : OrderRefundedEvent)
    (messageHash : String) : Decidable (RefundOk P c x network event messageHash) := by
  unfold RefundOk
  infer_instance

instance (x : Store × List Hold) (network : String) (event : OrderSettledEvent)
    (messageHash : String) : Decidable (SettleOk P c x network event messageHash) := by
  unfold SettleOk
  infer_instance

instance (e : LedgerEvent) (x : Store × List Hold) : Decidable (e.Disciplined P c conf x) := by
  cases e <;> (unfold LedgerEvent.Disciplined; infer_instance)

theorem ledgerStep_matched (e : LedgerEvent) (x : Store × List Hold) (hx : Matched P c x)
    (he : e.Disciplined P c conf x) : Matched P c (ledgerStep conf e x) := by
  have hdiscard : ∀ {α : Type} {p : OrderProgram α}, Matched P c (p.watched OrderWrite.exec holds x) →
      Matched P c (p.discard.watched OrderWrite.exec holds x) := fun h => by rwa [watched_discard]
  cases e with
  | sendOrderRequest env order => exact hdiscard (sendOrderRequest_keeps order x hx he)
  | acceptOrder provider param => exact hdiscard (acceptOrder_matched hx provider param)
  | declineOrder provider param => exact hdiscard (declineOrder_matched hx provider param he)
  | requestExpiry id => exact expireRequest_matched hx id he
  | fulfillOrder payload param => exact hdiscard (fulfillOrder_matched hx payload param he)
  | cancelOrder fuel provider reason param => exact hdiscard (cancelOrder_matched hx fuel provider reason param he)
  | syncLockOrderFulfillments env fuel => exact hdiscard (syncLockOrderFulfillments_keeps fuel x hx he)
  | orderRefunded network event messageHash => exact hdiscard (updateOrderStatusRefunded_matched hx he)
  | orderSettled network event messageHash => exact hdiscard (updateOrderStatusSettled_matched hx he)
  | fetchProviderBalances reported =>
    refine forEach_updateProviderBalance_matched hx _ fun r hr hp hc => ?_
    simp only [List.mem_filter, decide_eq_true_eq] at hr
    exact he r hr.1 hp hc hr.2.1 hr.2.2
  | tick seconds =>
    rw [ledgerStep, LedgerEvent.program, watched_ignore, watched_ret]
    exact matched_of_quiet rfl x hx trivial

theorem reserved_eq_held_of_disciplined (s : Store) (events : List LedgerEvent)
    (hs : reserved P c s = 0)
    (h : Admitted (ledgerStep conf) (LedgerEvent.Disciplined P c conf) (s, []) events) :
    Always (ledgerStep conf) (Matched P c) (s, []) events :=
  always_of_admitted (fun e x hx he => ledgerStep_matched e x hx he) hs h

theorem reserved_eq_held_sent_cancelled :
    Always (ledgerStep {}) (Matched "p1" "NGN") (Sample.store, [])
      [.sendOrderRequest .silent (Sample.lockOrder.fieldsFor "p1"),
        .acceptOrder Sample.provider (some 1), .cancelOrder 1 Sample.provider "closed" (some 1)] :=
  reserved_eq_held_of_disciplined _ _ (by decide +kernel) (by decide +kernel)

theorem declined_request_keeps_reservation :
    reserved "p1" "NGN" Sample.store = 0 ∧
      ¬ Always (ledgerStep {}) (Matched "p1" "NGN") (Sample.store, [])
        [.sendOrderRequest .silent (Sample.lockOrder.fieldsFor "p1"),
          .declineOrder Sample.provider (some 1)] := by
  decide +kernel

end Events

end Stablenode.OrderLedger
