import Stablenode.Faults
import Stablenode.PriorityQueue

/-! One call of `sendOrderRequest` whose steps may fail: what it leaves of the reservation and
of the order request. -/
namespace Stablenode.OrderOffers

open BalanceManagement Fields Proc

structure OfferFaults where
  reserve : Bool
  hset : Bool
  expireAt : Bool
  notify : Bool
  commit : Bool
  deriving DecidableEq

def OfferFaults.toList (f : OfferFaults) : List Bool :=
  [f.reserve, f.hset, f.expireAt, f.notify, f.commit]

variable (conf : OrderConfig) (env : Environment) (order : OrderFields)

def sent (f : OfferFaults) (s : Store) : Completion AssignError × Store :=
  (sendOrderRequest conf env order).outcome OrderWrite.exec f.toList s

def AllOrNothing (s : Store) : Completion AssignError × Store → Prop
  | (.error _, t) =>
    t.balances = s.balances ∧ t.orderRequests.get order.id = s.orderRequests.get order.id
  | (.ok, t) =>
    (∃ bucket b, order.provisionBucket = some bucket ∧
      s.balance order.providerId bucket.currency = some b ∧
      t.balance order.providerId bucket.currency =
        some { b with
          available := b.available - order.fiat
          reserved := b.reserved + order.fiat }) ∧
    ∃ r, t.orderRequests.get order.id = some r ∧ r.field "providerId" = order.providerId ∧
      r.expiresAt.isSome
  | (.panicked, _) => True

def Reservable (s : Store) (currency : String) : Prop :=
  ∃ b, s.balance order.providerId currency = some b ∧ order.fiat ≤ b.available

def FailsLate (f : OfferFaults) : Prop :=
  env.newOrder order.providerId order.id = false ∨ f.notify = true ∨ f.commit = true

def requestOf (f : OfferFaults) (s : Store) (currency : String) : OrderRequest :=
  let r := writtenRequest order currency (s.orderRequests.get order.id)
  if f.expireAt then r else { r with expiresAt := some (s.now + conf.orderRequestValidity) }

variable {order} (f : OfferFaults) {s : Store} {bucket : ProvisionBucket}

lemma exists_requested (conf : OrderConfig) (order : OrderFields) (f : OfferFaults) (s : Store)
    (currency : String) (rest : OrderProgram (Completion AssignError)) (fs : List Bool) :
    ∃ t, (ignore (.expireOrderRequestAt order.id (s.now + conf.orderRequestValidity)) rest).outcome
        OrderWrite.exec (f.expireAt :: fs)
        ((OrderWrite.setOrderRequest order.id (orderRequestData order currency)).exec s) =
          rest.outcome OrderWrite.exec fs t ∧
      t.balances = s.balances ∧
      t.orderRequests.get order.id = some (requestOf conf order f s currency) := by
  have hget := OrderWrite.get_setOrderRequest order.id (orderRequestData order currency) s
  rw [requestOf]
  cases f.expireAt with
  | true =>
    exact ⟨_, outcome_ignore_fail, OrderWrite.exec_balances (w := .setOrderRequest ..) rfl s, hget⟩
  | false =>
    refine ⟨_, outcome_ignore_step, ?_, ?_⟩
    · rw [OrderWrite.exec_balances (w := .expireOrderRequestAt ..) rfl,
        OrderWrite.exec_balances (w := .setOrderRequest ..) rfl]
    · rw [OrderWrite.get_expireOrderRequestAt, hget]
      rfl

section Sent

variable (hbucket : order.provisionBucket = some bucket)
include hbucket

lemma sent_of_not_reservable (h : ¬ Reservable order s bucket.currency) :
    ∃ e, sent conf env order f s = (.error e, s) := by
  rw [sent, sendOrderRequest, hbucket, OfferFaults.toList]
  cases f.reserve with
  | true => exact ⟨_, outcome_attempt_fail⟩
  | false =>
    simp only [outcome_attempt_step, OrderWrite.exec_read]
    cases hb : s.balance order.providerId bucket.currency with
    | none => exact ⟨_, outcome_ret _⟩
    | some b =>
      have hlt : b.available < order.fiat := not_le.1 fun hle => h ⟨b, hb, hle⟩
      simp only [reserveInTx, if_pos hlt]
      exact ⟨_, outcome_ret _⟩

lemma sent_of_early_failure (h : f.reserve = true ∨ f.hset = true) :
    ∃ e, sent conf env order f s = (.error e, s) := by
  by_cases hr : Reservable order s bucket.currency
  · obtain ⟨b, hb, hle⟩ := hr
    rw [sent, sendOrderRequest, hbucket, OfferFaults.toList]
    cases hreserve : f.reserve with
    | true => exact ⟨_, outcome_attempt_fail⟩
    | false =>
      have hset : f.hset = true := h.resolve_left (by simp [hreserve])
      simp only [outcome_attempt_step, OrderWrite.exec_read, hb, reserveInTx,
        if_neg (not_lt.2 hle), hset]
      exact ⟨_, outcome_attempt_fail⟩
  · exact sent_of_not_reservable conf env f hbucket hr

lemma sent_of_late_failure (hr : Reservable order s bucket.currency) (hreserve : f.reserve = false)
    (hset : f.hset = false) (h : FailsLate env order f) :
    ∃ e t, sent conf env order f s = (.error e, t) ∧ t.balances = s.balances ∧
      t.orderRequests.get order.id = some (requestOf conf order f s bucket.currency) := by
  obtain ⟨b, hb, hle⟩ := hr
  rw [sent, sendOrderRequest, hbucket, OfferFaults.toList, hreserve, hset]
  simp only [outcome_attempt_step, OrderWrite.exec_read, hb, reserveInTx, if_neg (not_lt.2 hle)]
  obtain ⟨t, ht, hbalances, hrequest⟩ := exists_requested conf order f s bucket.currency _ _
  rw [ht]
  cases hnew : env.newOrder order.providerId order.id with
  | false => exact ⟨_, t, outcome_ret _, hbalances, hrequest⟩
  | true =>
    rw [if_pos rfl]
    cases hnotify : f.notify with
    | true => exact ⟨_, t, outcome_attempt_fail, hbalances, hrequest⟩
    | false =>
      have hcommit : f.commit = true := (h.resolve_left (by simp [hnew])).resolve_left (by simp [hnotify])
      rw [outcome_attempt_step, hcommit]
      exact ⟨_, _, outcome_attempt_fail, hbalances, hrequest⟩

lemma sent_of_no_failure {b : Balance}
    (hb : s.balance order.providerId bucket.currency = some b) (hle : order.fiat ≤ b.available)
    (hreserve : f.reserve = false) (hset : f.hset = false) (h : ¬ FailsLate env order f) :
    ∃ t, sent conf env order f s = (.ok, t) ∧
      t.balance order.providerId bucket.currency =
        some { b with
          available := b.available - order.fiat
          reserved := b.reserved + order.fiat } ∧
      t.orderRequests.get order.id = some (requestOf conf order f s bucket.currency) := by
  simp only [FailsLate, not_or, Bool.not_eq_false, Bool.not_eq_true] at h
  obtain ⟨hnew, hnotify, hcommit⟩ := h
  rw [sent, sendOrderRequest, hbucket, OfferFaults.toList, hreserve, hset, hnotify, hcommit]
  simp only [outcome_attempt_step, OrderWrite.exec_read, hb, reserveInTx, if_neg (not_lt.2 hle),
    hnew, if_true]
  obtain ⟨t, ht, hbalances, hrequest⟩ := exists_requested conf order f s bucket.currency _ _
  rw [ht, outcome_attempt_step, outcome_attempt_step, outcome_ret]
  refine ⟨_, rfl, ?_, hrequest⟩
  have hrow : t.balance order.providerId bucket.currency = some b := by
    rw [Store.balance, hbalances]
    exact hb
  simp only [OrderWrite.exec, Store.balance_setFunds, if_true]
  have hcalled : Store.balance { t with calls := t.calls ++ [.newOrder order.providerId order.id] }
      order.providerId bucket.currency = some b := hrow
  rw [hcalled]
  rfl

end Sent

lemma some_requestOf_eq_iff (currency : String) :
    some (requestOf conf order f s currency) = s.orderRequests.get order.id ↔
      ∃ r, s.orderRequests.get order.id = some r ∧
        (∀ field ∈ orderRequestData order currency, Holds r.fields field) ∧
        (f.expireAt = true ∨ r.expiresAt = some (s.now + conf.orderRequestValidity)) := by
  cases hr : s.orderRequests.get order.id with
  | none => simp
  | some r =>
    have hfields : setFields r.fields (orderRequestData order currency) = r.fields ↔ _ :=
      setFields_eq_self_iff (orderRequestData_nodup order currency)
    simp only [Option.some.injEq, exists_eq_left', ← hfields, requestOf, hr, writtenRequest,
      Option.elim_some]
    cases f.expireAt <;> cases r <;> simp [eq_comm]

lemma requestOf_expires_iff (currency : String) :
    (requestOf conf order f s currency).expiresAt.isSome ↔
      f.expireAt = false ∨ ∃ r, s.orderRequests.get order.id = some r ∧ r.expiresAt.isSome := by
  rw [requestOf]
  cases f.expireAt with
  | false => simp
  | true => cases hr : s.orderRequests.get order.id <;> simp [writtenRequest]

lemma requestOf_provider (currency : String) :
    (requestOf conf order f s currency).field "providerId" = order.providerId := by
  have hwritten := writtenRequest_provider order currency (s.orderRequests.get order.id)
  rw [requestOf]
  cases f.expireAt <;> exact hwritten

theorem allOrNothing_iff (conf : OrderConfig) (env : Environment) (order : OrderFields)
    (f : OfferFaults) (s : Store) :
    AllOrNothing order s (sent conf env order f s) ↔
      ∀ bucket, order.provisionBucket = some bucket → Reservable order s bucket.currency →
        f.reserve = false → f.hset = false →
        (FailsLate env order f → ∃ r, s.orderRequests.get order.id = some r ∧
          (∀ field ∈ orderRequestData order bucket.currency, Holds r.fields field) ∧
          (f.expireAt = true ∨ r.expiresAt = some (s.now + conf.orderRequestValidity))) ∧
        (¬ FailsLate env order f → f.expireAt = false ∨
          ∃ r, s.orderRequests.get order.id = some r ∧ r.expiresAt.isSome) := by
  cases hbucket : order.provisionBucket with
  | none =>
    refine iff_of_true ?_ (by simp)
    rw [sent, sendOrderRequest, hbucket, outcome_ret]
    trivial
  | some bucket =>
    simp only [Option.some.injEq, forall_eq']
    by_cases hr : Reservable order s bucket.currency
    swap
    · obtain ⟨e, he⟩ := sent_of_not_reservable conf env f hbucket hr
      exact iff_of_true (he ▸ ⟨rfl, rfl⟩) fun h => absurd h hr
    by_cases hearly : f.reserve = true ∨ f.hset = true
    · obtain ⟨e, he⟩ := sent_of_early_failure conf env f (s := s) hbucket hearly
      refine iff_of_true (he ▸ ⟨rfl, rfl⟩) fun _ hreserve hset => ?_
      simp [hreserve, hset] at hearly
    obtain ⟨hreserve, hset⟩ : f.reserve = false ∧ f.hset = false := by simpa using hearly
    simp only [hr, hreserve, hset, forall_const]
    by_cases hlate : FailsLate env order f
    · obtain ⟨e, t, he, hbalances, hrequest⟩ :=
        sent_of_late_failure conf env f hbucket hr hreserve hset hlate
      simp only [he, AllOrNothing, hbalances, hrequest, hlate, true_and, forall_const, not_true,
        false_implies, and_true]
      exact some_requestOf_eq_iff conf f bucket.currency
    obtain ⟨b, hb, hle⟩ := hr
    obtain ⟨t, he, hbalance, hrequest⟩ :=
      sent_of_no_failure conf env f hbucket hb hle hreserve hset hlate
    simp only [he, AllOrNothing, hbucket, Option.some.injEq, hlate, false_implies, true_and,
      not_false_eq_true, forall_const]
    rw [← requestOf_expires_iff conf f bucket.currency]
    constructor
    · rintro ⟨_, r, hr, _, hexpires⟩
      obtain rfl := Option.some.inj (hrequest.symm.trans hr)
      exact hexpires
    · exact fun hexpires =>
        ⟨⟨bucket, b, rfl, hb, hbalance⟩, _, hrequest, requestOf_provider conf f _, hexpires⟩

def sampleOrder : OrderFields where
  id := 1
  token := Sample.token
  amount := 40
  rate := 1
  institution := "bank"
  providerId := "p1"
  provisionBucket := some Sample.bucket
  updatedAt := 0

theorem hash_left_behind :
    ¬ AllOrNothing sampleOrder Sample.store
        (sent {} .silent sampleOrder ⟨false, false, false, true, false⟩ Sample.store) ∧
      ¬ AllOrNothing sampleOrder Sample.store
        (sent {} .silent sampleOrder ⟨false, false, true, false, false⟩ Sample.store) := by
  have hreservable : Reservable sampleOrder Sample.store Sample.bucket.currency :=
    ⟨⟨100, 0, 100⟩, rfl, by decide +kernel⟩
  constructor
  · obtain ⟨e, t, he, -, hrequest⟩ := sent_of_late_failure {} .silent
      ⟨false, false, false, true, false⟩ rfl hreservable rfl rfl (by simp [FailsLate])
    rw [he]
    rintro ⟨-, hsame⟩
    rw [hrequest] at hsame
    cases hsame
  · obtain ⟨b, hb, hle⟩ := hreservable
    obtain ⟨t, he, -, hrequest⟩ := sent_of_no_failure {} .silent
      ⟨false, false, true, false, false⟩ rfl hb hle rfl rfl (by simp [FailsLate, Environment.silent])
    rw [he]
    rintro ⟨-, r, hr, -, hexpires⟩
    obtain rfl := Option.some.inj (hrequest.symm.trans hr)
    cases hexpires

end Stablenode.OrderOffers
