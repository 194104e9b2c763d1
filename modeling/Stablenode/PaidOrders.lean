import Stablenode.ProgramLabels

/-! Lock orders that have been paid: when they are neither refunded nor sold again. -/
namespace Stablenode

open Proc Run

def Store.isPaid (s : Store) (order : ℕ) : Bool :=
  (s.fulfillmentsOf order).any fun f => f.validationStatus = .success

namespace PaidOrders

def RespectsPaid : OrderWrite → Store → Prop
  | .call (.refundOrder order _ _), s => s.isPaid order = false
  | .call (.newOrder _ order), s => s.isPaid order = false
  | .setOrderRequest order _, s => s.isPaid order = false
  | .reserveCommit order _ _ _ _, s => s.isPaid order = false
  | .reassignUpdate order, s => s.isPaid order = false
  | .syncStatus order .pending _, s => s.isPaid order = false
  | _, _ => True

instance (w : OrderWrite) (s : Store) : Decidable (RespectsPaid w s) := by
  rcases w
  case call c => rcases c <;> dsimp only [RespectsPaid] <;> infer_instance
  case syncStatus _ status _ => rcases status <;> dsimp only [RespectsPaid] <;> infer_instance
  all_goals dsimp only [RespectsPaid]; infer_instance

variable (conf : OrderConfig)

inductive Task where
  | cancel (fuel : ℕ) (provider : ProviderProfile) (reason : String) (param : Option ℕ)
  | sync (env : Environment) (fuel : ℕ)
  | refundPass

def Task.program : Task → OrderProgram Unit
  | cancel fuel provider reason param => (cancelOrder conf fuel provider reason param).discard
  | sync env fuel => (syncLockOrderFulfillments conf env fuel).discard
  | refundPass => refundStaleOrders conf

def countAfterCancel (provider : ProviderProfile) (reason : String) (o : LockPaymentOrder) : ℕ :=
  if reason = "Invalid recipient bank details" ∨ provider.visibilityMode = .privateMode then
    o.cancellationCount + conf.refundCancellationCount
  else if reason = "Insufficient funds" then o.cancellationCount
  else o.cancellationCount + 1

def cancelRefunds (provider : ProviderProfile) (reason : String) (o : LockPaymentOrder) : Bool :=
  o.provider = some provider.id ∧ o.provisionBucket.isSome ∧
    conf.refundCancellationCount ≤ countAfterCancel conf provider reason o

def replyPanics (env : Environment) (o : LockPaymentOrder) (fulfillment : Option ℕ) : Bool :=
  match env.txStatus o.id fulfillment, o.provisionBucket with
  | .noSecret, _ => false
  | _, none => true
  | .malformed, some _ => true
  | _, some _ => false

def reportsSuccess (env : Environment) (o : LockPaymentOrder) (fulfillment : ℕ) : Bool :=
  match env.txStatus o.id (some fulfillment) with
  | .status status _ _ _ => status = "success"
  | _ => false

def meetsFailed (env : Environment) (o : LockPaymentOrder) :
    Bool → List LockOrderFulfillment → Bool
  | _, [] => false
  | paid, f :: fs =>
    match f.validationStatus with
    | .pending =>
      !replyPanics env o (some f.id) && meetsFailed env o (paid || reportsSuccess env o f.id) fs
    | .failed => paid || meetsFailed env o paid fs
    | .success => meetsFailed env o paid fs

def isReassignable (o : LockPaymentOrder) (provider : Option ProviderProfile) : Bool :=
  provider.any (fun p => p.visibilityMode ≠ .privateMode) ∧
    o.cancellationCount < conf.refundCancellationCount

def syncResells (env : Environment) (s : Store) (o : LockPaymentOrder) : Bool :=
  isReassignable conf o (o.provider.bind s.providers.get) &&
    meetsFailed env o (s.isPaid o.id) (s.fulfillmentsOf o.id)

def syncPanics (env : Environment) (s : Store) (o : LockPaymentOrder) : Bool :=
  (o.provider.bind s.providers.get).isSome &&
    if s.fulfillmentsOf o.id = [] then o.status ≠ .cancelled && replyPanics env o none
    else (s.fulfillmentsOf o.id).any fun f =>
      f.validationStatus = .pending && replyPanics env o (some f.id)

def syncReaches (env : Environment) (s : Store) : List LockPaymentOrder → Bool
  | [] => false
  | o :: os => syncResells conf env s o || (!syncPanics env s o && syncReaches env s os)

def Task.Harmless : Task → Store → Prop
  | cancel _ provider reason (some order), s =>
    reason = "" ∨ ∀ o ∈ s.lockOrders.get order, cancelRefunds conf provider reason o →
      s.isPaid order = false
  | cancel _ _ _ none, _ => True
  | sync env _, s =>
    syncReaches conf env s (s.lockOrders.select (syncSelects conf s)) = false
  | refundPass, s => ∀ o ∈ s.lockOrders.select (refundSelects conf s), s.isPaid o.id = false

variable {conf}

lemma isPaid_iff {s : Store} {order : ℕ} :
    s.isPaid order = true ↔
      ∃ f ∈ s.fulfillments.rows, f.order = order ∧ f.validationStatus = .success := by
  simp [Store.isPaid, Store.fulfillmentsOf, Table.select]

lemma isPaid_congr {s t : Store} (h : t.fulfillments = s.fulfillments) (order : ℕ) :
    t.isPaid order = s.isPaid order := by
  rw [Store.isPaid, Store.fulfillmentsOf, h]
  rfl

def Quiet (w : OrderWrite) : Prop :=
  w.writesLockOrder = false ∧ w.writesFulfillment = false ∧ ∀ s, RespectsPaid w s

section Quiet

variable {α β : Type} {p : OrderProgram α} {s t : Store}

lemma quiet_safe (h : Uses Quiet p) : Safe OrderWrite.exec RespectsPaid p s :=
  h.safe (I := fun _ => True) (fun _ s hw _ => hw.2.2 s) (fun _ _ _ _ => trivial) trivial

lemma quiet_ends (h : Uses Quiet p) {a : α} (he : Ends OrderWrite.exec p s a t) :
    t.lockOrders = s.lockOrders ∧ t.fulfillments = s.fulfillments :=
  h.ends (I := fun t => t.lockOrders = s.lockOrders ∧ t.fulfillments = s.fulfillments)
    (fun _ u hw hu => ⟨(OrderWrite.exec_lockOrders hw.1 u).trans hu.1,
      (OrderWrite.exec_fulfillments hw.2.1 u).trans hu.2⟩) ⟨rfl, rfl⟩ he

lemma safe_bind_quiet {g : α → OrderProgram β} {Q : Prop} (h : Uses Quiet p)
    (hg : ∀ a t, t.lockOrders = s.lockOrders → t.fulfillments = s.fulfillments →
      (Safe OrderWrite.exec RespectsPaid (g a) t ↔ Q)) :
    Safe OrderWrite.exec RespectsPaid (p.bind g) s ↔ Q := by
  rw [safe_bind_iff]
  constructor
  · rintro ⟨-, hrest⟩
    obtain ⟨a, t, he⟩ := exists_ends p s
    have ht := quiet_ends h he
    exact (hg a t ht.1 ht.2).1 (hrest a t he)
  · intro hQ
    refine ⟨quiet_safe h, fun a t he => ?_⟩
    have ht := quiet_ends h he
    exact (hg a t ht.1 ht.2).2 hQ

end Quiet

section Cancel

variable {provider : ProviderProfile} {o : LockPaymentOrder} {s : Store}

lemma cancelWith_safe_iff (ho : s.hasLockOrder o.id = true) (count : ℕ) (reason : Option String) :
    Safe OrderWrite.exec RespectsPaid (cancelWith conf provider o count reason) s ↔
      (o.provisionBucket.isSome → conf.refundCancellationCount ≤ count →
        s.isPaid o.id = false) := by
  have hfailed : Safe OrderWrite.exec RespectsPaid (apiError 500 "Failed to cancel order") s :=
    trivial
  have hexclude : ∀ t : Store, Safe OrderWrite.exec RespectsPaid
      (attempt (.pushExclude o.id provider.id) (apiError 500 "Failed to decline order request")
        fun _ => apiSuccess 200 "Order cancelled successfully") t :=
    fun t => ⟨trivial, trivial, trivial⟩
  simp only [cancelWith, safe_attempt_iff, RespectsPaid, hfailed, and_true, true_and, ho,
    not_true_eq_false, if_false]
  cases o.provisionBucket with
  | none => simp
  | some bucket =>
    simp only [Option.isSome_some, forall_const]
    refine safe_bind_quiet (releaseReservedBalance_uses ⟨rfl, rfl, fun _ => trivial⟩
      (fun _ => ⟨rfl, rfl, fun _ => trivial⟩) _) fun _ t _ ht => ?_
    by_cases hc : conf.refundCancellationCount ≤ count
    · have ht : t.isPaid o.id = s.isPaid o.id := isPaid_congr ht o.id
      simp only [hc, if_true, safe_ignore_iff, hexclude, and_true, RespectsPaid, forall_const, ht]
    · simp only [hc, if_false, hexclude, false_implies]

lemma cancelFound_safe_iff (ho : s.hasLockOrder o.id = true)
    (hp : o.provider = some provider.id) (fuel : ℕ) (reason : String) :
    Safe OrderWrite.exec RespectsPaid (cancelFound conf fuel provider reason o) s ↔
      (cancelRefunds conf provider reason o → s.isPaid o.id = false) := by
  simp only [cancelFound, cancelRefunds, countAfterCancel, hp, true_and, decide_eq_true_eq, and_imp]
  by_cases hinvalid : reason = "Invalid recipient bank details" ∨
      provider.visibilityMode = .privateMode
  · simp only [hinvalid, if_true, cancelWith_safe_iff ho]
  by_cases hfunds : reason = "Insufficient funds"
  · simp only [if_neg hinvalid]
    simp only [hfunds, ne_eq, not_true_eq_false, if_false, if_true]
    cases hb : o.provisionBucket with
    | none => simp
    | some bucket =>
      refine safe_bind_quiet (removeProviderFromQueue_uses ⟨rfl, rfl, fun _ => trivial⟩
        (fun _ => ⟨rfl, rfl, fun _ => trivial⟩) ⟨rfl, rfl, fun _ => trivial⟩ _ _ _)
        fun _ t hlock ht => ?_
      have hmem : t.hasLockOrder o.id = true := by rw [Store.hasLockOrder, hlock]; exact ho
      rw [cancelWith_safe_iff hmem, hb, isPaid_congr ht]
  · simp only [hinvalid, if_false, ne_eq, hfunds, not_false_eq_true, if_true,
      cancelWith_safe_iff ho]

theorem cancelOrder_safe_iff (fuel : ℕ) (reason : String) (param : Option ℕ) :
    Safe OrderWrite.exec RespectsPaid (cancelOrder conf fuel provider reason param) s ↔
      Task.Harmless conf (.cancel fuel provider reason param) s := by
  have hnotFound : Safe OrderWrite.exec RespectsPaid
      (apiError 404 "Could not find payment order") s := trivial
  by_cases hreason : reason = ""
  · simp only [cancelOrder, hreason, if_true]
    cases param with
    | none => exact ⟨fun _ => trivial, fun _ => trivial⟩
    | some order => exact ⟨fun _ => Or.inl rfl, fun _ => trivial⟩
  simp only [cancelOrder, hreason, if_false]
  cases param with
  | none => exact ⟨fun _ => trivial, fun _ => trivial⟩
  | some order =>
    simp only [safe_attempt_iff, RespectsPaid, true_and, hnotFound, and_true, Task.Harmless,
      hreason, false_or, OrderWrite.exec_read]
    cases hget : s.lockOrders.get order with
    | none => simp [apiError]
    | some o =>
      obtain rfl := Table.get_key hget
      have hmem : s.hasLockOrder o.id = true := by simp [Store.hasLockOrder, hget]
      by_cases hp : o.provider = some provider.id
      · simp [hp, cancelFound_safe_iff hmem hp]
      · simp [hp, cancelRefunds, apiError]

end Cancel

lemma refundLoop_safe_iff (os : List LockPaymentOrder) (s : Store) :
    Safe OrderWrite.exec RespectsPaid
      (forEach os fun o =>
        ignore (.call (.refundOrder o.id o.token.network o.gatewayId)) (ret ())) s ↔
      ∀ o ∈ os, s.isPaid o.id = false := by
  induction os generalizing s with
  | nil => simp [forEach]
  | cons o os ih =>
    have hcons : Safe OrderWrite.exec RespectsPaid
        (ignore (.call (.refundOrder o.id o.token.network o.gatewayId)) (forEach os fun o =>
          ignore (.call (.refundOrder o.id o.token.network o.gatewayId)) (ret ()))) s ↔ _ :=
      safe_ignore_iff
    rw [ih, ih] at hcons
    refine hcons.trans ?_
    rw [List.forall_mem_cons]
    exact ⟨fun h => ⟨h.1, h.2.2⟩, fun h => ⟨h.1, h.2, h.2⟩⟩

end PaidOrders

end Stablenode
