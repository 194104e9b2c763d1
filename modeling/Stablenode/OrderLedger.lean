import Stablenode.AssignmentRules

/-! The reserved balance of a provider against the orders it holds. -/
namespace Stablenode.OrderLedger

open BalanceManagement Proc Run

structure Hold where
  order : ℕ
  provider : String
  currency : String
  amount : ℚ
  deriving DecidableEq

def holds : OrderWrite → Store → List Hold → List Hold
  | .reserveCommit o p c a _, _, hs =>
    ⟨o, p, c, a⟩ :: hs.filter fun h => !(h.order = o ∧ h.provider = p ∧ h.currency = c)
  | .deleteOrderRequest .declined o p, _, hs => hs.filter fun h => !(h.order = o ∧ h.provider = p)
  | .expireOrderRequest o, s, hs => hs.filter fun h => !(h.order = o ∧ s.isOffered o h.provider)
  | .cancelUpdate o _ _, _, hs => hs.filter fun h => !(h.order = o)
  | .handleCancellationUpdate o _, _, hs => hs.filter fun h => !(h.order = o)
  | .createFulfillment o _ _ .failed _, s, hs =>
    if s.hasLockOrder o then hs.filter fun h => !(h.order = o) else hs
  | .setFulfillment f .failed _, s, hs =>
    hs.filter fun h => !((s.fulfillments.get f).any fun r => h.order = r.order)
  | .gatewayCommit e p, s, hs =>
    if s.refusesGatewayCommit e p then hs
    else hs.filter fun h => !((s.lockOrders.get h.order).any e.selects)
  | _, _, hs => hs

@[simp] lemma watch_read (x : Store × List Hold) : watch OrderWrite.exec holds .read x = x := rfl

def amountWhere (p : Hold → Bool) (hs : List Hold) : ℚ := ((hs.filter p).map Hold.amount).sum

lemma amountWhere_filter_not (p q : Hold → Bool) (hs : List Hold) :
    amountWhere p (hs.filter fun h => !q h) = amountWhere p hs - amountWhere (fun h => p h && q h) hs := by
  induction hs with
  | nil => simp [amountWhere]
  | cons h hs ih =>
    simp only [amountWhere, List.filter_filter] at ih ⊢
    cases hp : p h <;> cases hq : q h <;> simp [hp, hq] <;> linarith

lemma amountWhere_congr {p q : Hold → Bool} (h : ∀ x, p x = q x) (hs : List Hold) :
    amountWhere p hs = amountWhere q hs := by
  rw [funext h]

section Ledger

variable (P c : String)

def held (hs : List Hold) : ℚ := amountWhere (fun h => h.provider = P ∧ h.currency = c) hs

def heldFor (q : ℕ → Bool) (hs : List Hold) : ℚ :=
  amountWhere (fun h => (h.provider = P ∧ h.currency = c) && q h.order) hs

def reserved (s : Store) : ℚ := ((s.balance P c).map Balance.reserved).getD 0

def Matched (x : Store × List Hold) : Prop := reserved P c x.1 = held P c x.2

def WriteOk : OrderWrite → Store × List Hold → Prop
  | .reserveCommit o p cur _ _, x => p = P → cur = c → heldFor P c (· = o) x.2 = 0
  | .createFulfillment o _ _ .failed _, x => x.1.hasLockOrder o → heldFor P c (· = o) x.2 = 0
  | .setFulfillment f .failed _, x =>
    ∀ r ∈ x.1.fulfillments.get f, heldFor P c (· = r.order) x.2 = 0
  | _, _ => True

instance (w : OrderWrite) (x : Store × List Hold) : Decidable (WriteOk P c w x) := by
  unfold WriteOk
  split <;> infer_instance

instance (x : Store × List Hold) : Decidable (Matched P c x) := by
  unfold Matched
  infer_instance

abbrev KeepsMatched {α : Type} (p : OrderProgram α) : Prop :=
  Keeps OrderWrite.exec holds (Matched P c) (WriteOk P c) p

def quiet : OrderWrite → Bool
  | .deleteOrderRequest .declined _ _ | .expireOrderRequest _ | .cancelUpdate ..
  | .handleCancellationUpdate .. | .gatewayCommit .. => false
  | w => !w.writesBalance

variable {P c}

lemma held_filter_order (o : ℕ) (hs : List Hold) :
    held P c (hs.filter fun h => !(h.order = o)) = held P c hs - heldFor P c (· = o) hs := by
  rw [held, amountWhere_filter_not]
  rfl

variable {s : Store} {w : OrderWrite} {x : Store × List Hold} {b : Balance} {cur p : String}

lemma reserved_of_balances_eq {t : Store} (h : t.balances = s.balances) :
    reserved P c t = reserved P c s := by
  simp only [reserved, Store.balance, h]

lemma held_holds_of_quiet (hq : quiet w = true) (hw : WriteOk P c w x) :
    held P c (holds w x.1 x.2) = held P c x.2 := by
  cases w with
  | createFulfillment o txId psp status error =>
    cases status with
    | failed =>
      simp only [holds]
      split_ifs with ho
      · rw [held_filter_order, hw ho, sub_zero]
      · rfl
    | _ => rfl
  | setFulfillment f status error =>
    cases status with
    | failed =>
      simp only [holds]
      cases hf : x.1.fulfillments.get f with
      | none => simp
      | some r =>
        simp only [Option.any_some]
        rw [held_filter_order, hw r hf, sub_zero]
    | _ => rfl
  | deleteOrderRequest why o p =>
    cases why with
    | accepted => rfl
    | declined => cases hq
  | _ => first | rfl | cases hq

lemma matched_of_quiet (hq : quiet w = true) (x : Store × List Hold) (hx : Matched P c x)
    (hw : WriteOk P c w x) : Matched P c (watch OrderWrite.exec holds w x) := by
  have hb : w.writesBalance = false := by
    cases w <;> first | rfl | cases hq
  rw [Matched, watch, reserved_of_balances_eq (OrderWrite.exec_balances hb x.1),
    held_holds_of_quiet hq hw]
  exact hx

variable {b₀ : Balance}

lemma reserved_setBalance_self (h : s.balance P c = some b₀) :
    reserved P c (s.setBalance P c b) = b.reserved := by
  rw [reserved, Store.balance_setBalance, if_pos rfl, h]
  rfl

lemma reserved_setBalance_of_ne (h : (P, c) ≠ (p, cur)) :
    reserved P c (s.setBalance p cur b) = reserved P c s := by
  rw [reserved, Store.balance_setBalance, if_neg h, reserved]

lemma reserved_setFunds_self (h : s.balance P c = some b₀) :
    reserved P c (s.setFunds P c b) = b.reserved := by
  rw [reserved, Store.balance_setFunds, if_pos rfl, h]
  rfl

lemma reserved_setFunds_of_ne (h : (P, c) ≠ (p, cur)) :
    reserved P c (s.setFunds p cur b) = reserved P c s := by
  rw [reserved, Store.balance_setFunds, if_neg h, reserved]

lemma held_cons (h : Hold) (hs : List Hold) :
    held P c (h :: hs) = (if h.provider = P ∧ h.currency = c then h.amount else 0) + held P c hs := by
  by_cases hm : h.provider = P ∧ h.currency = c
  · simp [held, amountWhere, hm]
  · simp [held, amountWhere, hm]

lemma held_holds_reserveCommit (o : ℕ) (p cur : String) (a : ℚ) (b : Balance)
    (hw : WriteOk P c (.reserveCommit o p cur a b) x) :
    held P c (holds (.reserveCommit o p cur a b) x.1 x.2) =
      (if p = P ∧ cur = c then a else 0) + held P c x.2 := by
  simp only [holds]
  rw [held_cons]
  congr 1
  rw [held, held, amountWhere_filter_not, sub_eq_self]
  by_cases hm : p = P ∧ cur = c
  · obtain ⟨rfl, rfl⟩ := hm
    rw [← hw rfl rfl]
    refine amountWhere_congr (fun h => ?_) _
    by_cases h₁ : h.provider = p <;> by_cases h₂ : h.currency = cur <;> simp [h₁, h₂]
  · rw [amountWhere, List.filter_eq_nil_iff.2]
    · simp
    · intro h _ hh
      simp only [Bool.and_eq_true, decide_eq_true_eq] at hh
      exact hm ⟨hh.2.2.1.symm.trans hh.1.1, hh.2.2.2.symm.trans hh.1.2⟩

lemma matched_reserveCommit {o : ℕ} {a : ℚ} {b' : Balance} (hrow : x.1.balance p cur = some b)
    (hb : reserveInTx b a = .ok b') (hx : Matched P c x)
    (hw : WriteOk P c (.reserveCommit o p cur a b') x) :
    Matched P c (watch OrderWrite.exec holds (.reserveCommit o p cur a b') x) := by
  have hreserved : b'.reserved = b.reserved + a := by
    rw [reserveInTx] at hb
    split_ifs at hb
    cases hb
    rfl
  rw [Matched, watch, held_holds_reserveCommit o p cur a b' hw, ← show _ = _ from hx]
  simp only [OrderWrite.exec]
  by_cases hm : p = P ∧ cur = c
  · obtain ⟨rfl, rfl⟩ := hm
    rw [reserved_setFunds_self hrow, if_pos ⟨rfl, rfl⟩, reserved, hrow, hreserved, add_comm]
    rfl
  · rw [reserved_setFunds_of_ne fun h => hm ⟨(Prod.mk.inj h).1.symm, (Prod.mk.inj h).2.symm⟩,
      if_neg hm, zero_add]

variable {conf : OrderConfig} {env : Environment}

theorem sendOrderRequest_keeps (order : OrderFields) :
    KeepsMatched P c (sendOrderRequest conf env order) := by
  intro x hx h
  rw [sendOrderRequest] at h ⊢
  cases hbucket : order.provisionBucket with
  | none => simpa [hbucket] using hx
  | some bucket =>
    simp only [hbucket, watched_attempt, watch_read, history_attempt, admitted_cons,
      OrderWrite.exec_read] at h ⊢
    cases hrow : x.1.balance order.providerId bucket.currency with
    | none => simpa [hrow] using hx
    | some b =>
      cases hb : reserveInTx b order.fiat with
      | error e => simpa [hrow, hb] using hx
      | ok b' =>
        simp only [hrow, hb, watched_attempt, watched_ignore, history_attempt, history_ignore,
          admitted_cons] at h ⊢
        split_ifs at h ⊢ with hnotify
        · simp only [watched_attempt, history_attempt, admitted_cons, watched_ret] at h ⊢
          refine matched_reserveCommit (b := b) ?_ hb ?_ h.2.2.2.2.1
          · simp only [watch, OrderWrite.exec_balance (w := .call _) rfl,
              OrderWrite.exec_balance (w := .expireOrderRequestAt _ _) rfl,
              OrderWrite.exec_balance (w := .setOrderRequest _ _) rfl, hrow]
          · exact matched_of_quiet rfl _ (matched_of_quiet rfl _ (matched_of_quiet rfl _ hx trivial)
              trivial) trivial
        · exact matched_of_quiet rfl _ (matched_of_quiet rfl _ hx trivial) trivial

lemma keeps_quiet {α : Type} (hq : quiet w = true) {failed : OrderProgram α}
    {k : Store → OrderProgram α} (hk : ∀ s, KeepsMatched P c (k s)) :
    KeepsMatched P c (attempt w failed k) :=
  keeps_attempt (matched_of_quiet hq) hk

lemma assignmentInvariant (id : ℕ) :
    AssignmentInvariant holds (Matched P c) (WriteOk P c) conf env id fun _ => True where
  write w hw := matched_of_quiet (by cases hw <;> rfl)
  excludeList _ _ := trivial
  send order _ _ _ _ := sendOrderRequest_keeps order

theorem reassignCancelledOrder_keeps (fuel : ℕ) (order : LockPaymentOrder)
    (provider : ProviderProfile) (fulfillment : Option ℕ) :
    KeepsMatched P c (reassignCancelledOrder conf env fuel order provider fulfillment) :=
  reassignCancelledOrder_rule (W := fun w => quiet w = true) keeps_ret
    (fun _ _ hw hk => keeps_quiet hw hk)
    (fun _ hk => keeps_bind (assignLockPaymentOrder_keeps (assignmentInvariant order.id) fuel rfl) hk)
    rfl rfl fun _ _ => rfl

lemma keeps_of_quiet {α : Type} {p : OrderProgram α} (h : Uses (fun w => quiet w = true) p) :
    KeepsMatched P c p :=
  h.keeps fun _ => matched_of_quiet

lemma syncUnfulfilled_keeps (order : LockPaymentOrder) :
    KeepsMatched P c (syncUnfulfilled conf env order) :=
  keeps_of_quiet (syncUnfulfilled_uses (P := fun w => quiet w = true) (fun _ => rfl)
    (fun _ _ _ => rfl) rfl rfl rfl fun _ _ _ _ => rfl)

lemma syncFulfillment_keeps (fuel : ℕ) (order : LockPaymentOrder) (provider : ProviderProfile)
    (f : LockOrderFulfillment) :
    KeepsMatched P c (syncFulfillment conf env fuel order provider f) := by
  by_cases hstatus : f.validationStatus = .failed
  · rw [syncFulfillment, hstatus]
    exact reassignCancelledOrder_keeps fuel order provider _
  · exact keeps_of_quiet (syncFulfillment_uses_of_ne (P := fun w => quiet w = true) (fun _ => rfl)
      (fun _ _ _ => rfl) hstatus (fun _ => rfl) fun _ _ _ _ _ => rfl)

lemma syncOrder_keeps (fuel : ℕ) (order : LockPaymentOrder) (provider : Option ProviderProfile)
    (fs : List LockOrderFulfillment) :
    KeepsMatched P c (syncOrder conf env fuel order provider fs) := by
  cases provider with
  | none => exact keeps_ret _
  | some provider =>
    rw [syncOrder]
    split_ifs
    · exact reassignCancelledOrder_keeps fuel order provider _
    · exact syncUnfulfilled_keeps order
    · exact keeps_forWhile fun f _ => syncFulfillment_keeps fuel order provider f

theorem syncLockOrderFulfillments_keeps (fuel : ℕ) :
    KeepsMatched P c (syncLockOrderFulfillments conf env fuel) :=
  keeps_quiet rfl fun _ => keeps_forWhile fun o _ => syncOrder_keeps fuel o _ _

end Ledger

end Stablenode.OrderLedger
