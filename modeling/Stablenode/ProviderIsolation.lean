import Stablenode.ProgramLabels

/-! The requests of a provider against the rows of the others. -/
namespace Stablenode

open BalanceManagement Proc Run

def Store.isMine (s : Store) (provider : String) (order : ℕ) : Bool :=
  (s.lockOrders.get order).any (fun o => o.provider = some provider) || s.isOffered order provider

def Store.atTime (s : Store) (now : ℕ) : Store := { s with now }

@[simp] lemma Store.atTime_now (s : Store) (now : ℕ) : (s.atTime now).now = now := rfl

namespace ProviderIsolation

structure Isolated (provider : String) (s t : Store) : Prop where
  order : ∀ id, s.isMine provider id = false → t.lockOrders.get id = s.lockOrders.get id
  fulfillment : ∀ id, s.isMine provider id = false → SameFulfillments id s t
  balance : ∀ p currency, p ≠ provider →
    t.balances.get (p, currency) = s.balances.get (p, currency)

inductive Request where
  | accept (param : Option ℕ)
  | decline (param : Option ℕ)
  | fulfill (payload : FulfillLockOrderPayload) (param : Option ℕ)
  | cancel (fuel : ℕ) (reason : String) (param : Option ℕ)

variable (conf : OrderConfig)

def Request.program (provider : ProviderProfile) : Request → OrderProgram Reply
  | accept param => acceptOrder provider param
  | decline param => declineOrder provider param
  | fulfill payload param => fulfillOrder payload param
  | cancel fuel reason param => cancelOrder conf fuel provider reason param

def UpdatesMine (provider : String) (order : ℕ) (s : Store) : Prop :=
  ∀ o ∈ s.lockOrders.get order, o.status = .processing ∨ o.status = .fulfilled →
    s.isMine provider order = true

def FulfillsMine (provider : String) (payload : FulfillLockOrderPayload) (order : ℕ) (s : Store) :
    Prop :=
  match only (s.fulfillments.select fun f => f.txId = payload.txId) with
  | .error .notSingular => True
  | .error .notFound => s.hasLockOrder order = true → s.isMine provider order = true
  | .ok f =>
    ∀ o ∈ s.lockOrders.get f.order,
      match payload.validationStatus with
      | .success => o.status ≠ .validated → ∀ e ∈ o.edges,
        (∃ b ∈ s.balance e.1 e.2.currency, AcceptsRelease b o.fiat) →
          e.1 = provider ∧ (s.hasLockOrder order = true → s.isMine provider order = true)
      | .failed => s.isMine provider f.order = true ∧ UpdatesMine provider order s ∧
        ∀ e ∈ o.edges,
          (∃ b ∈ s.balance e.1 e.2.currency, Consistent b ∧ AcceptsRelease b o.fiat) →
            e.1 = provider
      | .pending => UpdatesMine provider order s

def Request.ReachesMine (provider : String) : Request → Store → Prop
  | fulfill payload (some order), s =>
    payload.psp = "" ∨ payload.txId = "" ∨ FulfillsMine provider payload order s
  | _, _ => True

variable {conf}

lemma isolated_refl (provider : String) (s : Store) : Isolated provider s s :=
  ⟨fun _ _ => rfl, fun _ _ _ _ _ => Iff.rfl, fun _ _ _ => rfl⟩

inductive MyLabel (s : Store) (provider : String) : OrderWrite → Prop where
  | other {w : OrderWrite} (ho : w.writesLockOrder = false) (hf : w.writesFulfillment = false)
    (hb : w.writesBalance = false) : MyLabel s provider w
  | acceptCommit {order : ℕ} (h : s.isMine provider order = true) (p : String) (logged : Bool) :
    MyLabel s provider (.acceptCommit order p logged)
  | cancelUpdate {order : ℕ} (h : s.isMine provider order = true) (count : ℕ)
    (reason : Option String) : MyLabel s provider (.cancelUpdate order count reason)
  | fulfillUpdate {order : ℕ} (h : UpdatesMine provider order s) (log : Option ℕ) :
    MyLabel s provider (.fulfillUpdate order log)
  | createFulfillment {order : ℕ}
    (h : s.hasLockOrder order = true → s.isMine provider order = true) (txId psp : String)
    (status : ValidationStatus) (error : String) :
    MyLabel s provider (.createFulfillment order txId psp status error)
  | setFulfillment {k : ℕ}
    (h : ∀ g, s.fulfillments.get k = some g → s.isMine provider g.order = true)
    (status : ValidationStatus) (error : Option String) :
    MyLabel s provider (.setFulfillment k status error)
  | validateCommit {order k : ℕ}
    (ho : s.hasLockOrder order = true → s.isMine provider order = true)
    (h : ∀ g, s.fulfillments.get k = some g → s.isMine provider g.order = true)
    (network currency : String) (new : Balance) :
    MyLabel s provider (.validateCommit order k network provider currency new)
  | releaseCommit (currency : String) (new : Balance) :
    MyLabel s provider (.releaseCommit provider currency new)

variable {order : ℕ} {currency : String} {s t : Store}

section Step

variable {provider : String} {w : OrderWrite}

lemma getLockOrder_exec_eq {id : ℕ}
    (h : ∀ o, t.lockOrders.get id = some o → w.changeOrder t o = some o) :
    (w.exec t).lockOrders.get id = t.lockOrders.get id := by
  rw [OrderWrite.exec_getLockOrder]
  cases hget : t.lockOrders.get id with
  | none => rfl
  | some o => exact h o hget

lemma SameFulfillments.of_eq (h : t.fulfillments = s.fulfillments) :
    SameFulfillments order s t := by
  intro id f _
  rw [h]

lemma Isolated.own (h : Isolated provider s t) {k : ℕ}
    (hk : ∀ g, s.fulfillments.get k = some g → s.isMine provider g.order = true) {id : ℕ}
    (hid : s.isMine provider id = false) (g : LockOrderFulfillment)
    (hg : t.fulfillments.get k = some g) : g.order ≠ id := by
  rintro rfl
  have hs := (h.fulfillment g.order hid k g rfl).1 hg
  rw [hk g hs] at hid
  cases hid

lemma Isolated.trans_of (h : Isolated provider s t)
    (ho : ∀ id, s.isMine provider id = false →
      (w.exec t).lockOrders.get id = t.lockOrders.get id)
    (hf : ∀ id, s.isMine provider id = false → SameFulfillments id t (w.exec t))
    (hb : ∀ p currency, p ≠ provider →
      (w.exec t).balances.get (p, currency) = t.balances.get (p, currency)) :
    Isolated provider s (w.exec t) where
  order id hid := (ho id hid).trans (h.order id hid)
  fulfillment id hid k f hk := (hf id hid k f hk).trans (h.fulfillment id hid k f hk)
  balance p currency hp := (hb p currency hp).trans (h.balance p currency hp)

lemma balances_setFunds {p q cur : String} (h : p ≠ q) (b : Balance) :
    (t.setFunds q cur b).balances.get (p, currency) = t.balances.get (p, currency) := by
  simp only [Store.setFunds]
  rw [Table.get_modify_of_ne _ _ _ fun heq => h (Prod.mk.inj heq).1]

lemma Isolated.getLockOrder_exec (h : Isolated provider s t)
    (hmine : s.hasLockOrder order = true → s.isMine provider order = true)
    (hchange : ∀ o : LockPaymentOrder, o.id ≠ order → w.changeOrder t o = some o) (id : ℕ)
    (hid : s.isMine provider id = false) : (w.exec t).lockOrders.get id = t.lockOrders.get id := by
  refine getLockOrder_exec_eq fun o ho => hchange o ?_
  rintro rfl
  have hs := (h.order id hid).symm.trans ho
  rw [← Table.get_key ho] at hs hid
  rw [hmine (by rw [Store.hasLockOrder, hs]; rfl)] at hid
  cases hid

theorem MyLabel.isolated (hw : MyLabel s provider w) (h : Isolated provider s t) :
    Isolated provider s (w.exec t) := by
  have horders : w.writesLockOrder = false → ∀ id, s.isMine provider id = false →
      (w.exec t).lockOrders.get id = t.lockOrders.get id := fun hw id _ => by
    rw [OrderWrite.exec_lockOrders hw]
  have hfulfillments : w.writesFulfillment = false → ∀ id, s.isMine provider id = false →
      SameFulfillments id t (w.exec t) := fun hw _ _ =>
    SameFulfillments.of_eq (OrderWrite.exec_fulfillments hw t)
  have hbalances : w.writesBalance = false → ∀ p currency, p ≠ provider →
      (w.exec t).balances.get (p, currency) = t.balances.get (p, currency) := fun hw _ _ _ => by
    rw [OrderWrite.exec_balances hw]
  cases hw with
  | other ho hf hb => exact h.trans_of (horders ho) (hfulfillments hf) (hbalances hb)
  | acceptCommit hmine | cancelUpdate hmine =>
    exact h.trans_of (h.getLockOrder_exec (fun _ => hmine) fun o hne => by
      simp [OrderWrite.changeOrder, hne]) (hfulfillments rfl) (hbalances rfl)
  | @fulfillUpdate order hmine log =>
    refine h.trans_of (fun id hid => getLockOrder_exec_eq fun o ho => ?_) (hfulfillments rfl)
      (hbalances rfl)
    have hno : ¬ (o.id = order ∧ (o.status = .processing ∨ o.status = .fulfilled)) := by
      rintro ⟨rfl, hstatus⟩
      have hs := (h.order id hid).symm.trans ho
      rw [← Table.get_key ho] at hs hid
      rw [hmine o hs hstatus] at hid
      cases hid
    simp [OrderWrite.changeOrder, hno]
  | @createFulfillment order hmine txId psp status error =>
    refine h.trans_of (horders rfl) (fun id hid => ?_) (hbalances rfl)
    by_cases hne : id = order
    · subst hne
      have hnot : t.hasLockOrder id = false := by
        rw [Store.hasLockOrder, h.order id hid]
        cases hs : s.hasLockOrder id with
        | false => exact hs
        | true =>
          rw [hmine hs] at hid
          cases hid
      exact SameFulfillments.of_eq (by simp [OrderWrite.exec, hnot])
    · exact SameFulfillments.of_create hne t txId psp status error
  | setFulfillment hk status error =>
    exact h.trans_of (horders rfl)
      (fun id hid => SameFulfillments.of_set status error (h.own hk hid)) (hbalances rfl)
  | @validateCommit order k hmine hk network currency new =>
    by_cases hhas : t.hasFulfillment k = true
    · refine h.trans_of (h.getLockOrder_exec hmine fun o hne => ?_) (fun id hid => ?_)
        fun p c hp => ?_
      · simp [OrderWrite.changeOrder, hne]
      · refine SameFulfillments.of_modify (k := k) (f := fun f =>
          { f with validationStatus := .success, updatedAt := t.now }) (fun _ => rfl) ?_
          (fun _ => rfl) (h.own hk hid)
        simp only [OrderWrite.exec, hhas, if_true]
        rfl
      · simp only [OrderWrite.exec, hhas, if_true]
        exact balances_setFunds hp new
    · have hsame : (OrderWrite.validateCommit order k network provider currency new).exec t = t := by
        simp [OrderWrite.exec, hhas]
      rw [hsame]
      exact h
  | releaseCommit currency new =>
    exact h.trans_of (horders rfl) (hfulfillments rfl) fun p c hp => balances_setFunds hp new

end Step

section Handlers

variable {provider : ProviderProfile} {p : String}

abbrev KeepsOthers (provider : String) (s : Store) (w : OrderWrite) (t : Store) : Prop :=
  Isolated provider s (w.exec t)

lemma safe_of_uses {α : Type} {q : OrderProgram α} (h : Uses (MyLabel s p) q)
    (ht : Isolated p s t) : Safe OrderWrite.exec (KeepsOthers p s) q t :=
  h.safe (I := Isolated p s) (fun _ _ hw ht => hw.isolated ht) (fun _ _ hw ht => hw.isolated ht) ht

lemma uses_takeOrderRequest {why : RequestEnd} {failed k : OrderProgram Reply}
    (hf : Uses (MyLabel s p) failed) (hk : Uses (MyLabel s p) k) :
    Uses (MyLabel s p) (attempt (.deleteOrderRequest why order p) failed fun _ => k) :=
  uses_attempt (.other rfl rfl rfl) hf fun _ => hk

theorem acceptOrder_safe (param : Option ℕ) :
    Safe OrderWrite.exec (KeepsOthers provider.id s) (acceptOrder provider param) s := by
  cases param with
  | none => trivial
  | some order =>
    rw [acceptOrder]
    refine ⟨isolated_refl _ s, ?_, trivial⟩
    dsimp only
    split_ifs with hoffered
    · have hmine : s.isMine provider.id order = true := by
        rw [Store.isMine, show s.isOffered order provider.id = true from hoffered, Bool.or_true]
      refine safe_of_uses (uses_takeOrderRequest trivial ?_) (isolated_refl _ s)
      refine uses_attempt (.other rfl rfl rfl) trivial fun s' => ?_
      refine uses_attempt (.acceptCommit hmine _ _) trivial fun s' => ?_
      split <;> trivial
    · trivial

theorem declineOrder_safe (param : Option ℕ) :
    Safe OrderWrite.exec (KeepsOthers provider.id s) (declineOrder provider param) s := by
  cases param with
  | none => trivial
  | some order =>
    rw [declineOrder]
    refine ⟨isolated_refl _ s, ?_, trivial⟩
    dsimp only
    split_ifs
    · refine safe_of_uses (uses_takeOrderRequest trivial ?_) (isolated_refl _ s)
      exact uses_attempt (.other rfl rfl rfl) trivial fun _ => trivial
    · trivial

lemma cancelWith_mine {o : LockPaymentOrder} (h : s.isMine provider.id o.id = true) (count : ℕ)
    (reason : Option String) :
    Uses (MyLabel s provider.id) (cancelWith conf provider o count reason) :=
  cancelWith_uses (.other rfl rfl rfl) (.cancelUpdate h _ _) (fun _ _ => .releaseCommit _ _)
    (fun _ _ => .other rfl rfl rfl) (.other rfl rfl rfl)

theorem cancelOrder_safe (fuel : ℕ) (reason : String) (param : Option ℕ) :
    Safe OrderWrite.exec (KeepsOthers provider.id s) (cancelOrder conf fuel provider reason param) s := by
  cases param with
  | none =>
    simp only [cancelOrder]
    split_ifs <;> trivial
  | some order =>
    simp only [cancelOrder]
    split_ifs
    · trivial
    refine ⟨isolated_refl _ s, ?_, trivial⟩
    dsimp only
    split
    · trivial
    rename_i o hget
    split_ifs with hprovider
    · trivial
    have hmine : s.isMine provider.id o.id = true := by
      have hp : o.provider = some provider.id := not_not.1 hprovider
      simp [Store.isMine, Table.get_key hget, hget, hp]
    refine safe_of_uses ?_ (isolated_refl _ s)
    rw [cancelFound]
    split_ifs
    · exact cancelWith_mine hmine _ _
    · exact cancelWith_mine hmine _ _
    split
    · trivial
    · exact uses_bind (removeProviderFromQueue_uses (.other rfl rfl rfl)
        (fun _ => .other rfl rfl rfl) (.other rfl rfl rfl) _ _ _)
        fun _ => cancelWith_mine hmine _ _

lemma markPaymentOrderValidated_uses (messageHash : String) :
    Uses (MyLabel s p) (markPaymentOrderValidated messageHash) := by
  rw [markPaymentOrderValidated]
  refine uses_attempt (.other rfl rfl rfl) trivial fun s' => ?_
  split
  · trivial
  · exact uses_ignore (.other rfl rfl rfl) (uses_ignore (.other rfl rfl rfl) trivial)

lemma releaseReservedBalance_safe {q : String} {amount : ℚ} (ht : Isolated p s t)
    (h : (∃ b ∈ s.balance q currency, Consistent b ∧ AcceptsRelease b amount) → q = p) :
    Safe OrderWrite.exec (KeepsOthers p s) (releaseReservedBalance q currency amount) t := by
  by_cases hq : q = p
  · subst hq
    exact safe_of_uses (releaseReservedBalance_uses (.other rfl rfl rfl)
      (fun _ => .releaseCommit _ _) amount) ht
  have hrow : t.balance q currency = s.balance q currency := by
    rw [Store.balance, ht.balance q currency hq, Store.balance]
  rw [releaseReservedBalance]
  refine ⟨ht, ?_, trivial⟩
  dsimp only
  split
  · trivial
  rename_i b hb
  split
  · trivial
  rename_i hvalid
  refine ⟨ht, ?_, trivial⟩
  simp only [OrderWrite.exec_read, hb]
  have hc : Consistent b := by
    by_contra hc
    obtain ⟨e, he⟩ := validateAndFixBalances_inconsistent hc
    rw [he] at hvalid
    cases hvalid
  have ha : ¬ AcceptsRelease b amount :=
    fun ha => hq (h ⟨b, by rw [← hrow]; exact hb, hc, ha⟩)
  simp [releaseInTx_eq, ha]

end Handlers

end ProviderIsolation

end Stablenode
