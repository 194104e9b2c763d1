import Stablenode.CreationRules
import Stablenode.PaymentWriters

/-! The life cycle of a payment order under any interleaving of the functions that write its
status. -/
namespace Stablenode.PaymentLifeCycle

open Proc Run

def Follows : PaymentOrderStatus → PaymentOrderStatus → Prop
  | .settled, new => new = .settled
  | .refunded, new => new = .refunded
  | .expired, new => new = .expired
  | .validated, new => new ≠ .pending ∧ new ≠ .processing ∧ new ≠ .initiated
  | _, _ => True

instance (old new : PaymentOrderStatus) : Decidable (Follows old new) := by
  unfold Follows
  split <;> infer_instance

def Succeeds (s t : Store) : Prop :=
  ∀ id, ∀ o ∈ s.paymentOrders.get id, ∃ o' ∈ t.paymentOrders.get id, Follows o.status o'.status

def isOpen (o : PaymentOrder) : Bool :=
  o.status = .initiated ∨ o.status = .processing ∨ o.status = .pending

def mayBecome (o : PaymentOrder) : PaymentOrderStatus → Bool
  | .settled => isOpen o ∨ o.status = .validated ∨ o.status = .settled
  | .refunded => isOpen o ∨ o.status = .validated ∨ o.status = .refunded
  | .expired => isOpen o ∨ o.status = .validated ∨ o.status = .expired
  | .validated => isOpen o ∨ o.status = .validated
  | _ => isOpen o

def FindsOpen : SideWrite → Store → Prop
  | .payment (.depositCommit order event u), s =>
    ¬ s.refusesDeposit order event u → ∀ o ∈ s.paymentOrders.get order, mayBecome o .pending
  | .payment (.update order (.messageHash hash)), s =>
    ¬ s.refusesUpdate order (.messageHash hash) →
      ∀ o ∈ s.paymentOrders.get order, mayBecome o .pending
  | .payment (.update order (.status status)), s =>
    ¬ s.refusesUpdate order (.status status) →
      ∀ o ∈ s.paymentOrders.get order, mayBecome o status
  | .tron (.update order blockNumber txHash), s =>
    ¬ TronWrite.refusesUpdate s order blockNumber txHash →
      ∀ o ∈ s.paymentOrders.get order, mayBecome o .pending
  | .creation (.linkPaymentOrder order event), s =>
    ¬ s.paymentUpdateRaises (fun o => o.id = order) event.linkTo →
      ∀ o ∈ s.paymentOrders.get order, mayBecome o .pending
  | .creation (.order (.setPaymentOrderStatus order status)), s =>
    ¬ s.paymentUpdateRaises (fun o => o.id = order) (fun o => { o with status }) →
      ∀ o ∈ s.paymentOrders.get order, mayBecome o status
  | .creation (.order (.gatewayCommit event (some c))), s =>
    ¬ s.refusesGatewayCommit event (some c) →
      ∀ o ∈ s.paymentOrders.rows, c.selects o → ∀ status ∈ c.status, mayBecome o status
  | _, _ => True

lemma Follows.refl (a : PaymentOrderStatus) : Follows a a := by
  cases a <;> simp [Follows]

lemma Follows.trans {a b c : PaymentOrderStatus} (hab : Follows a b) (hbc : Follows b c) :
    Follows a c := by
  cases a with
  | settled =>
    obtain rfl : b = .settled := hab
    exact hbc
  | refunded =>
    obtain rfl : b = .refunded := hab
    exact hbc
  | expired =>
    obtain rfl : b = .expired := hab
    exact hbc
  | validated => cases b <;> simp_all [Follows]
  | _ => trivial

variable {o new : PaymentOrder} {p : Prop}

lemma follows_iff_mayBecome (new : PaymentOrderStatus) :
    Follows o.status new ↔ mayBecome o new = true := by
  cases hs : o.status <;> cases new <;> simp [Follows, mayBecome, isOpen, hs]

lemma succeeds_refl (s : Store) : Succeeds s s :=
  fun _ o ho => ⟨o, ho, Follows.refl o.status⟩

lemma Succeeds.trans {s t u : Store} (hst : Succeeds s t) (htu : Succeeds t u) : Succeeds s u := by
  intro id o ho
  obtain ⟨p, hp, hop⟩ := hst id o ho
  obtain ⟨q, hq, hpq⟩ := htu id p hp
  exact ⟨q, hq, hop.trans hpq⟩

lemma succeeds_exec_iff (w : SideWrite) (s : Store) :
    Succeeds s (w.exec s) ↔
      ∀ o ∈ s.paymentOrders.rows, Follows o.status (w.change s o).status := by
  constructor
  · intro h o ho
    have hget := Table.get_of_mem ho
    obtain ⟨o', ho', hfollows⟩ := h o.id o hget
    rw [SideWrite.exec_getPaymentOrder, hget] at ho'
    obtain rfl := Option.some.inj ho'
    exact hfollows
  · intro h id o ho
    refine ⟨w.change s o, ?_, h o (Table.mem_of_get ho)⟩
    rw [SideWrite.exec_getPaymentOrder, Option.mem_def.1 ho]
    rfl

lemma follows_ite_iff {q : Prop} [Decidable p] [Decidable q] :
    Follows o.status (if ¬ p ∧ q then new else o).status ↔
      (¬ p → q → mayBecome o new.status = true) := by
  rw [← follows_iff_mayBecome]
  split_ifs with h
  · exact ⟨fun hf _ _ => hf, fun hf => hf h.1 h.2⟩
  · exact ⟨fun _ hp hq => absurd ⟨hp, hq⟩ h, fun _ => Follows.refl o.status⟩

lemma follows_ite_self [Decidable p] (h : new.status = o.status) :
    Follows o.status (if p then new else o).status := by
  split_ifs
  · rw [h]
    exact Follows.refl o.status
  · exact Follows.refl o.status

lemma forall_row_iff {s : Store} {order : ℕ} {P : PaymentOrder → Prop} :
    (∀ o ∈ s.paymentOrders.rows, ¬ p → o.id = order → P o) ↔
      (¬ p → ∀ o ∈ s.paymentOrders.get order, P o) := by
  rw [← Table.forall_key_iff]
  exact ⟨fun h hp o ho hid => h o ho hp hid, fun h o ho hp hid => h hp o ho hid⟩

theorem succeeds_exec_iff_findsOpen (w : SideWrite) (s : Store) :
    Succeeds s (w.exec s) ↔ FindsOpen w s := by
  rw [succeeds_exec_iff]
  have hid : (∀ o ∈ s.paymentOrders.rows, Follows o.status o.status) ↔ True :=
    iff_true_intro fun o _ => Follows.refl o.status
  -- a settlement in parts leaves the status as it is
  have hgateway : ∀ (c : PaymentOrderChange) (o : PaymentOrder),
      mayBecome o ((c.apply o).stamped s.now).status = true ↔
        ∀ status ∈ c.status, mayBecome o status = true := by
    intro c o
    cases hc : c.status with
    | none => simp [PaymentOrderChange.apply, PaymentOrder.stamped, hc, ← follows_iff_mayBecome,
        Follows.refl]
    | some status => simp [PaymentOrderChange.apply, PaymentOrder.stamped, hc]
  cases w with
  | payment w =>
    cases w with
    | depositCommit order event u =>
      simp only [SideWrite.change, follows_ite_iff, forall_row_iff, FindsOpen]
      rfl
    | update order u =>
      cases u with
      | messageHash hash | status status =>
        simp only [SideWrite.change, follows_ite_iff, forall_row_iff, FindsOpen]
        rfl
      | rate rate | amountPaid amount => exact iff_true_intro fun o _ => follows_ite_self rfl
    | _ => exact hid
  | tron w =>
    cases w with
    | submit order messageHash => exact hid
    | update order blockNumber txHash =>
      simp only [SideWrite.change, follows_ite_iff, forall_row_iff, FindsOpen]
      rfl
  | creation w =>
    cases w with
    | linkPaymentOrder order event =>
      simp only [SideWrite.change, follows_ite_iff, forall_row_iff, FindsOpen]
      rfl
    | order w =>
      cases w with
      | setPaymentOrderStatus order status =>
        simp only [SideWrite.change, follows_ite_iff, forall_row_iff, FindsOpen]
      | setPaymentOrderRate order rate => exact iff_true_intro fun o _ => follows_ite_self rfl
      | gatewayCommit event payment =>
        cases payment with
        | none => exact hid
        | some c =>
          simp only [SideWrite.change, follows_ite_iff, FindsOpen]
          exact ⟨fun h hr o ho hsel => (hgateway c o).1 (h o ho hr hsel),
            fun h o ho hr hsel => (hgateway c o).2 (h hr o ho hsel)⟩
      | _ => exact hid
    | _ => exact hid

def settledStore : Store :=
  { Store.empty with
    paymentOrders := .single { Sample.paymentOrder 1 with
      status := .settled
      messageHash := some "m1"
      gatewayId := some "g1" } }

def lateCreation : List PaymentWriter :=
  [.created Sample.indexer [] (Sample.createdEvent "0x1" "g1" "m1")]

end Stablenode.PaymentLifeCycle
