import Stablenode.OrderCreation
import Stablenode.PaymentTasks

/-! The writes of the payment side and of the order side as one kind of label, and what a write
makes of a payment order. -/
namespace Stablenode

def PaymentOrder.stamped (o : PaymentOrder) (now : ℕ) : PaymentOrder := { o with updatedAt := now }

inductive TronWrite where
  | submit (order : ℕ) (messageHash : String)
  | update (order blockNumber : ℕ) (txHash : String)
  deriving DecidableEq

namespace TronWrite

def submitted (blockNumber : ℕ) (txHash : String) (o : PaymentOrder) : PaymentOrder :=
  { o with blockNumber := blockNumber, txHash := txHash, status := .pending }

def refusesUpdate (s : Store) (order blockNumber : ℕ) (txHash : String) : Bool :=
  (s.paymentOrders.get order).isNone ∨
    s.paymentUpdateRaises (fun o => o.id = order) (submitted blockNumber txHash)

def exec : TronWrite → Store → Store
  | submit order messageHash, s => { s with calls := s.calls ++ [.createOrder order messageHash] }
  | update order blockNumber txHash, s =>
    if refusesUpdate s order blockNumber txHash then s
    else s.updatePaymentOrders (fun o => o.id = order) (submitted blockNumber txHash) fun _ => rfl

end TronWrite

inductive SideWrite where
  | payment (w : PaymentWrite)
  | tron (w : TronWrite)
  | creation (w : CreationWrite)
  deriving DecidableEq

namespace SideWrite

def exec : SideWrite → Store → Store
  | payment w, s => w.exec s
  | tron w, s => w.exec s
  | creation w, s => w.exec s

def change (s : Store) : SideWrite → PaymentOrder → PaymentOrder
  | payment (.depositCommit order event u), o =>
    if ¬ s.refusesDeposit order event u ∧ o.id = order then (u.apply event o).stamped s.now else o
  | payment (.update order u), o =>
    if ¬ s.refusesUpdate order u ∧ o.id = order then (u.apply o).stamped s.now else o
  | tron (.update order blockNumber txHash), o =>
    if ¬ TronWrite.refusesUpdate s order blockNumber txHash ∧ o.id = order then
      (TronWrite.submitted blockNumber txHash o).stamped s.now
    else o
  | creation (.linkPaymentOrder order event), o =>
    if ¬ s.paymentUpdateRaises (fun o => o.id = order) event.linkTo ∧ o.id = order then
      (event.linkTo o).stamped s.now
    else o
  | creation (.order (.setPaymentOrderStatus order status)), o =>
    if ¬ s.paymentUpdateRaises (fun o => o.id = order) (fun o => { o with status }) ∧
        o.id = order then
      { o with status, updatedAt := s.now }
    else o
  | creation (.order (.setPaymentOrderRate order rate)), o =>
    if ¬ s.paymentUpdateRaises (fun o => o.id = order) (fun o => { o with rate }) ∧
        o.id = order then
      { o with rate, updatedAt := s.now }
    else o
  | creation (.order (.gatewayCommit event (some c))), o =>
    if ¬ s.refusesGatewayCommit event (some c) ∧ c.selects o then (c.apply o).stamped s.now else o
  | _, o => o

end SideWrite

section Updates

variable (s : Store) (id : ℕ)

lemma Store.get_updatePaymentOrders (p : PaymentOrder → Bool) (f : PaymentOrder → PaymentOrder)
    (hf : ∀ o, (f o).id = o.id) :
    (s.updatePaymentOrders p f hf).paymentOrders.get id =
      (s.paymentOrders.get id).map fun o => if p o then (f o).stamped s.now else o := by
  rw [Store.updatePaymentOrders, Table.get_update]
  rfl

lemma Store.get_updatePaymentOrder {order : ℕ} (f : PaymentOrder → PaymentOrder)
    (hf : ∀ o, (f o).id = o.id) :
    (s.updatePaymentOrders (fun o => o.id = order) f hf).paymentOrders.get id =
      (s.paymentOrders.get id).map fun o => if o.id = order then (f o).stamped s.now else o := by
  rw [Store.get_updatePaymentOrders]
  simp only [decide_eq_true_eq]

lemma get_modify_stamped {order : ℕ} (f : PaymentOrder → PaymentOrder)
    (hf : ∀ o, ((f o).stamped s.now).id = o.id) :
    (s.paymentOrders.modify order (fun o => (f o).stamped s.now) hf).get id =
      (s.paymentOrders.get id).map fun o => if o.id = order then (f o).stamped s.now else o := by
  rw [Table.modify, Table.get_update]
  simp only [decide_eq_true_eq]

end Updates

lemma get_unless_refused {refused : Bool} {s t : Store} {id : ℕ} {p : PaymentOrder → Prop}
    [DecidablePred p] {f : PaymentOrder → PaymentOrder}
    (h : t.paymentOrders.get id = (s.paymentOrders.get id).map fun o => if p o then f o else o) :
    (if refused = true then s else t).paymentOrders.get id =
      (s.paymentOrders.get id).map fun o => if ¬ refused = true ∧ p o then f o else o := by
  cases refused with
  | true => simp
  | false => simpa using h

theorem SideWrite.exec_getPaymentOrder (w : SideWrite) (s : Store) (id : ℕ) :
    (w.exec s).paymentOrders.get id = (s.paymentOrders.get id).map (w.change s) := by
  cases w with
  | payment w =>
    cases w with
    | depositCommit order event u =>
      exact get_unless_refused (get_modify_stamped s id (u.apply event) fun _ => rfl)
    | update order u =>
      exact get_unless_refused (get_modify_stamped s id u.apply u.apply_id)
    | _ => exact Option.map_id'.symm
  | tron w =>
    cases w with
    | submit order messageHash => exact Option.map_id'.symm
    | update order blockNumber txHash =>
      exact get_unless_refused (s.get_updatePaymentOrder id _ _)
  | creation w =>
    cases w with
    | linkPaymentOrder order event =>
      exact get_unless_refused (s.get_updatePaymentOrder id _ _)
    | refetchPaymentOrder order => exact Option.map_id'.symm
    | createCancelled c | createCommit c network withLog =>
      simp only [exec, CreationWrite.exec]
      cases c.save s <;> exact Option.map_id'.symm
    | order w =>
      cases hw : w.writesPaymentOrder with
      | false =>
        have hid : (creation (.order w)).change s = fun o => o := by
          funext o
          cases w <;> first | rfl | cases hw
        rw [hid, Option.map_id', exec, CreationWrite.exec, OrderWrite.exec_paymentOrders hw]
      | true =>
        cases w with
        | setPaymentOrderStatus order status | setPaymentOrderRate order rate =>
          exact get_unless_refused (s.get_updatePaymentOrder id _ _)
        | gatewayCommit event payment =>
          obtain ⟨logs, hlogs⟩ := s.recordGatewayLog_frame event payment
          cases payment with
          | none =>
            simp only [exec, CreationWrite.exec, OrderWrite.exec, hlogs]
            split_ifs <;> exact Option.map_id'.symm
          | some c =>
            refine get_unless_refused ?_
            rw [hlogs]
            exact Store.get_updatePaymentOrders _ id _ _ _
        | _ => cases hw

end Stablenode
