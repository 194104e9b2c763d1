import Stablenode.Tasks

/-! The life cycle of a lock order under any interleaving of the handlers, tasks and events
that write its status. -/
namespace Stablenode

open Proc Run

namespace LifeCycle

def Follows : LockOrderStatus → Option LockOrderStatus → Prop
  | .settled, new => new = some .settled
  | .refunded, new => new = some .refunded
  | .validated, new => new = some .validated ∨ new = some .settled
  | _, _ => True

instance (old : LockOrderStatus) (new : Option LockOrderStatus) : Decidable (Follows old new) := by
  unfold Follows
  split <;> infer_instance

def Succeeds (s t : Store) : Prop :=
  ∀ id, ∀ o ∈ s.lockOrders.get id, Follows o.status ((t.lockOrders.get id).map LockPaymentOrder.status)

def isOpen (o : LockPaymentOrder) : Bool :=
  o.status ≠ .validated ∧ o.status ≠ .settled ∧ o.status ≠ .refunded

def FindsOpen : OrderWrite → Store → Prop
  | .acceptCommit order _ _, s => ∀ o ∈ s.lockOrders.get order, isOpen o
  | .cancelUpdate order _ _, s => ∀ o ∈ s.lockOrders.get order, isOpen o
  | .handleCancellationUpdate order _, s => ∀ o ∈ s.lockOrders.get order, isOpen o
  | .reassignUpdate order, s => ∀ o ∈ s.lockOrders.get order, isOpen o
  | .deleteOrder order, s => ∀ o ∈ s.lockOrders.get order, isOpen o
  | .validateCommit order fulfillment _ _ _ _, s =>
    s.hasFulfillment fulfillment → ∀ o ∈ s.lockOrders.get order,
      o.status ≠ .settled ∧ o.status ≠ .refunded
  | .syncStatus order .validated _, s => ∀ o ∈ s.lockOrders.get order,
    o.status ≠ .settled ∧ o.status ≠ .refunded
  | .syncStatus order .settled _, s => ∀ o ∈ s.lockOrders.get order, o.status ≠ .refunded
  | .syncStatus order .refunded _, s => ∀ o ∈ s.lockOrders.get order,
    o.status ≠ .validated ∧ o.status ≠ .settled
  | .syncStatus order _ _, s => ∀ o ∈ s.lockOrders.get order, isOpen o
  | .gatewayCommit (.settled order gatewayId network txHash blockNumber) payment, s =>
    ¬ s.refusesGatewayCommit (.settled order gatewayId network txHash blockNumber) payment →
      ∀ o ∈ s.lockOrders.rows, o.id = order → o.token.network = network → o.status ≠ .refunded
  | .gatewayCommit (.refunded gatewayId network txHash blockNumber) payment, s =>
    ¬ s.refusesGatewayCommit (.refunded gatewayId network txHash blockNumber) payment →
      ∀ o ∈ s.lockOrders.rows, o.gatewayId = gatewayId → o.token.network = network →
        o.status ≠ .validated ∧ o.status ≠ .settled
  | _, _ => True

inductive Writer where
  | accept (provider : ProviderProfile) (param : Option ℕ)
  | fulfill (payload : FulfillLockOrderPayload) (param : Option ℕ)
  | cancel (fuel : ℕ) (provider : ProviderProfile) (reason : String) (param : Option ℕ)
  | handleCancellation (created : LockPaymentOrder) (reason : String)
  | sync (env : Environment) (fuel : ℕ)
  | reassign (env : Environment) (fuel : ℕ) (order : LockPaymentOrder) (provider : ProviderProfile)
    (fulfillment : Option ℕ)
  | settled (network : String) (event : OrderSettledEvent) (messageHash : String)
  | refunded (network : String) (event : OrderRefundedEvent) (messageHash : String)

variable (conf : OrderConfig)

def Writer.program : Writer → OrderProgram Unit
  | accept provider param => (acceptOrder provider param).discard
  | fulfill payload param => (fulfillOrder payload param).discard
  | cancel fuel provider reason param => (cancelOrder conf fuel provider reason param).discard
  | handleCancellation created reason => (Stablenode.handleCancellation created reason).discard
  | sync env fuel => (syncLockOrderFulfillments conf env fuel).discard
  | reassign env fuel order provider fulfillment =>
    (reassignCancelledOrder conf env fuel order provider fulfillment).discard
  | settled network event messageHash =>
    (updateOrderStatusSettled network event messageHash).discard
  | refunded network event messageHash =>
    (updateOrderStatusRefunded network event messageHash).discard

def writersProgram (schedule : List ℕ) (writers : List Writer) : OrderProgram Unit :=
  interleave schedule (writers.map (Writer.program conf))

variable {conf} {a old : LockOrderStatus} {o : LockPaymentOrder}

lemma Follows.trans {b : LockOrderStatus} {new : Option LockOrderStatus} (hab : Follows a (some b))
    (hb : Follows b new) : Follows a new := by
  cases a with
  | settled | refunded =>
    obtain rfl := Option.some.inj hab
    exact hb
  | validated =>
    rcases hab with hab | hab
    · obtain rfl := Option.some.inj hab
      exact hb
    · obtain rfl := Option.some.inj hab
      exact Or.inr hb
  | _ => trivial

lemma Follows.of_none (h : Follows a none) (new : Option LockOrderStatus) : Follows a new := by
  cases a with
  | settled => cases h
  | refunded => cases h
  | validated => rcases h with h | h <;> cases h
  | _ => trivial

lemma Follows.refl (a : LockOrderStatus) : Follows a (some a) := by
  cases a <;> simp [Follows]

lemma succeeds_refl (s : Store) : Succeeds s s := by
  intro id o ho
  rw [Option.mem_def.1 ho]
  exact Follows.refl o.status

lemma Succeeds.trans {s t u : Store} (hst : Succeeds s t) (htu : Succeeds t u) : Succeeds s u := by
  intro id o ho
  have h := hst id o ho
  cases ht : t.lockOrders.get id with
  | none =>
    rw [ht] at h
    exact h.of_none _
  | some p =>
    rw [ht] at h
    exact h.trans (htu id p ht)

lemma succeeds_exec_iff (w : OrderWrite) (s : Store) :
    Succeeds s (w.exec s) ↔
      ∀ o ∈ s.lockOrders.rows, Follows o.status ((w.changeOrder s o).map LockPaymentOrder.status) := by
  constructor
  · intro h o ho
    have hget := Table.get_of_mem ho
    have := h o.id o hget
    rwa [OrderWrite.exec_getLockOrder, hget] at this
  · intro h id o ho
    rw [OrderWrite.exec_getLockOrder, Option.mem_def.1 ho]
    exact h o (Table.mem_of_get ho)

lemma follows_iff_isOpen (new : LockOrderStatus)
    (h : new ≠ .validated ∧ new ≠ .settled ∧ new ≠ .refunded) :
    Follows o.status (some new) ↔ isOpen o = true := by
  cases hs : o.status <;> cases new <;> simp [Follows, isOpen, hs] at h ⊢

lemma follows_none_iff : Follows o.status none ↔ isOpen o = true := by
  cases hs : o.status <;> simp [Follows, isOpen, hs]

lemma follows_validated_iff : Follows old (some .validated) ↔ old ≠ .settled ∧ old ≠ .refunded := by
  cases old <;> simp [Follows]

lemma follows_settled_iff : Follows old (some .settled) ↔ old ≠ .refunded := by
  cases old <;> simp [Follows]

lemma follows_refunded_iff : Follows old (some .refunded) ↔ old ≠ .validated ∧ old ≠ .settled := by
  cases old <;> simp [Follows]

lemma follows_ite_iff {new : LockPaymentOrder} {p : Prop} [Decidable p] :
    Follows o.status ((some (if p then new else o)).map LockPaymentOrder.status) ↔
      (p → Follows o.status (some new.status)) := by
  by_cases hp : p
  · simp [hp]
  · simp [hp, Follows.refl]

theorem succeeds_exec_iff_findsOpen (w : OrderWrite) (s : Store) :
    Succeeds s (w.exec s) ↔ FindsOpen w s := by
  rw [succeeds_exec_iff]
  cases w with
  | acceptCommit | cancelUpdate | handleCancellationUpdate | reassignUpdate =>
    simp only [OrderWrite.changeOrder, follows_ite_iff, Table.forall_key_iff, FindsOpen,
      follows_iff_isOpen, ne_eq, reduceCtorEq, not_false_eq_true, and_self]
  | deleteOrder order =>
    rw [FindsOpen, ← Table.forall_key_iff]
    refine forall₂_congr fun o _ => ?_
    by_cases ho : o.id = order
    · simp [OrderWrite.changeOrder, ho, follows_none_iff]
    · simp [OrderWrite.changeOrder, ho, Follows.refl]
  | validateCommit order fulfillment network provider currency new =>
    rw [FindsOpen, ← Table.forall_key_iff]
    simp only [OrderWrite.changeOrder, follows_ite_iff, follows_validated_iff, and_imp]
    exact ⟨fun h hf o ho hid => h o ho hid hf, fun h o ho hid hf => h hf o ho hid⟩
  | fulfillUpdate order log =>
    -- guarded by the status itself
    simp only [OrderWrite.changeOrder, follows_ite_iff, FindsOpen, iff_true,
      follows_iff_isOpen .fulfilled (by simp)]
    rintro o _ ⟨_, hstatus | hstatus⟩ <;> simp [isOpen, hstatus]
  | syncStatus order status log =>
    simp only [OrderWrite.changeOrder, follows_ite_iff, Table.forall_key_iff]
    cases status <;> simp only [FindsOpen, follows_validated_iff, follows_settled_iff,
      follows_refunded_iff, follows_iff_isOpen, ne_eq, reduceCtorEq, not_false_eq_true, and_self]
  | gatewayCommit event payment =>
    cases event with
    | settled order gatewayId network txHash blockNumber =>
      simp only [OrderWrite.changeOrder, follows_ite_iff, GatewayEvent.lockOrderStatus,
        follows_settled_iff, FindsOpen, GatewayEvent.selects, decide_eq_true_eq, and_imp]
      exact ⟨fun h hr o ho hid hn => h o ho hr hid hn, fun h o ho hr hid hn => h hr o ho hid hn⟩
    | refunded gatewayId network txHash blockNumber =>
      simp only [OrderWrite.changeOrder, follows_ite_iff, GatewayEvent.lockOrderStatus,
        follows_refunded_iff, FindsOpen, GatewayEvent.selects, decide_eq_true_eq, and_imp]
      exact ⟨fun h hr o ho hg hn => h o ho hr hg hn, fun h o ho hr hg hn => h hr o ho hg hn⟩
  | _ => exact ⟨fun _ => trivial, fun _ o _ => Follows.refl o.status⟩

def settledStore : Store :=
  { Sample.store with
    lockOrders := .single { Sample.lockOrder with status := .settled } }

end LifeCycle

end Stablenode
