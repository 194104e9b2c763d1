import Stablenode.OrderWrites

/-! What the writes of the order side change: the tables a write leaves alone, and the effect
of a write on a lock order. -/
namespace Stablenode

open BalanceManagement

def OrderWrite.writesBalance : OrderWrite → Bool
  | reserveCommit .. | releaseCommit .. | settleBalance .. | syncBalance .. | validateCommit .. =>
    true
  | _ => false

def OrderWrite.writesLockOrder : OrderWrite → Bool
  | acceptCommit .. | validateCommit .. | fulfillUpdate .. | cancelUpdate ..
  | handleCancellationUpdate .. | reassignUpdate .. | syncStatus .. | deleteOrder ..
  | gatewayCommit .. => true
  | _ => false

def OrderWrite.writesFulfillment : OrderWrite → Bool
  | createFulfillment .. | validateCommit .. | setFulfillment .. | deleteFulfillment ..
  | deleteOrder .. => true
  | _ => false

def OrderWrite.writesPaymentOrder : OrderWrite → Bool
  | setPaymentOrderStatus .. | setPaymentOrderRate .. | gatewayCommit .. => true
  | _ => false

def OrderWrite.writesLog : OrderWrite → Bool
  | createLog .. | acceptCommit .. | validateCommit .. | fulfillUpdate .. | syncStatus ..
  | deleteOrder .. | gatewayCommit .. => true
  | _ => false

lemma Store.linkLog_frame (s : Store) (log : Option ℕ) (p : LockPaymentOrder → Bool) :
    ∃ logs, s.linkLog log p = { s with transactionLogs := logs } := by
  rw [linkLog]
  split <;> exact ⟨_, rfl⟩

lemma Store.changePaymentOrders_frame (s : Store) (payment : Option PaymentOrderChange) :
    ∃ orders, s.changePaymentOrders payment = { s with paymentOrders := orders } := by
  cases payment <;> exact ⟨_, rfl⟩

lemma Store.recordGatewayLog_frame (s : Store) (event : GatewayEvent)
    (payment : Option PaymentOrderChange) :
    ∃ logs, s.recordGatewayLog event payment = { s with transactionLogs := logs } := by
  rw [recordGatewayLog]
  split <;> exact ⟨_, rfl⟩

lemma Store.updateQueue_frame (s : Store) (key : QueueKey) (f : List QueueEntry → List QueueEntry) :
    ∃ queues, s.updateQueue key f = { s with queues := queues } := by
  rw [updateQueue]
  split <;> exact ⟨_, rfl⟩

lemma OrderWrite.exec_gatewayCommit (event : GatewayEvent) (payment : Option PaymentOrderChange)
    (s : Store) :
    ∃ logs orders, (gatewayCommit event payment).exec s =
      if s.refusesGatewayCommit event payment then s
      else { s with
        transactionLogs := logs
        paymentOrders := orders
        lockOrders := s.lockOrders.update event.selects
          (fun o =>
            { o with
              status := event.lockOrderStatus
              blockNumber := event.blockNumber
              txHash := event.txHash
              updatedAt := s.now })
          fun _ => rfl } := by
  obtain ⟨logs, hlogs⟩ := s.recordGatewayLog_frame event payment
  simp only [exec, hlogs]
  obtain ⟨orders, horders⟩ := Store.changePaymentOrders_frame
    (Store.updateLockOrders { s with transactionLogs := logs } event.selects
      (fun o =>
        { o with
          status := event.lockOrderStatus
          blockNumber := event.blockNumber
          txHash := event.txHash }) fun _ => rfl) payment
  rw [horders]
  exact ⟨logs, orders, rfl⟩

lemma OrderWrite.exec_frame (w : OrderWrite) (s : Store) :
    (w.writesBalance = false → (w.exec s).balances = s.balances) ∧
    (w.writesLockOrder = false → (w.exec s).lockOrders = s.lockOrders) ∧
    (w.writesFulfillment = false → (w.exec s).fulfillments = s.fulfillments) ∧
    (w.writesPaymentOrder = false → (w.exec s).paymentOrders = s.paymentOrders) ∧
    s.excludeLists ⊆ (w.exec s).excludeLists := by
  cases w with
  | popQueue key | pushQueue key | setQueueFromEnd key | removeFromQueue key =>
    simp only [exec]
    obtain ⟨queues, hq⟩ := s.updateQueue_frame key _
    rw [hq]
    exact ⟨fun _ => rfl, fun _ => rfl, fun _ => rfl, fun _ => rfl, List.Subset.refl _⟩
  | fulfillUpdate order log | syncStatus order status log =>
    simp only [exec]
    obtain ⟨logs, hl⟩ := s.linkLog_frame log _
    rw [hl]
    exact ⟨fun _ => rfl, nofun, fun _ => rfl, fun _ => rfl, List.Subset.refl _⟩
  | gatewayCommit event payment =>
    obtain ⟨logs, orders, he⟩ := exec_gatewayCommit event payment s
    rw [he]
    split <;> exact ⟨fun _ => rfl, nofun, fun _ => rfl, nofun, List.Subset.refl _⟩
  | acceptCommit order provider logged =>
    simp only [exec]
    cases logged <;> split <;>
      exact ⟨fun _ => rfl, nofun, fun _ => rfl, fun _ => rfl, List.Subset.refl _⟩
  | pushExclude order provider =>
    exact ⟨fun _ => rfl, fun _ => rfl, fun _ => rfl, fun _ => rfl, List.subset_append_left _ _⟩
  | _ =>
    refine ⟨fun h => ?_, fun h => ?_, fun h => ?_, fun h => ?_, ?_⟩ <;>
      first
      | (cases h; done)
      | exact List.Subset.refl _
      | (simp only [exec, Store.deleteRequest, Store.updateLockOrders, Store.setBalance,
           Store.setFunds]
         repeat (split <;> first | rfl | exact List.Subset.refl _))

variable {w : OrderWrite} {s : Store} {order : ℕ}

lemma OrderWrite.exec_transactionLogs (h : w.writesLog = false) (s : Store) :
    (w.exec s).transactionLogs = s.transactionLogs := by
  cases w with
  | popQueue key | pushQueue key | setQueueFromEnd key | removeFromQueue key =>
    simp only [exec]
    obtain ⟨queues, hq⟩ := s.updateQueue_frame key _
    rw [hq]
  | createLog | acceptCommit | validateCommit | fulfillUpdate | syncStatus | deleteOrder
  | gatewayCommit => cases h
  | _ =>
    simp only [exec]
    repeat' split
    all_goals rfl

lemma OrderWrite.exec_balances (h : w.writesBalance = false) (s : Store) :
    (w.exec s).balances = s.balances :=
  (w.exec_frame s).1 h

lemma OrderWrite.exec_lockOrders (h : w.writesLockOrder = false) (s : Store) :
    (w.exec s).lockOrders = s.lockOrders :=
  (w.exec_frame s).2.1 h

lemma OrderWrite.exec_fulfillments (h : w.writesFulfillment = false) (s : Store) :
    (w.exec s).fulfillments = s.fulfillments :=
  (w.exec_frame s).2.2.1 h

lemma OrderWrite.exec_paymentOrders (h : w.writesPaymentOrder = false) (s : Store) :
    (w.exec s).paymentOrders = s.paymentOrders :=
  (w.exec_frame s).2.2.2.1 h

lemma OrderWrite.mem_excludeList (w : OrderWrite) {provider : String}
    (h : provider ∈ s.excludeList order) : provider ∈ (w.exec s).excludeList order := by
  simp only [Store.excludeList, List.mem_map, List.mem_filter] at h ⊢
  obtain ⟨e, ⟨hmem, he⟩, rfl⟩ := h
  exact ⟨e, ⟨(w.exec_frame s).2.2.2.2 hmem, he⟩, rfl⟩

lemma OrderWrite.exec_balance (h : w.writesBalance = false) (s : Store) (P c : String) :
    (w.exec s).balance P c = s.balance P c := by
  rw [Store.balance, exec_balances h, Store.balance]

lemma OrderWrite.exec_validateCommit_balance (order fulfillment : ℕ) (network p cur P c : String)
    (new : Balance) (s : Store) (hf : s.hasFulfillment fulfillment = true) :
    ((validateCommit order fulfillment network p cur new).exec s).balance P c =
      if (P, c) = (p, cur) then
        (s.balance P c).map fun old => ⟨new.available, new.reserved, old.total⟩
      else s.balance P c := by
  simp only [exec, hf, if_true]
  exact Store.balance_setFunds _ p cur P c new

lemma OrderWrite.get_setOrderRequest (order : ℕ) (fields : List (String × String)) (s : Store) :
    ((setOrderRequest order fields).exec s).orderRequests.get order =
      some ((s.orderRequests.get order).elim ⟨order, fields, none⟩ fun r =>
        { r with fields := Fields.setFields r.fields fields }) := by
  simp only [exec]
  cases hget : s.orderRequests.get order with
  | none =>
    have hins := Table.get_insert_self (t := s.orderRequests) (a := ⟨order, fields, none⟩) hget
    simp only [Option.isSome_none, Bool.false_eq_true, if_false, hins, Option.elim_none]
  | some r =>
    simp only [Option.isSome_some, if_true, Table.get_modify_self, hget, Option.map_some,
      Option.elim_some]

lemma OrderWrite.get_expireOrderRequestAt (order time : ℕ) (s : Store) :
    ((expireOrderRequestAt order time).exec s).orderRequests.get order =
      (s.orderRequests.get order).map fun r => { r with expiresAt := some time } := by
  simp only [exec, Table.get_modify_self]

def SameFulfillments (order : ℕ) (s t : Store) : Prop :=
  ∀ id f, f.order = order → (t.fulfillments.get id = some f ↔ s.fulfillments.get id = some f)

lemma SameFulfillments.of_modify {k : ℕ} {t : Store}
    {f : LockOrderFulfillment → LockOrderFulfillment} (hf : ∀ g, (f g).id = g.id)
    (ht : t.fulfillments = s.fulfillments.modify k f hf) (horder : ∀ g, (f g).order = g.order)
    (hk : ∀ g, s.fulfillments.get k = some g → g.order ≠ order) : SameFulfillments order s t := by
  intro id g hg
  rw [ht]
  by_cases hid : id = k
  · subst hid
    have hno : s.fulfillments.get id ≠ some g := fun h => hk g h hg
    simp only [Table.get_modify_self, hno, iff_false, Option.map_eq_some_iff, not_exists, not_and]
    rintro g' hg' rfl
    exact hk g' hg' ((horder g').symm.trans hg)
  · rw [Table.get_modify_of_ne _ _ _ hid]

lemma SameFulfillments.of_set {k : ℕ} (status : ValidationStatus) (error : Option String)
    (hk : ∀ g, s.fulfillments.get k = some g → g.order ≠ order) :
    SameFulfillments order s ((OrderWrite.setFulfillment k status error).exec s) := by
  refine of_modify (f := fun f =>
    { f with
      validationStatus := status
      validationError := error.getD f.validationError
      updatedAt := s.now }) (fun _ => rfl) rfl (fun _ => rfl) hk

lemma SameFulfillments.of_create {other : ℕ} (h : other ≠ order) (s : Store) (txId psp : String)
    (status : ValidationStatus) (error : String) :
    SameFulfillments other s ((OrderWrite.createFulfillment order txId psp status error).exec s) := by
  intro id f hf
  simp only [OrderWrite.exec]
  split_ifs
  · by_cases hid : id = s.fulfillments.fresh
    · subst hid
      have hnone := s.fulfillments.get_fresh
      have hnew := Table.get_insert_self (t := s.fulfillments)
        (a := ⟨s.fulfillments.fresh, txId, psp, status, error, order, s.now⟩) hnone
      rw [hnew, hnone]
      refine ⟨fun heq => ?_, fun heq => by cases heq⟩
      obtain rfl := Option.some.inj heq
      exact absurd hf.symm h
    · dsimp only
      rw [Table.get_insert_of_ne (by exact hid)]
  · rfl

def OrderWrite.changeOrder (w : OrderWrite) (s : Store) (o : LockPaymentOrder) :
    Option LockPaymentOrder :=
  match w with
  | acceptCommit order provider _ =>
    some (if o.id = order then
      { o with status := .processing, provider := some provider, updatedAt := s.now } else o)
  | validateCommit order fulfillment _ _ _ _ =>
    some (if o.id = order ∧ s.hasFulfillment fulfillment then
      { o with status := .validated, updatedAt := s.now } else o)
  | fulfillUpdate order _ =>
    some (if o.id = order ∧ (o.status = .processing ∨ o.status = .fulfilled) then
      { o with status := .fulfilled, updatedAt := s.now } else o)
  | cancelUpdate order count reason =>
    some (if o.id = order then
      { o with
        status := .cancelled
        cancellationCount := count
        cancellationReasons := o.cancellationReasons ++ reason.toList
        updatedAt := s.now } else o)
  | handleCancellationUpdate order reason =>
    some (if o.id = order then
      { o with
        status := .cancelled
        cancellationCount := 3
        cancellationReasons := [reason]
        updatedAt := s.now } else o)
  | reassignUpdate order =>
    some (if o.id = order then
      { o with status := .pending, provider := none, updatedAt := s.now } else o)
  | syncStatus order status _ =>
    some (if o.id = order then { o with status, updatedAt := s.now } else o)
  | deleteOrder order => if o.id = order then none else some o
  | gatewayCommit event payment =>
    some (if ¬ s.refusesGatewayCommit event payment ∧ event.selects o then
      { o with
        status := event.lockOrderStatus
        blockNumber := event.blockNumber
        txHash := event.txHash
        updatedAt := s.now } else o)
  | _ => some o

lemma Store.get_updateLockOrders (s : Store) (p : LockPaymentOrder → Bool)
    (f : LockPaymentOrder → LockPaymentOrder) (hf : ∀ o, (f o).id = o.id) (id : ℕ) :
    (s.updateLockOrders p f hf).lockOrders.get id =
      (s.lockOrders.get id).bind fun o =>
        some (if p o then { f o with updatedAt := s.now } else o) := by
  rw [Store.updateLockOrders, Table.get_update]
  cases s.lockOrders.get id <;> rfl

theorem OrderWrite.exec_getLockOrder (w : OrderWrite) (s : Store) (id : ℕ) :
    (w.exec s).lockOrders.get id = (s.lockOrders.get id).bind (w.changeOrder s) := by
  cases hw : w.writesLockOrder with
  | false =>
    have hsome : w.changeOrder s = some := by
      funext o
      cases w <;> first | rfl | cases hw
    rw [exec_lockOrders hw, hsome, Option.bind_fun_some]
  | true =>
    cases w with
    | acceptCommit order provider logged =>
      simp only [exec]
      by_cases ho : s.hasLockOrder order = true
      · rw [if_pos ho]
        cases logged <;>
          (simp only [if_true, Bool.false_eq_true, if_false, Store.get_updateLockOrders,
            decide_eq_true_eq]
           rfl)
      rw [if_neg ho]
      cases hget : s.lockOrders.get id with
      | none => rfl
      | some o =>
        have hne : o.id ≠ order := by
          rintro rfl
          exact ho (by rw [Store.hasLockOrder, Table.get_key hget, hget]; rfl)
        simp [changeOrder, hne]
    | validateCommit order fulfillment network provider currency new =>
      simp only [exec]
      by_cases hf : s.hasFulfillment fulfillment = true
      · rw [if_pos hf]
        simp only [Store.setFunds, Store.setLockOrderStatus, Store.get_updateLockOrders,
          decide_eq_true_eq]
        cases s.lockOrders.get id with
        | none => rfl
        | some o => simp [changeOrder, hf]
      · rw [if_neg hf]
        cases s.lockOrders.get id with
        | none => rfl
        | some o => simp [changeOrder, hf]
    | fulfillUpdate order log =>
      simp only [exec]
      obtain ⟨logs, hl⟩ := s.linkLog_frame log _
      rw [hl]
      simp only [Store.get_updateLockOrders, decide_eq_true_eq]
      rfl
    | cancelUpdate order count reason | handleCancellationUpdate order reason
    | reassignUpdate order =>
      simp only [exec, Store.get_updateLockOrders, decide_eq_true_eq]
      rfl
    | syncStatus order status log =>
      obtain ⟨logs, hl⟩ := s.linkLog_frame log fun o => o.id = order
      simp only [exec, hl, Store.setLockOrderStatus, Store.get_updateLockOrders,
        decide_eq_true_eq]
      rfl
    | deleteOrder order =>
      simp only [exec]
      rw [Table.get_delete s.lockOrders (fun k => k = order)]
      cases hget : s.lockOrders.get id with
      | none => simp
      | some o => simp [changeOrder, Table.get_key hget]
    | gatewayCommit event payment =>
      obtain ⟨logs, orders, he⟩ := exec_gatewayCommit event payment s
      rw [he]
      by_cases hr : s.refusesGatewayCommit event payment = true
      · rw [if_pos hr]
        cases s.lockOrders.get id with
        | none => rfl
        | some o => simp [changeOrder, hr]
      · rw [if_neg hr, Table.get_update]
        cases s.lockOrders.get id with
        | none => rfl
        | some o => simp [changeOrder, hr]
    | _ => cases hw

variable {o' : LockPaymentOrder}

lemma OrderWrite.changeOrder_same {o : LockPaymentOrder} (h : w.changeOrder s o = some o') :
    o'.id = o.id ∧ o'.amount = o.amount ∧ o'.rate = o.rate ∧ o'.token = o.token ∧
      o'.gatewayId = o.gatewayId ∧ o'.provisionBucket = o.provisionBucket := by
  cases w <;> simp only [changeOrder] at h <;> (try split_ifs at h) <;>
    (obtain rfl := Option.some.inj h; exact ⟨rfl, rfl, rfl, rfl, rfl, rfl⟩)

lemma OrderWrite.mem_exec_lockOrders (h : o' ∈ (w.exec s).lockOrders.rows) :
    ∃ o ∈ s.lockOrders.rows, w.changeOrder s o = some o' := by
  have hget := Table.get_of_mem h
  rw [exec_getLockOrder, Option.bind_eq_some_iff] at hget
  obtain ⟨o, ho, hchange⟩ := hget
  exact ⟨o, Table.mem_of_get ho, hchange⟩

end Stablenode
