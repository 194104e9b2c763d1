import Stablenode.Deposits
import Stablenode.EventDelivery
import Stablenode.Views

/-! Repeated deliveries of gateway events, compared on a view of the store. -/
namespace Stablenode.Replay

open BalanceManagement Proc

variable {s t : Store} {w : OrderWrite} {keep : LockPaymentOrder → Option PaymentOrder → Bool}
  {update : String → OrderProgram (Except String Unit)} {orderId failure : String}

section View

def hideOrder (o : LockPaymentOrder) : LockPaymentOrder :=
  { o with txHash := "", blockNumber := 0, updatedAt := 0 }

def hideRow (r : ProviderCurrency) : ProviderCurrency := { r with updatedAt := 0 }

def hideLog (l : TransactionLog) : TransactionLog := { l with txHash := "" }

lemma hideOrder_id (o : LockPaymentOrder) : (hideOrder o).id = o.id := rfl

lemma hideRow_key (r : ProviderCurrency) :
    ((hideRow r).provider, (hideRow r).currency) = (r.provider, r.currency) := rfl

lemma hideLog_id (l : TransactionLog) : (hideLog l).id = l.id := rfl

def view (s : Store) : Store :=
  { s with
    lockOrders := s.lockOrders.map hideOrder hideOrder_id
    balances := s.balances.map hideRow hideRow_key
    transactionLogs := s.transactionLogs.map hideLog hideLog_id
    calls := [] }

lemma view_lockOrders (s : Store) :
    (view s).lockOrders = s.lockOrders.map hideOrder hideOrder_id := rfl

lemma view_balances (s : Store) : (view s).balances = s.balances.map hideRow hideRow_key := rfl

lemma view_transactionLogs (s : Store) :
    (view s).transactionLogs = s.transactionLogs.map hideLog hideLog_id := rfl

lemma eq_of_view {β : Sort*} {f : Store → β} (h : ∀ s, f s = f (view s)) (hst : view s = view t) :
    f s = f t := by
  rw [h s, hst, ← h t]

lemma view_balance (s : Store) (provider currency : String) :
    s.balance provider currency = (view s).balance provider currency := by
  rw [Store.balance, Store.balance, view_balances, Table.get_map, Option.map_map]
  rfl

lemma selects_hideOrder (event : GatewayEvent) (o : LockPaymentOrder) :
    event.selects (hideOrder o) = event.selects o := by
  cases event <;> rfl

lemma view_select (s : Store) {q : LockPaymentOrder → Bool} (hq : ∀ o, q (hideOrder o) = q o) :
    (view s).lockOrders.select q = (s.lockOrders.select q).map hideOrder :=
  s.lockOrders.select_map hideOrder_id hq

lemma view_balanceEdges (s : Store) (event : GatewayEvent) :
    s.balanceEdges event.selects = (view s).balanceEdges event.selects := by
  rw [Store.balanceEdges, Store.balanceEdges, view_select s (selects_hideOrder event)]
  rcases s.lockOrders.select event.selects with _ | ⟨o, _ | ⟨o', os⟩⟩ <;> rfl

lemma view_anyLog (s : Store) (event : GatewayEvent) :
    (view s).transactionLogs.rows.any event.isLog = s.transactionLogs.rows.any event.isLog := by
  rw [view_transactionLogs, Table.map_rows, List.any_map]
  rfl

lemma view_refusesLockOrderLink (s : Store) (event : GatewayEvent) :
    s.refusesLockOrderLink event = (view s).refusesLockOrderLink event := by
  rw [Store.refusesLockOrderLink, Store.refusesLockOrderLink, view_anyLog,
    view_select s (selects_hideOrder event), List.length_map]

lemma view_refusesGatewayCommit (s : Store) (event : GatewayEvent)
    (change : Option PaymentOrderChange) :
    s.refusesGatewayCommit event change = (view s).refusesGatewayCommit event change := by
  rw [Store.refusesGatewayCommit, Store.refusesGatewayCommit, view_anyLog,
    view_select s (selects_hideOrder event), List.length_map]
  rfl

end View

section Writes

def SeesView (w : OrderWrite) : Prop := ∀ s, view (w.exec s) = view (w.exec (view s))

lemma SeesView.eq (h : SeesView w) (hst : view s = view t) : view (w.exec s) = view (w.exec t) :=
  eq_of_view (f := fun s => view (w.exec s)) h hst

lemma hidden_lockOrders (t : Table LockPaymentOrder.id) :
    (t.map hideOrder hideOrder_id).map hideOrder hideOrder_id = t.map hideOrder hideOrder_id :=
  Table.map_map_self hideOrder_id fun _ => rfl

lemma hidden_balances (t : Table fun r : ProviderCurrency => (r.provider, r.currency)) :
    (t.map hideRow hideRow_key).map hideRow hideRow_key = t.map hideRow hideRow_key :=
  Table.map_map_self hideRow_key fun _ => rfl

lemma hidden_transactionLogs (t : Table TransactionLog.id) :
    (t.map hideLog hideLog_id).map hideLog hideLog_id = t.map hideLog hideLog_id :=
  Table.map_map_self hideLog_id fun _ => rfl

lemma view_view (s : Store) : view (view s) = view s := by
  simp only [view, hidden_lockOrders, hidden_balances, hidden_transactionLogs]

lemma seesView_read : SeesView .read := fun s => (view_view s).symm

lemma seesView_call (c : ExternalCall) : SeesView (.call c) := fun s => (view_view s).symm

lemma view_modifyBalance (s : Store) (k : String × String) {f : ProviderCurrency → ProviderCurrency}
    (hf : ∀ r, ((f r).provider, (f r).currency) = (r.provider, r.currency))
    (hhide : ∀ r, hideRow (f (hideRow r)) = hideRow (f r)) :
    view { s with balances := s.balances.modify k f hf } =
      view { view s with balances := (view s).balances.modify k f hf } := by
  have hrows : (s.balances.modify k f hf).map hideRow hideRow_key =
      ((view s).balances.modify k f hf).map hideRow hideRow_key :=
    Table.map_update hf hideRow_key (fun _ => rfl) (fun _ => rfl) hhide
  simp only [view, hidden_lockOrders, hidden_transactionLogs] at hrows ⊢
  rw [hrows]

lemma view_recordGatewayLog (s : Store) (event : GatewayEvent)
    (payment : Option PaymentOrderChange) :
    ((s.recordGatewayLog event payment).transactionLogs).map hideLog hideLog_id =
      (((view s).recordGatewayLog event payment).transactionLogs).map hideLog hideLog_id := by
  rw [Store.recordGatewayLog, Store.recordGatewayLog, view_anyLog]
  split_ifs
  · apply Table.map_update <;> exact fun _ => rfl
  have hlink : ((view s).lockOrders.select event.selects).head?.map LockPaymentOrder.id =
      (s.lockOrders.select event.selects).head?.map LockPaymentOrder.id := by
    rw [view_select s (selects_hideOrder event), List.head?_map, Option.map_map]
    rfl
  simp only [Table.insert_map, Store.newLog, hlink, view_transactionLogs,
    hidden_transactionLogs, Table.fresh_map]
  rfl

lemma seesView_gatewayCommit (event : GatewayEvent) (payment : Option PaymentOrderChange) :
    SeesView (.gatewayCommit event payment) := by
  intro s
  simp only [OrderWrite.exec, ← view_refusesGatewayCommit]
  split_ifs
  · exact (view_view s).symm
  have hlogs := view_recordGatewayLog s event payment
  have horders := Table.map_update (t := s.lockOrders) (p := event.selects)
    (f := fun o =>
      { o with
        status := event.lockOrderStatus
        blockNumber := event.blockNumber
        txHash := event.txHash
        updatedAt := s.now })
    (fun _ => rfl) hideOrder_id (selects_hideOrder event) (fun _ => rfl) fun _ => rfl
  obtain ⟨logs, hs⟩ := s.recordGatewayLog_frame event payment
  obtain ⟨logs', ht⟩ := (view s).recordGatewayLog_frame event payment
  rw [hs, ht] at hlogs ⊢
  cases payment <;>
    simp only [view, Store.changePaymentOrders, Store.updateLockOrders,
      Store.updatePaymentOrders, hidden_balances] at hlogs horders ⊢ <;>
    rw [hlogs, horders]

end Writes

section Programs

variable {α : Type} {failed : OrderProgram α} {k : Store → OrderProgram α}

lemma blind_write (hw : SeesView w) (hkey : ∀ s, k s = k (view s))
    (hf : Blind OrderWrite.exec view failed) (hk : ∀ s, Blind OrderWrite.exec view (k s)) :
    Blind OrderWrite.exec view (attempt w failed k) :=
  blind_attempt (fun _ _ => hw.eq) (fun _ _ => eq_of_view hkey) hf hk

lemma commitGatewayEvent_blind (event : GatewayEvent) (change : Option PaymentOrderChange)
    (webhook : Option (ℕ × PaymentOrderStatus)) (commitError senderError webhookError : String) :
    Blind OrderWrite.exec view
      (commitGatewayEvent event change webhook commitError senderError webhookError) := by
  refine blind_write (seesView_gatewayCommit event change)
    (fun s => by simp only [view_refusesGatewayCommit s]) trivial fun s => ?_
  split_ifs
  · trivial
  · cases webhook with
    | none => trivial
    | some id => exact blind_write (seesView_call _) (fun _ => rfl) trivial fun _ => trivial

lemma releaseReservedBalance_blind (provider currency : String) (amount : ℚ) :
    Blind OrderWrite.exec view (releaseReservedBalance provider currency amount) := by
  refine blind_write seesView_read (fun s => by simp only [view_balance s]) trivial fun s => ?_
  cases s.balance provider currency with
  | none => trivial
  | some b =>
    dsimp only
    split
    · trivial
    refine blind_write seesView_read (fun s => by simp only [view_balance s]) trivial fun s => ?_
    cases s.balance provider currency with
    | none => trivial
    | some b =>
      dsimp only
      split
      · trivial
      · exact blind_write (fun s => view_modifyBalance s _ _ fun _ => rfl) (fun _ => rfl) trivial
          fun _ => trivial

lemma updateOrderStatusRefunded_blind (network : String) (event : OrderRefundedEvent)
    (messageHash : String) :
    Blind OrderWrite.exec view (updateOrderStatusRefunded network event messageHash) := by
  refine blind_write seesView_read (fun _ => rfl) trivial fun s => ?_
  split
  · trivial
  refine blind_write seesView_read
    (fun s => by simp only [view_refusesLockOrderLink s, view_balanceEdges s]) trivial
    fun s => ?_
  split_ifs
  · trivial
  split
  · exact commitGatewayEvent_blind _ _ _ _ _ _
  · exact blind_bind (releaseReservedBalance_blind _ _ _) fun _ =>
      commitGatewayEvent_blind _ _ _ _ _ _

lemma updateOrderStatusSettled_blind (network : String) (event : OrderSettledEvent)
    (messageHash : String) :
    Blind OrderWrite.exec view (updateOrderStatusSettled network event messageHash) := by
  refine blind_write seesView_read (fun _ => rfl) trivial fun s => ?_
  split
  · trivial
  cases event.splitOrderId with
  | none => trivial
  | some id =>
    refine blind_write seesView_read (fun s => by simp only [view_balanceEdges s]) trivial
      fun s => ?_
    split
    · exact commitGatewayEvent_blind _ _ _ _ _ _
    refine blind_write seesView_read (fun s => by simp only [view_balance s])
      (commitGatewayEvent_blind _ _ _ _ _ _) fun s => ?_
    split
    · exact commitGatewayEvent_blind _ _ _ _ _ _
    · exact blind_ignore (fun _ _ => SeesView.eq (w := .settleBalance _ _ _)
        fun s => view_modifyBalance s _ _ fun _ => rfl)
        (commitGatewayEvent_blind _ _ _ _ _ _)

lemma view_lockOrdersWhere (s : Store) (orderIds : List String)
    (hkeep : ∀ o, keep (hideOrder o) = keep o) :
    (view s).lockOrdersWhere orderIds keep = (s.lockOrdersWhere orderIds keep).map hideOrder := by
  have hselect := view_select s (q := fun o => o.gatewayId ∈ orderIds) fun _ => rfl
  rw [Store.lockOrdersWhere, hselect, Store.lockOrdersWhere, List.flatMap_map, List.map_flatMap]
  refine List.flatMap_congr fun o _ => ?_
  rw [hkeep, List.map_map]
  rfl

lemma handleGatewayEvent_blind
    (hupdate : ∀ messageHash, Blind OrderWrite.exec view (update messageHash)) :
    Blind OrderWrite.exec view (handleGatewayEvent orderId failure update) := by
  refine blind_write seesView_read (fun s => ?_) trivial fun s => ?_
  · have hselect := view_select s (q := fun o => o.gatewayId = orderId) fun _ => rfl
    rw [hselect]
    rcases s.lockOrders.select fun o => o.gatewayId = orderId with _ | ⟨o, _ | ⟨o', os⟩⟩ <;> rfl
  · split
    · trivial
    · refine blind_bind (hupdate _) fun r => ?_
      cases r <;> trivial

theorem delivery_blind (d : Delivery) : Blind OrderWrite.exec view d.program := by
  cases d with
  | processSettled network event schedule | processRefunded event schedule =>
    refine blind_write seesView_read (fun s => ?_) trivial fun s => ?_
    · rw [view_lockOrdersWhere s _ fun _ => rfl, List.filterMap_map]
      rfl
    refine blind_bind (blind_interleave schedule fun p hp => ?_) fun _ => trivial
    obtain ⟨o, -, hp⟩ := List.mem_filterMap.1 hp
    obtain ⟨e, -, rfl⟩ := Option.map_eq_some_iff.1 hp
    first
    | exact blind_bind (updateOrderStatusSettled_blind _ _ _) fun _ => trivial
    | exact blind_bind (updateOrderStatusRefunded_blind _ _ _) fun _ => trivial
  | handleSettled network event =>
    exact handleGatewayEvent_blind (updateOrderStatusSettled_blind network event)
  | handleRefunded network event =>
    exact handleGatewayEvent_blind (updateOrderStatusRefunded_blind network event)

end Programs

section Repetitions

def SettlesNothing (b : Balance) (amount : ℚ) : Prop :=
  amount = 0 ∧ 0 ≤ b.reserved ∧ 0 ≤ b.total ∨ 0 < amount ∧ b.reserved = 0 ∧ b.total = 0

variable {amount : ℚ} {provider currency network : String} {o : LockPaymentOrder}

lemma settle_of_settlesNothing {b : Balance} (h : SettlesNothing b amount) :
    settle b amount = b := by
  rcases h with ⟨rfl, hreserved, htotal⟩ | ⟨hamount, hreserved, htotal⟩
  · simp [settle, not_lt.2 hreserved, not_lt.2 htotal]
  have hneg : 0 - amount < 0 := by linarith
  rw [settle, hreserved, htotal, if_pos hneg]
  cases b
  simp_all

def ReleasesNothing (b : Balance) (amount : ℚ) : Prop :=
  Consistent b → AcceptsRelease b amount → amount = 0

structure Spent (event : GatewayEvent) (status : PaymentOrderStatus) (messageHash : String)
    (kept : Balance → ℚ → Prop) (s : Store) : Prop where
  log : s.transactionLogs.rows.any event.isLog = true
  lockOrders : ∀ o ∈ s.lockOrders.rows, event.selects o = true → o.status = event.lockOrderStatus
  paymentOrders : ∀ p ∈ s.paymentOrders.rows, p.messageHash = some messageHash →
    p.token.network = event.network → p.status = status
  balances : ∀ provider currency amount b,
    s.balanceEdges event.selects = some (provider, currency, amount) →
    s.balance provider currency = some b → kept b amount

variable {event : GatewayEvent} {status : PaymentOrderStatus} {messageHash : String}
  {kept : Balance → ℚ → Prop}

lemma Spent.of_view (h : Spent event status messageHash kept s) (hst : view s = view t) :
    Spent event status messageHash kept t where
  log := by rw [← view_anyLog, ← hst, view_anyLog]; exact h.log
  lockOrders o ho hsel := by
    have hmem : hideOrder o ∈ (view s).lockOrders.rows := by
      rw [hst, view_lockOrders, Table.map_rows]
      exact List.mem_map_of_mem ho
    rw [view_lockOrders, Table.map_rows] at hmem
    obtain ⟨o', ho', heq⟩ := List.mem_map.1 hmem
    have hstatus : (hideOrder o').status = (hideOrder o).status := by rw [heq]
    rw [show o.status = o'.status from hstatus.symm]
    refine h.lockOrders o' ho' ?_
    rw [← selects_hideOrder, heq, selects_hideOrder, hsel]
  paymentOrders := by
    have hpayments : (view s).paymentOrders = (view t).paymentOrders := by rw [hst]
    rw [show t.paymentOrders = s.paymentOrders from hpayments.symm]
    exact h.paymentOrders
  balances provider currency amount b := by
    rw [← eq_of_view (fun s => view_balanceEdges s event) hst,
      ← eq_of_view (fun s => view_balance s provider currency) hst]
    exact h.balances provider currency amount b

lemma view_setBalance_self {b : Balance} (hb : s.balance provider currency = some b) :
    view (s.setBalance provider currency b) = view s := by
  have hrows : ∀ hf, (s.balances.modify (provider, currency)
      (fun r => { r with balance := b, updatedAt := s.now }) hf).map hideRow hideRow_key =
        s.balances.map hideRow hideRow_key := by
    intro hf
    refine Table.map_update_hidden hf hideRow_key fun r hr hkey => ?_
    have hkey : (r.provider, r.currency) = (provider, currency) := of_decide_eq_true hkey
    have hget : s.balances.get (r.provider, r.currency) = some r := Table.get_of_mem hr
    rw [hkey] at hget
    have hrow : r.balance = b := by simpa [Store.balance, hget] using hb
    rw [← hrow]
    rfl
  simp only [view, Store.setBalance, hrows]

variable (h : Spent event status messageHash kept s)
include h

lemma Spent.view_gatewayCommit :
    view ((OrderWrite.gatewayCommit event none).exec s) = view s := by
  simp only [OrderWrite.exec]
  split_ifs
  · rfl
  have hlogs : ∀ hf, (s.transactionLogs.update event.isLog
      (fun l => { l with txHash := event.txHash }) hf).map hideLog hideLog_id =
        s.transactionLogs.map hideLog hideLog_id :=
    fun hf => Table.map_update_hidden hf hideLog_id fun _ _ _ => rfl
  have horders : ∀ hf, (s.lockOrders.update event.selects
      (fun o =>
        { o with
          status := event.lockOrderStatus
          blockNumber := event.blockNumber
          txHash := event.txHash
          updatedAt := s.now }) hf).map hideOrder hideOrder_id =
        s.lockOrders.map hideOrder hideOrder_id := by
    intro hf
    refine Table.map_update_hidden hf hideOrder_id fun o ho hsel => ?_
    rw [← h.lockOrders o ho hsel]
    rfl
  rw [Store.recordGatewayLog, if_pos h.log]
  simp only [Store.changePaymentOrders, view, Store.updateLockOrders]
  rw [hlogs, horders]

def SettlementSpent (network : String) (event : OrderSettledEvent) (messageHash : String)
    (s : Store) : Prop :=
  ∀ id, event.splitOrderId = some id →
    Spent (event.gatewayEvent network id) .settled messageHash SettlesNothing s

def RefundSpent (network : String) (event : OrderRefundedEvent) (messageHash : String)
    (s : Store) : Prop :=
  Spent (event.gatewayEvent network) .refunded messageHash ReleasesNothing s

lemma commitGatewayEvent_unseen (webhook : Option (ℕ × PaymentOrderStatus))
    (commitError senderError webhookError : String) :
    Unseen OrderWrite.exec view (view s)
      (commitGatewayEvent event none webhook commitError senderError webhookError) := by
  refine unseen_attempt (fun t ht => ?_) fun t _ => ?_
  · rw [(h.of_view ht.symm).view_gatewayCommit, ht]
  split_ifs
  · trivial
  · cases webhook with
    | none => trivial
    | some id => exact unseen_attempt (fun _ ht => ht) fun _ _ => trivial

lemma Spent.status_of_paymentOrderOf {p : PaymentOrder}
    (hp : s.paymentOrderOf messageHash event.network = .ok p) : p.status = status := by
  have hmem : p ∈ s.paymentOrders.select fun o =>
      o.messageHash = some messageHash ∧ o.token.network = event.network := by
    rw [only_eq_ok_iff.1 hp]
    exact List.mem_singleton_self p
  obtain ⟨hrow, hkey⟩ := List.mem_filter.1 hmem
  obtain ⟨hhash, hnetwork⟩ := of_decide_eq_true hkey
  exact h.paymentOrders p hrow hhash hnetwork

lemma Spent.no_change {change : PaymentOrder → Option PaymentOrderChange}
    (hchange : ∀ p, p.status = status → change p = none) :
    (s.paymentOrderOf messageHash event.network).toOption.bind change = none := by
  cases hp : s.paymentOrderOf messageHash event.network with
  | error e => rfl
  | ok p => exact hchange p (h.status_of_paymentOrderOf hp)

omit h

lemma releaseReservedBalance_unseen
    (h : ∀ b, s.balance provider currency = some b → ReleasesNothing b amount) :
    Unseen OrderWrite.exec view (view s) (releaseReservedBalance provider currency amount) := by
  have hread : ∀ {t}, view t = view s → t.balance provider currency = s.balance provider currency :=
    eq_of_view fun s => view_balance s provider currency
  refine unseen_attempt (fun _ ht => ht) fun t ht => ?_
  rw [hread ht]
  cases hb : s.balance provider currency with
  | none => trivial
  | some b =>
    dsimp only
    by_cases hc : Consistent b
    · rw [validateAndFixBalances_consistent hc]
      refine unseen_attempt (fun _ ht => ht) fun t ht => ?_
      rw [hread ht, hb]
      dsimp only
      rw [releaseInTx_eq]
      by_cases ha : AcceptsRelease b amount
      · rw [if_pos ha]
        refine unseen_attempt (fun t ht => ?_) fun _ _ => trivial
        have hsame : afterRelease b amount = b := by simp [afterRelease, h b hb hc ha]
        have hrow := (hread ht).trans hb
        rw [OrderWrite.exec, hsame, Store.setFunds_eq_setBalance hrow rfl,
          view_setBalance_self hrow, ht]
      · rw [if_neg ha]
        trivial
    · obtain ⟨e, he⟩ := validateAndFixBalances_inconsistent hc
      rw [he]
      trivial

lemma updateOrderStatusRefunded_unseen {event : OrderRefundedEvent}
    (h : RefundSpent network event messageHash s) :
    Unseen OrderWrite.exec view (view s) (updateOrderStatusRefunded network event messageHash) := by
  refine unseen_attempt (fun _ ht => ht) fun t ht => ?_
  have hchange : (t.paymentOrderOf messageHash network).toOption.bind
      (event.change network messageHash) = none :=
    (h.of_view ht.symm).no_change fun p hp => if_pos hp
  split
  · trivial
  dsimp only
  rw [hchange]
  refine unseen_attempt (fun _ ht => ht) fun t ht => ?_
  split_ifs
  · trivial
  split
  · exact commitGatewayEvent_unseen h _ _ _ _
  rename_i provider currency amount hedges
  rw [eq_of_view (fun s => view_balanceEdges s (event.gatewayEvent network)) ht] at hedges
  refine unseen_bind (releaseReservedBalance_unseen fun b hb => ?_) fun _ =>
    commitGatewayEvent_unseen h _ _ _ _
  exact h.balances provider currency amount b hedges hb

lemma updateOrderStatusSettled_unseen {event : OrderSettledEvent}
    (h : SettlementSpent network event messageHash s) :
    Unseen OrderWrite.exec view (view s) (updateOrderStatusSettled network event messageHash) := by
  refine unseen_attempt (fun _ ht => ht) fun t ht => ?_
  split
  · trivial
  cases hid : event.splitOrderId with
  | none => trivial
  | some id =>
    have hspent := h id hid
    have hchange : (t.paymentOrderOf messageHash network).toOption.bind
        (event.change messageHash) = none :=
      (hspent.of_view ht.symm).no_change fun p hp => if_pos hp
    dsimp only
    rw [hchange]
    refine unseen_attempt (fun _ ht => ht) fun t ht => ?_
    split
    · exact commitGatewayEvent_unseen hspent _ _ _ _
    rename_i provider currency amount hedges
    rw [eq_of_view (fun s => view_balanceEdges s (event.gatewayEvent network id)) ht] at hedges
    refine unseen_attempt (fun _ ht => ht) fun t ht => ?_
    split
    · exact commitGatewayEvent_unseen hspent _ _ _ _
    rename_i b hb
    have hread : ∀ {t}, view t = view s →
        t.balance provider currency = s.balance provider currency :=
      eq_of_view fun s => view_balance s provider currency
    rw [hread ht] at hb
    refine unseen_ignore (fun t ht => ?_) (commitGatewayEvent_unseen hspent _ _ _ _)
    rw [OrderWrite.exec, settle_of_settlesNothing (hspent.balances _ _ _ b hedges hb),
      view_setBalance_self ((hread ht).trans hb), ht]

lemma eq_of_hideOrder {o' : LockPaymentOrder} (h : hideOrder o' = hideOrder o) :
    o.messageHash = o'.messageHash ∧ o.token = o'.token := by
  simp only [hideOrder, LockPaymentOrder.mk.injEq] at h
  simp [h]

lemma exists_lockOrdersWhere (ht : view t = view s) {orderIds : List String}
    (hkeep : ∀ o, keep (hideOrder o) = keep o) (ho : o ∈ t.lockOrdersWhere orderIds keep) :
    ∃ o' ∈ s.lockOrdersWhere orderIds keep, hideOrder o' = hideOrder o := by
  refine List.mem_map.1 ?_
  rw [← view_lockOrdersWhere s orderIds hkeep, ← ht, view_lockOrdersWhere t orderIds hkeep]
  exact List.mem_map_of_mem ho

lemma exists_lockOrderOf (ht : view t = view s)
    (ho : only (t.lockOrders.select fun o => o.gatewayId = orderId) = .ok o) :
    ∃ o', only (s.lockOrders.select fun o => o.gatewayId = orderId) = .ok o' ∧
      hideOrder o' = hideOrder o := by
  have hselect : ∀ s : Store, (view s).lockOrders.select (fun o => o.gatewayId = orderId) =
      (s.lockOrders.select fun o => o.gatewayId = orderId).map hideOrder :=
    fun s => view_select s fun _ => rfl
  have hmap := hselect s
  rw [← ht, hselect t, only_eq_ok_iff.1 ho] at hmap
  obtain ⟨o', hs, heq⟩ := List.map_eq_singleton_iff.1 hmap.symm
  exact ⟨o', only_eq_ok_iff.2 hs, heq⟩

end Repetitions

section Runs

def Harmless (s : Store) : Delivery → Prop
  | .processSettled network event _ =>
    ∀ o ∈ s.lockOrdersWhere [event.orderId] awaitsSettlement,
      SettlementSpent network event o.messageHash s
  | .processRefunded event _ =>
    ∀ o ∈ s.lockOrdersWhere [event.orderId] awaitsRefund,
      RefundSpent o.token.network event o.messageHash s
  | .handleSettled network event =>
    ∀ o, only (s.lockOrders.select fun o => o.gatewayId = event.orderId) = .ok o →
      SettlementSpent network event o.messageHash s
  | .handleRefunded network event =>
    ∀ o, only (s.lockOrders.select fun o => o.gatewayId = event.orderId) = .ok o →
      RefundSpent network event o.messageHash s

lemma handleGatewayEvent_unseen
    (h : ∀ o, only (s.lockOrders.select fun o => o.gatewayId = orderId) = .ok o →
      Unseen OrderWrite.exec view (view s) (update o.messageHash)) :
    Unseen OrderWrite.exec view (view s) (handleGatewayEvent orderId failure update) := by
  refine unseen_attempt (fun _ ht => ht) fun t ht => ?_
  split
  · trivial
  rename_i o ho
  obtain ⟨o', ho', heq⟩ := exists_lockOrderOf ht ho
  refine unseen_bind ?_ fun r => by cases r <;> trivial
  rw [(eq_of_hideOrder heq).1]
  exact h o' ho'

theorem delivery_unseen {d : Delivery} (h : Harmless s d) :
    Unseen OrderWrite.exec view (view s) d.program := by
  cases d with
  | processSettled network event schedule | processRefunded event schedule =>
    refine unseen_attempt (fun _ ht => ht) fun t ht => ?_
    refine unseen_bind (unseen_interleave schedule fun p hp => ?_) fun _ => trivial
    obtain ⟨o, ho, hp⟩ := List.mem_filterMap.1 hp
    obtain ⟨e, he, rfl⟩ := Option.map_eq_some_iff.1 hp
    obtain ⟨o', ho', heq⟩ := exists_lockOrdersWhere ht (fun _ => rfl) ho
    obtain ⟨-, he⟩ := Option.ite_none_right_eq_some.1 he
    obtain rfl := Option.some.inj he
    obtain ⟨hid, hhash⟩ := eq_of_hideOrder heq
    first
    | rw [hid]
      exact unseen_bind (updateOrderStatusSettled_unseen (h o' ho')) fun _ => trivial
    | rw [hid, hhash]
      exact unseen_bind (updateOrderStatusRefunded_unseen (h o' ho')) fun _ => trivial
  | handleSettled network event =>
    exact handleGatewayEvent_unseen fun o ho => updateOrderStatusSettled_unseen (h o ho)
  | handleRefunded network event =>
    exact handleGatewayEvent_unseen fun o ho => updateOrderStatusRefunded_unseen (h o ho)

def HarmlessReplays (seen : List GatewayMessage) (s : Store) : List Delivery → Prop
  | [] => True
  | d :: ds =>
    if d.message ∈ seen then Harmless s d ∧ HarmlessReplays seen (d.deliver s) ds
    else HarmlessReplays (d.message :: seen) (d.deliver s) ds

structure Observed where
  lockOrders : List (ℕ × LockOrderStatus)
  paymentOrders : List (ℕ × PaymentOrderStatus × ℚ)
  balances : List (String × String × Balance)
  deriving DecidableEq

def observed (s : Store) : Observed where
  lockOrders := s.lockOrders.rows.map fun o => (o.id, o.status)
  paymentOrders := s.paymentOrders.rows.map fun p => (p.id, p.status, p.percentSettled)
  balances := s.balances.rows.map fun r => (r.provider, r.currency, r.balance)

lemma view_observed (s : Store) : observed s = observed (view s) := by
  rw [observed, observed, view_lockOrders, view_balances, Table.map_rows, Table.map_rows,
    List.map_map, List.map_map]
  rfl

lemma view_deliverAll {seen : List GatewayMessage} {ds : List Delivery}
    (h : HarmlessReplays seen s ds) (hst : view s = view t) :
    view (Delivery.deliverAll s ds) = view (Delivery.deliverAll t (Delivery.once seen ds)) := by
  -- along the deliveries: a repetition moves the left run only, and not visibly
  induction ds generalizing seen s t with
  | nil => exact hst
  | cons d ds ih =>
    rw [HarmlessReplays] at h
    rw [Delivery.once]
    split_ifs at h ⊢ with hseen
    · exact ih h.2 (((delivery_unseen h.1).after rfl).trans hst)
    · exact ih h ((delivery_blind d).after [] hst)

theorem observed_deliverAll_once {s : Store} {ds : List Delivery} (h : HarmlessReplays [] s ds) :
    observed (Delivery.deliverAll s ds) =
      observed (Delivery.deliverAll s (Delivery.once [] ds)) :=
  eq_of_view view_observed (view_deliverAll h rfl)

def received (schedule : List ℕ) (ds : List Delivery) (faults : List Bool) (s : Store) : Store :=
  let p := interleave schedule (ds.map fun d => d.program.bind fun _ => ret ())
  Run.exec OrderWrite.exec s (p.history OrderWrite.exec faults s)

def validatedStore : Store :=
  { Sample.store with
    lockOrders := .single { Sample.lockOrder with status := .validated }
    balances := .single ⟨"p1", "NGN", ⟨60, 40, 100⟩, true, 0⟩
    paymentOrders :=
      .single { Sample.paymentOrder 1 with
          status := .pending, messageHash := some "m1", gatewayId := some "g1" } }

def settlement (settlePercent : ℚ) : OrderSettledEvent := ⟨2, "0x2", some 1, "g1", settlePercent⟩

theorem observed_full_settlement_twice :
    HarmlessReplays [] validatedStore
        [.processSettled "base" (settlement 100000) [], .processSettled "base" (settlement 100000) []] ∧
      observed (Delivery.deliverAll validatedStore
          [.processSettled "base" (settlement 100000) [],
            .processSettled "base" (settlement 100000) []]) =
        observed (Delivery.deliverAll validatedStore (Delivery.once []
          [.processSettled "base" (settlement 100000) [],
            .processSettled "base" (settlement 100000) []])) := by
  have hharmless : HarmlessReplays [] validatedStore
      [.processSettled "base" (settlement 100000) [],
        .processSettled "base" (settlement 100000) []] := by
    rw [HarmlessReplays, if_neg (by decide +kernel), HarmlessReplays, if_pos (by decide +kernel)]
    refine ⟨fun o ho => ?_, trivial⟩
    have hnone : (Delivery.deliver (.processSettled "base" (settlement 100000) [])
        validatedStore).lockOrdersWhere ["g1"] awaitsSettlement = [] := by decide +kernel
    rw [show (settlement 100000).orderId = "g1" from rfl, hnone] at ho
    cases ho
  exact ⟨hharmless, observed_deliverAll_once hharmless⟩

theorem half_settlement_counted_twice :
    observed (Delivery.deliverAll validatedStore
        [.processSettled "base" (settlement 50000) [], .processSettled "base" (settlement 50000) []]) ≠
      observed (Delivery.deliverAll validatedStore (Delivery.once []
        [.processSettled "base" (settlement 50000) [],
          .processSettled "base" (settlement 50000) []])) ∧
    observed (Delivery.deliverAll validatedStore
        [.handleSettled "base" (settlement 100000), .handleSettled "base" (settlement 100000)]) ≠
      observed (Delivery.deliverAll validatedStore (Delivery.once []
        [.handleSettled "base" (settlement 100000), .handleSettled "base" (settlement 100000)])) := by
  decide +kernel

end Runs

end Stablenode.Replay
