import Stablenode.CreationRules
import Stablenode.GatewayIndexing

/-! The two ways of a log of the gateway: the insight webhook (controllers/index.go) and
`indexGatewayByTransaction`. -/
namespace Stablenode

open Proc

section Handlers

def OrderCreatedParams.webhookEvent (codec : AddressCodec) (params : OrderCreatedParams)
    (blockNumber : ℕ) (txHash : String) : OrderCreatedEvent where
  blockNumber := blockNumber
  txHash := txHash
  token := codec.hex (codec.hexToAddress params.token)
  amount := params.amount
  protocolFee := params.protocolFee
  orderId := params.orderId
  rate := Decimal.div params.rate 100
  messageHash := params.messageHash
  sender := codec.hex (codec.hexToAddress params.sender)

def OrderSettledParams.webhookEvent (params : OrderSettledParams) (blockNumber : ℕ)
    (txHash : String) : OrderSettledEvent where
  blockNumber := blockNumber
  txHash := txHash
  splitOrderId := parseSplitOrderId params.splitOrderId
  orderId := params.orderId
  settlePercent := params.settlePercent

def OrderRefundedParams.webhookEvent (params : OrderRefundedParams) (blockNumber : ℕ)
    (txHash : String) : OrderRefundedEvent where
  blockNumber := blockNumber
  txHash := txHash
  orderId := params.orderId

def Indexer.handleOrderCreatedEvent (I : Indexer) (schedule : IndexingSchedule)
    (event : OrderCreatedEvent) : CreationProgram Unit :=
  I.processCreatedOrders schedule.created schedule.background [event.txHash]
    (lastByKey OrderCreatedEvent.txHash [event])

def Indexer.handleNewEvent (I : Indexer) (codec : AddressCodec) (schedule : IndexingSchedule)
    (blockNumber : ℕ) (txHash : String) : DecodedLog → CreationProgram Unit
  | .orderCreated params =>
    I.handleOrderCreatedEvent schedule (params.webhookEvent codec blockNumber txHash)
  | .orderSettled params =>
    ((handleOrderSettledEvent I.network (params.webhookEvent blockNumber txHash)).discard).mapLabel
      .order
  | .orderRefunded params =>
    ((handleOrderRefundedEvent I.network
      (params.webhookEvent blockNumber txHash)).discard).mapLabel .order
  | .other => ret ()

end Handlers

namespace WebhookAgreement

open GatewayIndexing

inductive UpdateCall where
  | createLockPaymentOrder (event : OrderCreatedEvent)
  | updateOrderStatusSettled (network : String) (event : OrderSettledEvent) (messageHash : String)
  | updateOrderStatusRefunded (network : String) (event : OrderRefundedEvent)
    (messageHash : String)
  deriving DecidableEq

def UpdateCall.program (I : Indexer) (background : String → List ℕ) :
    UpdateCall → CreationProgram Unit
  | createLockPaymentOrder event => I.createLockPaymentOrder (background event.orderId) event
  | updateOrderStatusSettled network event messageHash =>
    ((Stablenode.updateOrderStatusSettled network event messageHash).discard).mapLabel .order
  | updateOrderStatusRefunded network event messageHash =>
    ((Stablenode.updateOrderStatusRefunded network event messageHash).discard).mapLabel .order

def ordersOf (s : Store) (orderId : String) : List LockPaymentOrder :=
  s.lockOrders.select fun o => o.gatewayId = orderId

def webhookCalls (I : Indexer) (codec : AddressCodec) (blockNumber : ℕ) (txHash : String)
    (s : Store) : DecodedLog → List UpdateCall
  | .orderCreated params =>
    [.createLockPaymentOrder (params.webhookEvent codec blockNumber txHash)]
  | .orderSettled params =>
    (only (ordersOf s params.orderId)).toOption.toList.map fun o =>
      .updateOrderStatusSettled I.network (params.webhookEvent blockNumber txHash) o.messageHash
  | .orderRefunded params =>
    (only (ordersOf s params.orderId)).toOption.toList.map fun o =>
      .updateOrderStatusRefunded I.network (params.webhookEvent blockNumber txHash) o.messageHash
  | .other => []

def indexerCalls (I : Indexer) (codec : AddressCodec) (tx : GatewayTransaction) (s : Store) :
    List UpdateCall :=
  ((ownHandOffs OrderCreatedEvent.orderId (tx.orderCreatedEvents codec)).map fun p =>
      .createLockPaymentOrder p.1) ++
    ((awaitedHandOffs awaitsSettlement OrderSettledEvent.orderId tx.orderSettledEvents s).map
      fun p => .updateOrderStatusSettled I.network p.2.1 p.1.messageHash) ++
    (awaitedHandOffs awaitsRefund OrderRefundedEvent.orderId tx.orderRefundedEvents s).map
      fun p => .updateOrderStatusRefunded p.1.token.network p.2.1 p.1.messageHash

def LacksText (txHash : String) : DecodedLog → Prop
  | .orderCreated params =>
    txHash = "" ∨ params.token = "" ∨ params.orderId = "" ∨ params.messageHash = "" ∨
      params.sender = ""
  | .orderSettled params =>
    txHash = "" ∨ params.splitOrderId = "" ∨ params.orderId = "" ∨ params.liquidityProvider = ""
  | .orderRefunded params => txHash = "" ∨ params.orderId = ""
  | .other => False

instance (txHash : String) : DecidablePred (LacksText txHash)
  | .orderCreated _ => inferInstanceAs (Decidable (_ ∨ _))
  | .orderSettled _ => inferInstanceAs (Decidable (_ ∨ _))
  | .orderRefunded _ => inferInstanceAs (Decidable (_ ∨ _))
  | .other => inferInstanceAs (Decidable False)

def waiting (s : Store) (txHash : String) (log : DecodedLog) : List LockPaymentOrder :=
  if LacksText txHash log then []
  else
    match log with
    | .orderSettled params => s.lockOrdersWhere [params.orderId] awaitsSettlement
    | .orderRefunded params => s.lockOrdersWhere [params.orderId] awaitsRefund
    | _ => []

section Events

variable {ε : Type} {orderId : ε → String} {e : ε} {s : Store}
  {keep : LockPaymentOrder → Option PaymentOrder → Bool}

lemma pointerOf_singleton (id : String) :
    pointerOf orderId [e] id = if orderId e = id then some (e, 0) else none :=
  lastByKey_concat [] (e, 0) id

lemma ownHandOffs_singleton : ownHandOffs orderId [e] = [(e, 0)] := by
  simp [ownHandOffs, pointerOf_singleton]

lemma awaitedHandOffs_nil : awaitedHandOffs keep orderId [] s = [] := by
  simp [awaitedHandOffs, pointerOf]

lemma awaitedHandOffs_singleton : awaitedHandOffs keep orderId [e] s =
    (s.lockOrdersWhere [orderId e] keep).map fun o => (o, (e, 0)) := by
  have hfound : ∀ o ∈ s.lockOrdersWhere [orderId e] keep,
      (pointerOf orderId [e] o.gatewayId).map (fun p => (o, p)) = some (o, (e, 0)) := by
    intro o ho
    have hid : o.gatewayId = orderId e := by simpa using mem_lockOrdersWhere ho
    rw [pointerOf_singleton, if_pos hid.symm]
    rfl
  rw [awaitedHandOffs, List.map_singleton, List.filterMap_congr hfound]
  exact congrFun List.filterMap_eq_map _

end Events

variable {lacks : Prop} {keep : LockPaymentOrder → Option PaymentOrder → Bool}

section Calls

variable {I : Indexer} {codec : AddressCodec} {blockNumber : ℕ} {txHash : String} {s : Store}

lemma filterMap_readLogs {β : Type} (f : DecodedLog → Option β) (log : DecodedLog) :
    (GatewayTransaction.readLogs ⟨blockNumber, txHash, [log]⟩).filterMap f =
      if txHash = "" then [] else (f log).toList := by
  rw [GatewayTransaction.readLogs]
  split_ifs
  · rfl
  · cases hf : f log <;> simp [hf]

lemma toList_event {β : Type} {log : DecodedLog} [Decidable lacks]
    (hlacks : LacksText txHash log ↔ txHash = "" ∨ lacks) (event : β) :
    (if txHash = "" then [] else (if lacks then none else some event).toList) =
      if LacksText txHash log then [] else [event] := by
  by_cases hhash : txHash = ""
  · rw [if_pos hhash, if_pos (hlacks.2 (Or.inl hhash))]
  rw [if_neg hhash]
  by_cases hempty : lacks
  · rw [if_pos hempty, if_pos (hlacks.2 (Or.inr hempty))]
    rfl
  · rw [if_neg hempty, if_neg (hlacks.not.2 (not_or.2 ⟨hhash, hempty⟩))]
    rfl

variable (codec blockNumber txHash) in
lemma orderCreatedEvents_singleton (log : DecodedLog) :
    GatewayTransaction.orderCreatedEvents ⟨blockNumber, txHash, [log]⟩ codec =
      match log with
      | .orderCreated params =>
        if LacksText txHash log then [] else [params.webhookEvent codec blockNumber txHash]
      | _ => [] := by
  rw [GatewayTransaction.orderCreatedEvents, filterMap_readLogs]
  cases log with
  | orderCreated params => exact toList_event Iff.rfl _
  | _ => exact ite_self _

variable (blockNumber txHash) in
lemma orderSettledEvents_singleton (log : DecodedLog) :
    GatewayTransaction.orderSettledEvents ⟨blockNumber, txHash, [log]⟩ =
      match log with
      | .orderSettled params =>
        if LacksText txHash log then [] else [params.webhookEvent blockNumber txHash]
      | _ => [] := by
  rw [GatewayTransaction.orderSettledEvents, filterMap_readLogs]
  cases log with
  | orderSettled params => exact toList_event Iff.rfl _
  | _ => exact ite_self _

variable (blockNumber txHash) in
lemma orderRefundedEvents_singleton (log : DecodedLog) :
    GatewayTransaction.orderRefundedEvents ⟨blockNumber, txHash, [log]⟩ =
      match log with
      | .orderRefunded params =>
        if LacksText txHash log then [] else [params.webhookEvent blockNumber txHash]
      | _ => [] := by
  rw [GatewayTransaction.orderRefundedEvents, filterMap_readLogs]
  cases log with
  | orderRefunded params => exact toList_event Iff.rfl _
  | _ => exact ite_self _

lemma indexerCalls_orderCreated (params : OrderCreatedParams) :
    indexerCalls I codec ⟨blockNumber, txHash, [.orderCreated params]⟩ s =
      if LacksText txHash (.orderCreated params) then []
      else [.createLockPaymentOrder (params.webhookEvent codec blockNumber txHash)] := by
  rw [indexerCalls, orderCreatedEvents_singleton, orderSettledEvents_singleton,
    orderRefundedEvents_singleton, awaitedHandOffs_nil, awaitedHandOffs_nil]
  split_ifs
  · rfl
  · rw [ownHandOffs_singleton]
    rfl

lemma indexerCalls_orderSettled (params : OrderSettledParams) :
    indexerCalls I codec ⟨blockNumber, txHash, [.orderSettled params]⟩ s =
      (waiting s txHash (.orderSettled params)).map fun o =>
        .updateOrderStatusSettled I.network (params.webhookEvent blockNumber txHash)
          o.messageHash := by
  rw [indexerCalls, orderCreatedEvents_singleton, orderSettledEvents_singleton,
    orderRefundedEvents_singleton, awaitedHandOffs_nil, waiting]
  split_ifs
  · rw [awaitedHandOffs_nil]
    rfl
  · rw [awaitedHandOffs_singleton, List.map_map, List.map_nil, List.append_nil]
    rfl

lemma indexerCalls_orderRefunded (params : OrderRefundedParams) :
    indexerCalls I codec ⟨blockNumber, txHash, [.orderRefunded params]⟩ s =
      (waiting s txHash (.orderRefunded params)).map fun o =>
        .updateOrderStatusRefunded o.token.network (params.webhookEvent blockNumber txHash)
          o.messageHash := by
  rw [indexerCalls, orderCreatedEvents_singleton, orderSettledEvents_singleton,
    orderRefundedEvents_singleton, awaitedHandOffs_nil, waiting]
  split_ifs
  · rw [awaitedHandOffs_nil]
    rfl
  · rw [awaitedHandOffs_singleton, List.map_map]
    rfl

lemma indexerCalls_other : indexerCalls I codec ⟨blockNumber, txHash, [.other]⟩ s = [] := by
  rw [indexerCalls, orderCreatedEvents_singleton, orderSettledEvents_singleton,
    orderRefundedEvents_singleton, awaitedHandOffs_nil, awaitedHandOffs_nil]
  rfl

end Calls

section Effects

variable {I : Indexer} {codec : AddressCodec} {schedule : IndexingSchedule} {blockNumber : ℕ}
  {txHash : String} {s : Store}

lemma after_order {α : Type} (p : OrderProgram α) (s : Store) :
    (p.mapLabel CreationWrite.order).after CreationWrite.exec s = p.after OrderWrite.exec s :=
  after_mapLabel (fun _ => rfl) p s

def afterCalls (I : Indexer) (schedule : IndexingSchedule) (order : List ℕ)
    (calls : List UpdateCall) (s : Store) : Store :=
  (interleave order (calls.map (UpdateCall.program I schedule.background))).after
    CreationWrite.exec s

lemma afterCalls_of_length_le_one {calls : List UpdateCall} (h : calls.length ≤ 1)
    (order order' : List ℕ) :
    afterCalls I schedule order calls s = afterCalls I schedule order' calls s := by
  match calls, h with
  | [], _ => simp only [afterCalls, List.map_nil, interleave_nil]
  | [call], _ => simp only [afterCalls, List.map_singleton, interleave_singleton]

lemma afterCalls_mapLabel {α : Type} (order : List ℕ) (xs : List α) (call : α → UpdateCall)
    (body : α → OrderProgram Unit)
    (hcall : ∀ x, (call x).program I schedule.background = (body x).mapLabel .order) :
    afterCalls I schedule order (xs.map call) s =
      (interleave order (xs.map body)).after OrderWrite.exec s := by
  have hprograms : (xs.map call).map (UpdateCall.program I schedule.background) =
      (xs.map body).map (mapLabel .order) := by
    rw [List.map_map, List.map_map]
    exact List.map_congr_left fun x _ => hcall x
  rw [afterCalls, hprograms, ← mapLabel_interleave, after_order]

lemma after_handleGatewayEvent (orderId failure : String)
    (update : String → OrderProgram (Except String Unit)) :
    (handleGatewayEvent orderId failure update).after OrderWrite.exec s =
      (interleave [] ((only (ordersOf s orderId)).toOption.toList.map fun o =>
        (update o.messageHash).discard)).after OrderWrite.exec s := by
  have hread : OrderWrite.read.exec s = s := rfl
  rw [handleGatewayEvent, after_attempt, hread, ordersOf]
  cases only (s.lockOrders.select fun o => o.gatewayId = orderId) with
  | error e => rfl
  | ok o =>
    simp only [Except.toOption, Option.toList_some, List.map_singleton, interleave_singleton,
      after_discard, after_bind]
    cases (update o.messageHash).result OrderWrite.exec [] s <;> rfl

lemma after_handleNewEvent (log : DecodedLog) :
    (I.handleNewEvent codec schedule blockNumber txHash log).after CreationWrite.exec s =
      afterCalls I schedule [] (webhookCalls I codec blockNumber txHash s log) s := by
  cases log with
  | orderCreated params =>
    rw [Indexer.handleNewEvent, Indexer.handleOrderCreatedEvent, Indexer.processCreatedOrders,
      webhookCalls, afterCalls]
    have hfound : [(params.webhookEvent codec blockNumber txHash).txHash].filterMap
        (lastByKey OrderCreatedEvent.txHash [params.webhookEvent codec blockNumber txHash]) =
          [params.webhookEvent codec blockNumber txHash] :=
      filterMap_lastByKey_keys (List.nodup_singleton _)
    rw [hfound, List.map_singleton, List.map_singleton, interleave_singleton,
      interleave_singleton]
    rfl
  | orderSettled params =>
    rw [Indexer.handleNewEvent, after_order, after_discard,
      handleOrderSettledEvent, after_handleGatewayEvent, webhookCalls]
    exact (afterCalls_mapLabel _ _ _ _ fun _ => rfl).symm
  | orderRefunded params =>
    rw [Indexer.handleNewEvent, after_order, after_discard,
      handleOrderRefundedEvent, after_handleGatewayEvent, webhookCalls]
    exact (afterCalls_mapLabel _ _ _ _ fun _ => rfl).symm
  | other => rfl

lemma after_processCreated (events : List OrderCreatedEvent) (order : List ℕ) :
    Proc.after CreationWrite.exec (if events = [] then ret ()
      else I.processCreatedOrders order schedule.background
        (events.map OrderCreatedEvent.orderId) (lastByKey OrderCreatedEvent.orderId events)) s =
      afterCalls I schedule order ((ownHandOffs OrderCreatedEvent.orderId events).map fun p =>
        .createLockPaymentOrder p.1) s := by
  rw [afterCalls, List.map_map]
  by_cases hnil : events = []
  · subst hnil
    rw [if_pos rfl, ownHandOffs, List.map_nil, List.filterMap_nil, List.map_nil, interleave_nil]
  · rw [if_neg hnil, processCreatedOrders_eq]
    rfl

lemma after_processAwaited {ε : Type} {orderId : ε → String} {events : List ε} {order : List ℕ}
    {body : LockPaymentOrder × ε × ℕ → OrderProgram Unit}
    (process : OrderProgram (Except String Unit))
    (hprocess : process.after OrderWrite.exec s = (interleave order
      ((awaitedHandOffs keep orderId events s).map body)).after OrderWrite.exec s) :
    Proc.after CreationWrite.exec (if events = [] then ret ()
      else (process.discard).mapLabel .order) s = (interleave order
        ((awaitedHandOffs keep orderId events s).map body)).after OrderWrite.exec s := by
  split_ifs with hnil
  · rw [hnil, awaitedHandOffs_nil, List.map_nil, interleave_nil, after_ret, after_ret]
  · rw [after_order, after_discard, hprocess]

lemma after_indexGatewayByTransaction (log : DecodedLog) :
    ∃ order, (I.indexGatewayByTransaction codec schedule ⟨blockNumber, txHash, [log]⟩).after
        CreationWrite.exec s =
      afterCalls I schedule order (indexerCalls I codec ⟨blockNumber, txHash, [log]⟩ s) s := by
  have hsettled (t : Store) (events : List OrderSettledEvent) := after_processAwaited (s := t)
    (processSettledOrders I.network (events.map OrderSettledEvent.orderId)
      (lastByKey OrderSettledEvent.orderId events) schedule.settled)
    (by rw [processSettledOrders, after_attempt, after_bind, after_ret, goroutines_eq]; rfl)
  have hrefunded (t : Store) (events : List OrderRefundedEvent) := after_processAwaited (s := t)
    (processRefundedOrders (events.map OrderRefundedEvent.orderId)
      (lastByKey OrderRefundedEvent.orderId events) schedule.refunded)
    (by rw [processRefundedOrders, after_attempt, after_bind, after_ret, goroutines_eq]; rfl)
  have hnone : ∀ order t, afterCalls I schedule order [] t = t := by
    intro order t
    rw [afterCalls, List.map_nil, interleave_nil, after_ret]
  rw [Indexer.indexGatewayByTransaction, indexerCalls]
  simp only [after_bind, after_ret, after_processCreated, hsettled, hrefunded,
    orderCreatedEvents_singleton, orderSettledEvents_singleton, orderRefundedEvents_singleton]
  cases log with
  | orderCreated params =>
    refine ⟨schedule.created, ?_⟩
    simp only [awaitedHandOffs_nil, List.map_nil, interleave_nil, after_ret, List.append_nil]
  | orderSettled params =>
    refine ⟨schedule.settled, ?_⟩
    simp only [ownHandOffs, awaitedHandOffs_nil, List.map_nil, List.filterMap_nil, interleave_nil,
      after_ret, List.append_nil, List.nil_append, hnone]
    exact (afterCalls_mapLabel _ _ _ _ fun _ => rfl).symm
  | orderRefunded params =>
    refine ⟨schedule.refunded, ?_⟩
    simp only [ownHandOffs, awaitedHandOffs_nil, List.map_nil, List.filterMap_nil, interleave_nil,
      after_ret, List.nil_append, hnone]
    exact (afterCalls_mapLabel _ _ _ _ fun _ => rfl).symm
  | other =>
    refine ⟨[], ?_⟩
    simp only [ownHandOffs, awaitedHandOffs_nil, List.map_nil, List.filterMap_nil, interleave_nil,
      after_ret, List.nil_append, hnone]

end Effects

section Agreement

variable {I : Indexer} {codec : AddressCodec} {blockNumber : ℕ} {txHash : String} {s : Store}

structure SameDelivery (I : Indexer) (codec : AddressCodec) (blockNumber : ℕ) (txHash : String)
    (s : Store) (log : DecodedLog) : Prop where
  calls : indexerCalls I codec ⟨blockNumber, txHash, [log]⟩ s =
    webhookCalls I codec blockNumber txHash s log
  rows : ∀ schedule : IndexingSchedule,
    let indexed := (I.indexGatewayByTransaction codec schedule ⟨blockNumber, txHash, [log]⟩).after
      CreationWrite.exec s
    let delivered := (I.handleNewEvent codec schedule blockNumber txHash log).after
      CreationWrite.exec s
    indexed.lockOrders = delivered.lockOrders ∧ indexed.paymentOrders = delivered.paymentOrders ∧
      indexed.balances = delivered.balances

def Agrees (I : Indexer) (txHash : String) (s : Store) : DecodedLog → Prop
  | .orderCreated params => ¬ LacksText txHash (.orderCreated params)
  | .orderSettled params =>
    (waiting s txHash (.orderSettled params)).length =
      if (ordersOf s params.orderId).length = 1 then 1 else 0
  | .orderRefunded params =>
    ((waiting s txHash (.orderRefunded params)).length =
      if (ordersOf s params.orderId).length = 1 then 1 else 0) ∧
      ∀ o ∈ waiting s txHash (.orderRefunded params), o.token.network = I.network
  | .other => True

lemma mem_ordersOf {orderId : String} {o : LockPaymentOrder} [Decidable lacks]
    (h : o ∈ if lacks then [] else s.lockOrdersWhere [orderId] keep) : o ∈ ordersOf s orderId := by
  split_ifs at h
  · cases h
  have hid : o.gatewayId = orderId := by simpa using mem_lockOrdersWhere h
  obtain ⟨o', ho', hrow⟩ := List.mem_flatMap.1 h
  obtain ⟨-, -, rfl⟩ := List.mem_map.1 hrow
  exact List.mem_filter.2 ⟨(List.mem_filter.1 ho').1, decide_eq_true hid⟩

lemma map_eq_map_only_iff {ws os : List LockPaymentOrder}
    {call call' : LockPaymentOrder → UpdateCall} (hws : ∀ o ∈ ws, o ∈ os) :
    ws.map call = (only os).toOption.toList.map call' ↔
      (ws.length = if os.length = 1 then 1 else 0) ∧ ∀ o ∈ ws, call o = call' o := by
  match os with
  | [] =>
    obtain rfl : ws = [] := List.eq_nil_iff_forall_not_mem.2 fun o ho => by simpa using hws o ho
    simp [only, Except.toOption]
  | [o] =>
    simp only [only, Except.toOption, Option.toList_some, List.map_singleton, List.length_singleton,
      if_true]
    constructor
    · intro h
      obtain ⟨w, rfl, hw⟩ := List.map_eq_singleton_iff.1 h
      obtain rfl : w = o := by simpa using hws w
      exact ⟨rfl, by simpa using hw⟩
    · rintro ⟨hlength, hcall⟩
      obtain ⟨w, rfl⟩ := List.length_eq_one_iff.1 hlength
      obtain rfl : w = o := by simpa using hws w
      simpa using hcall
  | _ :: _ :: _ =>
    simp only [only, Except.toOption, Option.toList_none, List.map_nil, List.map_eq_nil_iff,
      List.length_cons]
    constructor
    · rintro rfl
      simp
    · rintro ⟨hlength, -⟩
      simpa using hlength

lemma indexerCalls_eq_iff (log : DecodedLog) :
    indexerCalls I codec ⟨blockNumber, txHash, [log]⟩ s =
      webhookCalls I codec blockNumber txHash s log ↔ Agrees I txHash s log := by
  cases log with
  | orderCreated params =>
    rw [indexerCalls_orderCreated, webhookCalls, Agrees]
    split_ifs with hlacks <;> simp [hlacks]
  | orderSettled params =>
    have hwaiting : ∀ o ∈ waiting s txHash (.orderSettled params), o ∈ ordersOf s params.orderId :=
      fun _ => mem_ordersOf
    rw [indexerCalls_orderSettled, webhookCalls, map_eq_map_only_iff hwaiting, Agrees]
    exact and_iff_left fun _ _ => rfl
  | orderRefunded params =>
    have hwaiting : ∀ o ∈ waiting s txHash (.orderRefunded params), o ∈ ordersOf s params.orderId :=
      fun _ => mem_ordersOf
    rw [indexerCalls_orderRefunded, webhookCalls, map_eq_map_only_iff hwaiting, Agrees]
    refine and_congr_right fun _ => forall₂_congr fun o _ => ?_
    simp
  | other =>
    rw [indexerCalls_other, webhookCalls, Agrees]
    simp

lemma length_webhookCalls (log : DecodedLog) :
    (webhookCalls I codec blockNumber txHash s log).length ≤ 1 := by
  have hone : ∀ os : List LockPaymentOrder, (only os).toOption.toList.length ≤ 1 := by
    intro os
    cases (only os).toOption <;> simp
  cases log with
  | orderCreated params => exact le_rfl
  | orderSettled params | orderRefunded params =>
    rw [webhookCalls, List.length_map]
    exact hone _
  | other => exact Nat.zero_le 1

theorem sameDelivery_iff_agrees (I : Indexer) (codec : AddressCodec) (blockNumber : ℕ)
    (txHash : String) (s : Store) (log : DecodedLog) :
    SameDelivery I codec blockNumber txHash s log ↔ Agrees I txHash s log := by
  constructor
  · intro h
    exact (indexerCalls_eq_iff log).1 h.calls
  intro h
  have hcalls := (@indexerCalls_eq_iff I codec blockNumber txHash s log).2 h
  refine ⟨hcalls, fun schedule => ?_⟩
  obtain ⟨order, hindexed⟩ := @after_indexGatewayByTransaction I codec schedule blockNumber
    txHash s log
  have hsame : (I.indexGatewayByTransaction codec schedule ⟨blockNumber, txHash, [log]⟩).after
        CreationWrite.exec s =
      (I.handleNewEvent codec schedule blockNumber txHash log).after CreationWrite.exec s := by
    rw [hindexed, after_handleNewEvent, hcalls]
    exact afterCalls_of_length_le_one (length_webhookCalls log) order []
  simp only [hsame, and_self]

theorem processing_order_refunded_by_webhook_only :
    let schedule : IndexingSchedule := ⟨[], fun _ => [], [], []⟩
    let refund := DecodedLog.orderRefunded ⟨"g1"⟩
    (ordersOf Sample.store "g1").map LockPaymentOrder.status = [.processing] ∧
      indexerCalls Sample.indexer Sample.unaryCodec ⟨5, "0x5", [refund]⟩ Sample.store = [] ∧
      webhookCalls Sample.indexer Sample.unaryCodec 5 "0x5" Sample.store refund =
        [.updateOrderStatusRefunded "base" ⟨5, "0x5", "g1"⟩ "m1"] ∧
      (ordersOf ((Sample.indexer.indexGatewayByTransaction Sample.unaryCodec schedule
        ⟨5, "0x5", [refund]⟩).after CreationWrite.exec Sample.store) "g1").map
          LockPaymentOrder.status = [.processing] ∧
      (ordersOf ((Sample.indexer.handleNewEvent Sample.unaryCodec schedule 5 "0x5" refund).after
        CreationWrite.exec Sample.store) "g1").map LockPaymentOrder.status = [.refunded] ∧
      ¬ SameDelivery Sample.indexer Sample.unaryCodec 5 "0x5" Sample.store refund := by
  refine ⟨by decide +kernel, by decide +kernel, by decide +kernel, by decide +kernel,
    by decide +kernel, fun h => ?_⟩
  exact absurd h.calls (by decide +kernel)

end Agreement

end WebhookAgreement

end Stablenode
