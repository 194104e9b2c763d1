import Stablenode.EventDelivery
import Stablenode.LastByKey
import Stablenode.OrderCreation
import Stablenode.SettlementLog

/-! `indexGatewayByTransaction` (services/indexer/evm.go): events are collected by order id and
handed over. -/
namespace Stablenode

open Proc

structure OrderRefundedParams where
  orderId : String
  deriving DecidableEq

def OrderRefundedParams.event (params : OrderRefundedParams) (blockNumber : ℕ) (txHash : String) :
    Option OrderRefundedEvent :=
  if params.orderId = "" then none
  else some { blockNumber := blockNumber, txHash := txHash, orderId := params.orderId }

inductive DecodedLog where
  | orderCreated (params : OrderCreatedParams)
  | orderSettled (params : OrderSettledParams)
  | orderRefunded (params : OrderRefundedParams)
  | other
  deriving DecidableEq

structure GatewayTransaction where
  blockNumber : ℕ
  txHash : String
  logs : List DecodedLog
  deriving DecidableEq

namespace GatewayTransaction

variable (tx : GatewayTransaction)

def readLogs : List DecodedLog := if tx.txHash = "" then [] else tx.logs

def orderCreatedEvents (codec : AddressCodec) : List OrderCreatedEvent :=
  tx.readLogs.filterMap fun
    | .orderCreated params => params.event codec tx.blockNumber tx.txHash
    | _ => none

def orderSettledEvents : List OrderSettledEvent :=
  tx.readLogs.filterMap fun
    | .orderSettled params => params.event tx.blockNumber tx.txHash
    | _ => none

def orderRefundedEvents : List OrderRefundedEvent :=
  tx.readLogs.filterMap fun
    | .orderRefunded params => params.event tx.blockNumber tx.txHash
    | _ => none

end GatewayTransaction

structure EventCounts where
  orderCreated : ℕ
  orderSettled : ℕ
  orderRefunded : ℕ
  deriving DecidableEq

structure IndexingSchedule where
  created : List ℕ
  background : String → List ℕ
  settled : List ℕ
  refunded : List ℕ

def Indexer.indexGatewayByTransaction (I : Indexer) (codec : AddressCodec)
    (schedule : IndexingSchedule) (tx : GatewayTransaction) : CreationProgram EventCounts :=
  let created := tx.orderCreatedEvents codec
  let settled := tx.orderSettledEvents
  let refunded := tx.orderRefundedEvents
  let processCreated :=
    if created = [] then ret ()
    else I.processCreatedOrders schedule.created schedule.background
      (created.map OrderCreatedEvent.orderId) (lastByKey OrderCreatedEvent.orderId created)
  let processSettled :=
    if settled = [] then ret ()
    else ((processSettledOrders I.network (settled.map OrderSettledEvent.orderId)
      (lastByKey OrderSettledEvent.orderId settled) schedule.settled).discard).mapLabel .order
  let processRefunded :=
    if refunded = [] then ret ()
    else ((processRefundedOrders (refunded.map OrderRefundedEvent.orderId)
      (lastByKey OrderRefundedEvent.orderId refunded) schedule.refunded).discard).mapLabel .order
  processCreated.bind fun _ => processSettled.bind fun _ => processRefunded.bind fun _ =>
  ret ⟨created.length, settled.length, refunded.length⟩

namespace GatewayIndexing

variable {ε : Type} {s : Store} {keep : LockPaymentOrder → Option PaymentOrder → Bool}

section HandOffs

variable {orderId : ε → String} {events : List ε}

def pointerOf (orderId : ε → String) (events : List ε) : String → Option (ε × ℕ) :=
  lastByKey (fun p => orderId p.1) events.zipIdx

def ownHandOffs (orderId : ε → String) (events : List ε) : List (ε × ℕ) :=
  (events.map orderId).filterMap (pointerOf orderId events)

def awaitedHandOffs (keep : LockPaymentOrder → Option PaymentOrder → Bool) (orderId : ε → String)
    (events : List ε) (s : Store) : List (LockPaymentOrder × (ε × ℕ)) :=
  (s.lockOrdersWhere (events.map orderId) keep).filterMap fun o =>
    (pointerOf orderId events o.gatewayId).map fun p => (o, p)

lemma lastByKey_eq_pointerOf (id : String) :
    lastByKey orderId events id = (pointerOf orderId events id).map Prod.fst := by
  have hmap : lastByKey orderId (events.zipIdx.map Prod.fst) id =
      (pointerOf orderId events id).map Prod.fst := lastByKey_map Prod.fst events.zipIdx id
  rwa [List.zipIdx_map_fst] at hmap

lemma map_zipIdx : events.zipIdx.map (fun p => orderId p.1) = events.map orderId := by
  rw [← Function.comp_def, ← List.map_map, List.zipIdx_map_fst]

lemma nodup_zipIdx : events.zipIdx.Nodup :=
  List.Nodup.of_map Prod.snd (by rw [List.zipIdx_map_snd]; exact List.nodup_range')

lemma processCreatedOrders_eq (I : Indexer) (schedule : List ℕ) (background : String → List ℕ)
    (events : List OrderCreatedEvent) :
    I.processCreatedOrders schedule background (events.map OrderCreatedEvent.orderId)
        (lastByKey OrderCreatedEvent.orderId events) =
      interleave schedule ((ownHandOffs OrderCreatedEvent.orderId events).map fun p =>
        I.createLockPaymentOrder (background p.1.orderId) p.1) := by
  rw [Indexer.processCreatedOrders, ownHandOffs, funext lastByKey_eq_pointerOf,
    ← List.map_filterMap, List.map_map]
  rfl

lemma goroutines_eq {α : Type} (f : LockPaymentOrder → ε → α) :
    ((s.lockOrdersWhere (events.map orderId) keep).filterMap fun o =>
        (lastByKey orderId events o.gatewayId).map (f o)) =
      (awaitedHandOffs keep orderId events s).map fun p => f p.1 p.2.1 := by
  rw [awaitedHandOffs, List.map_filterMap]
  refine List.filterMap_congr fun o _ => ?_
  rw [lastByKey_eq_pointerOf, Option.map_map, Option.map_map]
  rfl

end HandOffs

section EachOnce

variable {orderId : ε → String} {events : List ε}

lemma filter_flatMap_copies {α : Type} (p : α → Bool) {f : α → List α} (hf : ∀ a, ∀ b ∈ f a, b = a)
    (as : List α) : (as.flatMap f).filter p = (as.filter p).flatMap f := by
  induction as with
  | nil => rfl
  | cons a as ih =>
    rw [List.flatMap_cons, List.filter_append, ih]
    by_cases hp : p a = true
    · have hall : (f a).filter p = f a :=
        List.filter_eq_self.2 fun b hb => by rw [hf a b hb, hp]
      rw [hall, List.filter_cons_of_pos hp, List.flatMap_cons]
    · have hnil : (f a).filter p = [] :=
        List.filter_eq_nil_iff.2 fun b hb => by rwa [hf a b hb]
      rw [hnil, List.filter_cons_of_neg hp, List.nil_append]

variable {ids : List String}

lemma filter_lockOrdersWhere {id : String} (hid : id ∈ ids) :
    (s.lockOrdersWhere ids keep).filter (fun o => o.gatewayId = id) =
      s.lockOrdersWhere [id] keep := by
  rw [Store.lockOrdersWhere, filter_flatMap_copies _ (by simp), Store.lockOrdersWhere,
    Table.select, Table.select, List.filter_filter]
  congr 1
  refine List.filter_congr fun o _ => ?_
  by_cases hoid : o.gatewayId = id
  · simp [hoid, hid]
  · simp [hoid]

lemma mem_lockOrdersWhere {o : LockPaymentOrder} (h : o ∈ s.lockOrdersWhere ids keep) :
    o.gatewayId ∈ ids := by
  obtain ⟨o', ho', hrow⟩ := List.mem_flatMap.1 h
  obtain ⟨-, -, rfl⟩ := List.mem_map.1 hrow
  exact of_decide_eq_true (List.mem_filter.1 ho').2

lemma count_gatewayIds {id : String} (hid : id ∈ ids) :
    ((s.lockOrdersWhere ids keep).map LockPaymentOrder.gatewayId).count id =
      (s.lockOrdersWhere [id] keep).length := by
  rw [← filter_lockOrdersWhere hid, List.count_eq_countP, List.countP_map,
    List.countP_eq_length_filter]
  rfl

lemma ownHandOffs_perm_iff :
    (ownHandOffs orderId events).Perm events.zipIdx ↔ (events.map orderId).Nodup := by
  have hkeys : ∀ id ∈ events.map orderId, id ∈ events.zipIdx.map fun p => orderId p.1 := by
    rw [map_zipIdx]
    exact fun _ h => h
  rw [ownHandOffs, pointerOf, filterMap_lastByKey_perm_iff hkeys nodup_zipIdx, map_zipIdx]
  exact and_iff_left (List.Perm.refl _)

lemma map_snd_awaitedHandOffs :
    (awaitedHandOffs keep orderId events s).map Prod.snd =
      ((s.lockOrdersWhere (events.map orderId) keep).map LockPaymentOrder.gatewayId).filterMap
        (pointerOf orderId events) := by
  rw [awaitedHandOffs, List.map_filterMap, List.filterMap_map]
  refine List.filterMap_congr fun o _ => ?_
  rw [Option.map_map]
  exact Option.map_id'

lemma count_awaitedHandOffs [DecidableEq ε] (hnodup : (events.map orderId).Nodup) {p : ε × ℕ}
    (hp : p ∈ events.zipIdx) :
    ((awaitedHandOffs keep orderId events s).map Prod.snd).count p =
      (s.lockOrdersWhere [orderId p.1] keep).length := by
  have hid : orderId p.1 ∈ events.map orderId := by
    rw [← map_zipIdx]
    exact List.mem_map_of_mem (f := fun p : ε × ℕ => orderId p.1) hp
  rw [map_snd_awaitedHandOffs, pointerOf,
    count_filterMap_lastByKey (by rwa [map_zipIdx]) hp, count_gatewayIds hid]

structure HandsEachOnce (codec : AddressCodec) (tx : GatewayTransaction) (s₁ s₂ : Store) :
    Prop where
  created : (ownHandOffs OrderCreatedEvent.orderId (tx.orderCreatedEvents codec)).Perm
    (tx.orderCreatedEvents codec).zipIdx
  settled : ((awaitedHandOffs awaitsSettlement OrderSettledEvent.orderId tx.orderSettledEvents
    s₁).map Prod.snd).Perm tx.orderSettledEvents.zipIdx
  refunded : ((awaitedHandOffs awaitsRefund OrderRefundedEvent.orderId tx.orderRefundedEvents
    s₂).map Prod.snd).Perm tx.orderRefundedEvents.zipIdx

def settleAndRefund : GatewayTransaction where
  blockNumber := 5
  txHash := "0x5"
  logs := [.orderSettled ⟨"g1", "0xlp", "0x01", 100000⟩, .orderRefunded ⟨"g2"⟩]

def splitSettlement : GatewayTransaction where
  blockNumber := 5
  txHash := "0x5"
  logs := [.orderSettled ⟨"g1", "0xlp", "0x01", 50000⟩, .orderSettled ⟨"g1", "0xlp", "0x02", 50000⟩]

end EachOnce

end GatewayIndexing

end Stablenode
