import Stablenode.OrderStatus

/-! The two ways of settlement and refund events: the indexer (services/common/indexer.go) and the
webhook (controllers/index.go). -/
namespace Stablenode

open Proc

def Store.joinPaymentOrders (s : Store) (o : LockPaymentOrder) : List (Option PaymentOrder) :=
  match s.paymentOrders.select fun p => p.messageHash = some o.messageHash with
  | [] => [none]
  | ps => ps.map some

def Store.lockOrdersWhere (s : Store) (orderIds : List String)
    (keep : LockPaymentOrder → Option PaymentOrder → Bool) : List LockPaymentOrder :=
  (s.lockOrders.select fun o => o.gatewayId ∈ orderIds).flatMap fun o =>
    ((s.joinPaymentOrders o).filter (keep o)).map fun _ => o

def awaitsSettlement (o : LockPaymentOrder) (p : Option PaymentOrder) : Bool :=
  o.status = .validated ∨ p.any fun p => p.status ≠ .settled

def awaitsRefund (o : LockPaymentOrder) (p : Option PaymentOrder) : Bool :=
  o.status = .pending ∨ o.status = .cancelled ∨ p.any fun p => p.status ≠ .refunded

def processSettledOrders (network : String) (orderIds : List String)
    (orderIdToEvent : String → Option OrderSettledEvent) (schedule : List ℕ) :
    OrderProgram (Except String Unit) :=
  attempt .read (ret (.error "IndexOrderSettled.fetchLockOrders")) fun s =>
  (interleave schedule ((s.lockOrdersWhere orderIds awaitsSettlement).filterMap fun o =>
    (orderIdToEvent o.gatewayId).map fun event =>
      (updateOrderStatusSettled network event o.messageHash).discard)).bind fun _ =>
  ret (.ok ())

def processRefundedOrders (orderIds : List String)
    (orderIdToEvent : String → Option OrderRefundedEvent) (schedule : List ℕ) :
    OrderProgram (Except String Unit) :=
  attempt .read (ret (.error "IndexOrderRefunded.fetchLockOrders")) fun s =>
  (interleave schedule ((s.lockOrdersWhere orderIds awaitsRefund).filterMap fun o =>
    (orderIdToEvent o.gatewayId).map fun event =>
      (updateOrderStatusRefunded o.token.network event o.messageHash).discard)).bind fun _ =>
  ret (.ok ())

def handleGatewayEvent (orderId failure : String)
    (update : String → OrderProgram (Except String Unit)) : OrderProgram (Except String Unit) :=
  attempt .read (ret (.error "lock payment order not found")) fun s =>
  match only (s.lockOrders.select fun o => o.gatewayId = orderId) with
  | .error _ => ret (.error "lock payment order not found")
  | .ok o => (update o.messageHash).bind fun
    | .ok _ => ret (.ok ())
    | .error _ => ret (.error failure)

def handleOrderSettledEvent (network : String) (event : OrderSettledEvent) :
    OrderProgram (Except String Unit) :=
  handleGatewayEvent event.orderId "failed to process settled order"
    (updateOrderStatusSettled network event)

def handleOrderRefundedEvent (network : String) (event : OrderRefundedEvent) :
    OrderProgram (Except String Unit) :=
  handleGatewayEvent event.orderId "failed to process refunded order"
    (updateOrderStatusRefunded network event)

inductive GatewayMessage where
  | settled (event : OrderSettledEvent)
  | refunded (event : OrderRefundedEvent)
  deriving DecidableEq

inductive Delivery where
  | processSettled (network : String) (event : OrderSettledEvent) (schedule : List ℕ)
  | processRefunded (event : OrderRefundedEvent) (schedule : List ℕ)
  | handleSettled (network : String) (event : OrderSettledEvent)
  | handleRefunded (network : String) (event : OrderRefundedEvent)
  deriving DecidableEq

namespace Delivery

def message : Delivery → GatewayMessage
  | processSettled _ event _ | handleSettled _ event => .settled event
  | processRefunded event _ | handleRefunded _ event => .refunded event

def program : Delivery → OrderProgram (Except String Unit)
  | processSettled network event schedule =>
    processSettledOrders network [event.orderId]
      (fun id => if id = event.orderId then some event else none) schedule
  | processRefunded event schedule =>
    processRefundedOrders [event.orderId]
      (fun id => if id = event.orderId then some event else none) schedule
  | handleSettled network event => handleOrderSettledEvent network event
  | handleRefunded network event => handleOrderRefundedEvent network event

def deliver (d : Delivery) (s : Store) : Store := d.program.after OrderWrite.exec s

def deliverAll (s : Store) (ds : List Delivery) : Store := Run.exec deliver s ds

def once (seen : List GatewayMessage) : List Delivery → List Delivery
  | [] => []
  | d :: ds =>
    if d.message ∈ seen then once seen ds else d :: once (d.message :: seen) ds

end Delivery

end Stablenode
