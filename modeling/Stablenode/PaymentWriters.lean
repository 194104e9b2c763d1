import Stablenode.PaymentEffects

/-! `CreateOrder` on a Tron network (services/order/tron.go), and the functions that write
payment orders, interleaved. -/
namespace Stablenode

open Proc

structure TronEnvironment where
  setupError : ℕ → Option String
  /-- `EncryptOrderRecipient` inside `createOrderCallData`; `none` when the data cannot be built. -/
  encryptOrderRecipient : ℕ → Option String
  txHash : ℕ → String
  transfersFee : ℕ → Bool

def submitTron (env : TronEnvironment) (order : PaymentOrder) (receiveAddress : ReceiveAddress) :
    Proc SideWrite Store (Completion String) :=
  match env.encryptOrderRecipient order.id with
  | none => ret (.error "Tron.CreateOrder.createOrderCallData")
  | some hash =>
    attempt (.tron (.submit order.id hash)) (ret (.error "Tron.CreateOrder.sendTransaction")) fun _ =>
    if ¬ env.transfersFee order.id then ret (.error "Tron.CreateOrder.TransferTRC20")
    else
      let updateFailed := ret (.error "Tron.CreateOrder.updateTxHash")
      let block := receiveAddress.lastIndexedBlock
      attempt (.tron (.update order.id block (env.txHash order.id))) updateFailed fun s =>
      if TronWrite.refusesUpdate s order.id block (env.txHash order.id) then updateFailed
      else
        let refetchFailed := ret (.error "Tron.CreateOrder.refetchOrder")
        attempt (.payment .read) refetchFailed fun s =>
        match s.paymentOrders.get order.id with
        | none => refetchFailed
        | some updated =>
          attempt (.payment (.call (.paymentOrderWebhook updated.id updated.status)))
            (ret (.error "Tron.CreateOrder.webhook")) fun _ => ret .ok

def createOrderTron (env : TronEnvironment) (orderID : ℕ) :
    Proc SideWrite Store (Completion String) :=
  let fetchFailed := ret (.error "Tron.CreateOrder.fetchOrder")
  attempt (.payment .read) fetchFailed fun s =>
  match s.paymentOrders.get orderID, s.receiveAddressOf orderID with
  | none, _ => fetchFailed
  -- the salt of a missing receive address
  | some _, none => ret .panicked
  | some order, some receiveAddress =>
    match env.setupError orderID with
    | some e => ret (.error e)
    | none => submitTron env order receiveAddress

inductive PaymentWriter where
  | deposit (env : PaymentEnvironment) (receiveAddress : ReceiveAddress)
    (paymentOrder : PaymentOrder) (event : TokenTransferEvent)
  | create (env : PaymentEnvironment) (cause : CreateOrderCause) (order : ℕ)
  | createTron (env : TronEnvironment) (order : ℕ)
  | created (indexer : Indexer) (background : List ℕ) (event : OrderCreatedEvent)
  | fulfill (payload : FulfillLockOrderPayload) (param : Option ℕ)
  | retry (env : PaymentEnvironment)
  | validity (now : ℕ) (receiveAddress : ReceiveAddress) (paymentOrder : PaymentOrder)
  | settled (network : String) (event : OrderSettledEvent) (messageHash : String)
  | refunded (network : String) (event : OrderRefundedEvent) (messageHash : String)

variable (conf : PaymentConfig)

def orderSide {α : Type} (p : OrderProgram α) : Proc SideWrite Store Unit :=
  (p.mapLabel fun w => .creation (.order w)).discard

def paymentSide {α : Type} (p : PaymentProgram α) : Proc SideWrite Store Unit :=
  (p.mapLabel .payment).discard

def PaymentWriter.program : PaymentWriter → Proc SideWrite Store Unit
  | deposit env receiveAddress paymentOrder event =>
    paymentSide (updateReceiveAddressStatus conf env receiveAddress paymentOrder event)
  | create env cause order => paymentSide (createOrder env cause order)
  | createTron env order => (createOrderTron env order).discard
  | created indexer background event =>
    (indexer.createLockPaymentOrder background event).mapLabel .creation
  | fulfill payload param => orderSide (fulfillOrder payload param)
  | retry env => paymentSide (retryStaleUserOperations env)
  | validity now receiveAddress paymentOrder =>
    paymentSide (handleReceiveAddressValidity conf now receiveAddress paymentOrder)
  | settled network event messageHash =>
    orderSide (updateOrderStatusSettled network event messageHash)
  | refunded network event messageHash =>
    orderSide (updateOrderStatusRefunded network event messageHash)

def paymentRun (schedule : List ℕ) (writers : List PaymentWriter) : Proc SideWrite Store Unit :=
  interleave schedule (writers.map (PaymentWriter.program conf))

end Stablenode
