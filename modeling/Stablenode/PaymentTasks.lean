import Stablenode.DepositRules

/-! The background work on payment orders: the polling of balances
(services/polling_service.go) and the retry of initiated orders (tasks/tasks.go). -/
namespace Stablenode

open Proc

variable (conf : PaymentConfig) (env : PaymentEnvironment)

def checkOrderPayment (order : PaymentOrder) (receiveAddr : ReceiveAddress) : PaymentProgram Unit :=
  attempt .read (ret ()) fun s =>
  if receiveAddr.validUntil.all (· < s.now) then ret ()
  else
    let balance := env.tokenBalance receiveAddr.address order.token.id
    if order.amountPaid < balance then
      ignore (.update order.id (.amountPaid balance)) (ret ())
    else ret ()

def pollPendingOrders : PaymentProgram Unit :=
  attempt .read (ret ()) fun s =>
  forEach (s.paymentOrders.select fun o =>
      o.status = .initiated ∧ o.createdAt + conf.minOrderAge < s.now) fun o =>
    match s.receiveAddressOf o.id with
    | none => ret ()
    | some receiveAddr => checkOrderPayment env o receiveAddr

def Store.staleOrders (s : Store) : List PaymentOrder :=
  (s.paymentOrders.select fun o =>
      o.status = .initiated ∧ o.gatewayId = none ∧
        (s.now ≤ o.updatedAt + 300 ∨ isPrivateMemo o.memo)).flatMap fun o =>
    (s.receiveAddresses.select fun r =>
      r.address = o.receiveAddressText ∧ r.status = .used).map fun _ => o

def retryOrder (order : PaymentOrder) : PaymentProgram Unit :=
  let orderAmountWithFees := order.amount + order.networkFee + order.senderFee
  if orderAmountWithFees ≤ order.amountPaid then
    ignore (.update order.id (.status .pending)) <|
    ignore (.update order.id (.status .initiated)) <|
    (createOrder env (.retry orderAmountWithFees) order.id).discard
  else ret ()

def retryStaleUserOperations : PaymentProgram Unit :=
  attempt .read (ret ()) fun s => forEach s.staleOrders (retryOrder env)

end Stablenode
