import Stablenode.Interference
import Stablenode.PaymentWrites
import Stablenode.Text

/-! Deposits into receive addresses: `CreateOrder` (services/order/evm.go), the processing of
transfers (services/common/indexer.go, services/common/order.go) and services/indexer/evm.go. -/
namespace Stablenode

open Proc

structure PaymentEnvironment where
  senderProvider : ℕ → Option String
  institutionCurrency : String → Option String
  providerRate : String → String → String → Option ℚ
  tokenRate : String → ℚ → String → Option ℚ
  encryptOrderRecipient : ℕ → Option String
  createOrderCallData : ℕ → Bool
  tokenBalance : String → ℕ → ℚ

structure PaymentConfig where
  receiveAddressValidity : ℕ := 1800
  minOrderAge : ℕ := 300
  deriving DecidableEq

structure ErrorData where
  field : String
  message : String
  deriving DecidableEq

def isPrivateMemo (memo : String) : Bool := memo.startsWith "P#P"

def Store.receiveAddressOf (s : Store) (order : ℕ) : Option ReceiveAddress :=
  s.receiveAddresses.rows.find? fun r => r.paymentOrder = some order

def fail {α : Type} (e : String) : PaymentProgram (Except String α) := ret (.error e)

def updatePaymentOrder {α : Type} (order : ℕ) (u : PaymentOrderUpdate) (e : String)
    (k : PaymentProgram (Except String α)) : PaymentProgram (Except String α) :=
  attempt (.update order u) (fail e) fun s => if s.refusesUpdate order u then fail e else k

variable (conf : PaymentConfig) (env : PaymentEnvironment)

def sendCreateOrder (order : PaymentOrder) : PaymentProgram (Except String Unit) :=
  if order.messageHash.getD "" ≠ "" then ret (.ok ())
  else
    match env.encryptOrderRecipient order.id with
    | none => fail "CreateOrder.encryptOrderRecipient"
    | some hash =>
      updatePaymentOrder order.id (.messageHash hash) "CreateOrder.updateMessageHash" <|
      updatePaymentOrder order.id (.status .initiated) "CreateOrder.updateStatus" <|
      if env.createOrderCallData order.id then
        attempt (.call (.createOrder order.id hash)) (fail "CreateOrder.sendTransactionBatch")
          fun _ => ret (.ok ())
      else fail "CreateOrder.createOrderCallData"

def createOrder (cause : CreateOrderCause) (orderID : ℕ) : PaymentProgram (Except String Unit) :=
  attempt (.createOrder cause orderID) (fail "CreateOrder.fetchOrder") fun s =>
  match s.paymentOrders.get orderID with
  | none => fail "CreateOrder.fetchOrder"
  | some order =>
    if (s.receiveAddressOf orderID).isNone ∧ order.hasLinkedAddress then
      match env.institutionCurrency order.institution with
      | none => fail "CreateOrder.fetchInstitution"
      | some currency =>
        match env.tokenRate order.token.symbol order.amount currency with
        | none => fail "CreateOrder.getRate"
        | some rate =>
          if rate = order.rate then sendCreateOrder env order
          else
            updatePaymentOrder orderID (.rate rate) "CreateOrder.updateOrder" <|
            attempt .read (fail "CreateOrder.refreshOrder") fun s =>
            match s.paymentOrders.get orderID with
            | none => fail "CreateOrder.refreshOrder"
            | some order => sendCreateOrder env order
    else sendCreateOrder env order

def handleReceiveAddressValidity (now : ℕ) (receiveAddress : ReceiveAddress)
    (paymentOrder : PaymentOrder) : PaymentProgram (Except String Unit) :=
  let failed := "HandleReceiveAddressValidity.db"
  match receiveAddress.validUntil with
  | none => ret (.ok ())
  | some validUntil =>
    if receiveAddress.status = .used then ret (.ok ())
    else if validUntil + 120 < now then
      attempt (.setAddressValidUntil receiveAddress.id (now + conf.receiveAddressValidity))
        (fail failed) fun _ => ret (.ok ())
    else if validUntil < now ∧ receiveAddress.status ≠ .expired ∧ paymentOrder.status ≠ .expired ∧
        ¬ isPrivateMemo paymentOrder.memo then
      attempt (.expireAddress receiveAddress.id) (fail failed) fun _ =>
      updatePaymentOrder paymentOrder.id (.status .expired) failed <|
      -- the entity is still the one from before the update
      ignore (.call (.paymentOrderWebhook paymentOrder.id paymentOrder.status)) (ret (.ok ()))
    else ret (.ok ())

def PaymentOrder.fees (o : PaymentOrder) : ℚ := o.networkFee + o.senderFee

def PaymentOrder.amountWithFees (o : PaymentOrder) : ℚ :=
  Decimal.round (o.amount + o.fees) o.token.decimals

def transferMatches (o : PaymentOrder) (value : ℚ) : Bool :=
  let expected := o.amountWithFees
  let tolerance := expected * (1 / 100)
  value = expected ∨ (expected - tolerance ≤ value ∧ value ≤ expected + tolerance)

def adjustedAmount (o : PaymentOrder) (value : ℚ) : ℚ :=
  let amount := value - Decimal.round o.fees o.token.decimals
  if 0 < amount then Decimal.round amount o.token.decimals else value

def refreshesRate (now : ℕ) (o : PaymentOrder) : Bool :=
  isPrivateMemo o.memo ∧ o.providerId ≠ "" ∧ o.createdAt + 1800 < now

def currentRate (o : PaymentOrder) : Option ℚ :=
  (env.senderProvider o.id).bind fun provider =>
  (env.institutionCurrency o.institution).bind fun currency =>
  env.providerRate provider o.token.symbol currency

def newReturnAddress (o : PaymentOrder) (event : TokenTransferEvent) : Option String :=
  if o.returnAddress = "" then some event.fromAddress else none

def depositUpdate (now : ℕ) (o : PaymentOrder) (event : TokenTransferEvent) :
    Option DepositUpdate :=
  if transferMatches o event.value then
    some ⟨o.token.network, newReturnAddress o event, none, none⟩
  else if refreshesRate now o then
    (currentRate env o).map fun rate =>
      ⟨o.token.network, newReturnAddress o event, some (adjustedAmount o event.value), some rate⟩
  else some ⟨o.token.network, newReturnAddress o event, some (adjustedAmount o event.value), none⟩

def finishDeposit (now : ℕ) (receiveAddress : ReceiveAddress) (paymentOrder : PaymentOrder)
    (event : TokenTransferEvent) (amount : ℚ) : PaymentProgram (Except String Bool) :=
  if 0 < event.value then
    attempt (.markAddressUsed receiveAddress.id event) (fail "UpdateReceiveAddressStatus.db") fun s =>
    if (s.receiveAddresses.get receiveAddress.id).isNone then fail "UpdateReceiveAddressStatus.db"
    else
      (createOrder env (.deposit event amount paymentOrder.fees paymentOrder.token.decimals)
        paymentOrder.id).bind fun
      | .error _ => fail "UpdateReceiveAddressStatus.CreateOrder"
      | .ok _ => ret (.ok true)
  else
    (handleReceiveAddressValidity conf now receiveAddress paymentOrder).bind fun
    | .error _ => fail "UpdateReceiveAddressStatus.HandleReceiveAddressValidity"
    | .ok _ => ret (.ok false)

def deposit (receiveAddress : ReceiveAddress) (paymentOrder : PaymentOrder)
    (event : TokenTransferEvent) : PaymentProgram (Except String Bool) :=
  let failed := fail "UpdateReceiveAddressStatus.db"
  attempt .read failed fun s =>
  match depositUpdate env s.now paymentOrder event with
  | none => failed
  | some u =>
    let finish := finishDeposit conf env s.now receiveAddress paymentOrder event
      (u.amount.getD paymentOrder.amount)
    if (paymentOrder.txHash = "" ∨ paymentOrder.txHash = event.txHash) ∧
        paymentOrder.status = .initiated then
      attempt (.depositCommit paymentOrder.id event u) failed fun s =>
      if s.refusesDeposit paymentOrder.id event u then failed else finish
    else finish

def Store.addressTaken (s : Store) (receiveAddress : ReceiveAddress) (event : TokenTransferEvent) :
    Bool :=
  s.receiveAddresses.rows.any (fun r => r.txHash = event.txHash) ∧ receiveAddress.status ≠ .unused

def Store.isLogged (s : Store) (event : TokenTransferEvent) : Bool :=
  s.transactionLogs.rows.any fun l => l.txHash = event.txHash

def updateReceiveAddressStatus (receiveAddress : ReceiveAddress) (paymentOrder : PaymentOrder)
    (event : TokenTransferEvent) : PaymentProgram (Except String Bool) :=
  if equalFold event.toAddress receiveAddress.address then
    attempt .read (fail "UpdateReceiveAddressStatus.db") fun s =>
    if s.addressTaken receiveAddress event then ret (.ok false)
    else if paymentOrder.txHash = event.txHash then ret (.ok false)
    else
      -- a failed query for the log counts as no log
      attempt .read (deposit conf env receiveAddress paymentOrder event) fun s =>
      if s.isLogged event then ret (.ok false)
      else deposit conf env receiveAddress paymentOrder event
  else ret (.ok false)

def awaits (s : Store) (addresses : List String) (o : PaymentOrder) (r : ReceiveAddress) : Bool :=
  (r.status = .unused ∨ r.status = .poolAssigned) ∧ r.validUntil.all (s.now < ·) ∧
    addresses.any (equalFold r.address) ∧ o.status = .initiated ∧ o.txHash = ""

def Store.awaitingOrders (s : Store) (addresses : List String) :
    List (PaymentOrder × ReceiveAddress) :=
  s.paymentOrders.rows.filterMap fun o =>
    ((s.receiveAddressOf o.id).filter (awaits s addresses o)).map fun r => (o, r)

lemma awaitingOrders_unpaid {s : Store} {addresses : List String}
    {p : PaymentOrder × ReceiveAddress} (h : p ∈ s.awaitingOrders addresses) :
    p.1.txHash = "" ∧ p.1.status = .initiated := by
  rw [Store.awaitingOrders, List.mem_filterMap] at h
  obtain ⟨o, -, ho⟩ := h
  obtain ⟨r, hr, rfl⟩ := Option.map_eq_some_iff.1 ho
  have haw := (Option.filter_eq_some_iff.1 hr).2
  simp only [awaits, decide_eq_true_eq] at haw
  exact ⟨haw.2.2.2.2, haw.2.2.2.1⟩

def processOrder (addressToEvent : List TokenTransferEvent) (o : PaymentOrder × ReceiveAddress) :
    PaymentProgram Unit :=
  match addressToEvent.find? fun event => equalFold event.toAddress o.2.address with
  | none => ret ()
  | some event => (updateReceiveAddressStatus conf env o.2 o.1 event).discard

def processReceiveAddresses (schedule : List ℕ) (addressToEvent : List TokenTransferEvent) :
    PaymentProgram (Except String Unit) :=
  attempt .read (fail "processReceiveAddresses.fetchOrders") fun s =>
  (interleave schedule ((s.awaitingOrders (addressToEvent.map TokenTransferEvent.toAddress)).map
    (processOrder conf env addressToEvent))).bind fun _ => ret (.ok ())

def processLinkedAddresses : PaymentProgram (Except String Unit) :=
  ignore .read (ret (.ok ()))

def processTransfers (schedule : List ℕ) (addressToEvent : List TokenTransferEvent) :
    PaymentProgram (Except String Unit) :=
  (processReceiveAddresses conf env schedule addressToEvent).bind fun
  | .error e => fail e
  | .ok _ => processLinkedAddresses

structure TransferLog where
  fromAddress : String
  toAddress : String
  value : ℕ
  blockNumber : ℕ
  txHash : String
  deriving DecidableEq

def TransferLog.event (token : Token) (l : TransferLog) : TokenTransferEvent where
  blockNumber := l.blockNumber
  txHash := l.txHash
  fromAddress := l.fromAddress.toLower
  toAddress := l.toAddress.toLower
  value := Decimal.div l.value (10 ^ token.decimals)

def indexReceiveAddressByTransaction (gateway : String) (token : Token)
    (transfers : List (TransferLog × List ℕ)) : PaymentProgram Unit :=
  forEach transfers fun l =>
    if equalFold l.1.fromAddress gateway then ret ()
    else (processTransfers conf env l.2 [l.1.event token]).discard

def PaymentEnvironment.silent : PaymentEnvironment where
  senderProvider _ := none
  institutionCurrency _ := none
  providerRate _ _ _ := none
  tokenRate _ _ _ := none
  encryptOrderRecipient order := some (toString order)
  createOrderCallData _ := true
  tokenBalance _ _ := 0

/-! Initiated orders of 100 that share a pool address, and a transfer to it. -/
namespace Sample

def paymentOrder (id : ℕ) : PaymentOrder where
  id := id
  token := token
  amount := 100
  amountPaid := 0
  percentSettled := 0
  senderFee := 0
  networkFee := 0
  rate := 1
  txHash := ""
  blockNumber := 0
  fromAddress := ""
  returnAddress := ""
  receiveAddressText := "0xpool"
  gatewayId := none
  messageHash := none
  status := .initiated
  hasLinkedAddress := false
  memo := ""
  providerId := ""
  institution := "bank"
  createdAt := 0
  updatedAt := 0

def receiveAddress (id : ℕ) : ReceiveAddress where
  id := id
  address := "0xpool"
  status := .poolAssigned
  txHash := ""
  validUntil := none
  lastUsed := none
  lastIndexedBlock := 0
  paymentOrder := some id

def poolStore (orders : List ℕ) : Store :=
  { Store.empty with
    paymentOrders := orders.foldl (fun t id => t.insert (paymentOrder id)) .empty
    receiveAddresses := orders.foldl (fun t id => t.insert (receiveAddress id)) .empty }

def transfer : TokenTransferEvent := ⟨1, "0x1", "0xsender", "0xpool", 100⟩

end Sample

end Stablenode
