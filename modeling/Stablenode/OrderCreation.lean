import Stablenode.CreationWrites
import Stablenode.Outcomes

/-! Indexing `OrderCreated` events: `CreateLockPaymentOrder` (services/common/order.go) and
`ProcessCreatedOrders` (services/common/indexer.go). -/
namespace Stablenode

open BalanceManagement Proc

namespace LockPaymentOrderFields

def createCancelled (fields : LockPaymentOrderFields) (reason : String) : LockOrderCreate where
  token := some fields.token
  gatewayId := some fields.gatewayId
  amount := some fields.amount
  rate := some fields.rate
  protocolFee := some fields.protocolFee
  orderPercent := some 100
  blockNumber := some fields.blockNumber
  txHash := some fields.txHash
  institution := some fields.institution
  accountIdentifier := some fields.accountIdentifier
  accountName := some fields.accountName
  sender := some fields.sender
  memo := some fields.memo
  cancellationCount := some 3
  cancellationReasons := some [reason]
  status := some .cancelled
  provisionBucket := fields.provisionBucket
  provider := if fields.providerId = "" then none else some fields.providerId

def create (fields : LockPaymentOrderFields) : LockOrderCreate where
  token := some fields.token
  gatewayId := some fields.gatewayId
  amount := some fields.amount
  rate := some fields.rate
  protocolFee := some fields.protocolFee
  orderPercent := some 100
  amountInUsd := some fields.amountInUsd
  blockNumber := some fields.blockNumber
  txHash := some fields.txHash
  institution := some fields.institution
  accountIdentifier := some fields.accountIdentifier
  accountName := some fields.accountName
  sender := some fields.sender
  messageHash := some fields.messageHash
  memo := some fields.memo
  provisionBucket := fields.provisionBucket
  provider := if fields.providerId = "" then none else some fields.providerId

end LockPaymentOrderFields

def handleCancellationOfFields (fields : LockPaymentOrderFields) (reason : String) :
    CreationProgram (Except String Unit) :=
  let createFailed (e : String) :=
    ret (.error (fields.gatewayId ++ " - failed to create lock payment order: " ++ e))
  attempt (.createCancelled (fields.createCancelled reason)) (createFailed "database") fun s =>
  match (fields.createCancelled reason).save s with
  | .error e => createFailed e
  | .ok order =>
    attempt .read (ret (.error (fields.gatewayId ++ " - failed to fetch network"))) fun _ =>
    ignore (.order (.call (.refundOrder order.id fields.token.network fields.gatewayId)))
      (ret (.ok ()))

def cancelFields (fields : LockPaymentOrderFields) (reason heading : String) :
    CreationProgram (Completion String) :=
  (handleCancellationOfFields fields reason).bind fun
    | .ok _ => ret .ok
    | .error e => ret (.error (heading ++ ": " ++ e))

def amountInUsd (amount : ℚ) (token : Token) (currency : FiatCurrency) : ℚ :=
  if token.baseCurrency = currency.code ∧ currency.marketRate ≠ 0 then
    Decimal.div amount currency.marketRate
  else amount

def calculatePaymentOrderAmountInUSD (amount : ℚ) (token : Token) (institution : Institution) :
    CreationProgram ℚ :=
  match institution.loadedCurrency with
  | some currency => ret (amountInUsd amount token currency)
  | none =>
    attempt .read (ret amount) fun _ =>
    ret ((institution.fiatCurrency.map (amountInUsd amount token)).getD amount)

namespace Indexer

variable (I : Indexer)

def findToken (address : String) : Except QueryError Token :=
  only ((I.tokens.filter fun t => t.1 = address ∧ t.2.network = I.network).map Prod.snd)

def getInstitutionByCode (code : String) : Except QueryError Institution :=
  only (I.institutions.filter fun i => i.code = code)

def findCurrency (code : String) : Except QueryError FiatCurrency :=
  only (I.fiatCurrencies.filter fun c => c.isEnabled ∧ c.code = code)

def findProviderOrderToken (provider : String) (token : Token) (currency : String) :
    Except QueryError ProviderOffer :=
  only (I.offers.filter fun o =>
    o.network = token.network ∧ o.provider = provider ∧ currency ∈ o.availableIn ∧ o.kybApproved ∧
      o.token = token.id ∧ o.currency = currency ∧ o.address ≠ "")

def getProvisionBucket (amount : ℚ) (currency : FiatCurrency) :
    CreationProgram (Except String (Option ProvisionBucket × Bool)) :=
  let fetchFailed := ret (.error "failed to fetch provision bucket")
  let minFailed := ret (.error "failed to fetch minimum bucket")
  attempt .read fetchFailed fun _ =>
  match only (I.provisionBuckets.filter fun b =>
    amount ≤ b.maxAmount ∧ b.minAmount ≤ amount ∧ b.currency = currency.code) with
  | .ok bucket => ret (.ok (some bucket, false))
  | .error .notSingular => fetchFailed
  | .error .notFound =>
    attempt .read minFailed fun _ =>
    match ((I.provisionBuckets.filter fun b => b.currency = currency.code).map
      ProvisionBucket.minAmount).min? with
    | none => minFailed
    | some minAmount => if amount < minAmount then ret (.ok (none, true)) else fetchFailed

def basicAmountInUsd (amount : ℚ) (token : Token) (recipient : Option PaymentOrderRecipient) :
    CreationProgram ℚ :=
  match recipient with
  | none => ret 0
  | some recipient =>
    attempt .read (ret 0) fun _ =>
    match I.getInstitutionByCode recipient.institution with
    | .error _ => ret 0
    | .ok institution => calculatePaymentOrderAmountInUSD amount token institution

def createBasicLockPaymentOrderAndCancel (event : OrderCreatedEvent) (token : Option Token)
    (recipient : Option PaymentOrderRecipient) (reason : String) :
    CreationProgram (Completion String) :=
  match token with
  | none =>
    ignore (.order (.call (.refundUnindexed I.network event.orderId)))
      (ret (.error ("token is nil, cannot process order " ++ event.orderId)))
  | some token =>
    let adjustedAmount := Decimal.div event.amount (10 ^ token.decimals)
    (I.basicAmountInUsd adjustedAmount token recipient).bind fun usd =>
    let fields : LockPaymentOrderFields :=
      { token := token
        gatewayId := event.orderId
        amount := adjustedAmount
        rate := event.rate
        protocolFee := Decimal.div event.protocolFee (10 ^ token.decimals)
        amountInUsd := usd
        blockNumber := event.blockNumber
        txHash := event.txHash
        institution := (recipient.map PaymentOrderRecipient.institution).getD ""
        accountIdentifier := (recipient.map PaymentOrderRecipient.accountIdentifier).getD ""
        accountName := (recipient.map PaymentOrderRecipient.accountName).getD ""
        sender := event.sender
        providerId := (recipient.map PaymentOrderRecipient.providerId).getD ""
        memo := (recipient.map PaymentOrderRecipient.memo).getD ""
        messageHash := event.messageHash
        provisionBucket := none }
    cancelFields fields reason ("failed to handle cancellation due to " ++ reason)

def checkNamedProvider (fields : LockPaymentOrderFields) (currency : String)
    (proceed : CreationProgram (Completion String)) : CreationProgram (Completion String) :=
  if fields.providerId = "" then proceed
  else
    let fetchFailed := ret (.error (fields.gatewayId ++ " - failed to fetch provider"))
    attempt .read fetchFailed fun _ =>
    match I.findProviderOrderToken fields.providerId fields.token currency with
    | .error .notFound =>
      -- the error of this cancellation is dropped
      (handleCancellationOfFields fields "Provider not available").bind fun _ => ret .ok
    | .error .notSingular => fetchFailed
    | .ok offer =>
      if offer.visibilityMode ≠ .privateMode then proceed
      else
        match normalizedAmount I.env (fields.assignment 0) currency with
        | (.error _, _) => ret (.error "failed to get token rate")
        | (.panicked, _) => ret .panicked
        | (.ok, amount) =>
          let heading := fields.gatewayId ++ " - failed to cancel order"
          if offer.maxOrderAmount < amount then
            cancelFields fields "Amount is greater than the maximum order amount of the provider"
              heading
          else if amount < offer.minOrderAmount then
            cancelFields fields "Amount is less than the minimum order amount of the provider"
              heading
          else proceed

def amlRefuses (txHash : String) : Bool :=
  I.production ∧ ¬ "tron".toList.isPrefixOf I.network.toList ∧ I.amlCompliance txHash = some false

def assignCreated (fields : LockPaymentOrderFields) (order : LockPaymentOrder) :
    CreationProgram (Completion String) :=
  if I.amlRefuses fields.txHash then
    ((handleCancellation order "AML compliance check failed").mapLabel .order).bind fun
      | .ok _ => ret .ok
      | .error e => ret (.error ("checkAMLCompliance.RefundOrder: " ++ e))
  else
    ((assignLockPaymentOrder I.conf I.env I.fuel (fields.assignment order.id)).mapLabel
      .order).bind fun
      | .panicked => ret .panicked
      | _ => ret .ok

def commitLockPaymentOrder (fields : LockPaymentOrderFields) (withLog : Bool) :
    CreationProgram (Completion String) :=
  let fail (e : String) :=
    ret (.error (fields.gatewayId ++ " - failed to create lock payment order: " ++ e))
  attempt (.createCommit fields.create I.network withLog) (fail "database") fun s =>
  match fields.create.save s with
  | .error e => fail e
  | .ok order => I.assignCreated fields order

def storeLockPaymentOrder (fields : LockPaymentOrderFields) : CreationProgram (Completion String) :=
  let fail (e : String) := ret (.error (fields.gatewayId ++ e))
  attempt .read (fail " failed to initiate db transaction") fun _ =>
  attempt .read (fail " - failed to fetch transaction Log") fun s =>
  match only (s.createdLogs fields.txHash fields.gatewayId) with
  | .error .notSingular => fail " - failed to fetch transaction Log"
  | .ok _ => I.commitLockPaymentOrder fields false
  | .error .notFound =>
    attempt .read (fail " - failed to create transaction Log ") fun _ =>
    I.commitLockPaymentOrder fields true

end Indexer

namespace OrderCreatedEvent

def scaled (event : OrderCreatedEvent) (token : Token) : OrderCreatedEvent :=
  { event with
    amount := Decimal.div event.amount (10 ^ token.decimals)
    protocolFee := Decimal.div event.protocolFee (10 ^ token.decimals) }

def fields (event : OrderCreatedEvent) (token : Token) (recipient : PaymentOrderRecipient)
    (currency : FiatCurrency) (bucket : Option ProvisionBucket) : LockPaymentOrderFields where
  token := token
  gatewayId := event.orderId
  amount := event.amount
  rate := event.rate
  protocolFee := event.protocolFee
  amountInUsd := amountInUsd event.amount token currency
  blockNumber := event.blockNumber
  txHash := event.txHash
  institution := recipient.institution
  accountIdentifier := recipient.accountIdentifier
  accountName := recipient.accountName
  sender := event.sender
  providerId := recipient.providerId
  memo := recipient.memo
  messageHash := event.messageHash
  provisionBucket := bucket

def linkPaymentOrder (event : OrderCreatedEvent) : ℕ → CreationProgram Unit
  | 0 => ret ()
  | retries + 1 =>
    attempt .read (event.linkPaymentOrder retries) fun s =>
    match only (s.paymentOrders.select fun o => o.messageHash = some event.messageHash) with
    | .error _ => event.linkPaymentOrder retries
    | .ok o =>
      attempt (.linkPaymentOrder o.id event) (ret ()) fun s =>
      if s.paymentUpdateRaises (fun p => p.id = o.id) event.linkTo then ret ()
      else
        attempt (.refetchPaymentOrder o.id) (ret ()) fun s =>
        match s.paymentOrders.get o.id with
        | none => ret ()
        | some updated =>
          ignore (.order (.call (.paymentOrderWebhook updated.id updated.status))) (ret ())

end OrderCreatedEvent

namespace Indexer

variable (I : Indexer)

def checkAndStore (event : OrderCreatedEvent) : CreationProgram (Completion String) :=
  let tokenFailed := I.createBasicLockPaymentOrderAndCancel event none none "Token lookup failed"
  attempt .read tokenFailed fun _ =>
  match I.findToken event.token with
  | .error _ => tokenFailed
  | .ok token =>
    match I.recipient event.messageHash with
    | none =>
      I.createBasicLockPaymentOrderAndCancel event token none "Message hash decryption failed"
    | some none => ret .panicked
    | some (some recipient) =>
      let cancel := I.createBasicLockPaymentOrderAndCancel event token recipient
      attempt .read (cancel "Institution lookup failed") fun _ =>
      match I.getInstitutionByCode recipient.institution with
      | .error _ => cancel "Institution lookup failed"
      | .ok institution =>
        match institution.loadedCurrency with
        | none => ret .panicked
        | some edge =>
          attempt .read (cancel "Currency lookup failed") fun _ =>
          match I.findCurrency edge.code with
          | .error _ => cancel "Currency lookup failed"
          | .ok currency =>
            let event := event.scaled token
            (I.getProvisionBucket (event.amount * event.rate) currency).bind fun
              | .error _ =>
                -- scales the amounts once more
                I.createBasicLockPaymentOrderAndCancel event token recipient
                  "Provision bucket lookup failed"
              | .ok (bucket, isLessThanMin) =>
                let fields := event.fields token recipient edge bucket
                if isLessThanMin then
                  cancelFields fields "Amount is less than the minimum bucket"
                    "failed to handle cancellation"
                else
                  I.checkNamedProvider fields edge.code <|
                    if bucket = none then
                      cancelFields fields "Amount is larger than the maximum bucket"
                        "failed to handle cancellation"
                    else I.storeLockPaymentOrder fields

def createLockPaymentOrder (background : List ℕ) (event : OrderCreatedEvent) :
    CreationProgram Unit :=
  attempt .read (ret ()) fun s =>
  if s.isIndexed I.network event then ret ()
  else interleave background [(I.checkAndStore event).discard, event.linkPaymentOrder 30]

def processCreatedOrders (schedule : List ℕ) (background : String → List ℕ)
    (orderIds : List String) (orderIdToEvent : String → Option OrderCreatedEvent) :
    CreationProgram Unit :=
  interleave schedule
    ((orderIds.filterMap orderIdToEvent).map fun event =>
      I.createLockPaymentOrder (background event.orderId) event)

def withinLimits (fields : LockPaymentOrderFields) (currency : String) (offer : ProviderOffer) :
    Bool :=
  match normalizedAmount I.env (fields.assignment 0) currency with
  | (.ok, amount) => offer.minOrderAmount ≤ amount ∧ amount ≤ offer.maxOrderAmount
  | _ => false

def namedProviderFits (fields : LockPaymentOrderFields) (currency : String) : Bool :=
  fields.providerId = "" ∨
    (I.findProviderOrderToken fields.providerId fields.token currency).toOption.any fun offer =>
      offer.visibilityMode ≠ .privateMode ∨ I.withinLimits fields currency offer

def accepted (event : OrderCreatedEvent) : Option LockPaymentOrderFields := do
  let token ← (I.findToken event.token).toOption
  let recipient ← (I.recipient event.messageHash).join
  let institution ← (I.getInstitutionByCode recipient.institution).toOption
  let edge ← institution.loadedCurrency
  let currency ← (I.findCurrency edge.code).toOption
  let event := event.scaled token
  let bucket ← (only (I.provisionBuckets.filter fun b =>
    event.amount * event.rate ≤ b.maxAmount ∧ b.minAmount ≤ event.amount * event.rate ∧
      b.currency = currency.code)).toOption
  let fields := event.fields token recipient edge bucket
  guard (I.namedProviderFits fields edge.code ∧ fields.create.defaults.check = none)
  return fields

end Indexer

end Stablenode
