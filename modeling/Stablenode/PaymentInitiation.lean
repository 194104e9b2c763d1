import Stablenode.CreationWrites
import Stablenode.TokenRate
import Stablenode.Traces

/-! `InitiatePaymentOrder` (controllers/sender/sender.go): its checks, the receive address, and the
transaction that stores the order. -/
namespace Stablenode.Initiation

open Proc

structure NewPaymentOrderPayload where
  amount : ℚ
  token : String
  rate : ℚ
  network : String
  recipient : PaymentOrderRecipient
  reference : String
  returnAddress : String
  feePercent : ℚ
  feeAddress : String
  deriving DecidableEq

structure SenderProfile where
  id : ℕ
  isPartner : Bool
  deriving DecidableEq

structure SenderOrderToken where
  sender : ℕ
  token : ℕ
  feePercent : ℚ
  feeAddress : String
  refundAddress : String
  deriving DecidableEq

structure TokenRow extends Token where
  isEnabled : Bool
  chainId : ℕ
  networkFee : ℚ
  deriving DecidableEq

structure AddressRow where
  id : ℕ
  address : String
  status : ReceiveAddressStatus
  isDeployed : Bool
  networkIdentifier : String
  timesUsed : ℕ
  deriving DecidableEq

structure InitiatedOrder where
  sender : ℕ
  token : ℕ
  amount : ℚ
  amountInUsd : ℚ
  networkFee : ℚ
  senderFee : ℚ
  rate : ℚ
  receiveAddressText : String
  feePercent : ℚ
  feeAddress : String
  returnAddress : String
  reference : String
  recipient : PaymentOrderRecipient
  deriving DecidableEq

def InitiatedOrder.fitsColumns (o : InitiatedOrder) : Bool :=
  o.receiveAddressText.utf8ByteSize ≤ 60 ∧ o.feeAddress.utf8ByteSize ≤ 60 ∧
    o.returnAddress.utf8ByteSize ≤ 60 ∧ o.reference.utf8ByteSize ≤ 70

structure InitiationStore where
  tokens : List TokenRow
  senderOrderTokens : List SenderOrderToken
  institutions : List Institution
  rates : RateStore
  addresses : Table AddressRow.id
  orders : List InitiatedOrder

namespace InitiationStore

variable (s : InitiationStore)

def tokensFor (p : NewPaymentOrderPayload) : List TokenRow :=
  s.tokens.filter fun t => t.symbol = p.token ∧ t.network = p.network ∧ t.isEnabled

def orderTokensOf (sender : SenderProfile) (token : TokenRow) : List SenderOrderToken :=
  s.senderOrderTokens.filter fun t => t.token = token.id ∧ t.sender = sender.id

def hasReference (reference : String) : Bool := s.orders.any (·.reference = reference)

def institutionFor (p : NewPaymentOrderPayload) : Option Institution :=
  s.institutions.find? (·.code = p.recipient.institution)

def ratesFor (currency : FiatCurrency) : RateStore :=
  { s.rates with marketRate := fun _ => currency.marketRate }

def providerTokens (provider : String) (token : TokenRow) (currency : FiatCurrency) :
    List TokenConfiguration :=
  s.rates.tokens.filter fun t =>
    t.network = token.network ∧ t.provider = provider ∧ t.token = token.id ∧
      t.currency = currency.code

def poolAddress (network : String) : Option AddressRow :=
  (s.addresses.select fun a =>
    a.status = .poolReady ∧ a.isDeployed ∧ a.networkIdentifier = network).argmin AddressRow.timesUsed

end InitiationStore

inductive InitiationCall where
  | query
  | referenceExists (reference : String)
  | validateAccount
  | createTronAddress
  | createAddress (address network : String) (status : ReceiveAddressStatus) (isDeployed : Bool)
  | setTimesUsed (id timesUsed : ℕ)
  | tx
  | statement
  | createTransferWebhook
  | commit (order : InitiatedOrder)
  deriving DecidableEq

def InitiationCall.exec : InitiationCall → InitiationStore → InitiationStore
  | createAddress address network status isDeployed, s =>
    let row : AddressRow := ⟨s.addresses.fresh, address, status, isDeployed, network, 0⟩
    { s with addresses := s.addresses.insert row }
  | setTimesUsed id timesUsed, s =>
    { s with addresses := s.addresses.modify id (fun a => { a with timesUsed }) fun _ => rfl }
  | commit order, s => { s with orders := s.orders ++ [order] }
  | _, s => s

abbrev InitiationProgram := Proc InitiationCall InitiationStore

inductive InitiationReply where
  | error (code : ℕ) (message : String) (data : List (String × String))
  | created (order : InitiatedOrder)
  | panicked
  deriving DecidableEq

structure InitiationEnvironment where
  binds : NewPaymentOrderPayload → Bool
  sender : Option SenderProfile
  decodesBase58 : String → Bool
  /-- `ValidateAccount` for an institution and an account: the name that a provider confirms. -/
  validateAccount : String → String → Except String String
  tronAddress : String
  useAlchemy : Bool

def isValidEthereumAddress (address : String) : Bool :=
  match address.toList with
  | '0' :: 'x' :: digits =>
    digits.length = 40 ∧ digits.all fun c => c.isDigit ∨ 'a' ≤ c ∧ c ≤ 'f' ∨ 'A' ≤ c ∧ c ≤ 'F'
  | _ => false

def isTron (network : String) : Bool := "tron".toList.isPrefixOf network.toList

def isReference (reference : String) : Bool :=
  reference ≠ "" ∧ reference.toList.all fun c => c.isAlphanum ∨ c = '-' ∨ c = '_'

def invalid (field message : String) : InitiationProgram InitiationReply :=
  ret (.error 400 "Failed to validate payload" [("field", field), ("message", message)])

def failedToInitiate (data : List (String × String)) : InitiationProgram InitiationReply :=
  ret (.error 500 "Failed to initiate payment order" data)

def loadToken (p : NewPaymentOrderPayload) (k : TokenRow → InitiationProgram InitiationReply) :
    InitiationProgram InitiationReply :=
  let failed := ret (.error 500 "Failed to fetch token" [])
  attempt .query failed fun s =>
  match only (s.tokensFor p) with
  | .error .notFound => invalid "Token" "Provided token is not supported"
  | .error .notSingular => failed
  | .ok token => k token

def loadOrderToken (sender : SenderProfile) (token : TokenRow)
    (k : SenderOrderToken → InitiationProgram InitiationReply) : InitiationProgram InitiationReply :=
  let failed := invalid "Token" "Provided token is not configured"
  attempt .query failed fun s =>
  match only (s.orderTokensOf sender token) with
  | .error _ => failed
  | .ok orderToken =>
    if orderToken.feeAddress = "" ∨ orderToken.refundAddress = "" then
      invalid "Token" "Fee address or refund address is not configured"
    else k orderToken

def checkReference (p : NewPaymentOrderPayload) (k : InitiationProgram InitiationReply) :
    InitiationProgram InitiationReply :=
  if p.reference = "" then k
  else if !isReference p.reference then invalid "Reference" "Reference must be alphanumeric"
  else
    attempt (.referenceExists p.reference) (failedToInitiate [("context", "reference_check")]) fun s =>
    if s.hasReference p.reference then invalid "Reference" "Reference already exists" else k

def loadCurrency (p : NewPaymentOrderPayload) (token : TokenRow)
    (k : FiatCurrency → InitiationProgram InitiationReply) : InitiationProgram InitiationReply :=
  attempt .query
    (ret (.error 500 "Failed to validate institution" [("context", "institution_fetch")])) fun s =>
  match s.institutionFor p with
  | none => invalid "Recipient" "Provided institution is not supported"
  | some institution =>
    match institution.loadedCurrency with
    | none => ret .panicked
    | some currency =>
      if !equalFold token.baseCurrency currency.code ∧ !equalFold token.baseCurrency "USD" then
        ret (.error 400 (token.symbol ++ " can only be converted to " ++ token.baseCurrency) [])
      else k currency

def normalizeAmount (p : NewPaymentOrderPayload) (token : TokenRow) (currency : FiatCurrency)
    (k : ℚ → InitiationProgram InitiationReply) : InitiationProgram InitiationReply :=
  if equalFold token.baseCurrency currency.code ∧ token.baseCurrency ≠ "USD" then
    let failed := failedToInitiate [("context", "token_rate_queue")]
    attempt .query failed fun s =>
    match s.rates.getTokenRateFromQueue "USDT" p.amount currency.code currency.marketRate with
    | .error .redis => failed
    | .error .panicked => ret .panicked
    | .ok rateResponse =>
      -- a division by zero panics
      if rateResponse = 0 then ret .panicked else k (Decimal.div p.amount rateResponse)
  else k p.amount

def checkProvider (p : NewPaymentOrderPayload) (token : TokenRow) (currency : FiatCurrency)
    (k : InitiationProgram InitiationReply) : InitiationProgram InitiationReply :=
  if p.recipient.providerId = "" then k
  else
    let failed := ret (.error 500 "Failed to fetch provider settings" [])
    attempt .query failed fun s =>
    match only (s.providerTokens p.recipient.providerId token currency) with
    | .error .notFound =>
      invalid "Recipient" "The specified provider does not support the selected token"
    | .error .notSingular => failed
    | .ok orderToken =>
      if (s.rates.providers.get orderToken.provider).any (·.visibilityMode = .privateMode) then
        normalizeAmount p token currency fun normalizedAmount =>
        if normalizedAmount < orderToken.minOrderAmount then
          ret (.error 400
            "The amount is below the minimum order amount for the specified provider" [])
        else if orderToken.maxOrderAmount < normalizedAmount then
          ret (.error 400
            "The amount is beyond the maximum order amount for the specified provider" [])
        else k
      else k

namespace InitiationEnvironment

variable (E : InitiationEnvironment)

def isValidTronAddress (address : String) : Bool :=
  address.utf8ByteSize = 34 ∧ ['T'].isPrefixOf address.toList ∧ E.decodesBase58 address

def checkAddress (network field address : String) : Except (String × String) Unit :=
  if isTron network then
    if E.isValidTronAddress address then .ok () else .error (field, "Invalid Tron address")
  else if isValidEthereumAddress address then .ok ()
  else .error (field, "Invalid Ethereum address")

def chooseFee (sender : SenderProfile) (orderToken : SenderOrderToken)
    (p : NewPaymentOrderPayload) : Except (String × String) (ℚ × String) :=
  if p.feeAddress = "" then .ok (orderToken.feePercent, orderToken.feeAddress)
  else if !sender.isPartner then .error ("FeeAddress", "FeeAddress is not allowed")
  else if p.feePercent = 0 then .error ("FeePercent", "FeePercent must be greater than zero")
  else (E.checkAddress p.network "FeeAddress" p.feeAddress).map fun _ => (p.feePercent, p.feeAddress)

def chooseReturnAddress (orderToken : SenderOrderToken) (p : NewPaymentOrderPayload) :
    Except (String × String) String :=
  if p.returnAddress = "" then .ok orderToken.refundAddress
  else (E.checkAddress p.network "ReturnAddress" p.returnAddress).map fun _ => p.returnAddress

def validate (p : NewPaymentOrderPayload) (token : TokenRow) (currency : FiatCurrency)
    (k : String → InitiationProgram InitiationReply) : InitiationProgram InitiationReply :=
  attempt .validateAccount
    (invalid "Recipient" "Account validation failed: failed to verify account with any provider")
    fun _ =>
  match E.validateAccount p.recipient.institution p.recipient.accountIdentifier with
  | .error e => invalid "Recipient" ("Account validation failed: " ++ e)
  | .ok accountName =>
    attempt .query (invalid "Rate" "Rate validation failed: internal server error") fun s =>
    match (s.ratesFor currency).validateRate token.toToken currency.code p.amount
        p.recipient.providerId p.network with
    | .error e => invalid "Rate" ("Rate validation failed: " ++ e)
    | .ok achievableRate =>
      if p.rate < achievableRate - achievableRate * (1 / 1000) then
        invalid "Rate" ("Provided rate " ++ Decimal.toString p.rate ++
          " is not achievable. Available rate is " ++ Decimal.toString achievableRate)
      else k accountName

def provideAddress (p : NewPaymentOrderPayload) (token : TokenRow)
    (k : String → InitiationProgram InitiationReply) : InitiationProgram InitiationReply :=
  if isTron p.network then
    attempt .createTronAddress (failedToInitiate [("context", "create_tron_address")]) fun _ =>
    attempt (.createAddress E.tronAddress "" .unused false) (failedToInitiate []) fun _ =>
    k E.tronAddress
  else
    attempt .query
      (ret (.error 500 "Failed to query address pool" [("network", token.network)])) fun s =>
    match s.poolAddress token.network with
    | none =>
      ret (.error 503 "No receive addresses available in pool. Please contact support."
        [("network", token.network),
          ("message", "Address pool is empty. Add addresses using pool management tools.")])
    | some pool =>
      attempt (.createAddress pool.address pool.networkIdentifier .poolAssigned true)
        (failedToInitiate []) fun _ =>
      ignore (.setTimesUsed pool.id (pool.timesUsed + 1)) <| k pool.address

def storeOrder (p : NewPaymentOrderPayload) (token : TokenRow) (order : InitiatedOrder) :
    InitiationProgram InitiationReply :=
  let failed := failedToInitiate []
  let finish : InitiationProgram InitiationReply :=
    attempt .statement failed fun _ =>
    attempt (.commit order) failed fun _ => ret (.created order)
  attempt .tx failed fun _ =>
  attempt .statement failed fun _ =>
  if !order.fitsColumns then failed
  else
    attempt .statement failed fun _ =>
    if isTron p.network ∨ E.useAlchemy then finish
    else
      attempt .createTransferWebhook
        -- these chains have no webhooks
        (if token.chainId = 56 ∨ token.chainId = 1135 then finish else failed) fun _ =>
      attempt .statement failed fun _ => finish

end InitiationEnvironment

def calculatePaymentOrderAmountInUSD (amount : ℚ) (token : TokenRow) (currency : FiatCurrency) : ℚ :=
  if token.baseCurrency = currency.code ∧ currency.marketRate ≠ 0 then
    Decimal.div amount currency.marketRate
  else amount

def senderFee (feePercent amount : ℚ) : ℚ := Decimal.round (Decimal.div (feePercent * amount) 100) 4

def InitiationEnvironment.initiatePaymentOrder (E : InitiationEnvironment)
    (p : NewPaymentOrderPayload) : InitiationProgram InitiationReply :=
  if !E.binds p then ret (.error 400 "Failed to validate payload" [])
  else
    match E.sender with
    | none => ret (.error 401 "Invalid API key or token" [])
    | some sender =>
      loadToken p fun token =>
      loadOrderToken sender token fun orderToken =>
      match E.chooseFee sender orderToken p, E.chooseReturnAddress orderToken p with
      | .error e, _ => invalid e.1 e.2
      | .ok _, .error e => invalid e.1 e.2
      | .ok (feePercent, feeAddress), .ok returnAddress =>
        checkReference p <|
        loadCurrency p token fun currency =>
        E.validate p token currency fun accountName =>
        checkProvider p token currency <|
        E.provideAddress p token fun address =>
        E.storeOrder p token
          { sender := sender.id
            token := token.id
            amount := p.amount
            amountInUsd := calculatePaymentOrderAmountInUSD p.amount token currency
            networkFee := token.networkFee
            senderFee := senderFee feePercent p.amount
            rate := p.rate
            receiveAddressText := address
            feePercent
            feeAddress
            returnAddress
            reference := p.reference
            recipient := { p.recipient with accountName } }

def OnlyStores (Q : InitiatedOrder → Prop) : InitiationCall → Prop
  | .commit order => Q order
  | _ => True

section Stores

variable {Q : InitiatedOrder → Prop} {E : InitiationEnvironment} {p : NewPaymentOrderPayload}
  {token : TokenRow} {currency : FiatCurrency}

lemma uses_loadCurrency {k : FiatCurrency → InitiationProgram InitiationReply}
    (h : ∀ currency, Uses (OnlyStores Q) (k currency)) :
    Uses (OnlyStores Q) (loadCurrency p token k) := by
  refine uses_attempt trivial trivial fun s => ?_
  split
  · trivial
  split
  · trivial
  split
  · trivial
  · exact h _

variable {k : String → InitiationProgram InitiationReply}

lemma uses_validate (h : ∀ name, Uses (OnlyStores Q) (k name)) :
    Uses (OnlyStores Q) (E.validate p token currency k) := by
  refine uses_attempt trivial trivial fun _ => ?_
  split
  · trivial
  refine uses_attempt trivial trivial fun s => ?_
  split
  · trivial
  split
  · trivial
  · exact h _

lemma uses_checkProvider {k : InitiationProgram InitiationReply} (h : Uses (OnlyStores Q) k) :
    Uses (OnlyStores Q) (checkProvider p token currency k) := by
  rw [checkProvider]
  split
  · exact h
  refine uses_attempt trivial trivial fun s => ?_
  split
  · trivial
  · trivial
  split
  · rw [normalizeAmount]
    split
    · refine uses_attempt trivial trivial fun s => ?_
      split
      · trivial
      · trivial
      split_ifs <;> first | exact h | trivial
    · split_ifs <;> first | exact h | trivial
  · exact h

lemma uses_provideAddress (h : ∀ address, Uses (OnlyStores Q) (k address)) :
    Uses (OnlyStores Q) (E.provideAddress p token k) := by
  rw [InitiationEnvironment.provideAddress]
  split
  · exact uses_attempt trivial trivial fun _ => uses_attempt trivial trivial fun _ => h _
  refine uses_attempt trivial trivial fun s => ?_
  split
  · trivial
  · exact uses_attempt trivial trivial fun _ => uses_ignore trivial (h _)

lemma uses_storeOrder {order : InitiatedOrder} (h : Q order) :
    Uses (OnlyStores Q) (E.storeOrder p token order) := by
  have hfinish : Uses (OnlyStores Q) (attempt .statement (failedToInitiate []) fun _ =>
      attempt (.commit order) (failedToInitiate []) fun _ => ret (.created order)) :=
    uses_attempt trivial trivial fun _ => uses_attempt h trivial fun _ => trivial
  refine uses_attempt trivial trivial fun _ => uses_attempt trivial trivial fun _ => ?_
  split
  · trivial
  refine uses_attempt trivial trivial fun _ => ?_
  split
  · exact hfinish
  refine uses_attempt trivial ?_ fun _ => uses_attempt trivial trivial fun _ => hfinish
  split
  · exact hfinish
  · trivial

end Stores

namespace Sample

def queueRates : RateStore where
  scan _ := some ["bucket_NGN_1_1000"]
  lrange _ := some ["p1:USDC:10:1:90"]
  newFromString text :=
    if text = "1" then .ok 1 else if text = "10" then .ok 10 else if text = "90" then .ok 90
    else if text = "1000" then .ok 1000 else .error "not a number"
  symbolOf id := if id = 1 then some "USDC" else none
  tokens := [⟨⟨"p1", 1, "NGN", "base", "0xp1", 1⟩, .fixed, 10, 0, 1, 90⟩,
    ⟨⟨"p2", 1, "NGN", "base", "0xp2", 1⟩, .fixed, 0, 0, 1, 90⟩]
  providers := ⟨[⟨"p1", .publicMode⟩, ⟨"p2", .publicMode⟩], by decide⟩
  balances := ⟨[⟨"p1", "NGN", ⟨900, 0, 900⟩, true, 0⟩, ⟨"p2", "NGN", ⟨900, 0, 900⟩, true, 0⟩],
    by decide⟩
  marketRate _ := 10

def senderStore : InitiationStore where
  tokens := [⟨⟨1, "USDC", "USD", 6, "base"⟩, true, 8453, 0⟩,
    ⟨⟨2, "cNGN", "NGN", 6, "base"⟩, true, 8453, 0⟩]
  senderOrderTokens := [⟨1, 1, 1, "0xfee", "0xrefund"⟩, ⟨1, 2, 1, "0xfee", "0xrefund"⟩]
  institutions := [⟨"BANK", some ⟨"NGN", true, 10⟩⟩]
  rates := queueRates
  addresses := .single ⟨1, "0xpool", .poolReady, true, "base", 0⟩
  orders := []

def partner : InitiationEnvironment where
  binds _ := true
  sender := some ⟨1, true⟩
  decodesBase58 _ := false
  validateAccount _ _ := .ok "Ada"
  tronAddress := "T"
  useAlchemy := true

def payment : NewPaymentOrderPayload where
  amount := 50
  token := "USDC"
  rate := 10
  network := "base"
  recipient := ⟨"BANK", "0123", "", "rent", ""⟩
  reference := "invoice-1"
  returnAddress := ""
  feePercent := 0
  feeAddress := ""

end Sample

end Stablenode.Initiation
