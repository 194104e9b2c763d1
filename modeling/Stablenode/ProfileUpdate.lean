import Stablenode.CreationWrites
import Stablenode.QueueBuilder

/-! `UpdateProviderProfile` (controllers/accounts/profile.go): its checks and its transaction. -/
namespace Stablenode

open BalanceManagement

structure ListedToken extends Token where
  isEnabled : Bool
  deriving DecidableEq

structure BucketRow extends ProvisionBucket where
  id : ℕ
  deriving DecidableEq

structure Catalogue where
  tokens : Table fun t : ListedToken => t.id
  currencies : Table FiatCurrency.code
  buckets : Table BucketRow.id
  percentDeviationFromMarketRate : ℚ
  parseUrl : String → Option (String × String)

structure ProviderOrderTokenPayload where
  symbol : String
  /-- A text that is neither of the two types is `none`. -/
  conversionRateType : Option ConversionRateType
  fixedConversionRate : ℚ
  floatingConversionRate : ℚ
  maxOrderAmount : ℚ
  minOrderAmount : ℚ
  rateSlippage : ℚ
  address : String
  network : String
  deriving DecidableEq

structure ProviderProfilePayload where
  tradingName : String
  currency : String
  hostIdentifier : String
  isAvailable : Bool
  tokens : List ProviderOrderTokenPayload
  visibilityMode : String
  deriving DecidableEq

structure ProfileRow extends ProviderProfile where
  tradingName : String
  hostIdentifier : String
  provisionBuckets : List ℕ
  deriving DecidableEq

def TokenConfiguration.key (t : TokenConfiguration) : String × ℕ × String × String :=
  (t.provider, t.token, t.currency, t.network)

structure ProfileStore where
  profiles : Table fun p : ProfileRow => p.id
  orderTokens : Table TokenConfiguration.key
  providerCurrencies : Table fun row : ProviderCurrency => (row.provider, row.currency)
  deriving DecidableEq

inductive ProfileError where
  | badRequest (message : String) (data : List ErrorData)
  | internalServerError (message : String)
  deriving DecidableEq

structure TokenOperation where
  tokenPayload : ProviderOrderTokenPayload
  providerToken : ListedToken
  currency : FiatCurrency
  rate : ℚ
  existingToken : Option TokenConfiguration
  deriving DecidableEq

inductive TokenCheck where
  | operation (op : TokenOperation)
  | invalid (error : ErrorData)
  | failed
  deriving DecidableEq

def ProviderOrderTokenPayload.rate (p : ProviderOrderTokenPayload) (marketRate : ℚ) : ℚ :=
  if p.conversionRateType = some .fixed then p.fixedConversionRate
  else marketRate + p.floatingConversionRate

namespace Catalogue

variable (C : Catalogue)

def isValidHttpsUrl (url : String) : Bool :=
  url.toLower.startsWith "https://" &&
    match C.parseUrl url with
    | none => false
    | some (scheme, host) => scheme = "https" && host ≠ ""

def checkToken (s : ProfileStore) (provider code : String) (p : ProviderOrderTokenPayload) : TokenCheck :=
  match only (C.tokens.select fun t => t.symbol = p.symbol ∧ t.network = p.network ∧ t.isEnabled) with
  | .error .notFound =>
    .invalid ⟨"Tokens", "Token not supported - " ++ p.symbol ++ " on " ++ p.network⟩
  | .error .notSingular => .failed
  | .ok providerToken =>
    match only (C.currencies.select fun c => c.isEnabled ∧ c.code = code) with
    | .error .notFound => .invalid ⟨"Currency", "Currency not supported"⟩
    | .error .notSingular => .failed
    | .ok currency =>
      let rate := p.rate currency.marketRate
      if p.conversionRateType = some .floating ∧ C.percentDeviationFromMarketRate <
          absPercentageDeviation currency.marketRate rate then
        .invalid ⟨"Tokens", "Rate is too far from market rate for " ++ p.symbol⟩
      else if p.rateSlippage ≠ 0 ∧ p.rateSlippage < 1 / 10 then
        .invalid ⟨"Tokens", "Rate slippage cannot be less than 0.1% for " ++ p.symbol⟩
      else if p.rateSlippage ≠ 0 ∧
          currency.marketRate * (5 / 100) < rate * Decimal.div p.rateSlippage 100 then
        .invalid ⟨"Tokens", "Rate slippage is too high for " ++ p.symbol⟩
      else
        let existing := s.orderTokens.select fun t => t.token = providerToken.id ∧
          t.provider = provider ∧ t.currency = currency.code ∧ t.network = p.network
        match only existing with
        | .error .notFound => .operation ⟨p, providerToken, currency, rate, none⟩
        | .error .notSingular => .failed
        | .ok existingToken =>
          -- the row was looked up by this network, so that the check never rejects
          if existingToken.network ≠ p.network ∧ existing ≠ [] then
            .invalid ⟨"Tokens", "Token already configured on network " ++ p.network ++ " for " ++
              p.symbol⟩
          else if p.rateSlippage = 0 ∧ 0 < existingToken.rateSlippage then
            .operation ⟨{ p with rateSlippage := existingToken.rateSlippage }, providerToken, currency,
              rate, some existingToken⟩
          else .operation ⟨p, providerToken, currency, rate, some existingToken⟩

def checkTokens (s : ProfileStore) (provider code : String) :
    List ProviderOrderTokenPayload → List TokenOperation → List ErrorData →
      Option (List TokenOperation × List ErrorData)
  | [], tokenOperations, validationErrors => some (tokenOperations, validationErrors)
  | p :: tokens, tokenOperations, validationErrors =>
    match C.checkToken s provider code p with
    | .operation op => checkTokens s provider code tokens (tokenOperations ++ [op]) validationErrors
    | .invalid error => checkTokens s provider code tokens tokenOperations (validationErrors ++ [error])
    | .failed => none

def collectBuckets (p : ProviderOrderTokenPayload) (rate : ℚ) : List BucketRow :=
  C.buckets.select fun b =>
    b.minAmount ≤ p.maxOrderAmount * rate ∧ p.minOrderAmount * rate ≤ b.maxAmount

end Catalogue

def TokenOperation.row (provider : String) (type : ConversionRateType) (op : TokenOperation) :
    TokenConfiguration where
  provider := provider
  token := op.providerToken.id
  currency := op.currency.code
  network := op.tokenPayload.network
  address := op.tokenPayload.address
  rateSlippage := op.tokenPayload.rateSlippage
  conversionRateType := type
  fixedConversionRate := op.tokenPayload.fixedConversionRate
  floatingConversionRate := op.tokenPayload.floatingConversionRate
  minOrderAmount := op.tokenPayload.minOrderAmount
  maxOrderAmount := op.tokenPayload.maxOrderAmount

def TokenOperation.overwrite (type : ConversionRateType) (op : TokenOperation)
    (t : TokenConfiguration) : TokenConfiguration :=
  { op.row t.provider type with token := t.token, currency := t.currency, network := t.network }

lemma TokenOperation.key_overwrite (type : ConversionRateType) (op : TokenOperation)
    (t : TokenConfiguration) : (op.overwrite type t).key = t.key := rfl

def ProfileStore.saveToken (provider : String) (s : ProfileStore) (op : TokenOperation) :
    Option ProfileStore :=
  match op.tokenPayload.conversionRateType with
  | none => none
  | some type =>
    match op.existingToken with
    | some existing =>
      some { s with
        orderTokens := s.orderTokens.modify existing.key (op.overwrite type) (op.key_overwrite type) }
    | none =>
      let row := op.row provider type
      if (s.orderTokens.get row.key).isSome then none
      else some { s with orderTokens := s.orderTokens.insert row }

def Catalogue.processTokens (C : Catalogue) (provider : String) :
    List TokenOperation → ProfileStore → List BucketRow → Option (ProfileStore × List BucketRow)
  | [], s, allBuckets => some (s, allBuckets)
  | op :: tokenOperations, s, allBuckets =>
    match s.saveToken provider op with
    | none => none
    | some s =>
      C.processTokens provider tokenOperations s
        (allBuckets ++ C.collectBuckets op.tokenPayload op.rate)

def dedupBuckets : List ℕ → List BucketRow → List BucketRow
  | _, [] => []
  | seenBuckets, b :: allBuckets =>
    if b.id ∈ seenBuckets then dedupBuckets seenBuckets allBuckets
    else b :: dedupBuckets (b.id :: seenBuckets) allBuckets

def Catalogue.setAvailability (C : Catalogue) (now : ℕ) (provider : String)
    (payload : ProviderProfilePayload) (s : ProfileStore) : Except ProfileError ProfileStore :=
  match only (C.currencies.select fun c => c.code = payload.currency ∧ c.isEnabled) with
  | .error _ => .error (.badRequest "Currency not supported" [])
  | .ok currency =>
    match only (s.providerCurrencies.select fun row =>
        row.provider = provider ∧ row.currency = payload.currency) with
    | .error .notFound =>
      .ok { s with
        providerCurrencies := s.providerCurrencies.insert
          ⟨provider, currency.code, ⟨0, 0, 0⟩, payload.isAvailable, now⟩ }
    | .error .notSingular => .error (.internalServerError "Failed to update availability")
    | .ok row =>
      .ok { s with
        providerCurrencies := s.providerCurrencies.modify (row.provider, row.currency)
          (fun row => { row with isAvailable := payload.isAvailable, updatedAt := now }) fun _ => rfl }

def VisibilityMode.ofText? : String → Option VisibilityMode
  | "private" => some .privateMode
  | "public" => some .publicMode
  | _ => none

def ProfileStore.saveProfile (provider : String) (payload : ProviderProfilePayload)
    (dedupedBuckets : List BucketRow) (s : ProfileStore) : Option ProfileStore :=
  if 80 < payload.tradingName.utf8ByteSize then none
  else if payload.visibilityMode ≠ "" ∧ VisibilityMode.ofText? payload.visibilityMode = none then none
  else
    some { s with
      profiles := s.profiles.modify provider
        (fun p =>
          { id := p.id
            visibilityMode := (VisibilityMode.ofText? payload.visibilityMode).getD p.visibilityMode
            tradingName := if payload.tradingName ≠ "" then payload.tradingName else p.tradingName
            hostIdentifier :=
              if payload.hostIdentifier ≠ "" then payload.hostIdentifier else p.hostIdentifier
            -- `ClearProvisionBuckets` and then `AddProvisionBuckets`
            provisionBuckets :=
              if 0 < dedupedBuckets.length then dedupedBuckets.map (·.id) else p.provisionBuckets })
        fun _ => rfl }

def validationMessage : List ErrorData → String
  | [error] => error.message
  | errors => "Validation failed: " ++ toString errors.length ++ " errors found"

def Catalogue.updateProviderProfile (C : Catalogue) (now : ℕ) (provider : String)
    (payload : ProviderProfilePayload) (s : ProfileStore) : Except ProfileError ProfileStore :=
  if payload.currency = "" then
    .error (.badRequest "Failed to validate payload" [⟨"Currency", "This field is required"⟩])
  else if payload.hostIdentifier ≠ "" ∧ C.isValidHttpsUrl payload.hostIdentifier = false then
    .error (.badRequest "Host identifier must use HTTPS protocol and be a valid URL"
      [⟨"HostIdentifier", "Please provide a valid URL starting with https://"⟩])
  else
    match C.checkTokens s provider payload.currency payload.tokens [] [] with
    | none => .error (.internalServerError "Failed to update profile")
    | some (tokenOperations, validationErrors) =>
      if 0 < validationErrors.length then
        .error (.badRequest (validationMessage validationErrors) validationErrors)
      else
        match C.setAvailability now provider payload s with
        | .error e => .error e
        | .ok s =>
          match C.processTokens provider tokenOperations s [] with
          | none => .error (.internalServerError "Failed to update profile")
          | some (s, allBuckets) =>
            match s.saveProfile provider payload (dedupBuckets [] allBuckets) with
            | none => .error (.internalServerError "Failed to update profile")
            | some s => .ok s

end Stablenode
