import Stablenode.FirstFit

/-! The rate checks of `InitiatePaymentOrder` (controllers/sender/sender.go, utils/utils.go) against
the queues of `matchRate`. -/
namespace Stablenode

open BalanceManagement Proc

structure RatePayload where
  amount : ℚ
  rate : ℚ
  network : String
  providerId : String
  deriving DecidableEq

structure RateLookup where
  symbolOf : ℕ → Option String
  visited : List QueueKey
  validateProviderRate : Store → Token → String → RatePayload → Except String ℚ

def Store.isAvailableIn (s : Store) (currency provider : String) : Bool :=
  (s.balances.get (provider, currency)).any (·.isAvailable)

namespace RateLookup

variable (L : RateLookup) (s : Store)

def configuredTokens (provider symbol currency network : String) : List ProviderOrderToken :=
  s.providerOrderTokens.filter fun t =>
    t.provider = provider ∧ L.symbolOf t.token = some symbol ∧ t.currency = currency ∧
      t.network = network ∧ t.address ≠ ""

def suitableRate (symbol network : String) (amount : ℚ) (bucket : ProvisionBucket) :
    QueueEntry → Option ℚ
  | .offer provider token (some rate) (some minAmount) (some maxAmount) =>
    if token ≠ symbol then none
    else if network ≠ "" ∧
        ¬ ((L.configuredTokens s provider token bucket.currency network).length = 1 ∧
          s.isAvailableIn bucket.currency provider) then none
    else if amount < minAmount ∨ maxAmount < amount then none
    else if bucket.minAmount ≤ amount * rate ∧ amount * rate ≤ bucket.maxAmount then some rate
    else none
  | _ => none

def findSuitableProviderRate (symbol network : String) (amount : ℚ) (bucket : ProvisionBucket)
    (providers : List QueueEntry) : Option ℚ :=
  providers.findSome? (L.suitableRate s symbol network amount bucket)

def parsesBucketKey (key : QueueKey) : Bool :=
  key.bucket.currency ≠ "" ∧ key.bucket.minAmount < key.bucket.maxAmount

def validateBucketRate (token : Token) (currency : String) (amount : ℚ) (network : String) :
    Except String ℚ :=
  let keys := L.visited.filter fun key => key.bucket.currency = currency
  match keys.findSome? fun key =>
    if parsesBucketKey key then
      L.findSuitableProviderRate s token.symbol network amount key.bucket (s.queue key)
    else none with
  | some rate => .ok rate
  | none =>
    .error ("no provider available for " ++ token.symbol ++ " to " ++ currency ++
      " conversion with amount " ++ Decimal.toString amount ++ " on " ++ network ++ " network")

def validateRate (token : Token) (currency : String) (p : RatePayload) : Except String ℚ :=
  if equalFold token.baseCurrency currency then .ok 1
  else if p.providerId ≠ "" then L.validateProviderRate s token currency p
  else L.validateBucketRate s token currency p.amount p.network

end RateLookup

variable {key : QueueKey} {e : QueueEntry}

namespace RateStore

def parseEntry (R : RateStore) (providerData : String) : QueueEntry :=
  match splitText ':' providerData with
  | [provider, token, rateText, minText, maxText] =>
    .offer provider token (R.newFromString rateText).toOption (R.newFromString minText).toOption
      (R.newFromString maxText).toOption
  | _ => .malformed providerData

structure Represents (R : RateStore) (L : RateLookup) (s : Store) (text : QueueKey → String) :
    Prop where
  scan : ∀ currency, R.scan currency =
    some ((L.visited.filter fun key => key.bucket.currency = currency).map text)
  key : ∀ key ∈ L.visited, (R.parseBucketKey (text key)).toOption =
    if RateLookup.parsesBucketKey key then
      some ⟨key.bucket.currency, key.bucket.minAmount, key.bucket.maxAmount⟩ else none
  queue : ∀ key ∈ L.visited, ∃ texts, R.lrange (text key) = some texts ∧
    texts.map R.parseEntry = s.queue key
  symbols : R.symbolOf = L.symbolOf
  tokens : R.tokens.map (·.toProviderOrderToken) = s.providerOrderTokens
  balances : R.balances = s.balances

variable {R : RateStore} {L : RateLookup} {s : Store} {text : QueueKey → String}

lemma Represents.isAvailableIn (h : R.Represents L s text) (currency provider : String) :
    R.isAvailableIn currency provider = s.isAvailableIn currency provider := by
  rw [RateStore.isAvailableIn, Store.isAvailableIn, h.balances]

lemma Represents.only_configurations (h : R.Represents L s text)
    (provider symbol currency network : String) :
    (only (R.configurations provider symbol currency network)).toOption = none ↔
      ¬ ((L.configuredTokens s provider symbol currency network).length = 1 ∧
        s.isAvailableIn currency provider) := by
  have hone : ∀ rows : List TokenConfiguration,
      (only rows).toOption = none ↔ ¬ rows.length = 1 := by
    rintro (_ | ⟨row, _ | ⟨row', rows⟩⟩) <;> simp [only, Except.toOption]
  rw [hone, configurations, h.isAvailableIn, RateLookup.configuredTokens, ← h.tokens, h.symbols,
    List.filter_map, List.length_map]
  cases s.isAvailableIn currency provider with
  | false => simp
  | true => simp [Function.comp_def]

lemma Represents.entryRate (h : R.Represents L s text) (symbol network : String) (amount : ℚ)
    (bucket : ProvisionBucket) (providerData : String) :
    R.entryRate symbol network amount ⟨bucket.currency, bucket.minAmount, bucket.maxAmount⟩
        providerData =
      L.suitableRate s symbol network amount bucket (R.parseEntry providerData) := by
  rw [RateStore.entryRate]
  split
  next provider token rateText minText maxText hsplit =>
    simp only [parseEntry, hsplit, h.only_configurations]
    cases R.newFromString rateText <;> cases R.newFromString minText <;>
      cases R.newFromString maxText <;> simp [RateLookup.suitableRate, Except.toOption]
  next hsplit =>
    have hparse : R.parseEntry providerData = .malformed providerData := by
      rw [parseEntry]
      split
      next provider token rateText minText maxText h5 =>
        exact (hsplit provider token rateText minText maxText h5).elim
      · rfl
    rw [hparse]
    rfl

lemma Represents.keyRate (h : R.Represents L s text) (hkey : key ∈ L.visited)
    (symbol network : String) (amount : ℚ) :
    R.keyRate symbol network amount (text key) =
      if RateLookup.parsesBucketKey key then
        L.findSuitableProviderRate s symbol network amount key.bucket (s.queue key)
      else none := by
  obtain ⟨texts, hrange, htexts⟩ := h.queue key hkey
  have hparse := h.key key hkey
  rw [RateStore.keyRate, hrange, RateLookup.findSuitableProviderRate, ← htexts, List.findSome?_map]
  cases hbucket : R.parseBucketKey (text key) with
  | error e =>
    rw [hbucket] at hparse
    split_ifs at hparse ⊢ with hparses
    · cases hparse
    · rfl
  | ok bucket =>
    rw [hbucket] at hparse
    split_ifs at hparse ⊢ with hparses
    · obtain rfl := Option.some.inj hparse
      exact congrArg texts.findSome? <| funext fun providerData =>
        h.entryRate symbol network amount key.bucket providerData
    · cases hparse

theorem Represents.validateBucketRate_eq (h : R.Represents L s text) (token : Token)
    (currency : String) (amount : ℚ) (network : String) :
    R.validateBucketRate token currency amount network =
      L.validateBucketRate s token currency amount network := by
  obtain ⟨best, hsearch⟩ := @searchBuckets_eq R token.symbol network amount 0
    ((L.visited.filter fun key => key.bucket.currency = currency).map text)
  have hkeys : ∀ key ∈ L.visited.filter fun key => key.bucket.currency = currency,
      (R.keyRate token.symbol network amount ∘ text) key =
        if RateLookup.parsesBucketKey key then
          L.findSuitableProviderRate s token.symbol network amount key.bucket (s.queue key)
        else none := fun key hkey =>
    h.keyRate (List.mem_filter.1 hkey).1 token.symbol network amount
  rw [RateStore.validateBucketRate, h.scan, RateLookup.validateBucketRate]
  simp only [hsearch]
  rw [List.findSome?_map, ← List.head?_filterMap, List.filterMap_congr hkeys, List.head?_filterMap]
  generalize List.findSome? _ _ = found
  cases found <;> rfl

end RateStore

namespace RateLookup

variable (L : RateLookup) (s : Store)

def withinTolerance (rate achievableRate : ℚ) : Bool :=
  ¬ rate < achievableRate - achievableRate * (1 / 1000)

def passesRateChecks (token : Token) (currency : String) (p : RatePayload) : Bool :=
  (L.validateRate s token currency p).toOption.any (withinTolerance p.rate)

end RateLookup

variable {order : OrderFields}

section MatchRate

variable (env : Environment)

def entryFits (s : Store) (currency : String) (order : OrderFields) : QueueEntry → Bool
  | .malformed _ => false
  | .offer provider token rate minAmount maxAmount =>
    offerTest env { order with providerId := provider } currency []
        (.offer provider token rate minAmount maxAmount) = .ok ∧
      providerFits s { order with providerId := provider } currency provider (rate.getD 0)

def Matchable (s : Store) (key : QueueKey) (order : OrderFields) : Prop :=
  ∃ index provider token rate minAmount maxAmount,
    (s.queue key)[index]? = some (.offer provider token rate minAmount maxAmount) ∧
    entryFits env s key.bucket.currency order (.offer provider token rate minAmount maxAmount) ∧
    ∀ (conf : OrderConfig) (reassign : OrderFields → OrderProgram (Completion AssignError))
      (fails : OrderWrite → Bool) (fuel : ℕ), fails .read = false → index < fuel →
      (matchRate conf env reassign key [] fuel 0 order).outcomeIf OrderWrite.exec fails s =
        (handOver conf env reassign key index provider { order with providerId := provider }).outcomeIf
          OrderWrite.exec fails s

variable {env} {s : Store}

def OrderFields.Converts (order : OrderFields) (currency : String) : Prop :=
  equalFold order.token.baseCurrency currency = false

lemma normalizedAmount_of_converts {currency : String} (h : order.Converts currency) :
    normalizedAmount env order currency = (.ok, order.amount) :=
  if_neg fun he => of_decide_eq_false h he.1

lemma entryFits_eq_fits (currency : String) (e : QueueEntry) :
    entryFits env s currency order e = fits env s currency [] order e := by
  cases e <;> rfl

theorem matchable_of_mem (hconverts : order.Converts key.bucket.currency) (hmem : e ∈ s.queue key)
    (hfits : entryFits env s key.bucket.currency order e) : Matchable env s key order := by
  classical
  have hexists : ∃ index : ℕ, ∃ e, (s.queue key)[index]? = some e ∧
      entryFits env s key.bucket.currency order e := by
    obtain ⟨index, hindex⟩ := List.getElem?_of_mem hmem
    exact ⟨index, e, hindex, hfits⟩
  obtain ⟨first, hentry, hfirst⟩ := Nat.find_spec hexists
  cases first with
  | malformed text => cases hfirst
  | offer provider token rate minAmount maxAmount =>
    refine ⟨Nat.find hexists, provider, token, rate, minAmount, maxAmount, hentry, hfirst,
      fun conf reassign fails fuel hread hfuel => ?_⟩
    have hskipped : ∀ m < Nat.find hexists, ∀ e, (s.queue key)[m]? = some e →
        fits env s key.bucket.currency [] order e = false := by
      intro m hm e he
      rw [← entryFits_eq_fits]
      exact eq_false_of_ne_true fun hfit => Nat.find_min hexists hm ⟨e, he, hfit⟩
    have hnormal : Normalizes env order key.bucket.currency := by
      rw [Normalizes, normalizedAmount_of_converts hconverts]
      simp
    exact (matchRate_walk hnormal hentry (entryFits_eq_fits .. ▸ hfirst) hskipped hfuel).outcomeIf hread

lemma not_matchable_of_forall
    (h : ∀ e ∈ s.queue key, entryFits env s key.bucket.currency order e = false) :
    ¬ Matchable env s key order := by
  rintro ⟨index, provider, token, rate, minAmount, maxAmount, hentry, hfits, -⟩
  rw [h _ (List.mem_of_getElem? hentry)] at hfits
  cases hfits

end MatchRate

namespace RateLookup

variable {L : RateLookup} {s : Store} {token : Token} {currency : String} {p : RatePayload}

structure Admits (L : RateLookup) (s : Store) (token : Token) (currency : String) (p : RatePayload)
    (key : QueueKey) (provider : String) (rate minAmount maxAmount : ℚ) : Prop where
  visited : key ∈ L.visited
  inCurrency : key.bucket.currency = currency
  entry : .offer provider token.symbol (some rate) (some minAmount) (some maxAmount) ∈ s.queue key
  configured : p.network ≠ "" →
    (L.configuredTokens s provider token.symbol currency p.network).length = 1 ∧
      s.isAvailableIn currency provider
  limits : minAmount ≤ p.amount ∧ p.amount ≤ maxAmount
  bucket : key.bucket.minAmount ≤ p.amount * rate ∧ p.amount * rate ≤ key.bucket.maxAmount
  tolerance : rate - rate * (1 / 1000) ≤ p.rate

variable {rate minAmount maxAmount : ℚ} {provider : String}

lemma suitableRate_eq_some {symbol network : String} {amount : ℚ} {bucket : ProvisionBucket}
    (h : L.suitableRate s symbol network amount bucket e = some rate) :
    ∃ provider minAmount maxAmount,
      e = .offer provider symbol (some rate) (some minAmount) (some maxAmount) ∧
      (network ≠ "" → (L.configuredTokens s provider symbol bucket.currency network).length = 1 ∧
        s.isAvailableIn bucket.currency provider) ∧
      (minAmount ≤ amount ∧ amount ≤ maxAmount) ∧
      bucket.minAmount ≤ amount * rate ∧ amount * rate ≤ bucket.maxAmount := by
  unfold suitableRate at h
  split at h
  next provider token rate' minAmount maxAmount =>
    split at h
    · cases h
    next hsymbol =>
    split at h
    · cases h
    next hconfigured =>
    split at h
    · cases h
    next hlimits =>
    split at h
    next hbucket =>
      obtain rfl := Option.some.inj h
      obtain rfl := not_not.1 hsymbol
      exact ⟨provider, minAmount, maxAmount, rfl,
        fun hnetwork => not_not.1 fun hnot => hconfigured ⟨hnetwork, hnot⟩,
        ⟨not_lt.1 fun hlt => hlimits (.inl hlt), not_lt.1 fun hlt => hlimits (.inr hlt)⟩, hbucket⟩
    next => cases h
  next => cases h

theorem exists_admits (hprovider : p.providerId = "")
    (hcurrency : equalFold token.baseCurrency currency = false)
    (hpass : L.passesRateChecks s token currency p = true) :
    ∃ key provider rate minAmount maxAmount,
      L.Admits s token currency p key provider rate minAmount maxAmount := by
  have hvalidate : L.validateRate s token currency p =
      L.validateBucketRate s token currency p.amount p.network := by
    rw [validateRate, hcurrency, if_neg Bool.false_ne_true, if_neg (not_not.2 hprovider)]
  rw [passesRateChecks, hvalidate, validateBucketRate] at hpass
  split at hpass
  next rate hfound =>
    obtain ⟨key, hkey, hrate⟩ := List.exists_of_findSome?_eq_some hfound
    obtain ⟨hvisited, hbucket⟩ := List.mem_filter.1 hkey
    obtain rfl := of_decide_eq_true hbucket
    split at hrate
    next =>
      obtain ⟨e, he, hsuits⟩ := List.exists_of_findSome?_eq_some hrate
      obtain ⟨provider, minAmount, maxAmount, rfl, hconfigured, hlimits, hrange⟩ :=
        suitableRate_eq_some hsuits
      exact ⟨key, provider, rate, minAmount, maxAmount, hvisited, rfl, he, hconfigured, hlimits,
        hrange, not_lt.1 (of_decide_eq_true hpass)⟩
    next => cases hrate
  next => cases hpass

lemma Admits.offerTest_eq_ok {env : Environment}
    (h : L.Admits s token currency p key provider rate minAmount maxAmount)
    (hconverts : order.Converts currency) (htoken : order.token = token)
    (hamount : order.amount = p.amount) :
    offerTest env order currency []
      (.offer provider token.symbol (some rate) (some minAmount) (some maxAmount)) = .ok := by
  obtain ⟨hmin, hmax⟩ := h.limits
  simp [offerTest, normalizedAmount_of_converts hconverts, htoken, hamount, not_lt.2 hmin,
    not_lt.2 hmax]

def SymbolsDistinct (L : RateLookup) (s : Store) (token : Token) : Prop :=
  ∀ t ∈ s.providerOrderTokens, t.network = token.network →
    L.symbolOf t.token = some token.symbol → t.token = token.id

def configuredToken (s : Store) (token : Token) (currency provider : String) :
    Option ProviderOrderToken :=
  s.providerOrderTokens.find? fun t =>
    t.network = token.network ∧ t.provider = provider ∧ t.token = token.id ∧
      t.currency = currency ∧ t.address ≠ ""

lemma Admits.exists_configured
    (h : L.Admits s token currency p key provider rate minAmount maxAmount)
    (hnetwork : p.network = token.network) (hset : p.network ≠ "")
    (hsymbols : L.SymbolsDistinct s token) :
    ∃ t, configuredToken s token currency provider = some t := by
  obtain ⟨t, ht⟩ := List.length_eq_one_iff.1 (h.configured hset).1
  have hmem : t ∈ L.configuredTokens s provider token.symbol currency p.network := by
    rw [ht]
    exact List.mem_singleton_self t
  obtain ⟨hrow, hfields⟩ := List.mem_filter.1 hmem
  obtain ⟨hprovider, hsymbol, hcurrency, hon, haddress⟩ := of_decide_eq_true hfields
  have hid := hsymbols t hrow (hon.trans hnetwork) hsymbol
  refine Option.isSome_iff_exists.1 (List.find?_isSome.2 ⟨t, hrow, ?_⟩)
  exact decide_eq_true ⟨hon.trans hnetwork, hprovider, hid, hcurrency, haddress⟩

lemma providerFits_of_configured {t : ProviderOrderToken} {b : Balance}
    (ht : configuredToken s order.token currency provider = some t)
    (havailable : s.isAvailableIn currency provider = true)
    (hslippage : |rate - order.rate| ≤ order.rate * Decimal.div t.rateSlippage 100)
    (hb : s.balance provider currency = some b) (hbalance : order.fiat ≤ b.available) :
    providerFits s order currency provider rate = true := by
  unfold configuredToken at ht
  rw [providerFits, ht]
  refine decide_eq_true ⟨havailable, hslippage, ?_⟩
  rw [hb]
  exact decide_eq_true hbalance

def FindsEntry (L : RateLookup) (env : Environment) (s : Store) (token : Token) (currency : String)
    (p : RatePayload) : Prop :=
  ∃ key provider rate minAmount maxAmount t,
    L.Admits s token currency p key provider rate minAmount maxAmount ∧
    configuredToken s token currency provider = some t ∧
    ∀ (order : OrderFields) (bucket : ProvisionBucket), order.token = token →
      order.amount = p.amount → order.rate = p.rate → order.provisionBucket = some bucket →
      key = ⟨bucket, false⟩ → |rate - p.rate| ≤ p.rate * Decimal.div t.rateSlippage 100 →
      (∃ b, s.balance provider currency = some b ∧ fiatAmount p.amount p.rate ≤ b.available) →
      Matchable env s ⟨bucket, false⟩ order

theorem findsEntry_of_passesRateChecks {env : Environment} (hprovider : p.providerId = "")
    (hcurrency : equalFold token.baseCurrency currency = false)
    (hnetwork : p.network = token.network) (hset : p.network ≠ "")
    (hsymbols : L.SymbolsDistinct s token) (hpass : L.passesRateChecks s token currency p = true) :
    L.FindsEntry env s token currency p := by
  obtain ⟨key, provider, rate, minAmount, maxAmount, h⟩ := exists_admits hprovider hcurrency hpass
  obtain ⟨t, ht⟩ := h.exists_configured hnetwork hset hsymbols
  refine ⟨key, provider, rate, minAmount, maxAmount, t, h, ht, ?_⟩
  rintro order bucket htoken hamount hrate - rfl hslippage ⟨b, hb, hbalance⟩
  obtain rfl := h.inCurrency
  have hconverts : order.Converts bucket.currency := by
    rw [OrderFields.Converts, htoken]
    exact hcurrency
  refine matchable_of_mem hconverts h.entry (decide_eq_true ⟨?_, ?_⟩)
  · exact h.offerTest_eq_ok hconverts htoken hamount
  refine providerFits_of_configured (htoken ▸ ht) (h.configured hset).2 ?_ hb ?_
  · rw [hrate]
    exact hslippage
  · rw [OrderFields.fiat, hamount, hrate]
    exact hbalance

end RateLookup

namespace Sample

def rateLookup : RateLookup where
  symbolOf id := if id = 1 then some "USDC" else none
  visited := [⟨bucket, false⟩]
  validateProviderRate _ _ _ _ := .error "provider not found"

end Sample

open Sample in
theorem RateLookup.findsEntry_ten :
    rateLookup.passesRateChecks (rateStore 1 1000) token "NGN" ⟨50, 10, "base", ""⟩ = true ∧
      rateLookup.FindsEntry .silent (rateStore 1 1000) token "NGN" ⟨50, 10, "base", ""⟩ := by
  have hpass : rateLookup.passesRateChecks (rateStore 1 1000) token "NGN" ⟨50, 10, "base", ""⟩ =
      true := by decide +kernel
  refine ⟨hpass, findsEntry_of_passesRateChecks rfl (by decide +kernel) rfl (by decide) ?_ hpass⟩
  intro t ht _ _
  obtain rfl := List.mem_singleton.1 ht
  rfl

open Sample in
theorem RateStore.represented_bucketRate :
    let R : RateStore :=
      { quoteStore 500 with
        scan := fun currency => some (if "NGN" = currency then ["bucket_NGN_0_1000"] else [])
        lrange := fun _ => some ["p1:USDC:10:1:90"] }
    R.validateBucketRate token "NGN" 50 "base" =
      rateLookup.validateBucketRate (rateStore 1 500) token "NGN" 50 "base" := by
  refine @Represents.validateBucketRate_eq _ _ _ (fun _ => "bucket_NGN_0_1000")
    ⟨fun currency => ?_, by decide +kernel, ?_, rfl, rfl, rfl⟩ token "NGN" 50 "base"
  · by_cases hc : "NGN" = currency <;> simp [rateLookup, bucket, hc]
  · exact List.forall_mem_singleton.2 ⟨_, rfl, by decide +kernel⟩

open Sample in
theorem RateLookup.admitted_not_matchable :
    (rateLookup.passesRateChecks (rateStore 0 1000) token "NGN" ⟨50, 9.995, "base", ""⟩ = true ∧
      (bucket.minAmount ≤ 50 * 9.995 ∧ 50 * 9.995 ≤ bucket.maxAmount) ∧
      ¬ Matchable .silent (rateStore 0 1000) ⟨bucket, false⟩ (rateOrder 9.995)) ∧
    (rateLookup.passesRateChecks (rateStore 1 0) token "NGN" ⟨50, 10, "base", ""⟩ = true ∧
      (bucket.minAmount ≤ 50 * 10 ∧ 50 * 10 ≤ bucket.maxAmount) ∧
      ¬ Matchable .silent (rateStore 1 0) ⟨bucket, false⟩ (rateOrder 10)) := by
  refine ⟨⟨by decide +kernel, by decide +kernel, not_matchable_of_forall ?_⟩,
    ⟨by decide +kernel, by decide +kernel, not_matchable_of_forall ?_⟩⟩
  · decide +kernel
  · decide +kernel

end Stablenode
