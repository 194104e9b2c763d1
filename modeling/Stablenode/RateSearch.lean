import Stablenode.Deposits

/-! Rates from the queues in Redis (utils/utils.go), read from the texts of the bucket keys and of
the queue entries. -/
namespace Stablenode

open BalanceManagement

lemma length_filter_le_one {α κ : Type} {l : List α} {f : α → κ} (hnodup : (l.map f).Nodup) (k : κ)
    {p : α → Bool} (hp : ∀ a, p a = true → f a = k) : (l.filter p).length ≤ 1 := by
  have hsub : ((l.filter p).map f).Nodup := hnodup.sublist (List.filter_sublist.map f)
  have hall : (l.filter p).map f = List.replicate (l.filter p).length k := by
    rw [List.eq_replicate_iff, List.length_map]
    refine ⟨rfl, fun b hb => ?_⟩
    obtain ⟨a, ha, rfl⟩ := List.mem_map.1 hb
    exact hp a (List.mem_filter.1 ha).2
  rw [hall] at hsub
  exact List.nodup_replicate.1 hsub

inductive ConversionRateType where
  | fixed
  | floating
  deriving DecidableEq

structure TokenConfiguration extends ProviderOrderToken where
  conversionRateType : ConversionRateType
  fixedConversionRate : ℚ
  floatingConversionRate : ℚ
  minOrderAmount : ℚ
  maxOrderAmount : ℚ
  deriving DecidableEq

structure BucketData where
  currency : String
  minAmount : ℚ
  maxAmount : ℚ
  deriving DecidableEq

structure RateStore where
  /-- The keys that one `SCAN` returns for the buckets of a currency; none if the call fails. -/
  scan : String → Option (List String)
  lrange : String → Option (List String)
  newFromString : String → Except String ℚ
  symbolOf : ℕ → Option String
  tokens : List TokenConfiguration
  providers : Table ProviderProfile.id
  balances : Table fun row : ProviderCurrency => (row.provider, row.currency)
  marketRate : String → ℚ

variable {rate : ℚ} {provider : String}

namespace RateStore

variable (R : RateStore)

def parseBucketKey (key : String) : Except String BucketData :=
  match splitText '_' key with
  | name :: currency :: minText :: maxText :: rest =>
    if 1 < rest.length then
      .error ("invalid bucket key format: expected 4 parts, got " ++ toString (rest.length + 4))
    else if name ≠ "bucket" then
      .error ("invalid bucket key prefix: expected 'bucket', got '" ++ name ++ "'")
    else if currency = "" then .error "empty currency in bucket key"
    else
      match R.newFromString minText with
      | .error e => .error ("invalid min amount '" ++ minText ++ "': " ++ e)
      | .ok minAmount =>
        match R.newFromString maxText with
        | .error e => .error ("invalid max amount '" ++ maxText ++ "': " ++ e)
        | .ok maxAmount =>
          if maxAmount ≤ minAmount then
            .error ("min amount (" ++ Decimal.toString minAmount ++ ") must be less than max amount ("
              ++ Decimal.toString maxAmount ++ ")")
          else .ok ⟨currency, minAmount, maxAmount⟩
  | parts =>
    .error ("invalid bucket key format: expected 4 parts, got " ++ toString parts.length)

def isAvailableIn (currency provider : String) : Bool :=
  (R.balances.get (provider, currency)).any (·.isAvailable)

def configurations (provider symbol currency network : String) : List TokenConfiguration :=
  R.tokens.filter fun t =>
    t.provider = provider ∧ R.isAvailableIn currency provider ∧ R.symbolOf t.token = some symbol ∧
      t.currency = currency ∧ t.network = network ∧ t.address ≠ ""

def liquid (provider currency : String) (amount : ℚ) : List ProviderCurrency :=
  R.balances.select fun row =>
    row.provider = provider ∧ row.currency = currency ∧ amount < row.balance.available ∧
      row.isAvailable

section BucketRate

variable (symbol network : String) (amount : ℚ)

def findSuitableProviderRate (bucket : BucketData) : ℚ → List String → ℚ × Bool
  | bestRate, [] => (bestRate, false)
  | bestRate, providerData :: providers =>
    match splitText ':' providerData with
    | [provider, token, rateText, minText, maxText] =>
      if token ≠ symbol then findSuitableProviderRate bucket bestRate providers
      else if network ≠ "" ∧
          (only (R.configurations provider token bucket.currency network)).toOption = none then
        findSuitableProviderRate bucket bestRate providers
      else
        match R.newFromString minText, R.newFromString maxText with
        | .ok minAmount, .ok maxAmount =>
          if amount < minAmount ∨ maxAmount < amount then
            findSuitableProviderRate bucket bestRate providers
          else
            match R.newFromString rateText with
            | .error _ => findSuitableProviderRate bucket bestRate providers
            | .ok rate =>
              let bestRate := if bestRate < rate then rate else bestRate
              if bucket.minAmount ≤ amount * rate ∧ amount * rate ≤ bucket.maxAmount then
                (rate, true)
              else
                -- the balance is only asked for when the entry has been ruled out
                match only (R.liquid provider bucket.currency (amount * rate)) with
                | .error .notSingular => (0, false)
                | _ => findSuitableProviderRate bucket bestRate providers
        | _, _ => findSuitableProviderRate bucket bestRate providers
    | _ => findSuitableProviderRate bucket bestRate providers

def searchBuckets : ℚ → List String → ℚ × Bool
  | bestRate, [] => (bestRate, false)
  | bestRate, key :: keys =>
    match R.parseBucketKey key with
    | .error _ => searchBuckets bestRate keys
    | .ok bucket =>
      match R.lrange key with
      | none => searchBuckets bestRate keys
      | some providers =>
        let (rate, found) := R.findSuitableProviderRate symbol network amount bucket 0 providers
        if found then (rate, true)
        else searchBuckets (if bestRate < rate then rate else bestRate) keys

end BucketRate

def validateBucketRate (token : Token) (currency : String) (amount : ℚ) (network : String) :
    Except String ℚ :=
  match R.scan currency with
  | none => .error "internal server error"
  | some keys =>
    match R.searchBuckets token.symbol network amount 0 keys with
    | (rate, true) => .ok rate
    | (_, false) =>
      .error ("no provider available for " ++ token.symbol ++ " to " ++ currency ++
        " conversion with amount " ++ Decimal.toString amount ++ " on " ++ network ++ " network")

section Search

variable {R} {symbol network : String} {amount : ℚ}

def Suits (R : RateStore) (symbol network : String) (amount : ℚ) (bucket : BucketData)
    (providerData : String) (rate : ℚ) : Prop :=
  ∃ provider rateText minText maxText minAmount maxAmount,
    splitText ':' providerData = [provider, symbol, rateText, minText, maxText] ∧
    R.newFromString rateText = .ok rate ∧
    R.newFromString minText = .ok minAmount ∧ R.newFromString maxText = .ok maxAmount ∧
    (network ≠ "" → R.isAvailableIn bucket.currency provider ∧
      ∃ t ∈ R.tokens, t.provider = provider ∧ R.symbolOf t.token = some symbol ∧
        t.currency = bucket.currency ∧ t.network = network ∧ t.address ≠ "") ∧
    (minAmount ≤ amount ∧ amount ≤ maxAmount) ∧
    bucket.minAmount ≤ amount * rate ∧ amount * rate ≤ bucket.maxAmount

def FirstSuiting (R : RateStore) (symbol network : String) (amount : ℚ) (keys : List String)
    (rate : ℚ) : Prop :=
  ∃ before key after bucket front providerData back,
    keys = before ++ key :: after ∧ R.parseBucketKey key = .ok bucket ∧
    R.lrange key = some (front ++ providerData :: back) ∧
    R.Suits symbol network amount bucket providerData rate ∧
    (∀ text ∈ front, ∀ r, ¬ R.Suits symbol network amount bucket text r) ∧
    ∀ key' ∈ before, ∀ bucket' texts, R.parseBucketKey key' = .ok bucket' →
      R.lrange key' = some texts → ∀ text ∈ texts, ∀ r,
        ¬ R.Suits symbol network amount bucket' text r

def ConfiguredOnce (R : RateStore) : Prop :=
  (R.tokens.map fun t => (t.provider, R.symbolOf t.token, t.currency, t.network)).Nodup

instance (R : RateStore) : Decidable R.ConfiguredOnce := inferInstanceAs (Decidable (List.Nodup _))

def entryRate (R : RateStore) (symbol network : String) (amount : ℚ) (bucket : BucketData)
    (providerData : String) : Option ℚ :=
  match splitText ':' providerData with
  | [provider, token, rateText, minText, maxText] =>
    if token ≠ symbol then none
    else if network ≠ "" ∧
        (only (R.configurations provider token bucket.currency network)).toOption = none then none
    else
      match R.newFromString minText, R.newFromString maxText with
      | .ok minAmount, .ok maxAmount =>
        if amount < minAmount ∨ maxAmount < amount then none
        else
          match R.newFromString rateText with
          | .error _ => none
          | .ok rate =>
            if bucket.minAmount ≤ amount * rate ∧ amount * rate ≤ bucket.maxAmount then some rate
            else none
      | _, _ => none
  | _ => none

lemma liquid_ne_notSingular (provider currency : String) (fiat : ℚ) :
    only (R.liquid provider currency fiat) ≠ .error .notSingular := by
  apply only_ne_notSingular
  refine length_filter_le_one R.balances.nodup_keys (provider, currency) fun row hrow => ?_
  have h := of_decide_eq_true hrow
  rw [h.1, h.2.1]

lemma findSuitableProviderRate_cons (bucket : BucketData) (bestRate : ℚ) (providerData : String)
    (providers : List String) :
    ∃ bestRate', R.findSuitableProviderRate symbol network amount bucket bestRate
        (providerData :: providers) =
      match R.entryRate symbol network amount bucket providerData with
      | some rate => (rate, true)
      | none => R.findSuitableProviderRate symbol network amount bucket bestRate' providers := by
  rw [findSuitableProviderRate, entryRate]
  split
  next provider token rateText minText maxText _ =>
    split
    · exact ⟨bestRate, rfl⟩
    split
    · exact ⟨bestRate, rfl⟩
    split
    next minAmount maxAmount _ _ =>
      split
      · exact ⟨bestRate, rfl⟩
      split
      · exact ⟨bestRate, rfl⟩
      next rate _ =>
        refine ⟨if bestRate < rate then rate else bestRate, ?_⟩
        by_cases hbucket : bucket.minAmount ≤ amount * rate ∧ amount * rate ≤ bucket.maxAmount
        · simp only [if_pos hbucket]
        simp only [if_neg hbucket]
        split
        next h => exact absurd h (liquid_ne_notSingular provider bucket.currency (amount * rate))
        · rfl
    · exact ⟨bestRate, rfl⟩
  · exact ⟨bestRate, rfl⟩

lemma findSuitableProviderRate_eq (bucket : BucketData) (bestRate : ℚ) (providers : List String) :
    ∃ bestRate', R.findSuitableProviderRate symbol network amount bucket bestRate providers =
      match providers.findSome? (R.entryRate symbol network amount bucket) with
      | some rate => (rate, true)
      | none => (bestRate', false) := by
  induction providers generalizing bestRate with
  | nil => exact ⟨bestRate, rfl⟩
  | cons providerData providers ih =>
    obtain ⟨best, hcons⟩ := R.findSuitableProviderRate_cons bucket bestRate providerData providers
    rw [hcons, List.findSome?_cons]
    cases R.entryRate symbol network amount bucket providerData with
    | some rate => exact ⟨best, rfl⟩
    | none => exact ih best

def keyRate (R : RateStore) (symbol network : String) (amount : ℚ) (key : String) : Option ℚ :=
  match R.parseBucketKey key, R.lrange key with
  | .ok bucket, some providers => providers.findSome? (R.entryRate symbol network amount bucket)
  | _, _ => none

lemma searchBuckets_eq (bestRate : ℚ) (keys : List String) :
    ∃ bestRate', R.searchBuckets symbol network amount bestRate keys =
      match keys.findSome? (R.keyRate symbol network amount) with
      | some rate => (rate, true)
      | none => (bestRate', false) := by
  induction keys generalizing bestRate with
  | nil => exact ⟨bestRate, rfl⟩
  | cons key keys ih =>
    rw [searchBuckets, List.findSome?_cons, keyRate]
    cases R.parseBucketKey key with
    | error e => exact ih bestRate
    | ok bucket =>
      cases R.lrange key with
      | none => exact ih bestRate
      | some providers =>
        obtain ⟨best, hfind⟩ :=
          @findSuitableProviderRate_eq R symbol network amount bucket 0 providers
        simp only [hfind]
        cases providers.findSome? (R.entryRate symbol network amount bucket) with
        | some rate => exact ⟨best, rfl⟩
        | none => exact ih _

variable {keys : List String} {currency providerData key : String} {bucket : BucketData}

lemma validateBucketRate_eq_ok_iff {token : Token} (hscan : R.scan currency = some keys) :
    R.validateBucketRate token currency amount network = .ok rate ↔
      keys.findSome? (R.keyRate token.symbol network amount) = some rate := by
  obtain ⟨best, hsearch⟩ := @searchBuckets_eq R token.symbol network amount 0 keys
  rw [validateBucketRate, hscan]
  simp only [hsearch]
  cases keys.findSome? (R.keyRate token.symbol network amount) <;> simp

variable (hone : R.ConfiguredOnce)
include hone

lemma only_configurations_iff :
    (only (R.configurations provider symbol currency network)).toOption ≠ none ↔
      R.isAvailableIn currency provider ∧
        ∃ t ∈ R.tokens, t.provider = provider ∧ R.symbolOf t.token = some symbol ∧
          t.currency = currency ∧ t.network = network ∧ t.address ≠ "" := by
  have hle : (R.configurations provider symbol currency network).length ≤ 1 := by
    refine length_filter_le_one hone (provider, some symbol, currency, network) fun t ht => ?_
    obtain ⟨rfl, -, hsymbol, rfl, rfl, -⟩ := of_decide_eq_true ht
    rw [hsymbol]
  have hmem : ∀ t, t ∈ R.configurations provider symbol currency network ↔
      t ∈ R.tokens ∧ t.provider = provider ∧ R.isAvailableIn currency provider ∧
        R.symbolOf t.token = some symbol ∧ t.currency = currency ∧ t.network = network ∧
          t.address ≠ "" := by
    intro t
    rw [configurations, List.mem_filter, decide_eq_true_iff]
  rcases hrows : R.configurations provider symbol currency network with _ | ⟨t, _ | ⟨t', rows⟩⟩
  · rw [hrows] at hmem
    refine iff_of_false (fun h => h rfl) ?_
    rintro ⟨havailable, t, ht, hprovider, hrest⟩
    exact List.not_mem_nil ((hmem t).2 ⟨ht, hprovider, havailable, hrest⟩)
  · rw [hrows] at hmem
    obtain ⟨ht, hprovider, havailable, hrest⟩ := (hmem t).1 (List.mem_singleton_self t)
    exact iff_of_true (by simp [only, Except.toOption]) ⟨havailable, t, ht, hprovider, hrest⟩
  · rw [hrows] at hle
    simp at hle

lemma entryRate_eq_some_iff :
    R.entryRate symbol network amount bucket providerData = some rate ↔
      R.Suits symbol network amount bucket providerData rate := by
  rw [entryRate, Suits]
  constructor
  · intro h
    split at h
    next provider token rateText minText maxText hsplit =>
      split at h
      · cases h
      next htoken =>
      split at h
      · cases h
      next hnetwork =>
      split at h
      next minAmount maxAmount hmin hmax =>
        split at h
        · cases h
        next hlimits =>
        split at h
        · cases h
        next r hrate =>
        split at h
        next hbucket =>
          cases h
          obtain rfl := not_ne_iff.1 htoken
          rw [not_or, not_lt, not_lt] at hlimits
          refine ⟨provider, rateText, minText, maxText, minAmount, maxAmount, hsplit, hrate, hmin,
            hmax, fun hne => (only_configurations_iff hone).1 fun hnone => hnetwork ⟨hne, hnone⟩,
            hlimits, hbucket⟩
        · cases h
      · cases h
    · cases h
  · rintro ⟨provider, rateText, minText, maxText, minAmount, maxAmount, hsplit, hrate, hmin, hmax,
      hconfigured, hlimits, hbucket⟩
    have hnetwork : ¬ (network ≠ "" ∧
        (only (R.configurations provider symbol bucket.currency network)).toOption = none) :=
      fun h => (only_configurations_iff hone).2 (hconfigured h.1) h.2
    have hrange : ¬ (amount < minAmount ∨ maxAmount < amount) := by
      rw [not_or, not_lt, not_lt]
      exact hlimits
    simp only [hsplit, hmin, hmax, hrate, ne_eq, not_true, if_false, if_neg hnetwork,
      if_neg hrange, if_pos hbucket]

lemma entryRate_eq_none_iff :
    R.entryRate symbol network amount bucket providerData = none ↔
      ∀ rate, ¬ R.Suits symbol network amount bucket providerData rate := by
  rw [Option.eq_none_iff_forall_ne_some]
  exact forall_congr' fun rate => not_congr (entryRate_eq_some_iff hone)

lemma keyRate_eq_none_iff :
    R.keyRate symbol network amount key = none ↔
      ∀ bucket texts, R.parseBucketKey key = .ok bucket → R.lrange key = some texts →
        ∀ text ∈ texts, ∀ rate, ¬ R.Suits symbol network amount bucket text rate := by
  rw [keyRate]
  split
  next bucket providers hparse hrange =>
    simp only [List.findSome?_eq_none_iff, entryRate_eq_none_iff hone, hparse, hrange,
      Except.ok.injEq, Option.some.injEq]
    exact ⟨fun h b texts hb ht => hb ▸ ht ▸ h, fun h => h bucket providers rfl rfl⟩
  next hnot =>
    exact iff_of_true rfl fun bucket texts hparse hrange => (hnot bucket texts hparse hrange).elim

lemma keyRate_eq_some_iff :
    R.keyRate symbol network amount key = some rate ↔
      ∃ bucket front providerData back, R.parseBucketKey key = .ok bucket ∧
        R.lrange key = some (front ++ providerData :: back) ∧
        R.Suits symbol network amount bucket providerData rate ∧
        ∀ text ∈ front, ∀ r, ¬ R.Suits symbol network amount bucket text r := by
  rw [keyRate]
  constructor
  · intro h
    split at h
    next bucket providers hparse hrange =>
      obtain ⟨front, providerData, back, rfl, hrate, hfront⟩ := List.findSome?_eq_some_iff.1 h
      exact ⟨bucket, front, providerData, back, hparse, hrange, (entryRate_eq_some_iff hone).1 hrate,
        fun text ht => (entryRate_eq_none_iff hone).1 (hfront text ht)⟩
    · cases h
  · rintro ⟨bucket, front, providerData, back, hparse, hrange, hsuits, hfront⟩
    simp only [hparse, hrange]
    exact List.findSome?_eq_some_iff.2 ⟨front, providerData, back, rfl,
      (entryRate_eq_some_iff hone).2 hsuits,
      fun text ht => (entryRate_eq_none_iff hone).2 (hfront text ht)⟩

lemma findSome?_keyRate_iff :
    keys.findSome? (R.keyRate symbol network amount) = some rate ↔
      R.FirstSuiting symbol network amount keys rate := by
  rw [List.findSome?_eq_some_iff, FirstSuiting]
  constructor
  · rintro ⟨before, key, after, rfl, hkey, hbefore⟩
    obtain ⟨bucket, front, providerData, back, hparse, hrange, hsuits, hfront⟩ :=
      (keyRate_eq_some_iff hone).1 hkey
    exact ⟨before, key, after, bucket, front, providerData, back, rfl, hparse, hrange, hsuits,
      hfront, fun key' hkey' => (keyRate_eq_none_iff hone).1 (hbefore key' hkey')⟩
  · rintro ⟨before, key, after, bucket, front, providerData, back, rfl, hparse, hrange, hsuits,
      hfront, hbefore⟩
    exact ⟨before, key, after, rfl,
      (keyRate_eq_some_iff hone).2 ⟨bucket, front, providerData, back, hparse, hrange, hsuits, hfront⟩,
      fun key' hkey' => (keyRate_eq_none_iff hone).2 (hbefore key' hkey')⟩

omit hone

theorem validateBucketRate_iff_first (hone : R.ConfiguredOnce) {token : Token} {currency : String}
    {keys : List String} (hscan : R.scan currency = some keys) :
    ((∃ rate, R.validateBucketRate token currency amount network = .ok rate) ↔
      ∃ key ∈ keys, ∃ bucket texts, R.parseBucketKey key = .ok bucket ∧ R.lrange key = some texts ∧
        ∃ text ∈ texts, ∃ rate, R.Suits token.symbol network amount bucket text rate) ∧
    ∀ rate, R.validateBucketRate token currency amount network = .ok rate ↔
      R.FirstSuiting token.symbol network amount keys rate := by
  have hfirst : ∀ rate, R.validateBucketRate token currency amount network = .ok rate ↔
      R.FirstSuiting token.symbol network amount keys rate := fun rate =>
    (validateBucketRate_eq_ok_iff hscan).trans (findSome?_keyRate_iff hone)
  refine ⟨⟨?_, ?_⟩, hfirst⟩
  · rintro ⟨rate, hrate⟩
    obtain ⟨before, key, after, bucket, front, providerData, back, rfl, hparse, hrange, hsuits, -⟩ :=
      (hfirst rate).1 hrate
    exact ⟨key, by simp, bucket, _, hparse, hrange, providerData, by simp, rate, hsuits⟩
  · rintro ⟨key, hkey, bucket, texts, hparse, hrange, text, htext, rate, hsuits⟩
    -- some key of the list gives a rate, so the search does
    have hne : keys.findSome? (R.keyRate token.symbol network amount) ≠ none := fun hnone =>
      (keyRate_eq_none_iff hone).1 (List.findSome?_eq_none_iff.1 hnone key hkey) bucket texts hparse
        hrange text htext rate hsuits
    obtain ⟨found, hfound⟩ := Option.ne_none_iff_exists'.1 hne
    exact ⟨found, (validateBucketRate_eq_ok_iff hscan).2 hfound⟩

end Search

def getProviderRateFromRedis (provider symbol currency : String) (amount : ℚ) : Option ℚ :=
  ((R.scan currency).getD []).findSome? fun key =>
    match R.parseBucketKey key, R.lrange key with
    | .ok _, some providers =>
      providers.findSome? fun providerData =>
        match splitText ':' providerData with
        | [id, token, rateText, minText, maxText] =>
          if id = provider ∧ token = symbol then
            match R.newFromString rateText, R.newFromString minText, R.newFromString maxText with
            | .ok rate, .ok minAmount, .ok maxAmount =>
              if minAmount ≤ amount ∧ amount ≤ maxAmount then some rate else none
            | _, _, _ => none
          else none
        | _ => none
    | _, _ => none

def validateProviderRate (token : Token) (currency : String) (amount : ℚ)
    (providerId network : String) : Except String ℚ :=
  match R.providers.get providerId with
  | none => .error "provider not found"
  | some provider =>
    match R.tokens.find? fun t =>
        t.provider = provider.id ∧ t.token = token.id ∧ t.currency = currency ∧
          (network ≠ "" → t.network = network) with
    | none => .error "provider does not support this token/currency combination"
    | some t =>
      if amount < t.minOrderAmount ∨ t.maxOrderAmount < amount then
        .error ("amount must be between " ++ Decimal.toString t.minOrderAmount ++ " and " ++
          Decimal.toString t.maxOrderAmount ++ " for this provider")
      else
        let rateResponse :=
          (R.getProviderRateFromRedis providerId token.symbol currency amount).getD
            (match t.conversionRateType with
            | .fixed => t.fixedConversionRate
            | .floating => R.marketRate currency + t.floatingConversionRate)
        match only (R.liquid provider.id currency (amount * rateResponse)) with
        | .ok _ => .ok rateResponse
        | .error .notFound => .error ("provider has insufficient liquidity for " ++ currency)
        | .error .notSingular => .error "internal server error"

def validateRate (token : Token) (currency : String) (amount : ℚ) (providerId network : String) :
    Except String ℚ :=
  if equalFold token.baseCurrency currency then .ok 1
  else if providerId ≠ "" then R.validateProviderRate token currency amount providerId network
  else R.validateBucketRate token currency amount network

end RateStore

namespace Sample

def quoteStore (available : ℚ) : RateStore where
  scan _ := some ["bucket_NGN", "bucket_NGN_0_1000"]
  lrange key := if key = "bucket_NGN_0_1000" then some ["p1", "p1:USDC:10:1:90"] else some []
  newFromString text :=
    if text = "0" then .ok 0 else if text = "1" then .ok 1 else if text = "10" then .ok 10
    else if text = "90" then .ok 90 else if text = "1000" then .ok 1000 else .error "not a number"
  symbolOf id := if id = 1 then some "USDC" else none
  tokens := [⟨⟨"p1", 1, "NGN", "base", "0xp1", 1⟩, .fixed, 10, 0, 1, 90⟩]
  providers := .single ⟨"p1", .publicMode⟩
  balances := .single ⟨"p1", "NGN", ⟨available, 0, available⟩, true, 0⟩
  marketRate _ := 10

end Sample

namespace RateStore

open Sample in
theorem validateBucketRate_iff_first_sample :
    (quoteStore 100).FirstSuiting "USDC" "base" 50 ["bucket_NGN", "bucket_NGN_0_1000"] 10 :=
  ((validateBucketRate_iff_first (by decide +kernel) rfl).2 10).1
    (by decide +kernel : (quoteStore 100).validateBucketRate token "NGN" 50 "base" = .ok 10)

section Liquidity

variable {R : RateStore} {token : Token} {currency providerId network : String} {amount : ℚ}

def Offers (R : RateStore) (token : Token) (currency network provider : String) : Prop :=
  ∃ t ∈ R.tokens, t.provider = provider ∧ t.token = token.id ∧ t.currency = currency ∧
    (network ≠ "" → t.network = network)

def Covers (R : RateStore) (currency provider : String) (fiat : ℚ) : Prop :=
  ∃ row ∈ R.balances.rows, row.provider = provider ∧ row.currency = currency ∧
    fiat ≤ row.balance.available

def Backed (R : RateStore) (token : Token) (currency : String) (amount : ℚ)
    (providerId network : String) (rate : ℚ) : Prop :=
  ∃ provider, (providerId ≠ "" → provider = providerId) ∧ R.Offers token currency network provider ∧
    R.Covers currency provider (amount * rate)

def firstRate (R : RateStore) (symbol network : String) (amount : ℚ) (keys : List String) :
    Option ℚ :=
  keys.findSome? (R.keyRate symbol network amount)

lemma covers_of_only_liquid {fiat : ℚ} {row : ProviderCurrency}
    (h : only (R.liquid provider currency fiat) = .ok row) : R.Covers currency provider fiat := by
  have hmem : row ∈ R.liquid provider currency fiat := by
    rw [only_eq_ok_iff.1 h]
    exact List.mem_singleton_self row
  obtain ⟨hrow, hquery⟩ := List.mem_filter.1 hmem
  obtain ⟨hprovider, hcurrency, hless, -⟩ := of_decide_eq_true hquery
  exact ⟨row, hrow, hprovider, hcurrency, hless.le⟩

lemma backed_of_validateProviderRate
    (h : R.validateProviderRate token currency amount providerId network = .ok rate) :
    R.Backed token currency amount providerId network rate := by
  rw [validateProviderRate] at h
  split at h
  · cases h
  next provider hprovider =>
  have hid : provider.id = providerId := Table.get_key hprovider
  split at h
  · cases h
  next t ht =>
  split at h
  · cases h
  simp only at h
  split at h
  next row honly =>
    cases h
    refine ⟨provider.id, fun _ => hid, ⟨t, List.mem_of_find?_eq_some ht, ?_⟩,
      covers_of_only_liquid honly⟩
    have hquery := List.find?_some ht
    exact of_decide_eq_true hquery
  · cases h
  · cases h

end Liquidity

end RateStore

end Stablenode
