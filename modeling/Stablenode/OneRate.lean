import Stablenode.DecimalText
import Stablenode.ProviderLimits

/-! The rate of a token configuration, as `GetProviderRate`, the queue entry
(services/priority_queue.go) and `validateProviderRate` (utils/utils.go) state it. -/
namespace Stablenode

def QueueEntry.text : QueueEntry → String
  | .offer provider token rate minAmount maxAmount =>
    let number (x : Option ℚ) := (x.map Decimal.toString).getD ""
    provider ++ ":" ++ token ++ ":" ++ number rate ++ ":" ++ number minAmount ++ ":" ++
      number maxAmount
  | .malformed text => text

def QueueKey.text (key : QueueKey) : String :=
  "bucket_" ++ key.bucket.currency ++ "_" ++ Decimal.toString key.bucket.minAmount ++ "_" ++
    Decimal.toString key.bucket.maxAmount ++ if key.prev then "_prev" else ""

def QueueEntry.offeredRate : QueueEntry → Option ℚ
  | .offer _ _ rate _ _ => rate
  | .malformed _ => none

lemma find?_eq_some_of_sole {α : Type} {l : List α} {p : α → Bool} {a : α} (ha : a ∈ l)
    (hp : p a = true) (hsole : ∀ b ∈ l, p b = true → b = a) : l.find? p = some a := by
  obtain ⟨b, hb⟩ := Option.isSome_iff_exists.1 (List.find?_isSome.2 ⟨a, ha, hp⟩)
  rw [hb, hsole b (List.mem_of_find?_eq_some hb) (List.find?_some hb)]

lemma two_le_length_splitText {separator : Char} {a : String} (h : separator ∈ a.toList) :
    2 ≤ (splitText separator a).length := by
  obtain ⟨front, back, hsplit⟩ := List.append_of_mem h
  have hfront := List.length_pos_of_ne_nil (List.splitOn_ne_nil separator front)
  have hback := List.length_pos_of_ne_nil (List.splitOn_ne_nil separator back)
  rw [splitText, List.length_map, hsplit, List.splitOn_append_cons_self, List.length_append]
  omega

lemma splitText_ne_nil (separator : Char) (a : String) : splitText separator a ≠ [] := by
  simp [splitText, List.splitOn_ne_nil]

variable {R : RateStore} {rate : ℚ}

section Parse

variable {provider symbol : String} {low high : ℚ}

lemma splitText_entry (provider symbol : String) (rate low high : ℚ) :
    splitText ':' (QueueEntry.offer provider symbol (some rate) (some low) (some high)).text =
      splitText ':' provider ++ splitText ':' symbol ++
        [Decimal.toString rate, Decimal.toString low, Decimal.toString high] := by
  have hnumber : ∀ x, splitText ':' (Decimal.toString x) = [Decimal.toString x] := fun x =>
    splitText_eq_singleton (Decimal.not_mem_toString (by decide) (by decide) (by decide) x)
  have hcolon : ":" = String.singleton ':' := rfl
  simp only [QueueEntry.text, Option.map_some, Option.getD_some, hcolon, splitText_append, hnumber,
    List.append_assoc, List.cons_append, List.nil_append]

lemma offeredRate_parseEntry_iff (hrate : R.newFromString (Decimal.toString rate) = .ok rate) :
    (R.parseEntry
        (QueueEntry.offer provider symbol (some rate) (some low) (some high)).text).offeredRate =
        some rate ↔ ':' ∉ provider.toList ∧ ':' ∉ symbol.toList := by
  constructor
  · intro h
    by_contra hcolon
    have hlength : 3 ≤ (splitText ':' provider).length + (splitText ':' symbol).length := by
      have hprovider := List.length_pos_of_ne_nil (splitText_ne_nil ':' provider)
      have hsymbol := List.length_pos_of_ne_nil (splitText_ne_nil ':' symbol)
      rcases not_and_or.1 hcolon with hmem | hmem
      · have := two_le_length_splitText (not_not.1 hmem)
        omega
      · have := two_le_length_splitText (not_not.1 hmem)
        omega
    rw [RateStore.parseEntry, splitText_entry] at h
    split at h
    next hparts =>
      have := congrArg List.length hparts
      simp only [List.length_append, List.length_cons, List.length_nil] at this
      omega
    · cases h
  · rintro ⟨hprovider, hsymbol⟩
    rw [RateStore.parseEntry, splitText_entry, splitText_eq_singleton hprovider,
      splitText_eq_singleton hsymbol]
    simp [QueueEntry.offeredRate, hrate, Except.toOption]

lemma splitText_key (key : QueueKey) :
    splitText '_' key.text = "bucket" :: (splitText '_' key.bucket.currency ++
      Decimal.toString key.bucket.minAmount :: Decimal.toString key.bucket.maxAmount ::
        if key.prev then ["prev"] else []) := by
  have hnumber : ∀ x, splitText '_' (Decimal.toString x) = [Decimal.toString x] := fun x =>
    splitText_eq_singleton (Decimal.not_mem_toString (by decide) (by decide) (by decide) x)
  have hbucket : splitText '_' "bucket" = ["bucket"] := splitText_eq_singleton (by decide)
  have hprev : splitText '_' "prev" = ["prev"] := splitText_eq_singleton (by decide)
  have hname : "bucket_" = "bucket" ++ String.singleton '_' := rfl
  have hline : "_" = String.singleton '_' := rfl
  have hend : "_prev" = String.singleton '_' ++ "prev" := rfl
  rw [QueueKey.text, hname, hline, hend]
  split
  · simp only [← String.append_assoc, splitText_append, hnumber, hbucket, hprev,
      List.append_assoc, List.cons_append, List.nil_append]
  · simp only [String.append_empty, splitText_append, hnumber, hbucket, List.append_assoc,
      List.cons_append, List.nil_append]

end Parse

def TokenConfiguration.statedRate (t : TokenConfiguration) (marketRate : ℚ) : ℚ :=
  match t.conversionRateType with
  | .fixed => t.fixedConversionRate
  | .floating => marketRate + t.floatingConversionRate

namespace RateStore

variable {token : Token} {currency providerId network : String} {amount : ℚ}

def databaseRate (R : RateStore) (t : TokenConfiguration) : ℚ :=
  t.statedRate (R.marketRate t.currency)

lemma validateProviderRate_of_notQueued
    (hqueue : R.getProviderRateFromRedis providerId token.symbol currency amount = none)
    (h : R.validateProviderRate token currency amount providerId network = .ok rate) :
    ∃ t ∈ R.tokens, t.provider = providerId ∧ t.token = token.id ∧ t.currency = currency ∧
      rate = R.databaseRate t := by
  rw [validateProviderRate] at h
  split at h
  · cases h
  next provider hprovider =>
    split at h
    · cases h
    next t hfind =>
      have ht := List.find?_some hfind
      simp only [decide_eq_true_eq] at ht
      split at h
      · cases h
      simp only [hqueue, Option.getD_none] at h
      split at h
      next =>
        cases h
        refine ⟨t, List.mem_of_find?_eq_some hfind, ?_, ht.2.1, ht.2.2.1, ?_⟩
        · exact ht.1.trans (Table.get_key hprovider)
        · obtain rfl := ht.2.2.1
          rfl
      · cases h
      · cases h

structure ReadsWith (R : RateStore) (Q : QueueBuilder) : Prop where
  tokens : R.tokens = Q.tokens
  marketRate : R.marketRate = Q.marketRate
  newFromString : ∀ x, Decimal.Terminates x → R.newFromString (Decimal.toString x) = .ok x

end RateStore

namespace QueueBuilder

structure Sole (Q : QueueBuilder) (t : TokenConfiguration) : Prop where
  mem : t ∈ Q.tokens
  eq_of_mem : ∀ t' ∈ Q.tokens, t'.provider = t.provider →
    Q.symbolOf t'.token = Q.symbolOf t.token → t'.currency = t.currency → t' = t

def OneRate (Q : QueueBuilder) (t : TokenConfiguration) : Prop :=
  ∃ rate, Q.getProviderRate t.provider (Q.symbolOf t.token) t.currency = some rate ∧
    ∀ R : RateStore, R.ReadsWith Q →
      (∀ s providers r low high,
        .offer t.provider (Q.symbolOf t.token) r low high ∈ Q.entries s t.currency providers →
        (R.parseEntry (QueueEntry.offer t.provider (Q.symbolOf t.token) r low high).text).offeredRate
          = some rate) ∧
      R.databaseRate t = rate ∧
      ∀ (token : Token) amount network, token.id = t.token →
        R.getProviderRateFromRedis t.provider token.symbol t.currency amount = none → ∀ r,
        R.validateProviderRate token t.currency amount t.provider network = .ok r → r = rate

def StatesCents (Q : QueueBuilder) (t : TokenConfiguration) : Prop :=
  let stated := t.statedRate (Q.marketRate t.currency)
  (t.conversionRateType = .floating → ∃ z : ℤ, stated * 10 ^ 2 = z) ∧
  (t.address ≠ "" → stated ≠ 0 → Q.deviates (Q.symbolOf t.token) t.currency stated = false →
    ':' ∉ t.provider.toList ∧ ':' ∉ (Q.symbolOf t.token).toList)

variable {Q : QueueBuilder} {t : TokenConfiguration}

lemma Sole.getProviderRate (h : Q.Sole t) :
    Q.getProviderRate t.provider (Q.symbolOf t.token) t.currency = some (Q.configuredRate t) := by
  have hfind : Q.tokens.find? (fun t' => t'.provider = t.provider ∧
      Q.symbolOf t'.token = Q.symbolOf t.token ∧ t'.currency = t.currency) = some t := by
    refine find?_eq_some_of_sole h.mem (by simp) fun t' ht' hsame => ?_
    simp only [decide_eq_true_eq] at hsame
    exact h.eq_of_mem t' ht' hsame.1 hsame.2.1 hsame.2.2
  rw [QueueBuilder.getProviderRate, hfind, Option.map_some]

lemma configuredRate_eq_statedRate_iff :
    Q.configuredRate t = t.statedRate (Q.marketRate t.currency) ↔
      (t.conversionRateType = .floating →
        ∃ z : ℤ, t.statedRate (Q.marketRate t.currency) * 10 ^ 2 = z) := by
  rw [configuredRate, TokenConfiguration.statedRate]
  cases t.conversionRateType with
  | fixed => simp
  | floating => simpa using Decimal.roundBank_eq_self_iff

lemma terminates_configuredRate (hfixed : Decimal.Terminates t.fixedConversionRate) :
    Decimal.Terminates (Q.configuredRate t) := by
  rw [configuredRate]
  cases t.conversionRateType with
  | fixed => exact hfixed
  | floating => exact Decimal.terminates_roundBank _ _

lemma Sole.mem_entries (h : Q.Sole t) {s : Store} (haddress : t.address ≠ "")
    (hrow : (s.balances.get (t.provider, t.currency)).isSome) (hzero : Q.configuredRate t ≠ 0)
    (hdeviates : Q.deviates (Q.symbolOf t.token) t.currency (Q.configuredRate t) = false) :
    .offer t.provider (Q.symbolOf t.token) (some (Q.configuredRate t)) (some t.minOrderAmount)
      (some t.maxOrderAmount) ∈ Q.entries s t.currency [t.provider] := by
  have hmem : t ∈ Q.orderTokens t.provider t.currency := by
    rw [orderTokens, List.mem_filter]
    exact ⟨h.mem, by simp [haddress]⟩
  have hfind : (Q.orderTokens t.provider t.currency).find?
      (fun t' => Q.symbolOf t'.token = Q.symbolOf t.token) = some t := by
    refine find?_eq_some_of_sole hmem (by simp) fun t' ht' hsymbol => ?_
    have hstored := List.mem_filter.1 ht'
    simp only [decide_eq_true_eq] at hsymbol hstored
    exact h.eq_of_mem t' hstored.1 hstored.2.1 hsymbol hstored.2.2.1
  rw [entries, List.flatMap_singleton, providerEntries, if_pos hrow]
  exact mem_pushTokens.2 ⟨_, t, List.not_mem_nil, hfind,
    entryFor_eq_some_iff.2 ⟨_, h.getProviderRate, hzero, hdeviates, rfl⟩⟩

lemma Sole.rate_of_mem_entries (h : Q.Sole t) {s : Store} {providers : List String}
    {r low high : Option ℚ}
    (hmem : .offer t.provider (Q.symbolOf t.token) r low high ∈ Q.entries s t.currency providers) :
    r = some (Q.configuredRate t) ∧ Q.configuredRate t ≠ 0 ∧ t.address ≠ "" ∧
      Q.deviates (Q.symbolOf t.token) t.currency (Q.configuredRate t) = false ∧
      low = some t.minOrderAmount ∧ high = some t.maxOrderAmount := by
  obtain ⟨first, rate, hfirst, hrate, hzero, hdeviates, rfl, rfl, rfl⟩ := mem_entries_offer hmem
  obtain rfl := Option.some.inj (h.getProviderRate.symm.trans hrate)
  have hsymbol := List.find?_some hfirst
  have hstored := List.mem_filter.1 (List.mem_of_find?_eq_some hfirst)
  simp only [decide_eq_true_eq] at hsymbol hstored
  obtain rfl := h.eq_of_mem first hstored.1 hstored.2.1 hsymbol hstored.2.2.1
  exact ⟨rfl, hzero, hstored.2.2.2, hdeviates, rfl, rfl⟩

def withoutQueues (Q : QueueBuilder) (providers : Table ProviderProfile.id)
    (balances : Table fun row : ProviderCurrency => (row.provider, row.currency)) : RateStore where
  scan _ := none
  lrange _ := none
  newFromString text :=
    match Decimal.ofString text with
    | some x => .ok x
    | none => .error "can't convert to decimal"
  symbolOf id := some (Q.symbolOf id)
  tokens := Q.tokens
  providers := providers
  balances := balances
  marketRate := Q.marketRate

lemma readsWith_withoutQueues (providers : Table ProviderProfile.id)
    (balances : Table fun row : ProviderCurrency => (row.provider, row.currency)) :
    (Q.withoutQueues providers balances).ReadsWith Q :=
  ⟨rfl, rfl, fun x hx => by simp only [withoutQueues, Decimal.ofString_toString hx]⟩

lemma OneRate.configuredRate_eq (hsole : Q.Sole t) (h : Q.OneRate t) :
    Q.configuredRate t = t.statedRate (Q.marketRate t.currency) := by
  obtain ⟨rate, hrate, hreads⟩ := h
  obtain rfl := Option.some.inj (hsole.getProviderRate.symm.trans hrate)
  exact (hreads _ (readsWith_withoutQueues .empty .empty)).2.1.symm

theorem oneRate_iff_statesCents (hsole : Q.Sole t)
    (hfixed : Decimal.Terminates t.fixedConversionRate) : Q.OneRate t ↔ Q.StatesCents t := by
  have hdecimal := terminates_configuredRate (Q := Q) hfixed
  constructor
  · intro h
    have hstated := h.configuredRate_eq hsole
    refine ⟨configuredRate_eq_statedRate_iff.1 hstated, fun haddress hzero hdeviates => ?_⟩
    rw [← hstated] at hzero hdeviates
    obtain ⟨rate, hrate, hreads⟩ := h
    obtain rfl := Option.some.inj (hsole.getProviderRate.symm.trans hrate)
    -- a provider with a balance row is pushed
    let balances : Table fun row : ProviderCurrency => (row.provider, row.currency) :=
      ⟨[⟨t.provider, t.currency, ⟨0, 0, 0⟩, true, 0⟩], List.nodup_singleton _⟩
    have hR := readsWith_withoutQueues (Q := Q) .empty balances
    have hmem := hsole.mem_entries (s := { Store.empty with balances := balances }) haddress
      (by simp [balances, Table.get]) hzero hdeviates
    exact (offeredRate_parseEntry_iff (hR.newFromString _ hdecimal)).1
      ((hreads _ hR).1 _ _ _ _ _ hmem)
  · rintro ⟨hcents, hcolon⟩
    have hstated := configuredRate_eq_statedRate_iff.2 hcents
    refine ⟨Q.configuredRate t, hsole.getProviderRate, fun R hR => ?_⟩
    have hdatabase : R.databaseRate t = Q.configuredRate t := by
      rw [hstated, RateStore.databaseRate, hR.marketRate]
    refine ⟨fun s providers r low high hmem => ?_, hdatabase, ?_⟩
    · obtain ⟨rfl, hzero, haddress, hdeviates, rfl, rfl⟩ := hsole.rate_of_mem_entries hmem
      rw [hstated] at hzero hdeviates
      exact (offeredRate_parseEntry_iff (hR.newFromString _ hdecimal)).2
        (hcolon haddress hzero hdeviates)
    · intro token amount network htoken hqueue r hr
      obtain ⟨t', hmem, hprovider, htoken', hcurrency, rfl⟩ :=
        RateStore.validateProviderRate_of_notQueued hqueue hr
      rw [hR.tokens] at hmem
      rw [hsole.eq_of_mem t' hmem hprovider (by rw [htoken', htoken]) hcurrency, hdatabase]

end QueueBuilder

namespace Sample

def floatingOnBase : TokenConfiguration :=
  ⟨⟨"p1", 1, "NGN", "base", "0xp1", 1⟩, .floating, 0, 1 / 2, 1, 90⟩

def marketAt (marketRate : ℚ) : QueueBuilder :=
  { networks [floatingOnBase] with marketRate := fun _ => marketRate }

lemma sole_marketAt (marketRate : ℚ) : (marketAt marketRate).Sole floatingOnBase :=
  ⟨List.mem_singleton_self _, fun _ h _ _ _ => List.mem_singleton.1 h⟩

end Sample

open Sample QueueBuilder in
theorem oneRate_of_whole_market_rate : (marketAt 1500).OneRate floatingOnBase :=
  (oneRate_iff_statesCents (sole_marketAt 1500) ⟨0, 0, by norm_num [floatingOnBase]⟩).2
    ⟨fun _ => ⟨150050, by norm_num [TokenConfiguration.statedRate, floatingOnBase, marketAt]⟩,
      fun _ _ _ => ⟨by decide, by decide⟩⟩

open Sample QueueBuilder in
theorem fallback_rate_not_rounded : let Q := marketAt (12001 / 8)
    let R := Q.withoutQueues store.providers
      (.single ⟨"p1", "NGN", ⟨100000, 0, 100000⟩, true, 0⟩)
    Q.getProviderRate "p1" "USDC" "NGN" = some (150062 / 100) ∧
      R.validateProviderRate token "NGN" 50 "p1" "base" = .ok (1500625 / 1000) ∧
      ¬ Q.OneRate floatingOnBase := by
  refine ⟨by decide +kernel, by decide +kernel, fun h => ?_⟩
  have hrounded := h.configuredRate_eq (sole_marketAt _)
  revert hrounded
  decide +kernel

theorem queue_texts_read_back {R : RateStore} {provider symbol : String} {rate low high : ℚ}
    (hread : ∀ text x, Decimal.ofString text = some x → R.newFromString text = .ok x)
    (hprovider : ':' ∉ provider.toList) (hsymbol : ':' ∉ symbol.toList)
    (hrate : Decimal.Terminates rate) (hlow : Decimal.Terminates low)
    (hhigh : Decimal.Terminates high) {bucket : ProvisionBucket} (hcode : bucket.currency ≠ "")
    (hcurrency : '_' ∉ bucket.currency.toList) (hmin : Decimal.Terminates bucket.minAmount)
    (hmax : Decimal.Terminates bucket.maxAmount) (hbounds : bucket.minAmount < bucket.maxAmount) :
    R.parseEntry (QueueEntry.offer provider symbol (some rate) (some low) (some high)).text =
        .offer provider symbol (some rate) (some low) (some high) ∧
      (∀ provider' symbol' rate' low' high', ':' ∉ provider'.toList → ':' ∉ symbol'.toList →
        (provider', symbol') ≠ (provider, symbol) →
          (QueueEntry.offer provider' symbol' (some rate') (some low') (some high')).text ≠
            (QueueEntry.offer provider symbol (some rate) (some low) (some high)).text) ∧
      ∀ prev, R.parseBucketKey (QueueKey.mk bucket prev).text =
        .ok ⟨bucket.currency, bucket.minAmount, bucket.maxAmount⟩ := by
  have hnumber : ∀ {x}, Decimal.Terminates x → R.newFromString (Decimal.toString x) = .ok x :=
    fun h => hread _ _ (Decimal.ofString_toString h)
  refine ⟨?_, ?_, fun prev => ?_⟩
  · rw [RateStore.parseEntry, splitText_entry, splitText_eq_singleton hprovider,
      splitText_eq_singleton hsymbol]
    simp [hnumber hrate, hnumber hlow, hnumber hhigh, Except.toOption]
  · intro provider' symbol' rate' low' high' hprovider' hsymbol' hne htext
    have hparts := congrArg (splitText ':') htext
    rw [splitText_entry, splitText_entry, splitText_eq_singleton hprovider,
      splitText_eq_singleton hsymbol, splitText_eq_singleton hprovider',
      splitText_eq_singleton hsymbol'] at hparts
    simp only [List.cons_append, List.nil_append, List.cons.injEq] at hparts
    exact hne (Prod.ext hparts.1 hparts.2.1)
  · rw [RateStore.parseBucketKey, splitText_key, splitText_eq_singleton hcurrency]
    cases prev <;> simp [hcode, hnumber hmin, hnumber hmax, hbounds.not_ge]

open Sample in
theorem queue_texts_read_back_sample : let R := (marketAt 1500).withoutQueues .empty .empty
    let entry := QueueEntry.offer "p1" "USDC" (some (3001 / 2)) (some (-1)) (some 90)
    R.parseEntry entry.text = entry ∧
      ∀ prev, R.parseBucketKey (QueueKey.mk ⟨"NGN", 1, 1000⟩ prev).text = .ok ⟨"NGN", 1, 1000⟩ := by
  have hback := @queue_texts_read_back ((marketAt 1500).withoutQueues .empty .empty) "p1" "USDC"
    (3001 / 2) (-1) 90 (fun text x h => by simp only [QueueBuilder.withoutQueues, h]) (by decide)
    (by decide) ⟨1, 15005, by norm_num⟩ ⟨0, -1, by norm_num⟩ ⟨0, 90, by norm_num⟩
    ⟨"NGN", 1, 1000⟩ (by decide) (by decide) ⟨0, 1, by norm_num⟩ ⟨0, 1000, by norm_num⟩
    (by norm_num)
  exact ⟨hback.1, hback.2.2⟩

open Sample in
theorem parseBucketKey_of_empty_code :
    ((marketAt 1500).withoutQueues .empty .empty).parseBucketKey
      (QueueKey.mk ⟨"", 1, 1000⟩ false).text = .error "empty currency in bucket key" := by
  rw [RateStore.parseBucketKey, splitText_key, splitText_eq_singleton (by decide)]
  rfl

end Stablenode
