import Stablenode.PaymentInitiation

/-! The signs of the amount, the rate and the fee of the orders that `InitiatePaymentOrder` stores.
-/
namespace Stablenode

namespace Decimal

variable {x : ℚ} {places : ℕ}

lemma lt_roundInt_iff {n : ℤ} (hn : n < 0) : n < roundInt x ↔ (n : ℚ) + 1 / 2 < x := by
  rw [roundInt]
  split_ifs with hx
  · rw [lt_neg, Int.floor_lt]
    push_cast
    constructor <;> intro h <;> linarith
  · have hle : (n : ℚ) ≤ -1 := by exact_mod_cast Int.le_sub_one_of_lt hn
    have hfloor : 0 ≤ ⌊x + 1 / 2⌋ := Int.floor_nonneg.2 (by linarith)
    refine iff_of_true (hn.trans_le hfloor) ?_
    linarith

lemma lt_round_iff {n : ℤ} (hn : n < 0) :
    (n : ℚ) / 10 ^ places < round x places ↔ (n : ℚ) + 1 / 2 < x * 10 ^ places := by
  rw [round, div_lt_div_iff_of_pos_right (by positivity), Int.cast_lt, lt_roundInt_iff hn]

lemma round_nonneg_iff : 0 ≤ round x places ↔ -(1 / 2) < x * 10 ^ places := by
  have hneg : (0 : ℤ) ≤ roundInt (x * 10 ^ places) ↔ -1 < roundInt (x * 10 ^ places) := by omega
  rw [round, le_div_iff₀ (by positivity), zero_mul, Int.cast_nonneg_iff, hneg,
    lt_roundInt_iff (by norm_num)]
  norm_num

end Decimal

variable {amount : ℚ}

namespace RateStore

variable {R : RateStore} {symbol network : String} {rate : ℚ}

structure PositiveLimits (R : RateStore) : Prop where
  bucket : ∀ currency keys, R.scan currency = some keys → ∀ key ∈ keys, ∀ b,
    R.parseBucketKey key = .ok b → 0 < b.minAmount
  entry : ∀ currency keys, R.scan currency = some keys → ∀ key ∈ keys, ∀ texts,
    R.lrange key = some texts → ∀ text ∈ texts, ∀ provider token rateText minText maxText minAmount,
      splitText ':' text = [provider, token, rateText, minText, maxText] →
        R.newFromString minText = .ok minAmount → 0 < minAmount
  token : ∀ t ∈ R.tokens, 0 < t.minOrderAmount

lemma limits_of_entryRate {bucket : BucketData} {text : String}
    (h : R.entryRate symbol network amount bucket text = some rate) :
    ∃ provider token rateText minText maxText minAmount,
      splitText ':' text = [provider, token, rateText, minText, maxText] ∧
      R.newFromString minText = .ok minAmount ∧ minAmount ≤ amount ∧
      bucket.minAmount ≤ amount * rate := by
  rw [entryRate] at h
  split at h
  next provider token rateText minText maxText hsplit =>
    split at h
    · cases h
    split at h
    · cases h
    split at h
    next minAmount maxAmount hmin _ =>
      split at h
      · cases h
      next hlimits =>
      split at h
      · cases h
      split at h
      next hbucket =>
        cases h
        rw [not_or, not_lt] at hlimits
        exact ⟨provider, token, rateText, minText, maxText, minAmount, hsplit, hmin, hlimits.1,
          hbucket.1⟩
      · cases h
    · cases h
  · cases h

variable {currency : String} {token : Token}

lemma PositiveLimits.of_validateBucketRate (hR : R.PositiveLimits)
    (h : R.validateBucketRate token currency amount network = .ok rate) :
    0 < amount ∧ 0 < rate := by
  cases hscan : R.scan currency with
  | none =>
    rw [validateBucketRate, hscan] at h
    cases h
  | some keys =>
    rw [validateBucketRate_eq_ok_iff hscan] at h
    obtain ⟨key, hmem, hkey⟩ := List.exists_of_findSome?_eq_some h
    rw [keyRate] at hkey
    split at hkey
    next bucket providers hparse hrange =>
      obtain ⟨text, htext, hentry⟩ := List.exists_of_findSome?_eq_some hkey
      obtain ⟨provider, token, rateText, minText, maxText, minAmount, hsplit, hmin, hle, hbucket⟩ :=
        limits_of_entryRate hentry
      have hamount : 0 < amount :=
        (hR.entry _ _ hscan key hmem providers hrange text htext _ _ _ _ _ _ hsplit hmin).trans_le hle
      have hfiat : 0 < amount * rate := (hR.bucket _ _ hscan key hmem bucket hparse).trans_le hbucket
      exact ⟨hamount, (pos_iff_pos_of_mul_pos hfiat).1 hamount⟩
    · cases hkey

lemma PositiveLimits.of_validateProviderRate (hR : R.PositiveLimits) {providerId : String}
    (h : R.validateProviderRate token currency amount providerId network = .ok rate) :
    0 < amount := by
  rw [validateProviderRate] at h
  split at h
  · cases h
  split at h
  · cases h
  next t ht =>
  split at h
  · cases h
  next hlimits =>
  rw [not_or, not_lt] at hlimits
  exact (hR.token t (List.mem_of_find?_eq_some ht)).trans_le hlimits.1

end RateStore

namespace Initiation

open Proc

abbrev SafelyStores (Q : InitiatedOrder → Prop) (k : InitiationProgram InitiationReply)
    (s : InitiationStore) : Prop :=
  Safe InitiationCall.exec (fun l _ => OnlyStores Q l) k s

variable {sender : SenderProfile} {feePercent : ℚ} {p : NewPaymentOrderPayload}
  {s : InitiationStore}

section Safety

variable {Q : InitiatedOrder → Prop} {E : InitiationEnvironment} {token : TokenRow}
  {currency : FiatCurrency}

lemma safe_loadToken {k : TokenRow → InitiationProgram InitiationReply}
    (h : ∀ token, only (s.tokensFor p) = .ok token → SafelyStores Q (k token) s) :
    SafelyStores Q (loadToken p k) s := by
  refine ⟨trivial, ?_, trivial⟩
  dsimp only
  split
  · trivial
  · trivial
  next token htoken => exact h token htoken

lemma safe_loadOrderToken {k : SenderOrderToken → InitiationProgram InitiationReply}
    (h : ∀ t ∈ s.senderOrderTokens, SafelyStores Q (k t) s) :
    SafelyStores Q (loadOrderToken sender token k) s := by
  refine ⟨trivial, ?_, trivial⟩
  dsimp only
  split
  · trivial
  next t ht =>
    split
    · trivial
    have hmem : t ∈ s.orderTokensOf sender token := by
      rw [only_eq_ok_iff.1 ht]
      exact List.mem_singleton_self t
    exact h t (List.mem_filter.1 hmem).1

variable {k : InitiationProgram InitiationReply}

lemma safe_checkReference (h : SafelyStores Q k s) : SafelyStores Q (checkReference p k) s := by
  rw [checkReference]
  split
  · exact h
  split
  · trivial
  refine ⟨trivial, ?_, trivial⟩
  dsimp only
  split
  · trivial
  · exact h

lemma safe_loadCurrency {k : FiatCurrency → InitiationProgram InitiationReply}
    (h : ∀ institution currency, s.institutionFor p = some institution →
      institution.loadedCurrency = some currency →
        SafelyStores Q (k currency) s) :
    SafelyStores Q (loadCurrency p token k) s := by
  refine ⟨trivial, ?_, trivial⟩
  dsimp only
  split
  · trivial
  next institution hinstitution =>
    split
    · trivial
    next currency hcurrency =>
      split
      · trivial
      · exact h institution currency hinstitution hcurrency

lemma safe_validate {k : String → InitiationProgram InitiationReply}
    (h : ∀ accountName achievableRate,
      (s.ratesFor currency).validateRate token.toToken currency.code p.amount p.recipient.providerId
        p.network = .ok achievableRate →
      achievableRate - achievableRate * (1 / 1000) ≤ p.rate →
        SafelyStores Q (k accountName) s) :
    SafelyStores Q (E.validate p token currency k) s := by
  refine ⟨trivial, ?_, trivial⟩
  dsimp only
  split
  · trivial
  next accountName _ =>
    refine ⟨trivial, ?_, trivial⟩
    dsimp only
    split
    · trivial
    next achievableRate hrate =>
      split
      · trivial
      next hreached => exact h accountName achievableRate hrate (not_lt.1 hreached)

lemma safe_of_uses (h : Uses (OnlyStores Q) k) : SafelyStores Q k s :=
  h.safe (I := fun _ => True) (fun _ _ hl _ => hl) (fun _ _ _ h => h) trivial

end Safety

structure InitiatedOrder.WellFormed (o : InitiatedOrder) : Prop where
  amount : 0 < o.amount
  rate : 0 < o.rate
  senderFee : 0 ≤ o.senderFee

def InitiationStore.MatchesDirectly (s : InitiationStore) (p : NewPaymentOrderPayload) : Prop :=
  ∃ token institution currency, only (s.tokensFor p) = .ok token ∧
    s.institutionFor p = some institution ∧ institution.loadedCurrency = some currency ∧
    equalFold token.baseCurrency currency.code

structure InitiationStore.SignsGiven (s : InitiationStore) (p : NewPaymentOrderPayload) : Prop where
  amount : s.MatchesDirectly p → 0 < p.amount
  rate : ¬ s.MatchesDirectly p → p.recipient.providerId ≠ "" → 0 < p.rate
  fee : p.feeAddress ≠ "" → -((10 ^ 12 - 1) / (2 * 10 ^ 14)) < p.feePercent * p.amount

lemma senderFee_nonneg_iff :
    0 ≤ senderFee feePercent amount ↔ -((10 ^ 12 - 1) / (2 * 10 ^ 14)) < feePercent * amount := by
  have hdiv : -(1 / 2) < Decimal.div (feePercent * amount) 100 * 10 ^ 4 ↔
      ((-(5 * 10 ^ 11) : ℤ) : ℚ) / 10 ^ 16 < Decimal.round (feePercent * amount / 100) 16 := by
    rw [Decimal.div]
    norm_num
    constructor <;> intro h <;> linarith
  rw [senderFee, Decimal.round_nonneg_iff, hdiv, Decimal.lt_round_iff (by norm_num)]
  norm_num
  constructor <;> intro h <;> linarith

lemma senderFee_nonneg (hfee : 0 ≤ feePercent) (hamount : 0 ≤ amount) :
    0 ≤ senderFee feePercent amount := by
  rw [senderFee_nonneg_iff]
  have hnonneg : 0 ≤ feePercent * amount := mul_nonneg hfee hamount
  norm_num
  linarith

lemma chooseFee_eq_ok {E : InitiationEnvironment} {orderToken : SenderOrderToken}
    {p : NewPaymentOrderPayload} {feeAddress : String}
    (h : E.chooseFee sender orderToken p = .ok (feePercent, feeAddress)) :
    feePercent = if p.feeAddress = "" then orderToken.feePercent else p.feePercent := by
  rw [InitiationEnvironment.chooseFee] at h
  split_ifs at h ⊢ with haddress
  · exact (Prod.ext_iff.1 (Except.ok.inj h)).1.symm
  cases hcheck : E.checkAddress p.network "FeeAddress" p.feeAddress with
  | error e =>
    rw [hcheck] at h
    cases h
  | ok u =>
    rw [hcheck] at h
    exact (Prod.ext_iff.1 (Except.ok.inj h)).1.symm

section Signs

variable {token : TokenRow} {institution : Institution} {currency : FiatCurrency}
  {achievableRate : ℚ}

lemma matchesDirectly_iff (htoken : only (s.tokensFor p) = .ok token)
    (hinstitution : s.institutionFor p = some institution)
    (hcurrency : institution.loadedCurrency = some currency) :
    s.MatchesDirectly p ↔ equalFold token.baseCurrency currency.code = true := by
  constructor
  · rintro ⟨token', institution', currency', htoken', hinstitution', hcurrency', hfold⟩
    obtain rfl := Except.ok.inj (htoken.symm.trans htoken')
    obtain rfl := Option.some.inj (hinstitution.symm.trans hinstitution')
    obtain rfl := Option.some.inj (hcurrency.symm.trans hcurrency')
    exact hfold
  · exact fun hfold => ⟨token, institution, currency, htoken, hinstitution, hcurrency, hfold⟩

lemma pos_of_validateRate (hlimits : s.rates.PositiveLimits) (hsigns : s.SignsGiven p)
    (hdirect : s.MatchesDirectly p ↔ equalFold token.baseCurrency currency.code = true)
    (hrate : (s.ratesFor currency).validateRate token.toToken currency.code p.amount
      p.recipient.providerId p.network = .ok achievableRate)
    (hreached : achievableRate - achievableRate * (1 / 1000) ≤ p.rate) :
    0 < p.amount ∧ 0 < p.rate := by
  have hlimits' : (s.ratesFor currency).PositiveLimits :=
    ⟨hlimits.bucket, hlimits.entry, hlimits.token⟩
  rw [RateStore.validateRate] at hrate
  split_ifs at hrate with hfold hnamed
  · obtain rfl := Except.ok.inj hrate
    exact ⟨hsigns.amount (hdirect.2 hfold), by linarith⟩
  · exact ⟨hlimits'.of_validateProviderRate hrate,
      hsigns.rate (fun h => hfold (hdirect.1 h)) hnamed⟩
  · obtain ⟨hamount, hpos⟩ := hlimits'.of_validateBucketRate hrate
    exact ⟨hamount, by linarith⟩

end Signs

theorem stored_wellFormed_iff (E : InitiationEnvironment) (p : NewPaymentOrderPayload)
    (s : InitiationStore) (hlimits : s.rates.PositiveLimits)
    (hfees : ∀ t ∈ s.senderOrderTokens, 0 ≤ t.feePercent) (faults : List Bool)
    (order : InitiatedOrder)
    (hstored : .commit order ∈ (E.initiatePaymentOrder p).history InitiationCall.exec faults s) :
    order.WellFormed ↔ s.SignsGiven p := by
  have hsafe : SafelyStores (fun o => o.WellFormed ↔ s.SignsGiven p) (E.initiatePaymentOrder p) s := by
    rw [InitiationEnvironment.initiatePaymentOrder]
    split
    · trivial
    split
    · trivial
    refine safe_loadToken fun token htoken => safe_loadOrderToken fun orderToken horderToken => ?_
    split
    · trivial
    · trivial
    next feePercent feeAddress returnAddress hfee _ =>
    refine safe_checkReference <| safe_loadCurrency fun institution currency hinstitution hcurrency =>
      safe_validate fun accountName achievableRate hrate hreached => safe_of_uses <|
      uses_checkProvider <| uses_provideAddress fun address => uses_storeOrder ?_
    have hdirect := matchesDirectly_iff htoken hinstitution hcurrency
    have hpercent := chooseFee_eq_ok hfee
    constructor
    · rintro ⟨hamount, hpos, hnonneg⟩
      refine ⟨fun _ => hamount, fun _ _ => hpos, fun haddress => ?_⟩
      rw [if_neg haddress] at hpercent
      rw [← hpercent]
      exact senderFee_nonneg_iff.1 hnonneg
    · intro hsigns
      obtain ⟨hamount, hpos⟩ := pos_of_validateRate hlimits hsigns hdirect hrate hreached
      refine ⟨hamount, hpos, ?_⟩
      split_ifs at hpercent with haddress
      · exact senderFee_nonneg (hpercent ▸ hfees orderToken horderToken) hamount.le
      · exact senderFee_nonneg_iff.2 (hpercent ▸ hsigns.fee haddress)
  rw [← executed_trace] at hstored
  obtain ⟨x, hx, hlabel⟩ := List.mem_map.1 hstored
  have hcommit := hsafe.trace faults x (List.mem_filter.1 hx).1
  rwa [hlabel] at hcommit

namespace Sample

def storedPayment : InitiatedOrder where
  sender := 1
  token := 1
  amount := 50
  amountInUsd := 50
  networkFee := 0
  senderFee := 1 / 2
  rate := 10
  receiveAddressText := "0xpool"
  feePercent := 1
  feeAddress := "0xfee"
  returnAddress := "0xrefund"
  reference := "invoice-1"
  recipient := ⟨"BANK", "0123", "Ada", "rent", ""⟩

lemma positiveLimits_queueRates : queueRates.PositiveLimits := by
  refine ⟨?_, ?_, by decide⟩
  · rintro currency keys ⟨⟩ key hkey b hb
    obtain rfl := List.mem_singleton.1 hkey
    have hparse : queueRates.parseBucketKey "bucket_NGN_1_1000" = .ok ⟨"NGN", 1, 1000⟩ := by
      decide +kernel
    obtain rfl := Except.ok.inj (hparse.symm.trans hb)
    decide
  · rintro currency keys ⟨⟩ key hkey texts ⟨⟩ text htext provider token rateText minText maxText
      minAmount hsplit hmin
    obtain rfl := List.mem_singleton.1 htext
    have hparts : splitText ':' "p1:USDC:10:1:90" = ["p1", "USDC", "10", "1", "90"] := by
      decide +kernel
    obtain ⟨rfl, rfl, rfl, rfl, rfl, -⟩ := by simpa using hparts.symm.trans hsplit
    obtain rfl := Except.ok.inj hmin
    decide

end Sample

open Initiation.Sample in
theorem storedPayment_wellFormed : storedPayment.WellFormed := by
  refine (stored_wellFormed_iff partner payment senderStore positiveLimits_queueRates
    (by decide) [] storedPayment (by decide +kernel)).2 ⟨?_, ?_, ?_⟩
  · exact fun _ => by decide
  · exact fun _ h => absurd rfl h
  · exact fun h => absurd rfl h

open Initiation.Sample in
theorem wrong_signs_stored :
    (∃ order, .commit order ∈ (partner.initiatePaymentOrder
        { payment with token := "cNGN", rate := 1, amount := -50 }).history
          InitiationCall.exec [] senderStore ∧ order.amount = -50) ∧
    (∃ order, .commit order ∈ (partner.initiatePaymentOrder
        { payment with rate := 0, recipient := ⟨"BANK", "0123", "", "rent", "p2"⟩ }).history
          InitiationCall.exec [] senderStore ∧ order.rate = 0) ∧
    ∃ order, .commit order ∈ (partner.initiatePaymentOrder
        { payment with
          feePercent := -10, feeAddress := "0x00000000000000000000000000000000000000fe" }).history
          InitiationCall.exec [] senderStore ∧ order.senderFee = -5 := by
  refine ⟨?_, ?_, ?_⟩
  · refine ⟨{ storedPayment with
      token := 2, amount := -50, amountInUsd := -5, rate := 1, senderFee := -(1 / 2) }, ?_, rfl⟩
    decide +kernel
  · refine ⟨{ storedPayment with
      rate := 0, recipient := ⟨"BANK", "0123", "Ada", "rent", "p2"⟩ }, ?_, rfl⟩
    decide +kernel
  · refine ⟨{ storedPayment with
      senderFee := -5, feePercent := -10
      feeAddress := "0x00000000000000000000000000000000000000fe" }, ?_, rfl⟩
    decide +kernel

end Initiation

end Stablenode
