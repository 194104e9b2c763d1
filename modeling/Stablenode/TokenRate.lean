import Stablenode.LastAnswer
import Stablenode.RateSearch

/-! `GetTokenRateFromQueue` (utils/utils.go): the rate of a token from all buckets of a currency,
scanned in any order. -/
namespace Stablenode

inductive TokenRateError where
  | redis
  | panicked
  deriving DecidableEq

namespace RateStore

variable (R : RateStore) (symbol : String) (amount : ℚ)

def numberOrZero (text : String) : ℚ := (R.newFromString text).toOption.getD 0

def keyAmounts (key : String) : Option (ℚ × ℚ) :=
  match splitText '_' key with
  | _ :: _ :: minText :: maxText :: _ => some (R.numberOrZero minText, R.numberOrZero maxText)
  | _ => none

def walkQueue (minAmount maxAmount : ℚ) : ℚ × ℚ → List String → ℚ × ℚ
  | state, [] => state
  | (rateResponse, highestMaxAmount), providerData :: rest =>
    match splitText ':' providerData with
    | [_, token, rateText, minText, maxText] =>
      if token ≠ symbol then
        walkQueue minAmount maxAmount (rateResponse, highestMaxAmount) rest
      else
        match R.newFromString minText, R.newFromString maxText with
        | .ok minOrderAmount, .ok maxOrderAmount =>
          if amount < minOrderAmount ∨ maxOrderAmount < amount then
            walkQueue minAmount maxAmount (rateResponse, highestMaxAmount) rest
          else
            let rate := R.numberOrZero rateText
            if minAmount ≤ amount * rate ∧ amount * rate ≤ maxAmount then (rate, highestMaxAmount)
            else if highestMaxAmount < maxAmount then
              walkQueue minAmount maxAmount (rate, maxAmount) rest
            else walkQueue minAmount maxAmount (rateResponse, highestMaxAmount) rest
        | _, _ => walkQueue minAmount maxAmount (rateResponse, highestMaxAmount) rest
    | _ => walkQueue minAmount maxAmount (rateResponse, highestMaxAmount) rest

def walkKeys : ℚ × ℚ → List String → Except TokenRateError (ℚ × ℚ)
  | state, [] => .ok state
  | state, key :: keys =>
    match R.keyAmounts key with
    | none => .error .panicked
    | some (minAmount, maxAmount) =>
      walkKeys (R.walkQueue symbol amount minAmount maxAmount state ((R.lrange key).getD [])) keys

def getTokenRateFromQueue (currency : String) (marketRate : ℚ) : Except TokenRateError ℚ :=
  match R.scan currency with
  | none => .error .redis
  | some keys => (R.walkKeys symbol amount (marketRate, 0) keys).map Prod.fst

def applicableRate (providerData : String) : Option ℚ :=
  match splitText ':' providerData with
  | [_, token, rateText, minText, maxText] =>
    if token ≠ symbol then none
    else
      match R.newFromString minText, R.newFromString maxText with
      | .ok minOrderAmount, .ok maxOrderAmount =>
        if amount < minOrderAmount ∨ maxOrderAmount < amount then none
        else some (R.numberOrZero rateText)
      | _, _ => none
  | _ => none

def inBucket (amount minAmount maxAmount rate : ℚ) : Bool :=
  minAmount ≤ amount * rate ∧ amount * rate ≤ maxAmount

def answerOf (amount minAmount maxAmount : ℚ) (rates : List ℚ) : Answer ℚ :=
  match rates.find? (inBucket amount minAmount maxAmount) with
  | some rate => .exact rate (!rates.head?.any (inBucket amount minAmount maxAmount))
  | none => rates.head?.elim .missing .substitute

def maxAmountOf (key : String) : ℚ := ((R.keyAmounts key).getD (0, 0)).2

def answer (key : String) : Answer ℚ :=
  let amounts := (R.keyAmounts key).getD (0, 0)
  answerOf amount amounts.1 amounts.2
    (((R.lrange key).getD []).filterMap (R.applicableRate symbol amount))

variable {R symbol amount}

lemma walkQueue_cons (minAmount maxAmount : ℚ) (state : ℚ × ℚ) (providerData : String)
    (rest : List String) :
    R.walkQueue symbol amount minAmount maxAmount state (providerData :: rest) =
      match R.applicableRate symbol amount providerData with
      | none => R.walkQueue symbol amount minAmount maxAmount state rest
      | some rate =>
        if inBucket amount minAmount maxAmount rate then (rate, state.2)
        else if state.2 < maxAmount then
          R.walkQueue symbol amount minAmount maxAmount (rate, maxAmount) rest
        else R.walkQueue symbol amount minAmount maxAmount state rest := by
  rw [walkQueue, applicableRate]
  split
  next token rateText minText maxText _ =>
    split
    · rfl
    split
    next minOrderAmount maxOrderAmount _ _ =>
      split
      · rfl
      · simp only [inBucket, decide_eq_true_eq]
    · rfl
  · rfl

variable {state : ℚ × ℚ} {keys : List String} {rate : ℚ} {minAmount maxAmount : ℚ} {text : String}

lemma walkQueue_of_le (hle : maxAmount ≤ state.2) (texts : List String) :
    R.walkQueue symbol amount minAmount maxAmount state texts =
      match (texts.filterMap (R.applicableRate symbol amount)).find?
          (inBucket amount minAmount maxAmount) with
      | some rate => (rate, state.2)
      | none => state := by
  induction texts with
  | nil => rfl
  | cons providerData rest ih =>
    rw [walkQueue_cons, List.filterMap_cons]
    cases R.applicableRate symbol amount providerData with
    | none => exact ih
    | some rate =>
      simp only [List.find?_cons, if_neg (not_lt.2 hle)]
      cases inBucket amount minAmount maxAmount rate with
      | true => rfl
      | false => exact ih

lemma walkQueue_eq_apply (minAmount maxAmount : ℚ) (state : ℚ × ℚ) (texts : List String) :
    R.walkQueue symbol amount minAmount maxAmount state texts =
      (answerOf amount minAmount maxAmount
        (texts.filterMap (R.applicableRate symbol amount))).apply maxAmount state := by
  induction texts with
  | nil => rfl
  | cons providerData rest ih =>
    rw [walkQueue_cons, List.filterMap_cons]
    cases R.applicableRate symbol amount providerData with
    | none => exact ih
    | some rate =>
      cases hin : inBucket amount minAmount maxAmount rate with
      | true => simp [answerOf, hin, Answer.apply]
      | false =>
        simp only [answerOf, List.find?_cons, hin, List.head?_cons, Option.any_some,
          Bool.false_eq_true, if_false]
        split
        next hless =>
          have hle : maxAmount ≤ ((rate, maxAmount) : ℚ × ℚ).2 := le_rfl
          rw [walkQueue_of_le hle]
          cases (rest.filterMap (R.applicableRate symbol amount)).find?
              (inBucket amount minAmount maxAmount) with
          | some exact => simp [Answer.apply, max_eq_right hless.le]
          | none => simp [Answer.apply, hless]
        next hless =>
          rw [walkQueue_of_le (not_lt.1 hless)]
          cases (rest.filterMap (R.applicableRate symbol amount)).find?
              (inBucket amount minAmount maxAmount) with
          | some exact => simp [Answer.apply, max_eq_left (not_lt.1 hless)]
          | none => simp [Answer.apply, hless]

lemma walkKeys_eq_scan (hkeys : ∀ key ∈ keys, R.keyAmounts key ≠ none) (state : ℚ × ℚ) :
    R.walkKeys symbol amount state keys =
      .ok (Answer.scan R.maxAmountOf (R.answer symbol amount) state keys) := by
  induction keys generalizing state with
  | nil => rfl
  | cons key keys ih =>
    obtain ⟨amounts, hamounts⟩ := Option.ne_none_iff_exists'.1 (hkeys key (List.mem_cons_self ..))
    rw [walkKeys, hamounts, Answer.scan, List.foldl_cons]
    simp only
    rw [ih fun key' hkey' => hkeys key' (List.mem_cons_of_mem key hkey'), walkQueue_eq_apply]
    simp only [answer, maxAmountOf, hamounts, Option.getD_some]
    rfl

def PositiveRates (R : RateStore) (symbol currency : String) : Prop :=
  ∀ keys, R.scan currency = some keys → ∀ key ∈ keys, ∀ texts, R.lrange key = some texts →
    ∀ text ∈ texts, ∀ provider rateText minText maxText,
      splitText ':' text = [provider, symbol, rateText, minText, maxText] →
      ∃ rate, R.newFromString rateText = .ok rate ∧ 0 < rate

lemma numberOrZero_of_ok {x : ℚ} (h : R.newFromString text = .ok x) : R.numberOrZero text = x := by
  rw [numberOrZero, h]
  rfl

lemma walkQueue_pos {texts : List String} (hstate : 0 < state.1)
    (htexts : ∀ text ∈ texts, ∀ rate, R.applicableRate symbol amount text = some rate → 0 < rate) :
    0 < (R.walkQueue symbol amount minAmount maxAmount state texts).1 := by
  induction texts generalizing state with
  | nil => exact hstate
  | cons text texts ih =>
    have hrest : ∀ t ∈ texts, ∀ rate, R.applicableRate symbol amount t = some rate → 0 < rate :=
      fun t ht => htexts t (List.mem_cons_of_mem text ht)
    rw [walkQueue_cons]
    split
    · exact ih hstate hrest
    next rate hrate =>
      have hpos := htexts text (List.mem_cons_self ..) rate hrate
      split
      · exact hpos
      · split
        · exact ih hpos hrest
        · exact ih hstate hrest

lemma walkKeys_pos {state' : ℚ × ℚ} (hstate : 0 < state.1)
    (hkeys : ∀ key ∈ keys, ∀ texts, R.lrange key = some texts → ∀ text ∈ texts, ∀ rate,
      R.applicableRate symbol amount text = some rate → 0 < rate)
    (h : R.walkKeys symbol amount state keys = .ok state') : 0 < state'.1 := by
  induction keys generalizing state with
  | nil =>
    cases h
    exact hstate
  | cons key keys ih =>
    rw [walkKeys] at h
    split at h
    · cases h
    refine ih (walkQueue_pos hstate ?_)
      (fun key' hkey' => hkeys key' (List.mem_cons_of_mem key hkey')) h
    cases hrange : R.lrange key with
    | none => simp
    | some texts => exact hkeys key (List.mem_cons_self ..) texts hrange

lemma applicableRate_eq_some_iff :
    R.applicableRate symbol amount text = some rate ↔
      ∃ provider rateText minText maxText minOrderAmount maxOrderAmount,
        splitText ':' text = [provider, symbol, rateText, minText, maxText] ∧
        R.newFromString minText = .ok minOrderAmount ∧
        R.newFromString maxText = .ok maxOrderAmount ∧
        (minOrderAmount ≤ amount ∧ amount ≤ maxOrderAmount) ∧ R.numberOrZero rateText = rate := by
  constructor
  · intro h
    rw [applicableRate] at h
    split at h
    next provider token rateText minText maxText hsplit =>
      split at h
      · cases h
      next htoken =>
      obtain rfl := not_ne_iff.1 htoken
      split at h
      next minOrderAmount maxOrderAmount hmin hmax =>
        split at h
        · cases h
        next hlimits =>
        rw [not_or, not_lt, not_lt] at hlimits
        exact ⟨provider, rateText, minText, maxText, _, _, hsplit, hmin, hmax, hlimits,
          Option.some.inj h⟩
      · cases h
    · cases h
  · rintro ⟨provider, rateText, minText, maxText, low, high, hsplit, hmin, hmax, hlimits, rfl⟩
    have hinside : ¬ (amount < low ∨ high < amount) := by
      rwa [not_or, not_lt, not_lt]
    simp only [applicableRate, hsplit, ne_eq, not_true, if_false, hmin, hmax, if_neg hinside]

lemma applicableRate_pos
    (htext : ∀ provider rateText minText maxText,
      splitText ':' text = [provider, symbol, rateText, minText, maxText] →
      ∃ rate, R.newFromString rateText = .ok rate ∧ 0 < rate)
    (h : R.applicableRate symbol amount text = some rate) : 0 < rate := by
  obtain ⟨provider, rateText, minText, maxText, -, -, hsplit, -, -, -, rfl⟩ :=
    applicableRate_eq_some_iff.1 h
  obtain ⟨rate, hrate, hpos⟩ := htext provider rateText minText maxText hsplit
  rwa [numberOrZero_of_ok hrate]

lemma getTokenRateFromQueue_pos {currency : String} {marketRate : ℚ} (hmarket : 0 < marketRate)
    (hqueues : R.PositiveRates symbol currency)
    (hrate : R.getTokenRateFromQueue symbol amount currency marketRate = .ok rate) : 0 < rate := by
  rw [getTokenRateFromQueue] at hrate
  split at hrate
  · cases hrate
  next keys hscan =>
    cases hkeys : R.walkKeys symbol amount (marketRate, 0) keys with
    | error e =>
      rw [hkeys] at hrate
      cases hrate
    | ok state =>
      rw [hkeys] at hrate
      cases hrate
      exact walkKeys_pos hmarket (fun key hkey texts hrange text htext _ =>
        applicableRate_pos (hqueues keys hscan key hkey texts hrange text htext)) hkeys

def IsExactRate (R : RateStore) (symbol : String) (amount : ℚ) (keys : List String) (rate : ℚ) :
    Prop :=
  ∃ key ∈ keys, ∃ name currency minText maxText rest minAmount maxAmount,
    splitText '_' key = name :: currency :: minText :: maxText :: rest ∧
    R.newFromString minText = .ok minAmount ∧ R.newFromString maxText = .ok maxAmount ∧
    ∃ texts, R.lrange key = some texts ∧ ∃ providerData ∈ texts,
      ∃ provider rateText minOrderText maxOrderText minOrderAmount maxOrderAmount,
        splitText ':' providerData = [provider, symbol, rateText, minOrderText, maxOrderText] ∧
        R.newFromString rateText = .ok rate ∧
        R.newFromString minOrderText = .ok minOrderAmount ∧
        R.newFromString maxOrderText = .ok maxOrderAmount ∧
        (minOrderAmount ≤ amount ∧ amount ≤ maxOrderAmount) ∧
        minAmount ≤ amount * rate ∧ amount * rate ≤ maxAmount

def scannedAs (R : RateStore) (keys : List String) : RateStore := { R with scan := fun _ => some keys }

def ScanSafe (R : RateStore) (symbol : String) (amount : ℚ) (keys : List String) : Prop :=
  (∀ key ∈ keys, ∀ rate raises, R.answer symbol amount key = .exact rate raises →
    R.IsExactRate symbol amount keys rate) ∧
  ∀ key ∈ keys, ∀ rate, R.answer symbol amount key = .substitute rate → 0 < R.maxAmountOf key →
    (∀ key' ∈ keys, ∀ r, R.answer symbol amount key' = .exact r true →
      R.maxAmountOf key' < R.maxAmountOf key) →
    (∀ key' ∈ keys, ∀ r, R.answer symbol amount key' = .substitute r →
      R.maxAmountOf key' ≤ R.maxAmountOf key) →
    R.IsExactRate symbol amount keys rate

lemma IsExactRate.exists_isExact (h : R.IsExactRate symbol amount keys rate) :
    ∃ key ∈ keys, (R.answer symbol amount key).IsExact := by
  obtain ⟨key, hkey, name, currency, minText, maxText, rest, minAmount, maxAmount, hsplit, hmin, hmax,
    texts, hrange, providerData, hdata, provider, rateText, minOrderText, maxOrderText, minOrderAmount,
    maxOrderAmount, hentry, hrate, hlow, hhigh, hlimits, hbucket⟩ := h
  have happlicable : R.applicableRate symbol amount providerData = some rate :=
    applicableRate_eq_some_iff.2 ⟨provider, rateText, minOrderText, maxOrderText, _, _, hentry, hlow,
      hhigh, hlimits, numberOrZero_of_ok hrate⟩
  have hamounts : R.keyAmounts key = some (minAmount, maxAmount) := by
    rw [keyAmounts, hsplit]
    simp only [numberOrZero_of_ok hmin, numberOrZero_of_ok hmax]
  have hin : inBucket amount minAmount maxAmount rate = true := decide_eq_true hbucket
  have hmem : rate ∈ texts.filterMap (R.applicableRate symbol amount) :=
    List.mem_filterMap.2 ⟨providerData, hdata, happlicable⟩
  refine ⟨key, hkey, ?_⟩
  simp only [answer, hamounts, hrange, Option.getD_some, answerOf]
  cases hfind : (texts.filterMap (R.applicableRate symbol amount)).find?
      (inBucket amount minAmount maxAmount) with
  | some found => exact ⟨found, _, rfl⟩
  | none => exact absurd hin (List.find?_eq_none.1 hfind rate hmem)

def IsListedRate (R : RateStore) (symbol : String) (amount : ℚ) (keys : List String) (rate : ℚ) :
    Prop :=
  ∃ key ∈ keys, ∃ texts, R.lrange key = some texts ∧ ∃ text ∈ texts,
    ∃ provider rateText minText maxText minOrderAmount maxOrderAmount,
      splitText ':' text = [provider, symbol, rateText, minText, maxText] ∧
      R.newFromString rateText = .ok rate ∧ R.newFromString minText = .ok minOrderAmount ∧
      R.newFromString maxText = .ok maxOrderAmount ∧
      minOrderAmount ≤ amount ∧ amount ≤ maxOrderAmount

def ParseableRates (R : RateStore) (symbol : String) (keys : List String) : Prop :=
  ∀ key ∈ keys, ∀ texts, R.lrange key = some texts → ∀ text ∈ texts,
    ∀ provider rateText minText maxText,
      splitText ':' text = [provider, symbol, rateText, minText, maxText] →
      ∃ rate, R.newFromString rateText = .ok rate

lemma isListedRate_iff (hrates : R.ParseableRates symbol keys) :
    R.IsListedRate symbol amount keys rate ↔
      ∃ key ∈ keys, rate ∈ ((R.lrange key).getD []).filterMap (R.applicableRate symbol amount) := by
  refine exists_congr fun key => and_congr_right fun hkey => ?_
  cases hrange : R.lrange key with
  | none => simp
  | some texts =>
    simp only [Option.some.injEq, exists_eq_left', Option.getD_some, List.mem_filterMap,
      applicableRate_eq_some_iff]
    refine exists_congr fun text => and_congr_right fun htext => ?_
    constructor
    · rintro ⟨provider, rateText, minText, maxText, low, high, hsplit, hrate, hmin, hmax, hlimits⟩
      exact ⟨provider, rateText, minText, maxText, low, high, hsplit, hmin, hmax, hlimits,
        numberOrZero_of_ok hrate⟩
    · rintro ⟨provider, rateText, minText, maxText, low, high, hsplit, hmin, hmax, hlimits, rfl⟩
      obtain ⟨rate, hrate⟩ := hrates key hkey texts hrange text htext _ _ _ _ hsplit
      rw [numberOrZero_of_ok hrate]
      exact ⟨provider, rateText, minText, maxText, low, high, hsplit, hrate, hmin, hmax, hlimits⟩

lemma answerOf_cases (minAmount maxAmount : ℚ) (rates : List ℚ) :
    (answerOf amount minAmount maxAmount rates = .missing → rates = []) ∧
      ∀ rate, (∃ raises, answerOf amount minAmount maxAmount rates = .exact rate raises) ∨
        answerOf amount minAmount maxAmount rates = .substitute rate → rate ∈ rates := by
  rw [answerOf]
  cases hfind : rates.find? (inBucket amount minAmount maxAmount) with
  | some found =>
    refine ⟨nofun, fun rate h => ?_⟩
    obtain ⟨raises, h⟩ | h := h
    · cases h
      exact List.mem_of_find?_eq_some hfind
    · cases h
  | none =>
    cases rates with
    | nil => simp
    | cons first rates => simp

theorem getTokenRateFromQueue_listed {keys : List String} {currency : String} (marketRate : ℚ)
    (hscan : R.scan currency = some keys)
    (hkeys : ∀ key ∈ keys, ∃ amounts, R.keyAmounts key = some amounts ∧ 0 < amounts.2)
    (hrates : R.ParseableRates symbol keys) :
    ∃ rate, R.getTokenRateFromQueue symbol amount currency marketRate = .ok rate ∧
      ((∃ listed, R.IsListedRate symbol amount keys listed) →
        R.IsListedRate symbol amount keys rate) ∧
      ((¬ ∃ listed, R.IsListedRate symbol amount keys listed) → rate = marketRate) := by
  have hbound : ∀ key ∈ keys, ((marketRate, 0) : ℚ × ℚ).2 < R.maxAmountOf key := by
    intro key hkey
    obtain ⟨amounts, hamounts, hpos⟩ := hkeys key hkey
    rwa [maxAmountOf, hamounts]
  have hwalk : R.walkKeys symbol amount (marketRate, 0) keys = _ :=
    walkKeys_eq_scan (fun key hkey => by
      obtain ⟨amounts, hamounts, -⟩ := hkeys key hkey
      simp [hamounts]) _
  refine ⟨(Answer.scan R.maxAmountOf (R.answer symbol amount) (marketRate, 0) keys).1, ?_, ?_⟩
  · rw [getTokenRateFromQueue, hscan]
    exact congrArg (Except.map Prod.fst) hwalk
  simp only [isListedRate_iff hrates]
  obtain ⟨hmissing, hstart⟩ | ⟨key, hkey, hanswer⟩ := @Answer.scan_cases String ℚ ℚ _ R.maxAmountOf
    (R.answer symbol amount) (marketRate, 0) keys hbound
  · refine ⟨fun ⟨listed, key, hkey, hmem⟩ => ?_, fun _ => by rw [hstart]⟩
    rw [(answerOf_cases _ _ _).1 (hmissing key hkey)] at hmem
    cases hmem
  · have hmem := (answerOf_cases _ _ _).2 _ hanswer
    exact ⟨fun _ => ⟨key, hkey, hmem⟩, fun hnone => absurd ⟨_, key, hkey, hmem⟩ hnone⟩

theorem getTokenRateFromQueue_exact_iff {keys : List String}
    (hkeys : ∀ key ∈ keys, 4 ≤ (splitText '_' key).length)
    (hexact : ∃ rate, R.IsExactRate symbol amount keys rate) (currency : String) (marketRate : ℚ) :
    (∀ keys', keys'.Perm keys → ∃ rate,
      (R.scannedAs keys').getTokenRateFromQueue symbol amount currency marketRate = .ok rate ∧
        R.IsExactRate symbol amount keys rate) ↔ R.ScanSafe symbol amount keys := by
  have hamounts : ∀ key ∈ keys, R.keyAmounts key ≠ none := by
    intro key hkey
    have hlength := hkeys key hkey
    rw [keyAmounts]
    split
    · simp
    next hnot =>
      rcases hparts : splitText '_' key with _ | ⟨a, _ | ⟨b, _ | ⟨c, _ | ⟨d, rest⟩⟩⟩⟩
      case cons.cons.cons.cons => exact (hnot a b c d rest hparts).elim
      all_goals simp [hparts] at hlength
  have hscan : ∀ keys', keys'.Perm keys →
      (R.scannedAs keys').getTokenRateFromQueue symbol amount currency marketRate =
        .ok (Answer.scan R.maxAmountOf (R.answer symbol amount) (marketRate, 0) keys').1 := by
    intro keys' hperm
    have hwalk := @walkKeys_eq_scan (R.scannedAs keys') symbol amount keys'
      (fun key hkey => hamounts key (hperm.mem_iff.1 hkey)) (marketRate, 0)
    rw [getTokenRateFromQueue, scannedAs]
    exact congrArg (Except.map Prod.fst) hwalk
  obtain ⟨rate, hrate⟩ := hexact
  have hiff := @Answer.forall_perm_scan_iff String ℚ ℚ _ R.maxAmountOf (R.answer symbol amount)
    (marketRate, 0) keys _ (R.IsExactRate symbol amount keys) hrate.exists_isExact
  refine Iff.trans (forall₂_congr fun keys' hperm => ?_) hiff
  rw [hscan keys' hperm]
  simp

end RateStore

namespace Sample

def twoBuckets : RateStore :=
  { quoteStore 500 with
    scan := fun _ => some ["bucket_NGN_0_1000", "bucket_NGN_1000_5000"]
    lrange := fun key =>
      if key = "bucket_NGN_0_1000" then some ["p1:USDC:10:1:90"]
      else if key = "bucket_NGN_1000_5000" then some ["p2:USDC:11:1:90"] else some []
    newFromString := fun text =>
      if text = "11" then .ok 11 else if text = "5000" then .ok 5000
      else (quoteStore 500).newFromString text }

def parsedBuckets : RateStore :=
  { twoBuckets with newFromString := fun text => .ok (twoBuckets.numberOrZero text) }

lemma twoBuckets_isExactRate {keys : List String} (hkey : "bucket_NGN_0_1000" ∈ keys) :
    twoBuckets.IsExactRate "USDC" 50 keys 10 :=
  ⟨"bucket_NGN_0_1000", hkey, "bucket", "NGN", "0", "1000", [], 0, 1000, by decide +kernel,
    by decide +kernel, by decide +kernel, _, rfl, "p1:USDC:10:1:90", List.mem_singleton_self _, "p1",
    "10", "1", "90", 1, 90, by decide +kernel, by decide +kernel, by decide +kernel,
    by decide +kernel, by decide +kernel, by decide +kernel⟩

end Sample

namespace RateStore

open Sample in
theorem getTokenRateFromQueue_exact_iff_sample :
    ∃ rate, (twoBuckets.scannedAs ["bucket_NGN_0_1000"]).getTokenRateFromQueue "USDC" 50 "NGN" 9 =
        .ok rate ∧ twoBuckets.IsExactRate "USDC" 50 ["bucket_NGN_0_1000"] rate := by
  have hexact : twoBuckets.IsExactRate "USDC" 50 ["bucket_NGN_0_1000"] 10 :=
    twoBuckets_isExactRate (List.mem_singleton_self _)
  have hanswer : twoBuckets.answer "USDC" 50 "bucket_NGN_0_1000" = .exact 10 false := by
    decide +kernel
  refine (getTokenRateFromQueue_exact_iff (by decide +kernel) ⟨10, hexact⟩ "NGN" 9).2 ⟨?_, ?_⟩ _
    (List.Perm.refl _)
  · intro key hkey rate raises h
    rw [List.mem_singleton.1 hkey, hanswer] at h
    cases h
    exact hexact
  · intro key hkey rate h
    rw [List.mem_singleton.1 hkey, hanswer] at h
    cases h

open Sample in
theorem getTokenRateFromQueue_listed_sample :
    ∃ rate, parsedBuckets.getTokenRateFromQueue "USDC" 50 "NGN" 9 = .ok rate ∧
      (¬ (∃ listed, parsedBuckets.IsListedRate "USDC" 50 ["bucket_NGN_0_1000",
        "bucket_NGN_1000_5000"] listed) → rate = 9) := by
  have hkeys : ∀ key ∈ ["bucket_NGN_0_1000", "bucket_NGN_1000_5000"],
      ∃ amounts, parsedBuckets.keyAmounts key = some amounts ∧ 0 < amounts.2 := by
    simp only [List.forall_mem_cons]
    exact ⟨⟨(0, 1000), by decide +kernel⟩, ⟨(1000, 5000), by decide +kernel⟩, nofun⟩
  obtain ⟨rate, hrate, -, hmarket⟩ := @getTokenRateFromQueue_listed parsedBuckets "USDC" 50 _ "NGN" 9
    rfl hkeys fun _ _ _ _ _ _ _ _ _ _ _ => ⟨_, rfl⟩
  exact ⟨rate, hrate, hmarket⟩

open Sample in
theorem substitute_overwrites_exact :
    twoBuckets.IsExactRate "USDC" 50 ["bucket_NGN_0_1000", "bucket_NGN_1000_5000"] 10 ∧
      twoBuckets.getTokenRateFromQueue "USDC" 50 "NGN" 9 = .ok 11 ∧
      ¬ twoBuckets.IsExactRate "USDC" 50 ["bucket_NGN_0_1000", "bucket_NGN_1000_5000"] 11 := by
  refine ⟨twoBuckets_isExactRate (List.mem_cons_self ..), by decide +kernel, ?_⟩
  rintro ⟨key, hkey, name, currency, minText, maxText, rest, minAmount, maxAmount, hsplit, hmin, -,
    texts, hrange, providerData, hdata, provider, rateText, lowText, highText, low, high, hentry, hrate,
    -, -, -, hbucket, -⟩
  rcases List.mem_cons.1 hkey with rfl | hkey
  · -- the entry of the first bucket has the rate 10
    have hqueue : twoBuckets.lrange "bucket_NGN_0_1000" = some ["p1:USDC:10:1:90"] := rfl
    obtain rfl := Option.some.inj (hqueue.symm.trans hrange)
    obtain rfl := List.mem_singleton.1 hdata
    have hparts : splitText ':' "p1:USDC:10:1:90" = ["p1", "USDC", "10", "1", "90"] := by
      decide +kernel
    rw [hparts] at hentry
    cases hentry
    exact absurd hrate (by decide +kernel)
  · -- the second bucket starts at 1000, which 550 does not reach
    obtain rfl := List.mem_singleton.1 hkey
    have hparts : splitText '_' "bucket_NGN_1000_5000" = ["bucket", "NGN", "1000", "5000"] := by
      decide +kernel
    rw [hparts] at hsplit
    cases hsplit
    have hthousand : twoBuckets.newFromString "1000" = .ok 1000 := by decide +kernel
    obtain rfl := Except.ok.inj (hthousand.symm.trans hmin)
    exact absurd hbucket (by decide +kernel)

end RateStore

end Stablenode
