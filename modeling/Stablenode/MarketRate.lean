import Stablenode.CreationWrites
import Stablenode.Faults
import Stablenode.QueueBuilder

/-! `ComputeMarketRate` (tasks/tasks.go): the median of the fixed rates, or the external rate. -/
namespace Stablenode

open Proc

def median (data : List ℚ) : ℚ :=
  let sorted := data.insertionSort (· ≤ ·)
  let middle := data.length / 2
  if data.length = 0 then 0
  else if data.length % 2 = 0 then
    Decimal.div (sorted.getD middle 0 + sorted.getD (middle - 1) 0) 2
  else sorted.getD middle 0

section Median

variable {data other : List ℚ} {k : ℕ}

lemma apply_getElem_iff {α : Type*} {l : List α} {p : α → Bool}
    (h : l.Pairwise fun x y => p y → p x) (hk : k < l.length) : p l[k] ↔ k < l.countP p := by
  induction l generalizing k with
  | nil => cases hk
  | cons a l ih =>
    obtain ⟨hhead, htail⟩ := List.pairwise_cons.1 h
    by_cases ha : p a
    · cases k with
      | zero => simp [ha]
      | succ k => simpa [ha] using ih htail (by simpa using hk)
    · have hnone : ∀ b ∈ a :: l, ¬ p b := by
        simpa [ha] using fun b hb => mt (hhead b hb) ha
      simp [List.countP_eq_zero.2 hnone, hnone _ (List.getElem_mem hk)]

def orderStatistic (data : List ℚ) (k : ℕ) : ℚ := (data.insertionSort (· ≤ ·)).getD k 0

lemma orderStatistic_eq (hk : k < data.length) :
    ∃ h : k < (data.insertionSort (· ≤ ·)).length,
      orderStatistic data k = (data.insertionSort (· ≤ ·))[k] :=
  ⟨by simpa using hk, List.getD_eq_getElem _ _ (by simpa using hk)⟩

lemma orderStatistic_mem (hk : k < data.length) : orderStatistic data k ∈ data := by
  obtain ⟨h, heq⟩ := orderStatistic_eq hk
  rw [heq]
  exact (List.perm_insertionSort (· ≤ ·) data).mem_iff.1 (List.getElem_mem h)

lemma apply_orderStatistic_iff {p : ℚ → Bool} (hp : ∀ x y, x ≤ y → p y → p x)
    (hk : k < data.length) : p (orderStatistic data k) ↔ k < data.countP p := by
  obtain ⟨h, heq⟩ := orderStatistic_eq hk
  rw [heq, ← (List.perm_insertionSort (· ≤ ·) data).countP_eq p]
  exact apply_getElem_iff ((List.pairwise_insertionSort (· ≤ ·) data).imp (hp _ _)) h

lemma orderStatistic_le_iff {x : ℚ} (hk : k < data.length) :
    orderStatistic data k ≤ x ↔ k < data.countP (· ≤ x) := by
  rw [← apply_orderStatistic_iff (by simpa using fun _ _ => le_trans) hk, decide_eq_true_iff]

lemma orderStatistic_mono (hlength : other.length = data.length)
    (hcount : ∀ x, other.countP (· ≤ x) ≤ data.countP (· ≤ x)) (hk : k < data.length) :
    orderStatistic data k ≤ orderStatistic other k := by
  rw [orderStatistic_le_iff hk]
  exact ((orderStatistic_le_iff (hlength ▸ hk)).1 le_rfl).trans_le (hcount _)

lemma median_eq (hne : data ≠ []) :
    median data = if data.length % 2 = 0 then
      Decimal.div (orderStatistic data (data.length / 2) +
        orderStatistic data (data.length / 2 - 1)) 2
    else orderStatistic data (data.length / 2) := by
  rw [median, if_neg (by simpa using hne)]
  rfl

lemma median_mono (hne : data ≠ []) (hlength : other.length = data.length)
    (hcount : ∀ x, other.countP (· ≤ x) ≤ data.countP (· ≤ x)) : median data ≤ median other := by
  have hpos := List.length_pos_iff.2 hne
  have hother : other ≠ [] := List.length_pos_iff.1 (hlength ▸ hpos)
  have hmiddle := orderStatistic_mono hlength hcount (k := data.length / 2) (by omega)
  rw [median_eq hne, median_eq hother, hlength]
  split_ifs with heven
  · have hbelow := orderStatistic_mono hlength hcount (k := data.length / 2 - 1) (by omega)
    exact Decimal.div_mono (by norm_num) (add_le_add hmiddle hbelow)
  · exact hmiddle

lemma median_bounds (hne : data ≠ []) {low high : ℚ} (h : ∀ x ∈ data, low ≤ x ∧ x ≤ high) :
    let error : ℚ := if data.length % 2 = 0 then 1 / 2 / 10 ^ 16 else 0
    low - error ≤ median data ∧ median data ≤ high + error := by
  have hpos := List.length_pos_iff.2 hne
  have hmiddle := h _ (orderStatistic_mem (k := data.length / 2) (by omega))
  rw [median_eq hne]
  split_ifs with heven
  · have hbelow := h _ (orderStatistic_mem (k := data.length / 2 - 1) (by omega))
    have hround := abs_le.1 (Decimal.abs_round_sub_le ((orderStatistic data (data.length / 2) +
      orderStatistic data (data.length / 2 - 1)) / 2) 16)
    rw [Decimal.div]
    constructor <;> linarith
  · simpa using hmiddle

lemma half_le_countP (hodd : data.length % 2 = 1) :
    data.length ≤ 2 * data.countP (· ≤ median data) ∧
      data.length ≤ 2 * data.countP (median data ≤ ·) := by
  have hk : data.length / 2 < data.length := by omega
  have hne : data ≠ [] := List.length_pos_iff.1 (by omega)
  rw [median_eq hne, if_neg (by omega)]
  have hle := (orderStatistic_le_iff hk).1 le_rfl
  have hlt := mt (apply_orderStatistic_iff (p := (· < orderStatistic data (data.length / 2)))
    (by simpa using fun _ _ => lt_of_le_of_lt) hk).2 (by simp)
  have hsplit := List.length_eq_countP_add_countP (l := data)
    (p := (· < orderStatistic data (data.length / 2)))
  simp only [decide_eq_true_eq, not_lt] at hsplit
  omega

theorem median_properties (data : List ℚ) (hne : data ≠ []) :
    (∀ other, other.Perm data → median other = median data) ∧
    (∀ low high, (∀ x ∈ data, low ≤ x ∧ x ≤ high) →
      let error : ℚ := if data.length % 2 = 0 then 1 / 2 / 10 ^ 16 else 0
      low - error ≤ median data ∧ median data ≤ high + error) ∧
    (data.length % 2 = 1 → data.length ≤ 2 * data.countP (· ≤ median data) ∧
      data.length ≤ 2 * data.countP (median data ≤ ·)) ∧
    ∀ front x back y, data = front ++ x :: back → x ≤ y →
      median data ≤ median (front ++ y :: back) := by
  refine ⟨fun other h => ?_, fun low high => median_bounds hne, half_le_countP, ?_⟩
  · have hother : other ≠ [] := fun hnil => hne (by simpa [hnil] using h)
    exact le_antisymm (median_mono hother h.length_eq.symm fun x => (h.countP_eq _).ge)
      (median_mono hne h.length_eq fun x => (h.countP_eq _).le)
  · rintro front x back y rfl hxy
    refine median_mono hne (by simp) fun z => ?_
    have hcons : (y :: back).countP (· ≤ z) ≤ (x :: back).countP (· ≤ z) := by
      by_cases hy : y ≤ z
      · simp [hy, hxy.trans hy]
      · simp [hy, List.countP_cons]
    rw [List.countP_append, List.countP_append]
    exact Nat.add_le_add_left hcons _

theorem median_raised : median [3, 1, 2] ≤ median [3, 5, 2] ∧ median [3, 1, 2] = 2 :=
  ⟨(median_properties [3, 1, 2] (by decide)).2.2.2 [3] 1 [2] 5 rfl (by norm_num), by decide +kernel⟩

end Median

structure MarketStore where
  currencies : Table FiatCurrency.code
  tokens : List TokenConfiguration
  symbolOf : ℕ → String
  isActive : String → Bool

namespace MarketStore

variable (s : MarketStore)

def enabledCurrencies : List FiatCurrency := s.currencies.rows.filter (·.isEnabled)

def tokenConfigs : List TokenConfiguration :=
  s.tokens.filter fun t =>
    s.symbolOf t.token ∈ ["USDT", "USDC"] ∧ t.conversionRateType = .fixed ∧ s.isActive t.provider

def rates : List ℚ := s.tokenConfigs.map TokenConfiguration.fixedConversionRate

def ratesFor (code : String) : List ℚ :=
  (s.tokenConfigs.filter (·.currency = code)).map TokenConfiguration.fixedConversionRate

def setMarketRate (code : String) (rate : ℚ) : MarketStore :=
  { s with currencies := s.currencies.modify code (fun c => { c with marketRate := rate }) fun _ => rfl }

end MarketStore

inductive MarketCall where
  | query
  | fetchExternalRate (currency : String)
  | setMarketRate (currency : String) (rate : ℚ)
  deriving DecidableEq

def MarketCall.exec : MarketCall → MarketStore → MarketStore
  | setMarketRate currency rate, s => s.setMarketRate currency rate
  | _, s => s

abbrev MarketProgram := Proc MarketCall MarketStore

structure MarketEnvironment where
  percentDeviationFromExternalRate : ℚ
  externalRate : String → Option ℚ

namespace MarketEnvironment

variable (E : MarketEnvironment)

def marketRate (externalRate median : ℚ) : ℚ :=
  if E.percentDeviationFromExternalRate < absPercentageDeviation externalRate median then externalRate
  else median

def updateCurrency (currency : FiatCurrency) : MarketProgram Unit :=
  attempt (.fetchExternalRate currency.code) (ret ()) fun _ =>
  match E.externalRate currency.code with
  | none => ret ()
  | some externalRate =>
    attempt .query (ret ()) fun s =>
    ignore (.setMarketRate currency.code (E.marketRate externalRate (median s.rates))) (ret ())

def computeMarketRate : MarketProgram (Except String Unit) :=
  attempt .query (ret (.error "ComputeMarketRate")) fun s =>
  (forEach s.enabledCurrencies E.updateCurrency).bind fun _ => ret (.ok ())

structure IsSane (s : MarketStore) (code : String) (externalRate rate : ℚ) : Prop where
  source : rate = externalRate ∨ s.ratesFor code ≠ [] ∧ rate = median (s.ratesFor code)
  pos : 0 < externalRate → 0 < rate
  deviation : 0 < externalRate →
    |rate - externalRate| * 100 ≤ E.percentDeviationFromExternalRate * externalRate

def StoresSane : MarketCall → MarketStore → Prop
  | .setMarketRate code rate, s => ∀ e, E.externalRate code = some e → E.IsSane s code e rate
  | _, _ => True

def Fits (s : MarketStore) (code : String) (externalRate : ℚ) : Prop :=
  let p := E.percentDeviationFromExternalRate
  let m := median s.rates
  (0 < externalRate → 0 ≤ p) ∧
    (absPercentageDeviation externalRate m ≤ p → m ≠ externalRate →
      (s.ratesFor code ≠ [] ∧ m = median (s.ratesFor code)) ∧
      (0 < externalRate → |m - externalRate| * 100 ≤ p * externalRate ∧ (100 ≤ p → 0 < m)))

variable {E} {s : MarketStore} {code : String} {e : ℚ}

lemma isSane_externalRate_iff :
    E.IsSane s code e e ↔ (0 < e → 0 ≤ E.percentDeviationFromExternalRate) := by
  constructor
  · intro h he
    have hdev := h.deviation he
    rw [sub_self, abs_zero, zero_mul] at hdev
    exact nonneg_of_mul_nonneg_left hdev he
  · intro h
    refine ⟨.inl rfl, id, fun he => ?_⟩
    rw [sub_self, abs_zero, zero_mul]
    exact mul_nonneg (h he) he.le

lemma pos_of_deviation {m p : ℚ} (he : 0 < e) (hdev : |m - e| * 100 ≤ p * e) (hp : p < 100) :
    0 < m := by
  have hlow : -(|m - e|) ≤ m - e := neg_abs_le _
  have hlt : p * e < 100 * e := mul_lt_mul_of_pos_right hp he
  linarith

lemma isSane_marketRate_iff :
    E.IsSane s code e (E.marketRate e (median s.rates)) ↔ E.Fits s code e := by
  rw [marketRate, Fits]
  split_ifs with hfar
  · rw [isSane_externalRate_iff]
    exact (and_iff_left fun hle => absurd hfar (not_lt.2 hle)).symm
  by_cases hm : median s.rates = e
  · rw [hm, isSane_externalRate_iff]
    exact (and_iff_left fun _ hne => absurd rfl hne).symm
  constructor
  · intro h
    refine ⟨fun he => ?_, fun _ _ => ⟨h.source.resolve_left hm, fun he =>
      ⟨h.deviation he, fun _ => h.pos he⟩⟩⟩
    have hnonneg : 0 ≤ |median s.rates - e| * 100 := by positivity
    exact nonneg_of_mul_nonneg_left (hnonneg.trans (h.deviation he)) he
  · rintro ⟨-, h⟩
    obtain ⟨hsource, hrest⟩ := h (not_lt.1 hfar) hm
    refine ⟨.inr hsource, fun he => ?_, fun he => (hrest he).1⟩
    by_cases hp : 100 ≤ E.percentDeviationFromExternalRate
    · exact (hrest he).2 hp
    · exact pos_of_deviation he (hrest he).1 (not_le.1 hp)

def SameRates (s t : MarketStore) : Prop := t.rates = s.rates ∧ t.ratesFor = s.ratesFor

variable {t : MarketStore} {currency : FiatCurrency}

lemma SameRates.fits_iff (h : SameRates s t) : E.Fits t code e ↔ E.Fits s code e := by
  simp only [Fits, h.1, h.2]

lemma updateCurrency_sameRates (h : Ends MarketCall.exec (E.updateCurrency currency) s () t) :
    SameRates s t := by
  rw [updateCurrency, ends_attempt_iff] at h
  rcases h with h | h
  · split at h
    · obtain ⟨-, rfl⟩ := ends_ret_iff.1 h
      exact ⟨rfl, rfl⟩
    · rw [ends_attempt_iff, ends_ignore_iff] at h
      rcases h with (h | h) | h <;> obtain ⟨-, rfl⟩ := ends_ret_iff.1 h <;> exact ⟨rfl, rfl⟩
  · obtain ⟨-, rfl⟩ := ends_ret_iff.1 h
    exact ⟨rfl, rfl⟩

lemma updateCurrency_safe_iff :
    Safe MarketCall.exec E.StoresSane (E.updateCurrency currency) s ↔
      ∀ e, E.externalRate currency.code = some e → E.Fits s currency.code e := by
  rw [updateCurrency, safe_attempt_iff]
  cases he : E.externalRate currency.code with
  | none => simp [StoresSane, Safe]
  | some e =>
    simp only [safe_attempt_iff, safe_ignore_iff, StoresSane, he, Option.some.injEq, forall_eq',
      MarketCall.exec, isSane_marketRate_iff, Safe, and_true, true_and]

lemma updateCurrencies_safe_iff (currencies : List FiatCurrency) (s : MarketStore) :
    Safe MarketCall.exec E.StoresSane (forEach currencies E.updateCurrency) s ↔
      ∀ currency ∈ currencies, ∀ e, E.externalRate currency.code = some e →
        E.Fits s currency.code e := by
  induction currencies generalizing s with
  | nil => simp [forEach]
  | cons currency currencies ih =>
    rw [forEach, safe_bind_iff, updateCurrency_safe_iff, List.forall_mem_cons]
    refine and_congr_right fun _ => ?_
    constructor
    · intro h
      obtain ⟨⟨⟩, t, ht⟩ : ∃ a t, Ends MarketCall.exec (E.updateCurrency currency) s a t :=
        exists_ends _ s
      intro c hc e he
      exact (updateCurrency_sameRates ht).fits_iff.1 ((ih t).1 (h () t ht) c hc e he)
    · intro h a t ht
      refine (ih t).2 fun c hc e he => ?_
      exact (updateCurrency_sameRates ht).fits_iff.2 (h c hc e he)

theorem stores_sane_iff_fits (E : MarketEnvironment) (s : MarketStore) :
    (∀ faults, Run.Admitted MarketCall.exec E.StoresSane s
      (E.computeMarketRate.history MarketCall.exec faults s)) ↔
      ∀ currency ∈ s.enabledCurrencies, ∀ e, E.externalRate currency.code = some e →
        E.Fits s currency.code e := by
  rw [← safe_iff_forall_faults, computeMarketRate, safe_attempt_iff]
  simp only [StoresSane, MarketCall.exec, Safe, and_true, true_and]
  rw [safe_bind_iff]
  exact (and_iff_left fun _ _ _ => trivial).trans (updateCurrencies_safe_iff _ s)

end MarketEnvironment

namespace Sample

def market : MarketStore where
  currencies := ⟨[⟨"NGN", true, 0⟩, ⟨"UGX", true, 0⟩], by decide⟩
  tokens := [⟨⟨"p1", 1, "UGX", "base", "0xp1", 1⟩, .fixed, 1505, 0, 1, 90⟩]
  symbolOf _ := "USDC"
  isActive _ := true

def exchanges : MarketEnvironment where
  percentDeviationFromExternalRate := 1
  externalRate code := if code = "NGN" then some 1500 else none

end Sample

open Sample MarketEnvironment in
theorem foreign_fixed_rate_stored :
    exchanges.computeMarketRate.history MarketCall.exec [] market =
        [.query, .fetchExternalRate "NGN", .query, .setMarketRate "NGN" 1505, .fetchExternalRate "UGX"] ∧
      market.ratesFor "NGN" = [] ∧ ¬ exchanges.IsSane market "NGN" 1500 1505 := by
  have hrates : market.ratesFor "NGN" = [] := by decide
  refine ⟨by decide +kernel, hrates, fun h => ?_⟩
  rcases h.source with h | h
  · norm_num at h
  · exact h.1 hrates

end Stablenode
