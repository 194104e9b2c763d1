import Stablenode.RateSearch

/-! The entries that `CreatePriorityQueueForBucket` (services/priority_queue.go) pushes: one for
each token symbol of a provider. -/
namespace Stablenode

structure QueueBuilder where
  tokens : List TokenConfiguration
  symbolOf : ℕ → String
  marketRate : String → ℚ
  isProduction : Bool
  percentDeviationFromMarketRate : ℚ

def absPercentageDeviation (trueValue measuredValue : ℚ) : ℚ :=
  if trueValue = 0 then 0 else |Decimal.div (measuredValue - trueValue) trueValue * 100|

namespace QueueBuilder

variable (Q : QueueBuilder)

def configuredRate (t : TokenConfiguration) : ℚ :=
  match t.conversionRateType with
  | .fixed => t.fixedConversionRate
  | .floating => Decimal.roundBank (Q.marketRate t.currency + t.floatingConversionRate) 2

def getProviderRate (provider symbol currency : String) : Option ℚ :=
  (Q.tokens.find? fun t =>
    t.provider = provider ∧ Q.symbolOf t.token = symbol ∧ t.currency = currency).map Q.configuredRate

def deviates (symbol currency : String) (rate : ℚ) : Bool :=
  let isLocalStablecoin := containsText symbol currency && !containsText symbol "USD"
  Q.isProduction ∧
    Q.percentDeviationFromMarketRate < absPercentageDeviation (Q.marketRate currency) rate ∧
    ¬ isLocalStablecoin

def entryFor (provider currency : String) (t : TokenConfiguration) : Option QueueEntry :=
  match Q.getProviderRate provider (Q.symbolOf t.token) currency with
  | none => none
  | some rate =>
    if rate = 0 then none
    else if Q.deviates (Q.symbolOf t.token) currency rate then none
    else
      some (.offer provider (Q.symbolOf t.token) (some rate) (some t.minOrderAmount)
        (some t.maxOrderAmount))

def pushTokens (provider currency : String) : List String → List TokenConfiguration → List QueueEntry
  | _, [] => []
  | tokenSymbols, t :: orderTokens =>
    if Q.symbolOf t.token ∈ tokenSymbols then pushTokens provider currency tokenSymbols orderTokens
    else
      (Q.entryFor provider currency t).toList ++
        pushTokens provider currency (tokenSymbols ++ [Q.symbolOf t.token]) orderTokens

def orderTokens (provider currency : String) : List TokenConfiguration :=
  Q.tokens.filter fun t => t.provider = provider ∧ t.currency = currency ∧ t.address ≠ ""

def providerEntries (s : Store) (provider currency : String) : List QueueEntry :=
  if (s.balances.get (provider, currency)).isSome then
    Q.pushTokens provider currency [] (Q.orderTokens provider currency)
  else []

def entries (s : Store) (currency : String) (providers : List String) : List QueueEntry :=
  providers.flatMap fun provider => Q.providerEntries s provider currency

variable {Q} {provider currency : String} {tokenSymbols : List String}
  {orderTokens : List TokenConfiguration} {e : QueueEntry}

lemma mem_pushTokens :
    e ∈ Q.pushTokens provider currency tokenSymbols orderTokens ↔
      ∃ symbol t, symbol ∉ tokenSymbols ∧
        orderTokens.find? (fun t => Q.symbolOf t.token = symbol) = some t ∧
        Q.entryFor provider currency t = some e := by
  induction orderTokens generalizing tokenSymbols with
  | nil => simp [pushTokens]
  | cons t ts ih =>
    rw [pushTokens]
    split
    next hmet =>
      rw [ih]
      refine exists_congr fun symbol => exists_congr fun t' => and_congr_right fun hnew => ?_
      have hne : Q.symbolOf t.token ≠ symbol := fun h => hnew (h ▸ hmet)
      rw [List.find?_cons_of_neg (by simpa using hne)]
    next hnew =>
      rw [List.mem_append, Option.mem_toList, ih]
      constructor
      · rintro (hfirst | ⟨symbol, t', hsymbol, hfind, hentry⟩)
        · exact ⟨Q.symbolOf t.token, t, hnew, List.find?_cons_of_pos (by simp), hfirst⟩
        · rw [List.mem_append, not_or, List.mem_singleton] at hsymbol
          refine ⟨symbol, t', hsymbol.1, ?_, hentry⟩
          rw [List.find?_cons_of_neg (by simpa using Ne.symm hsymbol.2), hfind]
      rintro ⟨symbol, t', hsymbol, hfind, hentry⟩
      by_cases heq : Q.symbolOf t.token = symbol
      · rw [List.find?_cons_of_pos (by simpa using heq)] at hfind
        cases hfind
        exact .inl hentry
      · rw [List.find?_cons_of_neg (by simpa using heq)] at hfind
        refine .inr ⟨symbol, t', ?_, hfind, hentry⟩
        rw [List.mem_append, not_or, List.mem_singleton]
        exact ⟨hsymbol, Ne.symm heq⟩

lemma entryFor_eq_some_iff {t : TokenConfiguration} :
    Q.entryFor provider currency t = some e ↔
      ∃ rate, Q.getProviderRate provider (Q.symbolOf t.token) currency = some rate ∧ rate ≠ 0 ∧
        Q.deviates (Q.symbolOf t.token) currency rate = false ∧
        e = .offer provider (Q.symbolOf t.token) (some rate) (some t.minOrderAmount)
          (some t.maxOrderAmount) := by
  rw [entryFor]
  cases Q.getProviderRate provider (Q.symbolOf t.token) currency with
  | none => simp
  | some rate =>
    simp only [Option.some.injEq, exists_eq_left']
    split
    next hzero => simp [hzero]
    next hzero =>
      split
      next hdeviates => simp [hdeviates]
      next hdeviates => simp [hzero, hdeviates, eq_comm]

lemma mem_entries_iff {s : Store} {providers : List String} :
    e ∈ Q.entries s currency providers ↔
      ∃ provider ∈ providers, (s.balances.get (provider, currency)).isSome ∧ ∃ symbol t rate,
        (Q.orderTokens provider currency).find? (fun t => Q.symbolOf t.token = symbol) = some t ∧
        Q.getProviderRate provider symbol currency = some rate ∧ rate ≠ 0 ∧
        Q.deviates symbol currency rate = false ∧
        e = .offer provider symbol (some rate) (some t.minOrderAmount) (some t.maxOrderAmount) := by
  rw [entries, List.mem_flatMap]
  refine exists_congr fun provider => and_congr_right fun _ => ?_
  rw [providerEntries]
  by_cases hrow : (s.balances.get (provider, currency)).isSome
  · rw [if_pos hrow, mem_pushTokens, and_iff_right hrow]
    refine exists_congr fun symbol => exists_congr fun t => ?_
    simp only [List.not_mem_nil, not_false_eq_true, true_and, exists_and_left]
    refine and_congr_right fun hfind => ?_
    obtain rfl : Q.symbolOf t.token = symbol := by simpa using List.find?_some hfind
    exact entryFor_eq_some_iff
  · simp [hrow]

end QueueBuilder

end Stablenode
