import Stablenode.Admission
import Stablenode.QueueBuilder

/-! The limits and rates of providers against the orders that `matchRate` sends them
(services/priority_queue.go). -/
namespace Stablenode

open Proc

variable {rate : Option ℚ}

section Sends

variable (conf : OrderConfig) (env : Environment)

def SendsTo (s : Store) (key : QueueKey) (excludeList : List String) (fuel : ℕ) (order : OrderFields)
    (provider : String) : Prop :=
  ∃ faults w, AssignCall.sending true provider w ∈
    ((matchRateCalls conf env (fun _ => ret .ok) key excludeList fuel 0 order).trace AssignCall.exec
      faults s).map Call.label

variable {conf env} {s : Store} {key : QueueKey} {excludeList : List String} {order : OrderFields}
  {provider : String}

lemma handOverCalls_uses (index : ℕ) (order : OrderFields) :
    Uses (fun c => ∀ p w, c = AssignCall.sending true p w → p = order.providerId)
      (handOverCalls conf env (fun _ => ret .ok) key index provider order) := by
  have hcalls : Uses (fun c => ∀ p w, c = AssignCall.sending true p w → p = order.providerId)
      (sendOrderRequestCalls conf env true order) := by
    refine Uses.mapLabel (fun w _ p w' h => ?_) (sendOrderRequest_uses_send conf env order)
    cases h
    rfl
  rw [handOverCalls]
  split
  on_goal 1 =>
    refine uses_attempt (fun p w h => by cases h) trivial fun s => ?_
    split
    · trivial
    refine uses_attempt (fun p w h => by cases h) trivial fun _ => ?_
  all_goals
    refine uses_bind hcalls fun r => ?_
    cases r with
    | error e => exact uses_ignore (fun p w h => by cases h) trivial
    | ok | panicked => trivial

def SendsFitting (env : Environment) (s : Store) (key : QueueKey) (excludeList : List String)
    (order : OrderFields) (calls : List AssignCall) : Prop :=
  ∀ p w, AssignCall.sending true p w ∈ calls → ∃ e ∈ s.queue key, e.provider? = some p ∧
    fits env s key.bucket.currency excludeList order e = true

lemma sendsFitting_nil : SendsFitting env s key excludeList order [] :=
  fun _ _ h => by cases h

lemma SendsFitting.cons {c : AssignCall} {calls : List AssignCall}
    (h : SendsFitting env s key excludeList order calls) (hc : ∀ p w, c ≠ .sending true p w) :
    SendsFitting env s key excludeList order (c :: calls) := by
  intro p w hmem
  rcases List.mem_cons.1 hmem with heq | hmem
  · exact absurd heq.symm (hc p w)
  · exact h p w hmem

lemma matchRateCalls_sendsFitting (fuel index : ℕ) (order : OrderFields) :
    Yields AssignCall.exec (fun _ => True)
      (fun _ calls _ => SendsFitting env s key excludeList order calls)
      (matchRateCalls conf env (fun _ => ret .ok) key excludeList fuel index order) s := by
  induction fuel generalizing index order with
  | zero => exact sendsFitting_nil
  | succ fuel ih =>
    -- a read before the rest of the walk
    have hread : ∀ {p : Proc AssignCall Store (Completion AssignError)} {c : AssignCall},
        (∀ p w, c ≠ .sending true p w) →
        Yields AssignCall.exec (fun _ => True)
          (fun _ calls _ => SendsFitting env s key excludeList order calls) p s →
        Yields AssignCall.exec (fun _ => True)
          (fun _ calls _ => SendsFitting env s key excludeList order (c :: calls)) p s :=
      fun hc h => h.mono fun _ _ _ hcalls => hcalls.cons hc
    rw [matchRateCalls]
    have hend (r : Completion AssignError) : Yields AssignCall.exec (fun _ => True)
        (fun _ calls _ => SendsFitting env s key excludeList order calls) (ret r) s :=
      sendsFitting_nil
    refine yields_attempt (hread (fun _ _ h => by cases h) ?_) (hread (fun _ _ h => by cases h) (hend _))
    cases hentry : (s.queue key)[index]? with
    | none => exact sendsFitting_nil
    | some e =>
      cases e with
      | malformed text => exact ih (index + 1) order
      | offer provider token rate minAmount maxAmount =>
        have hnext : Yields AssignCall.exec (fun _ => True)
            (fun _ calls _ => SendsFitting env s key excludeList order calls)
            (matchRateCalls conf env (fun _ => ret .ok) key excludeList fuel (index + 1)
              { order with providerId := provider }) s := by
          refine (ih (index + 1) { order with providerId := provider }).mono fun _ calls _ h => ?_
          intro p w hmem
          obtain ⟨e, he, hp, hfits⟩ := h p w hmem
          exact ⟨e, he, hp, fits_providerId key.bucket.currency provider e ▸ hfits⟩
        dsimp only
        cases htest : offerTest env { order with providerId := provider } key.bucket.currency
            excludeList (.offer provider token rate minAmount maxAmount) with
        | panicked => exact sendsFitting_nil
        | error e => exact hnext
        | ok =>
          refine yields_attempt (hread (fun _ _ h => by cases h) ?_)
            (hread (fun _ _ h => by cases h) hnext)
          split
          · exact hnext
          next hprovider =>
            have hfits : fits env s key.bucket.currency excludeList order
                (.offer provider token rate minAmount maxAmount) = true :=
              decide_eq_true ⟨htest, not_not.1 hprovider⟩
            have huses := @handOverCalls_uses conf env key provider index
              { order with providerId := provider }
            refine (huses.yields (I := fun _ => True) (fun _ _ _ _ => trivial) trivial).mono ?_
            intro _ calls _ hcalls p w hmem
            have hp : p = provider := hcalls.1 _ hmem p w rfl
            exact ⟨_, List.mem_of_getElem? hentry, congrArg some hp.symm, hfits⟩

lemma SendsTo.exists_fits {fuel : ℕ} (h : SendsTo conf env s key excludeList fuel order provider) :
    ∃ e ∈ s.queue key, e.provider? = some provider ∧
      fits env s key.bucket.currency excludeList order e = true := by
  obtain ⟨faults, w, hmem⟩ := h
  have hall := yields_iff_forall_trace.1 (@matchRateCalls_sendsFitting conf env s key excludeList
    fuel 0 order) faults (fun _ _ _ => trivial)
  exact hall provider w hmem

lemma trace_attempt_nil {ℓ σ α : Type} (exec : ℓ → σ → σ) (l : ℓ) (failed : Proc ℓ σ α)
    (k : σ → Proc ℓ σ α) (s : σ) :
    (attempt l failed k).trace exec [] s = ⟨l, s, true⟩ :: (k s).trace exec [] (exec l s) := rfl

lemma mem_trace_handOverCalls {index : ℕ} {e : QueueEntry} {bucket : ProvisionBucket}
    (hentry : (s.queue key)[index]? = some e) (hbucket : order.provisionBucket = some bucket) :
    AssignCall.sending true order.providerId .read ∈
      ((handOverCalls conf env (fun _ => ret .ok) key index provider order).trace AssignCall.exec []
        s).map Call.label := by
  have hsend : ∀ (k : _ → Proc AssignCall Store (Completion AssignError)) t,
      AssignCall.sending true order.providerId .read ∈
        ((Proc.bind (sendOrderRequestCalls conf env true order) k).trace AssignCall.exec [] t).map
          Call.label := by
    intro k t
    rw [sendOrderRequestCalls, sendOrderRequest, hbucket]
    exact List.mem_cons_self ..
  rw [handOverCalls]
  split
  next hzero =>
    subst hzero
    have hhead : (s.queue key).head? = some e := by rw [List.head?_eq_getElem?, hentry]
    rw [trace_attempt_nil, List.map_cons]
    refine List.mem_cons_of_mem _ ?_
    simp only [hhead]
    rw [trace_attempt_nil, List.map_cons]
    exact List.mem_cons_of_mem _ (hsend _ _)
  · exact hsend _ s

lemma sendsTo_of_first {index fuel : ℕ} {token : String} {minAmount maxAmount : Option ℚ}
    {bucket : ProvisionBucket} (hnormal : Normalizes env order key.bucket.currency)
    (hentry : (s.queue key)[index]? = some (.offer provider token rate minAmount maxAmount))
    (hfits : fits env s key.bucket.currency excludeList order
      (.offer provider token rate minAmount maxAmount))
    (hskipped : ∀ m < index, ∀ e, (s.queue key)[m]? = some e →
      fits env s key.bucket.currency excludeList order e = false)
    (hfuel : index < fuel) (hbucket : order.provisionBucket = some bucket) :
    SendsTo conf env s key excludeList fuel order provider := by
  have hreach : CallsReadsUntil s
      (matchRateCalls conf env (fun _ => ret .ok) key excludeList fuel 0 order)
      (handOverCalls conf env (fun _ => ret .ok) key index provider
        { order with providerId := provider }) := by
    have hentry' : (s.queue key)[0 + index]? =
        some (.offer provider token rate minAmount maxAmount) := by rwa [Nat.zero_add]
    have hwalk := @matchRateCalls_walk conf env s key order excludeList (fun _ => ret .ok) 0 fuel
      provider token rate minAmount maxAmount hnormal index hentry' hfits
      (fun m hm e he => hskipped m hm e (by rwa [Nat.zero_add] at he)) hfuel
    rwa [Nat.zero_add] at hwalk
  have hquiet : ∀ c : AssignCall, c.erase = .read → c.exec s = s := fun c hc => by
    rw [AssignCall.exec, hc]
    rfl
  obtain ⟨calls, hcalls⟩ := Reaches.trace hreach hquiet
  refine ⟨[], .read, ?_⟩
  rw [hcalls, List.map_append, List.mem_append]
  exact .inr (@mem_trace_handOverCalls conf env s key { order with providerId := provider } provider
    index _ bucket hentry hbucket)

end Sends

def TokenConfiguration.WithinSlippage (t : TokenConfiguration) (offered rate : ℚ) : Prop :=
  |offered - rate| ≤ rate * Decimal.div t.rateSlippage 100

namespace QueueBuilder

variable (Q : QueueBuilder) (token : Token) (currency provider : String)

def ownConfiguration : Option TokenConfiguration :=
  Q.tokens.find? fun t =>
    t.network = token.network ∧ t.provider = provider ∧ t.token = token.id ∧ t.currency = currency ∧
      t.address ≠ ""

def firstConfiguration : Option TokenConfiguration :=
  (Q.orderTokens provider currency).find? fun t => Q.symbolOf t.token = token.symbol

def Respects (own : TokenConfiguration) (order : OrderFields) : Prop :=
  (own.minOrderAmount ≤ order.amount ∧ order.amount ≤ own.maxOrderAmount) ∧
    own.WithinSlippage (Q.configuredRate own) order.rate

def Compatible : Prop :=
  ∀ own first rate, Q.ownConfiguration token currency provider = some own →
    Q.firstConfiguration token currency provider = some first →
    Q.getProviderRate provider token.symbol currency = some rate → rate ≠ 0 →
    Q.deviates token.symbol currency rate = false →
    first.minOrderAmount ≤ first.maxOrderAmount → (∃ r, own.WithinSlippage rate r) →
    (own.minOrderAmount ≤ first.minOrderAmount ∧ first.maxOrderAmount ≤ own.maxOrderAmount) ∧
      ∀ r, own.WithinSlippage rate r → own.WithinSlippage (Q.configuredRate own) r

variable {Q token currency provider} {s : Store} {env : Environment} {excludeList : List String}
  {order : OrderFields} {e : QueueEntry}

lemma provider?_of_entryFor {t : TokenConfiguration} (h : Q.entryFor provider currency t = some e) :
    e.provider? = some provider := by
  obtain ⟨rate, -, -, -, rfl⟩ := entryFor_eq_some_iff.1 h
  rfl

variable {providers : List String} {own : TokenConfiguration}

lemma mem_entries_offer {symbol : String} {low high : Option ℚ}
    (h : .offer provider symbol rate low high ∈ Q.entries s currency providers) :
    ∃ first r, (Q.orderTokens provider currency).find? (fun t => Q.symbolOf t.token = symbol) =
        some first ∧ Q.getProviderRate provider symbol currency = some r ∧ r ≠ 0 ∧
      Q.deviates symbol currency r = false ∧ rate = some r ∧ low = some first.minOrderAmount ∧
      high = some first.maxOrderAmount := by
  obtain ⟨p, -, -, symbol', t, r, hfind, hrate, hzero, hdeviates, heq⟩ := mem_entries_iff.1 h
  cases heq
  exact ⟨t, r, hfind, hrate, hzero, hdeviates, rfl, rfl, rfl⟩

lemma find?_ownConfiguration
    (htokens : s.providerOrderTokens = Q.tokens.map (·.toProviderOrderToken))
    (hown : Q.ownConfiguration token currency provider = some own) :
    s.providerOrderTokens.find? (fun t => t.network = token.network ∧ t.provider = provider ∧
      t.token = token.id ∧ t.currency = currency ∧ t.address ≠ "") =
        some own.toProviderOrderToken := by
  rw [htokens, List.find?_map]
  exact congrArg (Option.map _) hown

lemma respects_of_fits {built : Store} (hcompatible : Q.Compatible order.token currency provider)
    (htokens : s.providerOrderTokens = Q.tokens.map (·.toProviderOrderToken))
    (hconverts : order.Converts currency)
    (hown : Q.ownConfiguration order.token currency provider = some own)
    (hmem : e ∈ Q.entries built currency providers) (hprovider : e.provider? = some provider)
    (hfits : fits env s currency excludeList order e = true) : Q.Respects own order := by
  cases e with
  | malformed text => cases hprovider
  | offer p symbol rate low high =>
    cases hprovider
    obtain ⟨htest, hrow⟩ := of_decide_eq_true hfits
    have hnormal : normalizedAmount env { order with providerId := provider } currency =
        (.ok, order.amount) := normalizedAmount_of_converts hconverts
    obtain ⟨r, l, h, rfl, rfl, rfl, -, rfl, hlow, hhigh⟩ := (offerTest_eq_ok_iff hnormal).1 htest
    obtain ⟨t, balance, hfind, -, hslippage, -⟩ := providerFits_iff.1 hrow
    obtain ⟨first, r', hfirst, hrate, hzero, hdeviates, hr, hl, hh⟩ := mem_entries_offer hmem
    cases hr
    cases hl
    cases hh
    obtain rfl := Option.some.inj (hfind.symm.trans (find?_ownConfiguration htokens hown))
    obtain ⟨hinside, hrates⟩ := hcompatible own first r hown hfirst hrate hzero hdeviates
      (hlow.trans hhigh) ⟨order.rate, hslippage⟩
    exact ⟨⟨hinside.1.trans hlow, hhigh.trans hinside.2⟩, hrates order.rate hslippage⟩

section Sole

def soleStore (Q : QueueBuilder) (bucket : ProvisionBucket) (provider : String) (available : ℚ) :
    Store :=
  { Store.empty with
    providerOrderTokens := Q.tokens.map (·.toProviderOrderToken)
    balances := .single ⟨provider, bucket.currency, ⟨available, 0, available⟩, true, 0⟩
    queues := .single ⟨⟨bucket, false⟩, Q.pushTokens provider bucket.currency []
      (Q.orderTokens provider bucket.currency)⟩ }

def orderOf (bucket : ProvisionBucket) (token : Token) (amount rate : ℚ) : OrderFields where
  id := 1
  token := token
  amount := amount
  rate := rate
  institution := ""
  providerId := ""
  provisionBucket := some bucket
  updatedAt := 0

variable {bucket : ProvisionBucket}

lemma soleStore_queue (available : ℚ) :
    (Q.soleStore bucket provider available).queue ⟨bucket, false⟩ =
      Q.entries (Q.soleStore bucket provider available) bucket.currency [provider] := by
  simp [Store.queue, soleStore, Table.get, entries, providerEntries]

lemma sendsTo_sole {first : TokenConfiguration} {rate amount r : ℚ}
    (hbase : equalFold token.baseCurrency bucket.currency = false)
    (hown : Q.ownConfiguration token bucket.currency provider = some own)
    (hfirst : Q.firstConfiguration token bucket.currency provider = some first)
    (hrate : Q.getProviderRate provider token.symbol bucket.currency = some rate) (hzero : rate ≠ 0)
    (hdeviates : Q.deviates token.symbol bucket.currency rate = false)
    (hamount : first.minOrderAmount ≤ amount ∧ amount ≤ first.maxOrderAmount)
    (hslippage : own.WithinSlippage rate r) :
    SendsTo {} Environment.silent
      (Q.soleStore bucket provider (orderOf bucket token amount r).fiat) ⟨bucket, false⟩ []
      ((Q.entries (Q.soleStore bucket provider (orderOf bucket token amount r).fiat) bucket.currency
        [provider]).length + 1) (orderOf bucket token amount r) provider := by
  classical
  let s := Q.soleStore bucket provider (orderOf bucket token amount r).fiat
  let order := orderOf bucket token amount r
  have hconverts : order.Converts bucket.currency := hbase
  have hsymbol : Q.symbolOf first.token = token.symbol := by simpa using List.find?_some hfirst
  have hqueue : s.queue ⟨bucket, false⟩ =
      Q.pushTokens provider bucket.currency [] (Q.orderTokens provider bucket.currency) := by
    simp [s, Store.queue, soleStore, Table.get]
  have hmem : QueueEntry.offer provider token.symbol (some rate) (some first.minOrderAmount)
      (some first.maxOrderAmount) ∈ s.queue ⟨bucket, false⟩ := by
    rw [hqueue, mem_pushTokens]
    refine ⟨token.symbol, first, List.not_mem_nil, hfirst, entryFor_eq_some_iff.2 ?_⟩
    rw [hsymbol]
    exact ⟨rate, hrate, hzero, hdeviates, rfl⟩
  have hfits : fits Environment.silent s bucket.currency [] order
      (.offer provider token.symbol (some rate) (some first.minOrderAmount)
        (some first.maxOrderAmount)) = true := by
    have hnormal : normalizedAmount Environment.silent { order with providerId := provider }
        bucket.currency = (.ok, order.amount) := normalizedAmount_of_converts hconverts
    refine decide_eq_true ⟨(offerTest_eq_ok_iff hnormal).2 ?_, providerFits_iff.2 ?_⟩
    · exact ⟨rate, _, _, rfl, rfl, rfl, List.not_mem_nil, rfl, hamount⟩
    refine ⟨own.toProviderOrderToken, ⟨order.fiat, 0, order.fiat⟩, ?_, ?_, hslippage, ?_, le_rfl⟩
    · exact find?_ownConfiguration (s := s) rfl hown
    · simp [s, soleStore, Table.get]
    · simp [s, soleStore, Store.balance, Table.get, order]
  have hexists : ∃ index : ℕ, ∃ e, (s.queue ⟨bucket, false⟩)[index]? = some e ∧
      fits Environment.silent s bucket.currency [] order e = true := by
    obtain ⟨index, hindex⟩ := List.getElem?_of_mem hmem
    exact ⟨index, _, hindex, hfits⟩
  -- the first entry that passes is one of the provider, who has all of them
  obtain ⟨e, hentry, he⟩ := Nat.find_spec hexists
  have hprovider : e.provider? = some provider := by
    have hin := List.mem_of_getElem? hentry
    rw [hqueue] at hin
    obtain ⟨symbol, t, -, -, hpushed⟩ := mem_pushTokens.1 hin
    exact provider?_of_entryFor hpushed
  have hskipped : ∀ m < Nat.find hexists, ∀ e, (s.queue ⟨bucket, false⟩)[m]? = some e →
      fits Environment.silent s bucket.currency [] order e = false := fun m hm e hm' =>
    eq_false_of_ne_true fun h => Nat.find_min hexists hm ⟨e, hm', h⟩
  have hlt : Nat.find hexists < (Q.entries s bucket.currency [provider]).length + 1 := by
    have hbound := (List.getElem?_eq_some_iff.1 hentry).1
    have hlength : (s.queue ⟨bucket, false⟩).length =
        (Q.entries s bucket.currency [provider]).length := congrArg _ (soleStore_queue _)
    omega
  have hnormal : Normalizes Environment.silent order bucket.currency := by
    rw [Normalizes, normalizedAmount_of_converts hconverts]
    simp
  cases e with
  | malformed text => cases hprovider
  | offer p symbol rate' low high =>
    cases hprovider
    exact sendsTo_of_first hnormal hentry he hskipped hlt rfl

end Sole

theorem matchRate_respects_iff {bucket : ProvisionBucket}
    (hbase : equalFold token.baseCurrency bucket.currency = false) :
    (∀ conf env s built prev providers excludeList fuel order,
      s.providerOrderTokens = Q.tokens.map (·.toProviderOrderToken) →
      (∀ e ∈ s.queue ⟨bucket, prev⟩, e ∈ Q.entries built bucket.currency providers) →
      order.token = token → SendsTo conf env s ⟨bucket, prev⟩ excludeList fuel order provider →
      ∀ own, Q.ownConfiguration token bucket.currency provider = some own → Q.Respects own order) ↔
    Q.Compatible token bucket.currency provider := by
  constructor
  · intro h own first rate hown hfirst hrate hzero hdeviates hlimits ⟨r₀, hr₀⟩
    -- what the property says of an order that the entry lets through
    have hsent (amount r : ℚ)
        (hamount : first.minOrderAmount ≤ amount ∧ amount ≤ first.maxOrderAmount)
        (hr : own.WithinSlippage rate r) : Q.Respects own (orderOf bucket token amount r) :=
      h {} Environment.silent _ _ false [provider] [] _ _ rfl
        (fun e he => by rwa [soleStore_queue] at he) rfl
        (sendsTo_sole hbase hown hfirst hrate hzero hdeviates hamount hr) own hown
    refine ⟨⟨?_, ?_⟩, fun r hr => ?_⟩
    · exact (hsent _ r₀ ⟨le_rfl, hlimits⟩ hr₀).1.1
    · exact (hsent _ r₀ ⟨hlimits, le_rfl⟩ hr₀).1.2
    · exact (hsent _ r ⟨le_rfl, hlimits⟩ hr).2
  · rintro hcompatible conf env s built prev providers excludeList fuel order htokens hqueue rfl hsends
      own hown
    obtain ⟨e, hmem, hprovider, hfits⟩ := hsends.exists_fits
    exact respects_of_fits hcompatible htokens hbase hown (hqueue e hmem) hprovider hfits

end QueueBuilder

namespace Sample

def onBase : TokenConfiguration :=
  ⟨⟨"p1", 1, "NGN", "base", "0xp1", 1⟩, .fixed, 10, 0, 1, 90⟩

def onPolygon : TokenConfiguration :=
  ⟨⟨"p1", 2, "NGN", "polygon", "0xp1", 1⟩, .fixed, 10, 0, 1, 1000⟩

def networks (tokens : List TokenConfiguration) : QueueBuilder where
  tokens := tokens
  symbolOf _ := "USDC"
  marketRate _ := 10
  isProduction := false
  percentDeviationFromMarketRate := 1

end Sample

open Sample QueueBuilder in
theorem matchRate_respects_one_network :
    (networks [onBase]).Compatible token bucket.currency "p1" ∧
      (networks [onBase]).Respects onBase (orderOf bucket token 50 10) := by
  have hcompatible : (networks [onBase]).Compatible token bucket.currency "p1" := by
    rintro own first rate ⟨⟩ ⟨⟩ ⟨⟩ hzero hdeviates hlimits hsome
    exact ⟨⟨le_rfl, le_rfl⟩, fun r hr => hr⟩
  refine ⟨hcompatible, (matchRate_respects_iff (by decide +kernel)).2 hcompatible _ _ _ _ false ["p1"] _ _
    _ rfl (fun e he => by rwa [soleStore_queue] at he) rfl (sendsTo_sole (by decide +kernel) rfl rfl rfl
      (by decide +kernel) rfl ⟨by decide +kernel, by decide +kernel⟩ (by
        rw [TokenConfiguration.WithinSlippage]; decide +kernel)) _ rfl⟩

open Sample QueueBuilder in
theorem sent_above_own_limit : let Q := networks [onPolygon, onBase]
    let order := orderOf bucket token 500 10
    Q.ownConfiguration token bucket.currency "p1" = some onBase ∧ onBase.maxOrderAmount < order.amount ∧
      SendsTo {} Environment.silent (Q.soleStore bucket "p1" order.fiat) ⟨bucket, false⟩ [] 2 order
        "p1" :=
  ⟨rfl, by decide +kernel, sendsTo_sole (by decide +kernel) rfl rfl rfl (by decide +kernel) rfl
    ⟨by decide +kernel, by decide +kernel⟩ (by rw [TokenConfiguration.WithinSlippage]; decide +kernel)⟩

end Stablenode
