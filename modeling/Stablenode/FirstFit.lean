import Stablenode.AssignmentCalls
import Stablenode.TokenRate

/-! `matchRate` (services/priority_queue.go) on a queue that nobody else changes ends at the first
entry that passes the tests. -/
namespace Stablenode

open BalanceManagement Proc

section MatchRate

variable (conf : OrderConfig) (env : Environment)
  (reassign : OrderFields → OrderProgram (Completion AssignError))

def handOver (key : QueueKey) (index : ℕ) (provider : String) (order : OrderFields) :
    OrderProgram (Completion AssignError) :=
  let send := (sendOrderRequest conf env order).bind fun
    | .error _ => ignore (.pushExclude order.id provider) (reassign order)
    | r => ret r
  if index = 0 then
    attempt (.popQueue key) (ret (.error .redis)) fun s =>
    match (s.queue key).head? with
    | none => ret (.error .redisNil)
    | some data => attempt (.pushQueue key data) (ret (.error .redis)) fun _ => send
  else send

def fits (s : Store) (currency : String) (excludeList : List String) (order : OrderFields) :
    QueueEntry → Bool
  | .malformed _ => false
  | .offer provider token rate minAmount maxAmount =>
    offerTest env { order with providerId := provider } currency excludeList
        (.offer provider token rate minAmount maxAmount) = .ok ∧
      providerFits s { order with providerId := provider } currency provider (rate.getD 0)

def Normalizes (order : OrderFields) (currency : String) : Prop :=
  (normalizedAmount env order currency).1 ≠ .panicked

def ReadsUntil (s : Store) (p q : OrderProgram (Completion AssignError)) : Prop :=
  Reaches (fun w => w = OrderWrite.read) s p q

def CallsReadsUntil (s : Store) (p q : Proc AssignCall Store (Completion AssignError)) : Prop :=
  Reaches (fun c => c.erase = OrderWrite.read) s p q

variable {conf env reassign} {s : Store} {key : QueueKey} {order : OrderFields}
  {excludeList : List String} {reassignCalls : OrderFields → Proc AssignCall Store (Completion AssignError)}

lemma CallsReadsUntil.erase {p q : Proc AssignCall Store (Completion AssignError)}
    (h : CallsReadsUntil s p q) :
    ReadsUntil s (p.mapLabel AssignCall.erase) (q.mapLabel AssignCall.erase) :=
  Reaches.mapLabel h fun _ hc => hc

lemma handOverCalls_erase
    (hreassign : ∀ order, (reassignCalls order).mapLabel AssignCall.erase = reassign order)
    (index : ℕ) (provider : String) :
    (handOverCalls conf env reassignCalls key index provider order).mapLabel AssignCall.erase =
      handOver conf env reassign key index provider order := by
  have hsend := @bind_sendOrderRequestCalls_erase conf env _ _ hreassign provider order
  rw [handOverCalls, handOver]
  split
  · rw [mapLabel_attempt]
    congr 1
    funext s
    cases (s.queue key).head? with
    | none => rfl
    | some data =>
      rw [mapLabel_attempt]
      exact congrArg (attempt _ _) (funext fun _ => hsend)
  · exact hsend

lemma ReadsUntil.outcomeIf {p q : OrderProgram (Completion AssignError)} (h : ReadsUntil s p q)
    {fails : OrderWrite → Bool} (hread : fails .read = false) :
    p.outcomeIf OrderWrite.exec fails s = q.outcomeIf OrderWrite.exec fails s :=
  Reaches.outcomeIf h fun _ hl => by rw [hl]; exact ⟨rfl, hread⟩

lemma ReadsUntil.ends {p q : OrderProgram (Completion AssignError)} (h : ReadsUntil s p q)
    {r : Completion AssignError} {t : Store} (hq : Ends OrderWrite.exec q s r t) :
    Ends OrderWrite.exec p s r t :=
  Reaches.ends h (fun _ hl => by rw [hl]; rfl) hq

variable {index fuel : ℕ} {currency provider token : String} {rate minAmount maxAmount : Option ℚ}

lemma offerTest_ne_panicked (h : Normalizes env order currency) (excludeList : List String)
    (e : QueueEntry) : offerTest env order currency excludeList e ≠ .panicked := by
  unfold offerTest
  split
  · split
    · simp
    rw [Normalizes] at h
    split
    · split_ifs <;> simp
    next r amount _ heq =>
      rw [heq] at h
      exact h
  · simp

lemma fits_providerId (currency provider : String) (e : QueueEntry) :
    fits env s currency excludeList { order with providerId := provider } e =
      fits env s currency excludeList order e := by
  cases e <;> rfl

lemma matchRateCalls_hit
    (hentry : (s.queue key)[index]? = some (.offer provider token rate minAmount maxAmount))
    (hfits : fits env s key.bucket.currency excludeList order
      (.offer provider token rate minAmount maxAmount)) :
    CallsReadsUntil s (matchRateCalls conf env reassignCalls key excludeList (fuel + 1) index order)
      (handOverCalls conf env reassignCalls key index provider { order with providerId := provider }) := by
  obtain ⟨htest, hprovider⟩ := of_decide_eq_true hfits
  rw [matchRateCalls]
  refine reaches_attempt rfl ?_
  simp only [hentry, htest]
  refine reaches_attempt rfl ?_
  simp only [hprovider, not_true, if_false]
  exact .refl _

lemma mapLabel_database_erase {α : Type} (p : OrderProgram α) :
    (p.mapLabel AssignCall.database).mapLabel AssignCall.erase = p := by
  induction p with
  | ret a => rfl
  | act l k ih => exact congrArg (act l) (funext ih)

section Walk

variable (hnormal : Normalizes env order key.bucket.currency)
include hnormal

lemma matchRateCalls_skip {e : QueueEntry} (hentry : (s.queue key)[index]? = some e)
    (hfits : fits env s key.bucket.currency excludeList order e = false) :
    ∃ provider, ∀ q,
      CallsReadsUntil s (matchRateCalls conf env reassignCalls key excludeList fuel (index + 1)
        { order with providerId := provider }) q →
      CallsReadsUntil s (matchRateCalls conf env reassignCalls key excludeList (fuel + 1) index order) q := by
  cases e with
  | malformed text =>
    refine ⟨order.providerId, fun q hq => ?_⟩
    rw [matchRateCalls]
    refine reaches_attempt rfl ?_
    simp only [hentry]
    exact hq
  | offer provider token rate minAmount maxAmount =>
    refine ⟨provider, fun q hq => ?_⟩
    have hpanics : offerTest env { order with providerId := provider } key.bucket.currency excludeList
        (.offer provider token rate minAmount maxAmount) ≠ .panicked :=
      offerTest_ne_panicked hnormal _ _
    have hnot := of_decide_eq_false hfits
    rw [matchRateCalls]
    refine reaches_attempt rfl ?_
    simp only [hentry]
    cases htest : offerTest env { order with providerId := provider } key.bucket.currency excludeList
        (.offer provider token rate minAmount maxAmount) with
    | panicked => exact absurd htest hpanics
    | error e => exact hq
    | ok =>
      have hprovider : ¬ providerFits s { order with providerId := provider } key.bucket.currency
          provider (rate.getD 0) := fun h => hnot ⟨htest, h⟩
      refine reaches_attempt rfl ?_
      rw [if_pos hprovider]
      exact hq

lemma matchRateCalls_walk {n : ℕ}
    (hentry : (s.queue key)[index + n]? = some (.offer provider token rate minAmount maxAmount))
    (hfits : fits env s key.bucket.currency excludeList order
      (.offer provider token rate minAmount maxAmount))
    (hskipped : ∀ m < n, ∀ e, (s.queue key)[index + m]? = some e →
      fits env s key.bucket.currency excludeList order e = false) (hfuel : n < fuel) :
    CallsReadsUntil s (matchRateCalls conf env reassignCalls key excludeList fuel index order)
      (handOverCalls conf env reassignCalls key (index + n) provider { order with providerId := provider }) := by
  induction n generalizing index fuel order with
  | zero =>
    obtain ⟨fuel, rfl⟩ := Nat.exists_eq_succ_of_ne_zero (Nat.pos_iff_ne_zero.1 hfuel)
    exact matchRateCalls_hit hentry hfits
  | succ n ih =>
    obtain ⟨fuel, rfl⟩ := Nat.exists_eq_succ_of_ne_zero (Nat.ne_zero_of_lt hfuel)
    have hlt : index < (s.queue key).length := by
      have := (List.getElem?_eq_some_iff.1 hentry).1
      omega
    have hfirst := List.getElem?_eq_getElem hlt
    obtain ⟨skipped, hskip⟩ := @matchRateCalls_skip conf env s key order excludeList
      reassignCalls index fuel hnormal _ hfirst (hskipped 0 (Nat.succ_pos n) _ hfirst)
    have hindex : index + (n + 1) = index + 1 + n := by omega
    rw [hindex] at hentry ⊢
    refine hskip _ (ih hnormal hentry ?_ (fun m hm e he => ?_) (Nat.lt_of_succ_lt_succ hfuel))
    · rw [fits_providerId]
      exact hfits
    · rw [fits_providerId]
      have hnext : index + (m + 1) = index + 1 + m := by omega
      exact hskipped (m + 1) (Nat.succ_lt_succ hm) e (hnext ▸ he)

lemma matchRateCalls_exhausts
    (hskipped : ∀ e ∈ (s.queue key).drop index,
      fits env s key.bucket.currency excludeList order e = false)
    (hindex : index ≤ (s.queue key).length) (hfuel : (s.queue key).length < index + fuel) :
    CallsReadsUntil s (matchRateCalls conf env reassignCalls key excludeList fuel index order)
      (ret (.error .redisNil)) := by
  induction fuel generalizing index order with
  | zero => omega
  | succ fuel ih =>
    cases hentry : (s.queue key)[index]? with
    | none =>
      rw [matchRateCalls]
      refine reaches_attempt rfl ?_
      simp only [hentry]
      exact .refl _
    | some e =>
      have hmem : e ∈ (s.queue key).drop index := by
        refine List.mem_of_getElem? (i := 0) ?_
        rw [List.getElem?_drop, Nat.add_zero, hentry]
      obtain ⟨skipped, hskip⟩ := @matchRateCalls_skip conf env s key order excludeList
        reassignCalls index fuel hnormal _ hentry (hskipped e hmem)
      have hlt : index < (s.queue key).length := (List.getElem?_eq_some_iff.1 hentry).1
      refine hskip _ (ih hnormal (fun e' he' => ?_) hlt (by omega))
      rw [fits_providerId]
      have hdrop : (s.queue key).drop (index + 1) = ((s.queue key).drop index).drop 1 := by
        rw [List.drop_drop]
      rw [hdrop] at he'
      exact hskipped e' (List.mem_of_mem_drop he')

lemma matchRate_walk
    (hentry : (s.queue key)[index]? = some (.offer provider token rate minAmount maxAmount))
    (hfits : fits env s key.bucket.currency excludeList order
      (.offer provider token rate minAmount maxAmount))
    (hskipped : ∀ m < index, ∀ e, (s.queue key)[m]? = some e →
      fits env s key.bucket.currency excludeList order e = false) (hfuel : index < fuel) :
    ReadsUntil s (matchRate conf env reassign key excludeList fuel 0 order)
      (handOver conf env reassign key index provider { order with providerId := provider }) := by
  rw [← matchRateCalls_erase fun o => mapLabel_database_erase (reassign o),
    ← handOverCalls_erase fun o => mapLabel_database_erase (reassign o)]
  rw [← Nat.zero_add index] at hentry ⊢
  refine (matchRateCalls_walk hnormal hentry hfits (fun m hm e he => ?_) hfuel).erase
  rw [Nat.zero_add] at he
  exact hskipped m hm e he

lemma matchRate_exhausts
    (hskipped : ∀ e ∈ s.queue key, fits env s key.bucket.currency excludeList order e = false)
    (hfuel : (s.queue key).length < fuel) :
    ReadsUntil s (matchRate conf env reassign key excludeList fuel 0 order)
      (ret (.error .redisNil)) := by
  rw [← matchRateCalls_erase fun o => mapLabel_database_erase (reassign o)]
  exact (matchRateCalls_exhausts hnormal (fun e he => hskipped e (List.mem_of_mem_drop he))
    (Nat.zero_le _) (by omega)).erase

end Walk

def Eligible (s : Store) (currency : String) (excludeList : List String) (order : OrderFields)
    (normalised : ℚ) (entry : QueueEntry) (provider : String) : Prop :=
  ∃ rate minAmount maxAmount t balance,
    entry = .offer provider order.token.symbol (some rate) (some minAmount) (some maxAmount) ∧
    provider ∉ excludeList ∧ (minAmount ≤ normalised ∧ normalised ≤ maxAmount) ∧
    s.providerOrderTokens.find? (fun t => t.network = order.token.network ∧ t.provider = provider ∧
      t.token = order.token.id ∧ t.currency = currency ∧ t.address ≠ "") = some t ∧
    (s.balances.get (provider, currency)).any (·.isAvailable) ∧
    |rate - order.rate| ≤ order.rate * Decimal.div t.rateSlippage 100 ∧
    s.balance provider currency = some balance ∧ order.fiat ≤ balance.available

def OrderFields.normalised (order : OrderFields) (currency : String) (usdt : ℚ) : ℚ :=
  if order.token.baseCurrency.toLower = currency.toLower ∧ order.token.baseCurrency ≠ "USD" then
    Decimal.div order.amount usdt
  else order.amount

lemma normalizedAmount_eq {usdt : ℚ} (husdt : env.usdtRate order.amount currency = some usdt)
    (hpos : 0 < usdt) :
    normalizedAmount env order currency = (.ok, order.normalised currency usdt) := by
  rw [normalizedAmount, OrderFields.normalised, husdt]
  simp only [if_neg hpos.ne']
  split <;> rfl

lemma offerTest_eq_ok_iff {normalised : ℚ}
    (hnormal : normalizedAmount env order currency = (.ok, normalised)) :
    offerTest env order currency excludeList (.offer provider token rate minAmount maxAmount) = .ok ↔
      ∃ r low high, rate = some r ∧ minAmount = some low ∧ maxAmount = some high ∧
        provider ∉ excludeList ∧ token = order.token.symbol ∧ low ≤ normalised ∧ normalised ≤ high := by
  rcases minAmount with _ | low <;> rcases maxAmount with _ | high <;> rcases rate with _ | r <;>
    simp only [offerTest, hnormal] <;> simp
  -- all three numbers of the entry are there
  split
  next hskip =>
    refine iff_of_false (by simp) fun h => ?_
    exact hskip.elim h.1 fun hne => hne h.2.1
  next hkeep =>
    rw [not_or, not_not] at hkeep
    split
    next hout =>
      refine iff_of_false (by simp) fun h => ?_
      exact hout.elim (not_lt.2 h.2.2.1) (not_lt.2 h.2.2.2)
    next hin =>
      rw [not_or, not_lt, not_lt] at hin
      exact iff_of_true rfl ⟨hkeep.1, hkeep.2, hin⟩

lemma providerFits_iff {rate : ℚ} :
    providerFits s order currency provider rate = true ↔
      ∃ t balance, s.providerOrderTokens.find? (fun t => t.network = order.token.network ∧
          t.provider = provider ∧ t.token = order.token.id ∧ t.currency = currency ∧
          t.address ≠ "") = some t ∧
        (s.balances.get (provider, currency)).any (·.isAvailable) ∧
        |rate - order.rate| ≤ order.rate * Decimal.div t.rateSlippage 100 ∧
        s.balance provider currency = some balance ∧ order.fiat ≤ balance.available := by
  rw [providerFits]
  split
  next hnone =>
    refine iff_of_false Bool.false_ne_true ?_
    rintro ⟨t, balance, ht, -⟩
    rw [hnone] at ht
    cases ht
  next t ht =>
    rw [ht]
    cases s.balance provider currency <;> simp

lemma fits_iff_eligible {usdt : ℚ} {entry : QueueEntry}
    (husdt : env.usdtRate order.amount currency = some usdt) (hpos : 0 < usdt) :
    fits env s currency excludeList order entry = true ↔
      ∃ provider, Eligible s currency excludeList order (order.normalised currency usdt) entry
        provider := by
  cases entry with
  | malformed text => simp [fits, Eligible]
  | offer provider token rate minAmount maxAmount =>
    have hnormal : normalizedAmount env { order with providerId := provider } currency =
        (.ok, order.normalised currency usdt) := normalizedAmount_eq husdt hpos
    rw [fits, decide_eq_true_iff, offerTest_eq_ok_iff hnormal, providerFits_iff]
    constructor
    · rintro ⟨⟨r, low, high, rfl, rfl, rfl, hexclude, rfl, hlimits⟩, t, balance, hrest⟩
      exact ⟨provider, r, low, high, t, balance, rfl, hexclude, hlimits, hrest⟩
    · rintro ⟨_, r, low, high, t, balance, hentry, hexclude, hlimits, hrest⟩
      cases hentry
      exact ⟨⟨r, low, high, rfl, rfl, rfl, hexclude, rfl, hlimits⟩, t, balance, hrest⟩

def Store.rotated (s : Store) (key : QueueKey) (index : ℕ) : Store :=
  if index = 0 then
    match (s.queue key).head? with
    | none => s
    | some data => OrderWrite.exec (.pushQueue key data) (OrderWrite.exec (.popQueue key) s)
  else s

lemma Store.queue_rotated (s : Store) (key : QueueKey) (index : ℕ) :
    (s.rotated key index).queue key =
      if index = 0 then (s.queue key).rotate 1 else s.queue key := by
  rw [rotated]
  split
  · cases hqueue : s.queue key with
    | nil => simp [hqueue]
    | cons data rest =>
      simp only [List.head?_cons, OrderWrite.exec, queue_updateQueue, if_true, hqueue, List.tail_cons]
      rw [List.rotate_cons_succ, List.rotate_zero]
  · rfl

lemma handOver_ends {e : QueueEntry} {t : Store} (hentry : (s.queue key)[index]? = some e)
    (hsend : Ends OrderWrite.exec (sendOrderRequest conf env order) (s.rotated key index) .ok t) :
    Ends OrderWrite.exec (handOver conf env reassign key index provider order) s .ok t ∧
      t.queue key = if index = 0 then (s.queue key).rotate 1 else s.queue key := by
  have hqueues : t.queues = (s.rotated key index).queues :=
    (sendOrderRequest_uses_send conf env order).ends
      (fun w u hw hu => (hw.exec_frame u).1.trans hu) rfl hsend
  have hqueue : t.queue key = if index = 0 then (s.queue key).rotate 1 else s.queue key := by
    rw [← s.queue_rotated key index, Store.queue, Store.queue, hqueues]
  refine ⟨?_, hqueue⟩
  rw [handOver]
  by_cases hindex : index = 0
  · subst hindex
    obtain ⟨data, hdata⟩ : ∃ data, (s.queue key).head? = some data := ⟨e, by rw [List.head?_eq_getElem?, hentry]⟩
    rw [Store.rotated, if_pos rfl, hdata] at hsend
    rw [if_pos rfl]
    refine ends_attempt_iff.2 (.inl ?_)
    simp only [hdata]
    exact ends_attempt_iff.2 (.inl (hsend.bind (.ret _ _)))
  · rw [Store.rotated, if_neg hindex] at hsend
    rw [if_neg hindex]
    exact hsend.bind (.ret _ _)

theorem matchRate_first_fit {R : RateStore} {usdt : ℚ} {fuel : ℕ}
    (hmarket : 0 < R.marketRate key.bucket.currency)
    (hqueues : R.PositiveRates "USDT" key.bucket.currency)
    (hrate : R.getTokenRateFromQueue "USDT" order.amount key.bucket.currency
      (R.marketRate key.bucket.currency) = .ok usdt)
    (husdt : env.usdtRate order.amount key.bucket.currency = some usdt)
    (hfuel : (s.queue key).length < fuel) :
    (∀ index entry provider, (s.queue key)[index]? = some entry →
      Eligible s key.bucket.currency excludeList order
        (order.normalised key.bucket.currency usdt) entry provider →
      (∀ earlier < index, ∀ e, (s.queue key)[earlier]? = some e → ∀ p,
        ¬ Eligible s key.bucket.currency excludeList order
          (order.normalised key.bucket.currency usdt) e p) →
      ReadsUntil s (matchRate conf env reassign key excludeList fuel 0 order)
        (handOver conf env reassign key index provider { order with providerId := provider }) ∧
      ∀ t, Ends OrderWrite.exec (sendOrderRequest conf env { order with providerId := provider })
          (s.rotated key index) .ok t →
        Ends OrderWrite.exec (matchRate conf env reassign key excludeList fuel 0 order) s .ok t ∧
          t.queue key = if index = 0 then (s.queue key).rotate 1 else s.queue key) ∧
    ((∀ entry ∈ s.queue key, ∀ provider, ¬ Eligible s key.bucket.currency excludeList order
        (order.normalised key.bucket.currency usdt) entry provider) →
      ReadsUntil s (matchRate conf env reassign key excludeList fuel 0 order)
        (ret (.error .redisNil))) := by
  have hpos : 0 < usdt := RateStore.getTokenRateFromQueue_pos hmarket hqueues hrate
  have hnormal : Normalizes env order key.bucket.currency := by
    rw [Normalizes, normalizedAmount_eq husdt hpos]
    simp
  have hunfit : ∀ e, (∀ p, ¬ Eligible s key.bucket.currency excludeList order
      (order.normalised key.bucket.currency usdt) e p) →
      fits env s key.bucket.currency excludeList order e = false := fun e he =>
    eq_false_of_ne_true fun hfits =>
      ((fits_iff_eligible husdt hpos).1 hfits).elim fun p hp => he p hp
  refine ⟨fun index entry provider hentry heligible hfirst => ?_, fun hnone => ?_⟩
  · have hfits : fits env s key.bucket.currency excludeList order entry = true :=
      (fits_iff_eligible husdt hpos).2 ⟨provider, heligible⟩
    obtain ⟨rate, minAmount, maxAmount, -, -, rfl, -⟩ := heligible
    have hlt : index < fuel := ((List.getElem?_eq_some_iff.1 hentry).1).trans hfuel
    have hreads : ReadsUntil s (matchRate conf env reassign key excludeList fuel 0 order)
        (handOver conf env reassign key index provider { order with providerId := provider }) := by
      exact matchRate_walk hnormal hentry hfits (fun m hm e he => hunfit e (hfirst m hm e he)) hlt
    refine ⟨hreads, fun t hsend => ?_⟩
    obtain ⟨hends, hqueue⟩ := @handOver_ends conf env reassign s key _ index provider _ t hentry hsend
    exact ⟨hreads.ends hends, hqueue⟩
  · exact matchRate_exhausts hnormal (fun e he => hunfit e (hnone e he)) hfuel

end MatchRate

namespace Sample

def rateStore (slippage available : ℚ) : Store :=
  { Store.empty with
    providerOrderTokens := [⟨"p1", 1, "NGN", "base", "0xp1", slippage⟩]
    balances := .single ⟨"p1", "NGN", ⟨available, 0, available⟩, true, 0⟩
    queues := .single ⟨⟨bucket, false⟩, [.offer "p1" "USDC" (some 10) (some 1) (some 90)]⟩ }

def rateOrder (rate : ℚ) : OrderFields where
  id := 1
  token := token
  amount := 50
  rate := rate
  institution := "bank"
  providerId := ""
  provisionBucket := some bucket
  updatedAt := 0

end Sample

open Sample in
theorem matchRate_first_fit_sample :
    ReadsUntil (rateStore 0 500)
      (matchRate {} { Environment.silent with usdtRate := fun _ _ => some 10 } (fun _ => ret .ok)
        ⟨bucket, false⟩ [] 2 0 (rateOrder 10))
      (handOver {} { Environment.silent with usdtRate := fun _ _ => some 10 } (fun _ => ret .ok)
        ⟨bucket, false⟩ 0 "p1" { rateOrder 10 with providerId := "p1" }) := by
  have hpositive : ((quoteStore 500).scannedAs ["bucket_NGN_0_1000"]).PositiveRates "USDT" "NGN" := by
    rintro keys ⟨⟩ key hkey texts hrange text htext provider rateText minText maxText hsplit
    obtain rfl := List.mem_singleton.1 hkey
    cases hrange
    -- neither of the two texts is an entry for USDT
    rcases List.mem_cons.1 htext with rfl | htext
    · have hparts : splitText ':' "p1" = ["p1"] := by decide +kernel
      cases hparts.symm.trans hsplit
    obtain rfl := List.mem_singleton.1 htext
    have hparts : splitText ':' "p1:USDC:10:1:90" = ["p1", "USDC", "10", "1", "90"] := by
      decide +kernel
    have htoken := (List.cons.inj (List.cons.inj (hparts.symm.trans hsplit)).2).1
    exact absurd htoken (by decide +kernel)
  have hrate : ((quoteStore 500).scannedAs ["bucket_NGN_0_1000"]).getTokenRateFromQueue "USDT" 50
      "NGN" 10 = .ok 10 := by decide +kernel
  refine ((matchRate_first_fit (by decide +kernel) hpositive hrate rfl (by decide +kernel)).1 0 _
    "p1" rfl ?_ (by simp)).1
  exact ⟨10, 1, 90, _, _, rfl, by simp, by decide +kernel, rfl, by decide +kernel, by decide +kernel,
    rfl, by decide +kernel⟩

section RoundRobin

variable (conf : OrderConfig) (env : Environment)
  (reassign : OrderFields → OrderProgram (Completion AssignError)) (key : QueueKey) (fuel : ℕ)

def served (orders : ℕ → OrderFields) (s : Store) : ℕ → Store
  | 0 => s
  | k + 1 =>
    (matchRate conf env reassign key [] fuel 0 (orders k)).after OrderWrite.exec (served orders s k)

def SendsNext (s : Store) (order : OrderFields) (entry : QueueEntry) : Prop :=
  let call := matchRate conf env reassign key [] fuel 0 order
  call.result OrderWrite.exec [] s = .ok ∧
    (call.after OrderWrite.exec s).queue key = (s.queue key).rotate 1 ∧
    ∃ provider, entry.provider? = some provider ∧
      (call.after OrderWrite.exec s).calls = s.calls ++ [.newOrder provider order.id]

variable {conf env reassign key fuel} {s : Store} {order : OrderFields}

lemma Store.rotated_frame (s : Store) (key : QueueKey) (index : ℕ) :
    ∃ queues, s.rotated key index = { s with queues := queues } := by
  rw [rotated]
  split
  · split
    · exact ⟨s.queues, rfl⟩
    next data _ =>
      obtain ⟨queues, hpop⟩ := s.updateQueue_frame key List.tail
      obtain ⟨queues', hpush⟩ := Store.updateQueue_frame { s with queues := queues } key (· ++ [data])
      simp only [OrderWrite.exec, hpop, hpush]
      exact ⟨queues', rfl⟩
  · exact ⟨s.queues, rfl⟩

lemma sendOrderRequest_succeeds {b : Balance} {bucket : ProvisionBucket}
    (hbucket : order.provisionBucket = some bucket)
    (hb : s.balance order.providerId bucket.currency = some b) (hle : order.fiat ≤ b.available)
    (hnew : env.newOrder order.providerId order.id = true) :
    (sendOrderRequest conf env order).result OrderWrite.exec [] s = .ok ∧
      ((sendOrderRequest conf env order).after OrderWrite.exec s).calls =
        s.calls ++ [.newOrder order.providerId order.id] := by
  simp only [sendOrderRequest, hbucket, result_attempt, after_attempt, OrderWrite.exec_read, hb,
    reserveInTx, if_neg (not_lt.2 hle), result_ignore, after_ignore, hnew, if_true, result_ret,
    after_ret, true_and]
  have hset : ((OrderWrite.setOrderRequest order.id
      (orderRequestData order bucket.currency)).exec s).calls = s.calls := by
    simp only [OrderWrite.exec]
    split <;> rfl
  exact congrArg (· ++ [_]) hset

lemma sendsNext_of_head {entry : QueueEntry} (hfuel : 0 < fuel)
    (hhead : (s.queue key).head? = some entry)
    (hfits : fits env s key.bucket.currency [] order entry = true)
    (hbucket : order.provisionBucket = some key.bucket)
    (hnew : ∀ provider, env.newOrder provider order.id = true) :
    SendsNext conf env reassign key fuel s order entry := by
  obtain ⟨fuel, rfl⟩ := Nat.exists_eq_succ_of_ne_zero hfuel.ne'
  cases entry with
  | malformed text => cases hfits
  | offer provider token rate minAmount maxAmount =>
    obtain ⟨htest, hprovider⟩ := of_decide_eq_true hfits
    obtain ⟨-, b, -, -, -, hb, hle⟩ := providerFits_iff.1 hprovider
    have hrotated : s.rotated key 0 = (OrderWrite.pushQueue key
        (.offer provider token rate minAmount maxAmount)).exec ((OrderWrite.popQueue key).exec s) := by
      rw [Store.rotated, if_pos rfl, hhead]
    obtain ⟨queues, hframe⟩ := s.rotated_frame key 0
    have hbalance : (s.rotated key 0).balance provider key.bucket.currency = some b := by
      rw [hframe]
      exact hb
    obtain ⟨hok, hcalls⟩ := @sendOrderRequest_succeeds conf env _
      { order with providerId := provider } b _ hbucket hbalance hle (hnew provider)
    have hqueues : ((sendOrderRequest conf env { order with providerId := provider }).after
        OrderWrite.exec (s.rotated key 0)).queues = (s.rotated key 0).queues :=
      (sendOrderRequest_uses_send conf env _).ends (fun w u hw hu => (hw.exec_frame u).1.trans hu)
        rfl (ends_outcome _ [] _)
    simp only [SendsNext, matchRate, result_attempt, after_attempt, OrderWrite.exec_read,
      ← List.head?_eq_getElem?, hhead, htest, hprovider, not_true_eq_false, if_false, if_true,
      result_bind, after_bind, ← hrotated, hok, result_ret, after_ret, hcalls, true_and]
    refine ⟨?_, provider, rfl, by rw [hframe]⟩
    rw [Store.queue, hqueues, ← Store.queue, s.queue_rotated key 0, if_pos rfl]

theorem matchRate_round_robin {entries : List QueueEntry} {orders : ℕ → OrderFields} (k : ℕ)
    (hfuel : 0 < fuel) (hqueue : s.queue key = entries) (hne : entries ≠ [])
    (hfits : ∀ j ≤ k, ∀ e ∈ entries, fits env (served conf env reassign key fuel orders s j)
      key.bucket.currency [] (orders j) e = true)
    (hbucket : ∀ j ≤ k, (orders j).provisionBucket = some key.bucket)
    (hnew : ∀ j ≤ k, ∀ provider, env.newOrder provider (orders j).id = true) :
    (served conf env reassign key fuel orders s k).queue key = entries.rotate k ∧
      ∃ entry, entries[k % entries.length]? = some entry ∧
        SendsNext conf env reassign key fuel (served conf env reassign key fuel orders s k) (orders k)
          entry := by
  have hnext : ∀ j ≤ k, (served conf env reassign key fuel orders s j).queue key = entries.rotate j →
      ∃ entry, entries[j % entries.length]? = some entry ∧
        SendsNext conf env reassign key fuel (served conf env reassign key fuel orders s j) (orders j)
          entry := by
    intro j hj hrotate
    have hlt : j % entries.length < entries.length := Nat.mod_lt _ (List.length_pos_iff.2 hne)
    have hentry := List.getElem?_eq_getElem hlt
    refine ⟨_, hentry, sendsNext_of_head hfuel ?_ (hfits j hj _ (List.getElem_mem hlt)) (hbucket j hj)
      (hnew j hj)⟩
    rw [hrotate, ← List.rotate_mod, List.head?_rotate hlt, hentry]
  have hrotates : ∀ j ≤ k,
      (served conf env reassign key fuel orders s j).queue key = entries.rotate j := by
    intro j hj
    induction j with
    | zero => exact hqueue.trans (List.rotate_zero entries).symm
    | succ j ih =>
      have hrotate := ih (Nat.le_of_succ_le hj)
      obtain ⟨entry, -, -, hqueue', -⟩ := hnext j (Nat.le_of_succ_le hj) hrotate
      exact hqueue'.trans (by rw [hrotate, List.rotate_rotate])
  exact ⟨hrotates k le_rfl, hnext k le_rfl (hrotates k le_rfl)⟩

end RoundRobin

namespace Sample

def turnStore : Store :=
  { Store.empty with
    providerOrderTokens := [⟨"p1", 1, "NGN", "base", "0xp1", 0⟩, ⟨"p2", 1, "NGN", "base", "0xp2", 0⟩]
    balances := balancesOf ⟨1000, 0, 1000⟩
    queues := .single ⟨⟨bucket, false⟩, [.offer "p1" "USDC" (some 10) (some 1) (some 90),
      .offer "p2" "USDC" (some 10) (some 1) (some 90)]⟩ }

end Sample

open Sample in
theorem matchRate_round_robin_second :
    SendsNext {} .silent (fun _ => ret .ok) ⟨bucket, false⟩ 1
      (served {} .silent (fun _ => ret .ok) ⟨bucket, false⟩ 1 (fun _ => rateOrder 10) turnStore 1)
      (rateOrder 10) (.offer "p2" "USDC" (some 10) (some 1) (some 90)) := by
  have hfits : ∀ j ≤ 1, ∀ e ∈ turnStore.queue ⟨bucket, false⟩, fits .silent
      (served {} .silent (fun _ => ret .ok) ⟨bucket, false⟩ 1 (fun _ => rateOrder 10) turnStore j)
      "NGN" [] (rateOrder 10) e = true := by decide +kernel
  obtain ⟨-, entry, hentry, hsends⟩ := @matchRate_round_robin {} .silent (fun _ => ret .ok)
    ⟨bucket, false⟩ 1 turnStore _ (fun _ => rateOrder 10) 1 Nat.one_pos rfl (by decide +kernel) hfits
    (fun _ _ => rfl) fun _ _ _ => rfl
  obtain rfl := Option.some.inj hentry
  exact hsends

end Stablenode
