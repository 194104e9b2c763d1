import Stablenode.CreationRules
import Stablenode.Traces

/-! The recorded amounts of an `OrderCreated` event and its provision bucket. -/
namespace Stablenode.EventAmounts

open Proc Creation

variable {I : Indexer} {event : OrderCreatedEvent}

section Record

def stored (x : Call CreationWrite Store) : List LockPaymentOrder :=
  if x.done then
    (x.label.exec x.state).lockOrders.select fun o => (x.state.lockOrders.get o.id).isNone
  else []

def OnRecord (I : Indexer) (event : OrderCreatedEvent) (o : LockPaymentOrder) : Prop :=
  I.findToken event.token = .ok o.token ∧
    o.amount = Decimal.div event.amount (10 ^ o.token.decimals) ∧
    o.protocolFee = Decimal.div event.protocolFee (10 ^ o.token.decimals)

def Records (I : Indexer) (event : OrderCreatedEvent) (w : CreationWrite) : Prop :=
  ∀ s done, ∀ o ∈ stored ⟨w, s, done⟩, OnRecord I event o

variable {o : LockPaymentOrder} {x : Call CreationWrite Store}

lemma mem_stored (h : o ∈ stored x) :
    (x.label.exec x.state).lockOrders.get o.id = some o ∧ x.state.lockOrders.get o.id = none := by
  rw [stored] at h
  split_ifs at h
  · obtain ⟨hmem, hnew⟩ := List.mem_filter.1 h
    exact ⟨Table.get_of_mem hmem, by simpa using hnew⟩
  · cases h

lemma not_mem_stored_order (w : OrderWrite) (s : Store) (done : Bool) (o : LockPaymentOrder) :
    o ∉ stored ⟨.order w, s, done⟩ := by
  intro h
  obtain ⟨hafter, hbefore⟩ := mem_stored h
  simp only [CreationWrite.exec, OrderWrite.exec_getLockOrder] at hafter hbefore
  rw [hbefore] at hafter
  cases hafter

lemma not_mem_stored (h : (x.label.exec x.state).lockOrders = x.state.lockOrders) :
    o ∉ stored x := by
  intro ho
  obtain ⟨hafter, hbefore⟩ := mem_stored ho
  rw [h, hbefore] at hafter
  cases hafter

lemma onRecord_of_createCommit {token : Token} (htoken : I.findToken event.token = .ok token)
    {recipient : PaymentOrderRecipient} {currency : FiatCurrency} {bucket : Option ProvisionBucket}
    {network : String} {withLog : Bool} {s : Store} {done : Bool}
    (h : o ∈ stored ⟨.createCommit ((event.scaled token).fields token recipient currency
      bucket).create network withLog, s, done⟩) : OnRecord I event o := by
  obtain ⟨hafter, hbefore⟩ := mem_stored h
  set fields := (event.scaled token).fields token recipient currency bucket with hfields
  by_cases hcheck : fields.create.defaults.check = none
  · have hmem := Table.mem_of_get hafter
    rw [exec_createCommit_rows hcheck] at hmem
    split_ifs at hmem
    · rw [Table.get_of_mem hmem] at hbefore
      cases hbefore
    rcases List.mem_append.1 hmem with hmem | hmem
    · rw [Table.get_of_mem hmem] at hbefore
      cases hbefore
    · obtain rfl := List.mem_singleton.1 hmem
      exact ⟨htoken, rfl, rfl⟩
  · obtain ⟨error, herror⟩ := save_of_check hcheck s
    refine absurd h (not_mem_stored ?_)
    simp only [CreationWrite.exec, herror]

lemma records_of_storeLabel {w : CreationWrite} (hw : StoreLabel I event w) :
    Records I event w := by
  intro s done o ho
  cases hw with
  | createCommit htoken recipient currency bucket network withLog =>
    exact onRecord_of_createCommit htoken ho
  | createCancelled fields reason =>
    -- on the path through a failed bucket lookup the amounts of this builder are scaled twice,
    -- but no builder of a cancelled order passes its check
    obtain ⟨error, herror⟩ := save_createCancelled fields reason s
    refine absurd ho (not_mem_stored ?_)
    simp only [CreationWrite.exec, herror]
  | _ => exact absurd ho (not_mem_stored_order _ s done o)

lemma linkPaymentOrder_records (retries : ℕ) :
    Uses (Records I event) (event.linkPaymentOrder retries) := by
  have horder : ∀ w, Records I event (.order w) := fun w s done o ho =>
    absurd ho (not_mem_stored_order w s done o)
  refine uses_linkPaymentOrder (horder _) (fun id s done o ho => ?_)
    (fun id s done o ho => absurd ho (not_mem_stored rfl)) (fun _ _ => horder _) retries
  refine absurd ho (not_mem_stored ?_)
  simp only [CreationWrite.exec]
  split_ifs <;> rfl

theorem stored_onRecord (I : Indexer) (background : List ℕ) (event : OrderCreatedEvent) :
    Paths (fun t => ∀ x ∈ t, ∀ o ∈ stored x, OnRecord I event o)
      (I.createLockPaymentOrder background event) := by
  have huses : Uses (Records I event) (I.createLockPaymentOrder background event) := by
    refine uses_attempt (records_of_storeLabel .read) trivial fun s => ?_
    split
    · trivial
    refine uses_interleave background fun p hp => ?_
    simp only [List.mem_cons, List.not_mem_nil, or_false] at hp
    rcases hp with rfl | rfl
    · exact uses_bind ((checkAndStore_labels event).mono fun _ => records_of_storeLabel)
        fun _ => trivial
    · exact linkPaymentOrder_records 30
  intro t a hpath x hx
  exact hpath.uses huses x hx x.state x.done

example : ((Sample.indexer.createLockPaymentOrder [] (Sample.createdEvent "0xtx" "g1" "m1")).trace
    CreationWrite.exec [] Store.empty).flatMap (fun x => (stored x).map LockPaymentOrder.amount) =
      [40] := by
  decide +kernel

end Record

section Buckets

variable {currency : FiatCurrency} {x : ℚ} {s : Store}

def bucketsOf (I : Indexer) (currency : FiatCurrency) : List ProvisionBucket :=
  I.provisionBuckets.filter fun b => b.currency = currency.code

def Holds (x : ℚ) (b : ProvisionBucket) : Prop := b.minAmount ≤ x ∧ x ≤ b.maxAmount

instance (x : ℚ) : DecidablePred (Holds x) := fun _ => inferInstanceAs (Decidable (_ ∧ _))

structure Apart (buckets : List ProvisionBucket) : Prop where
  ordered : ∀ b ∈ buckets, b.minAmount ≤ b.maxAmount
  disjoint : buckets.Pairwise fun a b => a.maxAmount < b.minAmount ∨ b.maxAmount < a.minAmount

instance (buckets : List ProvisionBucket) : Decidable (Apart buckets) :=
  decidable_of_iff
    ((∀ b ∈ buckets, b.minAmount ≤ b.maxAmount) ∧
      buckets.Pairwise fun a b => a.maxAmount < b.minAmount ∨ b.maxAmount < a.minAmount)
    ⟨fun h => ⟨h.1, h.2⟩, fun h => ⟨h.ordered, h.disjoint⟩⟩

def Healthy (I : Indexer) (currency : FiatCurrency) (x : ℚ) (event : OrderCreatedEvent) : Prop :=
  ∃ token recipient institution edge,
    I.findToken event.token = .ok token ∧ I.recipient event.messageHash = some (some recipient) ∧
    recipient.providerId = "" ∧ I.getInstitutionByCode recipient.institution = .ok institution ∧
    institution.loadedCurrency = some edge ∧ I.findCurrency edge.code = .ok currency ∧
    (event.scaled token).amount * event.rate = x

def isCancellation (gatewayId reason : String) : CreationWrite → Bool
  | .createCancelled c => c.gatewayId = some gatewayId ∧ c.cancellationReasons = some [reason]
  | _ => false

def CancelsFor (I : Indexer) (background : List ℕ) (event : OrderCreatedEvent) (s : Store)
    (reason : String) : Prop :=
  ∃ l ∈ (I.createLockPaymentOrder background event).history CreationWrite.exec [] s,
    isCancellation event.orderId reason l

instance (I : Indexer) (background : List ℕ) (event : OrderCreatedEvent) (s : Store)
    (reason : String) : Decidable (CancelsFor I background event s reason) :=
  inferInstanceAs (Decidable (∃ l ∈ _, _))

structure Classifies (I : Indexer) (currency : FiatCurrency) (x : ℚ) : Prop where
  inside : ∀ b ∈ bucketsOf I currency, Holds x b → ∀ s,
    (I.getProvisionBucket x currency).result CreationWrite.exec [] s = .ok (some b, false)
  below : (∀ b ∈ bucketsOf I currency, x < b.minAmount) → ∀ s,
    (I.getProvisionBucket x currency).result CreationWrite.exec [] s = .ok (none, true)
  above : (∀ b ∈ bucketsOf I currency, b.maxAmount < x) →
    (∀ s, (I.getProvisionBucket x currency).result CreationWrite.exec [] s = .ok (none, false)) ∧
    ∀ event, Healthy I currency x event → ∀ s, s.isIndexed I.network event = false →
      ∀ background, CancelsFor I background event s "Amount is larger than the maximum bucket"

variable {b : ProvisionBucket}

lemma filter_holds_eq_singleton {buckets : List ProvisionBucket} (h : Apart buckets)
    (hb : b ∈ buckets) (hx : Holds x b) : buckets.filter (fun b => Holds x b) = [b] := by
  have hmem : b ∈ buckets.filter fun b => Holds x b := List.mem_filter.2 ⟨hb, decide_eq_true hx⟩
  have hall : ∀ c ∈ buckets.filter (fun b => Holds x b), Holds x c :=
    fun c hc => of_decide_eq_true (List.mem_filter.1 hc).2
  have hdisjoint := h.disjoint.filter fun b => Holds x b
  match hfilter : buckets.filter fun b => Holds x b with
  | [] => simp [hfilter] at hmem
  | [c] =>
    rw [hfilter, List.mem_singleton] at hmem
    rw [hmem]
  | c :: d :: _ =>
    -- two buckets that hold the amount overlap
    rw [hfilter] at hall hdisjoint
    obtain ⟨hcmin, hcmax⟩ := hall c (by simp)
    obtain ⟨hdmin, hdmax⟩ := hall d (by simp)
    have hcd := List.rel_of_pairwise_cons hdisjoint (List.mem_cons_self)
    rcases hcd with hcd | hcd
    · exact absurd (hdmin.trans hcmax) (not_le.2 hcd)
    · exact absurd (hcmin.trans hdmax) (not_le.2 hcd)

lemma only_bucket (I : Indexer) (currency : FiatCurrency) (x : ℚ) :
    (I.provisionBuckets.filter fun b =>
      x ≤ b.maxAmount ∧ b.minAmount ≤ x ∧ b.currency = currency.code) =
      (bucketsOf I currency).filter fun b => Holds x b := by
  rw [bucketsOf, List.filter_filter]
  refine List.filter_congr fun b _ => ?_
  rw [← Bool.decide_and]
  exact decide_eq_decide.2 ⟨fun h => ⟨⟨h.2.1, h.1⟩, h.2.2⟩, fun h => ⟨h.1.2, h.1.1, h.2⟩⟩

lemma getProvisionBucket_of_holds (h : Apart (bucketsOf I currency)) (hb : b ∈ bucketsOf I currency)
    (hx : Holds x b) (s : Store) :
    (I.getProvisionBucket x currency).result CreationWrite.exec [] s = .ok (some b, false) := by
  rw [Indexer.getProvisionBucket, result_attempt, only_bucket, filter_holds_eq_singleton h hb hx]
  rfl

lemma getProvisionBucket_of_not_holds (hx : ∀ b ∈ bucketsOf I currency, ¬ Holds x b) {m : ℚ}
    (hm : ((bucketsOf I currency).map ProvisionBucket.minAmount).min? = some m) (s : Store) :
    (I.getProvisionBucket x currency).result CreationWrite.exec [] s =
      if x < m then .ok (none, true) else .error "failed to fetch provision bucket" := by
  have hnil : (bucketsOf I currency).filter (fun b => Holds x b) = [] :=
    List.filter_eq_nil_iff.2 fun b hb => by simpa using hx b hb
  rw [Indexer.getProvisionBucket, result_attempt, only_bucket, hnil]
  simp only [only, result_attempt]
  rw [bucketsOf] at hm
  rw [hm]
  by_cases hlt : x < m
  · simp only [if_pos hlt, result_ret]
  · simp only [if_neg hlt, result_ret]

theorem classifies_iff_le_maxAmount (hne : bucketsOf I currency ≠ [])
    (h : Apart (bucketsOf I currency)) :
    Classifies I currency x ↔ ∃ b ∈ bucketsOf I currency, x ≤ b.maxAmount := by
  obtain ⟨m, hm⟩ : ∃ m, ((bucketsOf I currency).map ProvisionBucket.minAmount).min? = some m := by
    refine Option.ne_none_iff_exists'.1 fun hnone => hne ?_
    rwa [List.min?_eq_none_iff, List.map_eq_nil_iff] at hnone
  constructor
  · intro hclassifies
    by_contra hle
    push Not at hle
    have hresult := (hclassifies.above hle).1 Store.empty
    rw [getProvisionBucket_of_not_holds (fun b hb hx => (hle b hb).not_ge hx.2) hm] at hresult
    split_ifs at hresult
    simp at hresult
  · rintro ⟨b, hb, hle⟩
    refine ⟨fun c hc hx s => getProvisionBucket_of_holds h hc hx s, fun hbelow s => ?_,
      fun habove => absurd hle (not_le.2 (habove b hb))⟩
    obtain ⟨c, hc, rfl⟩ := List.mem_map.1 (List.min?_mem hm)
    rw [getProvisionBucket_of_not_holds (fun b hb hx => (hbelow b hb).not_ge hx.1) hm,
      if_pos (hbelow c hc)]

theorem classifies_forty :
    Classifies Sample.indexer ⟨"NGN", true, 1⟩ 40 ∧
      (Sample.indexer.getProvisionBucket 40 ⟨"NGN", true, 1⟩).result CreationWrite.exec []
        Store.empty = .ok (some Sample.bucket, false) :=
  ⟨(classifies_iff_le_maxAmount (by decide +kernel) (by decide +kernel)).2
    ⟨Sample.bucket, by decide +kernel, by decide +kernel⟩, by decide +kernel⟩

theorem above_maximum_lookup_fails :
    let event := { Sample.createdEvent "0xtx" "g1" "m1" with rate := 50 }
    bucketsOf Sample.indexer ⟨"NGN", true, 1⟩ = [Sample.bucket] ∧ Apart [Sample.bucket] ∧
      Sample.bucket.maxAmount < 2000 ∧ Healthy Sample.indexer ⟨"NGN", true, 1⟩ 2000 event ∧
      (Sample.indexer.getProvisionBucket 2000 ⟨"NGN", true, 1⟩).result CreationWrite.exec []
        Store.empty = .error "failed to fetch provision bucket" ∧
      CancelsFor Sample.indexer [] event Store.empty "Provision bucket lookup failed" ∧
      ¬ CancelsFor Sample.indexer [] event Store.empty
        "Amount is larger than the maximum bucket" ∧
      ¬ Classifies Sample.indexer ⟨"NGN", true, 1⟩ 2000 := by
  refine ⟨by decide +kernel, by decide +kernel, by decide +kernel, ?_, by decide +kernel,
    by decide +kernel, by decide +kernel, fun h => ?_⟩
  · exact ⟨Sample.token, _, ⟨"bank", some ⟨"NGN", true, 1⟩⟩, ⟨"NGN", true, 1⟩, by decide +kernel,
      rfl, rfl, by decide +kernel, rfl, by decide +kernel, by decide +kernel⟩
  · exact absurd ((h.above (by decide +kernel)).1 Store.empty) (by decide +kernel)

end Buckets

end Stablenode.EventAmounts
