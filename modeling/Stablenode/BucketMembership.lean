import Stablenode.ProfileUpdate

/-! The provision buckets of a provider after calls of `UpdateProviderProfile`. -/
namespace Stablenode

section Operations

variable {C : Catalogue} {s s' : ProfileStore} {provider code : String}
  {p q : ProviderOrderTokenPayload} {op : TokenOperation}

def TokenOperation.key (provider : String) (op : TokenOperation) : String × ℕ × String × String :=
  (provider, op.providerToken.id, op.currency.code, op.tokenPayload.network)

structure Prepared (C : Catalogue) (s : ProfileStore) (provider code : String)
    (p : ProviderOrderTokenPayload) (op : TokenOperation) : Prop where
  token : C.tokens.select (fun t => t.symbol = p.symbol ∧ t.network = p.network ∧ t.isEnabled) =
    [op.providerToken]
  currency : C.currencies.get code = some op.currency
  rate : op.rate = p.rate op.currency.marketRate
  payload : op.tokenPayload = { p with rateSlippage := op.tokenPayload.rateSlippage }
  existing : ∀ e, op.existingToken = some e → s.orderTokens.get (op.key provider) = some e

lemma prepared_of_checkToken (h : C.checkToken s provider code p = .operation op) :
    Prepared C s provider code p op := by
  rw [Catalogue.checkToken] at h
  split at h
  · cases h
  · cases h
  next token htoken =>
    split at h
    · cases h
    · cases h
    next currency hcurrency =>
      have hget : C.currencies.get code = some currency := by
        have hmem : currency ∈ C.currencies.select fun c => c.isEnabled ∧ c.code = code := by
          rw [only_eq_ok_iff.1 hcurrency]
          exact List.mem_singleton_self _
        obtain ⟨hmem, hp⟩ := List.mem_filter.1 hmem
        rw [← (of_decide_eq_true hp).2]
        exact Table.get_of_mem hmem
      dsimp only at h
      split at h
      · cases h
      split at h
      · cases h
      split at h
      · cases h
      split at h
      · cases h
        exact ⟨only_eq_ok_iff.1 htoken, hget, rfl, rfl, fun e he => by cases he⟩
      · cases h
      next existing hexisting =>
        have hrow : s.orderTokens.get (provider, token.id, currency.code, p.network) =
            some existing := by
          have hmem : existing ∈ s.orderTokens.select fun t => t.token = token.id ∧
              t.provider = provider ∧ t.currency = currency.code ∧ t.network = p.network := by
            rw [only_eq_ok_iff.1 hexisting]
            exact List.mem_singleton_self _
          obtain ⟨hmem, hp⟩ := List.mem_filter.1 hmem
          obtain ⟨htoken, hprovider, hcode, hnetwork⟩ := of_decide_eq_true hp
          rw [← htoken, ← hprovider, ← hcode, ← hnetwork]
          exact Table.get_of_mem hmem
        split at h
        · cases h
        split at h
        all_goals
          cases h
          refine ⟨only_eq_ok_iff.1 htoken, hget, rfl, rfl, ?_⟩
          rintro e ⟨⟩
          exact hrow

variable {tokens : List ProviderOrderTokenPayload} {ops : List TokenOperation}
  {buckets buckets' : List BucketRow}

lemma checkTokens_eq_some {ops' : List TokenOperation} {errors : List ErrorData}
    (h : C.checkTokens s provider code tokens ops errors = some (ops', [])) :
    errors = [] ∧ ∃ new, ops' = ops ++ new ∧
      tokens.map (C.checkToken s provider code) = new.map .operation := by
  induction tokens generalizing ops errors with
  | nil =>
    cases h
    exact ⟨rfl, [], (List.append_nil _).symm, rfl⟩
  | cons p tokens ih =>
    rw [Catalogue.checkTokens] at h
    split at h
    next op hop =>
      obtain ⟨herrors, new, rfl, hnew⟩ := ih h
      refine ⟨herrors, op :: new, by simp, ?_⟩
      rw [List.map_cons, hop, hnew, List.map_cons]
    next error _ => exact absurd (ih h).1 (by simp)
    · cases h

lemma exists_operation (hops : tokens.map (C.checkToken s provider code) = ops.map .operation)
    (hp : p ∈ tokens) : ∃ op ∈ ops, Prepared C s provider code p op := by
  have hmem : C.checkToken s provider code p ∈ ops.map TokenCheck.operation :=
    hops ▸ List.mem_map_of_mem hp
  obtain ⟨op, hop, heq⟩ := List.mem_map.1 hmem
  exact ⟨op, hop, prepared_of_checkToken heq.symm⟩

lemma exists_token (hops : tokens.map (C.checkToken s provider code) = ops.map .operation)
    (hop : op ∈ ops) : ∃ p ∈ tokens, Prepared C s provider code p op := by
  have hmem : TokenCheck.operation op ∈ tokens.map (C.checkToken s provider code) :=
    hops ▸ List.mem_map_of_mem hop
  obtain ⟨p, hp, heq⟩ := List.mem_map.1 hmem
  exact ⟨p, hp, prepared_of_checkToken heq⟩

lemma get_saveToken (h : s.saveToken provider op = some s')
    (hexisting : ∀ e, op.existingToken = some e →
      e.key = op.key provider ∧ (s.orderTokens.get e.key).isSome)
    (k : String × ℕ × String × String) :
    ∃ type, op.tokenPayload.conversionRateType = some type ∧
      s'.orderTokens.get k =
        if k = op.key provider then some (op.row provider type) else s.orderTokens.get k := by
  rw [ProfileStore.saveToken] at h
  split at h
  · cases h
  next type htype =>
    refine ⟨type, htype, ?_⟩
    split at h
    next existing hop =>
      cases h
      obtain ⟨hkey, hsome⟩ := hexisting existing hop
      obtain ⟨t, ht⟩ := Option.isSome_iff_exists.1 hsome
      have htkey : t.key = op.key provider := (Table.get_key ht).trans hkey
      simp only [TokenConfiguration.key, TokenOperation.key, Prod.mk.injEq] at htkey
      obtain ⟨hprovider, htoken, hcurrency, hnetwork⟩ := htkey
      refine (Table.get_modify _ _ _ (op.key_overwrite type) k).trans ?_
      rw [ht, hkey, Option.map_some, TokenOperation.overwrite, hprovider, htoken, hcurrency, hnetwork]
      rfl
    next hop =>
      dsimp only at h
      split at h
      · cases h
      next hfree =>
        cases h
        rw [Option.not_isSome_iff_eq_none] at hfree
        split_ifs with hk
        · rw [hk]
          exact Table.get_insert_self hfree
        · exact Table.get_insert_of_ne hk

lemma saveToken_profiles (h : s.saveToken provider op = some s') : s'.profiles = s.profiles := by
  rw [ProfileStore.saveToken] at h
  split at h
  · cases h
  split at h
  · cases h
    rfl
  dsimp only at h
  split at h
  · cases h
  · cases h
    rfl

lemma processTokens_cons (h : C.processTokens provider (op :: ops) s buckets = some (s', buckets'))
    :
    ∃ s₁, s.saveToken provider op = some s₁ ∧
      C.processTokens provider ops s₁ (buckets ++ C.collectBuckets op.tokenPayload op.rate) =
        some (s', buckets') := by
  rw [Catalogue.processTokens] at h
  split at h
  · cases h
  next s₁ hsave => exact ⟨s₁, hsave, h⟩

lemma processTokens_eq_some (h : C.processTokens provider ops s buckets = some (s', buckets')) :
    (∀ op ∈ ops, ∃ type, op.tokenPayload.conversionRateType = some type) ∧
      s'.profiles = s.profiles ∧
      buckets' = buckets ++ ops.flatMap fun op => C.collectBuckets op.tokenPayload op.rate := by
  induction ops generalizing s buckets with
  | nil =>
    cases h
    simp
  | cons op ops ih =>
    obtain ⟨s₁, hsave, hrest⟩ := processTokens_cons h
    obtain ⟨htypes, hprofiles, hbuckets⟩ := ih hrest
    refine ⟨fun o ho => ?_, hprofiles.trans (saveToken_profiles hsave), by simp [hbuckets]⟩
    rcases List.mem_cons.1 ho with rfl | ho
    · rw [ProfileStore.saveToken] at hsave
      split at hsave
      · cases hsave
      next type htype => exact ⟨type, htype⟩
    · exact htypes o ho

def lastOperation (provider : String) (ops : List TokenOperation) (k : String × ℕ × String × String) :
    Option TokenOperation :=
  ops.reverse.find? fun op => op.key provider = k

lemma lastOperation_eq_some_iff {k : String × ℕ × String × String} :
    lastOperation provider ops k = some op ↔ op.key provider = k ∧ ∃ before after,
      ops = before ++ op :: after ∧ ∀ o ∈ after, o.key provider ≠ k := by
  rw [lastOperation, List.find?_eq_some_iff_append]
  constructor
  · rintro ⟨hkey, after, before, hops, hafter⟩
    refine ⟨of_decide_eq_true hkey, before.reverse, after.reverse, ?_, fun o ho => ?_⟩
    · rw [← List.reverse_reverse ops, hops]
      simp
    · simpa using hafter o (List.mem_reverse.1 ho)
  · rintro ⟨hkey, before, after, rfl, hafter⟩
    refine ⟨decide_eq_true hkey, after.reverse, before.reverse, by simp, fun o ho => ?_⟩
    simpa using hafter o (List.mem_reverse.1 ho)

lemma get_processTokens (h : C.processTokens provider ops s buckets = some (s', buckets'))
    (hexisting : ∀ op ∈ ops, ∀ e, op.existingToken = some e →
      e.key = op.key provider ∧ (s.orderTokens.get e.key).isSome)
    (k : String × ℕ × String × String) :
    s'.orderTokens.get k =
      ((lastOperation provider ops k).bind fun op =>
        op.tokenPayload.conversionRateType.map (op.row provider ·)).or (s.orderTokens.get k) := by
  induction ops generalizing s buckets with
  | nil =>
    cases h
    rfl
  | cons op ops ih =>
    obtain ⟨s₁, hsave, hrest⟩ := processTokens_cons h
    have hget := get_saveToken hsave (hexisting op (by simp))
    have hkept (e : TokenConfiguration) (he : (s.orderTokens.get e.key).isSome) :
        (s₁.orderTokens.get e.key).isSome := by
      obtain ⟨type, -, hsaved⟩ := hget e.key
      rw [hsaved]
      split_ifs
      · rfl
      · exact he
    have hlater := ih hrest fun o ho e he => by
      obtain ⟨hkey, hsome⟩ := hexisting o (List.mem_cons_of_mem _ ho) e he
      exact ⟨hkey, hkept e hsome⟩
    obtain ⟨type, htype, hsaved⟩ := hget k
    rw [hlater, hsaved, lastOperation, lastOperation, List.reverse_cons, List.find?_append]
    -- a later operation with the key decides, and otherwise this one if it has the key
    cases hlast : ops.reverse.find? fun o => o.key provider = k with
    | some o =>
      have hmem : o ∈ ops := List.mem_reverse.1 (List.mem_of_find?_eq_some hlast)
      obtain ⟨type', htype'⟩ := (processTokens_eq_some hrest).1 o hmem
      simp [htype']
    | none =>
      by_cases hk : k = op.key provider
      · simp [hk, htype]
      · rw [if_neg hk]
        simp [Ne.symm hk]

lemma mem_dedupBuckets {seenBuckets : List ℕ} {id : ℕ} :
    id ∈ (dedupBuckets seenBuckets buckets).map (·.id) ↔
      id ∉ seenBuckets ∧ id ∈ buckets.map (·.id) := by
  induction buckets generalizing seenBuckets with
  | nil => simp [dedupBuckets]
  | cons b buckets ih =>
    rw [dedupBuckets]
    split
    next hseen =>
      rw [ih, List.map_cons, List.mem_cons]
      refine and_congr_right fun hid => (or_iff_right ?_).symm
      rintro rfl
      exact hid hseen
    next hnew =>
      rw [List.map_cons, List.mem_cons, ih, List.map_cons, List.mem_cons, List.mem_cons]
      by_cases hid : id = b.id
      · simp [hid, hnew]
      · simp [hid]

def ProfileStore.provisionBuckets (s : ProfileStore) (provider : String) : List ℕ :=
  ((s.profiles.get provider).map ProfileRow.provisionBuckets).getD []

variable {payload : ProviderProfilePayload}

lemma saveProfile_eq_some (h : s.saveProfile provider payload (dedupBuckets [] buckets) = some s')
    (hprofile : (s.profiles.get provider).isSome) :
    s'.orderTokens = s.orderTokens ∧ (s'.profiles.get provider).isSome ∧
      ∀ id, id ∈ s'.provisionBuckets provider ↔
        if buckets = [] then id ∈ s.provisionBuckets provider else id ∈ buckets.map (·.id) := by
  rw [ProfileStore.saveProfile] at h
  split at h
  · cases h
  split at h
  · cases h
  cases h
  obtain ⟨p, hp⟩ := Option.isSome_iff_exists.1 hprofile
  refine ⟨rfl, by simp [hp], fun id => ?_⟩
  simp only [ProfileStore.provisionBuckets, Table.get_modify_self, hp, Option.map_some,
    Option.getD_some]
  cases buckets with
  | nil => simp [dedupBuckets]
  | cons b buckets =>
    have hlength : 0 < (dedupBuckets [] (b :: buckets)).length := by simp [dedupBuckets]
    rw [if_pos hlength, mem_dedupBuckets]
    simp

lemma updateProviderProfile_eq_ok {now : ℕ}
    (h : C.updateProviderProfile now provider payload s = .ok s') :
    ∃ ops s₁ s₂ buckets,
      payload.tokens.map (C.checkToken s provider payload.currency) = ops.map .operation ∧
      s₁.orderTokens = s.orderTokens ∧ s₁.profiles = s.profiles ∧
      C.processTokens provider ops s₁ [] = some (s₂, buckets) ∧
      s₂.saveProfile provider payload (dedupBuckets [] buckets) = some s' := by
  rw [Catalogue.updateProviderProfile] at h
  split at h
  · cases h
  split at h
  · cases h
  split at h
  · cases h
  next ops errors hcheck =>
    split at h
    · cases h
    next herrors =>
      obtain rfl := List.eq_nil_of_length_eq_zero (Nat.eq_zero_of_not_pos herrors)
      obtain ⟨-, ops, rfl, hops⟩ := checkTokens_eq_some hcheck
      split at h
      · cases h
      next s₁ havailable =>
        split at h
        · cases h
        next s₂ buckets hprocess =>
          split at h
          · cases h
          next s₃ hsave =>
            cases h
            refine ⟨ops, s₁, s₂, buckets, hops, ?_, ?_, hprocess, hsave⟩
            all_goals
              rw [Catalogue.setAvailability] at havailable
              split at havailable
              · cases havailable
              split at havailable <;> cases havailable <;> rfl

end Operations

section Membership

def BucketRow.Meets (b : BucketRow) (low high : ℚ) : Prop :=
  (Set.Icc low high ∩ Set.Icc b.minAmount b.maxAmount).Nonempty

def ProfileStore.configured (s : ProfileStore) (provider : String) : Set TokenConfiguration :=
  {t | t ∈ s.orderTokens.rows ∧ t.provider = provider}

namespace Catalogue

variable (C : Catalogue) (provider : String) (payload : ProviderProfilePayload) (s : ProfileStore)

def rateOf (t : TokenConfiguration) : Option ℚ :=
  (C.currencies.get t.currency).map fun c =>
    match t.conversionRateType with
    | .fixed => t.fixedConversionRate
    | .floating => c.marketRate + t.floatingConversionRate

def Reached (ts : Set TokenConfiguration) (id : ℕ) : Prop :=
  ∃ t ∈ ts, ∃ b ∈ C.buckets.rows, b.id = id ∧ b.currency = t.currency ∧
    ∃ rate, C.rateOf t = some rate ∧ b.Meets (t.minOrderAmount * rate) (t.maxOrderAmount * rate)

def Exact : Prop :=
  ∀ id, id ∈ s.provisionBuckets provider ↔ C.Reached (s.configured provider) id

def Replaces (t : TokenConfiguration) : Prop :=
  t.currency = payload.currency ∧ ∃ p ∈ payload.tokens, t.network = p.network ∧
    ∃ token ∈ C.tokens.rows, token.id = t.token ∧ token.symbol = p.symbol ∧
      token.network = p.network ∧ token.isEnabled

def kept : Set TokenConfiguration := {t ∈ s.configured provider | ¬ C.Replaces payload t}

def Collects (id : ℕ) : Prop :=
  ∃ p ∈ payload.tokens, ∃ c, C.currencies.get payload.currency = some c ∧
    ∃ b ∈ C.collectBuckets p (p.rate c.marketRate), b.id = id

def Reaches (id : ℕ) : Prop :=
  ∃ before p after, payload.tokens = before ++ p :: after ∧
    (∀ q ∈ after, ¬ (q.symbol = p.symbol ∧ q.network = p.network)) ∧
    ∃ c, C.currencies.get payload.currency = some c ∧ ∃ b ∈ C.buckets.rows, b.id = id ∧
      b.currency = payload.currency ∧ b.Meets (p.minOrderAmount * p.rate c.marketRate)
        (p.maxOrderAmount * p.rate c.marketRate)

structure KeepsBuckets : Prop where
  collected : ∀ id, C.Collects payload id →
    C.Reaches payload id ∨ C.Reached (C.kept provider payload s) id
  others : (∃ id, C.Collects payload id) →
    ∀ id, C.Reached (C.kept provider payload s) id → C.Collects payload id
  /-- If none are, the other configurations reach all buckets that were reached before. -/
  unchanged : (∀ id, ¬ C.Collects payload id) →
    ∀ id, C.Reached (s.configured provider) id → C.Reached (C.kept provider payload s) id

end Catalogue

variable {C : Catalogue} {s s' : ProfileStore} {provider : String} {payload : ProviderProfilePayload}
  {p q : ProviderOrderTokenPayload} {op o : TokenOperation} {ops : List TokenOperation} {now id : ℕ}

lemma Catalogue.Reaches.collects (h : C.Reaches payload id) : C.Collects payload id := by
  obtain ⟨before, p, after, htokens, -, c, hc, b, hb, hid, -, amount, hrange, hbucket⟩ := h
  refine ⟨p, by simp [htokens], c, hc, b, List.mem_filter.2 ⟨hb, decide_eq_true ⟨?_, ?_⟩⟩, hid⟩
  · exact hbucket.1.trans hrange.2
  · exact hrange.1.trans hbucket.2

variable {code : String} {type : ConversionRateType}

lemma Prepared.key_eq_iff (hp : Prepared C s provider code p op)
    (hq : Prepared C s provider code q o) :
    o.key provider = op.key provider ↔ q.symbol = p.symbol ∧ q.network = p.network := by
  have hpnetwork : op.tokenPayload.network = p.network := by rw [hp.payload]
  have hqnetwork : o.tokenPayload.network = q.network := by rw [hq.payload]
  have hcurrency : o.currency = op.currency := Option.some.inj (hq.currency.symm.trans hp.currency)
  simp only [TokenOperation.key, Prod.mk.injEq, true_and, hcurrency, hpnetwork, hqnetwork]
  refine and_congr_left fun hnetwork => ⟨fun hid => ?_, fun hsymbol => ?_⟩
  · obtain ⟨hpmem, hptoken⟩ := List.mem_filter.1 (hp.token ▸ List.mem_singleton_self op.providerToken)
    obtain ⟨hqmem, hqtoken⟩ := List.mem_filter.1 (hq.token ▸ List.mem_singleton_self o.providerToken)
    have htoken : o.providerToken = op.providerToken := by
      have hget := Table.get_of_mem hqmem
      rw [hid, Table.get_of_mem hpmem] at hget
      exact (Option.some.inj hget).symm
    rw [← (of_decide_eq_true hptoken).1, ← (of_decide_eq_true hqtoken).1, htoken]
  · have hselect := hq.token
    rw [hsymbol, hnetwork, hp.token] at hselect
    rw [(List.cons.inj hselect).1]

lemma replaces_iff {t : TokenConfiguration} (hprovider : t.provider = provider)
    (hops : payload.tokens.map (C.checkToken s provider payload.currency) = ops.map .operation) :
    C.Replaces payload t ↔ ∃ op ∈ ops, op.key provider = t.key := by
  constructor
  · rintro ⟨hcurrency, p, hp, hnetwork, token, htoken, hid, hsymbol, hnet, henabled⟩
    obtain ⟨op, hop, hprepared⟩ := exists_operation hops hp
    have hselect : token ∈ C.tokens.select fun t => t.symbol = p.symbol ∧ t.network = p.network ∧
        t.isEnabled := List.mem_filter.2 ⟨htoken, decide_eq_true ⟨hsymbol, hnet, henabled⟩⟩
    rw [hprepared.token, List.mem_singleton] at hselect
    refine ⟨op, hop, ?_⟩
    rw [TokenOperation.key, TokenConfiguration.key, hprovider, ← hid, hselect, hcurrency, hnetwork,
      ← Table.get_key hprepared.currency, hprepared.payload]
  · rintro ⟨op, hop, hkey⟩
    obtain ⟨p, hp, hprepared⟩ := exists_token hops hop
    obtain ⟨htoken, hselected⟩ :=
      List.mem_filter.1 (hprepared.token ▸ List.mem_singleton_self op.providerToken)
    obtain ⟨hsymbol, hnet, henabled⟩ := of_decide_eq_true hselected
    simp only [TokenOperation.key, TokenConfiguration.key, Prod.mk.injEq] at hkey
    obtain ⟨-, hid, hcurrency, hnetwork⟩ := hkey
    rw [hprepared.payload] at hnetwork
    exact ⟨hcurrency.symm.trans (Table.get_key hprepared.currency), p, hp, hnetwork.symm,
      op.providerToken, htoken, hid, hsymbol, hnet, henabled⟩

lemma Prepared.rateOf_row (hp : Prepared C s provider code p op)
    (htype : op.tokenPayload.conversionRateType = some type) :
    C.rateOf (op.row provider type) = some (p.rate op.currency.marketRate) := by
  have hcode : op.currency.code = code := Table.get_key hp.currency
  have hptype : p.conversionRateType = some type := by
    rw [hp.payload] at htype
    exact htype
  have hfixed : op.tokenPayload.fixedConversionRate = p.fixedConversionRate := by rw [hp.payload]
  have hfloating : op.tokenPayload.floatingConversionRate = p.floatingConversionRate := by
    rw [hp.payload]
  simp only [Catalogue.rateOf, TokenOperation.row, hcode, hp.currency, Option.map_some, hfixed,
    hfloating, ProviderOrderTokenPayload.rate, hptype, Option.some.injEq]
  cases type <;> rfl

lemma Prepared.reached_row_iff (hp : Prepared C s provider payload.currency p op)
    (htype : op.tokenPayload.conversionRateType = some type) :
    C.Reached {op.row provider type} id ↔
      ∃ c, C.currencies.get payload.currency = some c ∧ ∃ b ∈ C.buckets.rows, b.id = id ∧
        b.currency = payload.currency ∧ b.Meets (p.minOrderAmount * p.rate c.marketRate)
          (p.maxOrderAmount * p.rate c.marketRate) := by
  have hcode : op.currency.code = payload.currency := Table.get_key hp.currency
  have hmin : op.tokenPayload.minOrderAmount = p.minOrderAmount := by rw [hp.payload]
  have hmax : op.tokenPayload.maxOrderAmount = p.maxOrderAmount := by rw [hp.payload]
  constructor
  · rintro ⟨t, rfl, b, hb, hid, hcurrency, rate, hrate, hmeets⟩
    obtain rfl := Option.some.inj ((hp.rateOf_row htype).symm.trans hrate)
    simp only [TokenOperation.row, hcode, hmin, hmax] at hcurrency hmeets
    exact ⟨op.currency, hp.currency, b, hb, hid, hcurrency, hmeets⟩
  · rintro ⟨c, hc, b, hb, hid, hcurrency, hmeets⟩
    obtain rfl := Option.some.inj (hc.symm.trans hp.currency)
    refine ⟨_, rfl, b, hb, hid, ?_, _, hp.rateOf_row htype, ?_⟩
    · exact hcurrency.trans hcode.symm
    · simpa only [TokenOperation.row, hmin, hmax] using hmeets

lemma reaches_iff
    (hops : payload.tokens.map (C.checkToken s provider payload.currency) = ops.map .operation)
    (htypes : ∀ op ∈ ops, ∃ type, op.tokenPayload.conversionRateType = some type) :
    C.Reaches payload id ↔ ∃ op type, lastOperation provider ops (op.key provider) = some op ∧
      op.tokenPayload.conversionRateType = some type ∧ C.Reached {op.row provider type} id := by
  constructor
  · rintro ⟨before, p, after, htokens, hlast, hreaches⟩
    rw [htokens, List.map_append, List.map_cons] at hops
    obtain ⟨l₁, l', rfl, -, hl'⟩ := List.map_eq_append_iff.1 hops.symm
    obtain ⟨op, l₂, rfl, hop, hl₂⟩ := List.map_eq_cons_iff.1 hl'
    have hp := prepared_of_checkToken hop.symm
    obtain ⟨type, htype⟩ := htypes op (by simp)
    refine ⟨op, type, lastOperation_eq_some_iff.2 ⟨rfl, l₁, l₂, rfl, fun o ho hkey => ?_⟩, htype,
      (hp.reached_row_iff htype).2 hreaches⟩
    obtain ⟨q, hq, hprepared⟩ := exists_token hl₂.symm ho
    exact hlast q hq ((hp.key_eq_iff hprepared).1 hkey)
  · rintro ⟨op, type, hlast, htype, hreached⟩
    obtain ⟨-, l₁, l₂, rfl, hafter⟩ := lastOperation_eq_some_iff.1 hlast
    rw [List.map_append, List.map_cons] at hops
    obtain ⟨before, rest, htokens, -, hrest⟩ := List.map_eq_append_iff.1 hops
    obtain ⟨p, after, rfl, hop, hafter'⟩ := List.map_eq_cons_iff.1 hrest
    have hp := prepared_of_checkToken hop
    refine ⟨before, p, after, htokens, fun q hq hsame => ?_, (hp.reached_row_iff htype).1 hreached⟩
    obtain ⟨o, ho, hprepared⟩ := exists_operation hafter' hq
    exact hafter o ho ((hp.key_eq_iff hprepared).2 hsame)

variable (h : C.updateProviderProfile now provider payload s = .ok s')
include h

lemma reached_update (hprofile : (s.profiles.get provider).isSome) :
    C.Reached (s'.configured provider) id ↔
      C.Reaches payload id ∨ C.Reached (C.kept provider payload s) id := by
  obtain ⟨ops, s₁, s₂, buckets, hops, hrows, hprofiles, hprocess, hsave⟩ :=
    updateProviderProfile_eq_ok h
  obtain ⟨htypes, hprofiles', -⟩ := processTokens_eq_some hprocess
  have hrows' : s'.orderTokens = s₂.orderTokens :=
    (saveProfile_eq_some hsave (by rwa [hprofiles', hprofiles])).1
  have hget (k : String × ℕ × String × String) : s'.orderTokens.get k =
      ((lastOperation provider ops k).bind fun op =>
        op.tokenPayload.conversionRateType.map (op.row provider ·)).or (s.orderTokens.get k) := by
    rw [hrows', ← hrows]
    refine get_processTokens hprocess (fun op hop e he => ?_) k
    obtain ⟨p, -, hp⟩ := exists_token hops hop
    have hfound := hp.existing e he
    have hkey := Table.get_key hfound
    rw [hrows, hkey, hfound]
    exact ⟨rfl, rfl⟩
  have hkept {t : TokenConfiguration} (ht : t.provider = provider) :
      lastOperation provider ops t.key = none ↔ ¬ C.Replaces payload t := by
    rw [lastOperation, List.find?_eq_none, replaces_iff ht hops]
    simp
  rw [reaches_iff hops htypes]
  constructor
  · rintro ⟨t, ⟨ht, hprovider⟩, hreached⟩
    have hrow := hget t.key
    rw [Table.get_of_mem ht] at hrow
    cases hlast : lastOperation provider ops t.key with
    | some op =>
      have hop := lastOperation_eq_some_iff.1 hlast
      obtain ⟨type, htype⟩ := htypes op (by
        obtain ⟨-, before, after, rfl, -⟩ := hop
        simp)
      simp only [hlast, Option.bind_some, htype, Option.map_some, Option.some_or,
        Option.some.injEq] at hrow
      exact .inl ⟨op, type, hop.1 ▸ hlast, htype, t, hrow, hreached⟩
    | none =>
      rw [hlast, Option.bind_none, Option.none_or] at hrow
      exact .inr ⟨t, ⟨⟨Table.mem_of_get hrow.symm, hprovider⟩, (hkept hprovider).1 hlast⟩, hreached⟩
  · rintro (⟨op, type, hlast, htype, t, rfl, hreached⟩ | ⟨t, ⟨⟨ht, hprovider⟩, hreplaces⟩, hreached⟩)
    · have hrow := hget (op.key provider)
      rw [hlast, Option.bind_some, htype, Option.map_some, Option.some_or] at hrow
      exact ⟨_, ⟨Table.mem_of_get hrow, rfl⟩, hreached⟩
    · have hrow := hget t.key
      rw [(hkept hprovider).2 hreplaces, Option.bind_none, Option.none_or, Table.get_of_mem ht] at hrow
      exact ⟨t, ⟨Table.mem_of_get hrow, hprovider⟩, hreached⟩

lemma mem_provisionBuckets_update (hprofile : (s.profiles.get provider).isSome) :
    (s'.profiles.get provider).isSome ∧
      ((∃ id, C.Collects payload id) → ∀ id, id ∈ s'.provisionBuckets provider ↔
        C.Collects payload id) ∧
      ((∀ id, ¬ C.Collects payload id) → ∀ id, id ∈ s'.provisionBuckets provider ↔
        id ∈ s.provisionBuckets provider) := by
  obtain ⟨ops, s₁, s₂, buckets, hops, hrows, hprofiles, hprocess, hsave⟩ :=
    updateProviderProfile_eq_ok h
  obtain ⟨htypes, hprofiles', hbuckets⟩ := processTokens_eq_some hprocess
  obtain ⟨-, hsome, hmem⟩ := saveProfile_eq_some hsave (by rwa [hprofiles', hprofiles])
  have hold : s₂.provisionBuckets provider = s.provisionBuckets provider := by
    rw [ProfileStore.provisionBuckets, hprofiles', hprofiles, ProfileStore.provisionBuckets]
  have hcollects (id : ℕ) : id ∈ buckets.map (·.id) ↔ C.Collects payload id := by
    rw [hbuckets, List.nil_append, List.mem_map]
    constructor
    · rintro ⟨b, hb, hid⟩
      obtain ⟨op, hop, hb⟩ := List.mem_flatMap.1 hb
      obtain ⟨p, hp, hprepared⟩ := exists_token hops hop
      rw [hprepared.rate, hprepared.payload] at hb
      exact ⟨p, hp, op.currency, hprepared.currency, b, hb, hid⟩
    · rintro ⟨p, hp, c, hc, b, hb, hid⟩
      obtain ⟨op, hop, hprepared⟩ := exists_operation hops hp
      obtain rfl := Option.some.inj (hc.symm.trans hprepared.currency)
      refine ⟨b, List.mem_flatMap.2 ⟨op, hop, ?_⟩, hid⟩
      rw [hprepared.rate, hprepared.payload]
      exact hb
  refine ⟨hsome, fun ⟨id₀, hid₀⟩ id => ?_, fun hnone id => ?_⟩
  · have hne : buckets ≠ [] := by
      rintro rfl
      exact absurd ((hcollects id₀).2 hid₀) List.not_mem_nil
    rw [hmem, if_neg hne, hcollects]
  · have hnil : buckets = [] := by
      rw [List.eq_nil_iff_forall_not_mem]
      exact fun b hb => hnone b.id ((hcollects b.id).1 (List.mem_map_of_mem hb))
    rw [hmem, if_pos hnil, hold]

lemma exact_update_iff (hprofile : (s.profiles.get provider).isSome) (hexact : C.Exact provider s) :
    C.Exact provider s' ↔ C.KeepsBuckets provider payload s := by
  obtain ⟨-, hsome, hnone⟩ := mem_provisionBuckets_update h hprofile
  have hreached (id : ℕ) := @reached_update C s s' provider payload now id h hprofile
  by_cases hcollects : ∃ id, C.Collects payload id
  · have hmem := hsome hcollects
    constructor
    · intro h'
      refine ⟨fun id hid => ?_, fun _ id hid => ?_, fun hno => (hcollects.elim hno).elim⟩
      · exact (hreached id).1 ((h' id).1 ((hmem id).2 hid))
      · exact (hmem id).1 ((h' id).2 ((hreached id).2 (.inr hid)))
    · intro hkeeps id
      rw [hmem, hreached]
      refine ⟨hkeeps.collected id, fun hid => ?_⟩
      exact hid.elim Catalogue.Reaches.collects (hkeeps.others hcollects id)
  · rw [not_exists] at hcollects
    have hmem := hnone hcollects
    constructor
    · intro h'
      refine ⟨fun id hid => (hcollects id hid).elim, fun hsome => (hsome.elim hcollects).elim,
        fun _ id hid => ?_⟩
      refine ((hreached id).1 ((h' id).1 ((hmem id).2 ((hexact id).2 hid)))).resolve_left ?_
      exact fun hpayload => hcollects id hpayload.collects
    · intro hkeeps id
      rw [hmem, hexact, hreached]
      refine ⟨fun hid => .inr (hkeeps.unchanged hcollects id hid), fun hid => ?_⟩
      obtain ⟨t, ht, hrest⟩ := hid.resolve_left fun hpayload => hcollects id hpayload.collects
      exact ⟨t, ht.1, hrest⟩

omit h

def Catalogue.updateAll (C : Catalogue) (provider : String) :
    List (ℕ × ProviderProfilePayload) → ProfileStore → Except ProfileError ProfileStore
  | [], s => .ok s
  | (now, payload) :: calls, s =>
    match C.updateProviderProfile now provider payload s with
    | .error e => .error e
    | .ok s => C.updateAll provider calls s

lemma updateAll_cons {calls : List (ℕ × ProviderProfilePayload)}
    (h : C.updateAll provider ((now, payload) :: calls) s = .ok s') :
    ∃ s₁, C.updateProviderProfile now provider payload s = .ok s₁ ∧
      C.updateAll provider calls s₁ = .ok s' := by
  rw [Catalogue.updateAll] at h
  split at h
  · cases h
  next s₁ hcall => exact ⟨s₁, hcall, h⟩

theorem updateAll_exact_iff {calls : List (ℕ × ProviderProfilePayload)}
    (hprofile : (s.profiles.get provider).isSome) (hexact : C.Exact provider s)
    (hcalls : C.updateAll provider calls s = .ok s') :
    (∀ before after s₁, calls = before ++ after → C.updateAll provider before s = .ok s₁ →
      C.Exact provider s₁) ↔
    ∀ before now payload after s₁, calls = before ++ (now, payload) :: after →
      C.updateAll provider before s = .ok s₁ → C.KeepsBuckets provider payload s₁ := by
  induction calls generalizing s with
  | nil =>
    refine iff_of_true ?_ fun before now payload after s₁ heq => by simp at heq
    intro before after s₁ heq hrun
    obtain ⟨rfl, rfl⟩ := List.append_eq_nil_iff.1 heq.symm
    cases hrun
    exact hexact
  | cons call calls ih =>
    obtain ⟨now, payload⟩ := call
    obtain ⟨s₂, hcall, hrest⟩ := updateAll_cons hcalls
    have hstep := exact_update_iff hcall hprofile hexact
    have hprofile₂ := (mem_provisionBuckets_update hcall hprofile).1
    constructor
    · intro h before now' payload' after s₁ heq hrun
      have hexact₂ : C.Exact provider s₂ :=
        h [(now, payload)] calls s₂ rfl (by rw [Catalogue.updateAll, hcall]; rfl)
      cases before with
      | nil =>
        cases heq
        cases hrun
        exact hstep.1 hexact₂
      | cons call before =>
        obtain ⟨rfl, hcalls'⟩ := List.cons.inj heq
        obtain ⟨s₃, hcall₃, hrun⟩ := updateAll_cons hrun
        cases hcall.symm.trans hcall₃
        refine (ih hprofile₂ hexact₂ hrest).1 (fun b a s₁ hb hr => ?_) before now' payload' after s₁
          hcalls' hrun
        exact h ((now, payload) :: b) a s₁ (by rw [hb]; rfl) (by rw [Catalogue.updateAll, hcall]; exact hr)
    · intro h before after s₁ heq hrun
      have hexact₂ : C.Exact provider s₂ := hstep.2 (h [] now payload calls s rfl rfl)
      cases before with
      | nil =>
        cases hrun
        exact hexact
      | cons call before =>
        obtain ⟨rfl, hcalls'⟩ := List.cons.inj heq
        obtain ⟨s₃, hcall₃, hrun⟩ := updateAll_cons hrun
        cases hcall.symm.trans hcall₃
        refine (ih hprofile₂ hexact₂ hrest).2 (fun b n p a s₁ hb hr => ?_) before after s₁ hcalls' hrun
        exact h ((now, payload) :: b) n p a s₁ (by rw [hb]; rfl)
          (by rw [Catalogue.updateAll, hcall]; exact hr)

end Membership

namespace Sample

def catalogue : Catalogue where
  tokens := .single ⟨⟨1, "USDC", "USD", 6, "base"⟩, true⟩
  currencies := ⟨[⟨"NGN", true, 10⟩, ⟨"KES", true, 10⟩], by decide⟩
  buckets := ⟨[⟨⟨"NGN", 0, 1000⟩, 1⟩, ⟨⟨"KES", 2000, 5000⟩, 2⟩], by decide⟩
  percentDeviationFromMarketRate := 1
  parseUrl _ := none

def tokenPayload (minOrderAmount maxOrderAmount : ℚ) : ProviderOrderTokenPayload where
  symbol := "USDC"
  conversionRateType := some .fixed
  fixedConversionRate := 10
  floatingConversionRate := 0
  maxOrderAmount := maxOrderAmount
  minOrderAmount := minOrderAmount
  rateSlippage := 0
  address := "0xp1"
  network := "base"

def profilePayload (currency : String) (minOrderAmount maxOrderAmount : ℚ) :
    ProviderProfilePayload where
  tradingName := ""
  currency := currency
  hostIdentifier := ""
  isAvailable := true
  tokens := [tokenPayload minOrderAmount maxOrderAmount]
  visibilityMode := ""

def profileStore (provisionBuckets : List ℕ) (orderTokens : Table TokenConfiguration.key)
    (providerCurrencies : Table fun row : ProviderCurrency => (row.provider, row.currency)) :
    ProfileStore where
  profiles := .single ⟨⟨"p1", .publicMode⟩, "", "", provisionBuckets⟩
  orderTokens := orderTokens
  providerCurrencies := providerCurrencies

def oneCurrency : ProfileStore :=
  profileStore [1] (.single ⟨⟨"p1", 1, "NGN", "base", "0xp1", 0⟩, .fixed, 10, 0, 1, 50⟩)
    (.single ⟨"p1", "NGN", ⟨0, 0, 0⟩, true, 0⟩)

def twoCurrencies : ProfileStore :=
  profileStore [2] ⟨[⟨⟨"p1", 1, "NGN", "base", "0xp1", 0⟩, .fixed, 10, 0, 1, 50⟩,
      ⟨⟨"p1", 1, "KES", "base", "0xp1", 0⟩, .fixed, 10, 0, 300, 400⟩], by decide⟩
    ⟨[⟨"p1", "NGN", ⟨0, 0, 0⟩, true, 0⟩, ⟨"p1", "KES", ⟨0, 0, 0⟩, true, 0⟩], by decide⟩

end Sample

open Sample in
theorem updateAll_exact_first :
    catalogue.updateAll "p1" [(0, profilePayload "NGN" 1 50)] (profileStore [] .empty .empty) =
        .ok oneCurrency ∧ catalogue.Exact "p1" oneCurrency := by
  have hrun : catalogue.updateAll "p1" [(0, profilePayload "NGN" 1 50)]
      (profileStore [] .empty .empty) = .ok oneCurrency := by decide +kernel
  have hnone (id : ℕ) :
      ¬ catalogue.Reached ((profileStore [] .empty .empty).configured "p1") id := by
    rintro ⟨t, ⟨ht, -⟩, -⟩
    cases ht
  have hexact : catalogue.Exact "p1" (profileStore [] .empty .empty) :=
    fun id => iff_of_false List.not_mem_nil (hnone id)
  refine ⟨hrun, (updateAll_exact_iff rfl hexact hrun).2 ?_ _ [] _ (List.append_nil _).symm hrun⟩
  intro before now payload after s₁ heq hbefore
  cases before with
  | cons call before => simp at heq
  | nil =>
    cases heq
    cases hbefore
    have hkept (id : ℕ) : ¬ catalogue.Reached
        (catalogue.kept "p1" (profilePayload "NGN" 1 50) (profileStore [] .empty .empty)) id := by
      rintro ⟨t, ⟨⟨ht, -⟩, -⟩, -⟩
      cases ht
    refine ⟨?_, fun _ id hid => (hkept id hid).elim, fun _ id hid => (hnone id hid).elim⟩
    rintro id ⟨p, hp, c, ⟨⟩, b, hb, rfl⟩
    obtain rfl := List.mem_singleton.1 hp
    have hbuckets : catalogue.collectBuckets (tokenPayload 1 50) 10 = [⟨⟨"NGN", 0, 1000⟩, 1⟩] := by
      decide +kernel
    obtain rfl := List.mem_singleton.1 (hbuckets ▸ hb)
    refine .inl ⟨[], _, [], rfl, by simp, _, rfl, _, List.mem_cons_self, rfl, rfl, 10, ?_⟩
    simp only [Set.mem_inter_iff, Set.mem_Icc]
    decide +kernel

open Sample in
theorem second_currency_drops_bucket :
    catalogue.updateAll "p1" [(0, profilePayload "NGN" 1 50), (0, profilePayload "KES" 300 400)]
        (profileStore [] .empty .empty) = .ok twoCurrencies ∧
      1 ∉ twoCurrencies.provisionBuckets "p1" ∧
      catalogue.Reached (twoCurrencies.configured "p1") 1 := by
  refine ⟨by decide +kernel, by decide +kernel, _, ⟨List.mem_cons_self, rfl⟩, _, List.mem_cons_self,
    rfl, rfl, 10, rfl, 10, ?_⟩
  simp only [Set.mem_inter_iff, Set.mem_Icc]
  decide +kernel

end Stablenode
