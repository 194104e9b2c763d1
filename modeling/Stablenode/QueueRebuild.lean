import Stablenode.QueueBuilder
import Stablenode.QueueRemoval
import Stablenode.Traces

/-! `CreatePriorityQueueForBucket` (services/priority_queue.go): a queue is copied, deleted and
filled again. -/
namespace Stablenode

open Proc

inductive QueueWrite where
  | assign (w : OrderWrite)
  | cancel (provider : String) (w : OrderWrite)
  | deleteQueue (key : QueueKey)
  | copyQueue (key : QueueKey) (entries : List QueueEntry)
  | enqueue (key : QueueKey) (entry : QueueEntry)
  | read
  deriving DecidableEq

def QueueWrite.exec : QueueWrite → Store → Store
  | assign w, s => w.exec s
  | cancel _ w, s => w.exec s
  | deleteQueue key, s => s.updateQueue key fun _ => []
  | copyQueue key entries, s => s.updateQueue key (· ++ entries)
  | enqueue key entry, s => s.updateQueue key (· ++ [entry])
  | read, s => s

namespace QueueBuilder

variable (Q : QueueBuilder)

def enqueueTokens (bucket : ProvisionBucket) (provider : String) :
    List String → List TokenConfiguration → Proc QueueWrite Store Unit
  | _, [] => ret ()
  | tokenSymbols, t :: orderTokens =>
    if Q.symbolOf t.token ∈ tokenSymbols then enqueueTokens bucket provider tokenSymbols orderTokens
    else
      let next := enqueueTokens bucket provider (tokenSymbols ++ [Q.symbolOf t.token]) orderTokens
      attempt .read next fun _ =>
      match Q.entryFor provider bucket.currency t with
      | none => next
      | some entry => ignore (.enqueue ⟨bucket, false⟩ entry) next

def enqueueProvider (bucket : ProvisionBucket) (provider : String) : Proc QueueWrite Store Unit :=
  attempt .read (ret ()) fun s =>
  if (s.balances.get (provider, bucket.currency)).isSome then
    attempt .read (ret ()) fun _ =>
    Q.enqueueTokens bucket provider [] (Q.orderTokens provider bucket.currency)
  else ret ()

def refillQueue (bucket : ProvisionBucket) (providers : List String) : Proc QueueWrite Store Unit :=
  ignore (.deleteQueue ⟨bucket, false⟩) (forEach providers (Q.enqueueProvider bucket))

def createPriorityQueueForBucket (bucket : ProvisionBucket) (providers : List String) :
    Proc QueueWrite Store Unit :=
  let copy (prevData : List QueueEntry) :=
    if prevData = [] then Q.refillQueue bucket providers
    else ignore (.copyQueue ⟨bucket, true⟩ prevData) (Q.refillQueue bucket providers)
  ignore (.deleteQueue ⟨bucket, true⟩) <|
  attempt .read (copy []) fun s => copy (s.queue ⟨bucket, false⟩)

section Alone

variable {Q} {bucket : ProvisionBucket} {provider : String} {s t u : Store}

structure Adds (bucket : ProvisionBucket) (entries : List QueueEntry) (s t : Store) : Prop where
  queue : t.queue ⟨bucket, false⟩ = s.queue ⟨bucket, false⟩ ++ entries
  prev : t.queue ⟨bucket, true⟩ = s.queue ⟨bucket, true⟩
  balances : t.balances = s.balances

lemma Adds.refl (s : Store) : Adds bucket [] s s := ⟨(List.append_nil _).symm, rfl, rfl⟩

lemma Adds.trans {es fs : List QueueEntry} (h : Adds bucket es s t) (h' : Adds bucket fs t u) :
    Adds bucket (es ++ fs) s u :=
  ⟨by rw [h'.queue, h.queue, List.append_assoc], h'.prev.trans h.prev, h'.balances.trans h.balances⟩

lemma balances_updateQueue (s : Store) (key : QueueKey) (f : List QueueEntry → List QueueEntry) :
    (s.updateQueue key f).balances = s.balances := by
  obtain ⟨queues, hframe⟩ := s.updateQueue_frame key f
  rw [hframe]

lemma adds_enqueue (s : Store) (entry : QueueEntry) :
    Adds bucket [entry] s (QueueWrite.exec (.enqueue ⟨bucket, false⟩ entry) s) :=
  ⟨by rw [QueueWrite.exec, Store.queue_updateQueue, if_pos rfl],
    by rw [QueueWrite.exec, Store.queue_updateQueue, if_neg (by simp)], balances_updateQueue s _ _⟩

lemma enqueueTokens_adds (tokenSymbols : List String) (orderTokens : List TokenConfiguration)
    (s : Store) :
    Adds bucket (Q.pushTokens provider bucket.currency tokenSymbols orderTokens) s
      ((Q.enqueueTokens bucket provider tokenSymbols orderTokens).after QueueWrite.exec s) := by
  induction orderTokens generalizing tokenSymbols s with
  | nil => exact .refl s
  | cons t orderTokens ih =>
    rw [enqueueTokens, pushTokens]
    split_ifs
    · exact ih tokenSymbols s
    rw [after_attempt]
    cases Q.entryFor provider bucket.currency t with
    | none => exact ih _ s
    | some entry =>
      rw [after_ignore]
      exact (adds_enqueue s entry).trans (ih _ _)

lemma enqueueProvider_adds (provider : String) (s : Store) :
    Adds bucket (Q.providerEntries s provider bucket.currency) s
      ((Q.enqueueProvider bucket provider).after QueueWrite.exec s) := by
  simp only [enqueueProvider, after_attempt, QueueWrite.exec, providerEntries]
  split_ifs
  · exact enqueueTokens_adds [] _ s
  · exact .refl s

lemma entries_congr (h : t.balances = s.balances) (currency : String) (providers : List String) :
    Q.entries t currency providers = Q.entries s currency providers := by
  simp only [entries, providerEntries, h]

lemma forEach_enqueueProvider_adds (providers : List String) (s : Store) :
    Adds bucket (Q.entries s bucket.currency providers) s
      ((forEach providers (Q.enqueueProvider bucket)).after QueueWrite.exec s) := by
  induction providers generalizing s with
  | nil => exact .refl s
  | cons provider providers ih =>
    have hfirst := @enqueueProvider_adds Q bucket provider s
    have hrest := ih ((Q.enqueueProvider bucket provider).after QueueWrite.exec s)
    rw [entries_congr hfirst.balances] at hrest
    rw [forEach, after_bind]
    exact hfirst.trans hrest

theorem createPriorityQueueForBucket_after (providers : List String) (s : Store) :
    let t := (Q.createPriorityQueueForBucket bucket providers).after QueueWrite.exec s
    t.queue ⟨bucket, true⟩ = s.queue ⟨bucket, false⟩ ∧
      t.queue ⟨bucket, false⟩ = Q.entries s bucket.currency providers := by
  have hrefill : ∀ u : Store, u.balances = s.balances →
      u.queue ⟨bucket, true⟩ = s.queue ⟨bucket, false⟩ →
      let t := (Q.refillQueue bucket providers).after QueueWrite.exec u
      t.queue ⟨bucket, true⟩ = s.queue ⟨bucket, false⟩ ∧
        t.queue ⟨bucket, false⟩ = Q.entries s bucket.currency providers := by
    intro u hbalances hprev
    have hempty := balances_updateQueue u ⟨bucket, false⟩ fun _ => []
    have hadds := @forEach_enqueueProvider_adds Q bucket providers
      (u.updateQueue ⟨bucket, false⟩ fun _ => [])
    simp only [refillQueue, after_ignore, QueueWrite.exec]
    rw [hadds.prev, hadds.queue, Store.queue_updateQueue, Store.queue_updateQueue, if_pos rfl,
      if_neg (by simp), entries_congr (hempty.trans hbalances), List.nil_append]
    exact ⟨hprev, rfl⟩
  have hqueue : (s.updateQueue ⟨bucket, true⟩ fun _ => []).queue ⟨bucket, false⟩ =
      s.queue ⟨bucket, false⟩ := by
    rw [Store.queue_updateQueue, if_neg (by simp)]
  simp only [createPriorityQueueForBucket, after_ignore, after_attempt, QueueWrite.exec, hqueue]
  split_ifs with hnil
  · refine hrefill _ (balances_updateQueue s _ _) ?_
    rw [Store.queue_updateQueue, if_pos rfl, hnil]
  · rw [after_ignore]
    refine hrefill _ ?_ ?_
    · simp only [QueueWrite.exec, balances_updateQueue]
    · simp only [QueueWrite.exec, Store.queue_updateQueue, if_true, List.nil_append]

end Alone

end QueueBuilder

namespace QueueRuns

def slot : QueueEntry → Option (String × String)
  | .offer provider token _ _ _ => some (provider, token)
  | .malformed _ => none

def enqueueOf (key : QueueKey) (x : Call QueueWrite Store) : Option QueueEntry :=
  match x.label with
  | .enqueue k entry => if k = key ∧ x.done then some entry else none
  | _ => none

section Filling

variable {key : QueueKey}

structure Fills (key : QueueKey) (allowed : String × String → Prop)
    (t : List (Call QueueWrite Store)) : Prop where
  labels : ∀ x ∈ t, x.label = .read ∨ ∃ entry, x.label = .enqueue key entry
  offers : ∀ e ∈ t.filterMap (enqueueOf key), e ≠ deletedProvider
  nodup : ((t.filterMap (enqueueOf key)).filterMap slot).Nodup
  allowed : ∀ p ∈ (t.filterMap (enqueueOf key)).filterMap slot, allowed p

namespace Fills

variable {A B : String × String → Prop} {t u : List (Call QueueWrite Store)}

lemma nil : Fills key A [] := ⟨by simp, by simp, by simp, by simp⟩

lemma mono (h : Fills key A t) (hAB : ∀ p, A p → B p) : Fills key B t :=
  ⟨h.labels, h.offers, h.nodup, fun p hp => hAB p (h.allowed p hp)⟩

lemma read_cons (h : Fills key A t) (s : Store) (done : Bool) :
    Fills key A (⟨.read, s, done⟩ :: t) :=
  ⟨List.forall_mem_cons.2 ⟨.inl rfl, h.labels⟩, h.offers, h.nodup, h.allowed⟩

lemma append (ht : Fills key A t) (hu : Fills key B u) (hdisjoint : ∀ p, A p → ¬ B p) :
    Fills key (fun p => A p ∨ B p) (t ++ u) where
  labels := List.forall_mem_append.2 ⟨ht.labels, hu.labels⟩
  offers := by
    rw [List.filterMap_append]
    exact List.forall_mem_append.2 ⟨ht.offers, hu.offers⟩
  nodup := by
    rw [List.filterMap_append, List.filterMap_append]
    refine List.nodup_append.2 ⟨ht.nodup, hu.nodup, ?_⟩
    rintro p hp q hq rfl
    exact hdisjoint p (ht.allowed p hp) (hu.allowed p hq)
  allowed := by
    rw [List.filterMap_append, List.filterMap_append]
    exact List.forall_mem_append.2
      ⟨fun p hp => .inl (ht.allowed p hp), fun p hp => .inr (hu.allowed p hp)⟩

lemma enqueue {entry : QueueEntry} {p : String × String} (hslot : slot entry = some p) (s : Store)
    (done : Bool) : Fills key (· = p) [⟨.enqueue key entry, s, done⟩] := by
  have hentry : entry ≠ deletedProvider := by
    rintro rfl
    cases hslot
  cases done with
  | false => exact ⟨by simp, by simp [enqueueOf], by simp [enqueueOf], by simp [enqueueOf]⟩
  | true =>
    exact ⟨by simp, by simpa [enqueueOf] using hentry, by simp [enqueueOf, hslot],
      by simp [enqueueOf, hslot]⟩

end Fills

variable {Q : QueueBuilder} {bucket : ProvisionBucket} {provider : String}

lemma slot_of_entryFor {t : TokenConfiguration} {e : QueueEntry} {currency : String}
    (h : Q.entryFor provider currency t = some e) :
    slot e = some (provider, Q.symbolOf t.token) := by
  obtain ⟨rate, -, -, -, rfl⟩ := QueueBuilder.entryFor_eq_some_iff.1 h
  rfl

section Exact

variable {currency : String} {s : Store} {providers : List String}

lemma nodup_pushTokens (tokenSymbols : List String) (orderTokens : List TokenConfiguration) :
    ((Q.pushTokens provider currency tokenSymbols orderTokens).map slot).Nodup := by
  induction orderTokens generalizing tokenSymbols with
  | nil => exact List.nodup_nil
  | cons t orderTokens ih =>
    rw [QueueBuilder.pushTokens]
    split_ifs
    · exact ih tokenSymbols
    cases hentry : Q.entryFor provider currency t with
    | none => exact ih _
    | some entry =>
      refine List.nodup_cons.2 ⟨fun hmem => ?_, ih _⟩
      obtain ⟨e, he, hslot⟩ := List.mem_map.1 hmem
      obtain ⟨symbol, t', hnew, hfind, hentry'⟩ := QueueBuilder.mem_pushTokens.1 he
      rw [slot_of_entryFor hentry, slot_of_entryFor hentry', Option.some.injEq, Prod.mk.injEq] at hslot
      have hsymbol : Q.symbolOf t'.token = symbol := by simpa using List.find?_some hfind
      exact hnew (by simp [← hsymbol, hslot.2])

lemma nodup_entries (hnodup : providers.Nodup) :
    ((Q.entries s currency providers).map slot).Nodup := by
  rw [QueueBuilder.entries, List.map_flatMap, List.nodup_flatMap]
  refine ⟨fun provider _ => ?_, hnodup.imp fun {p q} hne => ?_⟩
  · rw [QueueBuilder.providerEntries]
    split_ifs
    · exact nodup_pushTokens _ _
    · exact List.nodup_nil
  have hslots : ∀ p, ∀ x ∈ (Q.providerEntries s p currency).map slot, ∃ symbol, x = some (p, symbol) := by
    intro p x hx
    obtain ⟨e, he, rfl⟩ := List.mem_map.1 hx
    rw [QueueBuilder.providerEntries] at he
    split_ifs at he
    · obtain ⟨_, t, -, -, hentry⟩ := QueueBuilder.mem_pushTokens.1 he
      exact ⟨_, slot_of_entryFor hentry⟩
    · cases he
  intro x hp hq
  obtain ⟨symbol, rfl⟩ := hslots p x hp
  obtain ⟨symbol', heq⟩ := hslots q _ hq
  cases heq
  exact hne rfl

structure Listed (Q : QueueBuilder) (s : Store) (currency : String) (providers : List String)
    (provider symbol : String) (rate : ℚ) : Prop where
  listed : provider ∈ providers
  hasBalance : (s.balances.get (provider, currency)).isSome
  configured : ∃ t ∈ Q.tokens, t.provider = provider ∧ t.currency = currency ∧ t.address ≠ "" ∧
    Q.symbolOf t.token = symbol
  rateOf : Q.getProviderRate provider symbol currency = some rate
  nonzero : rate ≠ 0
  inMarket : Q.deviates symbol currency rate = false

theorem createPriorityQueueForBucket_exact (Q : QueueBuilder) (bucket : ProvisionBucket)
    (hnodup : providers.Nodup) (s : Store) :
    let t := (Q.createPriorityQueueForBucket bucket providers).after QueueWrite.exec s
    t.queue ⟨bucket, true⟩ = s.queue ⟨bucket, false⟩ ∧
      ((t.queue ⟨bucket, false⟩).map slot).Nodup ∧
      (∀ e ∈ t.queue ⟨bucket, false⟩, ∃ provider symbol rate low high,
        e = .offer provider symbol (some rate) low high ∧
          Listed Q s bucket.currency providers provider symbol rate) ∧
      ∀ provider symbol rate, Listed Q s bucket.currency providers provider symbol rate →
        ∃ low high, .offer provider symbol (some rate) low high ∈ t.queue ⟨bucket, false⟩ := by
  obtain ⟨hprev, hqueue⟩ :=
    @QueueBuilder.createPriorityQueueForBucket_after Q bucket providers s
  dsimp only
  rw [hprev, hqueue]
  refine ⟨rfl, nodup_entries hnodup, fun e he => ?_, fun provider symbol rate h => ?_⟩
  · obtain ⟨provider, hmem, hrow, symbol, t, rate, hfind, hrate, hzero, hdeviates, rfl⟩ :=
      QueueBuilder.mem_entries_iff.1 he
    obtain ⟨ht, hconfigured⟩ := List.mem_filter.1 (List.mem_of_find?_eq_some hfind)
    simp only [decide_eq_true_eq] at hconfigured
    exact ⟨provider, symbol, rate, _, _, rfl, hmem, hrow, ⟨t, ht, hconfigured.1, hconfigured.2.1,
      hconfigured.2.2, by simpa using List.find?_some hfind⟩, hrate, hzero, hdeviates⟩
  · obtain ⟨t, ht, hprovider, hcurrency, haddress, hsymbol⟩ := h.configured
    have hmem : t ∈ Q.orderTokens provider bucket.currency :=
      List.mem_filter.2 ⟨ht, by simp [hprovider, hcurrency, haddress]⟩
    cases hfind : (Q.orderTokens provider bucket.currency).find?
        fun t => Q.symbolOf t.token = symbol with
    | none => exact absurd hsymbol (by simpa using List.find?_eq_none.1 hfind t hmem)
    | some first =>
      exact ⟨_, _, QueueBuilder.mem_entries_iff.2 ⟨provider, h.listed, h.hasBalance, symbol, first, rate,
        hfind, h.rateOf, h.nonzero, h.inMarket, rfl⟩⟩

def soleBuilder : QueueBuilder :=
  ⟨[⟨⟨"p1", 1, "NGN", "base", "0xp1", 0⟩, .fixed, 10, 0, 1, 90⟩], fun _ => "USDC", fun _ => 10, true, 5⟩

theorem createPriorityQueueForBucket_exact_sole :
    ∃ low high, .offer "p1" "USDC" (some 10) low high ∈
      ((soleBuilder.createPriorityQueueForBucket Sample.bucket ["p1", "p2"]).after QueueWrite.exec
        Sample.store).queue ⟨Sample.bucket, false⟩ :=
  (createPriorityQueueForBucket_exact soleBuilder Sample.bucket (by simp) Sample.store).2.2.2 "p1"
    "USDC" 10 ⟨by simp, by decide +kernel, ⟨_, List.mem_singleton_self _, by decide +kernel⟩,
      by decide +kernel, by norm_num, by decide +kernel⟩

end Exact

variable {t : List (Call QueueWrite Store)} {u : Unit}

lemma enqueueTokens_fills {tokenSymbols : List String} {orderTokens : List TokenConfiguration}
    (h : Path (Q.enqueueTokens bucket provider tokenSymbols orderTokens) t u) :
    Fills ⟨bucket, false⟩ (fun p => p.1 = provider ∧ p.2 ∉ tokenSymbols) t := by
  induction orderTokens generalizing tokenSymbols t with
  | nil =>
    obtain ⟨rfl, -⟩ := path_ret_iff.1 h
    exact .nil
  | cons token orderTokens ih =>
    rw [QueueBuilder.enqueueTokens] at h
    split_ifs at h with hmet
    · exact ih h
    have hnext : ∀ {v}, Path (Q.enqueueTokens bucket provider
        (tokenSymbols ++ [Q.symbolOf token.token]) orderTokens) v u →
          Fills ⟨bucket, false⟩ (fun p => p.1 = provider ∧ p.2 ∉ tokenSymbols) v := fun hv =>
      (ih hv).mono fun p hp => ⟨hp.1, fun hmem => hp.2 (List.mem_append_left _ hmem)⟩
    rcases path_attempt_iff.1 h with ⟨s, v, rfl, hv⟩ | ⟨s, v, rfl, hv⟩
    · cases hentry : Q.entryFor provider bucket.currency token with
      | none =>
        rw [hentry] at hv
        exact (hnext hv).read_cons s true
      | some entry =>
        rw [hentry] at hv
        obtain ⟨s', done, w, rfl, hw⟩ := path_ignore_iff.1 hv
        -- the symbol of this entry is among those that the rest avoids
        refine Fills.read_cons ?_ s true
        have hone : Fills ⟨bucket, false⟩ (· = (provider, Q.symbolOf token.token))
            [⟨.enqueue ⟨bucket, false⟩ entry, s', done⟩] :=
          .enqueue (slot_of_entryFor hentry) s' done
        refine (hone.append (ih hw) ?_).mono ?_
        · rintro p rfl ⟨-, hnew⟩
          exact hnew (by simp)
        · rintro p (rfl | ⟨hprovider, hnew⟩)
          · exact ⟨rfl, hmet⟩
          · exact ⟨hprovider, fun hmem => hnew (List.mem_append_left _ hmem)⟩
    · exact (hnext hv).read_cons s false

lemma enqueueProvider_fills (h : Path (Q.enqueueProvider bucket provider) t u) :
    Fills ⟨bucket, false⟩ (fun p => p.1 = provider) t := by
  rcases path_attempt_iff.1 h with ⟨s, v, rfl, hv⟩ | ⟨s, v, rfl, hv⟩
  · refine Fills.read_cons ?_ s true
    split_ifs at hv
    · rcases path_attempt_iff.1 hv with ⟨s', w, rfl, hw⟩ | ⟨s', w, rfl, hw⟩
      · exact ((enqueueTokens_fills hw).mono fun p hp => hp.1).read_cons s' true
      · obtain ⟨rfl, -⟩ := path_ret_iff.1 hw
        exact Fills.nil.read_cons s' false
    · obtain ⟨rfl, -⟩ := path_ret_iff.1 hv
      exact .nil
  · obtain ⟨rfl, -⟩ := path_ret_iff.1 hv
    exact Fills.nil.read_cons s false

lemma forEach_fills {providers : List String} (hnodup : providers.Nodup)
    (h : Path (forEach providers (Q.enqueueProvider bucket)) t u) :
    Fills ⟨bucket, false⟩ (fun p => p.1 ∈ providers) t := by
  induction providers generalizing t with
  | nil =>
    obtain ⟨rfl, -⟩ := path_ret_iff.1 h
    exact .nil
  | cons provider providers ih =>
    obtain ⟨hnew, hrest⟩ := List.nodup_cons.1 hnodup
    obtain ⟨v, w, a, rfl, hv, hw⟩ := path_bind h
    refine ((enqueueProvider_fills hv).append (ih hrest hw) ?_).mono ?_
    · rintro p rfl hmem
      exact hnew hmem
    · rintro p (rfl | hmem)
      · exact List.mem_cons_self
      · exact List.mem_cons_of_mem _ hmem

end Filling

structure Rebuild where
  builder : QueueBuilder
  bucket : ProvisionBucket
  providers : List String
  nodup : providers.Nodup

namespace Rebuild

variable (R : Rebuild)

def key : QueueKey := ⟨R.bucket, false⟩

def program : Proc QueueWrite Store Unit :=
  R.builder.createPriorityQueueForBucket R.bucket R.providers

def Copies (l : QueueWrite) : Prop :=
  l = .read ∨ l = .deleteQueue ⟨R.bucket, true⟩ ∨ ∃ entries, l = .copyQueue ⟨R.bucket, true⟩ entries

lemma prev_ne_key : (⟨R.bucket, true⟩ : QueueKey) ≠ R.key := fun h => by
  cases congrArg QueueKey.prev h

lemma path_program {t : List (Call QueueWrite Store)} {u : Unit} (h : Path R.program t u) :
    ∃ pre d post, t = pre ++ d :: post ∧ (∀ x ∈ pre, R.Copies x.label) ∧
      d.label = .deleteQueue R.key ∧ Fills R.key (fun p => p.1 ∈ R.providers) post := by
  have hrefill : ∀ {v}, Path (R.builder.refillQueue R.bucket R.providers) v u →
      ∃ d post, v = d :: post ∧ d.label = .deleteQueue R.key ∧
        Fills R.key (fun p => p.1 ∈ R.providers) post := by
    intro v hv
    obtain ⟨s, done, w, rfl, hw⟩ := path_ignore_iff.1 hv
    exact ⟨_, w, rfl, rfl, forEach_fills R.nodup hw⟩
  have hcopy : ∀ {v} (prevData : List QueueEntry),
      Path (if prevData = [] then R.builder.refillQueue R.bucket R.providers
        else ignore (.copyQueue ⟨R.bucket, true⟩ prevData)
          (R.builder.refillQueue R.bucket R.providers)) v u →
      ∃ pre d post, v = pre ++ d :: post ∧ (∀ x ∈ pre, R.Copies x.label) ∧
        d.label = .deleteQueue R.key ∧ Fills R.key (fun p => p.1 ∈ R.providers) post := by
    intro v prevData hv
    split_ifs at hv
    · obtain ⟨d, post, rfl, hd, hpost⟩ := hrefill hv
      exact ⟨[], d, post, rfl, by simp, hd, hpost⟩
    · obtain ⟨s, done, w, rfl, hw⟩ := path_ignore_iff.1 hv
      obtain ⟨d, post, rfl, hd, hpost⟩ := hrefill hw
      exact ⟨[_], d, post, rfl, by simp [Copies], hd, hpost⟩
  obtain ⟨s, done, v, rfl, hv⟩ := path_ignore_iff.1 h
  rcases path_attempt_iff.1 hv with ⟨s', w, rfl, hw⟩ | ⟨s', w, rfl, hw⟩
  · obtain ⟨pre, d, post, rfl, hpre, hd, hpost⟩ := hcopy _ hw
    exact ⟨_ :: _ :: pre, d, post, rfl, by simpa [Copies] using hpre, hd, hpost⟩
  · obtain ⟨pre, d, post, rfl, hpre, hd, hpost⟩ := hcopy [] hw
    exact ⟨_ :: _ :: pre, d, post, rfl, by simpa [Copies] using hpre, hd, hpost⟩

end Rebuild

end QueueRuns

end Stablenode
