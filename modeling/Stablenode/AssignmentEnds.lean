import Stablenode.AssignmentRules
import Stablenode.FirstFit

/-! Assignments end (services/priority_queue.go) as long as their Redis calls succeed, and try each
provider from the queues at most once. -/
namespace Stablenode

open Proc

namespace AssignCall

def MayFail : AssignCall → Prop
  | redis _ => False
  | _ => True

def triedFromQueue : AssignCall → Option String
  | sending true provider .read => some provider
  | _ => none

end AssignCall

def triedFromQueues (calls : List AssignCall) : List String :=
  calls.filterMap AssignCall.triedFromQueue

section Termination

variable {conf : OrderConfig} {env : Environment}

def Store.queueProviders (s : Store) (bucket : ProvisionBucket) : List String :=
  (s.queue ⟨bucket, false⟩ ++ s.queue ⟨bucket, true⟩).filterMap QueueEntry.provider?

def Store.untried (s : Store) (bucket : ProvisionBucket) (order : ℕ) : Finset String :=
  (s.queueProviders bucket).toFinset \ (s.excludeList order).toFinset

lemma triedFromQueues_cons (c : AssignCall) (calls : List AssignCall) :
    triedFromQueues (c :: calls) = c.triedFromQueue.toList ++ triedFromQueues calls := by
  cases h : c.triedFromQueue <;> simp [triedFromQueues, h]

lemma triedFromQueues_append (calls calls' : List AssignCall) :
    triedFromQueues (calls ++ calls') = triedFromQueues calls ++ triedFromQueues calls' :=
  List.filterMap_append

@[simp] lemma triedFromQueues_redis (w : OrderWrite) (calls : List AssignCall) :
    triedFromQueues (.redis w :: calls) = triedFromQueues calls := rfl

def EndedTrying (excludeList : List String) (r : Completion AssignError) (calls : List AssignCall) :
    Prop :=
  (r = .ok ∨ r = .panicked) ∧ (triedFromQueues calls).Nodup ∧
    ∀ provider ∈ triedFromQueues calls, provider ∉ excludeList

variable {excludeList : List String} {calls : List AssignCall} {provider : String} {fuel : ℕ}

lemma endedTrying_of_nil {r : Completion AssignError} (hr : r = .ok ∨ r = .panicked)
    (htried : triedFromQueues calls = []) : EndedTrying excludeList r calls := by
  refine ⟨hr, ?_, ?_⟩ <;> simp [htried]

def LaterSendCall (fromQueue : Bool) (order : OrderFields) (c : AssignCall) : Prop :=
  ∃ w, c = .sending fromQueue order.providerId w ∧ SendWrite order.id w ∧ w ≠ .read

lemma LaterSendCall.tried {fromQueue : Bool} {order : OrderFields}
    (h : ∀ c ∈ calls, LaterSendCall fromQueue order c) : triedFromQueues calls = [] := by
  rw [triedFromQueues, List.filterMap_eq_nil_iff]
  intro c hc
  obtain ⟨w, rfl, -, hw⟩ := h c hc
  cases fromQueue with
  | false => rfl
  | true => cases w <;> first | rfl | exact absurd rfl hw

lemma sendOrderRequestCalls_yields (fromQueue : Bool) (order : OrderFields) (s : Store) :
    Yields AssignCall.exec AssignCall.MayFail
      (fun _ calls t => (triedFromQueues calls = [] ∨
          fromQueue = true ∧ triedFromQueues calls = [order.providerId]) ∧
        t.queues = s.queues ∧ t.excludeLists = s.excludeLists)
      (sendOrderRequestCalls conf env fromQueue order) s := by
  have hfirst : ∀ calls, triedFromQueues calls = [] →
      triedFromQueues (.sending fromQueue order.providerId .read :: calls) = [] ∨
        fromQueue = true ∧
          triedFromQueues (.sending fromQueue order.providerId .read :: calls) = [order.providerId] := by
    intro calls hcalls
    rw [triedFromQueues_cons, hcalls]
    cases fromQueue with
    | false => exact .inl rfl
    | true => exact .inr ⟨rfl, rfl⟩
  rw [sendOrderRequestCalls, sendOrderRequest]
  split
  · exact ⟨.inl rfl, rfl, rfl⟩
  next bucket _ =>
    rw [mapLabel_attempt]
    refine yields_attempt ?_ ⟨hfirst [] rfl, rfl, rfl⟩
    have hkeeps : ∀ c u, LaterSendCall fromQueue order c →
        u.queues = s.queues ∧ u.excludeLists = s.excludeLists →
        (c.exec u).queues = s.queues ∧ (c.exec u).excludeLists = s.excludeLists := by
      rintro c u ⟨w, rfl, hw, -⟩ ⟨hqueues, hexclude⟩
      obtain ⟨hq, he⟩ := hw.exec_frame u
      exact ⟨hq.trans hqueues, he.trans hexclude⟩
    refine Yields.mono (Uses.yields ?_ hkeeps ⟨rfl, rfl⟩)
      fun _ calls t h => ⟨hfirst calls (LaterSendCall.tried h.1), h.2⟩
    refine Uses.mapLabel (P := fun w => SendWrite order.id w ∧ w ≠ .read)
      (fun w hw => ⟨w, rfl, hw.1, hw.2⟩) ?_
    split
    · trivial
    split
    · trivial
    refine uses_attempt ⟨.setOrderRequest _, by simp⟩ trivial fun s => ?_
    refine uses_ignore ⟨.expireOrderRequestAt _, by simp⟩ ?_
    split
    · exact uses_attempt ⟨.newOrder _, by simp⟩ trivial fun _ =>
        uses_attempt ⟨.reserveCommit .., by simp⟩ trivial fun _ => trivial
    · trivial

lemma Store.excludeList_pushExclude (s : Store) (order : ℕ) (provider : String) :
    (OrderWrite.exec (.pushExclude order provider) s).excludeList order =
      s.excludeList order ++ [provider] := by
  simp [OrderWrite.exec, excludeList, List.filter_append]

abbrev EndsTrying (excludeList : List String) (p : Proc AssignCall Store (Completion AssignError))
    (s : Store) : Prop :=
  Yields AssignCall.exec AssignCall.MayFail (fun r calls _ => EndedTrying excludeList r calls) p s

def Reassigns (reassign : OrderFields → Proc AssignCall Store (Completion AssignError)) (s : Store)
    (bucket : ProvisionBucket) (id : ℕ) : Prop :=
  ∀ order t provider, order.id = id → order.provisionBucket = some bucket →
    provider ∈ s.untried bucket id → t.excludeList id = s.excludeList id ++ [provider] →
    (∀ key, (t.queue key).Perm (s.queue key)) →
    Yields AssignCall.exec AssignCall.MayFail
      (fun r calls _ => EndedTrying (s.excludeList id ++ [provider]) r calls) (reassign order) t

variable {reassign : OrderFields → Proc AssignCall Store (Completion AssignError)} {s t : Store}
  {bucket : ProvisionBucket} {order : OrderFields}

lemma send_yields (hreassign : Reassigns reassign s bucket order.id)
    (hbucket : order.provisionBucket = some bucket)
    (huntried : order.providerId ∈ s.untried bucket order.id)
    (hexclude : t.excludeLists = s.excludeLists) (hqueues : ∀ key, (t.queue key).Perm (s.queue key))
    :
    EndsTrying (s.excludeList order.id)
      ((sendOrderRequestCalls conf env true order).bind fun
        | .error _ => ignore (.redis (.pushExclude order.id order.providerId)) (reassign order)
        | r => ret r) t := by
  have hnew : order.providerId ∉ s.excludeList order.id := by
    simpa using (Finset.mem_sdiff.1 huntried).2
  -- the tries of the send itself
  have hown : ∀ calls, (triedFromQueues calls = [] ∨
      true = true ∧ triedFromQueues calls = [order.providerId]) →
      (triedFromQueues calls).Nodup ∧ (∀ p ∈ triedFromQueues calls, p ∉ s.excludeList order.id) ∧
        ∀ p ∈ triedFromQueues calls, p = order.providerId := by
    rintro calls (h | ⟨-, h⟩) <;> simp [h, hnew]
  refine Yields.bind ((sendOrderRequestCalls_yields true order t).mono ?_)
  rintro r calls u ⟨htried, huqueues, huexclude⟩
  obtain ⟨hnodup, hfresh, honly⟩ := hown calls htried
  cases r with
  | ok => exact ⟨.inl rfl, by simpa using hnodup, by simpa using hfresh⟩
  | panicked => exact ⟨.inr rfl, by simpa using hnodup, by simpa using hfresh⟩
  | error e =>
    refine yields_ignore_reliable id ?_
    have hlist : (AssignCall.exec (.redis (.pushExclude order.id order.providerId)) u).excludeList
        order.id = s.excludeList order.id ++ [order.providerId] := by
      refine (u.excludeList_pushExclude order.id order.providerId).trans ?_
      rw [Store.excludeList, huexclude, hexclude, Store.excludeList]
    have hperm : ∀ key, ((AssignCall.exec (.redis (.pushExclude order.id order.providerId)) u).queue
        key).Perm (s.queue key) := by
      intro key
      have hsame : (AssignCall.exec (.redis (.pushExclude order.id order.providerId)) u).queue key =
          t.queue key := by
        refine (OrderWrite.exec_queue rfl u key).trans ?_
        rw [Store.queue, huqueues, Store.queue]
      rw [hsame]
      exact hqueues key
    refine (hreassign order _ order.providerId rfl hbucket huntried hlist hperm).mono ?_
    rintro r calls' _ ⟨hr, hnodup', hfresh'⟩
    have hcalls : triedFromQueues (calls ++ .redis (.pushExclude order.id order.providerId) :: calls') =
        triedFromQueues calls ++ triedFromQueues calls' := by
      rw [triedFromQueues_append, triedFromQueues_redis]
    refine ⟨hr, ?_, ?_⟩
    · rw [hcalls, List.nodup_append']
      refine ⟨hnodup, hnodup', fun p hp hp' => hfresh' p hp' ?_⟩
      simp [honly p hp]
    · intro p hp
      rw [hcalls, List.mem_append] at hp
      rcases hp with hp | hp
      · exact hfresh p hp
      · exact fun hmem => hfresh' p hp (List.mem_append_left _ hmem)

def Walked (s : Store) (id : ℕ) (r : Completion AssignError) (calls : List AssignCall) (t : Store) :
    Prop :=
  EndedTrying (s.excludeList id) r calls ∨ r = .error .redisNil ∧ triedFromQueues calls = [] ∧ t = s

lemma mem_untried {s : Store} {id : ℕ} {prev : Bool} {index : ℕ} {token : String}
    {rate minAmount maxAmount : Option ℚ}
    (hentry : (s.queue ⟨bucket, prev⟩)[index]? = some (.offer provider token rate minAmount maxAmount))
    (hnew : provider ∉ s.excludeList id) : provider ∈ s.untried bucket id := by
  have hmem := List.mem_of_getElem? hentry
  have hprovider : provider ∈ s.queueProviders bucket := by
    refine List.mem_filterMap.2 ⟨.offer provider token rate minAmount maxAmount,
      List.mem_append.2 ?_, rfl⟩
    cases prev with
    | false => exact .inl hmem
    | true => exact .inr hmem
  simp [Store.untried, hprovider, hnew]

lemma Store.excludeLists_updateQueue (s : Store) (key : QueueKey)
    (f : List QueueEntry → List QueueEntry) :
    (s.updateQueue key f).excludeLists = s.excludeLists := by
  obtain ⟨queues, h⟩ := s.updateQueue_frame key f
  rw [h]

lemma Store.excludeLists_rotate (s : Store) (key : QueueKey) (data : QueueEntry) :
    (OrderWrite.exec (.pushQueue key data) (OrderWrite.exec (.popQueue key) s)).excludeLists =
      s.excludeLists := by
  simp only [OrderWrite.exec, excludeLists_updateQueue]

lemma Store.rotate_perm (s : Store) {key : QueueKey} {data : QueueEntry}
    (hdata : (s.queue key).head? = some data) (key' : QueueKey) :
    ((OrderWrite.exec (.pushQueue key data) (OrderWrite.exec (.popQueue key) s)).queue key').Perm
      (s.queue key') := by
  simp only [OrderWrite.exec, queue_updateQueue, if_true]
  split
  next hkey =>
    subst hkey
    obtain ⟨rest, hrest⟩ := List.head?_eq_some_iff.1 hdata
    rw [hrest]
    exact List.perm_append_singleton data rest
  · exact List.Perm.refl _

lemma matchRateCalls_yields {prev : Bool} {index : ℕ}
    (hreassign : Reassigns reassign s bucket order.id)
    (hbucket : order.provisionBucket = some bucket)
    (hindex : index ≤ (s.queue ⟨bucket, prev⟩).length)
    (hfuel : (s.queue ⟨bucket, prev⟩).length < index + fuel) :
    Yields AssignCall.exec AssignCall.MayFail (Walked s order.id)
      (matchRateCalls conf env reassign ⟨bucket, prev⟩ (s.excludeList order.id) fuel index order) s := by
  induction fuel generalizing index order with
  | zero => omega
  | succ fuel ih =>
    rw [matchRateCalls]
    refine yields_attempt_reliable id ?_
    cases hentry : (s.queue ⟨bucket, prev⟩)[index]? with
    | none => exact .inr ⟨rfl, rfl, rfl⟩
    | some e =>
      have hlt : index < (s.queue ⟨bucket, prev⟩).length := (List.getElem?_eq_some_iff.1 hentry).1
      cases e with
      | malformed text => exact ih hreassign hbucket hlt (by omega)
      | offer provider token rate minAmount maxAmount =>
        have hnext := @ih { order with providerId := provider } (index + 1) hreassign hbucket hlt
          (by omega)
        dsimp only
        cases htest : offerTest env { order with providerId := provider } bucket.currency
            (s.excludeList order.id) (.offer provider token rate minAmount maxAmount) with
        | panicked => exact .inl (endedTrying_of_nil (.inr rfl) rfl)
        | error e => exact hnext
        | ok =>
          have hnew : provider ∉ s.excludeList order.id := offerTest_ok_not_mem htest
          have huntried := mem_untried hentry hnew
          refine yields_attempt ?_ hnext
          split
          · exact hnext
          -- the entry gets the order, after a rotation if it is the head
          split
          next hzero =>
            subst hzero
            obtain ⟨data, hdata⟩ : ∃ data, (s.queue ⟨bucket, prev⟩).head? = some data :=
              ⟨_, by rw [List.head?_eq_getElem?, hentry]⟩
            refine yields_attempt_reliable id ?_
            have hhead : (AssignCall.exec (.database .read)
                (AssignCall.exec (.redis .read) s)).queue ⟨bucket, prev⟩ =
                  s.queue ⟨bucket, prev⟩ := rfl
            simp only [hhead, hdata]
            refine yields_attempt_reliable id ?_
            refine (@send_yields conf env reassign s _ bucket
              { order with providerId := provider } hreassign hbucket huntried ?_ ?_).mono ?_
            · exact s.excludeLists_rotate ⟨bucket, prev⟩ data
            · exact s.rotate_perm hdata
            · exact fun r calls u h => .inl h
          · refine (@send_yields conf env reassign s s bucket
              { order with providerId := provider } hreassign hbucket huntried rfl
              (fun _ => List.Perm.refl _)).mono ?_
            exact fun r calls u h => .inl h

lemma assignFromQueueCalls_yields
    (hreassign : ∀ bucket,
      order.provisionBucket = some bucket → Reassigns reassign s bucket order.id)
    (hfuel : ∀ bucket prev, order.provisionBucket = some bucket →
      (s.queue ⟨bucket, prev⟩).length < fuel) :
    EndsTrying (s.excludeList order.id)
      (assignFromQueueCalls conf env reassign fuel order (s.excludeList order.id)) s := by
  rw [assignFromQueueCalls]
  split
  · exact endedTrying_of_nil (.inr rfl) rfl
  next bucket hbucket =>
    have hwalk : ∀ prev, Yields AssignCall.exec AssignCall.MayFail (Walked s order.id)
        (matchRateCalls conf env reassign ⟨bucket, prev⟩ (s.excludeList order.id) fuel 0 order) s :=
      fun prev => matchRateCalls_yields (hreassign bucket hbucket) hbucket (Nat.zero_le _)
        (by have := hfuel bucket prev hbucket; omega)
    refine Yields.bind ((hwalk false).mono ?_)
    rintro r calls t (hended | ⟨rfl, htried, rfl⟩)
    · have hnil : EndedTrying (s.excludeList order.id) r (calls ++ []) := by rwa [List.append_nil]
      rcases hended.1 with rfl | rfl <;> exact hnil
    -- nothing has been tried, so the copy is walked with an exclude list that is up to date
    refine Yields.bind ((hwalk true).mono ?_)
    rintro r calls' u (hended | ⟨rfl, htried', rfl⟩)
    · have hcalls : ∀ r, EndedTrying (t.excludeList order.id) r calls' →
          EndedTrying (t.excludeList order.id) r (calls ++ (calls' ++ [])) := by
        rintro r ⟨hr, hrest⟩
        refine ⟨hr, ?_⟩
        rw [List.append_nil, triedFromQueues_append, htried, List.nil_append]
        exact hrest
      rcases hended.1 with rfl | rfl <;> exact hcalls _ hended
    · refine endedTrying_of_nil (.inl rfl) ?_
      rw [triedFromQueues_append, triedFromQueues_append, htried, htried']
      rfl

def Store.QueuesWithin (s : Store) (bucket : ProvisionBucket) (n : ℕ) : Prop :=
  ∀ prev, (s.queue ⟨bucket, prev⟩).length ≤ n

lemma card_untried_lt {id : ℕ} (hprovider : provider ∈ s.untried bucket id)
    (hexclude : t.excludeList id = s.excludeList id ++ [provider])
    (hqueues : ∀ key, (t.queue key).Perm (s.queue key)) :
    (t.untried bucket id).card < (s.untried bucket id).card := by
  refine Finset.card_lt_card (Finset.ssubset_iff_subset_ne.2 ⟨?_, ?_⟩)
  · intro p hp
    simp only [Store.untried, Store.queueProviders, Finset.mem_sdiff, List.mem_toFinset, hexclude,
      List.mem_append, not_or] at hp ⊢
    refine ⟨?_, hp.2.1⟩
    exact (((hqueues _).append (hqueues _)).filterMap _).mem_iff.1 hp.1
  · rintro heq
    rw [← heq, Store.untried, Finset.mem_sdiff] at hprovider
    exact hprovider.2 (by simp [hexclude])

def EnoughFuel (s : Store) (order : OrderFields) (n fuel : ℕ) : Prop :=
  0 < fuel ∧ ∀ bucket, order.provisionBucket = some bucket →
    s.QueuesWithin bucket n ∧ (s.untried bucket order.id).card + n + 2 ≤ fuel

lemma queues_yield {n : ℕ}
    (ih : ∀ {t : Store} {o : OrderFields}, EnoughFuel t o n fuel →
      EndsTrying (t.excludeList o.id) (assignCalls conf env fuel o) t)
    (hfuel : EnoughFuel s order n (fuel + 1)) :
    EndsTrying (s.excludeList order.id)
      (assignFromQueueCalls conf env (assignCalls conf env fuel) fuel order (s.excludeList order.id))
      s := by
  refine assignFromQueueCalls_yields (fun bucket hb => ?_) fun bucket prev hb => ?_
  · intro o t provider hid hbucket hprovider hexclude hperm
    obtain ⟨hwithin, hbound⟩ := hfuel.2 bucket hb
    have hcard := card_untried_lt hprovider hexclude hperm
    rw [← hexclude, ← hid]
    refine ih ⟨by omega, fun b hb' => ?_⟩
    obtain rfl := Option.some.inj (hbucket.symm.trans hb')
    rw [hid]
    exact ⟨fun prev => (hperm _).length_eq ▸ hwithin prev, by omega⟩
  · obtain ⟨hwithin, hbound⟩ := hfuel.2 bucket hb
    have := hwithin prev
    omega

lemma offerToNamedCalls_yields
    {queues : OrderFields → Proc AssignCall Store (Completion AssignError)}
    (provider : ProviderProfile)
    (hqueues : ∀ u, u.queues = t.queues → u.excludeLists = t.excludeLists →
      EndsTrying excludeList (queues order) u) :
    EndsTrying excludeList (offerToNamedCalls conf env queues provider order) t := by
  rw [offerToNamedCalls]
  refine Yields.bind ((sendOrderRequestCalls_yields false order t).mono ?_)
  rintro r calls u ⟨htried | ⟨hfalse, -⟩, huqueues, huexclude⟩
  · have hcalls : ∀ r calls', EndedTrying excludeList r calls' →
        EndedTrying excludeList r (calls ++ calls') := by
      intro r calls' h
      rw [EndedTrying, triedFromQueues_append, htried]
      exact h
    cases r with
    | ok => exact hcalls _ [] (endedTrying_of_nil (.inl rfl) rfl)
    | panicked => exact hcalls _ [] (endedTrying_of_nil (.inr rfl) rfl)
    | error e =>
      dsimp only
      split
      · exact hcalls _ [] (endedTrying_of_nil (.inl rfl) rfl)
      · exact (hqueues u huqueues huexclude).mono fun r calls' _ => hcalls r calls'
  · cases hfalse

lemma assignCalls_yields {n : ℕ} (hfuel : EnoughFuel s order n fuel) :
    EndsTrying (s.excludeList order.id) (assignCalls conf env fuel order) s := by
  induction fuel generalizing order s with
  | zero => exact absurd hfuel.1 (lt_irrefl 0)
  | succ fuel ih =>
    -- the queues are walked from a state with the same queues and exclude lists
    have hqueues : ∀ (o : OrderFields) (u : Store), o.id = order.id →
        o.provisionBucket = order.provisionBucket → u.queues = s.queues →
        u.excludeLists = s.excludeLists →
        EndsTrying (s.excludeList order.id)
          (assignFromQueueCalls conf env (assignCalls conf env fuel) fuel o (s.excludeList order.id))
          u := by
      intro o u hid hbucket hq he
      have hqueue : ∀ key, u.queue key = s.queue key := fun key => by
        rw [Store.queue, hq, Store.queue]
      have hexclude : u.excludeList order.id = s.excludeList order.id := by
        rw [Store.excludeList, he, Store.excludeList]
      rw [← hexclude, ← hid]
      refine queues_yield ih ⟨hfuel.1, fun bucket hb => ?_⟩
      obtain ⟨hwithin, hbound⟩ := hfuel.2 bucket (hbucket ▸ hb)
      refine ⟨fun prev => (hqueue _).symm ▸ hwithin prev, ?_⟩
      rw [Store.untried, Store.queueProviders, hqueue, hqueue, hid, hexclude]
      exact hbound
    rw [assignCalls]
    refine yields_attempt_reliable id ?_
    dsimp only
    split
    · exact hqueues order s rfl rfl rfl rfl
    refine yields_attempt ?_ (endedTrying_of_nil (.inr rfl) rfl)
    split
    · exact endedTrying_of_nil (.inr rfl) rfl
    next provider _ =>
      split
      · split
        · exact endedTrying_of_nil (.inr rfl) rfl
        next bucket hbucket =>
          have hrate : ∀ rate, ((AssignCall.database (.setPaymentOrderRate order.id rate)).exec
              s).excludeLists = s.excludeLists := by
            intro rate
            simp only [AssignCall.exec, AssignCall.erase, OrderWrite.exec]
            split <;> rfl
          refine yields_ignore ?_ ?_
          · exact offerToNamedCalls_yields provider fun u hu he => hqueues _ u rfl rfl
              (hu.trans (OrderWrite.exec_queues rfl _)) (he.trans (hrate _))
          · exact offerToNamedCalls_yields provider fun u hu he => hqueues _ u rfl rfl hu he
      · exact offerToNamedCalls_yields provider fun u hu he => hqueues _ u rfl rfl hu he

lemma exists_enoughFuel (s : Store) (order : OrderFields) :
    ∃ n bound, ∀ fuel ≥ bound, EnoughFuel s order n fuel := by
  cases hbucket : order.provisionBucket with
  | none => exact ⟨0, 1, fun fuel hfuel => ⟨hfuel, fun bucket hb => by rw [hbucket] at hb; cases hb⟩⟩
  | some bucket =>
    let n := (s.queue ⟨bucket, false⟩).length + (s.queue ⟨bucket, true⟩).length
    refine ⟨n, (s.untried bucket order.id).card + n + 2, fun fuel hfuel => ⟨by omega, ?_⟩⟩
    intro b hb
    obtain rfl := Option.some.inj (hbucket.symm.trans hb)
    refine ⟨fun prev => ?_, hfuel⟩
    cases prev with
    | false => exact Nat.le_add_right _ _
    | true => exact Nat.le_add_left _ _

theorem assignLockPaymentOrder_ends (conf : OrderConfig) (env : Environment) (s : Store)
    (order : OrderFields) :
    ∃ bound, ∀ fuel ≥ bound,
      (assignCalls conf env fuel order).mapLabel AssignCall.erase =
          assignLockPaymentOrder conf env fuel order ∧
      ∀ faults, FailsOnly AssignCall.MayFail
          ((assignCalls conf env fuel order).trace AssignCall.exec faults s) →
        (assignCalls conf env fuel order).result AssignCall.exec faults s ≠ .error .outOfFuel ∧
        (triedFromQueues (((assignCalls conf env fuel order).trace AssignCall.exec faults s).map
          Call.label)).Nodup := by
  obtain ⟨n, bound, hbound⟩ := exists_enoughFuel s order
  refine ⟨bound, fun fuel hfuel => ⟨assignCalls_erase fuel order, fun faults hfaults => ?_⟩⟩
  have hended := yields_iff_forall_trace.1 (assignCalls_yields (hbound fuel hfuel)) faults hfaults
  refine ⟨fun h => ?_, hended.2.1⟩
  rcases hended.1 with hok | hpanicked
  · cases h.symm.trans hok
  · cases h.symm.trans hpanicked

end Termination

open Sample in
theorem assignLockPaymentOrder_ends_sample :
    ∃ fuel, (assignCalls {} Environment.silent fuel (rateOrder 10)).result AssignCall.exec []
      (rateStore 0 500) ≠ .error .outOfFuel := by
  obtain ⟨bound, h⟩ := assignLockPaymentOrder_ends {} Environment.silent (rateStore 0 500) (rateOrder 10)
  exact ⟨bound, ((h bound le_rfl).2 [] (failsOnly_trace_nil _)).1⟩

end Stablenode
