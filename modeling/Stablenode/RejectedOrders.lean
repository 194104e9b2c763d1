import Stablenode.CreationRules

/-! What becomes of an `OrderCreated` event for a known token: the lock order of an accepted
event, and the events that are rejected. -/
namespace Stablenode.RejectedOrders

open Proc Run Creation

variable {I : Indexer} {e : OrderCreatedEvent} {fields : LockPaymentOrderFields} {s : Store}

def Beside (s t : Store) : Prop :=
  t.lockOrders = s.lockOrders ∧ t.transactionLogs = s.transactionLogs ∧ t.now = s.now ∧
    s.calls <+: t.calls

def Aside (l : CreationWrite) : Prop := ∀ s, Beside s (l.exec s)

lemma covering : Covering CreationWrite.exec Beside Aside where
  refl _ := ⟨rfl, rfl, rfl, List.prefix_rfl⟩
  trans h h' := ⟨h'.1.trans h.1, h'.2.1.trans h.2.1, h'.2.2.1.trans h.2.2.1, h.2.2.2.trans h'.2.2.2⟩
  step _ s hl := hl s

lemma aside_read : Aside .read := fun _ => ⟨rfl, rfl, rfl, List.prefix_rfl⟩

lemma aside_call (c : ExternalCall) : Aside (.order (.call c)) :=
  fun _ => ⟨rfl, rfl, rfl, List.prefix_append _ _⟩

lemma linkPaymentOrder_aside (event : OrderCreatedEvent) (retries : ℕ) :
    Uses Aside (event.linkPaymentOrder retries) := by
  refine uses_linkPaymentOrder aside_read (fun id s => ?_)
    (fun _ _ => ⟨rfl, rfl, rfl, List.prefix_rfl⟩) (fun _ _ => aside_call _) retries
  simp only [CreationWrite.exec]
  split_ifs <;> exact ⟨rfl, rfl, rfl, List.prefix_rfl⟩

lemma aside_assignment {id : ℕ} {w : OrderWrite} (h : AssignmentLabel id w) : Aside (.order w) := by
  have hqueue : ∀ (s : Store) key f, Beside s (s.updateQueue key f) := by
    intro s key f
    obtain ⟨queues, hq⟩ := s.updateQueue_frame key f
    rw [hq]
    exact ⟨rfl, rfl, rfl, List.prefix_rfl⟩
  intro s
  rcases h with ⟨⟨⟩⟩ | _ | _ | _ | _
  case write.popQueue => exact hqueue _ _ _
  case write.pushQueue => exact hqueue _ _ _
  case newOrder => exact aside_call _ s
  all_goals
    simp only [CreationWrite.exec, OrderWrite.exec]
    try split_ifs
    all_goals exact ⟨rfl, rfl, rfl, List.prefix_rfl⟩

variable {t : Store}

section Accepted

def storedRow (fields : LockPaymentOrderFields) (s : Store) : LockPaymentOrder :=
  fields.create.defaults.row fields.token s.lockOrders.fresh s.now

def finalRow (I : Indexer) (fields : LockPaymentOrderFields) (s : Store) : LockPaymentOrder :=
  if I.amlRefuses fields.txHash then
    { storedRow fields s with
      status := .cancelled
      cancellationCount := 3
      cancellationReasons := ["AML compliance check failed"] }
  else storedRow fields s

def Refunded (network gatewayId : String) (s t : Store) : Prop :=
  ∃ new order, t.calls = s.calls ++ new ∧ ExternalCall.refundOrder order network gatewayId ∈ new

variable {gatewayId network : String}

lemma Refunded.beside {u : Store} (h : Refunded network gatewayId s t) (htu : Beside t u) :
    Refunded network gatewayId s u := by
  obtain ⟨new, order, hcalls, hmem⟩ := h
  obtain ⟨more, hmore⟩ := htu.2.2.2
  exact ⟨new ++ more, order, by rw [← hmore, hcalls, List.append_assoc],
    List.mem_append_left _ hmem⟩

lemma refunded_call (order : ℕ) (hst : s.calls <+: t.calls) :
    Refunded network gatewayId s
      ((CreationWrite.order (.call (.refundOrder order network gatewayId))).exec t) := by
  obtain ⟨new, hnew⟩ := hst
  refine ⟨new ++ [.refundOrder order network gatewayId], order, ?_, by simp⟩
  simp only [CreationWrite.exec, OrderWrite.exec, ← hnew, List.append_assoc]

def Ended (I : Indexer) (fields : LockPaymentOrderFields) (s t : Store) : Prop :=
  t.lockOrders.rows = s.lockOrders.rows ++ [finalRow I fields s] ∧
    (I.amlRefuses fields.txHash = true → Refunded I.network fields.gatewayId s t)

lemma storedRow_eq (hst : Beside s t) : storedRow fields t = storedRow fields s := by
  rw [storedRow, storedRow, hst.1, hst.2.2.1]

lemma rows_cancelled (hrows : t.lockOrders.rows = s.lockOrders.rows ++ [storedRow fields s])
    (hnow : t.now = s.now) (reason : String) :
    ((OrderWrite.handleCancellationUpdate (storedRow fields s).id reason).exec t).lockOrders.rows =
      s.lockOrders.rows ++
        [{ storedRow fields s with
            status := .cancelled
            cancellationCount := 3
            cancellationReasons := [reason] }] := by
  have hold : ∀ o ∈ s.lockOrders.rows, o.id ≠ (storedRow fields s).id :=
    fun o ho => (Table.lt_fresh ho).ne
  have hsame : (s.lockOrders.rows.map fun o : LockPaymentOrder =>
      if o.id = (storedRow fields s).id then
        { o with
          status := .cancelled
          cancellationCount := 3
          cancellationReasons := [reason]
          updatedAt := s.now }
      else o) = s.lockOrders.rows := by
    refine (List.map_congr_left fun o ho => if_neg (hold o ho)).trans (List.map_id _)
  simp only [OrderWrite.exec, Store.updateLockOrders, Table.update, hrows, List.map_append,
    List.map_cons, List.map_nil, hnow, decide_eq_true_eq, hsame]
  rfl

lemma assignCreated_ended (hf : I.accepted e = some fields)
    (hrows : t.lockOrders.rows = s.lockOrders.rows ++ [storedRow fields s]) (hnow : t.now = s.now)
    (hcalls : s.calls <+: t.calls) :
    LeadsBeside CreationWrite.exec Beside (fun _ => Ended I fields s)
      (I.assignCreated fields (storedRow fields s)) t := by
  obtain ⟨-, -, -, hnetwork, -⟩ := accepted_fields hf
  rw [Indexer.assignCreated]
  split_ifs with haml
  · rw [handleCancellation, mapLabel_attempt, bind_attempt]
    refine leadsBeside_attempt fun u htu => ?_
    have hcancelled := rows_cancelled (t := u) (by rw [htu.1, hrows]) (htu.2.2.1.trans hnow)
      "AML compliance check failed"
    rw [mapLabel_attempt, bind_attempt]
    refine leadsBeside_attempt fun v huv => ?_
    have hvrows : v.lockOrders.rows = s.lockOrders.rows ++ [finalRow I fields s] := by
      rw [huv.1, finalRow, if_pos haml]
      exact hcancelled
    have hmem : finalRow I fields s ∈ v.lockOrders.rows := by simp [hvrows]
    have hid : (finalRow I fields s).id = (storedRow fields s).id := by
      rw [finalRow, if_pos haml]
    have htoken : (finalRow I fields s).token.network = I.network := by
      rw [finalRow, if_pos haml, ← hnetwork]
      rfl
    rw [← hid, Table.get_of_mem hmem]
    intro w hvw x hwx
    refine ⟨?_, fun _ => ?_⟩
    · rw [hwx.1, ← hvrows]
      exact congrArg Table.rows hvw.1
    have hprefix : s.calls <+: w.calls :=
      ((hcalls.trans htu.2.2.2).trans huv.2.2.2).trans hvw.2.2.2
    rw [← htoken]
    exact (refunded_call (finalRow I fields s).id hprefix).beside hwx
  · refine LeadsBeside.bind covering ?_
    refine ((assignLockPaymentOrder_uses I.fuel rfl).mapLabel fun _ h =>
      aside_assignment h).leadsBeside covering fun r u htu => ?_
    have hend : ∀ v, Beside u v → Ended I fields s v := by
      intro v huv
      refine ⟨?_, fun h => absurd h haml⟩
      rw [huv.1, htu.1, hrows, finalRow, if_neg haml]
    cases r <;> exact hend

lemma taken_beside (hst : Beside s t) : Taken t fields ↔ Taken s fields := by
  rw [Taken, Taken, hst.1]

lemma createdLogs_beside (hst : Beside s t) (txHash gatewayId : String) :
    t.createdLogs txHash gatewayId = s.createdLogs txHash gatewayId := by
  rw [Store.createdLogs, Store.createdLogs, hst.2.1]

lemma commitLockPaymentOrder_ended (hf : I.accepted e = some fields) (hfree : ¬ Taken s fields)
    (withLog : Bool) (hst : Beside s t) :
    LeadsBeside CreationWrite.exec Beside (fun _ => Ended I fields s)
      (I.commitLockPaymentOrder fields withLog) t := by
  obtain ⟨-, -, -, -, hcheck⟩ := accepted_fields hf
  refine leadsBeside_attempt fun u htu => ?_
  have hsu := covering.trans hst htu
  have hfree' : ¬ Taken u fields := fun h => hfree ((taken_beside hsu).1 h)
  have hsave : fields.create.save u = .ok (storedRow fields s) := by
    rw [save_create hcheck, if_neg hfree', ← storedRow_eq hsu, storedRow]
  have hrows : ((CreationWrite.createCommit fields.create I.network withLog).exec u).lockOrders.rows =
      s.lockOrders.rows ++ [storedRow fields s] := by
    rw [exec_createCommit_rows hcheck, if_neg hfree', hsu.1, ← storedRow_eq hsu, storedRow, hsu.1]
  have hother : ((CreationWrite.createCommit fields.create I.network withLog).exec u).now = s.now ∧
      ((CreationWrite.createCommit fields.create I.network withLog).exec u).calls = u.calls := by
    simp only [CreationWrite.exec, hsave, and_true]
    exact hsu.2.2.1
  rw [hsave]
  refine assignCreated_ended hf hrows hother.1 ?_
  rw [hother.2]
  exact hsu.2.2.2

theorem checkAndStore_ended (hf : I.accepted e = some fields) (hfree : ¬ Taken s fields)
    (hlogs : (s.createdLogs fields.txHash fields.gatewayId).length ≤ 1) :
    LeadsBeside CreationWrite.exec Beside (fun _ => Ended I fields s) (I.checkAndStore e) s := by
  refine (checkAndStore_reads hf).leadsBeside covering (fun _ => rfl) fun t hst => ?_
  refine leadsBeside_attempt fun u htu => leadsBeside_attempt fun v huv => ?_
  have hsv := covering.trans (covering.trans hst htu) huv
  rw [createdLogs_beside hsv]
  split
  · rename_i hmany
    exact absurd hmany (only_ne_notSingular hlogs)
  · exact commitLockPaymentOrder_ended hf hfree false hsv
  · exact leadsBeside_attempt fun w hvw =>
      commitLockPaymentOrder_ended hf hfree true (covering.trans hsv hvw)

end Accepted

section Refused

inductive Refused (I : Indexer) : CreationProgram (Completion String) → Prop where
  | ends (r : Completion String) : Refused I (ret r)
  | cancels (fields : LockPaymentOrderFields) (reason heading : String) :
    Refused I (cancelFields fields reason heading)
  | drops (fields : LockPaymentOrderFields) (reason : String) :
    Refused I ((handleCancellationOfFields fields reason).bind fun _ => ret .ok)
  | unsaved {fields : LockPaymentOrderFields} (h : fields.create.defaults.check ≠ none) :
    Refused I (I.storeLockPaymentOrder fields)

lemma basicAmountInUsd_reads (amount : ℚ) (token : Token)
    (recipient : Option PaymentOrderRecipient) :
    ∃ usd, Reads .read (I.basicAmountInUsd amount token recipient) (ret usd) := by
  cases recipient with
  | none => exact ⟨0, .refl _⟩
  | some recipient =>
    simp only [Indexer.basicAmountInUsd]
    cases I.getInstitutionByCode recipient.institution with
    | error _ => exact ⟨0, reads_attempt fun _ => .refl _⟩
    | ok institution =>
      simp only [calculatePaymentOrderAmountInUSD]
      cases institution.loadedCurrency with
      | some currency => exact ⟨_, reads_attempt fun _ => .refl _⟩
      | none => exact ⟨_, reads_attempt fun _ => reads_attempt fun _ => .refl _⟩

lemma createBasic_refused (event : OrderCreatedEvent) (token : Token)
    (recipient : Option PaymentOrderRecipient) (reason : String) :
    ∃ q, Refused I q ∧
      Reads .read (I.createBasicLockPaymentOrderAndCancel event token recipient reason) q := by
  obtain ⟨usd, husd⟩ := basicAmountInUsd_reads (I := I)
    (Decimal.div event.amount (10 ^ token.decimals)) token recipient
  exact ⟨_, .cancels _ _ _, husd.bind (.refl _)⟩

lemma exists_refused_attempt {failed : CreationProgram (Completion String)}
    {p : CreationProgram (Completion String)} (h : ∃ q, Refused I q ∧ Reads .read p q) :
    ∃ q, Refused I q ∧ Reads .read (attempt .read failed fun _ => p) q := by
  obtain ⟨q, hq, hp⟩ := h
  exact ⟨q, hq, reads_attempt fun _ => hp⟩

lemma exists_refused_bind {α : Type} {p : CreationProgram α} {r : α}
    {k : α → CreationProgram (Completion String)} (hr : Reads .read p (ret r))
    (h : ∃ q, Refused I q ∧ Reads .read (k r) q) : ∃ q, Refused I q ∧ Reads .read (p.bind k) q := by
  obtain ⟨q, hq, hk⟩ := h
  exact ⟨q, hq, hr.bind hk⟩

lemma getProvisionBucket_reads (amount : ℚ) (currency : FiatCurrency) :
    ∃ r, Reads .read (I.getProvisionBucket amount currency) (ret r) ∧
      ∀ bucket isLessThanMin, r = .ok (bucket, isLessThanMin) → isLessThanMin = true ∨
        ∃ b, bucket = some b ∧ only (I.provisionBuckets.filter fun b =>
          amount ≤ b.maxAmount ∧ b.minAmount ≤ amount ∧ b.currency = currency.code) = .ok b := by
  rw [Indexer.getProvisionBucket]
  cases honly : only (I.provisionBuckets.filter fun b =>
      amount ≤ b.maxAmount ∧ b.minAmount ≤ amount ∧ b.currency = currency.code) with
  | ok b =>
    refine ⟨_, reads_attempt fun _ => .refl _, fun bucket isLessThanMin h => .inr ⟨b, ?_, rfl⟩⟩
    injection h with h
    exact (Prod.ext_iff.1 h).1.symm
  | error error =>
    cases error with
    | notSingular => exact ⟨_, reads_attempt fun _ => .refl _, nofun⟩
    | notFound =>
      dsimp only
      split
      · exact ⟨_, reads_attempt fun _ => reads_attempt fun _ => .refl _, nofun⟩
      split_ifs
      · refine ⟨_, reads_attempt fun _ => reads_attempt fun _ => .refl _, fun _ _ h => .inl ?_⟩
        injection h with h
        exact (Prod.ext_iff.1 h).2.symm
      · exact ⟨_, reads_attempt fun _ => reads_attempt fun _ => .refl _, nofun⟩

lemma checkNamedProvider_refused {currency : String} {proceed : CreationProgram (Completion String)}
    (h : I.namedProviderFits fields currency = true → ∃ q, Refused I q ∧ Reads .read proceed q) :
    ∃ q, Refused I q ∧ Reads .read (I.checkNamedProvider fields currency proceed) q := by
  have hfits := h
  simp only [Indexer.namedProviderFits, decide_eq_true_eq] at hfits
  rw [Indexer.checkNamedProvider]
  split_ifs with hnone
  · exact hfits (.inl hnone)
  refine exists_refused_attempt ?_
  cases hoffer : I.findProviderOrderToken fields.providerId fields.token currency with
  | error error =>
    cases error with
    | notFound => exact ⟨_, .drops _ _, .refl _⟩
    | notSingular => exact ⟨_, .ends _, .refl _⟩
  | ok offer =>
    dsimp only
    split_ifs with hmode
    · exact hfits (.inr (by simp [hoffer, Except.toOption, hmode]))
    split
    · exact ⟨_, .ends _, .refl _⟩
    · exact ⟨_, .ends _, .refl _⟩
    rename_i amount hamount
    split_ifs with hmax hmin
    · exact ⟨_, .cancels _ _ _, .refl _⟩
    · exact ⟨_, .cancels _ _ _, .refl _⟩
    · refine hfits (.inr ?_)
      simp [hoffer, Except.toOption, Indexer.withinLimits, hamount, not_lt.1 hmax, not_lt.1 hmin]

theorem checkAndStore_refused {token : Token} (htoken : I.findToken e.token = .ok token)
    (h : I.accepted e = none) : ∃ q, Refused I q ∧ Reads .read (I.checkAndStore e) q := by
  rw [Indexer.checkAndStore]
  refine exists_refused_attempt ?_
  simp only [htoken]
  cases hrecipient : I.recipient e.messageHash with
  | none => exact createBasic_refused _ _ _ _
  | some recipient =>
  cases recipient with
  | none => exact ⟨_, .ends _, .refl _⟩
  | some recipient =>
  refine exists_refused_attempt ?_
  cases hinstitution : I.getInstitutionByCode recipient.institution with
  | error _ => exact createBasic_refused _ _ _ _
  | ok institution =>
  dsimp only
  cases hedge : institution.loadedCurrency with
  | none => exact ⟨_, .ends _, .refl _⟩
  | some edge =>
  refine exists_refused_attempt ?_
  cases hcurrency : I.findCurrency edge.code with
  | error _ => exact createBasic_refused _ _ _ _
  | ok currency =>
  obtain ⟨r, hr, hbucket⟩ := getProvisionBucket_reads (I := I)
    ((e.scaled token).amount * (e.scaled token).rate) currency
  refine exists_refused_bind hr ?_
  cases r with
  | error _ => exact createBasic_refused _ _ _ _
  | ok found =>
  obtain ⟨bucket, isLessThanMin⟩ := found
  dsimp only
  split_ifs with hless hnone
  · exact ⟨_, .cancels _ _ _, .refl _⟩
  · exact checkNamedProvider_refused fun _ => ⟨_, .cancels _ _ _, .refl _⟩
  refine checkNamedProvider_refused fun hfits => ⟨_, .unsaved fun hcheck => ?_, .refl _⟩
  obtain ⟨b, rfl, honly⟩ := (hbucket _ _ rfl).resolve_left hless
  -- all lookups and checks have passed, so the event would be accepted
  have haccepted : I.accepted e =
      some ((e.scaled token).fields token recipient edge (some b)) :=
    accepted_eq_some_iff.2 ⟨token, recipient, institution, edge, currency, b, htoken, hrecipient,
      hinstitution, hedge, hcurrency, honly, rfl, hfits, hcheck⟩
  rw [h] at haccepted
  cases haccepted

lemma storeLockPaymentOrder_unchanged
    (h : 1 < (s.createdLogs fields.txHash fields.gatewayId).length ∨
      ∀ t, Beside s t → ∃ error, fields.create.save t = .error error)
    (hst : Beside s t) :
    LeadsBeside CreationWrite.exec Beside (fun _ u => u.lockOrders = s.lockOrders)
      (I.storeLockPaymentOrder fields) t := by
  have hcommit : 1 < (s.createdLogs fields.txHash fields.gatewayId).length ∨
      ∀ withLog u, Beside s u → LeadsBeside CreationWrite.exec Beside
        (fun _ u => u.lockOrders = s.lockOrders) (I.commitLockPaymentOrder fields withLog) u := by
    refine h.imp_right fun hsave withLog u hsu => leadsBeside_attempt fun v huv => ?_
    have hsv := covering.trans hsu huv
    obtain ⟨error, herror⟩ := hsave v hsv
    simp only [CreationWrite.exec, herror]
    exact fun w hvw => hvw.1.trans hsv.1
  refine leadsBeside_attempt fun u htu => leadsBeside_attempt fun v huv => ?_
  have hsv : Beside s v := covering.trans (covering.trans hst htu) huv
  rw [createdLogs_beside hsv]
  split
  · exact fun w hvw => hvw.1.trans hsv.1
  · rename_i log hlog
    rw [only_eq_ok_iff] at hlog
    exact (hcommit.resolve_left (by simp [hlog])) false _ hsv
  · rename_i hnone
    rw [only_eq_notFound_iff] at hnone
    refine leadsBeside_attempt fun w hvw => ?_
    exact (hcommit.resolve_left (by simp [hnone])) true _ (covering.trans hsv hvw)

lemma handleCancellationOfFields_unchanged (fields : LockPaymentOrderFields) (reason : String)
    (g : Except String Unit → CreationProgram (Completion String)) (hg : ∀ r, ∃ c, g r = ret c)
    (hst : Beside s t) :
    LeadsBeside CreationWrite.exec Beside (fun _ u => u.lockOrders = s.lockOrders)
      ((handleCancellationOfFields fields reason).bind g) t := by
  refine LeadsBeside.bind covering (leadsBeside_attempt fun u htu => ?_)
  obtain ⟨error, herror⟩ := save_createCancelled fields reason u
  simp only [CreationWrite.exec, herror]
  intro v huv
  obtain ⟨c, hc⟩ := hg (.error (fields.gatewayId ++ " - failed to create lock payment order: " ++ error))
  rw [hc]
  exact fun w hvw => ((hvw.1.trans huv.1).trans htu.1).trans hst.1

lemma Refused.unchanged {q : CreationProgram (Completion String)} (hq : Refused I q)
    (hst : Beside s t) :
    LeadsBeside CreationWrite.exec Beside (fun _ u => u.lockOrders = s.lockOrders) q t := by
  cases hq with
  | ends r => exact fun u htu => htu.1.trans hst.1
  | cancels fields reason heading =>
    refine handleCancellationOfFields_unchanged fields reason _ (fun r => ?_) hst
    cases r <;> exact ⟨_, rfl⟩
  | drops fields reason =>
    exact handleCancellationOfFields_unchanged fields reason _ (fun _ => ⟨_, rfl⟩) hst
  | unsaved h => exact storeLockPaymentOrder_unchanged (.inr fun u _ => save_of_check h u) hst

end Refused

section Main

def ordersOf (I : Indexer) (e : OrderCreatedEvent) (s : Store) : List LockPaymentOrder :=
  s.lockOrders.select fun o => o.gatewayId = e.orderId ∧ o.token.network = I.network

def StoredOrRefunded (I : Indexer) (e : OrderCreatedEvent) (s t : Store) : Prop :=
  (∃ o ∈ ordersOf I e t, o.status = .pending) ∨
    (∃ o, ordersOf I e t = [o] ∧ o.status = .cancelled ∧ o.messageHash = e.messageHash) ∧
      Refunded I.network e.orderId s t

lemma ordersOf_eq_nil (h : s.isIndexed I.network e = false) : ordersOf I e s = [] := by
  refine List.filter_eq_nil_iff.2 fun o ho hmatch => ?_
  obtain ⟨hid, hnetwork⟩ := of_decide_eq_true hmatch
  have := List.any_eq_false.1 h o ho
  simp [hid, hnetwork] at this

lemma createLockPaymentOrder_after {S : Store → Prop} (background : List ℕ)
    (hnew : s.isIndexed I.network e = false)
    (h : LeadsBeside CreationWrite.exec Beside (fun _ => S) (I.checkAndStore e) s) :
    S ((I.createLockPaymentOrder background e).after CreationWrite.exec s) := by
  rw [Indexer.createLockPaymentOrder, after_attempt, hnew, if_neg (by simp)]
  refine LeadsBeside.interleave covering background (i := 0) rfl (fun j q hj hq => ?_) h.discard
  match j, hq with
  | 1, hq =>
    obtain rfl := Option.some.inj hq
    exact linkPaymentOrder_aside e 30

lemma finalRow_columns (I : Indexer) (fields : LockPaymentOrderFields) (s : Store) :
    (finalRow I fields s).ident = ident fields ∧ (finalRow I fields s).amount = fields.amount ∧
      (finalRow I fields s).status =
        if I.amlRefuses fields.txHash then .cancelled else .pending := by
  rw [finalRow]
  split_ifs <;> exact ⟨rfl, rfl, rfl⟩

lemma ordersOf_of_ended (hf : I.accepted e = some fields) (hnew : s.isIndexed I.network e = false)
    (h : Ended I fields s t) : ordersOf I e t = [finalRow I fields s] := by
  obtain ⟨hgateway, -, -, hnetwork, -⟩ := accepted_fields hf
  obtain ⟨hident, -⟩ := finalRow_columns I fields s
  have hid : (finalRow I fields s).gatewayId = e.orderId :=
    (congrArg (fun k => k.1.1.1) hident).trans hgateway
  have htoken : (finalRow I fields s).token.network = I.network :=
    (congrArg (fun k => k.2.2.network) hident).trans hnetwork
  have hnone := ordersOf_eq_nil hnew
  rw [ordersOf, Table.select] at hnone ⊢
  rw [h.1, List.filter_append, hnone]
  simp [hid, htoken]

lemma storedOrRefunded_of_ended (hf : I.accepted e = some fields)
    (hnew : s.isIndexed I.network e = false) (h : Ended I fields s t) :
    StoredOrRefunded I e s t := by
  obtain ⟨hgateway, -, hhash, -, -⟩ := accepted_fields hf
  obtain ⟨hident, -, hstatus⟩ := finalRow_columns I fields s
  have horders := ordersOf_of_ended hf hnew h
  have hfhash : (finalRow I fields s).messageHash = e.messageHash :=
    (congrArg (fun k => k.2.1) hident).trans hhash
  by_cases haml : I.amlRefuses fields.txHash = true
  · rw [if_pos haml] at hstatus
    refine .inr ⟨⟨_, horders, hstatus, hfhash⟩, ?_⟩
    rw [← hgateway]
    exact h.2 haml
  · rw [if_neg haml] at hstatus
    exact .inl ⟨_, by rw [horders]; exact List.mem_singleton_self _, hstatus⟩

lemma not_storedOrRefunded (hnew : s.isIndexed I.network e = false)
    (h : t.lockOrders = s.lockOrders) : ¬ StoredOrRefunded I e s t := by
  have hnone : ordersOf I e t = [] := by
    rw [ordersOf, h]
    exact ordersOf_eq_nil hnew
  rintro (⟨o, ho, -⟩ | ⟨⟨o, ho, -⟩, -⟩)
  · simp [hnone] at ho
  · simp [hnone] at ho

theorem storedOrRefunded_iff_accepted (I : Indexer) (e : OrderCreatedEvent) (s : Store)
    {token : Token} (htoken : I.findToken e.token = .ok token)
    (hnew : s.isIndexed I.network e = false) :
    (∀ background, StoredOrRefunded I e s
      ((I.createLockPaymentOrder background e).after CreationWrite.exec s)) ↔
      ∃ fields, I.accepted e = some fields ∧ ¬ Taken s fields ∧
        (s.createdLogs e.txHash e.orderId).length ≤ 1 := by
  constructor
  · intro h
    by_contra hnot
    refine not_storedOrRefunded hnew ?_ (h [])
    refine createLockPaymentOrder_after (S := fun t => t.lockOrders = s.lockOrders) [] hnew ?_
    cases hf : I.accepted e with
    | none =>
      obtain ⟨q, hq, hreads⟩ := checkAndStore_refused htoken hf
      exact hreads.leadsBeside covering (fun _ => rfl) fun t hst => hq.unchanged hst
    | some fields =>
      obtain ⟨hgateway, htx, -, -, hcheck⟩ := accepted_fields hf
      refine (checkAndStore_reads hf).leadsBeside covering (fun _ => rfl) fun t hst => ?_
      refine storeLockPaymentOrder_unchanged ?_ hst
      rw [hgateway, htx]
      by_contra hstored
      obtain ⟨hlogs, hsave⟩ := not_or.1 hstored
      refine hnot ⟨fields, hf, fun htaken => hsave fun u hsu => ?_, not_lt.1 hlogs⟩
      exact ⟨_, by rw [save_create hcheck, if_pos ((taken_beside hsu).2 htaken)]⟩
  · rintro ⟨fields, hf, hfree, hlogs⟩ background
    obtain ⟨hgateway, htx, -⟩ := accepted_fields hf
    rw [← hgateway, ← htx] at hlogs
    have hended : Ended I fields s _ :=
      createLockPaymentOrder_after background hnew (checkAndStore_ended hf hfree hlogs)
    exact storedOrRefunded_of_ended hf hnew hended

theorem storedOrRefunded_accepted_event :
    StoredOrRefunded Sample.indexer (Sample.createdEvent "0x1" "g1" "m1") .empty
      ((Sample.indexer.createLockPaymentOrder [1, 0, 1] (Sample.createdEvent "0x1" "g1" "m1")).after
        CreationWrite.exec .empty) := by
  have hfound : Sample.indexer.findToken "0xtoken" = .ok Sample.token := by decide +kernel
  obtain ⟨fields, hf⟩ : ∃ fields,
      Sample.indexer.accepted (Sample.createdEvent "0x1" "g1" "m1") = some fields :=
    Option.isSome_iff_exists.1 (by decide +kernel)
  refine (storedOrRefunded_iff_accepted _ _ _ hfound rfl).2 ⟨fields, hf, ?_, by decide⟩ _
  exact List.not_mem_nil

theorem undecryptable_event_lost :
    ({ Sample.indexer with recipient := fun _ => none }.findToken "0xtoken" = .ok Sample.token) ∧
      ¬ StoredOrRefunded { Sample.indexer with recipient := fun _ => none }
        (Sample.createdEvent "0x1" "g1" "m1") .empty
        (({ Sample.indexer with recipient := fun _ => none }.createLockPaymentOrder []
          (Sample.createdEvent "0x1" "g1" "m1")).after CreationWrite.exec .empty) := by
  refine ⟨by decide +kernel, not_storedOrRefunded rfl ?_⟩
  decide +kernel

end Main

end Stablenode.RejectedOrders
