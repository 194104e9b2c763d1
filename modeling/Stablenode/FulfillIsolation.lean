import Stablenode.ProviderIsolation

/-! `FulfillOrder` against the rows of other providers. -/
namespace Stablenode

open BalanceManagement Proc Run

namespace ProviderIsolation

variable {conf : OrderConfig}

section Fulfill

variable {s t : Store} {p : String} {payload : FulfillLockOrderPayload} {order : ℕ} {f : LockOrderFulfillment}
  {o : LockPaymentOrder}

lemma get_none_of_created
    (hnone : only (s.fulfillments.select fun f => f.txId = payload.txId) = .error .notFound)
    (hhas : s.hasLockOrder order = true)
    (hf : only (((OrderWrite.createFulfillment order payload.txId payload.psp .pending "").exec
      s).fulfillments.select fun f => f.txId = payload.txId) = .ok f) :
    s.fulfillments.get f.id = none := by
  have hmem : f ∈ ((OrderWrite.createFulfillment order payload.txId payload.psp .pending "").exec
      s).fulfillments.select fun f => f.txId = payload.txId := by
    rw [only_eq_ok_iff.1 hf]
    simp
  obtain ⟨hrow, htx⟩ := List.mem_filter.1 hmem
  simp only [OrderWrite.exec, hhas, if_true] at hrow
  rw [Table.insert_rows s.fulfillments.get_fresh, List.mem_append, List.mem_singleton] at hrow
  rcases hrow with hrow | rfl
  · have hold : f ∈ s.fulfillments.select fun f => f.txId = payload.txId :=
      List.mem_filter.2 ⟨hrow, htx⟩
    rw [only_eq_notFound_iff.1 hnone] at hold
    cases hold
  · exact s.fulfillments.get_fresh

lemma fulfillWith_uses_none (hf : s.fulfillments.get f.id = none) (hu : UpdatesMine p order s) :
    Uses (MyLabel s p) (fulfillWith order payload f o none) := by
  unfold fulfillWith
  cases payload.validationStatus with
  | success =>
    dsimp only
    split_ifs
    · trivial
    · refine uses_attempt (.other rfl rfl rfl) trivial fun s' => ?_
      split_ifs <;> trivial
  | failed =>
    refine uses_attempt (.setFulfillment (by simp [hf]) _ _) trivial fun s' => ?_
    split_ifs
    · exact uses_attempt (.fulfillUpdate hu _) trivial fun _ => trivial
    · trivial
  | pending =>
    exact uses_attempt (.other rfl rfl rfl) trivial fun s' =>
      uses_attempt (.fulfillUpdate hu _) trivial fun _ => trivial

lemma fulfillWith_safe_success (hstatus : payload.validationStatus = .success)
    (hget : s.fulfillments.get f.id = some f) (ho : s.lockOrders.get f.order = some o)
    (h : o.status ≠ .validated → ∀ e ∈ o.edges,
      (∃ b ∈ s.balance e.1 e.2.currency, AcceptsRelease b o.fiat) →
        e.1 = p ∧ (s.hasLockOrder order = true → s.isMine p order = true)) :
    Safe OrderWrite.exec (KeepsOthers p s) (fulfillWith order payload f o o.edges) s := by
  unfold fulfillWith
  rw [hstatus]
  dsimp only
  split_ifs with hvalidated
  · trivial
  have hhas : s.hasFulfillment f.id = true := by simp [Store.hasFulfillment, hget]
  refine ⟨isolated_refl p s, ?_, trivial⟩
  simp only [OrderWrite.exec_read, hhas, not_true_eq_false, if_false]
  cases hedges : o.edges with
  | none => trivial
  | some e =>
    obtain ⟨q, bucket⟩ := e
    refine ⟨isolated_refl p s, ?_, trivial⟩
    simp only [OrderWrite.exec_read]
    cases hb : s.balance q bucket.currency with
    | none => trivial
    | some b =>
      by_cases ha : AcceptsRelease b o.fiat
      · obtain ⟨rfl, hmine⟩ := h hvalidated (q, bucket) hedges ⟨b, hb, ha⟩
        have hown : ∀ g, s.fulfillments.get f.id = some g → s.isMine q g.order = true := by
          intro g hg
          obtain rfl := Option.some.inj (hg.symm.trans hget)
          have hq : o.provider = some q := by
            obtain ⟨q', hq', hrest⟩ := Option.bind_eq_some_iff.1 hedges
            obtain ⟨bucket', -, heq⟩ := Option.map_eq_some_iff.1 hrest
            rw [hq', (Prod.mk.inj heq).1]
          simp [Store.isMine, ho, hq]
        simp only [releaseInTx_eq, ha, if_true]
        refine safe_of_uses (uses_attempt (.validateCommit hmine hown _ _ _) trivial fun s' => ?_)
          (isolated_refl q s)
        split_ifs
        · exact uses_bind (markPaymentOrderValidated_uses _) fun _ =>
            uses_ignore (.other rfl rfl rfl) trivial
        · trivial
      · simp [releaseInTx_eq, ha, apiError]

lemma fulfillWith_safe_failed (hstatus : payload.validationStatus = .failed)
    (hget : s.fulfillments.get f.id = some f) (hmine : s.isMine p f.order = true)
    (hu : UpdatesMine p order s)
    (h : ∀ e ∈ o.edges,
      (∃ b ∈ s.balance e.1 e.2.currency, Consistent b ∧ AcceptsRelease b o.fiat) → e.1 = p) :
    Safe OrderWrite.exec (KeepsOthers p s) (fulfillWith order payload f o o.edges) s := by
  have hown : ∀ g, s.fulfillments.get f.id = some g → s.isMine p g.order = true := by
    intro g hg
    obtain rfl := Option.some.inj (hg.symm.trans hget)
    exact hmine
  have hset : MyLabel s p (.setFulfillment f.id .failed (some payload.validationError)) :=
    .setFulfillment hown _ _
  have hupdate : MyLabel s p (.fulfillUpdate order none) := .fulfillUpdate hu _
  have hhas : s.hasFulfillment f.id = true := by simp [Store.hasFulfillment, hget]
  have hfirst := hset.isolated (isolated_refl p s)
  have hsecond := hupdate.isolated hfirst
  unfold fulfillWith
  rw [hstatus]
  refine ⟨hfirst, ?_, trivial⟩
  simp only [hhas, not_true_eq_false, if_false]
  refine ⟨hsecond, ?_, trivial⟩
  cases hedges : o.edges with
  | none => trivial
  | some e =>
    exact safe_bind_iff.2
      ⟨releaseReservedBalance_safe hsecond (h e hedges), fun _ _ _ => trivial⟩

theorem fulfillOrder_safe (param : Option ℕ)
    (h : Request.ReachesMine p (.fulfill payload param) s) :
    Safe OrderWrite.exec (KeepsOthers p s) (fulfillOrder payload param) s := by
  unfold fulfillOrder
  split_ifs with hpayload
  · trivial
  cases param with
  | none => trivial
  | some order =>
    rw [not_or] at hpayload
    have hmine : FulfillsMine p payload order s :=
      (h.resolve_left hpayload.1).resolve_left hpayload.2
    rw [FulfillsMine] at hmine
    refine ⟨isolated_refl p s, ?_, trivial⟩
    simp only [OrderWrite.exec_read]
    split
    · trivial
    · rename_i hnone
      rw [hnone] at hmine
      have hcreate : MyLabel s p (.createFulfillment order payload.txId payload.psp .pending "") :=
        .createFulfillment hmine _ _ _ _
      have hu : UpdatesMine p order s :=
        fun o ho _ => hmine (by rw [Store.hasLockOrder, Option.mem_def.1 ho]; rfl)
      have hafter := hcreate.isolated (isolated_refl p s)
      refine ⟨hafter, ?_, trivial⟩
      by_cases hhas : s.hasLockOrder order = true
      · simp only [hhas, not_true_eq_false, if_false]
        refine ⟨hafter, ?_, trivial⟩
        simp only [OrderWrite.exec_read]
        split
        · trivial
        rename_i f hf
        have hfresh := get_none_of_created hnone hhas hf
        split
        · trivial
        · exact safe_of_uses (fulfillWith_uses_none hfresh hu) hafter
      · simp [hhas, apiError]
    · rename_i f hf
      rw [hf] at hmine
      have hmem : f ∈ s.fulfillments.select fun f => f.txId = payload.txId := by
        rw [only_eq_ok_iff.1 hf]
        simp
      have hget : s.fulfillments.get f.id = some f := Table.get_of_mem (List.mem_filter.1 hmem).1
      cases ho : s.lockOrders.get f.order with
      | none => trivial
      | some o =>
        have hmine := hmine o ho
        cases hstatus : payload.validationStatus with
        | success =>
          rw [hstatus] at hmine
          exact fulfillWith_safe_success hstatus hget ho hmine
        | failed =>
          rw [hstatus] at hmine
          exact fulfillWith_safe_failed hstatus hget hmine.1 hmine.2.1 hmine.2.2
        | pending =>
          rw [hstatus] at hmine
          refine safe_of_uses ?_ (isolated_refl p s)
          unfold fulfillWith
          rw [hstatus]
          exact uses_attempt (.other rfl rfl rfl) trivial fun s' =>
            uses_attempt (.fulfillUpdate hmine _) trivial fun _ => trivial

lemma isMine_of_updated {id : ℕ} {o' : LockPaymentOrder} (h : Isolated p s t)
    (hs : s.lockOrders.get id = some o) (ht : t.lockOrders.get id = some o')
    (hne : o'.updatedAt ≠ o.updatedAt) : s.isMine p id = true := by
  by_contra hmine
  have heq := h.order id (by simpa using hmine)
  rw [ht, hs] at heq
  exact hne (congrArg LockPaymentOrder.updatedAt (Option.some.inj heq))

variable {q currency : String}

lemma eq_provider_of_updated {r r' : ProviderCurrency} (h : Isolated p s t)
    (hs : s.balances.get (q, currency) = some r) (ht : t.balances.get (q, currency) = some r')
    (hne : r'.updatedAt ≠ r.updatedAt) : q = p := by
  by_contra hq
  have heq := h.balance q currency hq
  rw [ht, hs] at heq
  exact hne (congrArg ProviderCurrency.updatedAt (Option.some.inj heq))

lemma isMine_of_fulfillmentUpdated {f' : LockOrderFulfillment} (h : Isolated p s t)
    (hs : s.fulfillments.get f.id = some f) (ht : t.fulfillments.get f.id = some f')
    (hne : f'.updatedAt ≠ f.updatedAt) : s.isMine p f.order = true := by
  by_contra hmine
  have heq := (h.fulfillment f.order (by simpa using hmine) f.id f rfl).2 hs
  rw [ht] at heq
  exact hne (congrArg LockOrderFulfillment.updatedAt (Option.some.inj heq))

lemma isMine_of_created {txId psp error : String} {status : ValidationStatus}
    (h : Isolated p s ((OrderWrite.createFulfillment order txId psp status error).exec s))
    (hhas : s.hasLockOrder order = true) : s.isMine p order = true := by
  by_contra hmine
  have hsame := h.fulfillment order (by simpa using hmine) s.fulfillments.fresh
    ⟨s.fulfillments.fresh, txId, psp, status, error, order, s.now⟩ rfl
  simp only [OrderWrite.exec, hhas, if_true] at hsame
  have hnone := s.fulfillments.get_fresh
  have hnew := Table.get_insert_self (t := s.fulfillments)
    (a := ⟨s.fulfillments.fresh, txId, psp, status, error, order, s.now⟩) hnone
  have := hsame.1 hnew
  rw [hnone] at this
  cases this

lemma updatesMine_of_isolated {log : Option ℕ} {u : ℕ → Store}
    (hu : ∀ now, (u now).lockOrders = s.lockOrders ∧ (u now).now = now)
    (h : ∀ now, Isolated p (s.atTime now) ((OrderWrite.fulfillUpdate order log).exec (u now))) :
    UpdatesMine p order s := by
  intro o ho hstatus
  have hnew : ((OrderWrite.fulfillUpdate order log).exec (u (o.updatedAt + 1))).lockOrders.get order =
      some { o with status := .fulfilled, updatedAt := o.updatedAt + 1 } := by
    rw [OrderWrite.exec_getLockOrder, (hu _).1, Option.mem_def.1 ho]
    simp [OrderWrite.changeOrder, Table.get_key ho, hstatus, (hu _).2]
  have hmine : (s.atTime (o.updatedAt + 1)).isMine p order = true :=
    isMine_of_updated (h _) ho hnew (by simp)
  exact hmine

lemma eq_provider_of_isolated {b : Balance} {w : ℕ → Store} (hrow : (s.balance q currency).isSome)
    (hw : ∀ now, (w now).balances = ((s.atTime now).setFunds q currency b).balances)
    (h : ∀ now, Isolated p (s.atTime now) (w now)) : q = p := by
  obtain ⟨r, hr⟩ := Option.isSome_iff_exists.1 (Option.isSome_map ▸ hrow)
  have hnew : (w (r.updatedAt + 1)).balances.get (q, currency) =
      some { r with
        balance := ⟨b.available, b.reserved, r.balance.total⟩, updatedAt := r.updatedAt + 1 } := by
    rw [hw]
    simp only [Store.setFunds, Table.get_modify_self]
    rw [show (s.atTime (r.updatedAt + 1)).balances.get (q, currency) = some r from hr]
    rfl
  exact eq_provider_of_updated (h (r.updatedAt + 1)) hr hnew (by simp)

section Necessary

variable (hget : s.fulfillments.get f.id = some f)
  (h : ∀ now, Safe OrderWrite.exec (KeepsOthers p (s.atTime now))
    (fulfillWith order payload f o o.edges) (s.atTime now))

include hget h

lemma mine_of_safe_success (hstatus : payload.validationStatus = .success)
    (hvalidated : o.status ≠ .validated) {bucket : ProvisionBucket}
    (hedges : o.edges = some (q, bucket)) {b : Balance} (hb : s.balance q bucket.currency = some b)
    (ha : AcceptsRelease b o.fiat) :
    q = p ∧ (s.hasLockOrder order = true → s.isMine p order = true) := by
  have hhas : ∀ now, (s.atTime now).hasFulfillment f.id = true := by
    intro now
    rw [Store.hasFulfillment]
    exact Option.isSome_iff_exists.2 ⟨f, hget⟩
  have hcommit : ∀ now, Isolated p (s.atTime now)
      ((OrderWrite.validateCommit order f.id o.token.network q bucket.currency
        (afterRelease b o.fiat)).exec (s.atTime now)) := by
    intro now
    have hsafe := h now
    unfold fulfillWith at hsafe
    rw [hstatus] at hsafe
    dsimp only at hsafe
    rw [if_neg hvalidated] at hsafe
    have hsafe := hsafe.2.1
    simp only [OrderWrite.exec_read, hhas now, not_true_eq_false, if_false, hedges] at hsafe
    have hsafe := hsafe.2.1
    have hb' : (s.atTime now).balance q bucket.currency = some b := hb
    simp only [OrderWrite.exec_read, hb', releaseInTx_eq, ha, if_true] at hsafe
    exact hsafe.1
  constructor
  · refine eq_provider_of_isolated (b := afterRelease b o.fiat) (by rw [hb]; rfl) (fun now => ?_)
      hcommit
    simp only [OrderWrite.exec, hhas now, if_true]
    rfl
  intro hstored
  obtain ⟨o', ho'⟩ := Option.isSome_iff_exists.1 hstored
  have hnew : ((OrderWrite.validateCommit order f.id o.token.network q bucket.currency
      (afterRelease b o.fiat)).exec (s.atTime (o'.updatedAt + 1))).lockOrders.get order =
      some { o' with status := .validated, updatedAt := o'.updatedAt + 1 } := by
    rw [OrderWrite.exec_getLockOrder,
      show (s.atTime (o'.updatedAt + 1)).lockOrders.get order = some o' from ho']
    simp [OrderWrite.changeOrder, Table.get_key ho', hhas]
  have hmine : (s.atTime (o'.updatedAt + 1)).isMine p order = true :=
    isMine_of_updated (hcommit _) ho' hnew (by simp)
  exact hmine

lemma mine_of_safe_failed (hstatus : payload.validationStatus = .failed) :
    s.isMine p f.order = true ∧ UpdatesMine p order s ∧ ∀ e ∈ o.edges,
      (∃ b ∈ s.balance e.1 e.2.currency, Consistent b ∧ AcceptsRelease b o.fiat) → e.1 = p := by
  have hhas : ∀ now, (s.atTime now).hasFulfillment f.id = true := by
    intro now
    rw [Store.hasFulfillment]
    exact Option.isSome_iff_exists.2 ⟨f, hget⟩
  let first (now : ℕ) : Store :=
    (OrderWrite.setFulfillment f.id .failed (some payload.validationError)).exec (s.atTime now)
  let second (now : ℕ) : Store := (OrderWrite.fulfillUpdate order none).exec (first now)
  have hsteps : ∀ now, Isolated p (s.atTime now) (first now) ∧
      Isolated p (s.atTime now) (second now) ∧
      ∀ e ∈ o.edges, Safe OrderWrite.exec (KeepsOthers p (s.atTime now))
        (releaseReservedBalance e.1 e.2.currency o.fiat) (second now) := by
    intro now
    have hsafe := h now
    unfold fulfillWith at hsafe
    rw [hstatus] at hsafe
    refine ⟨hsafe.1, ?_⟩
    have hsafe := hsafe.2.1
    simp only [hhas now, not_true_eq_false, if_false] at hsafe
    refine ⟨hsafe.1, fun e he => ?_⟩
    have hsafe := hsafe.2.1
    rw [Option.mem_def.1 he] at hsafe
    exact (safe_bind_iff.1 hsafe).1
  refine ⟨?_, ?_, fun e he hrelease => ?_⟩
  · have hnew : (first (f.updatedAt + 1)).fulfillments.get f.id = some { f with
        validationStatus := .failed
        validationError := payload.validationError
        updatedAt := f.updatedAt + 1 } := by
      simp only [first, OrderWrite.exec, Table.get_modify_self]
      rw [show (s.atTime (f.updatedAt + 1)).fulfillments.get f.id = some f from hget]
      rfl
    have hmine : (s.atTime (f.updatedAt + 1)).isMine p f.order = true :=
      isMine_of_fulfillmentUpdated (hsteps _).1 hget hnew (by simp)
    exact hmine
  · exact updatesMine_of_isolated (u := first) (fun now => ⟨rfl, rfl⟩) fun now => (hsteps now).2.1
  obtain ⟨b, hb, hc, ha⟩ := hrelease
  have hbalances : ∀ now, (second now).balances = s.balances := fun now =>
    OrderWrite.exec_balances rfl _
  refine eq_provider_of_isolated (b := afterRelease b o.fiat)
    (w := fun now => (second now).setFunds e.1 e.2.currency (afterRelease b o.fiat))
    (by rw [Option.mem_def.1 hb]; rfl) (fun now => ?_) fun now => ?_
  · have hnow : (second now).now = now := by
      simp only [second, OrderWrite.exec]
      obtain ⟨logs, hl⟩ := Store.linkLog_frame (first now) none fun o =>
        o.id = order ∧ (o.status = .processing ∨ o.status = .fulfilled)
      rw [hl]
      rfl
    simp only [Store.setFunds, hbalances, hnow, Store.atTime_now]
    rfl
  · have hsafe := (hsteps now).2.2 e he
    have hrow : (second now).balance e.1 e.2.currency = some b := by
      rw [Store.balance, hbalances]
      exact hb
    unfold releaseReservedBalance at hsafe
    have hsafe := hsafe.2.1
    simp only [OrderWrite.exec_read, hrow, validateAndFixBalances_consistent hc] at hsafe
    have hsafe := hsafe.2.1
    simp only [OrderWrite.exec_read, hrow, releaseInTx_eq, ha, if_true] at hsafe
    exact hsafe.1

omit hget in
lemma mine_of_safe_pending (hstatus : payload.validationStatus = .pending) :
    UpdatesMine p order s := by
  let first (now : ℕ) : Store :=
    (OrderWrite.createLog .orderFulfilled o.token.network).exec (s.atTime now)
  have hupdate : ∀ now, Isolated p (s.atTime now)
      ((OrderWrite.fulfillUpdate order (some s.transactionLogs.fresh)).exec (first now)) := by
    intro now
    have hsafe := h now
    unfold fulfillWith at hsafe
    rw [hstatus] at hsafe
    exact hsafe.2.1.1
  exact updatesMine_of_isolated (u := first) (fun now => ⟨rfl, rfl⟩) hupdate

end Necessary

theorem fulfillsMine_of_safe (hpayload : ¬ (payload.psp = "" ∨ payload.txId = ""))
    (h : ∀ now, Safe OrderWrite.exec (KeepsOthers p (s.atTime now))
      (fulfillOrder payload (some order)) (s.atTime now)) : FulfillsMine p payload order s := by
  have hquery : ∀ now, (s.atTime now).fulfillments = s.fulfillments := fun _ => rfl
  have horders : ∀ now, (s.atTime now).lockOrders = s.lockOrders := fun _ => rfl
  simp only [fulfillOrder, hpayload, if_false] at h
  rw [FulfillsMine]
  split
  · trivial
  · rename_i hnone
    intro hhas
    have hsafe := (h 0).2.1
    simp only [OrderWrite.exec_read, hquery, hnone] at hsafe
    have hmine : (s.atTime 0).isMine p order = true := isMine_of_created hsafe.1 hhas
    exact hmine
  · rename_i f hf
    intro o ho
    have hwith : ∀ now, Safe OrderWrite.exec (KeepsOthers p (s.atTime now))
        (fulfillWith order payload f o o.edges) (s.atTime now) := by
      intro now
      have hsafe := (h now).2.1
      simp only [OrderWrite.exec_read, hquery, hf, horders, Option.mem_def.1 ho] at hsafe
      exact hsafe
    have hmem : f ∈ s.fulfillments.select fun f => f.txId = payload.txId := by
      rw [only_eq_ok_iff.1 hf]
      simp
    have hget : s.fulfillments.get f.id = some f := Table.get_of_mem (List.mem_filter.1 hmem).1
    cases hstatus : payload.validationStatus with
    | success =>
      rintro hvalidated ⟨q, bucket⟩ hedges ⟨b, hb, ha⟩
      exact mine_of_safe_success hget hwith hstatus hvalidated hedges hb ha
    | failed => exact mine_of_safe_failed hget hwith hstatus
    | pending => exact mine_of_safe_pending hwith hstatus

end Fulfill

theorem isolated_iff_reachesMine (provider : ProviderProfile) (request : Request) (s : Store) :
    (∀ now faults, Always OrderWrite.exec (Isolated provider.id (s.atTime now)) (s.atTime now)
      ((request.program conf provider).history OrderWrite.exec faults (s.atTime now))) ↔
        request.ReachesMine provider.id s := by
  have hsafe : ∀ now, (∀ faults, Always OrderWrite.exec (Isolated provider.id (s.atTime now))
      (s.atTime now) ((request.program conf provider).history OrderWrite.exec faults
        (s.atTime now))) ↔
      Safe OrderWrite.exec (KeepsOthers provider.id (s.atTime now)) (request.program conf provider)
        (s.atTime now) := by
    intro now
    rw [safe_iff_forall_faults]
    refine forall_congr' fun faults => ?_
    rw [always_iff_admitted_next]
    exact and_iff_right (isolated_refl _ _)
  simp only [hsafe]
  cases request with
  | accept param => exact ⟨fun _ => trivial, fun _ now => acceptOrder_safe param⟩
  | decline param => exact ⟨fun _ => trivial, fun _ now => declineOrder_safe param⟩
  | cancel fuel reason param =>
    exact ⟨fun _ => trivial, fun _ now => cancelOrder_safe fuel reason param⟩
  | fulfill payload param =>
    cases param with
    | none => exact ⟨fun _ => trivial, fun _ now => fulfillOrder_safe none trivial⟩
    | some order =>
      -- the condition does not look at the clock
      refine ⟨fun h => ?_, fun h now => fulfillOrder_safe (some order) h⟩
      by_cases hpayload : payload.psp = "" ∨ payload.txId = ""
      · exact hpayload.imp_right Or.inl
      · exact Or.inr (Or.inr (fulfillsMine_of_safe hpayload h))

def twoProviders : Store :=
  { Sample.store with
    lockOrders := ⟨[Sample.lockOrder,
      { Sample.lockOrder with id := 2, gatewayId := "g2", provider := some "p2" }], by decide⟩
    fulfillments := .single (Sample.fulfillment 1 "t2" .pending 2)
    balances := Sample.balancesOf ⟨60, 40, 100⟩
    now := 9 }

def afterForeignFulfill : Store :=
  ((Request.fulfill ⟨"psp", "t2", .success, ""⟩ (some 2)).program {} Sample.provider).after
    OrderWrite.exec twoProviders

theorem fulfill_reaches_other_provider :
    twoProviders.isMine "p1" 2 = false ∧
      (twoProviders.lockOrders.get 2).map LockPaymentOrder.status = some .processing ∧
      (afterForeignFulfill.lockOrders.get 2).map LockPaymentOrder.status = some .validated ∧
      (twoProviders.fulfillments.get 1).map LockOrderFulfillment.validationStatus = some .pending ∧
      (afterForeignFulfill.fulfillments.get 1).map LockOrderFulfillment.validationStatus =
        some .success ∧
      twoProviders.balance "p2" "NGN" = some ⟨60, 40, 100⟩ ∧
      afterForeignFulfill.balance "p2" "NGN" = some ⟨100, 0, 100⟩ ∧
      ¬ Isolated "p1" twoProviders afterForeignFulfill := by
  refine ⟨by decide +kernel, by decide +kernel, by decide +kernel, by decide +kernel,
    by decide +kernel, by decide +kernel, by decide +kernel, fun h => ?_⟩
  have hsame := h.order 2 (by decide +kernel)
  revert hsame
  decide +kernel

end ProviderIsolation

end Stablenode
