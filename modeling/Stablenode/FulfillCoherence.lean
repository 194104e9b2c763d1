import Stablenode.ProgramLabels

/-! `FulfillOrder` looks the fulfilment up by its transaction id and takes the order from the path:
when what it writes belongs to that order. -/
namespace Stablenode

open BalanceManagement Proc Run

namespace FulfillCoherence

def Succeeds : Reply → Prop
  | .response _ status _ _ => status = "success"
  | .panicked => False

def WritesFor (o : LockPaymentOrder) : OrderWrite → Store → Prop
  | .fulfillUpdate order _, _ => order = o.id
  | .setFulfillment f _ _, s => ∀ g ∈ s.fulfillments.get f, g.order = o.id
  | .releaseCommit provider currency _, _ =>
    ∃ e ∈ o.edges, e.1 = provider ∧ e.2.currency = currency
  | .validateCommit order f _ provider currency _, s =>
    order = o.id ∧ (∀ g ∈ s.fulfillments.get f, g.order = o.id) ∧
      ∃ e ∈ o.edges, e.1 = provider ∧ e.2.currency = currency
  | .setPaymentOrderStatus id _, s => ∀ p ∈ s.paymentOrders.get id, p.messageHash = some o.messageHash
  | _, _ => True

def Confirms (payload : FulfillLockOrderPayload) (reply : Reply) : Prop :=
  payload.validationStatus ≠ .pending ∧ Succeeds reply

def Coherent (payload : FulfillLockOrderPayload) (o : LockPaymentOrder) (faults : List Bool)
    (s : Store) : Prop :=
  AnswersWith OrderWrite.exec (· ≠ .panicked) (Confirms payload) (WritesFor o)
    (fulfillOrder payload (some o.id)) faults s

variable {s : Store} {payload : FulfillLockOrderPayload} {f : LockOrderFulfillment}
  {o : LockPaymentOrder} {e : String × ProvisionBucket}

lemma markPaymentOrderValidated_writesFor :
    Safe OrderWrite.exec (WritesFor o) (markPaymentOrderValidated o.messageHash) s := by
  refine ⟨trivial, ?_, trivial⟩
  simp only [OrderWrite.exec_read]
  split
  · trivial
  next paymentOrder hpayment =>
    have hmem : paymentOrder ∈ s.paymentOrders.select fun p => p.messageHash = some o.messageHash := by
      rw [only_eq_ok_iff.1 hpayment]
      exact List.mem_singleton_self _
    obtain ⟨hrow, hhash⟩ := List.mem_filter.1 hmem
    refine ⟨fun p hp => ?_, ⟨trivial, trivial, trivial⟩, ⟨trivial, trivial, trivial⟩⟩
    obtain rfl := Option.some.inj ((Table.get_of_mem hrow).symm.trans hp)
    exact of_decide_eq_true hhash

lemma releaseReservedBalance_writesFor (he : o.edges = some e) (amount : ℚ) :
    Uses (fun w => ∀ s, WritesFor o w s)
      (Stablenode.releaseReservedBalance e.1 e.2.currency amount) :=
  releaseReservedBalance_uses (fun _ => trivial) (fun _ _ => ⟨e, he, rfl, rfl⟩) amount

lemma fulfillWith_returns (order : ℕ) (payload : FulfillLockOrderPayload) (f : LockOrderFulfillment)
    (g : LockPaymentOrder) (e : String × ProvisionBucket) :
    Returns (· ≠ .panicked) (fulfillWith order payload f g (some e)) := by
  have hreply : ∀ code status message, Returns (ℓ := OrderWrite) (σ := Store) (· ≠ Reply.panicked)
      (ret (.response code status message none)) := fun _ _ _ => nofun
  unfold fulfillWith
  cases payload.validationStatus with
  | success =>
    dsimp only
    split
    · exact hreply _ _ _
    refine returns_attempt (hreply _ _ _) fun s => ?_
    split
    · exact hreply _ _ _
    refine returns_attempt (hreply _ _ _) fun s => ?_
    split
    · exact hreply _ _ _
    split
    · exact hreply _ _ _
    refine returns_attempt (hreply _ _ _) fun s => ?_
    split
    · exact hreply _ _ _
    · exact returns_bind fun _ _ => hreply _ _ _
  | failed =>
    refine returns_attempt (hreply _ _ _) fun s => ?_
    split
    · exact hreply _ _ _
    · exact returns_attempt (hreply _ _ _) fun _ => returns_bind fun _ => hreply _ _ _
  | pending =>
    exact returns_attempt (hreply _ _ _) fun s => returns_attempt (hreply _ _ _) fun _ =>
      hreply _ _ _

lemma fulfillWith_writesFor (he : o.edges = some e) (hget : s.fulfillments.get f.id = some f)
    (hf : f.order = o.id) :
    Safe OrderWrite.exec (WritesFor o) (fulfillWith o.id payload f o (some e)) s := by
  have hown : ∀ g ∈ s.fulfillments.get f.id, g.order = o.id := by
    intro g hg
    obtain rfl := Option.some.inj (hget.symm.trans hg)
    exact hf
  unfold fulfillWith
  cases payload.validationStatus with
  | success =>
    dsimp only
    split
    · trivial
    refine ⟨trivial, ?_, trivial⟩
    simp only [OrderWrite.exec_read]
    split
    · trivial
    refine ⟨trivial, ?_, trivial⟩
    simp only [OrderWrite.exec_read]
    split
    · trivial
    split
    · trivial
    refine ⟨⟨rfl, hown, e, he, rfl, rfl⟩, ?_, trivial⟩
    dsimp only
    split
    · trivial
    · exact safe_bind_iff.2 ⟨markPaymentOrderValidated_writesFor, fun _ _ _ =>
        ⟨trivial, trivial, trivial⟩⟩
  | failed =>
    refine ⟨hown, ?_, trivial⟩
    dsimp only
    split
    · trivial
    refine ⟨rfl, ?_, trivial⟩
    refine safe_bind_iff.2 ⟨?_, fun _ _ _ => trivial⟩
    exact (releaseReservedBalance_writesFor he o.fiat).safe (I := fun _ => True)
      (fun _ t hw _ => hw t) (fun _ _ _ _ => trivial) trivial
  | pending => exact ⟨trivial, ⟨rfl, trivial, trivial⟩, trivial⟩

def StaysWithin (payload : FulfillLockOrderPayload) (o : LockPaymentOrder) (faults : List Bool)
    (s : Store) : Prop :=
  payload.psp = "" ∨ payload.txId = "" ∨ ¬ failsAt faults 0 ∧
    match only (s.fulfillments.select fun f => f.txId = payload.txId) with
    | .error .notSingular => False
    | .error .notFound =>
      failsAt faults 1 ∨ ¬ failsAt faults 2 ∧
        match payload.validationStatus with
        | .success => o.status = .validated ∨ failsAt faults 3
        | .failed => failsAt faults 3 ∨ failsAt faults 4
        | .pending => True
    | .ok f =>
      f.order = o.id ∨ ∃ g ∈ s.lockOrders.get f.order,
        match payload.validationStatus with
        | .success =>
          g.status = .validated ∨ failsAt faults 1 ∨ ∃ e ∈ g.edges, failsAt faults 2 ∨
            failsAt faults 3 ∨ ¬ ∃ b ∈ s.balance e.1 e.2.currency, AcceptsRelease b g.fiat
        | .failed => failsAt faults 1 ∨ failsAt faults 2
        | .pending => True

section Cases

variable {g : LockPaymentOrder} {faults : List Bool}

lemma foreign_success_iff (hstatus : payload.validationStatus = .success)
    (hget : s.fulfillments.get f.id = some f) (hf : f.order ≠ o.id) :
    AnswersWith OrderWrite.exec (· ≠ .panicked) (Confirms payload) (WritesFor o)
        (fulfillWith o.id payload f g g.edges) faults s ↔
      g.status = .validated ∨ failsAt faults 0 ∨ ∃ e ∈ g.edges, failsAt faults 1 ∨
        failsAt faults 2 ∨ ¬ ∃ b ∈ s.balance e.1 e.2.currency, AcceptsRelease b g.fiat := by
  have hhas : s.hasFulfillment f.id = true := by simp [Store.hasFulfillment, hget]
  unfold fulfillWith
  rw [hstatus]
  dsimp only
  by_cases hvalidated : g.status = .validated
  · simp [hvalidated, apiSuccess]
  rw [if_neg hvalidated, answersWith_attempt trivial]
  by_cases hbegin : failsAt faults 0
  · simp [hbegin, apiError]
  simp only [OrderWrite.exec_read, hbegin, if_false, hhas, not_true_eq_false, hvalidated, false_or]
  cases g.edges with
  | none => simp
  | some e =>
    simp only [Option.mem_some_iff, exists_eq_left']
    rw [answersWith_attempt trivial]
    by_cases hread : failsAt faults 1
    · simp [hread, apiError]
    simp only [OrderWrite.exec_read, failsAt_tail, zero_add, hread, if_false, false_or]
    cases s.balance e.1 e.2.currency with
    | none => simp [apiError]
    | some b =>
      by_cases haccepts : AcceptsRelease b g.fiat
      · have hforeign : ¬ WritesFor o (.validateCommit o.id f.id g.token.network e.1 e.2.currency
            (afterRelease b g.fiat)) s := fun h => hf (h.2.1 f hget)
        have hdone : Returns (Confirms payload)
            ((markPaymentOrderValidated g.messageHash).bind fun _ =>
              ignore (OrderWrite.call (.settleOrder o.id))
                (apiSuccess 200 "Order fulfilled successfully")) :=
          returns_bind fun _ _ => ⟨by simp [hstatus], rfl⟩
        simp only [releaseInTx_eq, haccepts, if_true]
        rw [answersWith_attempt_of_not hforeign]
        simp only [hhas, not_true_eq_false, if_false, hdone.result, and_false]
        simp [haccepts, apiError]
      · simp [releaseInTx_eq, haccepts, apiError]

lemma foreign_failed_iff (hstatus : payload.validationStatus = .failed)
    (hget : s.fulfillments.get f.id = some f) (hf : f.order ≠ o.id) :
    AnswersWith OrderWrite.exec (· ≠ .panicked) (Confirms payload) (WritesFor o)
        (fulfillWith o.id payload f g g.edges) faults s ↔
      failsAt faults 0 ∨ failsAt faults 1 := by
  have hhas : s.hasFulfillment f.id = true := by simp [Store.hasFulfillment, hget]
  have hforeign : ¬ WritesFor o (.setFulfillment f.id .failed (some payload.validationError)) s :=
    fun h => hf (h f hget)
  unfold fulfillWith
  rw [hstatus]
  dsimp only
  rw [answersWith_attempt_of_not hforeign]
  simp only [hhas, not_true_eq_false, if_false, result_attempt_faults, failsAt_tail, zero_add]
  by_cases hset : failsAt faults 0
  · simp [hset, apiError]
  by_cases hupdate : failsAt faults 1
  · simp [hset, hupdate, apiError, Confirms, Succeeds]
  simp only [hset, hupdate, if_false, or_self, iff_false]
  cases g.edges with
  | none => simp
  | some e =>
    have hdone : Returns (Confirms payload)
        ((Stablenode.releaseReservedBalance e.1 e.2.currency g.fiat).bind fun _ =>
          apiSuccess 200 "Order fulfilled successfully") :=
      returns_bind fun _ => ⟨by simp [hstatus], rfl⟩
    exact fun h => h.2 (hdone.result _ _)

lemma pending_answersWith (hstatus : payload.validationStatus = .pending)
    (edges : Option (String × ProvisionBucket)) :
    AnswersWith OrderWrite.exec (· ≠ .panicked) (Confirms payload) (WritesFor o)
      (fulfillWith o.id payload f g edges) faults s := by
  have hreturns : Returns (· ≠ .panicked) (fulfillWith o.id payload f g edges) := by
    unfold fulfillWith
    rw [hstatus]
    exact returns_attempt nofun fun _ => returns_attempt nofun fun _ => nofun
  exact ⟨hreturns.result faults s, fun h => absurd hstatus h.1⟩

lemma created_success_iff (hstatus : payload.validationStatus = .success)
    (hhas : s.hasFulfillment f.id = true) :
    AnswersWith OrderWrite.exec (· ≠ .panicked) (Confirms payload) (WritesFor o)
        (fulfillWith o.id payload f o none) faults s ↔
      o.status = .validated ∨ failsAt faults 0 := by
  unfold fulfillWith
  rw [hstatus]
  dsimp only
  by_cases hvalidated : o.status = .validated
  · simp [hvalidated, apiSuccess]
  rw [if_neg hvalidated, answersWith_attempt trivial]
  by_cases hbegin : failsAt faults 0 <;> simp [hbegin, hvalidated, hhas, apiError]

lemma created_failed_iff (hstatus : payload.validationStatus = .failed)
    (hget : s.fulfillments.get f.id = some f) (hf : f.order = o.id) :
    AnswersWith OrderWrite.exec (· ≠ .panicked) (Confirms payload) (WritesFor o)
        (fulfillWith o.id payload f o none) faults s ↔
      failsAt faults 0 ∨ failsAt faults 1 := by
  have hhas : s.hasFulfillment f.id = true := by simp [Store.hasFulfillment, hget]
  have hown : WritesFor o (.setFulfillment f.id .failed (some payload.validationError)) s := by
    intro g hg
    obtain rfl := Option.some.inj (hget.symm.trans hg)
    exact hf
  unfold fulfillWith
  rw [hstatus]
  dsimp only
  rw [answersWith_attempt hown]
  by_cases hset : failsAt faults 0
  · simp [hset, apiError]
  simp only [hset, if_false, hhas, not_true_eq_false, false_or]
  rw [answersWith_attempt (show WritesFor o (.fulfillUpdate o.id none) _ from rfl)]
  by_cases hupdate : failsAt faults 1 <;> simp [hupdate, apiError]

lemma only_created (hhas : s.hasLockOrder o.id = true)
    (hnone : only (s.fulfillments.select fun f => f.txId = payload.txId) = .error .notFound) :
    let t := (OrderWrite.createFulfillment o.id payload.txId payload.psp .pending "").exec s
    ∃ f, only (t.fulfillments.select fun f => f.txId = payload.txId) = .ok f ∧ f.order = o.id ∧
      t.fulfillments.get f.id = some f ∧ t.lockOrders = s.lockOrders := by
  have hfresh := s.fulfillments.get_fresh
  simp only [OrderWrite.exec, hhas, if_true]
  refine ⟨⟨s.fulfillments.fresh, payload.txId, payload.psp, .pending, "", o.id, s.now⟩, ?_, rfl,
    Table.get_insert_self hfresh, trivial⟩
  rw [Table.select_insert hfresh, only_eq_notFound_iff.1 hnone]
  simp [only]

theorem coherent_iff_staysWithin (hget : s.lockOrders.get o.id = some o) (he : o.edges = some e) :
    Coherent payload o faults s ↔ StaysWithin payload o faults s := by
  have hhas : s.hasLockOrder o.id = true := by simp [Store.hasLockOrder, hget]
  unfold Coherent StaysWithin fulfillOrder
  by_cases hpayload : payload.psp = "" ∨ payload.txId = ""
  · rw [if_pos hpayload, ← or_assoc]
    exact iff_of_true (answersWith_ret.2 (by simp)) (.inl hpayload)
  rw [if_neg hpayload, ← or_assoc, or_iff_right hpayload]
  dsimp only
  rw [answersWith_attempt trivial]
  by_cases hquery : failsAt faults 0
  · simp [hquery]
  simp only [hquery, if_false, not_false_eq_true, true_and, OrderWrite.exec_read]
  cases hfind : only (s.fulfillments.select fun f => f.txId = payload.txId) with
  | error err =>
    cases err with
    | notSingular => simp
    | notFound =>
      dsimp only
      rw [answersWith_attempt trivial]
      by_cases hcreate : failsAt faults 1
      · simp [hcreate, apiError]
      obtain ⟨f, honly, hf, hrow, horders⟩ := @only_created s payload o hhas hfind
      simp only [hhas, not_true_eq_false, if_false, failsAt_tail, zero_add, hcreate, false_or]
      rw [answersWith_attempt trivial]
      by_cases hrequery : failsAt faults 2
      · simp [hrequery]
      simp only [OrderWrite.exec_read, honly, hf, horders, hget, failsAt_tail, zero_add,
        Nat.reduceAdd, hrequery, if_false, not_false_eq_true, true_and]
      cases hstatus : payload.validationStatus with
      | success =>
        rw [created_success_iff hstatus (by simp [Store.hasFulfillment, hrow])]
        simp
      | failed =>
        rw [created_failed_iff hstatus hrow hf]
        simp
      | pending => simpa using pending_answersWith hstatus none
  | ok f =>
    have hmem : f ∈ s.fulfillments.select fun f => f.txId = payload.txId := by
      rw [only_eq_ok_iff.1 hfind]
      exact List.mem_singleton_self _
    have hrow : s.fulfillments.get f.id = some f := Table.get_of_mem (List.mem_filter.1 hmem).1
    dsimp only
    by_cases hf : f.order = o.id
    · rw [hf, hget]
      dsimp only
      rw [he]
      exact iff_of_true ((fulfillWith_writesFor he hrow hf).answersWith
        ((fulfillWith_returns _ _ _ _ _).result _ _)) (.inl rfl)
    cases s.lockOrders.get f.order with
    | none => simp [hf]
    | some g =>
      simp only [hf, false_or, Option.mem_some_iff, exists_eq_left']
      cases hstatus : payload.validationStatus with
      | success =>
        rw [foreign_success_iff hstatus hrow hf]
        simp
      | failed =>
        rw [foreign_failed_iff hstatus hrow hf]
        simp
      | pending => simpa using pending_answersWith hstatus _

end Cases

section Samples

open Sample

def paidStore : Store :=
  { store with
    lockOrders := ⟨[lockOrder,
      { lockOrder with id := 2, gatewayId := "g2", messageHash := "m2", provider := some "p2" }],
      by decide⟩
    fulfillments := ⟨[fulfillment 1 "tx1" .pending 1, fulfillment 2 "tx2" .pending 2], by decide⟩
    balances := balancesOf ⟨60, 40, 100⟩ }

def paid (txId : String) : FulfillLockOrderPayload := ⟨"psp", txId, .success, ""⟩

theorem coherent_recorded_payment :
    Coherent (paid "tx1") lockOrder [] paidStore ∧
      (fulfillOrder (paid "tx1") (some 1)).result OrderWrite.exec [] paidStore =
        .response 200 "success" "Order fulfilled successfully" none :=
  ⟨(coherent_iff_staysWithin (e := ("p1", bucket)) (by decide +kernel) rfl).2
    (.inr (.inr ⟨by decide, .inl rfl⟩)), by decide +kernel⟩

theorem unrecorded_panics_and_foreign_is_confirmed :
    (fulfillOrder (paid "tx3") (some 1)).result OrderWrite.exec [] paidStore = .panicked ∧
    (fulfillOrder (paid "tx2") (some 1)).result OrderWrite.exec [] paidStore =
      .response 200 "success" "Order fulfilled successfully" none ∧
    (fulfillOrder (paid "tx2") (some 1)).history OrderWrite.exec [] paidStore =
      [.read, .read, .read, .validateCommit 1 2 "base" "p2" "NGN" ⟨100, 0, 100⟩, .read,
        .call (.settleOrder 1)] ∧
    ¬ Coherent (paid "tx3") lockOrder [] paidStore ∧
    ¬ Coherent (paid "tx2") lockOrder [] paidStore := by
  have hpanics : (fulfillOrder (paid "tx3") (some 1)).result OrderWrite.exec [] paidStore =
      .panicked := by decide +kernel
  have hreply : (fulfillOrder (paid "tx2") (some 1)).result OrderWrite.exec [] paidStore =
      .response 200 "success" "Order fulfilled successfully" none := by decide +kernel
  have hhistory : (fulfillOrder (paid "tx2") (some 1)).history OrderWrite.exec [] paidStore =
      [.read, .read, .read, .validateCommit 1 2 "base" "p2" "NGN" ⟨100, 0, 100⟩, .read,
        .call (.settleOrder 1)] := by decide +kernel
  refine ⟨hpanics, hreply, hhistory, fun h => h.1 hpanics, fun h => ?_⟩
  have hwrites : Admitted OrderWrite.exec (WritesFor lockOrder) paidStore
      ((fulfillOrder (paid "tx2") (some 1)).history OrderWrite.exec [] paidStore) :=
    h.2 (by rw [show lockOrder.id = 1 from rfl, hreply]; exact ⟨nofun, rfl⟩)
  rw [hhistory] at hwrites
  exact absurd (hwrites.2.2.2.1.2.1 (fulfillment 2 "tx2" .pending 2) (by decide +kernel)) (by decide)

end Samples

end FulfillCoherence

end Stablenode
