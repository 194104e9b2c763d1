import Stablenode.TransferRuns

/-! Deliveries of transfers one after the other: a payment order is credited by one of them. -/
namespace Stablenode.CreditedOnce

open Proc

structure Payment where
  amountPaid : ℚ
  amount : ℚ
  txHash : String
  fromAddress : String
  deriving DecidableEq

def paymentOf (s : Store) (order : ℕ) : Option Payment :=
  (s.paymentOrders.get order).map fun o => ⟨o.amountPaid, o.amount, o.txHash, o.fromAddress⟩

def Payment.IsOf (q : Payment) (event : TokenTransferEvent) : Prop :=
  q.amountPaid = event.value ∧ q.txHash = event.txHash ∧ q.fromAddress = event.fromAddress

structure Delivery where
  conf : PaymentConfig
  env : PaymentEnvironment
  now : ℕ
  schedule : List ℕ
  faults : List Bool
  events : List TokenTransferEvent

def Delivery.run (s : Store) (d : Delivery) : Store :=
  ((processReceiveAddresses d.conf d.env d.schedule d.events).outcome PaymentWrite.exec d.faults
    { s with now := d.now }).2

def run (s : Store) (ds : List Delivery) : Store := ds.foldl Delivery.run s

variable {events : List TokenTransferEvent} {s : Store} {order : ℕ}

section Labels

variable {conf : PaymentConfig} {env : PaymentEnvironment} {event : TokenTransferEvent}
  {p : PaymentOrder × ReceiveAddress} {w : PaymentWrite}

def PaysLabel (event : TokenTransferEvent) (p : PaymentOrder × ReceiveAddress) (w : PaymentWrite) :
    Prop :=
  w = .read ∨ (p.1.txHash ≠ event.txHash ∧ CreditLabel event p w)

lemma deposit_pays (hhash : p.1.txHash ≠ event.txHash) :
    Uses (PaysLabel event p) (deposit conf env p.2 p.1 event) := by
  have hfinish : ∀ now amount,
      Uses (PaysLabel event p) (finishDeposit conf env now p.2 p.1 event amount) :=
    fun now amount => (finishDeposit_uses now amount).mono fun w hw => Or.inr ⟨hhash, hw.credit⟩
  refine uses_attempt (Or.inl rfl) (uses_ret _) fun s => ?_
  split
  · exact uses_ret _
  split_ifs
  · refine uses_attempt (Or.inr ⟨hhash, .commit _⟩) (uses_ret _) fun t => ?_
    split_ifs
    · exact uses_ret _
    · exact hfinish _ _
  · exact hfinish _ _

lemma updateReceiveAddressStatus_pays :
    Uses (PaysLabel event p) (updateReceiveAddressStatus conf env p.2 p.1 event) := by
  rw [updateReceiveAddressStatus]
  split
  · refine uses_attempt (Or.inl rfl) (uses_ret _) fun s => ?_
    split
    · exact uses_ret _
    split
    · exact uses_ret _
    next hhash =>
      refine uses_attempt (Or.inl rfl) (deposit_pays hhash) fun t => ?_
      split
      · exact uses_ret _
      · exact deposit_pays hhash
  · exact uses_ret _

def AwaitedLabel (s : Store) (events : List TokenTransferEvent) (w : PaymentWrite) : Prop :=
  w = .read ∨ ∃ p ∈ s.awaitingOrders (events.map TokenTransferEvent.toAddress), ∃ event ∈ events,
    PaysLabel event p w

lemma processOrder_awaited (hp : p ∈ s.awaitingOrders (events.map TokenTransferEvent.toAddress)) :
    Uses (AwaitedLabel s events) (processOrder conf env events p) := by
  rw [processOrder]
  split
  · exact uses_ret _
  next event hfind =>
    have hevent := List.mem_of_find?_eq_some hfind
    refine uses_bind ?_ fun _ => uses_ret _
    exact updateReceiveAddressStatus_pays.mono fun w hw => Or.inr ⟨p, hp, event, hevent, hw⟩

lemma paymentOf_exec (h : CreditLabel event p w) (s : Store) (order : ℕ) :
    paymentOf (w.exec s) order = paymentOf s order ∨
      (order = p.1.id ∧ ∃ f : Payment → Payment,
        paymentOf (w.exec s) order = (paymentOf s order).map f ∧ ∀ q, (f q).IsOf event) := by
  by_cases horder : order = p.1.id
  · subst horder
    cases h with
    | commit u =>
      by_cases hr : s.refusesDeposit p.1.id event u = true
      · exact Or.inl (by simp only [PaymentWrite.exec, hr, if_true])
      refine Or.inr ⟨rfl, fun q => ⟨event.value, u.amount.getD q.amount, event.txHash,
        event.fromAddress⟩, ?_, fun q => ⟨rfl, rfl, rfl⟩⟩
      rw [paymentOf, PaymentWrite.exec_depositCommit_get (by simpa using hr), if_pos rfl,
        Option.map_map, paymentOf, Option.map_map]
      rfl
    | update u hu =>
      refine Or.inl ?_
      by_cases hr : s.refusesUpdate p.1.id u = true
      · simp only [PaymentWrite.exec, hr, if_true]
      rw [paymentOf, PaymentWrite.exec_update_get (by simpa using hr), if_pos rfl, Option.map_map,
        paymentOf]
      cases u with
      | amountPaid a => exact absurd rfl (hu a)
      | _ => rfl
    | _ => exact Or.inl rfl
  · exact Or.inl (by rw [paymentOf, h.get_of_ne s horder, paymentOf])

end Labels

section Runs

def KeptOrPaid (s : Store) (order : ℕ) (events : List TokenTransferEvent) (t : Store) : Prop :=
  paymentOf t order = paymentOf s order ∨
    ∃ q q', paymentOf s order = some q ∧ q.txHash = "" ∧ paymentOf t order = some q' ∧
      ∃ event ∈ events, event.txHash ≠ "" ∧ q'.IsOf event

lemma paymentOf_awaiting {addresses : List String} {p : PaymentOrder × ReceiveAddress}
    (hp : p ∈ s.awaitingOrders addresses) : ∃ q, paymentOf s p.1.id = some q ∧ q.txHash = "" := by
  rw [paymentOf, Table.get_of_mem (mem_awaitingOrders.1 hp).1]
  exact ⟨_, rfl, (awaitingOrders_unpaid hp).1⟩

lemma KeptOrPaid.step {t : Store} {w : PaymentWrite} (hw : AwaitedLabel s events w)
    (h : KeptOrPaid s order events t) : KeptOrPaid s order events (w.exec t) := by
  rcases hw with rfl | ⟨p, hp, event, hevent, rfl | ⟨hhash, hw⟩⟩
  · exact h
  · exact h
  rcases paymentOf_exec hw t order with hkeep | ⟨rfl, f, hpays, hof⟩
  · rw [KeptOrPaid, hkeep]
    exact h
  -- an order that a goroutine credits was awaiting as the delivery started
  obtain ⟨q, hq, hempty⟩ := paymentOf_awaiting hp
  rw [(awaitingOrders_unpaid hp).1] at hhash
  obtain ⟨q', hq'⟩ : ∃ q', paymentOf t p.1.id = some q' := by
    rcases h with h | ⟨_, q', _, _, h, _⟩
    · exact ⟨q, h.trans hq⟩
    · exact ⟨q', h⟩
  exact Or.inr ⟨q, f q', hq, hempty, by rw [hpays, hq', Option.map_some], event, hevent,
    hhash.symm, hof q'⟩

lemma processReceiveAddresses_keptOrPaid {conf : PaymentConfig} {env : PaymentEnvironment}
    {schedule : List ℕ} {r : Except String Unit} {t : Store}
    (h : Ends PaymentWrite.exec (processReceiveAddresses conf env schedule events) s r t) :
    KeptOrPaid s order events t := by
  rcases ends_attempt_iff.1 h with hgo | hfail
  · have huses : Uses (AwaitedLabel s events) (interleave schedule
        ((s.awaitingOrders (events.map TokenTransferEvent.toAddress)).map
          (processOrder conf env events))) := by
      refine uses_interleave schedule fun q hq => ?_
      obtain ⟨p, hp, rfl⟩ := List.mem_map.1 hq
      exact processOrder_awaited hp
    exact (uses_bind huses fun _ => uses_ret _).ends (fun w u hw hu => hu.step hw) (Or.inl rfl) hgo
  · obtain ⟨-, rfl⟩ := ends_ret_iff.1 hfail
    exact Or.inl rfl

lemma Delivery.run_keptOrPaid (s : Store) (d : Delivery) (order : ℕ) :
    KeptOrPaid s order d.events (d.run s) :=
  processReceiveAddresses_keptOrPaid (s := { s with now := d.now }) (ends_outcome _ _ _)

lemma run_append (s : Store) (ds ds' : List Delivery) : run s (ds ++ ds') = run (run s ds) ds' :=
  List.foldl_append

lemma paymentOf_run_of_paid {q : Payment} (hq : paymentOf s order = some q) (hpaid : q.txHash ≠ "")
    (ds : List Delivery) : paymentOf (run s ds) order = some q := by
  induction ds generalizing s with
  | nil => exact hq
  | cons d ds ih =>
    refine ih ?_
    rcases d.run_keptOrPaid s order with hkept | ⟨q', _, hq', hempty, _⟩
    · exact hkept.trans hq
    · rw [hq] at hq'
      exact absurd (Option.some.inj hq' ▸ hempty) hpaid

lemma paymentOf_run_of_unpaid {q : Payment} (ds : List Delivery)
    (hq : paymentOf (run s ds) order = some q) (hempty : q.txHash = "") :
    paymentOf s order = some q := by
  induction ds generalizing s with
  | nil => exact hq
  | cons d ds ih =>
    rcases d.run_keptOrPaid s order with hkept | ⟨_, q', _, _, hq', event, _, hhash, hof⟩
    · exact hkept.symm.trans (ih hq)
    · have hpaid : q'.txHash ≠ "" := hof.2.1 ▸ hhash
      rw [run, List.foldl_cons, ← run, paymentOf_run_of_paid hq' hpaid] at hq
      exact absurd (Option.some.inj hq ▸ hempty) hpaid

theorem credited_by_one_delivery (s : Store) (order : ℕ) (before : List Delivery) (d : Delivery)
    (hchange : paymentOf (run s (before ++ [d])) order ≠ paymentOf (run s before) order) :
    (∀ ds, ds <+: before → paymentOf (run s ds) order = paymentOf s order) ∧
      ∃ event ∈ d.events, ∃ q : Payment, q.IsOf event ∧
        ∀ after, paymentOf (run s (before ++ d :: after)) order = some q := by
  rw [run_append] at hchange
  rcases d.run_keptOrPaid (run s before) order with
    hkept | ⟨q, q', hq, hempty, hq', event, hevent, hhash, hof⟩
  · exact absurd hkept hchange
  refine ⟨?_, event, hevent, q', hof, fun after => ?_⟩
  · rintro ds ⟨rest, rfl⟩
    rw [run_append] at hq
    rw [paymentOf_run_of_unpaid rest hq hempty]
    exact (paymentOf_run_of_unpaid ds (paymentOf_run_of_unpaid rest hq hempty) hempty).symm
  · rw [run_append, run, List.foldl_cons]
    exact paymentOf_run_of_paid hq' (hof.2.1 ▸ hhash) after

theorem credited_by_one_delivery_pool :
    let d : Delivery := ⟨{}, .silent, 0, [], [], [Sample.transfer]⟩
    ∃ event ∈ d.events, ∃ q : Payment, q.IsOf event ∧
      ∀ after, paymentOf (run (Sample.poolStore [1]) (d :: after)) 1 = some q :=
  (credited_by_one_delivery (Sample.poolStore [1]) 1 []
    ⟨{}, .silent, 0, [], [], [Sample.transfer]⟩ (by decide +kernel)).2

end Runs

end Stablenode.CreditedOnce
