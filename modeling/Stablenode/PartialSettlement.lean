import Stablenode.PaymentEffects

/-! Sequences of settlements of one payment order by `UpdateOrderStatusSettled`
(services/common/order.go). -/
namespace Stablenode.PartialSettlement

open Proc

variable {s t u : Store} {id : ℕ} {o : PaymentOrder} {messageHash network : String}
  {event : OrderSettledEvent} {events : List OrderSettledEvent}

section Call

lemma paymentOrderOf_of_get (hget : s.paymentOrders.get id = some o)
    (hhash : o.messageHash = some messageHash)
    (h : s.paymentOrderOf messageHash o.token.network ≠ .error .notSingular) :
    s.paymentOrderOf messageHash o.token.network = .ok o := by
  have hmem : o ∈ s.paymentOrders.select fun p =>
      p.messageHash = some messageHash ∧ p.token.network = o.token.network :=
    List.mem_filter.2 ⟨Table.mem_of_get hget, by simp [hhash]⟩
  rw [Store.paymentOrderOf] at h ⊢
  cases hrows : s.paymentOrders.select fun p =>
      p.messageHash = some messageHash ∧ p.token.network = o.token.network with
  | nil =>
    rw [hrows] at hmem
    cases hmem
  | cons p rows =>
    cases rows with
    | nil =>
      rw [hrows, List.mem_singleton] at hmem
      rw [hmem]
      rfl
    | cons q rows => exact absurd (by rw [hrows]; rfl) h

lemma ends_commitGatewayEvent {event : GatewayEvent} {change : Option PaymentOrderChange}
    {entity : Option (ℕ × PaymentOrderStatus)} {e₁ e₂ e₃ : String}
    (h : Ends OrderWrite.exec (commitGatewayEvent event change entity e₁ e₂ e₃) s (.ok ()) t) :
    s.refusesGatewayCommit event change = false ∧
      t.paymentOrders = ((OrderWrite.gatewayCommit event change).exec s).paymentOrders := by
  rcases ends_attempt_iff.1 h with h | h
  · split at h
    · cases (ends_ret_iff.1 h).1
    rename_i haccepted
    refine ⟨by simpa using haccepted, ?_⟩
    split at h
    · obtain ⟨-, rfl⟩ := ends_ret_iff.1 h
      rfl
    rcases ends_attempt_iff.1 h with h | h
    · obtain ⟨-, rfl⟩ := ends_ret_iff.1 h
      rfl
    · cases (ends_ret_iff.1 h).1
  · cases (ends_ret_iff.1 h).1

lemma ends_updateOrderStatusSettled
    (h : Ends OrderWrite.exec (updateOrderStatusSettled network event messageHash) s (.ok ()) t) :
    s.paymentOrderOf messageHash network ≠ .error .notSingular ∧
      ∃ u splitOrderId, u.paymentOrders = s.paymentOrders ∧
        let change := (s.paymentOrderOf messageHash network).toOption.bind (event.change messageHash)
        u.refusesGatewayCommit (event.gatewayEvent network splitOrderId) change = false ∧
        t.paymentOrders = ((OrderWrite.gatewayCommit (event.gatewayEvent network splitOrderId)
          change).exec u).paymentOrders := by
  unfold updateOrderStatusSettled at h
  rcases ends_attempt_iff.1 h with h | h
  · split at h
    · cases (ends_ret_iff.1 h).1
    rename_i hsingle
    refine ⟨hsingle, ?_⟩
    split at h
    · cases (ends_ret_iff.1 h).1
    rename_i splitOrderId _
    rcases ends_attempt_iff.1 h with h | h
    · split at h
      · exact ⟨_, splitOrderId, rfl, ends_commitGatewayEvent h⟩
      rcases ends_attempt_iff.1 h with h | h
      · split at h
        · exact ⟨_, splitOrderId, rfl, ends_commitGatewayEvent h⟩
        rename_i b _
        rcases ends_ignore_iff.1 h with h | h
        · refine ⟨_, splitOrderId, ?_, ends_commitGatewayEvent h⟩
          exact OrderWrite.exec_paymentOrders (w := .settleBalance ..) rfl _
        · exact ⟨_, splitOrderId, rfl, ends_commitGatewayEvent h⟩
      · exact ⟨_, splitOrderId, rfl, ends_commitGatewayEvent h⟩
    · cases (ends_ret_iff.1 h).1
  · cases (ends_ret_iff.1 h).1

structure Settles (event : OrderSettledEvent) (o o' : PaymentOrder) : Prop where
  messageHash : o'.messageHash = o.messageHash
  token : o'.token = o.token
  percentSettled : o'.percentSettled =
    if o.status = .settled then o.percentSettled
    else min (o.percentSettled + Decimal.div event.settlePercent 1000) 100
  status : o'.status =
    if 100 ≤ o.percentSettled + Decimal.div event.settlePercent 1000 then .settled else o.status

lemma settles_of_ends (hget : s.paymentOrders.get id = some o)
    (hhash : o.messageHash = some messageHash)
    (h : Ends OrderWrite.exec (updateOrderStatusSettled o.token.network event messageHash) s
      (.ok ()) t) :
    ∃ o', t.paymentOrders.get id = some o' ∧ Settles event o o' := by
  obtain ⟨hsingle, u, splitOrderId, hu, haccepted, ht⟩ := ends_updateOrderStatusSettled h
  rw [paymentOrderOf_of_get hget hhash hsingle] at haccepted ht
  have hcommit := SideWrite.exec_getPaymentOrder (.creation (.order (.gatewayCommit
    (event.gatewayEvent o.token.network splitOrderId) (event.change messageHash o)))) u id
  rw [hu, hget, Option.map_some] at hcommit
  refine ⟨_, (congrArg (fun orders => orders.get id) ht).trans hcommit, ?_⟩
  have haccepted' : u.refusesGatewayCommit (event.gatewayEvent o.token.network splitOrderId)
      (event.change messageHash o) = false := haccepted
  by_cases hsettled : o.status = .settled
  · have hnone : event.change messageHash o = none := by
      unfold OrderSettledEvent.change
      rw [if_pos hsettled]
    rw [hnone]
    constructor <;> simp [SideWrite.change, hsettled]
  unfold OrderSettledEvent.change at haccepted' ⊢
  rw [if_neg hsettled] at haccepted' ⊢
  have hselects : PaymentOrderChange.selects
      { paymentOrder := o.id
        messageHash := messageHash
        network := none
        gatewayId := event.orderId
        txHash := event.txHash
        blockNumber := event.blockNumber
        status := if 100 ≤ o.percentSettled + Decimal.div event.settlePercent 1000 then
          some .settled else none
        percentSettled := some
          (min (o.percentSettled + Decimal.div event.settlePercent 1000) 100) } o = true := by
    simp [PaymentOrderChange.selects, hhash]
  rw [SideWrite.change, if_pos ⟨by simpa using haccepted', hselects⟩]
  constructor
  · rfl
  · rfl
  · simp [PaymentOrder.stamped, PaymentOrderChange.apply, hsettled]
  · simp only [PaymentOrder.stamped, PaymentOrderChange.apply]
    split_ifs <;> rfl

end Call

section Sequence

def Settlements (network messageHash : String) : List OrderSettledEvent → Store → Store → Prop
  | [], s, t => t = s
  | event :: events, s, t =>
    ∃ u, Ends OrderWrite.exec (updateOrderStatusSettled network event messageHash) s (.ok ()) u ∧
      Settlements network messageHash events u t

structure Progress (messageHash network : String) (id : ℕ) (settled : ℚ) (s : Store)
    (o : PaymentOrder) : Prop where
  get : s.paymentOrders.get id = some o
  messageHash : o.messageHash = some messageHash
  network : o.token.network = network
  percentSettled : o.percentSettled = min 100 (settled / 1000)
  status : o.status = .settled ↔ 100000 ≤ settled

def rawPercent (events : List OrderSettledEvent) : ℚ :=
  (events.map OrderSettledEvent.settlePercent).sum

lemma div_thousand (r : ℕ) : Decimal.div r 1000 = r / 1000 := by
  have h : Decimal.div r (10 ^ 3) = r / 10 ^ 3 := (Decimal.div_pow_eq_iff r 3).2 ⟨r * 10 ^ 13, by ring⟩
  norm_num at h
  exact h

variable {settled : ℚ}

lemma Progress.step {r : ℕ} (h : Progress messageHash network id settled s o)
    (hraw : event.settlePercent = r)
    (hcall : Ends OrderWrite.exec (updateOrderStatusSettled network event messageHash) s
      (.ok ()) t) :
    ∃ o', Progress messageHash network id (settled + event.settlePercent) t o' ∧
      o.percentSettled ≤ o'.percentSettled := by
  obtain ⟨o', hget, hsettles⟩ := settles_of_ends h.get h.messageHash (h.network ▸ hcall)
  have hr : (0 : ℚ) ≤ event.settlePercent := hraw ▸ Nat.cast_nonneg r
  have hdiv : Decimal.div event.settlePercent 1000 = event.settlePercent / 1000 := by
    rw [hraw, div_thousand]
  have hpercent := hsettles.percentSettled
  have hstatus := hsettles.status
  rw [hdiv] at hpercent hstatus
  by_cases hsettled : o.status = .settled
  · -- nothing changes any more
    have hfull : 100000 ≤ settled := h.status.1 hsettled
    rw [if_pos hsettled] at hpercent
    have hsame : o'.status = .settled := by
      rw [hstatus, hsettled, ite_self]
    refine ⟨o', ⟨hget, hsettles.messageHash.trans h.messageHash, ?_, ?_, ?_⟩, hpercent.ge⟩
    · rw [hsettles.token, h.network]
    · rw [hpercent, h.percentSettled, min_eq_left (by linarith), min_eq_left (by linarith)]
    · exact iff_of_true hsame (by linarith)
  · -- the percentage has not been cut yet, so it is the whole sum
    have hopen : settled < 100000 := not_le.1 fun hle => hsettled (h.status.2 hle)
    have hsum : o.percentSettled = settled / 1000 := by
      rw [h.percentSettled, min_eq_right (by linarith)]
    have hadd : o.percentSettled + event.settlePercent / 1000 =
        (settled + event.settlePercent) / 1000 := by
      rw [hsum]
      ring
    rw [if_neg hsettled, hadd, min_comm] at hpercent
    rw [hadd] at hstatus
    refine ⟨o', ⟨hget, hsettles.messageHash.trans h.messageHash, ?_, hpercent, ?_⟩, ?_⟩
    · rw [hsettles.token, h.network]
    · rw [hstatus]
      split_ifs with hfull
      · exact iff_of_true rfl (by linarith)
      · exact iff_of_false hsettled (by linarith)
    · rw [hpercent, hsum]
      exact le_min (by linarith) (by linarith)

lemma Progress.run (h : Progress messageHash network id settled s o)
    (hraw : ∀ e ∈ events, ∃ r : ℕ, e.settlePercent = r)
    (hrun : Settlements network messageHash events s t) :
    ∃ o', Progress messageHash network id (settled + rawPercent events) t o' ∧
      o.percentSettled ≤ o'.percentSettled := by
  induction events generalizing settled s o with
  | nil =>
    obtain rfl := hrun
    exact ⟨o, by simpa [rawPercent] using h, le_rfl⟩
  | cons event events ih =>
    obtain ⟨u, hcall, hrest⟩ := hrun
    obtain ⟨r, hr⟩ := hraw event List.mem_cons_self
    obtain ⟨p, hp, hle⟩ := h.step hr hcall
    obtain ⟨o', ho', hle'⟩ := ih hp (fun e he => hraw e (List.mem_cons_of_mem _ he)) hrest
    refine ⟨o', ?_, hle.trans hle'⟩
    have hsum : rawPercent (event :: events) = event.settlePercent + rawPercent events := by
      rw [rawPercent, List.map_cons, List.sum_cons, rawPercent]
    rw [hsum, ← add_assoc]
    exact ho'

theorem settlements_accumulate {s u t : Store} {id : ℕ} {o : PaymentOrder} {messageHash : String}
    {first later : List OrderSettledEvent} (hget : s.paymentOrders.get id = some o)
    (hhash : o.messageHash = some messageHash) (hopen : o.status ≠ .settled)
    (hzero : o.percentSettled = 0) (hraw : ∀ e ∈ first ++ later, ∃ r : ℕ, e.settlePercent = r)
    (hfirst : Settlements o.token.network messageHash first s u)
    (hlater : Settlements o.token.network messageHash later u t) :
    ∃ p q, u.paymentOrders.get id = some p ∧ t.paymentOrders.get id = some q ∧
      p.percentSettled = min 100 (rawPercent first / 1000) ∧
      (p.status = .settled ↔ 100000 ≤ rawPercent first) ∧
      p.percentSettled ≤ q.percentSettled ∧ q.percentSettled ≤ 100 := by
  have hstart : Progress messageHash o.token.network id 0 s o :=
    ⟨hget, hhash, rfl, by rw [hzero]; norm_num, iff_of_false hopen (by norm_num)⟩
  obtain ⟨p, hp, -⟩ := hstart.run (fun e he => hraw e (List.mem_append_left _ he)) hfirst
  obtain ⟨q, hq, hle⟩ := hp.run (fun e he => hraw e (List.mem_append_right _ he)) hlater
  rw [zero_add] at hp
  refine ⟨p, q, hp.get, hq.get, hp.percentSettled, hp.status, hle, ?_⟩
  rw [hq.percentSettled]
  exact min_le_left _ _

def pendingStore : Store :=
  { Store.empty with
    paymentOrders := .single { Sample.paymentOrder 1 with
      status := .pending
      messageHash := some "m1" } }

def part (percent : ℕ) : OrderSettledEvent := ⟨1, "0x1", some 1, "g1", percent⟩

def afterParts (percents : List ℕ) : Store :=
  percents.foldl (fun s r => (updateOrderStatusSettled "base" (part r) "m1").after OrderWrite.exec s)
    pendingStore

theorem settlements_accumulate_two_parts :
    ∃ p q, (afterParts [40000]).paymentOrders.get 1 = some p ∧
      (afterParts [40000, 70000]).paymentOrders.get 1 = some q ∧ p.percentSettled = 40 ∧
      p.status ≠ .settled ∧ p.percentSettled ≤ q.percentSettled ∧ q.percentSettled ≤ 100 := by
  have hcall : ∀ r s, (updateOrderStatusSettled "base" (part r) "m1").result OrderWrite.exec [] s =
      .ok () → Settlements "base" "m1" [part r] s
        ((updateOrderStatusSettled "base" (part r) "m1").after OrderWrite.exec s) := by
    intro r s hok
    have hends : Ends OrderWrite.exec (updateOrderStatusSettled "base" (part r) "m1") s _ _ :=
      ends_outcome _ [] s
    rw [outcome, hok] at hends
    exact ⟨_, hends, rfl⟩
  have hfirst : Settlements "base" "m1" [part 40000] pendingStore (afterParts [40000]) :=
    hcall 40000 _ (by decide +kernel)
  have hlater : Settlements "base" "m1" [part 70000] (afterParts [40000])
      (afterParts [40000, 70000]) := hcall 70000 _ (by decide +kernel)
  have hget : pendingStore.paymentOrders.get 1 = some _ := rfl
  have hraw : ∀ e ∈ [part 40000] ++ [part 70000], ∃ r : ℕ, e.settlePercent = r := by
    intro e he
    rcases List.mem_pair.1 he with rfl | rfl
    · exact ⟨40000, rfl⟩
    · exact ⟨70000, rfl⟩
  obtain ⟨p, q, hp, hq, hpercent, hstatus, hle, hfull⟩ :=
    settlements_accumulate hget rfl (by decide) rfl hraw hfirst hlater
  refine ⟨p, q, hp, hq, hpercent.trans (by norm_num [rawPercent, part]), ?_, hle, hfull⟩
  rw [Ne, hstatus]
  norm_num [rawPercent, part]

end Sequence

end Stablenode.PartialSettlement
