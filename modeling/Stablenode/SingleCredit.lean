import Stablenode.DepositRules

/-! Concurrent deliveries of transfers: when a transfer is credited at most once. -/
namespace Stablenode.SingleCredit

open Proc Run

structure Credit where
  order : ℕ
  event : TokenTransferEvent
  deriving DecidableEq

def credits : PaymentWrite → Store → List Credit → List Credit
  | .depositCommit order event u, s, cs =>
    if s.refusesDeposit order event u then cs else ⟨order, event⟩ :: cs
  | _, _, cs => cs

structure Delivery where
  schedule : List ℕ
  events : List TokenTransferEvent
  deriving DecidableEq

variable (conf : PaymentConfig) (env : PaymentEnvironment)

def deliveriesProgram (schedule : List ℕ) (ds : List Delivery) : PaymentProgram Unit :=
  interleave schedule (ds.map fun d => (processReceiveAddresses conf env d.schedule d.events).discard)

variable {conf env}

structure Single (transfers : List TokenTransferEvent) (x : Store × List Credit) : Prop where
  once : (x.2.map Credit.event).Nodup
  covered : (x.2.map fun c => c.event.value).sum ≤
    (transfers.map TokenTransferEvent.value).sum

lemma single_iff (transfers : List TokenTransferEvent) (x : Store × List Credit) :
    Single transfers x ↔ (x.2.map Credit.event).Nodup ∧
      (x.2.map fun c => c.event.value).sum ≤ (transfers.map TokenTransferEvent.value).sum :=
  ⟨fun h => ⟨h.1, h.2⟩, fun h => ⟨h.1, h.2⟩⟩

instance (transfers : List TokenTransferEvent) (x : Store × List Credit) :
    Decidable (Single transfers x) :=
  decidable_of_iff _ (single_iff transfers x).symm

def Unlogged : PaymentWrite → Store × List Credit → Prop
  | .depositCommit order event u, x => x.1.refusesDeposit order event u = false →
    ∀ l ∈ x.1.transactionLogs.rows, l.txHash ≠ event.txHash
  | _, _ => True

instance (w : PaymentWrite) (x : Store × List Credit) : Decidable (Unlogged w x) := by
  unfold Unlogged
  split <;> infer_instance

structure Logged (transfers : List TokenTransferEvent) (x : Store × List Credit) : Prop where
  log : ∀ c ∈ x.2, ∃ l ∈ x.1.transactionLogs.rows, l.txHash = c.event.txHash
  txHash_nodup : (x.2.map fun c => c.event.txHash).Nodup
  transferred : ∀ c ∈ x.2, c.event ∈ transfers

def Delivers (transfers : List TokenTransferEvent) : PaymentWrite → Store × List Credit → Prop
  | .depositCommit _ event _, _ => event ∈ transfers
  | _, _ => True

lemma logs_subset (w : PaymentWrite) (s : Store) :
    s.transactionLogs.rows ⊆ (w.exec s).transactionLogs.rows := by
  cases w with
  | depositCommit order event u =>
    by_cases hr : s.refusesDeposit order event u = true
    · simp only [PaymentWrite.exec, hr, if_true]
      exact List.Subset.refl _
    · rw [PaymentWrite.exec_depositCommit_logs (by simpa using hr)]
      exact List.subset_append_left _ _
  | update order u =>
    simp only [PaymentWrite.exec]
    split_ifs <;> exact List.Subset.refl _
  | _ => exact List.Subset.refl _

variable {transfers : List TokenTransferEvent}

lemma logged_step (w : PaymentWrite) (x : Store × List Credit) (hx : Logged transfers x)
    (hw : Unlogged w x ∧ Delivers transfers w x) :
    Logged transfers (watch PaymentWrite.exec credits w x) := by
  have hkeep : ∀ c ∈ x.2, ∃ l ∈ (w.exec x.1).transactionLogs.rows, l.txHash = c.event.txHash := by
    intro c hc
    obtain ⟨l, hl, hhash⟩ := hx.log c hc
    exact ⟨l, logs_subset w x.1 hl, hhash⟩
  cases w with
  | depositCommit order event u =>
    by_cases hr : x.1.refusesDeposit order event u = true
    · simp only [watch, credits, hr, if_true]
      exact ⟨hkeep, hx.txHash_nodup, hx.transferred⟩
    have hfresh := hw.1 (by simpa using hr)
    have hnew : ∃ l ∈ ((PaymentWrite.depositCommit order event u).exec x.1).transactionLogs.rows,
        l.txHash = event.txHash := by
      rw [PaymentWrite.exec_depositCommit_logs (by simpa using hr)]
      exact ⟨_, List.mem_append_right _ (List.mem_singleton.2 rfl), rfl⟩
    simp only [watch, credits, hr, Bool.false_eq_true, if_false]
    refine ⟨?_, ?_, ?_⟩
    · intro c hc
      rcases List.mem_cons.1 hc with rfl | hc
      · exact hnew
      · exact hkeep c hc
    · rw [List.map_cons, List.nodup_cons]
      refine ⟨?_, hx.txHash_nodup⟩
      rw [List.mem_map]
      rintro ⟨c, hc, hhash⟩
      obtain ⟨l, hl, hl'⟩ := hx.log c hc
      exact hfresh l hl (hl'.trans hhash)
    · intro c hc
      rcases List.mem_cons.1 hc with rfl | hc
      · exact hw.2
      · exact hx.transferred c hc
  | _ => exact ⟨hkeep, hx.txHash_nodup, hx.transferred⟩

lemma single_of_logged (hvalues : ∀ t ∈ transfers, 0 ≤ t.value) (x : Store × List Credit)
    (h : Logged transfers x) : Single transfers x := by
  have honce : (x.2.map Credit.event).Nodup := by
    have hn := h.txHash_nodup
    rw [show (fun c : Credit => c.event.txHash) = TokenTransferEvent.txHash ∘ Credit.event from rfl,
      ← List.map_map] at hn
    exact hn.of_map _
  refine ⟨honce, ?_⟩
  have hsub : (x.2.map Credit.event : Multiset TokenTransferEvent) ≤ transfers := by
    rw [Multiset.le_iff_subset (Multiset.coe_nodup.2 honce)]
    intro t ht
    obtain ⟨c, hc, rfl⟩ := List.mem_map.1 (Multiset.mem_coe.1 ht)
    exact Multiset.mem_coe.2 (h.transferred c hc)
  obtain ⟨rest, hrest⟩ := Multiset.le_iff_exists_add.1 hsub
  have hnonneg : 0 ≤ (rest.map TokenTransferEvent.value).sum := by
    refine Multiset.sum_nonneg fun v hv => ?_
    obtain ⟨t, ht, rfl⟩ := Multiset.mem_map.1 hv
    refine hvalues t (Multiset.mem_coe.1 ?_)
    rw [hrest]
    exact Multiset.mem_add.2 (Or.inr ht)
  have hsum := congrArg (fun m => (Multiset.map TokenTransferEvent.value m).sum) hrest
  simp only [Multiset.map_coe, Multiset.sum_coe, Multiset.map_add, Multiset.sum_add,
    List.map_map] at hsum
  have hcredit : (x.2.map fun c => c.event.value) =
      x.2.map (TokenTransferEvent.value ∘ Credit.event) := rfl
  rw [hcredit]
  linarith

lemma delivers_guarantee (env : PaymentEnvironment) (transfers : List TokenTransferEvent) :
    DepositGuarantee credits (fun _ _ => True) (fun _ => True) (Delivers transfers) True env
      (· ∈ transfers) (fun _ _ _ => True) fun _ _ _ => True where
  rely := ⟨fun _ => trivial, fun _ _ => trivial, fun _ _ _ _ => trivial, fun _ _ _ _ => trivial⟩
  quiet := by
    rintro w x - hw
    cases w with
    | depositCommit order event u => cases hw
    | _ => trivial
  check := fun _ _ _ _ _ _ _ _ _ _ _ _ => trivial
  commit := fun _ _ _ _ _ h _ _ => h
  mark := fun _ _ _ _ _ => trivial
  paid_commit := fun _ _ _ _ _ _ => trivial
  paid_mono := fun _ _ _ _ _ _ => trivial
  create := fun _ _ _ _ _ _ _ _ _ _ => trivial

theorem single_of_unlogged (hvalues : ∀ t ∈ transfers, 0 ≤ t.value) (ds : List Delivery)
    (hds : ∀ d ∈ ds, ∀ e ∈ d.events, e ∈ transfers) (schedule : List ℕ) (faults : List Bool)
    (s : Store)
    (h : Admitted (watch PaymentWrite.exec credits) Unlogged (s, [])
      ((deliveriesProgram conf env schedule ds).history PaymentWrite.exec faults s)) :
    Always (watch PaymentWrite.exec credits) (Single transfers) (s, [])
      ((deliveriesProgram conf env schedule ds).history PaymentWrite.exec faults s) := by
  have hG := delivers_guarantee env transfers
  have hsound : Sound PaymentWrite.exec credits (fun _ _ => True) (fun _ => True)
      (Delivers transfers) True (deliveriesProgram conf env schedule ds) (s, []) := by
    refine sound_interleave hG.rely schedule trivial fun p hp => ?_
    obtain ⟨d, hd, rfl⟩ := List.mem_map.1 hp
    exact sound_bind hG.rely (processReceiveAddresses_sound hG _ (hds d hd) _)
      (fun _ y _ _ => sound_ret _ y) trivial
  have hdelivers := hsound.admitted hG.rely trivial faults (Or.inl trivial)
  have hinit : Logged transfers (s, []) := ⟨by simp, by simp, by simp⟩
  exact (always_of_admitted logged_step hinit (h.and hdelivers)).mono (single_of_logged hvalues)

theorem single_one_awaiting_order :
    Always (watch PaymentWrite.exec credits) (Single [Sample.transfer]) (Sample.poolStore [1], [])
      ((deliveriesProgram {} .silent [] [⟨[], [Sample.transfer]⟩]).history PaymentWrite.exec []
        (Sample.poolStore [1])) :=
  single_of_unlogged (by decide +kernel) _ (by decide +kernel) _ _ _ (by decide +kernel)

theorem shared_address_credited_twice :
    ¬ Always (watch PaymentWrite.exec credits) (Single [Sample.transfer])
      (Sample.poolStore [1, 2], [])
      ((deliveriesProgram {} .silent [] [⟨[0, 0, 1, 1], [Sample.transfer]⟩]).history
        PaymentWrite.exec [] (Sample.poolStore [1, 2])) := by
  decide +kernel

end Stablenode.SingleCredit
