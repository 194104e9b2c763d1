import Stablenode.TransferRuns

/-! Which payment orders a transfer of a token may touch. -/
namespace Stablenode.TransferTokens

open Proc Run

def IsFor (token : Token) (o : PaymentOrder) : Prop :=
  o.token.id = token.id ∧ o.token.network = token.network

instance (token : Token) (o : PaymentOrder) : Decidable (IsFor token o) := by
  unfold IsFor
  infer_instance

def SamePayment (o o' : PaymentOrder) : Prop :=
  o'.amountPaid = o.amountPaid ∧ o'.txHash = o.txHash ∧ o'.status = o.status

instance (o o' : PaymentOrder) : Decidable (SamePayment o o') := by
  unfold SamePayment
  infer_instance

def OnlyTouches (token : Token) (s t : Store) : Prop :=
  ∀ o ∈ s.paymentOrders.rows, ∀ o' ∈ t.paymentOrders.get o.id, SamePayment o o' ∨ IsFor token o

instance (token : Token) (s t : Store) : Decidable (OnlyTouches token s t) := by
  unfold OnlyTouches
  infer_instance

variable {conf : PaymentConfig} {env : PaymentEnvironment} {s : Store} {event : TokenTransferEvent}
  {token : Token}

lemma onlyTouches_refl (token : Token) (s : Store) : OnlyTouches token s s := by
  intro o ho o' ho'
  rw [Table.get_of_mem ho, Option.mem_some_iff] at ho'
  subst ho'
  exact Or.inl ⟨rfl, rfl, rfl⟩

lemma OnlyTouches.step {t : Store} {w : PaymentWrite} (h : OnlyTouches token s t)
    (htoken : ∀ p ∈ s.awaitingOrders [event.toAddress], Creditable env s event p → IsFor token p.1)
    (hw : DeliveryLabel env True s event w) : OnlyTouches token s (w.exec t) := by
  rcases hw with rfl | ⟨p, hp, rfl | ⟨hw, hcredit, -⟩⟩
  · exact h
  · exact h
  intro o ho o' ho'
  by_cases hid : o.id = p.1.id
  · have heq : o = p.1 := by
      have hget := Table.get_of_mem ho
      rw [hid, Table.get_of_mem (mem_awaitingOrders.1 hp).1] at hget
      exact (Option.some.inj hget).symm
    rw [heq]
    exact Or.inr (htoken p hp hcredit)
  · rw [hw.get_of_ne t hid] at ho'
    exact h o ho o' ho'

theorem onlyTouches_iff (conf : PaymentConfig) (env : PaymentEnvironment) (s : Store)
    (event : TokenTransferEvent) (token : Token) :
    (∀ schedule faults, Always PaymentWrite.exec (OnlyTouches token s) s
      ((processTransfers conf env schedule [event]).history PaymentWrite.exec faults s)) ↔
      ∀ p ∈ s.awaitingOrders [event.toAddress], Creditable env s event p → IsFor token p.1 := by
  constructor
  · intro h p hp hcredit
    obtain ⟨i, hi⟩ := List.mem_iff_getElem?.1 hp
    obtain ⟨u, reads, hreads, hcommit⟩ :=
      processOrder_commits conf hp hcredit [false, true] (Or.inl rfl)
    have hgo : ((s.awaitingOrders [event.toAddress]).map (processOrder conf env [event]))[i]? =
        some (processOrder conf env [event] p) := by
      rw [List.getElem?_map, hi, Option.map_some]
    obtain ⟨schedule, hfirst⟩ := exists_history_prefix_interleave _ hgo [false, true] s
    have hrun := h schedule [false, false, true]
    rw [processTransfers, processReceiveAddresses, bind_attempt] at hrun
    simp only [attempt, history] at hrun
    have hgoroutine := ((hrun.2.initial (history_prefix_bind _ _ _ _)).initial
      (history_prefix_bind _ _ _ _)).initial (hcommit.trans hfirst)
    have hlast := hgoroutine.last
    rw [exec_append, PaymentWrite.exec, exec_reads hreads, exec_cons, exec_nil] at hlast
    have hstored := Table.get_of_mem (mem_awaitingOrders.1 hp).1
    have haccept := not_refusesDeposit hstored (awaitingOrders_unpaid hp).2 event u
    have hget := PaymentWrite.exec_depositCommit_get haccept p.1.id
    rw [if_pos rfl, hstored, Option.map_some] at hget
    rcases hlast p.1 (mem_awaitingOrders.1 hp).1 _ hget with hsame | hfor
    · have hhash : event.txHash = p.1.txHash := hsame.2.1
      rw [(awaitingOrders_unpaid hp).1] at hhash
      exact absurd hhash hcredit.hash
    · exact hfor
  · intro htoken schedule faults
    refine always_of_admitted (c := fun w _ => DeliveryLabel env True s event w)
      (fun w t ht hw => ht.step htoken hw) (onlyTouches_refl token s) ?_
    exact admitted_iff_forall_mem.2 (processTransfers_labels schedule faults (Or.inl trivial))

theorem other_token_credited :
    ¬ ∀ schedule faults, Always PaymentWrite.exec
      (OnlyTouches ⟨2, "DAI", "USD", 6, "base"⟩ (Sample.poolStore [1])) (Sample.poolStore [1])
      ((processTransfers {} .silent schedule [Sample.transfer]).history PaymentWrite.exec faults
        (Sample.poolStore [1])) := by
  intro h
  have hrun := h [] []
  revert hrun
  decide +kernel

end Stablenode.TransferTokens
