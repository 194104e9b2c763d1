import Stablenode.TransferRuns

/-! Transactions that pay several receive addresses: which of the awaiting orders are credited. -/
namespace Stablenode.DepositLoss

open Proc Run

structure Deposit where
  log : TransferLog
  order : PaymentOrder
  address : ReceiveAddress
  deriving DecidableEq

def Deposit.awaiting (d : Deposit) : PaymentOrder × ReceiveAddress := (d.order, d.address)

structure AwaitedTransaction (s : Store) (token : Token) where
  hash : String
  deposits : List Deposit
  hash_ne : hash ≠ ""
  txHash : ∀ d ∈ deposits, d.log.txHash = hash
  positive : ∀ d ∈ deposits, 0 < d.log.value
  distinct : deposits.Pairwise fun d d' =>
    equalFold (d.log.event token).toAddress (d'.log.event token).toAddress = false
  awaited : ∀ d ∈ deposits, ∀ p,
    (p ∈ s.awaitingOrders [(d.log.event token).toAddress] ∧ p.1.token = token) ↔ p = d.awaiting

def Deposit.Credited (d : Deposit) (token : Token) (hash : String) (t : Store) : Prop :=
  ∃ o ∈ t.paymentOrders.get d.order.id,
    o.txHash = hash ∧ o.amountPaid = d.log.value / 10 ^ token.decimals

section

variable (conf : PaymentConfig) (env : PaymentEnvironment) (gateway : String) (token : Token)

def indexDeposits (schedule : Deposit → List ℕ) (ds : List Deposit) : PaymentProgram Unit :=
  indexReceiveAddressByTransaction conf env gateway token (ds.map fun d => (d.log, schedule d))

def NoDepositLost (s : Store) (tx : AwaitedTransaction s token) : Prop :=
  ∀ schedule, ∀ d ∈ tx.deposits, d.Credited token tx.hash
    ((indexDeposits conf env gateway token schedule tx.deposits).after PaymentWrite.exec s)

structure CreditedAlone (s : Store) (d : Deposit) : Prop where
  notGateway : equalFold d.log.fromAddress gateway = false
  exact : 10 ^ token.decimals ∣ d.log.value * 10 ^ 16
  creditable : Creditable env s (d.log.event token) d.awaiting
  unlogged : s.isLogged (d.log.event token) = false
  others : ∀ p ∈ s.awaitingOrders [(d.log.event token).toAddress], p ≠ d.awaiting →
    ¬ Creditable env s (d.log.event token) p

end

variable {conf : PaymentConfig} {env : PaymentEnvironment} {gateway : String} {token : Token}
  {s : Store} {schedule : Deposit → List ℕ}

def stage (conf : PaymentConfig) (env : PaymentEnvironment) (gateway : String) (token : Token)
    (schedule : Deposit → List ℕ) (d : Deposit) (s : Store) : Store :=
  if equalFold d.log.fromAddress gateway then s
  else (processTransfers conf env (schedule d) [d.log.event token]).after PaymentWrite.exec s

lemma after_indexDeposits_nil :
    (indexDeposits conf env gateway token schedule []).after PaymentWrite.exec s = s := by
  simp [indexDeposits, indexReceiveAddressByTransaction, forEach]

lemma after_indexDeposits_cons (d : Deposit) (ds : List Deposit) :
    (indexDeposits conf env gateway token schedule (d :: ds)).after PaymentWrite.exec s =
      (indexDeposits conf env gateway token schedule ds).after PaymentWrite.exec
        (stage conf env gateway token schedule d s) := by
  simp only [indexDeposits, indexReceiveAddressByTransaction, List.map_cons, forEach, after_bind,
    stage]
  split_ifs <;> simp

variable {P : Store → Prop} {p : PaymentOrder × ReceiveAddress} {a : String} {ds : List Deposit}

lemma stage_induction (d : Deposit) (hs : P s)
    (hstep : ∀ w t, DeliveryLabel env False s (d.log.event token) w → P t → P (w.exec t)) :
    P (stage conf env gateway token schedule d s) := by
  rw [stage]
  split_ifs
  · exact hs
  have hlabels : ∀ w ∈ (processTransfers conf env (schedule d) [d.log.event token]).history
      PaymentWrite.exec [] s, DeliveryLabel env False s (d.log.event token) w :=
    processTransfers_labels (schedule d) [] (Or.inr rfl)
  exact (always_of_admitted (c := fun w _ => DeliveryLabel env False s (d.log.event token) w)
    (fun w t ht hw => hstep w t hw ht) hs (admitted_iff_forall_mem.2 hlabels)).last

variable {d : Deposit} {event : TokenTransferEvent}

section Stage

variable {id : ℕ}

lemma stage_get_of_forall_ne
    (h : ∀ p ∈ s.awaitingOrders [(d.log.event token).toAddress], p.1.id ≠ id) :
    (stage conf env gateway token schedule d s).paymentOrders.get id = s.paymentOrders.get id := by
  refine stage_induction (P := fun t => t.paymentOrders.get id = s.paymentOrders.get id) d rfl ?_
  rintro w t (rfl | ⟨p, hp, rfl | ⟨hw, -, -⟩⟩) ht
  · exact ht
  · exact ht
  · rw [hw.get_of_ne t (h p hp).symm, ht]

lemma stage_of_isLogged (h : s.isLogged (d.log.event token) = true) :
    stage conf env gateway token schedule d s = s := by
  refine stage_induction (P := fun t => t = s) d rfl ?_
  rintro w t (rfl | ⟨p, -, rfl | ⟨-, -, hfalse | hlog⟩⟩) rfl
  · rfl
  · rfl
  · exact hfalse.elim
  · simp [h] at hlog

variable {w : PaymentWrite}

lemma txHash_or_isLogged (hw : CreditLabel event p w) (t : Store) (id : ℕ) :
    ((w.exec t).paymentOrders.get id).map PaymentOrder.txHash =
        (t.paymentOrders.get id).map PaymentOrder.txHash ∨
      (w.exec t).isLogged event = true := by
  cases hw with
  | commit u =>
    by_cases hr : t.refusesDeposit p.1.id event u = true
    · left
      simp only [PaymentWrite.exec, hr, if_true]
    · right
      rw [isLogged_iff, PaymentWrite.exec_depositCommit_logs (by simpa using hr)]
      exact ⟨_, List.mem_append_right _ (List.mem_singleton_self _), rfl⟩
  | update u _ =>
    left
    by_cases hr : t.refusesUpdate p.1.id u = true
    · simp only [PaymentWrite.exec, hr, if_true]
    rw [PaymentWrite.exec_update_get (by simpa using hr)]
    split_ifs with hid
    · rw [hid, Option.map_map]
      congr 1
      funext o
      cases u <;> rfl
    · rfl
  | _ => exact Or.inl rfl

lemma stage_txHash_or_isLogged (conf : PaymentConfig) (env : PaymentEnvironment) (gateway : String)
    (token : Token) (schedule : Deposit → List ℕ) (d : Deposit) (s : Store) (id : ℕ) :
    ((stage conf env gateway token schedule d s).paymentOrders.get id).map PaymentOrder.txHash =
        (s.paymentOrders.get id).map PaymentOrder.txHash ∨
      (stage conf env gateway token schedule d s).isLogged (d.log.event token) = true := by
  refine stage_induction (P := fun t => (t.paymentOrders.get id).map PaymentOrder.txHash =
    (s.paymentOrders.get id).map PaymentOrder.txHash ∨ t.isLogged (d.log.event token) = true)
    d (Or.inl rfl) ?_
  rintro w t (rfl | ⟨p, -, rfl | ⟨hw, -, -⟩⟩) ht
  · exact ht
  · exact ht
  · rcases ht with hsame | hlog
    · exact (txHash_or_isLogged hw t id).imp_left fun h => h.trans hsame
    · exact Or.inr (((Evolved.refl _ t).step hw).logged hlog)

def addressOf (s : Store) (id : ℕ) : Option String :=
  (s.receiveAddressOf id).map ReceiveAddress.address

lemma addressOf_updateReceiveAddress (t : Store) (address : ℕ) {f : ReceiveAddress → ReceiveAddress}
    {hf : ∀ r, (f r).id = r.id} (horder : ∀ r, (f r).paymentOrder = r.paymentOrder)
    (haddr : ∀ r, (f r).address = r.address) (id : ℕ) :
    addressOf (t.updateReceiveAddress address f hf) id = addressOf t id := by
  simp only [addressOf, Store.receiveAddressOf, Store.updateReceiveAddress, Table.modify,
    Table.update, List.find?_map, Option.map_map]
  have hfind : ((fun r : ReceiveAddress => decide (r.paymentOrder = some id)) ∘
      fun r => if decide (r.id = address) = true then f r else r) =
        fun r => decide (r.paymentOrder = some id) := by
    funext r
    simp only [Function.comp]
    split_ifs <;> simp [horder]
  rw [hfind]
  congr 1
  funext r
  simp only [Function.comp]
  split_ifs <;> simp [haddr]

lemma addressOf_creditLabel (hw : CreditLabel event p w) (t : Store) (id : ℕ) :
    addressOf (w.exec t) id = addressOf t id := by
  cases hw with
  | commit u | update u _ =>
    simp only [PaymentWrite.exec]
    split_ifs <;> rfl
  | mark | validUntil time =>
    refine addressOf_updateReceiveAddress t _ ?_ ?_ id <;> exact fun _ => rfl
  | expire => refine addressOf_updateReceiveAddress t _ ?_ ?_ id <;> exact fun _ => rfl
  | _ => rfl

lemma addressOf_stage (d : Deposit) (s : Store) (id : ℕ) :
    addressOf (stage conf env gateway token schedule d s) id = addressOf s id := by
  refine stage_induction (P := fun t => addressOf t id = addressOf s id) d rfl ?_
  rintro w t (rfl | ⟨p, -, rfl | ⟨hw, -, -⟩⟩) ht
  · exact ht
  · exact ht
  · rw [addressOf_creditLabel hw, ht]

lemma stage_get_of_address (haddr : addressOf s id = some a)
    (hne : equalFold (d.log.event token).toAddress a = false) :
    (stage conf env gateway token schedule d s).paymentOrders.get id = s.paymentOrders.get id := by
  refine stage_get_of_forall_ne fun p hp hid => ?_
  obtain ⟨-, hr, haw⟩ := mem_awaitingOrders.1 hp
  rw [addressOf, ← hid, hr, Option.map_some, Option.some.injEq] at haddr
  have := equalFold_of_awaits haw
  rw [haddr, hne] at this
  cases this

end Stage

lemma after_indexDeposits_of_isLogged {hash : String} (hds : ∀ d ∈ ds, d.log.txHash = hash)
    (hlog : ∃ l ∈ s.transactionLogs.rows, l.txHash = hash) :
    (indexDeposits conf env gateway token schedule ds).after PaymentWrite.exec s = s := by
  induction ds with
  | nil => exact after_indexDeposits_nil
  | cons d ds ih =>
    have hd : s.isLogged (d.log.event token) = true := by
      rw [isLogged_iff, TransferLog.event, hds d (by simp)]
      exact hlog
    rw [after_indexDeposits_cons, stage_of_isLogged hd]
    exact ih fun d' hd' => hds d' (by simp [hd'])

lemma after_indexDeposits_get {id : ℕ} (haddr : addressOf s id = some a)
    (hne : ∀ d ∈ ds, equalFold (d.log.event token).toAddress a = false) :
    ((indexDeposits conf env gateway token schedule ds).after PaymentWrite.exec s).paymentOrders.get
      id = s.paymentOrders.get id := by
  induction ds generalizing s with
  | nil => rw [after_indexDeposits_nil]
  | cons d ds ih =>
    rw [after_indexDeposits_cons, ih ((addressOf_stage d s id).trans haddr) fun d' hd' =>
      hne d' (by simp [hd']), stage_get_of_address haddr (hne d (by simp))]

namespace AwaitedTransaction

variable (tx : AwaitedTransaction s token)

variable (hd : d ∈ tx.deposits)
include hd

lemma mem_awaitingOrders_of_mem : d.awaiting ∈ s.awaitingOrders [(d.log.event token).toAddress] :=
  ((tx.awaited d hd d.awaiting).2 rfl).1

lemma get_order : s.paymentOrders.get d.order.id = some d.order :=
  Table.get_of_mem (mem_awaitingOrders.1 (tx.mem_awaitingOrders_of_mem hd)).1

lemma order_txHash : d.order.txHash = "" :=
  (awaitingOrders_unpaid (tx.mem_awaitingOrders_of_mem hd)).1

lemma addressOf_order : addressOf s d.order.id = some d.address.address := by
  exact congrArg (Option.map ReceiveAddress.address)
    (mem_awaitingOrders.1 (tx.mem_awaitingOrders_of_mem hd)).2.1

lemma equalFold_address : equalFold (d.log.event token).toAddress d.address.address = true :=
  equalFold_of_awaits (mem_awaitingOrders.1 (tx.mem_awaitingOrders_of_mem hd)).2.2

lemma not_credited_of_txHash {t : Store}
    (h : (t.paymentOrders.get d.order.id).map PaymentOrder.txHash =
      (s.paymentOrders.get d.order.id).map PaymentOrder.txHash) :
    ¬ d.Credited token tx.hash t := by
  rintro ⟨o, ho, hhash, -⟩
  rw [Option.mem_def.1 ho, tx.get_order hd, Option.map_some, Option.map_some, Option.some.injEq,
    tx.order_txHash hd, hhash] at h
  exact tx.hash_ne h

end AwaitedTransaction

lemma equalFold_ne_of_ne {b c : String} (hab : equalFold a b = false) (hac : equalFold a c = true) :
    equalFold b c = false := by
  simp only [equalFold, decide_eq_true_eq, decide_eq_false_iff_not] at *
  exact fun h => hab (hac.trans h.symm)

lemma not_noDepositLost_of_two (tx : AwaitedTransaction s token) {d₁ d₂ : Deposit}
    (h : tx.deposits = d₁ :: d₂ :: ds) : ¬ NoDepositLost conf env gateway token s tx := by
  intro hall
  have hmem₁ : d₁ ∈ tx.deposits := by simp [h]
  have hmem₂ : d₂ ∈ tx.deposits := by simp [h]
  have hdistinct := tx.distinct
  rw [h, List.pairwise_cons] at hdistinct
  have hne : ∀ d ∈ d₂ :: ds, equalFold (d.log.event token).toAddress d₁.address.address = false :=
    fun d hd => equalFold_ne_of_ne (hdistinct.1 d hd) (tx.equalFold_address hmem₁)
  have hne₂ : equalFold (d₁.log.event token).toAddress d₂.address.address = false := by
    have hsymm : equalFold (d₂.log.event token).toAddress (d₁.log.event token).toAddress = false := by
      have := hdistinct.1 d₂ (by simp)
      simpa [equalFold, eq_comm] using this
    exact equalFold_ne_of_ne hsymm (tx.equalFold_address hmem₂)
  have hcredit₁ := hall (fun _ => []) d₁ hmem₁
  have hcredit₂ := hall (fun _ => []) d₂ hmem₂
  rw [h, after_indexDeposits_cons] at hcredit₁ hcredit₂
  set t := stage conf env gateway token (fun _ => []) d₁ s with ht
  have hafter : d₂.log.txHash = tx.hash ∧ ∀ d ∈ d₂ :: ds, d.log.txHash = tx.hash :=
    ⟨tx.txHash d₂ hmem₂, fun d hd => tx.txHash d (by rw [h]; exact List.mem_cons_of_mem _ hd)⟩
  rcases stage_txHash_or_isLogged conf env gateway token (fun _ => []) d₁ s d₁.order.id with
    hsame | hlog
  · -- the first deposit was not credited by its own delivery, and no other reaches its order
    refine tx.not_credited_of_txHash hmem₁ ?_ hcredit₁
    rw [after_indexDeposits_get ((addressOf_stage d₁ s _).trans (tx.addressOf_order hmem₁)) hne]
    exact hsame
  · -- the transaction is logged, so the second deposit is passed over
    refine tx.not_credited_of_txHash hmem₂ ?_ hcredit₂
    have hrows : ∃ l ∈ t.transactionLogs.rows, l.txHash = tx.hash := by
      rw [isLogged_iff, TransferLog.event, tx.txHash d₁ hmem₁] at hlog
      exact hlog
    rw [after_indexDeposits_of_isLogged hafter.2 hrows, ht,
      stage_get_of_address (tx.addressOf_order hmem₂) hne₂]

section Single

variable {q : PaymentOrder × ReceiveAddress}

lemma awaiting_eq_of_id {addresses : List String} (hp : p ∈ s.awaitingOrders addresses)
    (hq : q ∈ s.awaitingOrders addresses) (h : p.1.id = q.1.id) : p = q := by
  obtain ⟨hpmem, hpr, -⟩ := mem_awaitingOrders.1 hp
  obtain ⟨hqmem, hqr, -⟩ := mem_awaitingOrders.1 hq
  have hget := Table.get_of_mem hpmem
  rw [h, Table.get_of_mem hqmem] at hget
  rw [h, hqr] at hpr
  exact Prod.ext (Option.some.inj hget).symm (Option.some.inj hpr).symm

lemma awaitingOrders_nodup (s : Store) (addresses : List String) :
    (s.awaitingOrders addresses).Nodup := by
  refine s.paymentOrders.nodup_keys.of_map.filterMap fun o o' b hb hb' => ?_
  obtain ⟨_, -, rfl⟩ := Option.map_eq_some_iff.1 (Option.mem_def.1 hb)
  obtain ⟨_, -, heq⟩ := Option.map_eq_some_iff.1 (Option.mem_def.1 hb')
  exact (Prod.mk.inj heq).1.symm

lemma after_processTransfers (conf : PaymentConfig) (env : PaymentEnvironment) (l : List ℕ)
    (event : TokenTransferEvent) (s : Store) :
    (processTransfers conf env l [event]).after PaymentWrite.exec s =
      (interleave l ((s.awaitingOrders [event.toAddress]).map
        (processOrder conf env [event]))).after PaymentWrite.exec s := by
  simp only [processTransfers, processReceiveAddresses, bind_attempt, after_attempt, after_bind,
    result_bind, result_ret, processLinkedAddresses, after_ignore, after_ret, after_attempt,
    PaymentWrite.exec, List.map_cons, List.map_nil]

lemma history_processOrder (hp : p.1.txHash = "" ∧ p.1.status = .initiated) :
    ∀ w ∈ (processOrder conf env [event] p).history PaymentWrite.exec [] s,
      GoroutineLabel env False s event p w := by
  refine admitted_iff_forall_mem.1 (Sound.admitted (x := (s, ())) (R := fun _ _ => True)
    (I := fun x => Evolved event s x.1) ⟨fun _ => trivial, fun _ _ => trivial,
      fun _ _ _ _ => trivial, fun w x hx hw => hw.evolved hx⟩
    (processOrder_goroutine hp _) (Evolved.refl event s) [] (Or.inr rfl))

lemma after_processOrder (hp : p ∈ s.awaitingOrders [event.toAddress])
    (hcredit : Creditable env s event p) (hlog : s.isLogged event = false)
    (hcommit : ∀ u, P ((PaymentWrite.depositCommit p.1.id event u).exec s))
    (hstep : ∀ w t, GoroutineLabel env False s event p w → P t → P (w.exec t)) :
    P ((processOrder conf env [event] p).after PaymentWrite.exec s) := by
  obtain ⟨u, reads, hreads, rest, hrest⟩ :=
    processOrder_commits conf hp hcredit [] (Or.inr ⟨rfl, hlog⟩)
  have hlabels : ∀ w ∈ (processOrder conf env [event] p).history PaymentWrite.exec [] s,
      GoroutineLabel env False s event p w := history_processOrder (awaitingOrders_unpaid hp)
  rw [after, ← hrest, exec_append, exec_append, exec_reads hreads, exec_cons, exec_nil]
  rw [← hrest] at hlabels
  refine (always_of_admitted (c := fun w _ => GoroutineLabel env False s event p w)
    (fun w t ht hw => hstep w t hw ht) (hcommit u) ?_).last
  exact admitted_iff_forall_mem.2 fun w hw => hlabels w (List.mem_append_right _ hw)

lemma silent_processOrder (hp : p.1.txHash = "" ∧ p.1.status = .initiated)
    (h : ¬ (Creditable env s event p ∧ s.isLogged event = false)) :
    Silent PaymentWrite.exec (Evolved event s) (processOrder conf env [event] p) := by
  refine Sound.silent (processOrder_goroutine (f := False) hp (s, ())) ?_
  rintro w t - (rfl | ⟨-, hcredit, hfalse | hlog⟩)
  · rfl
  · exact hfalse.elim
  · exact absurd ⟨hcredit, hlog⟩ h

lemma processOrder_pays (conf : PaymentConfig) (hp : p ∈ s.awaitingOrders [event.toAddress])
    (hcredit : Creditable env s event p) (hlog : s.isLogged event = false) :
    ∃ o ∈ ((processOrder conf env [event] p).after PaymentWrite.exec s).paymentOrders.get p.1.id,
      o.txHash = event.txHash ∧ o.amountPaid = event.value := by
  have hstored := Table.get_of_mem (mem_awaitingOrders.1 hp).1
  refine after_processOrder (P := fun t => ∃ o ∈ t.paymentOrders.get p.1.id,
    o.txHash = event.txHash ∧ o.amountPaid = event.value) hp hcredit hlog (fun u => ?_) ?_
  · have haccept := not_refusesDeposit hstored (awaitingOrders_unpaid hp).2 event u
    rw [PaymentWrite.exec_depositCommit_get haccept, if_pos rfl, hstored]
    exact ⟨_, rfl, rfl, rfl⟩
  rintro w t (rfl | ⟨hw, -, -⟩) ⟨o, ho, hpaid⟩
  · exact ⟨o, ho, hpaid⟩
  obtain ⟨g, hg, hkeeps⟩ := hw.get_exec t p.1.id
  rw [hg, Option.mem_def.1 ho]
  refine ⟨g o, rfl, ?_⟩
  rcases hkeeps o with ⟨hh, ha⟩ | hpays
  · rw [hh, ha]
    exact hpaid
  · exact hpays

lemma processOrder_logs (hp : p ∈ s.awaitingOrders [event.toAddress])
    (hcredit : Creditable env s event p) (hlog : s.isLogged event = false) :
    ((processOrder conf env [event] p).after PaymentWrite.exec s).isLogged event = true := by
  have hstored := Table.get_of_mem (mem_awaitingOrders.1 hp).1
  refine after_processOrder (P := fun t => t.isLogged event = true) hp hcredit hlog
    (fun u => ?_) ?_
  · have haccept := not_refusesDeposit hstored (awaitingOrders_unpaid hp).2 event u
    rw [isLogged_iff, PaymentWrite.exec_depositCommit_logs haccept]
    exact ⟨_, List.mem_append_right _ (List.mem_singleton_self _), rfl⟩
  · intro w t hw ht
    rcases hw with rfl | ⟨hw, -, -⟩
    · exact ht
    · exact ((Evolved.refl event t).step hw).logged ht

lemma processOrder_get_of_ne {order : ℕ} (hp : p ∈ s.awaitingOrders [event.toAddress])
    (h : order ≠ p.1.id) :
    ((processOrder conf env [event] p).after PaymentWrite.exec s).paymentOrders.get order =
      s.paymentOrders.get order := by
  refine (always_of_admitted (c := fun w _ => GoroutineLabel env False s event p w)
    (p := fun t : Store => t.paymentOrders.get order = s.paymentOrders.get order) ?_ rfl
    (admitted_iff_forall_mem.2 (history_processOrder (awaitingOrders_unpaid hp)))).last
  rintro w t ht (rfl | ⟨hw, -, -⟩)
  · exact ht
  · rw [hw.get_of_ne t h, ht]

end Single

section OneDeposit

lemma after_indexDeposits_single (l : List ℕ) :
    (indexDeposits conf env gateway token (fun _ => l) [d]).after PaymentWrite.exec s =
      stage conf env gateway token (fun _ => l) d s := by
  rw [after_indexDeposits_cons, after_indexDeposits_nil]

variable (tx : AwaitedTransaction s token)
include tx

lemma creditable_of_credited (hd : d ∈ tx.deposits)
    (h : d.Credited token tx.hash (stage conf env gateway token schedule d s)) :
    Creditable env s (d.log.event token) d.awaiting ∧ s.isLogged (d.log.event token) = false := by
  by_contra hno
  refine tx.not_credited_of_txHash hd (congrArg _ ?_) h
  refine stage_induction (P := fun t => t.paymentOrders.get d.order.id =
    s.paymentOrders.get d.order.id) d rfl ?_
  rintro w t (rfl | ⟨p, hp, rfl | ⟨hw, hcredit, hfalse | hlog⟩⟩) ht
  · exact ht
  · exact ht
  · exact hfalse.elim
  by_cases hid : d.order.id = p.1.id
  · obtain rfl := awaiting_eq_of_id hp (tx.mem_awaitingOrders_of_mem hd) hid.symm
    exact absurd ⟨hcredit, hlog⟩ hno
  · rw [hw.get_of_ne t hid, ht]

lemma value_of_credited (hd : d ∈ tx.deposits)
    (h : d.Credited token tx.hash (stage conf env gateway token schedule d s)) :
    (d.log.event token).value = d.log.value / 10 ^ token.decimals := by
  have hpaid : ∀ o ∈ (stage conf env gateway token schedule d s).paymentOrders.get d.order.id,
      o.txHash = "" ∨ o.amountPaid = (d.log.event token).value := by
    refine stage_induction (P := fun t => ∀ o ∈ t.paymentOrders.get d.order.id,
      o.txHash = "" ∨ o.amountPaid = (d.log.event token).value) d ?_ ?_
    · intro o ho
      rw [tx.get_order hd, Option.mem_some_iff] at ho
      exact Or.inl (ho ▸ tx.order_txHash hd)
    rintro w t (rfl | ⟨p, -, rfl | ⟨hw, -, -⟩⟩) ht
    · exact ht
    · exact ht
    intro o' ho'
    obtain ⟨g, hg, hkeeps⟩ := hw.get_exec t d.order.id
    rw [hg, Option.mem_def, Option.map_eq_some_iff] at ho'
    obtain ⟨o, ho, rfl⟩ := ho'
    rcases hkeeps o with ⟨hh, ha⟩ | hpays
    · rw [hh, ha]
      exact ht o ho
    · exact Or.inr hpays.2
  obtain ⟨o, ho, hhash, hamount⟩ := h
  rcases hpaid o ho with hempty | hvalue
  · exact absurd (hhash.symm.trans hempty) tx.hash_ne
  · rw [← hvalue, hamount]

lemma not_creditable_of_noDepositLost (h : tx.deposits = [d])
    (hall : NoDepositLost conf env gateway token s tx)
    (hp : p ∈ s.awaitingOrders [(d.log.event token).toAddress]) (hne : p ≠ d.awaiting) :
    ¬ Creditable env s (d.log.event token) p := by
  intro hcredit
  have hd : d ∈ tx.deposits := by simp [h]
  have hid : d.order.id ≠ p.1.id := fun hid =>
    hne (awaiting_eq_of_id hp (tx.mem_awaitingOrders_of_mem hd) hid.symm)
  have hcredited : ∀ l, d.Credited token tx.hash (stage conf env gateway token (fun _ => l) d s) := by
    intro l
    have := hall (fun _ => l) d hd
    rwa [h, after_indexDeposits_single] at this
  have hunlogged := (creditable_of_credited tx hd (hcredited [])).2
  obtain ⟨i, hi⟩ := List.mem_iff_getElem?.1 hp
  have hgo : ((s.awaitingOrders [(d.log.event token).toAddress]).map
      (processOrder conf env [d.log.event token]))[i]? =
        some (processOrder conf env [d.log.event token] p) := by
    rw [List.getElem?_map, hi, Option.map_some]
  obtain ⟨l, hfirst⟩ := exists_after_interleave_first _ hgo s
  set t := (processOrder conf env [d.log.event token] p).after PaymentWrite.exec s with ht
  have hlogged : t.isLogged (d.log.event token) = true := processOrder_logs hp hcredit hunlogged
  -- after the other order's goroutine the transaction is logged and the rest is silent
  have hsilent : ∀ q ∈ ((s.awaitingOrders [(d.log.event token).toAddress]).map
      (processOrder conf env [d.log.event token])).set i (ret ()),
        Silent PaymentWrite.exec (Evolved (d.log.event token) t) q := by
    refine forall_mem_set (List.forall_mem_map.2 fun p' hp' => ?_) trivial
    exact silent_processOrder (awaitingOrders_unpaid hp') fun hno => by simp [hlogged] at hno
  rw [after_forEach_silent hsilent (Evolved.refl _ t)] at hfirst
  refine tx.not_credited_of_txHash hd (congrArg _ ?_) (hcredited l)
  rw [stage]
  split_ifs
  · rfl
  · rw [after_processTransfers, hfirst, ht, processOrder_get_of_ne hp hid]

lemma credited_of_creditedAlone (hd : d ∈ tx.deposits) (h : CreditedAlone env gateway token s d)
    (l : List ℕ) : d.Credited token tx.hash (stage conf env gateway token (fun _ => l) d s) := by
  have hmem := tx.mem_awaitingOrders_of_mem hd
  obtain ⟨i, hi⟩ := List.mem_iff_getElem?.1 hmem
  have hgo : ((s.awaitingOrders [(d.log.event token).toAddress]).map
      (processOrder conf env [d.log.event token]))[i]? =
        some (processOrder conf env [d.log.event token] d.awaiting) := by
    rw [List.getElem?_map, hi, Option.map_some]
  have hothers : ∀ j q, j ≠ i → ((s.awaitingOrders [(d.log.event token).toAddress]).map
      (processOrder conf env [d.log.event token]))[j]? = some q →
        Silent PaymentWrite.exec (Evolved (d.log.event token) s) q := by
    intro j q hji hq
    rw [List.getElem?_map, Option.map_eq_some_iff] at hq
    obtain ⟨p, hj, rfl⟩ := hq
    have hp := List.mem_of_getElem? hj
    have hne : p ≠ d.awaiting := by
      rintro rfl
      exact hji ((List.getElem?_inj (List.getElem?_eq_some_iff.1 hj).1
        (awaitingOrders_nodup s _)).1 (hj.trans hi.symm))
    exact silent_processOrder (awaitingOrders_unpaid hp) fun hc => h.others p hp hne hc.1
  have halways : Always PaymentWrite.exec (Evolved (d.log.event token) s) s
      ((processOrder conf env [d.log.event token] d.awaiting).history PaymentWrite.exec [] s) :=
    always_of_admitted
      (c := fun w _ => GoroutineLabel env False s (d.log.event token) d.awaiting w)
      (fun w t ht hw => hw.evolved ht) (Evolved.refl _ s)
      (admitted_iff_forall_mem.2 (history_processOrder (awaitingOrders_unpaid hmem)))
  obtain ⟨o, ho, hhash, hamount⟩ := processOrder_pays conf hmem h.creditable h.unlogged
  rw [stage, h.notGateway, if_neg (by simp), after_processTransfers,
    after_interleave_of_silent l hgo hothers halways]
  refine ⟨o, ho, hhash.trans (tx.txHash d hd), ?_⟩
  rw [hamount]
  exact (Decimal.div_pow_eq_iff _ _).2 h.exact

end OneDeposit

theorem noDepositLost_iff (conf : PaymentConfig) (env : PaymentEnvironment) (gateway : String)
    (token : Token) (s : Store) (tx : AwaitedTransaction s token) :
    NoDepositLost conf env gateway token s tx ↔
      tx.deposits = [] ∨ ∃ d, tx.deposits = [d] ∧ CreditedAlone env gateway token s d := by
  constructor
  · intro hall
    match h : tx.deposits with
    | [] => exact Or.inl rfl
    | [d] =>
      have hd : d ∈ tx.deposits := by simp [h]
      have hcredited : d.Credited token tx.hash
          (stage conf env gateway token (fun _ => []) d s) := by
        have := hall (fun _ => []) d hd
        rwa [h, after_indexDeposits_single] at this
      obtain ⟨hcredit, hlog⟩ := creditable_of_credited tx hd hcredited
      have hgateway : equalFold d.log.fromAddress gateway = false := by
        by_contra hg
        refine tx.not_credited_of_txHash hd (congrArg _ ?_) hcredited
        rw [stage, if_pos (by simpa using hg)]
      have hexact := (Decimal.div_pow_eq_iff _ _).1 (value_of_credited tx hd hcredited)
      exact Or.inr ⟨d, rfl, hgateway, hexact, hcredit, hlog,
        fun p hp hne => not_creditable_of_noDepositLost tx h hall hp hne⟩
    | d₁ :: d₂ :: ds => exact absurd hall (not_noDepositLost_of_two tx h)
  · rintro (h | ⟨d, h, halone⟩) schedule
    · simp [h]
    intro d' hd'
    rw [h, List.mem_singleton] at hd'
    subst hd'
    have hd : d' ∈ tx.deposits := by simp [h]
    rw [h, after_indexDeposits_cons, after_indexDeposits_nil]
    exact credited_of_creditedAlone tx hd halone (schedule d')

/-! Two orders with addresses of their own, and a transaction that pays both. -/

def addressedOrder (id : ℕ) (a : String) : Deposit where
  log := ⟨"0xsender", a, 100000000, 1, "0x1"⟩
  order := Sample.paymentOrder id
  address := { Sample.receiveAddress id with address := a }

def twoOrders : Store :=
  { Store.empty with
    paymentOrders := ⟨[Sample.paymentOrder 1, Sample.paymentOrder 2], by decide⟩
    receiveAddresses := ⟨[(addressedOrder 1 "0xa1").address, (addressedOrder 2 "0xa2").address],
      by decide⟩ }

def twoTransfers : AwaitedTransaction twoOrders Sample.token where
  hash := "0x1"
  deposits := [addressedOrder 1 "0xa1", addressedOrder 2 "0xa2"]
  hash_ne := by decide
  txHash := by decide
  positive := by decide
  distinct := by decide +kernel
  awaited := by
    have h₁ : twoOrders.awaitingOrders [((addressedOrder 1 "0xa1").log.event Sample.token).toAddress] =
        [(addressedOrder 1 "0xa1").awaiting] := by decide +kernel
    have h₂ : twoOrders.awaitingOrders [((addressedOrder 2 "0xa2").log.event Sample.token).toAddress] =
        [(addressedOrder 2 "0xa2").awaiting] := by decide +kernel
    intro d hd p
    simp only [List.mem_cons, List.not_mem_nil, or_false] at hd
    rcases hd with rfl | rfl
    · rw [h₁, List.mem_singleton]
      exact ⟨fun h => h.1, fun h => ⟨h, h ▸ rfl⟩⟩
    · rw [h₂, List.mem_singleton]
      exact ⟨fun h => h.1, fun h => ⟨h, h ▸ rfl⟩⟩

theorem second_deposit_lost :
    ¬ NoDepositLost {} .silent "0xgateway" Sample.token twoOrders twoTransfers :=
  not_noDepositLost_of_two twoTransfers rfl

end Stablenode.DepositLoss
