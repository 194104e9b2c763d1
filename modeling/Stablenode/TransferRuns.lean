import Stablenode.Deposits
import Stablenode.Interleaving

/-! One delivery of a transfer: which of the awaiting orders its goroutines can credit, and what
they write. -/
namespace Stablenode

open Proc Run

inductive CreditLabel (event : TokenTransferEvent) (p : PaymentOrder × ReceiveAddress) :
    PaymentWrite → Prop where
  | read : CreditLabel event p .read
  | commit (u : DepositUpdate) : CreditLabel event p (.depositCommit p.1.id event u)
  | mark : CreditLabel event p (.markAddressUsed p.2.id event)
  | validUntil (time : ℕ) : CreditLabel event p (.setAddressValidUntil p.2.id time)
  | expire : CreditLabel event p (.expireAddress p.2.id)
  | createOrder (cause : CreateOrderCause) : CreditLabel event p (.createOrder cause p.1.id)
  | update (u : PaymentOrderUpdate) (h : ∀ a, u ≠ .amountPaid a) :
      CreditLabel event p (.update p.1.id u)
  | call (c : ExternalCall) : CreditLabel event p (.call c)

inductive FinishLabel (event : TokenTransferEvent) (p : PaymentOrder × ReceiveAddress) :
    PaymentWrite → Prop where
  | read : FinishLabel event p .read
  | mark : FinishLabel event p (.markAddressUsed p.2.id event)
  | validUntil (time : ℕ) : FinishLabel event p (.setAddressValidUntil p.2.id time)
  | expire : FinishLabel event p (.expireAddress p.2.id)
  | createOrder (cause : CreateOrderCause) : FinishLabel event p (.createOrder cause p.1.id)
  | update (u : PaymentOrderUpdate) (h : ∀ a, u ≠ .amountPaid a) :
      FinishLabel event p (.update p.1.id u)
  | call (c : ExternalCall) : FinishLabel event p (.call c)

variable {w : PaymentWrite} {o : PaymentOrder} {t : Store} {r : ReceiveAddress}

lemma FinishLabel.credit {event : TokenTransferEvent} {p : PaymentOrder × ReceiveAddress}
    (h : FinishLabel event p w) : CreditLabel event p w := by
  cases h with
  | read => exact .read
  | mark => exact .mark
  | validUntil time => exact .validUntil time
  | expire => exact .expire
  | createOrder cause => exact .createOrder cause
  | update u h => exact .update u h
  | call c => exact .call c

structure Creditable (env : PaymentEnvironment) (s : Store) (event : TokenTransferEvent)
    (p : PaymentOrder × ReceiveAddress) : Prop where
  free : s.addressTaken p.2 event = false
  hash : event.txHash ≠ ""
  update : (depositUpdate env s.now p.1 event).isSome

instance (env : PaymentEnvironment) (s : Store) (event : TokenTransferEvent)
    (p : PaymentOrder × ReceiveAddress) : Decidable (Creditable env s event p) :=
  decidable_of_iff (s.addressTaken p.2 event = false ∧ event.txHash ≠ "" ∧
      (depositUpdate env s.now p.1 event).isSome)
    ⟨fun h => ⟨h.1, h.2.1, h.2.2⟩, fun h => ⟨h.1, h.2, h.3⟩⟩

structure Evolved (event : TokenTransferEvent) (s t : Store) : Prop where
  now : t.now = s.now
  logged : s.isLogged event = true → t.isLogged event = true
  taken : (∃ r ∈ s.receiveAddresses.rows, r.txHash = event.txHash) →
    ∃ r ∈ t.receiveAddresses.rows, r.txHash = event.txHash

variable {conf : PaymentConfig} {env : PaymentEnvironment} {event : TokenTransferEvent}
  {p : PaymentOrder × ReceiveAddress}

section Labels

lemma updatePaymentOrder_uses {α : Type} {u : PaymentOrderUpdate} (hu : ∀ a, u ≠ .amountPaid a)
    {e : String} {k : PaymentProgram (Except String α)} (hk : Uses (FinishLabel event p) k) :
    Uses (FinishLabel event p) (updatePaymentOrder p.1.id u e k) := by
  refine uses_attempt (.update u hu) (uses_ret _) fun s => ?_
  split_ifs
  · exact uses_ret _
  · exact hk

lemma sendCreateOrder_uses (ho : o.id = p.1.id) :
    Uses (FinishLabel event p) (sendCreateOrder env o) := by
  rw [sendCreateOrder, ho]
  split
  · exact uses_ret _
  split
  · exact uses_ret _
  refine updatePaymentOrder_uses (by simp) (updatePaymentOrder_uses (by simp) ?_)
  split_ifs
  · exact uses_attempt (.call _) (uses_ret _) fun _ => uses_ret _
  · exact uses_ret _

lemma createOrder_uses (cause : CreateOrderCause) :
    Uses (FinishLabel event p) (createOrder env cause p.1.id) := by
  refine uses_attempt (.createOrder cause) (uses_ret _) fun s => ?_
  split
  · exact uses_ret _
  rename_i o ho
  have hid : o.id = p.1.id := Table.get_key ho
  split_ifs
  · split
    · exact uses_ret _
    split
    · exact uses_ret _
    split_ifs
    · exact sendCreateOrder_uses hid
    refine updatePaymentOrder_uses (by simp) (uses_attempt .read (uses_ret _) fun s => ?_)
    split
    · exact uses_ret _
    · exact sendCreateOrder_uses (Table.get_key ‹_›)
  · exact sendCreateOrder_uses hid

lemma handleReceiveAddressValidity_uses (now : ℕ) :
    Uses (FinishLabel event p) (handleReceiveAddressValidity conf now p.2 p.1) := by
  unfold handleReceiveAddressValidity
  split
  · exact uses_ret _
  split_ifs
  · exact uses_ret _
  · exact uses_attempt (.validUntil _) (uses_ret _) fun _ => uses_ret _
  · exact uses_attempt .expire (uses_ret _) fun _ =>
      updatePaymentOrder_uses (by simp) (uses_ignore (.call _) (uses_ret _))
  · exact uses_ret _

lemma finishDeposit_uses (now : ℕ) (amount : ℚ) :
    Uses (FinishLabel event p) (finishDeposit conf env now p.2 p.1 event amount) := by
  rw [finishDeposit]
  split_ifs
  · refine uses_attempt .mark (uses_ret _) fun s => ?_
    split_ifs
    · exact uses_ret _
    · refine uses_bind (createOrder_uses _) fun r => ?_
      split <;> exact uses_ret _
  · refine uses_bind (handleReceiveAddressValidity_uses now) fun r => ?_
    split <;> exact uses_ret _

end Labels

variable {s : Store}

section Effects

lemma CreditLabel.get_of_ne (h : CreditLabel event p w) (s : Store) {id : ℕ} (hid : id ≠ p.1.id) :
    (w.exec s).paymentOrders.get id = s.paymentOrders.get id := by
  cases h with
  | commit u =>
    by_cases hr : s.refusesDeposit p.1.id event u = true
    · simp only [PaymentWrite.exec, hr, if_true]
    · rw [PaymentWrite.exec_depositCommit_get (by simpa using hr), if_neg hid]
  | update u _ =>
    by_cases hr : s.refusesUpdate p.1.id u = true
    · simp only [PaymentWrite.exec, hr, if_true]
    · rw [PaymentWrite.exec_update_get (by simpa using hr), if_neg hid]
  | _ => rfl

def KeepsOrPays (event : TokenTransferEvent) (o o' : PaymentOrder) : Prop :=
  (o'.txHash = o.txHash ∧ o'.amountPaid = o.amountPaid) ∨
    (o'.txHash = event.txHash ∧ o'.amountPaid = event.value)

lemma CreditLabel.get_exec (h : CreditLabel event p w) (s : Store) (order : ℕ) :
    ∃ g, (w.exec s).paymentOrders.get order = (s.paymentOrders.get order).map g ∧
      ∀ o, KeepsOrPays event o (g o) := by
  have hkeep : ∀ t : Store, t.paymentOrders.get order = s.paymentOrders.get order →
      ∃ g, t.paymentOrders.get order = (s.paymentOrders.get order).map g ∧
        ∀ o, KeepsOrPays event o (g o) :=
    fun t ht => ⟨id, by rw [ht, Option.map_id, id], fun o => Or.inl ⟨rfl, rfl⟩⟩
  by_cases horder : order = p.1.id
  · subst horder
    cases h with
    | commit u =>
      by_cases hr : s.refusesDeposit p.1.id event u = true
      · exact hkeep _ (by simp only [PaymentWrite.exec, hr, if_true])
      · refine ⟨fun o => { u.apply event o with updatedAt := s.now }, ?_, fun o => Or.inr ⟨rfl, rfl⟩⟩
        rw [PaymentWrite.exec_depositCommit_get (by simpa using hr), if_pos rfl]
    | update u hu =>
      by_cases hr : s.refusesUpdate p.1.id u = true
      · exact hkeep _ (by simp only [PaymentWrite.exec, hr, if_true])
      refine ⟨fun o => { u.apply o with updatedAt := s.now }, ?_, fun o => Or.inl ?_⟩
      · rw [PaymentWrite.exec_update_get (by simpa using hr), if_pos rfl]
      · cases u with
        | amountPaid a => exact absurd rfl (hu a)
        | _ => exact ⟨rfl, rfl⟩
    | _ => exact hkeep _ rfl
  · exact hkeep _ (h.get_of_ne s horder)

lemma mem_receiveAddresses_update {address : ℕ} {f : ReceiveAddress → ReceiveAddress}
    {hf : ∀ r, (f r).id = r.id} {hash : String} (hhash : ∀ r, r.txHash = hash → (f r).txHash = hash)
    (h : ∃ r ∈ s.receiveAddresses.rows, r.txHash = hash) :
    ∃ r ∈ (s.updateReceiveAddress address f hf).receiveAddresses.rows, r.txHash = hash := by
  obtain ⟨r, hr, hrh⟩ := h
  refine ⟨_, List.mem_map_of_mem hr, ?_⟩
  split_ifs
  · exact hhash r hrh
  · exact hrh

lemma isLogged_iff :
    s.isLogged event = true ↔ ∃ l ∈ s.transactionLogs.rows, l.txHash = event.txHash := by
  simp [Store.isLogged]

lemma Evolved.step (hw : CreditLabel event p w) (h : Evolved event s t) :
    Evolved event s (w.exec t) := by
  cases hw with
  | commit u =>
    by_cases hr : t.refusesDeposit p.1.id event u = true
    · simpa only [PaymentWrite.exec, hr, if_true] using h
    refine ⟨?_, fun _ => ?_, fun hs => ?_⟩
    · simpa only [PaymentWrite.exec, hr, Bool.false_eq_true, if_false] using h.now
    · rw [isLogged_iff, PaymentWrite.exec_depositCommit_logs (by simpa using hr)]
      exact ⟨_, List.mem_append_right _ (List.mem_singleton_self _), rfl⟩
    · simpa only [PaymentWrite.exec, hr, Bool.false_eq_true, if_false] using h.taken hs
  | mark => exact ⟨h.now, h.logged, fun hs => mem_receiveAddresses_update (fun _ _ => rfl) (h.taken hs)⟩
  | validUntil time | expire =>
    exact ⟨h.now, h.logged, fun hs => mem_receiveAddresses_update (fun _ hr => hr) (h.taken hs)⟩
  | update u _ =>
    simp only [PaymentWrite.exec]
    split_ifs
    · exact h
    · exact ⟨h.now, h.logged, h.taken⟩
  | _ => exact ⟨h.now, h.logged, h.taken⟩

lemma Evolved.refl (event : TokenTransferEvent) (s : Store) : Evolved event s s :=
  ⟨rfl, id, id⟩

lemma Evolved.addressTaken (h : Evolved event s t) (hs : s.addressTaken r event = true) :
    t.addressTaken r event = true := by
  simp only [Store.addressTaken, List.any_eq_true, decide_eq_true_eq] at hs ⊢
  exact ⟨h.taken hs.1, hs.2⟩

end Effects

section Delivery

variable {f : Prop}

def GoroutineLabel (env : PaymentEnvironment) (f : Prop) (s : Store) (event : TokenTransferEvent)
    (p : PaymentOrder × ReceiveAddress) (w : PaymentWrite) : Prop :=
  w = .read ∨
    (CreditLabel event p w ∧ Creditable env s event p ∧ (f ∨ s.isLogged event = false))

def DeliveryLabel (env : PaymentEnvironment) (f : Prop) (s : Store) (event : TokenTransferEvent)
    (w : PaymentWrite) : Prop :=
  w = .read ∨ ∃ p ∈ s.awaitingOrders [event.toAddress], GoroutineLabel env f s event p w

lemma GoroutineLabel.evolved (hw : GoroutineLabel env f s event p w) (h : Evolved event s t) :
    Evolved event s (w.exec t) := by
  rcases hw with rfl | ⟨hw, -, -⟩
  · exact h
  · exact h.step hw

lemma delivery_rely (env : PaymentEnvironment) (f : Prop) (s : Store) (event : TokenTransferEvent) :
    Rely PaymentWrite.exec (fun _ _ (g : Unit) => g) (fun _ _ => True)
      (fun x => Evolved event s x.1) (fun w _ => DeliveryLabel env f s event w) where
  refl _ := trivial
  trans _ _ := trivial
  step _ _ _ _ := trivial
  inv w x hx hw := by
    rcases hw with rfl | ⟨p, -, hw⟩
    · exact hx
    · exact hw.evolved hx

lemma deposit_labels (hp : p.1.txHash = "" ∧ p.1.status = .initiated)
    (hfree : s.addressTaken p.2 event = false) (hhash : event.txHash ≠ "")
    (hlog : f ∨ s.isLogged event = false) (x : Store × Unit) :
    Sound PaymentWrite.exec (fun _ _ g => g) (fun _ _ => True) (fun x => Evolved event s x.1)
      (fun w _ => GoroutineLabel env f s event p w) f (deposit conf env p.2 p.1 event) x := by
  refine sound_attempt (fun y _ _ => Or.inl rfl) (fun _ y _ _ => sound_ret _ y) fun y _ hy => ?_
  rw [hy.now]
  split
  · exact sound_ret _ _
  rename_i u hu
  have hcredit : Creditable env s event p := ⟨hfree, hhash, by simp [hu]⟩
  have hlabel : ∀ w, CreditLabel event p w → GoroutineLabel env f s event p w :=
    fun w hw => Or.inr ⟨hw, hcredit, hlog⟩
  rw [if_pos ⟨Or.inl hp.1, hp.2⟩]
  refine sound_attempt (fun z _ _ => hlabel _ (.commit u)) (fun _ z _ _ => sound_ret _ z)
    fun z _ _ => ?_
  split_ifs
  · exact sound_ret _ _
  · exact (finishDeposit_uses _ _).sound (fun w _ hw _ => hlabel w hw.credit) _

lemma updateReceiveAddressStatus_labels (hp : p.1.txHash = "" ∧ p.1.status = .initiated)
    (x : Store × Unit) :
    Sound PaymentWrite.exec (fun _ _ g => g) (fun _ _ => True) (fun x => Evolved event s x.1)
      (fun w _ => GoroutineLabel env f s event p w) f
      (updateReceiveAddressStatus conf env p.2 p.1 event) x := by
  rw [updateReceiveAddressStatus]
  split
  · refine sound_attempt (fun y _ _ => Or.inl rfl) (fun _ y _ _ => sound_ret _ y) fun y _ hy => ?_
    split
    · exact sound_ret _ _
    rename_i htaken
    have hfree : s.addressTaken p.2 event = false := by
      by_contra hno
      exact htaken (hy.addressTaken (by simpa using hno))
    split
    · exact sound_ret _ _
    rename_i hne
    have hhash : event.txHash ≠ "" := fun h => hne (hp.1.trans h.symm)
    refine sound_attempt (fun z _ _ => Or.inl rfl)
      (fun hf z _ _ => deposit_labels hp hfree hhash (Or.inl hf) z) fun z _ hz => ?_
    split
    · exact sound_ret _ _
    rename_i hlogged
    have hlog : s.isLogged event = false := by
      by_contra hno
      exact hlogged (hz.logged (by simpa using hno))
    exact deposit_labels hp hfree hhash (Or.inr hlog) _
  · exact sound_ret _ _

lemma processOrder_goroutine (hp : p.1.txHash = "" ∧ p.1.status = .initiated) (x : Store × Unit) :
    Sound PaymentWrite.exec (fun _ _ g => g) (fun _ _ => True) (fun x => Evolved event s x.1)
      (fun w _ => GoroutineLabel env f s event p w) f (processOrder conf env [event] p) x := by
  unfold processOrder
  split
  · exact sound_ret _ _
  rename_i e he
  obtain rfl : e = event := by
    have := List.mem_of_find?_eq_some he
    simpa using this
  exact sound_discard (updateReceiveAddressStatus_labels hp x)

lemma processOrder_labels (hp : p ∈ s.awaitingOrders [event.toAddress]) (x : Store × Unit) :
    Sound PaymentWrite.exec (fun _ _ g => g) (fun _ _ => True) (fun x => Evolved event s x.1)
      (fun w _ => DeliveryLabel env f s event w) f (processOrder conf env [event] p) x :=
  (processOrder_goroutine (awaitingOrders_unpaid hp) x).imp fun _ _ _ hw => Or.inr ⟨p, hp, hw⟩

lemma goroutines_labels {β : Type} (schedule : List ℕ) (faults : List Bool) (hf : f ∨ faults = [])
    {g : Except String Unit → PaymentProgram β}
    (hg : ∀ r, Uses (fun w => DeliveryLabel env f s event w) (g r)) :
    ∀ w ∈ (((interleave schedule ((s.awaitingOrders [event.toAddress]).map
        (processOrder conf env [event]))).bind fun _ => ret (.ok ())).bind g).history
          PaymentWrite.exec faults s,
      DeliveryLabel env f s event w := by
  have hR := delivery_rely env f s event
  have hI : Evolved event s s := Evolved.refl event s
  refine admitted_iff_forall_mem.1 (Sound.admitted (x := (s, ())) hR ?_ hI faults hf)
  refine sound_bind hR (sound_bind hR ?_ (fun _ y _ _ => sound_ret _ y) hI)
    (fun r y _ _ => (hg r).sound (fun _ _ hw _ => hw) y) hI
  refine sound_interleave hR schedule hI fun q hq => ?_
  obtain ⟨p, hp, rfl⟩ := List.mem_map.1 hq
  exact processOrder_labels hp _

theorem processTransfers_labels (schedule : List ℕ) (faults : List Bool) (hf : f ∨ faults = []) :
    ∀ w ∈ (processTransfers conf env schedule [event]).history PaymentWrite.exec faults s,
      DeliveryLabel env f s event w := by
  rw [processTransfers, processReceiveAddresses, bind_attempt]
  rcases faults with _ | ⟨_ | _, fs⟩
  case cons.true => simp [attempt, history, fail]
  all_goals
    simp only [attempt, history, List.mem_cons, forall_eq_or_imp]
    refine ⟨Or.inl rfl, goroutines_labels schedule _ (hf.imp_right (by simp)) fun r => ?_⟩
    cases r with
    | error e => exact uses_ret _
    | ok _ => exact uses_ignore (Or.inl rfl) (uses_ret _)

lemma mem_awaitingOrders {addresses : List String} :
    p ∈ s.awaitingOrders addresses ↔
      p.1 ∈ s.paymentOrders.rows ∧ s.receiveAddressOf p.1.id = some p.2 ∧
        awaits s addresses p.1 p.2 = true := by
  obtain ⟨o, r⟩ := p
  simp only [Store.awaitingOrders, List.mem_filterMap, Option.map_eq_some_iff,
    Option.filter_eq_some_iff, Prod.mk.injEq]
  constructor
  · rintro ⟨_, hmem, _, ⟨hr, haw⟩, rfl, rfl⟩
    exact ⟨hmem, hr, haw⟩
  · rintro ⟨hmem, hr, haw⟩
    exact ⟨o, hmem, r, ⟨hr, haw⟩, rfl, rfl⟩

lemma equalFold_of_awaits {a : String} (h : awaits s [a] o r = true) :
    equalFold a r.address = true := by
  simp only [awaits, List.any_cons, List.any_nil, Bool.or_false, decide_eq_true_eq] at h
  simpa [equalFold, eq_comm] using h.2.2.1

lemma processOrder_of_awaiting (hp : p ∈ s.awaitingOrders [event.toAddress]) :
    processOrder conf env [event] p =
      (updateReceiveAddressStatus conf env p.2 p.1 event).discard := by
  have hfold := equalFold_of_awaits (mem_awaitingOrders.1 hp).2.2
  simp [processOrder, hfold]

lemma not_refusesDeposit (ho : t.paymentOrders.get o.id = some o) (hst : o.status = .initiated)
    (event : TokenTransferEvent) (u : DepositUpdate) : t.refusesDeposit o.id event u = false := by
  rw [Store.refusesDeposit, Store.paymentUpdateRaises, List.any_eq_false]
  intro o' ho'
  obtain ⟨hmem, hid⟩ := List.mem_filter.1 ho'
  have hget := Table.get_of_mem hmem
  rw [of_decide_eq_true hid, ho] at hget
  obtain rfl := Option.some.inj hget
  simp [raisesDuplicate, DepositUpdate.apply, hst]

lemma processOrder_commits (conf : PaymentConfig) (hp : p ∈ s.awaitingOrders [event.toAddress])
    (hc : Creditable env s event p) (faults : List Bool)
    (hlog : faults = [false, true] ∨ (faults = [] ∧ s.isLogged event = false)) :
    ∃ u reads, (∀ w ∈ reads, w = .read) ∧ reads ++ [.depositCommit p.1.id event u] <+:
      (processOrder conf env [event] p).history PaymentWrite.exec faults s := by
  obtain ⟨u, hu⟩ := Option.isSome_iff_exists.1 hc.update
  obtain ⟨hempty, hinit⟩ := awaitingOrders_unpaid hp
  have hfold := equalFold_of_awaits (mem_awaitingOrders.1 hp).2.2
  rw [processOrder_of_awaiting hp, Proc.discard]
  rcases hlog with rfl | ⟨rfl, hunlogged⟩
  · refine ⟨u, [.read, .read], by simp, List.IsPrefix.trans ?_ (history_prefix_bind _ _ _ _)⟩
    simp [updateReceiveAddressStatus, hfold, hc.free, hc.hash, deposit, attempt, history,
      PaymentWrite.exec, hu, hempty, hinit]
  · refine ⟨u, [.read, .read, .read], by simp, List.IsPrefix.trans ?_ (history_prefix_bind _ _ _ _)⟩
    simp [updateReceiveAddressStatus, hfold, hc.free, hc.hash, deposit, attempt,
      PaymentWrite.exec, hu, hempty, hinit, hunlogged]

lemma exec_reads {reads : List PaymentWrite} (h : ∀ w ∈ reads, w = .read) (s : Store) :
    Run.exec PaymentWrite.exec s reads = s := by
  induction reads with
  | nil => rfl
  | cons w ws ih =>
    obtain rfl := h w (by simp)
    exact ih fun v hv => h v (by simp [hv])

end Delivery

end Stablenode
