import Stablenode.PaymentTasks

/-! What pays for the orders that are created on chain. -/
namespace Stablenode.Funding

open Proc Run

structure Payments where
  credits : List (ℕ × TokenTransferEvent)
  polled : List ℕ
  deriving DecidableEq

def Payments.credited (p : Payments) (order : ℕ) : ℚ :=
  ((p.credits.filter fun c => c.1 = order).map fun c => c.2.value).sum

def payments : PaymentWrite → Store → Payments → Payments
  | .depositCommit order event u, s, p =>
    if s.refusesDeposit order event u then p
    else { p with credits := (order, event) :: p.credits }
  | .update order (.amountPaid _), _, p => { p with polled := order :: p.polled }
  | _, _, p => p

inductive Task where
  | delivery (schedule : List ℕ) (events : List TokenTransferEvent)
  | poll
  | retry
  deriving DecidableEq

variable (conf : PaymentConfig) (env : PaymentEnvironment)

def Task.program : Task → PaymentProgram Unit
  | delivery schedule events => (processReceiveAddresses conf env schedule events).discard
  | poll => pollPendingOrders conf env
  | retry => retryStaleUserOperations env

def Task.events : Task → List TokenTransferEvent
  | delivery _ events => events
  | _ => []

def tasksProgram (schedule : List ℕ) (tasks : List Task) : PaymentProgram Unit :=
  interleave schedule (tasks.map (Task.program conf env))

def Justified : PaymentWrite → Store × Payments → Prop
  | .createOrder (.deposit event amount fees decimals) order, x =>
    0 < event.value ∧ (order, event) ∈ x.2.credits ∧ Covers event.value amount fees decimals
  | .createOrder (.retry orderAmountWithFees) order, x =>
    order ∈ x.2.polled ∨ orderAmountWithFees ≤ x.2.credited order
  | .depositCommit _ event _, _ => 0 ≤ event.value
  | _, _ => True

variable {conf env}

structure Credited (x : Store × Payments) : Prop where
  paid_le : ∀ o ∈ x.1.paymentOrders.rows, o.id ∈ x.2.polled ∨ o.amountPaid ≤ x.2.credited o.id
  nonneg : ∀ c ∈ x.2.credits, 0 ≤ c.2.value

structure Grows (x y : Store × Payments) : Prop where
  polled : x.2.polled ⊆ y.2.polled
  credits : x.2.credits ⊆ y.2.credits
  credited : ∀ o, x.2.credited o ≤ y.2.credited o

lemma credited_cons (p : Payments) (order o : ℕ) (event : TokenTransferEvent) :
    Payments.credited { p with credits := (order, event) :: p.credits } o =
      (if order = o then event.value else 0) + p.credited o := by
  simp only [Payments.credited, List.filter_cons]
  by_cases h : order = o <;> simp [h]

variable {x : Store × Payments} {o : PaymentOrder}

lemma Credited.credited_nonneg (h : Credited x) (o : ℕ) : 0 ≤ x.2.credited o := by
  refine List.sum_nonneg fun v hv => ?_
  obtain ⟨c, hc, rfl⟩ := List.mem_map.1 hv
  exact h.nonneg c (List.mem_of_mem_filter hc)

lemma amountPaid_exec {w : PaymentWrite} {s : Store} {o' : PaymentOrder}
    (h : o' ∈ (w.exec s).paymentOrders.rows) :
    ∃ o ∈ s.paymentOrders.rows, o'.id = o.id ∧
      (o'.amountPaid = o.amountPaid ∨
        (∃ event u, w = .depositCommit o.id event u ∧ s.refusesDeposit o.id event u = false ∧
          o'.amountPaid = event.value) ∨
        ∃ a, w = .update o.id (.amountPaid a)) := by
  cases w with
  | depositCommit order event u =>
    by_cases hr : s.refusesDeposit order event u = true
    · simp only [PaymentWrite.exec, hr, if_true] at h
      exact ⟨o', h, rfl, Or.inl rfl⟩
    simp only [PaymentWrite.exec, hr] at h
    obtain ⟨o, ho, rfl⟩ := List.mem_map.1 h
    refine ⟨o, ho, ?_⟩
    by_cases hid : o.id = order
    · simp only [hid, decide_true, if_true]
      exact ⟨hid, Or.inr (Or.inl ⟨event, u, rfl, by simpa using hr, rfl⟩)⟩
    · simp [hid]
  | update order u =>
    by_cases hr : s.refusesUpdate order u = true
    · simp only [PaymentWrite.exec, hr, if_true] at h
      exact ⟨o', h, rfl, Or.inl rfl⟩
    simp only [PaymentWrite.exec, hr] at h
    obtain ⟨o, ho, rfl⟩ := List.mem_map.1 h
    refine ⟨o, ho, ?_⟩
    by_cases hid : o.id = order
    · subst hid
      cases u with
      | amountPaid a => exact ⟨by simp [PaymentOrderUpdate.apply], Or.inr (Or.inr ⟨a, rfl⟩)⟩
      | _ => simp [PaymentOrderUpdate.apply]
    · simp [hid]
  | _ => exact ⟨o', h, rfl, Or.inl rfl⟩

lemma grows_step (w : PaymentWrite) (x : Store × Payments) (hw : Justified w x) :
    Grows x (watch PaymentWrite.exec payments w x) := by
  have hsame : Grows x ((w.exec x.1), x.2) :=
    ⟨List.Subset.refl _, List.Subset.refl _, fun _ => le_refl _⟩
  cases w with
  | depositCommit order event u =>
    simp only [watch, payments]
    split_ifs
    · exact hsame
    refine ⟨List.Subset.refl _, List.subset_cons_self _ _, fun o => ?_⟩
    have hvalue : 0 ≤ event.value := hw
    rw [credited_cons]
    split_ifs <;> linarith
  | update order u =>
    cases u with
    | amountPaid a => exact ⟨List.subset_cons_self _ _, List.Subset.refl _, fun _ => le_refl _⟩
    | _ => exact hsame
  | _ => exact hsame

lemma credited_step (w : PaymentWrite) (x : Store × Payments) (hx : Credited x)
    (hw : Justified w x) : Credited (watch PaymentWrite.exec payments w x) := by
  have hgrows := grows_step w x hw
  refine ⟨fun o' ho' => ?_, ?_⟩
  · obtain ⟨o, ho, hid, hpaid⟩ := amountPaid_exec ho'
    rw [hid]
    rcases hpaid with hsame | ⟨event, u, rfl, hr, hvalue⟩ | ⟨a, rfl⟩
    · rw [hsame]
      rcases hx.paid_le o ho with hpolled | hle
      · exact Or.inl (hgrows.polled hpolled)
      · exact Or.inr (hle.trans (hgrows.credited o.id))
    · right
      have hnonneg := hx.credited_nonneg o.id
      simp only [watch, payments, hr, Bool.false_eq_true, if_false]
      rw [hvalue, credited_cons, if_pos rfl]
      linarith
    · exact Or.inl (List.mem_cons_self ..)
  · intro c hc
    cases w with
    | depositCommit order event u =>
      simp only [watch, payments] at hc
      split_ifs at hc
      · exact hx.nonneg c hc
      · rcases List.mem_cons.1 hc with rfl | hc
        · exact hw
        · exact hx.nonneg c hc
    | update order u => cases u <;> exact hx.nonneg c hc
    | _ => exact hx.nonneg c hc

lemma rely : Rely PaymentWrite.exec payments Grows Credited Justified where
  refl := fun _ => ⟨List.Subset.refl _, List.Subset.refl _, fun _ => le_refl _⟩
  trans := fun h₁ h₂ => ⟨List.Subset.trans h₁.polled h₂.polled,
    List.Subset.trans h₁.credits h₂.credits, fun o => (h₁.credited o).trans (h₂.credited o)⟩
  step := fun w x _ hw => grows_step w x hw
  inv := credited_step

lemma guarantee (env : PaymentEnvironment) :
    DepositGuarantee payments Grows Credited Justified True env (fun e => 0 ≤ e.value)
      (fun _ _ _ => True) fun order event x => (order, event) ∈ x.2.credits where
  rely := rely
  quiet := by
    rintro w x - hw
    cases w with
    | depositCommit order event u => cases hw
    | createOrder cause order => cases hw
    | _ => trivial
  check := fun _ _ _ _ _ _ _ _ _ _ _ _ => trivial
  commit := fun _ _ _ _ _ h _ _ => h
  mark := fun _ _ _ _ _ => trivial
  paid_commit := fun order event u x _ hr => by
    simp only [watch, payments, hr, Bool.false_eq_true, if_false]
    exact List.mem_cons_self ..
  paid_mono := fun _ _ _ _ h hmem => h.credits hmem
  create := fun _ _ _ _ _ _ _ hpos hpaid hcovers => ⟨hpos, hpaid, hcovers⟩

lemma checkOrderPayment_sound (o : PaymentOrder) (r : ReceiveAddress) (x : Store × Payments) :
    Sound PaymentWrite.exec payments Grows Credited Justified True (checkOrderPayment env o r) x := by
  refine sound_attempt (fun _ _ _ => trivial) (fun _ y _ _ => sound_ret _ y) fun y _ _ => ?_
  dsimp only
  split_ifs
  · exact sound_ret _ _
  · exact sound_ignore rely (fun _ _ _ => trivial) fun z _ _ => sound_ret _ z
  · exact sound_ret _ _

lemma pollPendingOrders_sound (x : Store × Payments) :
    Sound PaymentWrite.exec payments Grows Credited Justified True (pollPendingOrders conf env) x := by
  refine sound_attempt (fun _ _ _ => trivial) (fun _ y _ _ => sound_ret _ y) fun y _ hy => ?_
  refine sound_forEach rely (rely.inv .read y hy trivial) fun o _ z _ _ => ?_
  split
  · exact sound_ret _ _
  · exact checkOrderPayment_sound _ _ _

lemma retryOrder_sound {y : Store × Payments} (hx : Credited x) (ho : o ∈ x.1.paymentOrders.rows)
    (hxy : Grows x y) :
    Sound PaymentWrite.exec payments Grows Credited Justified True (retryOrder env o) y := by
  rw [retryOrder]
  split_ifs with hpaid
  · refine sound_ignore rely (fun _ _ _ => trivial) fun z₁ h₁ _ => ?_
    refine sound_ignore rely (fun _ _ _ => trivial) fun z₂ h₂ hz₂ => ?_
    refine sound_bind rely ?_ (fun _ z _ _ => sound_ret _ z) hz₂
    refine createOrder_sound (guarantee env).toQuietGuarantee fun z h₃ _ => ?_
    have hxz := rely.trans hxy (rely.trans h₁ (rely.trans h₂ h₃))
    rcases hx.paid_le o ho with hpolled | hle
    · exact Or.inl (hxz.polled hpolled)
    · exact Or.inr ((hpaid.trans hle).trans (hxz.credited o.id))
  · exact sound_ret _ _

lemma mem_of_staleOrders {s : Store} (h : o ∈ s.staleOrders) : o ∈ s.paymentOrders.rows := by
  obtain ⟨o', ho', hmem⟩ := List.mem_flatMap.1 h
  obtain ⟨r, -, rfl⟩ := List.mem_map.1 hmem
  exact List.mem_of_mem_filter ho'

lemma retryStaleUserOperations_sound (x : Store × Payments) :
    Sound PaymentWrite.exec payments Grows Credited Justified True (retryStaleUserOperations env) x := by
  refine sound_attempt (fun _ _ _ => trivial) (fun _ y _ _ => sound_ret _ y) fun y _ hy => ?_
  refine sound_forEach rely (rely.inv .read y hy trivial) fun o ho z hz _ => ?_
  exact retryOrder_sound hy (mem_of_staleOrders ho) hz

theorem createOrder_justified (tasks : List Task)
    (hevents : ∀ t ∈ tasks, ∀ e ∈ t.events, 0 ≤ e.value) (schedule : List ℕ) (faults : List Bool)
    (s : Store) (p : Payments) (hs : Credited (s, p)) :
    Admitted (watch PaymentWrite.exec payments) Justified (s, p)
      ((tasksProgram conf env schedule tasks).history PaymentWrite.exec faults s) := by
  have hsound : Sound PaymentWrite.exec payments Grows Credited Justified True
      (tasksProgram conf env schedule tasks) (s, p) := by
    refine sound_interleave rely schedule hs fun p hp => ?_
    obtain ⟨t, ht, rfl⟩ := List.mem_map.1 hp
    cases t with
    | delivery sch events =>
      exact sound_bind rely (processReceiveAddresses_sound (guarantee env) sch (hevents _ ht) _)
        (fun _ y _ _ => sound_ret _ y) hs
    | poll => exact pollPendingOrders_sound _
    | retry => exact retryStaleUserOperations_sound _
  exact hsound.admitted rely hs faults (Or.inl trivial)

theorem createOrder_justified_pool :
    Admitted (watch PaymentWrite.exec payments) Justified (Sample.poolStore [1, 2], ⟨[], []⟩)
      ((tasksProgram {} .silent [0, 0, 2, 1] [.delivery [0, 0, 1] [Sample.transfer], .poll,
        .retry]).history PaymentWrite.exec [] (Sample.poolStore [1, 2])) :=
  createOrder_justified _ (by decide +kernel) _ _ _ _ ⟨by decide +kernel, by decide⟩

def FullyCovered : PaymentWrite → Store × Payments → Prop
  | .createOrder _ order, x => ∀ o ∈ x.1.paymentOrders.get order,
    o.amount + o.senderFee + o.networkFee ≤ x.2.credited order
  | _, _ => True

instance (w : PaymentWrite) (x : Store × Payments) : Decidable (FullyCovered w x) := by
  unfold FullyCovered
  split <;> infer_instance

theorem createOrder_within_tolerance_uncovered :
    ¬ Admitted (watch PaymentWrite.exec payments) FullyCovered (Sample.poolStore [1], ⟨[], []⟩)
      ((tasksProgram {} .silent [] [.delivery [] [{ Sample.transfer with value := 199 / 2 }]]).history
        PaymentWrite.exec [] (Sample.poolStore [1])) := by
  decide +kernel

end Stablenode.Funding
