import Stablenode.Deposits

/-! The guarantee rule of the deposit path, next to any other process. -/
namespace Stablenode

open Proc

def PaymentWrite.quiet : PaymentWrite → Bool
  | depositCommit .. | markAddressUsed .. | createOrder .. | update _ (.amountPaid _) => false
  | _ => true

def Covers (value amount fees : ℚ) (decimals : ℕ) : Prop :=
  Decimal.round (amount + fees) decimals * (99 / 100) ≤ value ∨
    (Decimal.round fees decimals < value ∧
      amount = Decimal.round (value - Decimal.round fees decimals) decimals) ∨
    (value ≤ Decimal.round fees decimals ∧ amount = value)

section

variable {γ : Type} (ghost : PaymentWrite → Store → γ → γ) (R : Store × γ → Store × γ → Prop)
  (I : Store × γ → Prop) (c : PaymentWrite → Store × γ → Prop)

structure QuietGuarantee : Prop where
  rely : Rely PaymentWrite.exec ghost R I c
  quiet : ∀ w x, I x → w.quiet = true → c w x

structure DepositGuarantee (f : Prop) (env : PaymentEnvironment) (good : TokenTransferEvent → Prop)
    (checks : ReceiveAddress → PaymentOrder → TokenTransferEvent → Prop)
    (paid : ℕ → TokenTransferEvent → Store × γ → Prop) : Prop
    extends QuietGuarantee ghost R I c where
  check : ∀ r o event x z u, good event → I x → x.1.addressTaken r event = false →
    (f ∨ ∃ y, I y ∧ y.1.isLogged event = false) → I z →
      depositUpdate env z.1.now o event = some u → checks r o event
  commit : ∀ r o event u x, good event → checks r o event → I x → c (.depositCommit o.id event u) x
  mark : ∀ address event x, good event → I x → c (.markAddressUsed address event) x
  paid_commit : ∀ o event u x, I x → x.1.refusesDeposit o event u = false →
    paid o event (watch PaymentWrite.exec ghost (.depositCommit o event u) x)
  paid_mono : ∀ o event x y, R x y → paid o event x → paid o event y
  create : ∀ o event amount fees decimals x, I x → 0 < event.value → paid o event x →
    Covers event.value amount fees decimals →
      c (.createOrder (.deposit event amount fees decimals) o) x

variable {ghost R I c} {f : Prop} {conf : PaymentConfig} {env : PaymentEnvironment}
  {good : TokenTransferEvent → Prop}
  {checks : ReceiveAddress → PaymentOrder → TokenTransferEvent → Prop}
  {paid : ℕ → TokenTransferEvent → Store × γ → Prop} {x : Store × γ}

section Quiet

variable (hG : QuietGuarantee ghost R I c)
include hG

lemma updatePaymentOrder_sound {α : Type} {order : ℕ} {u : PaymentOrderUpdate}
    (hu : (PaymentWrite.update order u).quiet = true) (e : String)
    {k : PaymentProgram (Except String α)}
    (hk : ∀ y, R x y → I y → Sound PaymentWrite.exec ghost R I c f k y) :
    Sound PaymentWrite.exec ghost R I c f (updatePaymentOrder order u e k) x := by
  refine sound_attempt (fun y _ hy => hG.quiet _ y hy hu) (fun _ y _ _ => sound_ret _ y)
    fun y hxy hy => ?_
  have hc := hG.quiet _ y hy hu
  split_ifs
  · exact sound_ret _ _
  · exact hk _ (hG.rely.trans hxy (hG.rely.step _ y hy hc)) (hG.rely.inv _ y hy hc)

lemma quiet_sound {α : Type} {w : PaymentWrite} {a : α} {k : Store → PaymentProgram α}
    (hw : w.quiet = true) (hk : ∀ y, R x y → I y →
      Sound PaymentWrite.exec ghost R I c f (k y.1) (watch PaymentWrite.exec ghost w y)) :
    Sound PaymentWrite.exec ghost R I c f (attempt w (ret a) k) x :=
  sound_attempt (fun y _ hy => hG.quiet _ y hy hw) (fun _ y _ _ => sound_ret _ y) hk

lemma sendCreateOrder_sound (order : PaymentOrder) (x : Store × γ) :
    Sound PaymentWrite.exec ghost R I c f (sendCreateOrder env order) x := by
  rw [sendCreateOrder]
  split
  · exact sound_ret _ _
  split
  · exact sound_ret _ _
  refine updatePaymentOrder_sound hG rfl _ fun y _ _ => ?_
  refine updatePaymentOrder_sound hG rfl _ fun y _ _ => ?_
  split_ifs
  · exact quiet_sound hG rfl fun y _ _ => sound_ret _ _
  · exact sound_ret _ _

lemma createOrder_sound {cause : CreateOrderCause} {orderID : ℕ}
    (hc : ∀ y, R x y → I y → c (.createOrder cause orderID) y) :
    Sound PaymentWrite.exec ghost R I c f (createOrder env cause orderID) x := by
  refine sound_attempt hc (fun _ y _ _ => sound_ret _ y) fun y _ _ => ?_
  split
  · exact sound_ret _ _
  split_ifs
  · split
    · exact sound_ret _ _
    split
    · exact sound_ret _ _
    split_ifs
    · exact sendCreateOrder_sound hG _ _
    refine updatePaymentOrder_sound hG rfl _ fun y _ _ => ?_
    refine quiet_sound hG rfl fun y _ _ => ?_
    split
    · exact sound_ret _ _
    · exact sendCreateOrder_sound hG _ _
  · exact sendCreateOrder_sound hG _ _

lemma handleReceiveAddressValidity_sound (now : ℕ) (receiveAddress : ReceiveAddress)
    (paymentOrder : PaymentOrder) (x : Store × γ) :
    Sound PaymentWrite.exec ghost R I c f
      (handleReceiveAddressValidity conf now receiveAddress paymentOrder) x := by
  unfold handleReceiveAddressValidity
  split
  · exact sound_ret _ _
  split_ifs
  · exact sound_ret _ _
  · exact quiet_sound hG rfl fun y _ _ => sound_ret _ _
  · refine quiet_sound hG rfl fun y _ _ => ?_
    refine updatePaymentOrder_sound hG rfl _ fun y _ _ => ?_
    exact sound_ignore hG.rely (fun y _ hy => hG.quiet _ y hy rfl) fun y _ _ => sound_ret _ y
  · exact sound_ret _ _

end Quiet

variable {o : PaymentOrder} {event : TokenTransferEvent}
  (hG : DepositGuarantee ghost R I c f env good checks paid)
include hG

lemma finishDeposit_sound (now : ℕ) (receiveAddress : ReceiveAddress) {amount : ℚ}
    (hevent : good event) (hx : I x) (hpaid : paid o.id event x)
    (hcovers : 0 < event.value → Covers event.value amount o.fees o.token.decimals) :
    Sound PaymentWrite.exec ghost R I c f
      (finishDeposit conf env now receiveAddress o event amount) x := by
  rw [finishDeposit]
  split_ifs with hpos
  · refine sound_attempt (fun y _ hy => hG.mark _ _ y hevent hy) (fun _ y _ _ => sound_ret _ y)
      fun y hxy hy => ?_
    have hc := hG.mark receiveAddress.id event y hevent hy
    have hstep := hG.rely.trans hxy (hG.rely.step _ y hy hc)
    split_ifs
    · exact sound_ret _ _
    refine sound_bind hG.rely ?_ (fun r z _ _ => ?_) (hG.rely.inv _ y hy hc)
    · refine createOrder_sound hG.toQuietGuarantee fun z hz hIz => ?_
      exact hG.create _ _ _ _ _ z hIz hpos
        (hG.paid_mono _ _ _ _ (hG.rely.trans hstep hz) hpaid) (hcovers hpos)
    · split <;> exact sound_ret _ _
  · refine sound_bind hG.rely
      (handleReceiveAddressValidity_sound hG.toQuietGuarantee _ _ _ _) (fun r z _ _ => ?_) hx
    split <;> exact sound_ret _ _

omit hG in
lemma covers_of_depositUpdate {now : ℕ} {u : DepositUpdate}
    (h : depositUpdate env now o event = some u) (hpos : 0 < event.value) :
    Covers event.value (u.amount.getD o.amount) o.fees o.token.decimals := by
  have hadjusted : Covers event.value (adjustedAmount o event.value) o.fees o.token.decimals := by
    rw [adjustedAmount]
    split_ifs with hleft
    · exact Or.inr (Or.inl ⟨by linarith, rfl⟩)
    · exact Or.inr (Or.inr ⟨by linarith, rfl⟩)
  rw [depositUpdate] at h
  split_ifs at h with hmatch hrate
  · obtain rfl := Option.some.inj h
    refine Or.inl ?_
    simp only [transferMatches, PaymentOrder.amountWithFees] at hmatch
    rcases of_decide_eq_true hmatch with heq | ⟨hlow, -⟩
    · simp only [Option.getD_none]
      linarith
    · simp only [Option.getD_none]
      linarith
  · obtain ⟨rate, -, rfl⟩ := Option.map_eq_some_iff.1 h
    exact hadjusted
  · obtain rfl := Option.some.inj h
    exact hadjusted

lemma deposit_sound {r : ReceiveAddress} (ho : o.txHash = "" ∧ o.status = .initiated) (hevent : good event)
    (hchecks : ∀ z u, I z → depositUpdate env z.1.now o event = some u → checks r o event)
    (x : Store × γ) : Sound PaymentWrite.exec ghost R I c f (deposit conf env r o event) x := by
  refine quiet_sound hG.toQuietGuarantee rfl fun y hxy hy => ?_
  split
  · exact sound_ret _ _
  rename_i u hu
  have hck := hchecks y u hy hu
  rw [if_pos ⟨Or.inl ho.1, ho.2⟩]
  refine sound_attempt (fun z _ hz => hG.commit r o event u z hevent hck hz)
    (fun _ z _ _ => sound_ret _ z) fun z _ hz => ?_
  split_ifs with hrefused
  · exact sound_ret _ _
  · have hc := hG.commit r o event u z hevent hck hz
    exact finishDeposit_sound hG _ _ hevent (hG.rely.inv _ z hz hc)
      (hG.paid_commit _ _ _ z hz (by simpa using hrefused)) (covers_of_depositUpdate hu)

lemma updateReceiveAddressStatus_sound (r : ReceiveAddress)
    (ho : o.txHash = "" ∧ o.status = .initiated) (hevent : good event) (x : Store × γ) :
    Sound PaymentWrite.exec ghost R I c f (updateReceiveAddressStatus conf env r o event) x := by
  rw [updateReceiveAddressStatus]
  split
  · refine quiet_sound hG.toQuietGuarantee rfl fun y _ hy => ?_
    split
    · exact sound_ret _ _
    rename_i htaken
    split
    · exact sound_ret _ _
    refine sound_attempt (fun z _ hz => hG.quiet _ z hz rfl) (fun hf z _ _ => ?_) fun z _ hz => ?_
    · exact deposit_sound hG ho hevent
        (fun v u hv hu => hG.check r o event y v u hevent hy (by simpa using htaken)
          (Or.inl hf) hv hu) z
    · split
      · exact sound_ret _ _
      rename_i hlogged
      exact deposit_sound hG ho hevent
        (fun v u hv hu => hG.check r o event y v u hevent hy (by simpa using htaken)
          (Or.inr ⟨z, hz, by simpa using hlogged⟩) hv hu) _
  · exact sound_ret _ _

theorem processReceiveAddresses_sound (schedule : List ℕ) {events : List TokenTransferEvent}
    (hevents : ∀ e ∈ events, good e) (x : Store × γ) :
    Sound PaymentWrite.exec ghost R I c f (processReceiveAddresses conf env schedule events) x := by
  refine quiet_sound hG.toQuietGuarantee rfl fun y _ hy => ?_
  have hread := hG.quiet .read y hy rfl
  refine sound_bind hG.rely ?_ (fun _ z _ _ => sound_ret _ z) (hG.rely.inv _ y hy hread)
  refine sound_interleave hG.rely schedule (hG.rely.inv _ y hy hread) fun p hp => ?_
  obtain ⟨o, ho, rfl⟩ := List.mem_map.1 hp
  rw [processOrder]
  split
  · exact sound_ret _ _
  rename_i event hfind
  refine sound_bind hG.rely ?_ (fun _ z _ _ => sound_ret _ z) (hG.rely.inv _ y hy hread)
  exact updateReceiveAddressStatus_sound hG _ (awaitingOrders_unpaid ho)
    (hevents event (List.mem_of_find?_eq_some hfind)) _

end

end Stablenode
