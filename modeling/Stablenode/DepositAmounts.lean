import Stablenode.TransferRuns

/-! The amounts that a call of `UpdateReceiveAddressStatus` leaves on the order it credits. -/
namespace Stablenode.DepositAmounts

open Proc

def Funded (o : PaymentOrder) (value : ℚ) : Prop :=
  0 < o.amount ∧ o.amount + o.senderFee + o.networkFee ≤ value

def CoversFees (o : PaymentOrder) (value : ℚ) : Prop :=
  if transferMatches o value then o.amount + o.fees ≤ value
  else
    o.fees ≤ Decimal.round o.fees o.token.decimals ∧
      Decimal.round o.fees o.token.decimals < value

instance (o : PaymentOrder) (value : ℚ) : Decidable (CoversFees o value) := by
  unfold CoversFees
  infer_instance

variable {o : PaymentOrder}

section Amounts

variable {value : ℚ}

lemma round_round (x : ℚ) (places : ℕ) :
    Decimal.round (Decimal.round x places) places = Decimal.round x places := by
  have hpow : (10 : ℚ) ^ places ≠ 0 := by positivity
  rw [Decimal.round_eq_self_iff]
  refine ⟨Decimal.roundInt (x * 10 ^ places), ?_⟩
  rw [Decimal.round, div_mul_cancel₀ _ hpow]

lemma round_sub {x y : ℚ} {places : ℕ} (hx : Decimal.round x places = x)
    (hy : Decimal.round y places = y) : Decimal.round (x - y) places = x - y := by
  obtain ⟨a, ha⟩ := Decimal.round_eq_self_iff.1 hx
  obtain ⟨b, hb⟩ := Decimal.round_eq_self_iff.1 hy
  refine Decimal.round_eq_self_iff.2 ⟨a - b, ?_⟩
  push_cast
  rw [sub_mul, ha, hb]

lemma round_zero (places : ℕ) : Decimal.round 0 places = 0 :=
  Decimal.round_eq_self_iff.2 ⟨0, by simp⟩

lemma adjustedAmount_eq (hvalue : Decimal.round value o.token.decimals = value) :
    adjustedAmount o value =
      if Decimal.round o.fees o.token.decimals < value then
        value - Decimal.round o.fees o.token.decimals
      else value := by
  rw [adjustedAmount]
  simp only [sub_pos]
  split_ifs
  · exact round_sub hvalue (round_round _ _)
  · rfl

lemma adjusted_funded_iff (hsender : 0 ≤ o.senderFee) (hnetwork : 0 ≤ o.networkFee)
    (hpos : 0 < value) (hvalue : Decimal.round value o.token.decimals = value) :
    (0 < adjustedAmount o value ∧ adjustedAmount o value + o.fees ≤ value) ↔
      o.fees ≤ Decimal.round o.fees o.token.decimals ∧
        Decimal.round o.fees o.token.decimals < value := by
  have hfees : 0 ≤ o.fees := add_nonneg hnetwork hsender
  rw [adjustedAmount_eq hvalue]
  split_ifs with hleft
  · constructor
    · rintro ⟨-, h⟩
      exact ⟨by linarith, hleft⟩
    · rintro ⟨h, -⟩
      exact ⟨by linarith, by linarith⟩
  constructor
  · -- the whole value goes into the amount, so there must be no fees
    rintro ⟨-, h⟩
    have hzero : o.fees = 0 := le_antisymm (by linarith) hfees
    rw [hzero, round_zero] at hleft
    exact absurd hpos hleft
  · rintro ⟨-, h⟩
    exact absurd h hleft

def depositedAmount (o : PaymentOrder) (value : ℚ) : ℚ :=
  if transferMatches o value then o.amount else adjustedAmount o value

lemma deposited_funded_iff (hamount : 0 < o.amount) (hsender : 0 ≤ o.senderFee)
    (hnetwork : 0 ≤ o.networkFee) (hpos : 0 < value)
    (hvalue : Decimal.round value o.token.decimals = value) :
    (0 < depositedAmount o value ∧ depositedAmount o value + o.fees ≤ value) ↔
      CoversFees o value := by
  rw [depositedAmount, CoversFees]
  split_ifs with hmatch
  · exact and_iff_right hamount
  · exact adjusted_funded_iff hsender hnetwork hpos hvalue

end Amounts

section Runs

variable {conf : PaymentConfig} {env : PaymentEnvironment} {r : ReceiveAddress}
  {event : TokenTransferEvent} {s : Store}

def Credits (order : ℕ) (event : TokenTransferEvent) (h : List PaymentWrite) : Prop :=
  ∃ u, .depositCommit order event u ∈ h

def CallsCreateOrder (order : ℕ) (h : List PaymentWrite) : Prop :=
  ∃ cause, .createOrder cause order ∈ h

def HasAmounts (order : ℕ) (amount senderFee networkFee : ℚ) (s : Store) : Prop :=
  ∃ o, s.paymentOrders.get order = some o ∧ o.amount = amount ∧ o.senderFee = senderFee ∧
    o.networkFee = networkFee

variable {amount : ℚ} {u : DepositUpdate} {now : ℕ}

lemma hasAmounts_finish {w : PaymentWrite} (hw : FinishLabel event (o, r) w) {order : ℕ}
    {senderFee networkFee : ℚ} (h : HasAmounts order amount senderFee networkFee s) :
    HasAmounts order amount senderFee networkFee (w.exec s) := by
  cases hw with
  | update u _ =>
    obtain ⟨p, hp, hamount, hsender, hnetwork⟩ := h
    by_cases hr : s.refusesUpdate o.id u = true
    · simp only [PaymentWrite.exec, hr, if_true]
      exact ⟨p, hp, hamount, hsender, hnetwork⟩
    rw [HasAmounts, PaymentWrite.exec_update_get (by simpa using hr)]
    by_cases hid : order = o.id
    · rw [if_pos hid, ← hid, hp]
      refine ⟨_, rfl, ?_⟩
      cases u <;> exact ⟨hamount, hsender, hnetwork⟩
    · rw [if_neg hid]
      exact ⟨p, hp, hamount, hsender, hnetwork⟩
  | _ => exact h

lemma amount_depositUpdate (hu : depositUpdate env now o event = some u) :
    u.amount.getD o.amount = depositedAmount o event.value := by
  rw [depositUpdate] at hu
  rw [depositedAmount]
  split_ifs at hu ⊢
  · obtain rfl := Option.some.inj hu
    rfl
  · obtain ⟨rate, -, rfl⟩ := Option.map_eq_some_iff.1 hu
    rfl
  · obtain rfl := Option.some.inj hu
    rfl

lemma hasAmounts_depositCommit (ho : s.paymentOrders.get o.id = some o)
    (hu : depositUpdate env now o event = some u) (hr : s.refusesDeposit o.id event u = false) :
    HasAmounts o.id (depositedAmount o event.value) o.senderFee o.networkFee
      ((PaymentWrite.depositCommit o.id event u).exec s) := by
  rw [HasAmounts, PaymentWrite.exec_depositCommit_get hr, if_pos rfl, ho]
  exact ⟨_, rfl, amount_depositUpdate hu, rfl, rfl⟩

def LeavesDeposit (o : PaymentOrder) (event : TokenTransferEvent) (h : List PaymentWrite)
    (t : Store) : Prop :=
  Credits o.id event h → CallsCreateOrder o.id h →
    HasAmounts o.id (depositedAmount o event.value) o.senderFee o.networkFee t

lemma leavesDeposit_nil (t : Store) : LeavesDeposit o event [] t := by
  rintro ⟨u, hu⟩
  cases hu

lemma leavesDeposit_read {h : List PaymentWrite} {t : Store} (hq : LeavesDeposit o event h t) :
    LeavesDeposit o event (.read :: h) t := by
  rintro ⟨u, hu⟩ ⟨cause, hcause⟩
  refine hq ⟨u, ?_⟩ ⟨cause, ?_⟩
  · simpa using hu
  · simpa using hcause

lemma finishDeposit_post (now : ℕ) (amount : ℚ) :
    Post PaymentWrite.exec (LeavesDeposit o event) (finishDeposit conf env now r o event amount)
      s := by
  refine (finishDeposit_uses (p := (o, r)) now amount).post (I := fun _ => True)
    (fun _ _ _ _ => trivial) trivial fun ws t hws _ => ?_
  rintro ⟨u, hu⟩
  cases hws _ hu

lemma committed_post (ho : s.paymentOrders.get o.id = some o)
    (hu : depositUpdate env now o event = some u) (hr : s.refusesDeposit o.id event u = false) :
    Post PaymentWrite.exec (fun h t => LeavesDeposit o event (.depositCommit o.id event u :: h) t)
      (finishDeposit conf env now r o event amount)
      ((PaymentWrite.depositCommit o.id event u).exec s) :=
  (finishDeposit_uses (p := (o, r)) now amount).post (fun _ _ hw ht => hasAmounts_finish hw ht)
    (hasAmounts_depositCommit ho hu hr) fun _ _ _ ht _ _ => ht

lemma deposit_post (ho : s.paymentOrders.get o.id = some o) :
    Post PaymentWrite.exec (LeavesDeposit o event) (deposit conf env r o event) s := by
  refine post_attempt_iff.2 ⟨Post.mono (fun _ _ => leavesDeposit_read) ?_, leavesDeposit_nil s⟩
  cases hu : depositUpdate env s.now o event with
  | none => exact leavesDeposit_nil _
  | some u =>
    dsimp only
    split_ifs
    · refine post_attempt_iff.2 ⟨?_, leavesDeposit_nil _⟩
      split_ifs with hr
      · -- the trigger stops the transaction, so that nothing is created
        rintro - ⟨cause, hcause⟩
        simp at hcause
      · exact committed_post ho hu (by simpa using hr)
    · exact finishDeposit_post _ _

lemma updateReceiveAddressStatus_post (ho : s.paymentOrders.get o.id = some o) :
    Post PaymentWrite.exec (LeavesDeposit o event) (updateReceiveAddressStatus conf env r o event)
      s := by
  rw [updateReceiveAddressStatus]
  split
  · refine post_attempt_iff.2 ⟨Post.mono (fun _ _ => leavesDeposit_read) ?_, leavesDeposit_nil s⟩
    split
    · exact leavesDeposit_nil _
    split
    · exact leavesDeposit_nil _
    refine post_attempt_iff.2 ⟨Post.mono (fun _ _ => leavesDeposit_read) ?_, deposit_post ho⟩
    split
    · exact leavesDeposit_nil _
    · exact deposit_post ho
  · exact leavesDeposit_nil s

theorem funded_iff_coversFees (conf : PaymentConfig) (env : PaymentEnvironment)
    (r : ReceiveAddress) (o : PaymentOrder) (event : TokenTransferEvent) (s : Store)
    (faults : List Bool) (ho : s.paymentOrders.get o.id = some o)
    (hamount : 0 < o.amount) (hsender : 0 ≤ o.senderFee) (hnetwork : 0 ≤ o.networkFee)
    (hpos : 0 < event.value)
    (hvalue : Decimal.round event.value o.token.decimals = event.value)
    (hcredit : Credits o.id event
      ((updateReceiveAddressStatus conf env r o event).history PaymentWrite.exec faults s))
    (hcreate : CallsCreateOrder o.id
      ((updateReceiveAddressStatus conf env r o event).history PaymentWrite.exec faults s)) :
    (∃ o', (Run.exec PaymentWrite.exec s ((updateReceiveAddressStatus conf env r o event).history
        PaymentWrite.exec faults s)).paymentOrders.get o.id = some o' ∧ Funded o' event.value) ↔
      CoversFees o event.value := by
  have hpost : Post PaymentWrite.exec (LeavesDeposit o event)
      (updateReceiveAddressStatus conf env r o event) s := updateReceiveAddressStatus_post ho
  obtain ⟨o', ho', hamount', hsender', hnetwork'⟩ :=
    post_iff_forall_faults.1 hpost faults hcredit hcreate
  rw [← deposited_funded_iff hamount hsender hnetwork hpos hvalue]
  have hsum : o'.amount + o'.senderFee + o'.networkFee =
      depositedAmount o event.value + o.fees := by
    rw [hamount', hsender', hnetwork', PaymentOrder.fees]
    ring
  constructor
  · rintro ⟨p, hp, hfunded⟩
    obtain rfl := Option.some.inj (ho'.symm.trans hp)
    exact ⟨hamount' ▸ hfunded.1, hsum ▸ hfunded.2⟩
  · rintro ⟨hleft, hle⟩
    exact ⟨o', ho', hamount'.symm ▸ hleft, hsum.symm ▸ hle⟩

def feeOrder : PaymentOrder := { Sample.paymentOrder 1 with networkFee := 2 }

def feeStore : Store :=
  { Store.empty with
    paymentOrders := .single feeOrder
    receiveAddresses := .single (Sample.receiveAddress 1) }

def feeHistory (value : ℚ) : List PaymentWrite :=
  (updateReceiveAddressStatus {} .silent (Sample.receiveAddress 1) feeOrder
    { Sample.transfer with value := value }).history PaymentWrite.exec [] feeStore

theorem funded_exact_payment :
    CoversFees feeOrder 102 ∧ ∃ o',
      (Run.exec PaymentWrite.exec feeStore (feeHistory 102)).paymentOrders.get feeOrder.id =
        some o' ∧ Funded o' 102 := by
  have hcovers : CoversFees feeOrder 102 := by decide +kernel
  refine ⟨hcovers, (funded_iff_coversFees {} .silent (Sample.receiveAddress 1) feeOrder
    { Sample.transfer with value := 102 } feeStore [] ?_ ?_ ?_ ?_ ?_ ?_
    ⟨⟨"base", some "0xsender", none, none⟩, ?_⟩
    ⟨.deposit { Sample.transfer with value := 102 } 100 2 6, ?_⟩).2 hcovers⟩ <;> decide +kernel

theorem unfunded_after_credit :
    (∃ u, PaymentWrite.depositCommit 1 { Sample.transfer with value := 101 } u ∈ feeHistory 101) ∧
      ((Run.exec PaymentWrite.exec feeStore (feeHistory 101)).paymentOrders.get 1).map
        (fun o => (o.amount, o.senderFee, o.networkFee)) = some (100, 0, 2) ∧
      PaymentWrite.createOrder (.deposit { Sample.transfer with value := 101 } 100 2 6) 1 ∈
        feeHistory 101 ∧
      (∃ u, PaymentWrite.depositCommit 1 { Sample.transfer with value := 1 } u ∈ feeHistory 1) ∧
      ((Run.exec PaymentWrite.exec feeStore (feeHistory 1)).paymentOrders.get 1).map
        (fun o => (o.amount, o.senderFee, o.networkFee)) = some (1, 0, 2) ∧
      PaymentWrite.createOrder (.deposit { Sample.transfer with value := 1 } 1 2 6) 1 ∈
        feeHistory 1 := by
  refine ⟨⟨⟨"base", some "0xsender", none, none⟩, ?_⟩, ?_, ?_,
    ⟨⟨"base", some "0xsender", some 1, none⟩, ?_⟩, ?_, ?_⟩ <;> decide +kernel

end Runs

end Stablenode.DepositAmounts
