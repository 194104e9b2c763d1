import Stablenode.DepositLoss

/-! A transfer of value zero to the receive address of an awaiting order: when it leaves the
order alone. -/
namespace Stablenode.ZeroTransfers

open Proc

def LacksRate (env : PaymentEnvironment) (now : ℕ) (o : PaymentOrder) (value : ℚ) : Prop :=
  transferMatches o value = false ∧ refreshesRate now o = true ∧ currentRate env o = none

def Skipped (env : PaymentEnvironment) (s : Store) (event : TokenTransferEvent)
    (p : PaymentOrder × ReceiveAddress) : Prop :=
  s.addressTaken p.2 event = true ∨ event.txHash = "" ∨ s.isLogged event = true ∨
    LacksRate env s.now p.1 event.value

structure Payment where
  amount : ℚ
  senderFee : ℚ
  networkFee : ℚ
  amountPaid : ℚ
  txHash : String
  fromAddress : String
  status : PaymentOrderStatus
  deriving DecidableEq

def payment (o : PaymentOrder) : Payment :=
  ⟨o.amount, o.senderFee, o.networkFee, o.amountPaid, o.txHash, o.fromAddress, o.status⟩

def observed (p : PaymentOrder × ReceiveAddress) (s : Store) :
    Option Payment × Option ReceiveAddressStatus :=
  ((s.paymentOrders.get p.1.id).map payment,
    (s.receiveAddresses.get p.2.id).map ReceiveAddress.status)

def CreditedAlike (conf : PaymentConfig) (env : PaymentEnvironment)
    (p : PaymentOrder × ReceiveAddress) (s t : Store) : Prop :=
  ∀ (later : TokenTransferEvent) (schedule : List ℕ) (now : ℕ),
    equalFold later.toAddress p.2.address = true → later.value = p.1.amountWithFees →
      observed p ((processTransfers conf env schedule [later]).after PaymentWrite.exec
          { t with now := now }) =
        observed p ((processTransfers conf env schedule [later]).after PaymentWrite.exec
          { s with now := now })

section

variable {conf : PaymentConfig} {env : PaymentEnvironment} {s : Store}
  {event : TokenTransferEvent} {p : PaymentOrder × ReceiveAddress}

lemma depositUpdate_eq_none_iff {now : ℕ} {o : PaymentOrder} :
    depositUpdate env now o event = none ↔ LacksRate env now o event.value := by
  rw [depositUpdate, LacksRate]
  split_ifs with hmatch hrefresh
  · simp [hmatch]
  · simp [hmatch, hrefresh]
  · simp [hrefresh]

lemma not_skipped_iff :
    ¬ Skipped env s event p ↔ Creditable env s event p ∧ s.isLogged event = false := by
  have hupdate : (depositUpdate env s.now p.1 event).isSome = true ↔
      ¬ LacksRate env s.now p.1 event.value := by
    rw [← depositUpdate_eq_none_iff, Option.isSome_iff_ne_none]
  simp only [Skipped, not_or, Bool.not_eq_true]
  constructor
  · rintro ⟨hfree, hhash, hlog, hrate⟩
    exact ⟨⟨hfree, hhash, hupdate.2 hrate⟩, hlog⟩
  · rintro ⟨hcredit, hlog⟩
    exact ⟨hcredit.free, hcredit.hash, hlog, hupdate.1 hcredit.update⟩

lemma after_processOrder_eq (hp : p ∈ s.awaitingOrders [event.toAddress]) :
    (processOrder conf env [event] p).after PaymentWrite.exec s =
      (updateReceiveAddressStatus conf env p.2 p.1 event).after PaymentWrite.exec s := by
  rw [processOrder_of_awaiting hp, after_discard]

lemma after_of_skipped (hp : p ∈ s.awaitingOrders [event.toAddress]) (h : Skipped env s event p) :
    (updateReceiveAddressStatus conf env p.2 p.1 event).after PaymentWrite.exec s = s := by
  rw [← after_processOrder_eq hp]
  have hsilent : ¬ (Creditable env s event p ∧ s.isLogged event = false) :=
    fun hcredit => not_skipped_iff.2 hcredit h
  exact (DepositLoss.silent_processOrder (awaitingOrders_unpaid hp) hsilent).after
    (Evolved.refl event s)

lemma txHash_of_not_skipped (conf : PaymentConfig)
    (hp : p ∈ s.awaitingOrders [event.toAddress]) (h : ¬ Skipped env s event p) :
    ∃ o, ((updateReceiveAddressStatus conf env p.2 p.1 event).after PaymentWrite.exec
        s).paymentOrders.get p.1.id = some o ∧ o.txHash = event.txHash := by
  obtain ⟨hcredit, hlog⟩ := not_skipped_iff.1 h
  obtain ⟨o, ho, hhash, -⟩ := DepositLoss.processOrder_pays conf hp hcredit hlog
  rw [after_processOrder_eq hp] at ho
  exact ⟨o, ho, hhash⟩

end

theorem untouched_iff_skipped (conf : PaymentConfig) (env : PaymentEnvironment) (s : Store)
    (event : TokenTransferEvent) (p : PaymentOrder × ReceiveAddress)
    (hp : p ∈ s.awaitingOrders [event.toAddress]) :
    (observed p ((updateReceiveAddressStatus conf env p.2 p.1 event).after PaymentWrite.exec s) =
        observed p s ∧
      CreditedAlike conf env p s
        ((updateReceiveAddressStatus conf env p.2 p.1 event).after PaymentWrite.exec s)) ↔
      Skipped env s event p := by
  constructor
  · rintro ⟨hsame, -⟩
    by_contra hskip
    obtain ⟨o, ho, hhash⟩ := txHash_of_not_skipped conf hp hskip
    have hstored := Table.get_of_mem (mem_awaitingOrders.1 hp).1
    have hpayment : payment o = payment p.1 := by
      have h := congrArg Prod.fst hsame
      rw [observed, observed, ho, hstored] at h
      exact Option.some.inj h
    -- the order had no hash, the event has one
    have hempty : o.txHash = "" :=
      (congrArg Payment.txHash hpayment).trans (awaitingOrders_unpaid hp).1
    exact hskip (Or.inr (Or.inl (hhash.symm.trans hempty)))
  · intro hskip
    rw [after_of_skipped hp hskip]
    exact ⟨rfl, fun later schedule now _ _ => rfl⟩

def awaiting : PaymentOrder × ReceiveAddress := (Sample.paymentOrder 1, Sample.receiveAddress 1)

def zeroTransfer : TokenTransferEvent := ⟨1, "0x0", "0xstranger", "0xpool", 0⟩

def loggedStore : Store :=
  { Sample.poolStore [1] with
    transactionLogs := .single { (Sample.poolStore [1]).newLog .cryptoDeposited "base" with
      txHash := "0x0" } }

theorem untouched_logged_transaction :
    observed awaiting ((updateReceiveAddressStatus {} .silent awaiting.2 awaiting.1
        zeroTransfer).after PaymentWrite.exec loggedStore) = observed awaiting loggedStore ∧
      CreditedAlike {} .silent awaiting loggedStore
        ((updateReceiveAddressStatus {} .silent awaiting.2 awaiting.1 zeroTransfer).after
          PaymentWrite.exec loggedStore) := by
  have hp : awaiting ∈ loggedStore.awaitingOrders [zeroTransfer.toAddress] := by decide +kernel
  have hlog : loggedStore.isLogged zeroTransfer = true := by decide +kernel
  exact (untouched_iff_skipped {} .silent loggedStore zeroTransfer awaiting hp).2
    (Or.inr (Or.inr (Or.inl hlog)))

def hijacked : Store :=
  (updateReceiveAddressStatus {} .silent awaiting.2 awaiting.1 zeroTransfer).after
    PaymentWrite.exec (Sample.poolStore [1])

theorem zero_transfer_hijacks_order :
    awaiting ∈ (Sample.poolStore [1]).awaitingOrders [zeroTransfer.toAddress] ∧
      observed awaiting hijacked =
        (some ⟨0, 0, 0, 0, "0x0", "0xstranger", .pending⟩, some .poolAssigned) ∧
      observed awaiting ((processTransfers {} .silent [] [Sample.transfer]).after
          PaymentWrite.exec hijacked) = observed awaiting hijacked ∧
      observed awaiting ((processTransfers {} .silent [] [Sample.transfer]).after
          PaymentWrite.exec (Sample.poolStore [1])) =
        (some ⟨100, 0, 0, 100, "0x1", "0xsender", .pending⟩, some .used) := by
  decide +kernel

end Stablenode.ZeroTransfers
