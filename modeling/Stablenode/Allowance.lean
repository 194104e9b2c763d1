import Stablenode.ValuePreservation

/-! What `CreateOrder` approves and what the gateway pulls (services/order/evm.go,
services/order/tron.go). -/
namespace Stablenode.Allowance

open BigEndian ValuePreservation

inductive Chain where
  | evm
  | tron
  deriving DecidableEq

def subunits (amount : ℚ) (decimals : ℕ) : ℤ := bigInt (amount * 10 ^ decimals)

def approvedAmount (order : PaymentOrder) : Chain → List UInt8
  | .evm => packWord (subunits (order.amount + order.senderFee) order.token.decimals)
  | .tron => packWord (subunits order.amount order.token.decimals)

def pulledAmounts (order : PaymentOrder) : List UInt8 × List UInt8 :=
  (packWord (subunits order.amount order.token.decimals),
    packWord (subunits order.senderFee order.token.decimals))

def Covers (chain : Chain) (order : PaymentOrder) : Prop :=
  ofBytes (pulledAmounts order).1 + ofBytes (pulledAmounts order).2 ≤
    ofBytes (approvedAmount order chain)

instance (chain : Chain) (order : PaymentOrder) : Decidable (Covers chain order) :=
  inferInstanceAs (Decidable (_ ≤ _))

def whole (amount : ℚ) (decimals : ℕ) : ℕ := ⌊amount * 10 ^ decimals⌋₊

def Suffices (order : PaymentOrder) : Chain → Prop
  | .evm =>
    let a := whole order.amount order.token.decimals
    let f := whole order.senderFee order.token.decimals
    let s := whole (order.amount + order.senderFee) order.token.decimals
    a % 2 ^ 256 + f % 2 ^ 256 + (s - (a + f)) < 2 ^ 256
  | .tron => whole order.senderFee order.token.decimals % 2 ^ 256 = 0

lemma ofBytes_subunits {amount : ℚ} (h : 0 ≤ amount) (decimals : ℕ) :
    ofBytes (packWord (subunits amount decimals)) = whole amount decimals % 2 ^ 256 := by
  have hscaled : 0 ≤ amount * 10 ^ decimals := by positivity
  have hfloor : subunits amount decimals = (whole amount decimals : ℤ) := by
    rw [subunits, bigInt_of_nonneg hscaled, whole, Int.natCast_floor_eq_floor hscaled]
  have hword : ((whole amount decimals : ℤ) % 2 ^ 256).toNat = whole amount decimals % 2 ^ 256 := by
    omega
  rw [hfloor, packWord, hword, ofBytes_toBytes]
  norm_num

lemma whole_add_bounds {a f : ℚ} (ha : 0 ≤ a) (hf : 0 ≤ f) (decimals : ℕ) :
    whole a decimals + whole f decimals ≤ whole (a + f) decimals ∧
      whole (a + f) decimals ≤ whole a decimals + whole f decimals + 1 := by
  have hx : 0 ≤ a * 10 ^ decimals := by positivity
  have hy : 0 ≤ f * 10 ^ decimals := by positivity
  have h₁ := Nat.floor_le hx
  have h₂ := Nat.floor_le hy
  have h₃ := Nat.lt_floor_add_one (a * 10 ^ decimals)
  have h₄ := Nat.lt_floor_add_one (f * 10 ^ decimals)
  simp only [whole, add_mul]
  constructor
  · apply Nat.le_floor
    push_cast
    linarith
  · have hlt : ⌊a * 10 ^ decimals + f * 10 ^ decimals⌋₊ <
        ⌊a * 10 ^ decimals⌋₊ + ⌊f * 10 ^ decimals⌋₊ + 2 := by
      rw [Nat.floor_lt (by positivity)]
      push_cast
      linarith
    omega

theorem allowance_covers_iff (chain : Chain) (order : PaymentOrder) (hamount : 0 ≤ order.amount)
    (hfee : 0 ≤ order.senderFee) : Covers chain order ↔ Suffices order chain := by
  rw [Covers, pulledAmounts, ofBytes_subunits hamount, ofBytes_subunits hfee]
  cases chain with
  | evm =>
    rw [approvedAmount, ofBytes_subunits (add_nonneg hamount hfee), Suffices]
    obtain ⟨hle, hge⟩ := whole_add_bounds hamount hfee order.token.decimals
    omega
  | tron =>
    rw [approvedAmount, ofBytes_subunits hamount, Suffices]
    omega

namespace Sample

def feeOrder : PaymentOrder :=
  { Stablenode.Sample.paymentOrder 1 with
    senderFee := 1 / 2
    token := { Stablenode.Sample.token with decimals := 6 } }

end Sample

open Allowance.Sample in
theorem feeOrder_covered : 0 ≤ feeOrder.amount ∧ 0 ≤ feeOrder.senderFee ∧ Suffices feeOrder .evm :=
  have hfee : 0 ≤ feeOrder.senderFee := by decide +kernel
  ⟨by decide, hfee, (allowance_covers_iff .evm feeOrder (by decide) hfee).1 (by decide +kernel)⟩

open Allowance.Sample in
theorem feeOrder_not_covered : ¬ Covers .tron feeOrder := by
  decide +kernel

end Stablenode.Allowance
