import Stablenode.Decimal
import Stablenode.Run

/-! The balance operations on one row of `provider_currencies` (services/balance_management.go,
services/common/order.go). -/
namespace Stablenode.BalanceManagement

structure Balance where
  available : ℚ
  reserved : ℚ
  total : ℚ
  deriving DecidableEq

inductive ValidationError where
  | availableReservedExceedTotal
  | negativeAvailable (available : ℚ)
  | negativeReserved (reserved : ℚ)
  | negativeTotal (total : ℚ)
  deriving DecidableEq

inductive BalanceError where
  | stillInconsistent (e : ValidationError)
  | validationFailed (e : BalanceError)
  | insufficientAvailable (available requested : ℚ)
  | insufficientReserved (reserved requested : ℚ)
  deriving DecidableEq

def ValidationError.message (providerID currency : String) : ValidationError → String
  | availableReservedExceedTotal =>
    "balance inconsistency: available + reserved > total for provider " ++ providerID ++
      ", currency " ++ currency
  | negativeAvailable x =>
    "negative available balance for provider " ++ providerID ++ ", currency " ++ currency ++
      ": " ++ Decimal.toString x
  | negativeReserved x =>
    "negative reserved balance for provider " ++ providerID ++ ", currency " ++ currency ++
      ": " ++ Decimal.toString x
  | negativeTotal x =>
    "negative total balance for provider " ++ providerID ++ ", currency " ++ currency ++
      ": " ++ Decimal.toString x

def BalanceError.message (providerID currency : String) : BalanceError → String
  | stillInconsistent e =>
    "balance validation still failed after fixing inconsistencies: " ++
      e.message providerID currency
  | validationFailed e => "balance validation failed: " ++ e.message providerID currency
  | insufficientAvailable available requested =>
    "insufficient available balance: available=" ++ Decimal.toString available ++
      ", requested=" ++ Decimal.toString requested
  | insufficientReserved reserved requested =>
    "insufficient reserved balance: reserved=" ++ Decimal.toString reserved ++
      ", requested=" ++ Decimal.toString requested

def validateBalanceConsistencyInternal (b : Balance) : Except ValidationError Unit :=
  if b.available + b.reserved > b.total then .error .availableReservedExceedTotal
  else if b.available < 0 then .error (.negativeAvailable b.available)
  else if b.reserved < 0 then .error (.negativeReserved b.reserved)
  else if b.total < 0 then .error (.negativeTotal b.total)
  else .ok ()

def fixBalanceInconsistenciesInternal (b : Balance) : Balance :=
  let available := if b.available < 0 then 0 else b.available
  let reserved := if b.reserved < 0 then 0 else b.reserved
  let total := if b.total < 0 then 0 else b.total
  ⟨available, reserved, if available + reserved > total then available + reserved else total⟩

def validateAndFixBalances (b : Balance) : Except BalanceError Balance :=
  match validateBalanceConsistencyInternal b with
  | .ok _ => .ok b
  | .error _ =>
    let fixed := fixBalanceInconsistenciesInternal b
    match validateBalanceConsistencyInternal b with
    | .ok _ => .ok fixed
    | .error e => .error (.stillInconsistent e)

def reserveInTx (b : Balance) (amount : ℚ) : Except BalanceError Balance :=
  if b.available < amount then .error (.insufficientAvailable b.available amount)
  else .ok { b with available := b.available - amount, reserved := b.reserved + amount }

def releaseInTx (b : Balance) (amount : ℚ) : Except BalanceError Balance :=
  -- A reserved balance of zero lets the whole amount through.
  if b.reserved < amount ∧ b.reserved ≠ 0 then
    .error (.insufficientReserved b.reserved amount)
  else .ok { b with available := b.available + amount, reserved := b.reserved - amount }

def validatedUnlessTx (callerTx : Bool) (b : Balance) : Except BalanceError Balance :=
  if callerTx then .ok b else (validateAndFixBalances b).mapError .validationFailed

def reserveBalance (callerTx : Bool) (b : Balance) (amount : ℚ) : Except BalanceError Balance := do
  reserveInTx (← validatedUnlessTx callerTx b) amount

def releaseReservedBalance (callerTx : Bool) (b : Balance) (amount : ℚ) :
    Except BalanceError Balance := do
  releaseInTx (← validatedUnlessTx callerTx b) amount

def handleOrderTimeout (b : Balance) (amount : ℚ) : Balance :=
  if b.reserved ≤ 0 then b
  else
    let amountToRelease := min amount b.reserved
    let newReserved := b.reserved - amountToRelease
    { b with
      available := b.available + amountToRelease
      reserved := if newReserved < 0 then 0 else newReserved }

def cancelOrderAndReleaseBalance (b : Balance) (amount : ℚ) : Balance :=
  let newReserved := b.reserved - amount
  { b with
    available := b.available + amount
    reserved := if newReserved < 0 then 0 else newReserved }

def cancelOrderAndReleaseBalanceWithinTransaction (b : Balance) (amount : ℚ) : Balance :=
  cancelOrderAndReleaseBalance b amount

def settle (b : Balance) (amount : ℚ) : Balance :=
  let newReserved := b.reserved - amount
  let newTotal := b.total - amount
  { b with
    reserved := if newReserved < 0 then 0 else newReserved
    total := if newTotal < 0 then 0 else newTotal }

structure Consistent (b : Balance) : Prop where
  available_nonneg : 0 ≤ b.available
  reserved_nonneg : 0 ≤ b.reserved
  sum_le_total : b.available + b.reserved ≤ b.total

lemma consistent_iff (b : Balance) :
    Consistent b ↔ 0 ≤ b.available ∧ 0 ≤ b.reserved ∧ b.available + b.reserved ≤ b.total :=
  ⟨fun h => ⟨h.1, h.2, h.3⟩, fun h => ⟨h.1, h.2.1, h.2.2⟩⟩

instance (b : Balance) : Decidable (Consistent b) :=
  decidable_of_iff _ (consistent_iff b).symm

variable {b : Balance}

lemma Consistent.total_nonneg (h : Consistent b) : 0 ≤ b.total := by
  have := h.available_nonneg
  have := h.reserved_nonneg
  have := h.sum_le_total
  linarith

theorem validateBalanceConsistencyInternal_ok_iff (b : Balance) :
    validateBalanceConsistencyInternal b = .ok () ↔ Consistent b := by
  constructor
  · intro h
    simp only [validateBalanceConsistencyInternal] at h
    split_ifs at h with h₁ h₂ h₃ h₄
    exact ⟨not_lt.1 h₂, not_lt.1 h₃, not_lt.1 h₁⟩
  · intro h
    have htotal := h.total_nonneg
    simp only [validateBalanceConsistencyInternal, if_neg (not_lt.2 h.sum_le_total),
      if_neg (not_lt.2 h.available_nonneg), if_neg (not_lt.2 h.reserved_nonneg),
      if_neg (not_lt.2 htotal)]

lemma validateAndFixBalances_consistent (h : Consistent b) : validateAndFixBalances b = .ok b := by
  rw [validateAndFixBalances, (validateBalanceConsistencyInternal_ok_iff b).2 h]

theorem validateAndFixBalances_inconsistent (h : ¬ Consistent b) :
    ∃ e, validateAndFixBalances b = .error (.stillInconsistent e) := by
  cases hv : validateBalanceConsistencyInternal b with
  | ok u => exact absurd ((validateBalanceConsistencyInternal_ok_iff b).1 hv) h
  | error e => exact ⟨e, by simp only [validateAndFixBalances, hv]⟩

lemma validatedUnlessTx_consistent (h : Consistent b) (callerTx : Bool) :
    validatedUnlessTx callerTx b = .ok b := by
  cases callerTx <;> simp [validatedUnlessTx, validateAndFixBalances_consistent h, Except.mapError]

lemma reserveBalance_of_consistent (h : Consistent b) (callerTx : Bool) (a : ℚ) :
    reserveBalance callerTx b a = reserveInTx b a := by
  rw [reserveBalance, validatedUnlessTx_consistent h]
  rfl

lemma releaseReservedBalance_of_consistent (h : Consistent b) (callerTx : Bool) (a : ℚ) :
    releaseReservedBalance callerTx b a = releaseInTx b a := by
  rw [releaseReservedBalance, validatedUnlessTx_consistent h]
  rfl

def afterRelease (b : Balance) (amount : ℚ) : Balance :=
  { b with available := b.available + amount, reserved := b.reserved - amount }

def AcceptsRelease (b : Balance) (amount : ℚ) : Prop := amount ≤ b.reserved ∨ b.reserved = 0

instance (b : Balance) (amount : ℚ) : Decidable (AcceptsRelease b amount) := by
  unfold AcceptsRelease
  infer_instance

lemma releaseInTx_eq (b : Balance) (amount : ℚ) :
    releaseInTx b amount =
      if AcceptsRelease b amount then .ok (afterRelease b amount)
      else .error (.insufficientReserved b.reserved amount) := by
  have h : (b.reserved < amount ∧ b.reserved ≠ 0) ↔ ¬ AcceptsRelease b amount := by
    rw [AcceptsRelease, not_or, not_le]
  rw [releaseInTx]
  by_cases ha : AcceptsRelease b amount
  · rw [if_neg (fun hn => h.1 hn ha), if_pos ha, afterRelease]
  · rw [if_pos (h.2 ha), if_neg ha]

end Stablenode.BalanceManagement
