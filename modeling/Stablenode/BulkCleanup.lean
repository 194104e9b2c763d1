import Stablenode.Store

/-! `BulkCleanupFailedOrders` (services/balance_management.go) on a database whose calls succeed. -/
namespace Stablenode.BulkCleanup

open BalanceManagement

abbrev Balances := Table fun r : ProviderCurrency => (r.provider, r.currency)

structure FailedOrderInfo where
  orderID : String
  providerID : String
  currencyCode : String
  amount : ℚ

structure BulkCleanupReport where
  totalOrders : ℕ
  successCount : ℕ := 0
  failureCount : ℕ := 0
  totalAmount : ℚ := 0
  errors : List String := []
  successDetails : List String := []
  failureDetails : List String := []

def safeReleaseBalance (now : ℕ) (t : Balances) (o : FailedOrderInfo) : Except String Balances :=
  match t.get (o.providerID, o.currencyCode) with
  | none => .error ("balance validation failed: failed to get provider balance for validation: " ++
      "ent: provider_currencies not found")
  | some r =>
    match releaseReservedBalance false r.balance o.amount with
    | .error e => .error (e.message o.providerID o.currencyCode)
    | .ok b => .ok (t.modify (o.providerID, o.currencyCode)
        (fun r => { r with balance := b, updatedAt := now }) fun _ => rfl)

def FailedOrderInfo.detail (o : FailedOrderInfo) (outcome : String) : String :=
  "Order " ++ o.orderID ++ " (Provider: " ++ o.providerID ++ ", Currency: " ++ o.currencyCode ++
    ", Amount: " ++ Decimal.toString o.amount ++ ") - " ++ outcome

def cleanUp (now : ℕ) : Balances × BulkCleanupReport → FailedOrderInfo → Balances × BulkCleanupReport
  | (t, report), o =>
    match safeReleaseBalance now t o with
    | .error e => (t, { report with
        failureCount := report.failureCount + 1
        errors := report.errors ++ ["Order " ++ o.orderID ++ ": " ++ e]
        failureDetails := report.failureDetails ++ [o.detail e] })
    | .ok t' => (t', { report with
        successCount := report.successCount + 1
        totalAmount := report.totalAmount + o.amount
        successDetails := report.successDetails ++ [o.detail "Balance released successfully"] })

def bulkCleanupFailedOrders (now : ℕ) (t : Balances) (failedOrders : List FailedOrderInfo) :
    Balances × BulkCleanupReport :=
  failedOrders.foldl (cleanUp now) (t, { totalOrders := failedOrders.length })

def totalAvailable (t : Balances) : ℚ := (t.rows.map fun r => r.balance.available).sum

def BulkCleanupReport.Covers (report : BulkCleanupReport) (o : FailedOrderInfo) : Prop :=
  o.detail "Balance released successfully" ∈ report.successDetails ∨
    ∃ e, o.detail e ∈ report.failureDetails

structure Accounts (t : Balances) (done : List FailedOrderInfo) (x : Balances × BulkCleanupReport) :
    Prop where
  covers : ∀ o ∈ done, x.2.Covers o
  count : x.2.successCount + x.2.failureCount = done.length
  total : x.2.totalAmount = totalAvailable x.1 - totalAvailable t

variable {now : ℕ} {t t' : Balances} {o : FailedOrderInfo} {done : List FailedOrderInfo}
  {x : Balances × BulkCleanupReport} {b' : Balance}

lemma releaseInTx_available {b : Balance} {a : ℚ} (h : releaseInTx b a = .ok b') :
    b'.available = b.available + a := by
  rw [releaseInTx_eq] at h
  split_ifs at h
  obtain rfl := Except.ok.inj h
  rfl

lemma releaseReservedBalance_available {b : Balance} {a : ℚ}
    (h : releaseReservedBalance false b a = .ok b') : b'.available = b.available + a := by
  by_cases hb : Consistent b
  · rw [releaseReservedBalance_of_consistent hb] at h
    exact releaseInTx_available h
  · obtain ⟨e, he⟩ := validateAndFixBalances_inconsistent hb
    rw [releaseReservedBalance, validatedUnlessTx, he] at h
    cases h

lemma totalAvailable_safeReleaseBalance (h : safeReleaseBalance now t o = .ok t') :
    totalAvailable t' = totalAvailable t + o.amount := by
  rw [safeReleaseBalance] at h
  split at h
  · cases h
  · next r hget =>
    split at h
    · cases h
    · next b hb =>
      obtain rfl := Except.ok.inj h
      have havailable := releaseReservedBalance_available hb
      rw [totalAvailable, Table.sum_modify _ hget, totalAvailable]
      simp only [havailable, add_sub_cancel_left]

lemma Accounts.step (h : Accounts t done x) : Accounts t (done ++ [o]) (cleanUp now x o) := by
  obtain ⟨u, report⟩ := x
  rw [cleanUp]
  split
  · next e he =>
    refine ⟨fun o' ho' => ?_, ?_, h.total⟩
    · rcases List.mem_append.1 ho' with hdone | hlast
      · exact (h.covers o' hdone).imp_right fun ⟨e, he⟩ => ⟨e, List.mem_append_left _ he⟩
      · obtain rfl := List.mem_singleton.1 hlast
        exact .inr ⟨e, by simp⟩
    · simp [← h.count, add_assoc]
  · next u' hu' =>
    refine ⟨fun o' ho' => ?_, ?_, ?_⟩
    · rcases List.mem_append.1 ho' with hdone | hlast
      · exact (h.covers o' hdone).imp_left (List.mem_append_left _)
      · obtain rfl := List.mem_singleton.1 hlast
        exact .inl (by simp)
    · simp [← h.count, add_right_comm]
    · have htotal : report.totalAmount = totalAvailable u - totalAvailable t := h.total
      simp only [htotal, totalAvailable_safeReleaseBalance hu']
      ring

theorem bulkCleanupFailedOrders_accounts (now : ℕ) (t : Balances)
    (failedOrders : List FailedOrderInfo) :
    Accounts t failedOrders (bulkCleanupFailedOrders now t failedOrders) := by
  rw [bulkCleanupFailedOrders]
  generalize hn : failedOrders.length = n
  clear hn
  induction failedOrders using List.reverseRecOn with
  | nil => exact ⟨by simp, rfl, (sub_self _).symm⟩
  | append_singleton orders o ih =>
    rw [List.foldl_append]
    exact ih.step

end Stablenode.BulkCleanup
