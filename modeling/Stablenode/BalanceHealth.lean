import Stablenode.BalanceManagement

/-! The health report of a balance row (`CheckBalanceHealth`). -/
namespace Stablenode.BalanceManagement

inductive Severity where
  | none
  | low
  | medium
  | high
  deriving DecidableEq

inductive HealthStatus where
  | healthy
  | info
  | warning
  | critical
  deriving DecidableEq

structure HealthIssue where
  text : String
  recommendation : String
  severity : Severity
  deriving DecidableEq

structure BalanceHealthReport where
  issues : List HealthIssue := []
  severity : Severity := .none
  status : HealthStatus := .healthy

namespace BalanceHealthReport

def check (r : BalanceHealthReport) (found : Bool) (issue : HealthIssue) : BalanceHealthReport :=
  if found then { r with issues := r.issues ++ [issue], severity := issue.severity } else r

def determineStatus (r : BalanceHealthReport) : BalanceHealthReport :=
  if r.issues.length = 0 then { r with status := .healthy, severity := .none }
  else
    match r.severity with
    | .high => { r with status := .critical }
    | .medium => { r with status := .warning }
    | _ => { r with status := .info }

end BalanceHealthReport

def negativeIssue (field : String) (x : ℚ) : HealthIssue where
  text := "Negative " ++ field ++ " balance: " ++ Decimal.toString x
  recommendation := "Reset " ++ field ++ " balance to zero"
  severity := .high

def inconsistencyIssue (b : Balance) : HealthIssue where
  text := "Logical inconsistency: available + reserved (" ++
    Decimal.toString (b.available + b.reserved) ++ ") > total (" ++ Decimal.toString b.total ++ ")"
  recommendation := "Adjust total balance to match available + reserved"
  severity := .medium

def zeroIssue : HealthIssue where
  text := "All balance fields are zero - may indicate uninitialized provider"
  recommendation := "Verify provider balance initialization"
  severity := .low

def reservedIssue (b : Balance) : HealthIssue where
  text := "Reserved balance (" ++ Decimal.toString b.reserved ++ ") exceeds total balance (" ++
    Decimal.toString b.total ++ ")"
  recommendation := "Investigate order assignment logic"
  severity := .high

def healthChecks (b : Balance) : List (Bool × HealthIssue) :=
  [(decide (b.available < 0), negativeIssue "available" b.available),
    (decide (b.reserved < 0), negativeIssue "reserved" b.reserved),
    (decide (b.total < 0), negativeIssue "total" b.total),
    (decide (b.total < b.available + b.reserved), inconsistencyIssue b),
    (decide (b.available = 0 ∧ b.reserved = 0 ∧ b.total = 0), zeroIssue),
    (decide (b.total < b.reserved), reservedIssue b)]

def checkBalanceHealth (b : Balance) : BalanceHealthReport :=
  ((healthChecks b).foldl (fun (r : BalanceHealthReport) c => r.check c.1 c.2) {}).determineStatus

def validateBalanceConsistency (b : Balance) : Except ValidationError Unit :=
  validateBalanceConsistencyInternal b

def worst (severities : List Severity) : Severity :=
  if .high ∈ severities then .high
  else if .medium ∈ severities then .medium
  else if .low ∈ severities then .low
  else .none

def Downgraded (b : Balance) : Prop :=
  (b.available < 0 ∨ b.reserved < 0 ∨ b.total < 0) ∧ b.total < b.available + b.reserved ∧
    b.reserved ≤ b.total

def foundSeverities (checks : List (Bool × Severity)) : List Severity :=
  (checks.filter Prod.fst).map Prod.snd

namespace BalanceHealthReport

variable {r : BalanceHealthReport}

lemma foldl_check (checks : List (Bool × HealthIssue)) (r : BalanceHealthReport) :
    (checks.foldl (fun (r : BalanceHealthReport) c => r.check c.1 c.2) r).issues.map
        HealthIssue.severity =
        r.issues.map HealthIssue.severity ++
          foundSeverities (checks.map fun c => (c.1, c.2.severity)) ∧
      (checks.foldl (fun (r : BalanceHealthReport) c => r.check c.1 c.2) r).severity =
        (foundSeverities (checks.map fun c => (c.1, c.2.severity))).getLast?.getD r.severity := by
  induction checks generalizing r with
  | nil => simp [foundSeverities]
  | cons c checks ih =>
    obtain ⟨hissues, hseverity⟩ := ih (r.check c.1 c.2)
    rw [List.foldl_cons, hissues, hseverity]
    obtain ⟨found, issue⟩ := c
    cases found with
    | false => simp [check, foundSeverities]
    | true => simp [check, foundSeverities, List.getLast?_cons]

lemma determineStatus_eq (h : r.issues = [] → r.severity = .none) :
    r.determineStatus.issues = r.issues ∧ r.determineStatus.severity = r.severity ∧
      (r.determineStatus.status = .healthy ↔ r.issues = []) ∧
      (r.determineStatus.status = .critical ↔ r.severity = .high) := by
  rw [determineStatus]
  split_ifs with hlength
  · have hnil := List.length_eq_zero_iff.1 hlength
    simp [hnil, h hnil]
  · have hnil : r.issues ≠ [] := fun hnil => hlength (by simp [hnil])
    split <;> simp_all

end BalanceHealthReport

lemma severities_iff : ∀ available reserved total sum zero exceeds : Bool,
    (zero = true → (available || reserved || total || sum || exceeds) = false) →
    let found := foundSeverities [(available, .high), (reserved, .high), (total, .high),
      (sum, .medium), (zero, .low), (exceeds, .high)]
    ((found.getLast?.getD .none = worst found ∧
        (found.getLast?.getD .none = .high ↔ .high ∈ found)) ↔
      ¬ ((available || reserved || total) = true ∧ sum = true ∧ exceeds = false)) ∧
    (found = [] ↔ (available || reserved || total || sum || zero || exceeds) = false) := by
  decide

theorem report_severity_iff (b : Balance) :
    ((checkBalanceHealth b).severity =
        worst ((checkBalanceHealth b).issues.map HealthIssue.severity) ∧
      ((checkBalanceHealth b).status = .critical ↔
        ∃ i ∈ (checkBalanceHealth b).issues, i.severity = .high) ∧
      ((checkBalanceHealth b).status = .healthy ↔
        validateBalanceConsistency b = .ok () ∧ b ≠ ⟨0, 0, 0⟩)) ↔ ¬ Downgraded b := by
  obtain ⟨hissues, hseverity⟩ := BalanceHealthReport.foldl_check (healthChecks b) {}
  rw [List.map_nil, List.nil_append] at hissues
  set found := foundSeverities ((healthChecks b).map fun c => (c.1, c.2.severity)) with hfound
  have hnil := List.map_eq_nil_iff.symm.trans (Eq.congr_left hissues)
  obtain ⟨h₁, h₂, h₃, h₄⟩ := BalanceHealthReport.determineStatus_eq fun h => by
    rw [hseverity, hnil.1 h]
    rfl
  have hhigh : (∃ i ∈ (checkBalanceHealth b).issues, i.severity = .high) ↔ .high ∈ found := by
    rw [← hissues, ← h₁, List.mem_map, checkBalanceHealth]
  have hzero : decide (b.available = 0 ∧ b.reserved = 0 ∧ b.total = 0) = true →
      (decide (b.available < 0) || decide (b.reserved < 0) || decide (b.total < 0) ||
        decide (b.total < b.available + b.reserved) || decide (b.total < b.reserved)) = false := by
    intro h
    obtain ⟨ha, hr, ht⟩ := of_decide_eq_true h
    simp [ha, hr, ht]
  obtain ⟨hworst, hempty⟩ := severities_iff _ _ _ _ _ _ hzero
  have hhealthy : found = [] ↔ validateBalanceConsistency b = .ok () ∧ b ≠ ⟨0, 0, 0⟩ := by
    rw [validateBalanceConsistency, validateBalanceConsistencyInternal_ok_iff, consistent_iff]
    refine hempty.trans ?_
    have hrow : b = ⟨0, 0, 0⟩ ↔ b.available = 0 ∧ b.reserved = 0 ∧ b.total = 0 := by
      cases b
      simp
    simp only [Bool.or_eq_false_iff, decide_eq_false_iff_not, not_lt, ne_eq, hrow]
    constructor
    · rintro ⟨⟨⟨⟨⟨ha, hr⟩, -⟩, hsum⟩, hzero⟩, -⟩
      exact ⟨⟨ha, hr, hsum⟩, hzero⟩
    · rintro ⟨⟨ha, hr, hsum⟩, hzero⟩
      exact ⟨⟨⟨⟨⟨ha, hr⟩, by linarith⟩, hsum⟩, hzero⟩, by linarith⟩
  rw [hhigh, checkBalanceHealth, h₁, h₂, h₃, h₄, hissues, hseverity, hnil, hhealthy, iff_self, and_true]
  refine hworst.trans (not_congr ?_)
  simp only [Downgraded, Bool.or_eq_true, decide_eq_true_eq, decide_eq_false_iff_not, not_lt, or_assoc]

theorem negative_reserved_warned :
    (checkBalanceHealth ⟨5, -1, 3⟩).issues.map HealthIssue.severity = [.high, .medium] ∧
      (checkBalanceHealth ⟨5, -1, 3⟩).severity = .medium ∧
      (checkBalanceHealth ⟨5, -1, 3⟩).status = .warning := by
  decide +kernel

end Stablenode.BalanceManagement
