import Stablenode.BalanceManagement

/-! The two repairs of a balance row (services/balance_management.go), and the four operations that
give a reserved amount back. -/
namespace Stablenode.BalanceRows

open BalanceManagement

variable {b : Balance}

section Repair

def fixBalanceInconsistencies (b : Balance) : Balance := fixBalanceInconsistenciesInternal b

def validateBalanceConsistency (b : Balance) : Except ValidationError Unit :=
  validateBalanceConsistencyInternal b

instance : PartialOrder Balance :=
  PartialOrder.lift (fun b => (b.available, b.reserved, b.total)) fun b c h => by
    cases b
    cases c
    simpa using h

lemma fixBalanceInconsistenciesInternal_eq (b : Balance) :
    fixBalanceInconsistenciesInternal b = ⟨max b.available 0, max b.reserved 0,
      max (max b.total 0) (max b.available 0 + max b.reserved 0)⟩ := by
  simp only [fixBalanceInconsistenciesInternal, max_def_lt, gt_iff_lt]

lemma fixBalanceInconsistenciesInternal_consistent (b : Balance) :
    Consistent (fixBalanceInconsistenciesInternal b) := by
  rw [fixBalanceInconsistenciesInternal_eq]
  exact ⟨le_max_right _ _, le_max_right _ _, le_max_right _ _⟩

lemma le_fixBalanceInconsistenciesInternal (b : Balance) :
    b ≤ fixBalanceInconsistenciesInternal b := by
  rw [fixBalanceInconsistenciesInternal_eq]
  exact ⟨le_max_left _ _, le_max_left _ _, (le_max_left _ _).trans (le_max_left _ _)⟩

lemma fixBalanceInconsistenciesInternal_le {c : Balance} (hle : b ≤ c) (hc : Consistent c) :
    fixBalanceInconsistenciesInternal b ≤ c := by
  have havailable : max b.available 0 ≤ c.available := max_le hle.1 hc.available_nonneg
  have hreserved : max b.reserved 0 ≤ c.reserved := max_le hle.2.1 hc.reserved_nonneg
  have hsum := (add_le_add havailable hreserved).trans hc.sum_le_total
  rw [fixBalanceInconsistenciesInternal_eq]
  exact ⟨havailable, hreserved, max_le (max_le hle.2.2 hc.total_nonneg) hsum⟩

lemma fixBalanceInconsistenciesInternal_of_consistent (h : Consistent b) :
    fixBalanceInconsistenciesInternal b = b :=
  (fixBalanceInconsistenciesInternal_le le_rfl h).antisymm (le_fixBalanceInconsistenciesInternal b)

theorem fixBalanceInconsistencies_isLeast (b : Balance) :
    IsLeast {c | b ≤ c ∧ validateBalanceConsistency c = .ok ()} (fixBalanceInconsistencies b) ∧
      fixBalanceInconsistencies (fixBalanceInconsistencies b) = fixBalanceInconsistencies b ∧
      (∀ c, b ≤ c → fixBalanceInconsistencies b ≤ fixBalanceInconsistencies c) ∧
      (fixBalanceInconsistencies b ≠ b ↔ validateBalanceConsistency b ≠ .ok ()) := by
  have hfixed := fixBalanceInconsistenciesInternal_consistent
  have hle := le_fixBalanceInconsistenciesInternal
  have hvalid := validateBalanceConsistencyInternal_ok_iff
  refine ⟨⟨⟨hle b, (hvalid _).2 (hfixed b)⟩, fun c hc => ?_⟩,
    fixBalanceInconsistenciesInternal_of_consistent (hfixed b), fun c hbc => ?_, not_congr ?_⟩
  · exact fixBalanceInconsistenciesInternal_le hc.1 ((hvalid c).1 hc.2)
  · exact fixBalanceInconsistenciesInternal_le (hbc.trans (hle c)) (hfixed c)
  · refine Iff.trans ⟨fun heq => ?_, fixBalanceInconsistenciesInternal_of_consistent⟩ (hvalid b).symm
    exact heq ▸ hfixed b

structure Repairs (b fixed : Balance) : Prop where
  succeeds : validateAndFixBalances b = .ok fixed
  consistent : Consistent fixed
  unchanged : Consistent b → fixed = b
  again : validateAndFixBalances fixed = .ok fixed
  agrees : fixBalanceInconsistencies b = fixed

theorem repairs_iff_consistent (b : Balance) : (∃ fixed, Repairs b fixed) ↔ Consistent b := by
  constructor
  · rintro ⟨fixed, hrepairs⟩
    by_contra hb
    obtain ⟨e, he⟩ := validateAndFixBalances_inconsistent hb
    have hfixed := hrepairs.succeeds
    rw [he] at hfixed
    cases hfixed
  · intro hb
    have hvalid := validateAndFixBalances_consistent hb
    exact ⟨b, hvalid, hb, fun _ => rfl, hvalid, fixBalanceInconsistenciesInternal_of_consistent hb⟩

theorem negative_available_not_repaired :
    validateAndFixBalances ⟨-5, 0, 10⟩ = .error (.stillInconsistent (.negativeAvailable (-5))) ∧
      fixBalanceInconsistencies ⟨-5, 0, 10⟩ = ⟨0, 0, 10⟩ ∧
      ¬ ∃ fixed, Repairs ⟨-5, 0, 10⟩ fixed := by
  have herror : validateAndFixBalances ⟨-5, 0, 10⟩ =
      .error (.stillInconsistent (.negativeAvailable (-5))) := by decide +kernel
  refine ⟨herror, by decide +kernel, ?_⟩
  rintro ⟨fixed, hrepairs⟩
  cases herror.symm.trans hrepairs.succeeds

end Repair

section Releases

variable {b' : Balance} {a : ℚ}

inductive Release where
  | releaseReservedBalance (callerTx : Bool)
  | handleOrderTimeout
  | cancelOrderAndReleaseBalance
  | cancelOrderAndReleaseBalanceWithinTransaction
  deriving DecidableEq

def Release.commit : Release → Balance → ℚ → Except BalanceError Balance
  | releaseReservedBalance callerTx, b, a => BalanceManagement.releaseReservedBalance callerTx b a
  | handleOrderTimeout, b, a => .ok (BalanceManagement.handleOrderTimeout b a)
  | cancelOrderAndReleaseBalance, b, a => .ok (BalanceManagement.cancelOrderAndReleaseBalance b a)
  | cancelOrderAndReleaseBalanceWithinTransaction, b, a =>
    .ok (BalanceManagement.cancelOrderAndReleaseBalanceWithinTransaction b a)

def releases (callerTx : Bool) : List Release :=
  [.releaseReservedBalance callerTx, .handleOrderTimeout, .cancelOrderAndReleaseBalance,
    .cancelOrderAndReleaseBalanceWithinTransaction]

structure Moves (b b' : Balance) : Prop where
  sum : b'.available + b'.reserved = b.available + b.reserved
  total : b'.total = b.total
  forward : b.available ≤ b'.available
  at_most_reserved : b'.available - b.available ≤ b.reserved

def ConservesMoney (callerTx : Bool) (b : Balance) (a : ℚ) : Prop :=
  (∀ r ∈ releases callerTx, ∀ b', r.commit b a = .ok b' → Moves b b') ∧
    (a ≤ b.reserved → ∃ b', ∀ r ∈ releases callerTx, r.commit b a = .ok b')

variable {callerTx : Bool}

lemma forall_releases {P : Release → Prop} : (∀ r ∈ releases callerTx, P r) ↔
    P (.releaseReservedBalance callerTx) ∧ P .handleOrderTimeout ∧
      P .cancelOrderAndReleaseBalance ∧ P .cancelOrderAndReleaseBalanceWithinTransaction := by
  simp [releases]

lemma moves_afterRelease (ha : 0 ≤ a) (hle : a ≤ b.reserved) : Moves b (afterRelease b a) := by
  constructor
  · simp only [afterRelease]
    ring
  · rfl
  · simp only [afterRelease]
    linarith
  · simp only [afterRelease]
    linarith

lemma releaseReservedBalance_ok_iff (hle : a ≤ b.reserved) :
    releaseReservedBalance callerTx b a = .ok (afterRelease b a) ↔
      (callerTx = false → Consistent b) := by
  have hrelease : releaseInTx b a = .ok (afterRelease b a) := by
    have haccepts : AcceptsRelease b a := Or.inl hle
    rw [releaseInTx_eq, if_pos haccepts]
  cases callerTx with
  | true => exact iff_of_true hrelease nofun
  | false =>
    simp only [forall_const]
    constructor
    · intro hok
      by_contra hb
      obtain ⟨e, he⟩ := validateAndFixBalances_inconsistent hb
      rw [BalanceManagement.releaseReservedBalance, validatedUnlessTx, he] at hok
      cases hok
    · intro hb
      rw [releaseReservedBalance_of_consistent hb, hrelease]

lemma handleOrderTimeout_of_reserved (ha : 0 ≤ a) (hle : a ≤ b.reserved) :
    handleOrderTimeout b a = afterRelease b a := by
  rw [handleOrderTimeout]
  split_ifs with hzero
  · -- nothing is reserved, so nothing is given back
    have hamount : a = 0 := by linarith
    rw [hamount, afterRelease, add_zero, sub_zero]
  · have hnonneg : ¬ b.reserved - a < 0 := by linarith
    simp only [min_eq_left hle, if_neg hnonneg, afterRelease]

lemma cancelOrderAndReleaseBalance_of_reserved (hle : a ≤ b.reserved) :
    cancelOrderAndReleaseBalance b a = afterRelease b a := by
  have hnonneg : ¬ b.reserved - a < 0 := by linarith
  simp only [cancelOrderAndReleaseBalance, if_neg hnonneg, afterRelease]

lemma not_moves_cancel (hlt : b.reserved < a) : ¬ Moves b (cancelOrderAndReleaseBalance b a) := by
  intro hmoves
  have hmoved := hmoves.at_most_reserved
  simp only [cancelOrderAndReleaseBalance] at hmoved
  linarith

lemma all_commit_afterRelease (ha : 0 ≤ a) (hle : a ≤ b.reserved)
    (hb : callerTx = false → Consistent b) :
    ∀ r ∈ releases callerTx, r.commit b a = .ok (afterRelease b a) := by
  have hcancel := cancelOrderAndReleaseBalance_of_reserved hle
  refine forall_releases.2 ⟨(releaseReservedBalance_ok_iff hle).2 hb, ?_, ?_, ?_⟩
  · rw [Release.commit, handleOrderTimeout_of_reserved ha hle]
  · rw [Release.commit, hcancel]
  · rw [Release.commit, cancelOrderAndReleaseBalanceWithinTransaction, hcancel]

theorem conservesMoney_iff (callerTx : Bool) {b : Balance} {a : ℚ} (havailable : 0 ≤ b.available)
    (hreserved : 0 ≤ b.reserved) (ha : 0 ≤ a) :
    ConservesMoney callerTx b a ↔
      a ≤ b.reserved ∧ (callerTx = false → b.available + b.reserved ≤ b.total) := by
  constructor
  · rintro ⟨hmoves, hsame⟩
    have hle : a ≤ b.reserved := by
      by_contra hlt
      have hcancel := (forall_releases.1 hmoves).2.2.1
      exact not_moves_cancel (not_le.1 hlt) (hcancel _ rfl)
    obtain ⟨b', hcommit⟩ := hsame hle
    obtain ⟨hrelease, -, hcancel, -⟩ := forall_releases.1 hcommit
    -- the cancellation tells which row all of them commit
    have hb' : afterRelease b a = b' := by
      rw [← cancelOrderAndReleaseBalance_of_reserved hle]
      exact Except.ok.inj hcancel
    rw [← hb'] at hrelease
    exact ⟨hle, fun hcaller => ((releaseReservedBalance_ok_iff hle).1 hrelease hcaller).sum_le_total⟩
  · rintro ⟨hle, hsum⟩
    have hcommit := all_commit_afterRelease ha hle
      fun hcaller => ⟨havailable, hreserved, hsum hcaller⟩
    refine ⟨fun r hr b' hb' => ?_, fun _ => ⟨_, hcommit⟩⟩
    obtain rfl := Except.ok.inj ((hcommit r hr).symm.trans hb')
    exact moves_afterRelease ha hle

theorem conservesMoney_full_release : (0 : ℚ) ≤ 40 ∧ ConservesMoney false ⟨60, 40, 100⟩ 40 :=
  ⟨by decide +kernel, (conservesMoney_iff false (by decide +kernel) (by decide +kernel)
    (by decide +kernel)).2 (by decide +kernel)⟩

theorem over_release_moves_too_much :
    cancelOrderAndReleaseBalance ⟨0, 10, 10⟩ 30 = ⟨30, 0, 10⟩ ∧
      ¬ ConservesMoney true ⟨0, 10, 10⟩ 30 ∧
      releaseReservedBalance false ⟨0, 0, 10⟩ 5 = .ok ⟨5, -5, 10⟩ ∧
      ¬ ConservesMoney false ⟨0, 0, 10⟩ 5 := by
  have hcancel : cancelOrderAndReleaseBalance ⟨0, 10, 10⟩ 30 = ⟨30, 0, 10⟩ := by decide +kernel
  have hrelease : releaseReservedBalance false ⟨0, 0, 10⟩ 5 = .ok ⟨5, -5, 10⟩ := by
    decide +kernel
  refine ⟨hcancel, fun h => ?_, hrelease, fun h => ?_⟩
  · exact not_moves_cancel (by decide +kernel) ((forall_releases.1 h.1).2.2.1 _ rfl)
  · have hmoved := ((forall_releases.1 h.1).1 _ hrelease).at_most_reserved
    norm_num at hmoved

end Releases

end Stablenode.BalanceRows
