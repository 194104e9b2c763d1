import Stablenode.BalanceManagement

/-! Sequences of balance operations on one row: which operations keep a consistent row
consistent, and which run therefore does. -/
namespace Stablenode.BalanceRuns
open BalanceManagement Run

inductive BalanceOp where
  | reserveBalance (callerTx : Bool) (amount : ℚ)
  | releaseReservedBalance (callerTx : Bool) (amount : ℚ)
  | handleOrderTimeout (amount : ℚ)
  | cancelOrderAndReleaseBalance (amount : ℚ)
  | cancelOrderAndReleaseBalanceWithinTransaction (amount : ℚ)
  | updateOrderStatusSettled (amount : ℚ)
  deriving DecidableEq

namespace BalanceOp

def amount : BalanceOp → ℚ
  | reserveBalance _ a => a
  | releaseReservedBalance _ a => a
  | handleOrderTimeout a => a
  | cancelOrderAndReleaseBalance a => a
  | cancelOrderAndReleaseBalanceWithinTransaction a => a
  | updateOrderStatusSettled a => a

def result : BalanceOp → Balance → Except BalanceError Balance
  | reserveBalance callerTx a, b => BalanceManagement.reserveBalance callerTx b a
  | releaseReservedBalance callerTx a, b => BalanceManagement.releaseReservedBalance callerTx b a
  | handleOrderTimeout a, b => .ok (BalanceManagement.handleOrderTimeout b a)
  | cancelOrderAndReleaseBalance a, b => .ok (BalanceManagement.cancelOrderAndReleaseBalance b a)
  | cancelOrderAndReleaseBalanceWithinTransaction a, b =>
    .ok (BalanceManagement.cancelOrderAndReleaseBalanceWithinTransaction b a)
  | updateOrderStatusSettled a, b => .ok (settle b a)

def apply (op : BalanceOp) (b : Balance) : Balance :=
  match op.result b with
  | .ok b' => b'
  | .error _ => b

def Safe : BalanceOp → Balance → Prop
  | reserveBalance _ _, _ => True
  | releaseReservedBalance _ a, b => b.reserved = 0 → a = 0
  | handleOrderTimeout _, _ => True
  | cancelOrderAndReleaseBalance a, b => a ≤ b.reserved ∨ b.available + a ≤ b.total
  | cancelOrderAndReleaseBalanceWithinTransaction a, b =>
    a ≤ b.reserved ∨ b.available + a ≤ b.total
  | updateOrderStatusSettled a, b =>
    a ≤ b.reserved ∨ b.available + a ≤ b.total ∨ b.available = 0

instance (op : BalanceOp) (b : Balance) : Decidable (op.Safe b) := by
  cases op <;> (unfold Safe; infer_instance)

end BalanceOp

variable {b : Balance} {a : ℚ}

lemma reserveBalance_consistent (h : Consistent b) (ha : 0 ≤ a) (callerTx : Bool) :
    Consistent ((BalanceOp.reserveBalance callerTx a).apply b) := by
  simp only [BalanceOp.apply, BalanceOp.result, reserveBalance_of_consistent h, reserveInTx]
  obtain ⟨h₁, h₂, h₃⟩ := h
  split_ifs with hlt
  · exact ⟨h₁, h₂, h₃⟩
  · constructor <;> simp only <;> linarith

lemma releaseReservedBalance_consistent_iff (h : Consistent b) (ha : 0 ≤ a) (callerTx : Bool) :
    Consistent ((BalanceOp.releaseReservedBalance callerTx a).apply b) ↔
      (b.reserved = 0 → a = 0) := by
  simp only [BalanceOp.apply, BalanceOp.result, releaseReservedBalance_of_consistent h, releaseInTx]
  obtain ⟨h₁, h₂, h₃⟩ := h
  split_ifs with hlt
  · exact ⟨fun _ h0 => absurd h0 hlt.2, fun _ => ⟨h₁, h₂, h₃⟩⟩
  simp only [not_and, not_not] at hlt
  constructor
  · intro hc h0
    have := hc.reserved_nonneg
    simp only at this
    linarith
  · intro hz
    have hle : a ≤ b.reserved := by
      by_contra hgt
      have h0 := hlt (not_le.1 hgt)
      exact hgt (by rw [hz h0, h0])
    constructor <;> simp only <;> linarith

lemma handleOrderTimeout_consistent (h : Consistent b) (ha : 0 ≤ a) :
    Consistent ((BalanceOp.handleOrderTimeout a).apply b) := by
  obtain ⟨h₁, h₂, h₃⟩ := h
  simp only [BalanceOp.apply, BalanceOp.result, BalanceManagement.handleOrderTimeout]
  split_ifs with hr hneg
  · exact ⟨h₁, h₂, h₃⟩
  · have := min_le_right a b.reserved
    linarith
  · have hmin : 0 ≤ min a b.reserved := le_min ha h₂
    have := min_le_right a b.reserved
    constructor <;> simp only <;> linarith

lemma cancelOrderAndReleaseBalance_consistent_iff (h : Consistent b) (ha : 0 ≤ a) :
    Consistent (cancelOrderAndReleaseBalance b a) ↔ a ≤ b.reserved ∨ b.available + a ≤ b.total := by
  obtain ⟨h₁, h₂, h₃⟩ := h
  simp only [cancelOrderAndReleaseBalance]
  split_ifs with hneg
  · constructor
    · intro hc
      have := hc.sum_le_total
      simp only at this
      exact Or.inr (by linarith)
    · rintro (hle | hle)
      · linarith
      · constructor <;> simp only <;> linarith
  · refine ⟨fun _ => Or.inl (by linarith), fun _ => ?_⟩
    constructor <;> simp only <;> linarith

lemma settle_consistent_iff (h : Consistent b) :
    Consistent (settle b a) ↔
      a ≤ b.reserved ∨ b.available + a ≤ b.total ∨ b.available = 0 := by
  have htotal := h.total_nonneg
  obtain ⟨h₁, h₂, h₃⟩ := h
  simp only [settle]
  by_cases hle : a ≤ b.reserved
  · rw [if_neg (by linarith), if_neg (by linarith)]
    refine ⟨fun _ => Or.inl hle, fun _ => ?_⟩
    constructor <;> simp only <;> linarith
  rw [if_pos (by linarith)]
  split_ifs with hneg
  · constructor
    · intro hc
      have := hc.sum_le_total
      simp only at this
      exact Or.inr (Or.inr (by linarith))
    · rintro (h' | h' | h')
      · exact absurd h' hle
      · constructor <;> simp only <;> linarith
      · constructor <;> simp only <;> linarith
  · constructor
    · intro hc
      have := hc.sum_le_total
      simp only at this
      exact Or.inr (Or.inl (by linarith))
    · rintro (h' | h' | h')
      · exact absurd h' hle
      · constructor <;> simp only <;> linarith
      · constructor <;> simp only <;> linarith

theorem apply_consistent_iff (op : BalanceOp) (b : Balance) (ha : 0 ≤ op.amount)
    (h : Consistent b) : Consistent (op.apply b) ↔ op.Safe b := by
  cases op with
  | reserveBalance callerTx a => exact iff_of_true (reserveBalance_consistent h ha callerTx) trivial
  | releaseReservedBalance callerTx a => exact releaseReservedBalance_consistent_iff h ha callerTx
  | handleOrderTimeout a => exact iff_of_true (handleOrderTimeout_consistent h ha) trivial
  | cancelOrderAndReleaseBalance a => exact cancelOrderAndReleaseBalance_consistent_iff h ha
  | cancelOrderAndReleaseBalanceWithinTransaction a =>
    exact cancelOrderAndReleaseBalance_consistent_iff h ha
  | updateOrderStatusSettled a => exact settle_consistent_iff h

theorem run_consistent_iff_safe (b : Balance) (ops : List BalanceOp) (h : Consistent b)
    (hamounts : ∀ op ∈ ops, 0 ≤ op.amount) :
    Always BalanceOp.apply Consistent b ops ↔ Admitted BalanceOp.apply BalanceOp.Safe b ops :=
  always_iff_admitted (fun op b ha h => apply_consistent_iff op b ha h) h hamounts

theorem run_consistent_reserve_release_settle :
    Always BalanceOp.apply Consistent ⟨100, 0, 100⟩
      [.reserveBalance true 40, .reserveBalance false 10, .releaseReservedBalance false 10,
        .updateOrderStatusSettled 40] :=
  (run_consistent_iff_safe _ _ (by decide +kernel) (by decide +kernel)).2 (by decide +kernel)

theorem run_release_twice_inconsistent :
    Consistent ⟨100, 0, 100⟩ ∧
      ¬ Always BalanceOp.apply Consistent ⟨100, 0, 100⟩
        [.reserveBalance true 40, .releaseReservedBalance true 40,
          .releaseReservedBalance false 40] := by
  decide +kernel

structure Account where
  row : Balance
  held : Multiset ℚ

def BalanceOp.held (op : BalanceOp) (x : Account) : Multiset ℚ :=
  match op, op.result x.row with
  | reserveBalance _ a, .ok _ => a ::ₘ x.held
  | releaseReservedBalance _ a, .ok _ => x.held.erase a
  | _, _ => x.held

def Account.step (op : BalanceOp) (x : Account) : Account := ⟨op.apply x.row, op.held x⟩

def BalanceOp.Disciplined : BalanceOp → Account → Prop
  | reserveBalance .., _ => True
  | releaseReservedBalance _ a, x => a ∈ x.held
  | _, _ => False

instance (op : BalanceOp) (x : Account) : Decidable (op.Disciplined x) := by
  cases op <;> (unfold BalanceOp.Disciplined; infer_instance)

structure Exact (b : Balance) (x : Account) : Prop where
  row : x.row = ⟨b.available - x.held.sum, b.reserved + x.held.sum, b.total⟩
  releases : ∀ callerTx, ∀ a ∈ x.held, ∃ b', releaseReservedBalance callerTx x.row a = .ok b'
  reserves : ∀ callerTx a, 0 ≤ a →
    ((∃ b', reserveBalance callerTx x.row a = .ok b') ↔ a ≤ b.available - x.held.sum)
  refuses : ∀ callerTx a, b.available - x.held.sum < a →
    Account.step (.reserveBalance callerTx a) x = x

structure Covered (b : Balance) (x : Account) : Prop where
  row : x.row = ⟨b.available - x.held.sum, b.reserved + x.held.sum, b.total⟩
  nonneg : ∀ a ∈ x.held, 0 ≤ a
  sum_le : x.held.sum ≤ b.available

section Covered

variable {x : Account} (hb : Consistent b) (hx : Covered b x)
include hx

lemma Covered.le_sum (ha : a ∈ x.held) : a ≤ x.held.sum :=
  Multiset.single_le_sum hx.nonneg a ha

include hb

lemma Covered.consistent : Consistent x.row := by
  have hsum : 0 ≤ x.held.sum := Multiset.sum_nonneg hx.nonneg
  have hle := hx.sum_le
  obtain ⟨h₁, h₂, h₃⟩ := hb
  rw [hx.row]
  constructor <;> simp only <;> linarith

lemma Covered.reserveBalance_eq (callerTx : Bool) (a : ℚ) :
    reserveBalance callerTx x.row a = reserveInTx x.row a :=
  reserveBalance_of_consistent (hx.consistent hb) callerTx a

lemma Covered.releaseReservedBalance_eq (callerTx : Bool) (ha : a ∈ x.held) :
    releaseReservedBalance callerTx x.row a = .ok (afterRelease x.row a) := by
  have hle : a ≤ x.row.reserved := by
    rw [hx.row]
    exact (hx.le_sum ha).trans (le_add_of_nonneg_left hb.reserved_nonneg)
  rw [releaseReservedBalance_of_consistent (hx.consistent hb), releaseInTx_eq, if_pos (.inl hle)]

lemma Covered.exact : Exact b x := by
  have havailable : x.row.available = b.available - x.held.sum := by rw [hx.row]
  refine ⟨hx.row, fun callerTx a ha => ⟨_, hx.releaseReservedBalance_eq hb callerTx ha⟩,
    fun callerTx a _ => ?_, fun callerTx a hlt => ?_⟩
  · rw [hx.reserveBalance_eq hb, reserveInTx, havailable, ← not_lt]
    split_ifs with hlt <;> simp [hlt]
  · have hresult : (BalanceOp.reserveBalance callerTx a).result x.row =
        .error (.insufficientAvailable x.row.available a) := by
      rw [BalanceOp.result, hx.reserveBalance_eq hb, reserveInTx, havailable, if_pos hlt]
    simp only [Account.step, BalanceOp.apply, BalanceOp.held, hresult]

lemma Covered.step {op : BalanceOp} (ha : 0 ≤ op.amount) (hop : op.Disciplined x) :
    Covered b (Account.step op x) := by
  cases op with
  | reserveBalance callerTx a =>
    by_cases hlt : b.available - x.held.sum < a
    · rw [(hx.exact hb).refuses callerTx a hlt]
      exact hx
    have hresult : (BalanceOp.reserveBalance callerTx a).result x.row =
        .ok ⟨b.available - x.held.sum - a, b.reserved + x.held.sum + a, b.total⟩ := by
      rw [BalanceOp.result, hx.reserveBalance_eq hb, reserveInTx, hx.row, if_neg hlt]
    simp only [Account.step, BalanceOp.apply, BalanceOp.held, hresult]
    refine ⟨?_, Multiset.forall_mem_cons.2 ⟨ha, hx.nonneg⟩, ?_⟩
    · rw [Multiset.sum_cons, sub_sub, add_assoc, add_comm a]
    · rw [Multiset.sum_cons]
      linarith
  | releaseReservedBalance callerTx a =>
    have hsum := Multiset.sum_erase hop
    have hresult : (BalanceOp.releaseReservedBalance callerTx a).result x.row =
        .ok ⟨b.available - x.held.sum + a, b.reserved + x.held.sum - a, b.total⟩ := by
      rw [BalanceOp.result, hx.releaseReservedBalance_eq hb callerTx hop, afterRelease, hx.row]
    simp only [Account.step, BalanceOp.apply, BalanceOp.held, hresult]
    refine ⟨?_, fun c hc => hx.nonneg c (Multiset.mem_of_mem_erase hc), ?_⟩
    · rw [Balance.mk.injEq]
      exact ⟨by linarith, by linarith, rfl⟩
    · have := hx.sum_le
      have : 0 ≤ a := ha
      linarith
  | _ => exact hop.elim

end Covered

theorem run_exact (b : Balance) (ops : List BalanceOp) (h : Consistent b)
    (hamounts : ∀ op ∈ ops, 0 ≤ op.amount)
    (hops : Admitted Account.step BalanceOp.Disciplined ⟨b, 0⟩ ops) :
    Always Account.step (Exact b) ⟨b, 0⟩ ops := by
  have hstart : Covered b ⟨b, 0⟩ := ⟨by simp, by simp, by simpa using h.available_nonneg⟩
  refine (always_of_admitted (fun op x hx hop => ?_) hstart
    (hops.and (admitted_iff_forall_mem.2 hamounts))).mono fun x hx => hx.exact h
  exact hx.step h hop.2 hop.1

theorem run_exact_two_reservations :
    Always Account.step (Exact ⟨100, 0, 100⟩) ⟨⟨100, 0, 100⟩, 0⟩
      [.reserveBalance true 40, .reserveBalance false 10, .releaseReservedBalance false 40] :=
  run_exact _ _ (by decide +kernel) (by decide +kernel) (by decide +kernel)

theorem negative_reservation_not_exact :
    Consistent ⟨10, 0, 10⟩ ∧
      Admitted Account.step BalanceOp.Disciplined ⟨⟨10, 0, 10⟩, 0⟩ [.reserveBalance true (-5)] ∧
      ¬ Always Account.step (Exact ⟨10, 0, 10⟩) ⟨⟨10, 0, 10⟩, 0⟩ [.reserveBalance true (-5)] := by
  refine ⟨by decide +kernel, ⟨trivial, trivial⟩, fun ⟨_, h⟩ => ?_⟩
  have hrow : (Account.step (.reserveBalance true (-5)) ⟨⟨10, 0, 10⟩, 0⟩).row = ⟨15, -5, 10⟩ := by
    decide +kernel
  have hrest : (15 : ℚ) = 10 - _ := congrArg Balance.available (hrow.symm.trans h.row)
  obtain ⟨b', hb'⟩ := (h.reserves false 3 (by norm_num)).2 (le_trans (by norm_num) hrest.le)
  have herror : reserveBalance false ⟨15, -5, 10⟩ 3 = .error
    (.validationFailed (.stillInconsistent (.negativeReserved (-5)))) := by decide +kernel
  rw [hrow, herror] at hb'
  cases hb'

end Stablenode.BalanceRuns
