import Stablenode.BalanceRuns
import Stablenode.Pool

/-! Concurrent balance operations on one row (services/balance_management.go,
services/common/order.go): every query and every update is a step, and an update writes absolute
values. -/
namespace Stablenode.BalanceRaces

open BalanceManagement BalanceRuns Proc

inductive RowOp where
  | reserveBalance (callerTx : Bool) (amount : ℚ)
  | releaseReservedBalance (callerTx : Bool) (amount : ℚ)
  | updateOrderStatusSettled (amount : ℚ)
  deriving DecidableEq

inductive RowCall where
  | query
  | update (op : RowOp) (old new : Balance)
  deriving DecidableEq

inductive RowError where
  | query
  | balance (e : BalanceError)
  | update
  deriving DecidableEq

def RowCall.exec : RowCall → Balance → Balance
  | query, b => b
  | update (.updateOrderStatusSettled _) _ new, _ => new
  | update _ _ new, b => { b with available := new.available, reserved := new.reserved }

abbrev RowProgram := Proc RowCall Balance (Except RowError Unit)

namespace RowOp

def balanceOp : RowOp → BalanceOp
  | reserveBalance callerTx a => .reserveBalance callerTx a
  | releaseReservedBalance callerTx a => .releaseReservedBalance callerTx a
  | updateOrderStatusSettled a => .updateOrderStatusSettled a

def result (op : RowOp) (b : Balance) : Except BalanceError Balance := op.balanceOp.result b

def inTx (op : RowOp) (compute : Balance → Except BalanceError Balance) : RowProgram :=
  attempt .query (ret (.error .query)) fun b =>
  match compute b with
  | .error e => ret (.error (.balance e))
  | .ok new => attempt (.update op b new) (ret (.error .update)) fun _ => ret (.ok ())

def validated (callerTx : Bool) (next : RowProgram) : RowProgram :=
  if callerTx then next
  else
    attempt .query (ret (.error .query)) fun b =>
    match validateAndFixBalances b with
    | .error e => ret (.error (.balance (.validationFailed e)))
    | .ok _ => next

def program : RowOp → RowProgram
  | reserveBalance callerTx a =>
    validated callerTx (inTx (reserveBalance callerTx a) fun b => reserveInTx b a)
  | releaseReservedBalance callerTx a =>
    validated callerTx (inTx (releaseReservedBalance callerTx a) fun b => releaseInTx b a)
  | updateOrderStatusSettled a =>
    attempt .query (ret (.error .query)) fun b =>
    -- `UpdateProviderBalance` looks the row up again, for its id
    attempt .query (ret (.error .query)) fun _ =>
    attempt (.update (updateOrderStatusSettled a) b (settle b a)) (ret (.error .update)) fun _ =>
    ret (.ok ())

def Undisturbed (old b : Balance) : RowOp → Prop
  | reserveBalance callerTx _ | releaseReservedBalance callerTx _ =>
    b.available = old.available ∧ b.reserved = old.reserved ∧ (callerTx = false → Consistent b)
  | updateOrderStatusSettled _ => b = old

instance (old b : Balance) (op : RowOp) : Decidable (op.Undisturbed old b) := by
  cases op <;> (unfold Undisturbed; infer_instance)

def reservedAmount : RowOp → ℚ
  | reserveBalance _ a => a
  | _ => 0

def releasedAmount : RowOp → ℚ
  | releaseReservedBalance _ a => a
  | _ => 0

end RowOp

def Undisturbed : RowCall → Balance → Prop
  | .query, _ => True
  | .update op old _, b => op.Undisturbed old b

instance (call : RowCall) (b : Balance) : Decidable (Undisturbed call b) := by
  cases call <;> (unfold Undisturbed; infer_instance)

def start (ops : List RowOp) (b : Balance) : Pool RowCall Balance (Except RowError Unit) :=
  ⟨b, ops.map RowOp.program⟩

def total (f : RowOp → ℚ) (ops : List RowOp) (order : List ℕ) : ℚ :=
  (order.map fun i => (ops[i]?.map f).getD 0).sum

variable {old new b : Balance} {a : ℚ} {callerTx : Bool}

lemma reserveInTx_eq_ok_iff :
    reserveInTx b a = .ok new ↔
      a ≤ b.available ∧
        new = { b with available := b.available - a, reserved := b.reserved + a } := by
  rw [reserveInTx]
  split_ifs with h
  · simp [h]
  · simp [not_lt.1 h, eq_comm]

lemma releaseInTx_eq_ok_iff :
    releaseInTx b a = .ok new ↔ AcceptsRelease b a ∧ new = afterRelease b a := by
  rw [releaseInTx_eq]
  split_ifs with h <;> simp [h, eq_comm]

lemma validatedUnlessTx_of_undisturbed (h : callerTx = false → Consistent b) :
    validatedUnlessTx callerTx b = .ok b := by
  cases callerTx with
  | false => exact validatedUnlessTx_consistent (h rfl) false
  | true => rfl

variable {compute : Balance → Except BalanceError Balance} {op : RowOp} {next : RowProgram}

section Alone

lemma validateAndFixBalances_eq_ok_iff :
    validateAndFixBalances b = .ok new ↔ Consistent b ∧ new = b := by
  by_cases hc : Consistent b
  · simp [validateAndFixBalances_consistent hc, hc, eq_comm]
  · obtain ⟨e, he⟩ := validateAndFixBalances_inconsistent hc
    simp [he, hc]

end Alone

section Serial

open Pool

lemma inTx_commits
    (h : ∀ old new b, compute old = .ok new → op.Undisturbed old b →
      op.result b = .ok ((RowCall.update op old new).exec b)) :
    Commits RowCall.exec Undisturbed op.result (op.inTx compute) := by
  refine .inl ⟨fun _ => rfl, fun r => ?_⟩
  cases r with
  | none => exact ⟨_, rfl⟩
  | some old =>
    dsimp only
    cases hnew : compute old with
    | error e => exact ⟨_, rfl⟩
    | ok new => exact .inr ⟨fun b hb => h old new b hnew hb, fun _ => rfl, _, rfl⟩

lemma validated_commits {result : Balance → Except BalanceError Balance}
    (h : Commits RowCall.exec Undisturbed result next) :
    Commits RowCall.exec Undisturbed result (RowOp.validated callerTx next) := by
  rw [RowOp.validated]
  split_ifs
  · exact h
  refine .inl ⟨fun _ => rfl, fun r => ?_⟩
  cases r with
  | none => exact ⟨_, rfl⟩
  | some b =>
    dsimp only
    cases validateAndFixBalances b with
    | error e => exact ⟨_, rfl⟩
    | ok _ => exact h

theorem program_commits (op : RowOp) : Commits RowCall.exec Undisturbed op.result op.program := by
  cases op with
  | reserveBalance callerTx a =>
    refine validated_commits (inTx_commits fun old new b hnew hb => ?_)
    obtain ⟨havailable, hreserved, hvalid⟩ := hb
    obtain ⟨hle, rfl⟩ := reserveInTx_eq_ok_iff.1 hnew
    simp only [RowOp.result, RowOp.balanceOp, BalanceOp.result, reserveBalance,
      validatedUnlessTx_of_undisturbed hvalid]
    refine reserveInTx_eq_ok_iff.2 ⟨havailable ▸ hle, ?_⟩
    rw [RowCall.exec, havailable, hreserved]
    exact fun _ hop => by cases hop
  | releaseReservedBalance callerTx a =>
    refine validated_commits (inTx_commits fun old new b hnew hb => ?_)
    obtain ⟨havailable, hreserved, hvalid⟩ := hb
    obtain ⟨haccepts, rfl⟩ := releaseInTx_eq_ok_iff.1 hnew
    simp only [RowOp.result, RowOp.balanceOp, BalanceOp.result, releaseReservedBalance,
      validatedUnlessTx_of_undisturbed hvalid]
    refine releaseInTx_eq_ok_iff.2 ⟨?_, ?_⟩
    · rw [AcceptsRelease, hreserved]
      exact haccepts
    · rw [RowCall.exec, afterRelease, afterRelease, havailable, hreserved]
      exact fun _ hop => by cases hop
  | updateOrderStatusSettled a =>
    refine .inl ⟨fun _ => rfl, fun r => ?_⟩
    cases r with
    | none => exact ⟨_, rfl⟩
    | some old =>
      refine .inl ⟨fun _ => rfl, fun r => ?_⟩
      cases r with
      | none => exact ⟨_, rfl⟩
      | some _ =>
        refine .inr ⟨fun b hb => ?_, fun _ => rfl, _, rfl⟩
        obtain rfl : b = old := hb
        rfl

lemma start_pending (ops : List RowOp) (b : Balance) :
    Pending RowCall.exec Undisturbed RowOp.result ops (start ops b) := by
  intro i p hp
  rw [start, List.getElem?_map, Option.map_eq_some_iff] at hp
  obtain ⟨op, hop, rfl⟩ := hp
  exact .inr ⟨op, hop, program_commits op⟩

lemma start_succeeded (ops : List RowOp) (b : Balance) (i : ℕ) :
    (start ops b).succeeded i = false := by
  rw [Bool.eq_false_iff, Ne, succeeded_iff]
  intro h
  rw [start, List.getElem?_map, Option.map_eq_some_iff] at h
  obtain ⟨op, -, hop⟩ := h
  exact (program_commits op).ne_ok hop

lemma of_validated (h : (validatedUnlessTx callerTx b).bind compute = .ok new) :
    compute b = .ok new := by
  cases callerTx with
  | true => exact h
  | false =>
    simp only [validatedUnlessTx, Bool.false_eq_true, if_false] at h
    cases hv : validateAndFixBalances b with
    | error e =>
      rw [hv] at h
      cases h
    | ok b' =>
      obtain ⟨-, rfl⟩ := validateAndFixBalances_eq_ok_iff.1 hv
      rw [hv] at h
      exact h

lemma available_of_result (h : op.result b = .ok new) :
    new.available + op.reservedAmount = b.available + op.releasedAmount ∧
      (0 ≤ b.available → 0 ≤ op.releasedAmount → 0 ≤ new.available) := by
  cases op with
  | reserveBalance callerTx a =>
    obtain ⟨hle, rfl⟩ := reserveInTx_eq_ok_iff.1 (of_validated h)
    simp only [RowOp.reservedAmount, RowOp.releasedAmount]
    exact ⟨by ring, fun _ _ => by linarith⟩
  | releaseReservedBalance callerTx a =>
    obtain ⟨-, rfl⟩ := releaseInTx_eq_ok_iff.1 (of_validated h)
    simp only [RowOp.reservedAmount, RowOp.releasedAmount, afterRelease]
    exact ⟨by ring, fun hb ha => by linarith⟩
  | updateOrderStatusSettled a =>
    obtain rfl := Except.ok.inj h
    exact ⟨rfl, fun hb _ => hb⟩

variable {ops : List RowOp}

lemma total_cons (f : RowOp → ℚ) {i : ℕ} (hop : ops[i]? = some op) (order : List ℕ) :
    total f ops (i :: order) = f op + total f ops order := by
  simp [total, hop]

lemma available_of_serial {order : List ℕ} (h : serial RowOp.result ops b order = some new) :
    new.available + total RowOp.reservedAmount ops order =
        b.available + total RowOp.releasedAmount ops order ∧
      (0 ≤ b.available → (∀ op ∈ ops, 0 ≤ op.releasedAmount) → 0 ≤ new.available) := by
  induction order generalizing b with
  | nil =>
    obtain rfl := Option.some.inj h
    exact ⟨rfl, fun hb _ => hb⟩
  | cons i order ih =>
    obtain ⟨b', hstep, hrest⟩ := Option.bind_eq_some_iff.1 h
    obtain ⟨op, hop, hresult⟩ := Option.bind_eq_some_iff.1 hstep
    have hok : op.result b = .ok b' := by
      cases hr : op.result b with
      | error e =>
        rw [hr] at hresult
        cases hresult
      | ok b'' =>
        rw [hr] at hresult
        rw [Option.some.inj hresult]
    obtain ⟨hsum, hnonneg⟩ := available_of_result hok
    obtain ⟨hsums, hrest⟩ := ih hrest
    rw [total_cons _ hop, total_cons _ hop]
    refine ⟨by linarith, fun hb hops => ?_⟩
    exact hrest (hnonneg hb (hops op (List.mem_of_getElem? hop))) hops

theorem serialisable_of_undisturbed (ops : List RowOp) (b : Balance) (schedule : List Turn)
    (h : Run.Admitted (step RowCall.exec) (Meets Undisturbed) (start ops b) schedule) :
    Run.Always (step RowCall.exec)
      (fun x => ∃ order : List ℕ, order.Nodup ∧ (∀ i, i ∈ order ↔ x.succeeded i = true) ∧
        serial RowOp.result ops b order = some x.state ∧
        (0 ≤ b.available → (∀ op ∈ ops, 0 ≤ op.releasedAmount) →
          total RowOp.reservedAmount ops order ≤
            b.available + total RowOp.releasedAmount ops order))
      (start ops b) schedule := by
  have halways := always_serialisable (start_pending ops b) (start_succeeded ops b) h
  refine halways.mono fun x hx => ?_
  obtain ⟨order, hnodup, hmem, hserial⟩ := hx
  have hserial : serial RowOp.result ops b order = some x.state := hserial
  obtain ⟨hsum, hnonneg⟩ := available_of_serial hserial
  refine ⟨order, hnodup, hmem, hserial, fun hb hops => ?_⟩
  have hlast := hnonneg hb hops
  linarith

theorem serialisable_two_reservations :
    Run.Admitted (step RowCall.exec) (Meets Undisturbed)
        (start [.reserveBalance true 60, .reserveBalance true 60] ⟨100, 0, 100⟩)
        [⟨0, false⟩, ⟨0, false⟩, ⟨1, false⟩, ⟨1, false⟩] ∧
      ∃ order : List ℕ, order.Nodup ∧
        (∀ i, i ∈ order ↔ (Run.exec (step RowCall.exec)
          (start [.reserveBalance true 60, .reserveBalance true 60] ⟨100, 0, 100⟩)
          [⟨0, false⟩, ⟨0, false⟩, ⟨1, false⟩, ⟨1, false⟩]).succeeded i = true) ∧
        serial RowOp.result [.reserveBalance true 60, .reserveBalance true 60] ⟨100, 0, 100⟩ order =
          some ⟨40, 60, 100⟩ := by
  have hrun : Run.Admitted (step RowCall.exec) (Meets Undisturbed)
      (start [.reserveBalance true 60, .reserveBalance true 60] ⟨100, 0, 100⟩)
      [⟨0, false⟩, ⟨0, false⟩, ⟨1, false⟩, ⟨1, false⟩] := by decide +kernel
  obtain ⟨order, hnodup, hmem, hserial, -⟩ :=
    (serialisable_of_undisturbed [.reserveBalance true 60, .reserveBalance true 60] ⟨100, 0, 100⟩
      [⟨0, false⟩, ⟨0, false⟩, ⟨1, false⟩, ⟨1, false⟩] hrun).last
  refine ⟨hrun, order, hnodup, hmem, hserial.trans ?_⟩
  decide +kernel

def overbooked : Pool RowCall Balance (Except RowError Unit) :=
  Run.exec (step RowCall.exec)
    (start [.reserveBalance true 60, .reserveBalance true 60] ⟨100, 0, 100⟩)
    [⟨0, false⟩, ⟨1, false⟩, ⟨0, false⟩, ⟨1, false⟩]

theorem reservation_lost :
    overbooked.succeeded 0 = true ∧ overbooked.succeeded 1 = true ∧
      overbooked.state = ⟨40, 60, 100⟩ ∧
      ¬ Serialisable RowOp.result [.reserveBalance true 60, .reserveBalance true 60] ⟨100, 0, 100⟩
        overbooked := by
  have hfirst : overbooked.succeeded 0 = true := by decide +kernel
  have hsecond : overbooked.succeeded 1 = true := by decide +kernel
  have hstate : overbooked.state = ⟨40, 60, 100⟩ := by decide +kernel
  refine ⟨hfirst, hsecond, hstate, ?_⟩
  rintro ⟨order, hnodup, hmem, hserial⟩
  obtain ⟨hsum, -⟩ := available_of_serial hserial
  have hperm : order.Perm [0, 1] := by
    refine (List.perm_ext_iff_of_nodup hnodup (by decide)).2 fun i => ?_
    rw [hmem]
    constructor
    · intro hi
      have hlt := (List.getElem?_eq_some_iff.1 ((succeeded_iff i).1 hi)).1
      rw [show overbooked.threads.length = 2 from by decide +kernel] at hlt
      interval_cases i <;> simp
    · intro hi
      fin_cases hi
      · exact hfirst
      · exact hsecond
  have htotal : ∀ f, total f [.reserveBalance true 60, .reserveBalance true 60] order =
      total f [.reserveBalance true 60, .reserveBalance true 60] [0, 1] :=
    fun f => (hperm.map _).sum_eq
  rw [htotal, htotal, hstate] at hsum
  revert hsum
  decide +kernel

end Serial

end Stablenode.BalanceRaces
