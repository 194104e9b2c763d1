import Mathlib

/-! Chains of request handlers over one context, as gin runs them with `Next` and `Abort`. -/
namespace Stablenode

inductive Handler (σ : Type) where
  | ret
  | panic
  | read (k : σ → Handler σ)
  | write (v : σ) (k : Handler σ)
  | abort (k : Handler σ)
  | next (k : Handler σ)

structure ChainContext (σ : Type) where
  index : ℕ
  values : σ
  started : List (ℕ × σ)

namespace Handler

variable {σ : Type}

def abortIndex : ℕ := 63

def andThen : Handler σ → Handler σ → Handler σ
  | ret, k => k
  | panic, _ => panic
  | read f, k => read fun v => (f v).andThen k
  | write v h, k => write v (h.andThen k)
  | abort h, k => abort (h.andThen k)
  | next h, k => next (h.andThen k)

def update (f : σ → σ) (k : Handler σ) : Handler σ :=
  read fun v => write (f v) k

def exec (onNext : ChainContext σ → Except (ChainContext σ) (ChainContext σ)) :
    Handler σ → ChainContext σ → Except (ChainContext σ) (ChainContext σ)
  | ret, c => .ok c
  | panic, c => .error c
  | read k, c => (k c.values).exec onNext c
  | write v k, c => k.exec onNext { c with values := v }
  | abort k, c => k.exec onNext { c with index := abortIndex }
  | next k, c => (onNext { c with index := c.index + 1 }).bind (k.exec onNext)

def loop (handlers : List (Handler σ)) :
    ℕ → ChainContext σ → Except (ChainContext σ) (ChainContext σ)
  | 0, c => .ok c
  | n + 1, c =>
    match handlers[c.index]? with
    | none => .ok c
    | some h =>
      (h.exec (loop handlers n) { c with started := c.started ++ [(c.index, c.values)] }).bind
        fun c => loop handlers n { c with index := c.index + 1 }

def serve (handlers : List (Handler σ)) (v : σ) : List (ℕ × σ) :=
  match loop handlers (handlers.length + 1) ⟨0, v, []⟩ with
  | .ok c => c.started
  | .error c => c.started

def pass : Handler σ → σ → Option σ
  | ret, v => some v
  | panic, _ => none
  | read k, v => (k v).pass v
  | write v k, _ => k.pass v
  | abort _, _ => none
  | next _, v => some v

def starts : ℕ → List (Handler σ) → σ → List (ℕ × σ)
  | _, [], _ => []
  | i, h :: hs, v =>
    (i, v) :: match h.pass v with
      | none => []
      | some w => starts (i + 1) hs w

@[simp] lemma pass_ret (v : σ) : (ret : Handler σ).pass v = some v := rfl

@[simp] lemma pass_panic (v : σ) : (panic : Handler σ).pass v = none := rfl

@[simp] lemma pass_read (k : σ → Handler σ) (v : σ) : (read k).pass v = (k v).pass v := rfl

@[simp] lemma pass_write (w : σ) (k : Handler σ) (v : σ) : (write w k).pass v = k.pass w := rfl

@[simp] lemma pass_update (f : σ → σ) (k : Handler σ) (v : σ) :
    (update f k).pass v = k.pass (f v) := rfl

@[simp] lemma pass_abort (k : Handler σ) (v : σ) : (abort k).pass v = none := rfl

@[simp] lemma pass_next (k : Handler σ) (v : σ) : (next k).pass v = some v := rfl

@[simp] lemma pass_andThen_next (h : Handler σ) (v : σ) :
    (h.andThen (next ret)).pass v = h.pass v := by
  induction h generalizing v with
  | ret => rfl
  | panic => rfl
  | read k ih => exact ih v v
  | write w k ih => exact ih w
  | abort k _ => rfl
  | next k _ => rfl

section Loop

variable {handlers : List (Handler σ)}

def Ended (handlers : List (Handler σ)) (log : List (ℕ × σ)) :
    Except (ChainContext σ) (ChainContext σ) → Prop
  | .ok c => c.started = log ∧ handlers.length ≤ c.index
  | .error c => c.started = log

variable {c : ChainContext σ}

lemma loop_of_spent {n : ℕ} (h : handlers.length ≤ c.index) : loop handlers n c = .ok c := by
  cases n with
  | zero => rfl
  | succ n => rw [loop, List.getElem?_eq_none h]

variable (hlen : handlers.length ≤ abortIndex)
include hlen

lemma exec_of_spent (n : ℕ) (h : Handler σ)
    (hc : handlers.length ≤ c.index) : Ended handlers c.started (h.exec (loop handlers n) c) := by
  induction h generalizing c with
  | ret => exact ⟨rfl, hc⟩
  | panic => rfl
  | read k ih => exact ih _ hc
  | write v k ih => exact ih (c := { c with values := v }) hc
  | abort k ih => exact ih (c := { c with index := abortIndex }) hlen
  | next k ih =>
    have hnext : handlers.length ≤ c.index + 1 := by omega
    rw [exec, loop_of_spent hnext]
    exact ih (c := { c with index := c.index + 1 }) hnext

def rest (handlers : List (Handler σ)) (i : ℕ) (o : Option σ) : List (ℕ × σ) :=
  match o with
  | none => []
  | some v => starts (i + 1) (handlers.drop (i + 1)) v

lemma exec_of_running {n i : ℕ}
    (hnext : ∀ c : ChainContext σ, c.index = i + 1 →
      Ended handlers (c.started ++ rest handlers i (some c.values)) (loop handlers n c))
    (h : Handler σ) (hc : c.index = i) :
    Ended handlers (c.started ++ rest handlers i (h.pass c.values)) (h.exec (loop handlers n) c) ∨
      ∃ d, h.exec (loop handlers n) c = .ok d ∧ d.index = i ∧ d.started = c.started ∧
        h.pass c.values = some d.values := by
  induction h generalizing c with
  | ret => exact Or.inr ⟨c, rfl, hc, rfl, rfl⟩
  | panic => exact Or.inl (by simp [exec, Ended, rest])
  | read k ih => exact ih c.values hc
  | write v k ih => exact ih (c := { c with values := v }) hc
  | abort k _ =>
    have hend := exec_of_spent hlen n k (c := { c with index := abortIndex }) hlen
    exact Or.inl (by simpa [exec, rest] using hend)
  | next k _ =>
    left
    have hend := hnext { c with index := c.index + 1 } (by simp [hc])
    rw [exec, pass_next]
    cases hloop : loop handlers n { c with index := c.index + 1 } with
    | error d =>
      rw [hloop] at hend
      exact hend
    | ok d =>
      -- the rest of the chain has run, so the body can start nothing more
      rw [hloop] at hend
      have hk := exec_of_spent hlen n k hend.2
      rw [hend.1] at hk
      exact hk

lemma loop_ended (n : ℕ) (c : ChainContext σ)
    (hn : handlers.length < c.index + n) :
    Ended handlers (c.started ++ starts c.index (handlers.drop c.index) c.values)
      (loop handlers n c) := by
  induction n generalizing c with
  | zero =>
    rw [List.drop_eq_nil_of_le (by omega), starts, List.append_nil]
    exact ⟨rfl, by omega⟩
  | succ n ih =>
    rcases Nat.lt_or_ge c.index handlers.length with hi | hi
    · have hnext : ∀ d : ChainContext σ, d.index = c.index + 1 →
          Ended handlers (d.started ++ rest handlers c.index (some d.values))
            (loop handlers n d) := by
        intro d hd
        have hloop := ih d (by omega)
        rw [hd] at hloop
        exact hloop
      rw [loop, List.getElem?_eq_getElem hi, List.drop_eq_getElem_cons hi, starts]
      have hexec := exec_of_running hlen hnext handlers[c.index]
        (c := { c with started := c.started ++ [(c.index, c.values)] }) rfl
      simp only [List.append_assoc, List.singleton_append] at hexec
      rcases hexec with hend | ⟨d, hd, hdi, hds, hpass⟩
      · cases hrun : handlers[c.index].exec (loop handlers n)
          { c with started := c.started ++ [(c.index, c.values)] } with
        | error d =>
          rw [hrun] at hend
          simp only [hrun]
          exact hend
        | ok d =>
          rw [hrun] at hend
          simp only [hrun, Except.bind]
          rw [loop_of_spent (Nat.le_succ_of_le hend.2)]
          exact ⟨hend.1, Nat.le_succ_of_le hend.2⟩
      · have hafter := hnext { d with index := d.index + 1 } (by simp [hdi])
        simp only [hd, Except.bind]
        simpa [hds, hpass, rest] using hafter
    · rw [loop_of_spent hi, List.drop_eq_nil_of_le hi, starts, List.append_nil]
      exact ⟨rfl, hi⟩

theorem serve_eq_starts (v : σ) :
    serve handlers v = starts 0 handlers v := by
  have hend := loop_ended hlen (handlers.length + 1) ⟨0, v, []⟩ (by simp)
  rw [serve]
  cases hrun : loop handlers (handlers.length + 1) ⟨0, v, []⟩ with
  | error c => simpa [hrun, Ended] using hend
  | ok c =>
    rw [hrun] at hend
    simpa using hend.1

end Loop

lemma mem_serve_three (a b h : Handler σ) (v w : σ) :
    (2, w) ∈ serve [a, b, h] v ↔ (a.pass v).bind b.pass = some w := by
  rw [serve_eq_starts (by simp [abortIndex])]
  cases ha : a.pass v with
  | none => simp [starts, ha]
  | some u =>
    cases hb : b.pass u with
    | none => simp [starts, ha, hb]
    | some x =>
      cases hh : h.pass x <;> simp [starts, ha, hb, hh, eq_comm]

end Handler

end Stablenode
