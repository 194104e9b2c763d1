import Stablenode.Faults
import Stablenode.Interference

/-! Particular interleavings: a process that runs before the others, and a process next to
others that do not change the state. -/
namespace Stablenode.Proc

open Run

variable {ℓ σ γ α β ι : Type} {exec : ℓ → σ → σ} {P : ℓ → Prop}

section Single

lemma bind_unit (p : Proc ℓ σ Unit) : (p.bind fun _ => ret ()) = p := by
  induction p with
  | ret a => rfl
  | act l k ih => exact congrArg (act l) (funext ih)

lemma interleave_nil (schedule : List ℕ) :
    interleave schedule ([] : List (Proc ℓ σ Unit)) = ret () := by
  induction schedule with
  | nil => rfl
  | cons i schedule ih => exact ih

lemma interleave_singleton (schedule : List ℕ) (p : Proc ℓ σ Unit) :
    interleave schedule [p] = p := by
  induction schedule generalizing p with
  | nil => exact bind_unit p
  | cons i schedule ih =>
    cases i with
    | succ i => exact ih p
    | zero =>
      cases p with
      | ret a => exact ih (ret a)
      | act l k => exact congrArg (act l) (funext fun r => ih (k r))

end Single

variable {ps : List (Proc ℓ σ Unit)} {p : Proc ℓ σ α} {i : ℕ}

section Uses

lemma uses_forEach {xs : List ι} {body : ι → Proc ℓ σ Unit} (h : ∀ x ∈ xs, Uses P (body x)) :
    Uses P (forEach xs body) := by
  induction xs with
  | nil => trivial
  | cons x xs ih => exact uses_bind (h x (by simp)) fun _ => ih fun y hy => h y (by simp [hy])

lemma uses_interleave (schedule : List ℕ) (h : ∀ p ∈ ps, Uses P p) :
    Uses P (interleave schedule ps) := by
  refine interleave_induction (R := fun ps q => (∀ p ∈ ps, Uses P p) → Uses P q)
    (fun _ => uses_forEach) (fun hi ih h => ?_) schedule ps h
  have hp := h _ (List.mem_of_getElem? hi)
  exact ⟨hp.1, fun r => ih r (forall_mem_set h (hp.2 r))⟩

variable {ghost : ℓ → σ → γ → γ} {R : σ × γ → σ × γ → Prop} {I : σ × γ → Prop}
  {c : ℓ → σ × γ → Prop} {f : Prop}

lemma Uses.sound (h : Uses P p) (hc : ∀ l y, P l → I y → c l y) (x : σ × γ) :
    Sound exec ghost R I c f p x := by
  induction p generalizing x with
  | ret a => trivial
  | act l k ih =>
    exact fun y _ hy => ⟨hc l y h.1 hy, ih _ (h.2 _) _, fun _ => ih _ (h.2 _) _⟩

variable {x : σ × γ}

lemma Sound.imp {d : ℓ → σ × γ → Prop} (hcd : ∀ l y, I y → c l y → d l y)
    (h : Sound exec ghost R I c f p x) : Sound exec ghost R I d f p x := by
  induction p generalizing x with
  | ret a => trivial
  | act l k ih =>
    intro y hxy hy
    obtain ⟨hl, hs, hn⟩ := h y hxy hy
    exact ⟨hcd l y hy hl, ih _ hs, fun hf => ih _ (hn hf)⟩

lemma sound_discard (h : Sound exec ghost R I c f p x) : Sound exec ghost R I c f p.discard x := by
  induction p generalizing x with
  | ret a => trivial
  | act l k ih =>
    intro y hxy hy
    obtain ⟨hl, hs, hn⟩ := h y hxy hy
    exact ⟨hl, ih _ hs, fun hf => ih _ (hn hf)⟩

end Uses

section Alone

lemma history_prefix_bind (p : Proc ℓ σ α) (g : α → Proc ℓ σ β) (faults : List Bool) (s : σ) :
    p.history exec faults s <+: (p.bind g).history exec faults s := by
  induction p generalizing faults s with
  | ret a => simp
  | act l k ih =>
    rcases faults with _ | ⟨_ | _, fs⟩
    case cons.true => simpa only [bind, history] using ih none fs s
    all_goals simpa only [bind, history, List.prefix_cons_inj] using ih (some s) _ _

lemma exists_history_prefix_interleave (p : Proc ℓ σ Unit) (hi : ps[i]? = some p)
    (faults : List Bool) (s : σ) :
    ∃ schedule, p.history exec faults s <+: (interleave schedule ps).history exec faults s := by
  induction p generalizing ps faults s with
  | ret a => exact ⟨[], by simp⟩
  | act l k ih =>
    have hset := fun r => getElem?_set_of_some hi (k r)
    rcases faults with _ | ⟨_ | _, fs⟩
    case cons.true =>
      obtain ⟨schedule, h⟩ := ih none (hset none) fs s
      exact ⟨i :: schedule, by simpa only [interleave, hi, history] using h⟩
    all_goals
      obtain ⟨schedule, h⟩ := ih (some s) (hset _) _ (exec l s)
      exact ⟨i :: schedule, by simpa only [interleave, hi, history, List.prefix_cons_inj] using h⟩

lemma exists_after_interleave_first (p : Proc ℓ σ Unit) (hi : ps[i]? = some p) (s : σ) :
    ∃ schedule, (interleave schedule ps).after exec s =
      (forEach (ps.set i (ret ())) id).after exec (p.after exec s) := by
  induction p generalizing ps s with
  | ret a =>
    refine ⟨[], ?_⟩
    rw [set_of_getElem?_eq hi, interleave, after_ret]
  | act l k ih =>
    obtain ⟨schedule, h⟩ := ih (some s) (getElem?_set_of_some hi _) (exec l s)
    refine ⟨i :: schedule, ?_⟩
    rw [List.set_set] at h
    simpa only [interleave, hi, after, history_act, exec_cons] using h

end Alone

section Silent

variable (exec) (I : σ → Prop)

def Silent : Proc ℓ σ α → Prop
  | ret _ => True
  | act l k => ∀ s, I s → exec l s = s ∧ Silent (k (some s))

variable {exec I} {s : σ}

lemma Silent.after (h : Silent exec I p) (hs : I s) : p.after exec s = s := by
  induction p with
  | ret a => exact after_ret a s
  | act l k ih =>
    obtain ⟨hl, hk⟩ := h s hs
    rw [after_act, hl]
    exact ih _ hk

lemma Sound.silent {c : ℓ → σ × Unit → Prop} {x : σ × Unit}
    (h : Sound exec (fun _ _ g => g) (fun _ _ => True) (fun x => I x.1) c False p x)
    (hc : ∀ l s, I s → c l (s, ()) → exec l s = s) : Silent exec I p := by
  induction p generalizing x with
  | ret a => trivial
  | act l k ih =>
    intro s hs
    obtain ⟨hl, hk, -⟩ := h (s, ()) trivial hs
    exact ⟨hc l s hs hl, ih _ hk⟩

lemma after_forEach_silent (h : ∀ p ∈ ps, Silent exec I p) (hs : I s) :
    (forEach ps id).after exec s = s := by
  induction ps with
  | nil => exact after_ret _ s
  | cons p ps ih =>
    rw [forEach, after_bind, id, (h p (by simp)).after hs]
    exact ih fun q hq => h q (by simp [hq])

lemma after_forEach_of_silent {p : Proc ℓ σ Unit} (hi : ps[i]? = some p)
    (hsilent : ∀ j q, j ≠ i → ps[j]? = some q → Silent exec I q)
    (hI : Always exec I s (p.history exec [] s)) :
    (forEach ps id).after exec s = p.after exec s := by
  induction ps generalizing i with
  | nil => simp at hi
  | cons q ps ih =>
    rw [forEach, after_bind, id]
    cases i with
    | zero =>
      obtain rfl : q = p := by simpa using hi
      refine after_forEach_silent (fun q hq => ?_) hI.last
      obtain ⟨j, hj⟩ := List.mem_iff_getElem?.1 hq
      exact hsilent (j + 1) q (by simp) (by simpa using hj)
    | succ i =>
      have hq : Silent exec I q := hsilent 0 q (by simp) (by simp)
      rw [hq.after hI.head]
      refine ih (by simpa using hi) fun j r hj hr => ?_
      exact hsilent (j + 1) r (by simpa using hj) (by simpa using hr)

theorem after_interleave_of_silent (schedule : List ℕ) {p : Proc ℓ σ Unit} (hi : ps[i]? = some p)
    (hsilent : ∀ j q, j ≠ i → ps[j]? = some q → Silent exec I q)
    (hI : Always exec I s (p.history exec [] s)) :
    (interleave schedule ps).after exec s = p.after exec s := by
  induction schedule generalizing ps p s with
  | nil => exact after_forEach_of_silent hi hsilent hI
  | cons j schedule ih =>
    rw [interleave]
    split
    next l k hj =>
      rw [after_act]
      by_cases hij : j = i
      · subst hij
        obtain rfl : act l k = p := by simpa [hj] using hi
        rw [history_act] at hI
        rw [after_act]
        exact ih (getElem?_set_of_some hi _) (forall_ne_set hsilent (absurd rfl)) hI.2
      · obtain ⟨hl, hk⟩ := hsilent j _ hij hj s hI.head
        rw [hl]
        exact ih (by rwa [List.getElem?_set_ne hij]) (forall_ne_set hsilent fun _ => hk) hI
    · exact ih hi hsilent hI

end Silent

end Stablenode.Proc
