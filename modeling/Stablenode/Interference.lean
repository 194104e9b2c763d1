import Stablenode.Process

/-! Processes under interference: interleavings of sound processes are sound. -/
namespace Stablenode.Proc

open Run

variable {ℓ σ γ α β : Type} (exec : ℓ → σ → σ) (ghost : ℓ → σ → γ → γ)

section Sound

variable (R : σ × γ → σ × γ → Prop) (I : σ × γ → Prop) (c : ℓ → σ × γ → Prop) (f : Prop)

structure Rely : Prop where
  refl : ∀ x, R x x
  trans : ∀ {x y z}, R x y → R y z → R x z
  step : ∀ l x, I x → c l x → R x (watch exec ghost l x)
  inv : ∀ l x, I x → c l x → I (watch exec ghost l x)

def Sound : Proc ℓ σ α → σ × γ → Prop
  | ret _, _ => True
  | act l k, x => ∀ y, R x y → I y →
    c l y ∧ Sound (k (some y.1)) (watch exec ghost l y) ∧ (f → Sound (k none) y)

end Sound

variable {exec ghost} {R : σ × γ → σ × γ → Prop} {I : σ × γ → Prop} {c : ℓ → σ × γ → Prop}
  {f : Prop}

variable {p : Proc ℓ σ α} {x : σ × γ}

lemma Sound.mono (hR : Rely exec ghost R I c) {y : σ × γ} (h : Sound exec ghost R I c f p x)
    (hxy : R x y) : Sound exec ghost R I c f p y := by
  cases p with
  | ret a => trivial
  | act l k => exact fun z hyz hz => h z (hR.trans hxy hyz) hz

lemma sound_ret (a : α) (x : σ × γ) : Sound exec ghost R I c f (ret a : Proc ℓ σ α) x := trivial

lemma sound_attempt {l : ℓ} {failed : Proc ℓ σ α} {k : σ → Proc ℓ σ α}
    (hl : ∀ y, R x y → I y → c l y) (hf : f → ∀ y, R x y → I y → Sound exec ghost R I c f failed y)
    (hk : ∀ y, R x y → I y → Sound exec ghost R I c f (k y.1) (watch exec ghost l y)) :
    Sound exec ghost R I c f (attempt l failed k) x :=
  fun y hxy hy => ⟨hl y hxy hy, hk y hxy hy, fun h => hf h y hxy hy⟩

variable (hR : Rely exec ghost R I c)
include hR

lemma sound_ignore {l : ℓ} {k : Proc ℓ σ α} (hl : ∀ y, R x y → I y → c l y)
    (hk : ∀ y, R x y → I y → Sound exec ghost R I c f k y) :
    Sound exec ghost R I c f (ignore l k) x :=
  fun y hxy hy =>
    ⟨hl y hxy hy,
      hk _ (hR.trans hxy (hR.step l y hy (hl y hxy hy))) (hR.inv l y hy (hl y hxy hy)),
      fun _ => hk y hxy hy⟩

lemma sound_bind {g : α → Proc ℓ σ β} (hp : Sound exec ghost R I c f p x)
    (hg : ∀ a y, R x y → I y → Sound exec ghost R I c f (g a) y) (hx : I x) :
    Sound exec ghost R I c f (p.bind g) x := by
  induction p generalizing x with
  | ret a => exact hg a x (hR.refl x) hx
  | act l k ih =>
    intro y hxy hy
    obtain ⟨hl, hs, hn⟩ := hp y hxy hy
    have hstep := hR.trans hxy (hR.step l y hy hl)
    exact ⟨hl, ih _ hs (fun a z hz => hg a z (hR.trans hstep hz)) (hR.inv l y hy hl),
      fun h => ih _ (hn h) (fun a z hz => hg a z (hR.trans hxy hz)) hy⟩

lemma sound_forEach {ι : Type} {xs : List ι} {body : ι → Proc ℓ σ Unit} (hx : I x)
    (h : ∀ i ∈ xs, ∀ y, R x y → I y → Sound exec ghost R I c f (body i) y) :
    Sound exec ghost R I c f (forEach xs body) x := by
  induction xs generalizing x with
  | nil => trivial
  | cons i xs ih =>
    refine sound_bind hR (h i (by simp) x (hR.refl x) hx) (fun _ y hxy hy => ?_) hx
    exact ih hy fun j hj z hyz hz => h j (by simp [hj]) z (hR.trans hxy hyz) hz

theorem sound_interleave (schedule : List ℕ) {ps : List (Proc ℓ σ Unit)} (hx : I x)
    (h : ∀ p ∈ ps, Sound exec ghost R I c f p x) :
    Sound exec ghost R I c f (interleave schedule ps) x := by
  revert x
  refine interleave_induction (R := fun ps q => ∀ {x}, I x →
    (∀ p ∈ ps, Sound exec ghost R I c f p x) → Sound exec ghost R I c f q x)
    (fun _ _ hx h => sound_forEach hR hx fun p hp y hxy _ => (h p hp).mono hR hxy) ?_ schedule ps
  intro schedule ps i l k hi ih x hx h y hxy hy
  obtain ⟨hl, hs, hn⟩ := h _ (List.mem_of_getElem? hi) y hxy hy
  have hstep := hR.trans hxy (hR.step l y hy hl)
  exact ⟨hl, ih _ (hR.inv l y hy hl) (forall_mem_set (fun p hp => (h p hp).mono hR hstep) hs),
    fun hf => ih _ hy (forall_mem_set (fun p hp => (h p hp).mono hR hxy) (hn hf))⟩

theorem Sound.admitted (h : Sound exec ghost R I c f p x) (hx : I x) (faults : List Bool)
    (hf : f ∨ faults = []) : Admitted (watch exec ghost) c x (p.history exec faults x.1) := by
  induction p generalizing x faults with
  | ret a => simp
  | act l k ih =>
    obtain ⟨hl, hs, hn⟩ := h x (hR.refl x) hx
    rcases faults with _ | ⟨_ | _, fs⟩ <;> rw [history]
    case cons.true =>
      have hf' : f := hf.resolve_right (by simp)
      exact ih _ (hn hf') hx fs (Or.inl hf')
    all_goals exact ⟨hl, ih _ hs (hR.inv l x hx hl) _ (hf.imp_right (by simp))⟩

end Stablenode.Proc
