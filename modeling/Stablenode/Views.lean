import Stablenode.Process

/-! Processes and a view of the state: blind to what the view leaves out, and unseen in it. -/
namespace Stablenode.Proc

variable {ℓ σ ν α β ι : Type} (exec : ℓ → σ → σ) (view : σ → ν)

def Blind : Proc ℓ σ α → Prop
  | ret _ => True
  | act l k =>
    (∀ s t, view s = view t → view (exec l s) = view (exec l t) ∧ k (some s) = k (some t)) ∧
      ∀ r, Blind (k r)

def Unseen (v : ν) : Proc ℓ σ α → Prop
  | ret _ => True
  | act l k => ∀ s, view s = v → view (exec l s) = v ∧ Unseen v (k (some s))

variable {exec view} {v : ν} {l : ℓ} {k : σ → Proc ℓ σ α} {failed p : Proc ℓ σ α}
  {g : α → Proc ℓ σ β} {body : ι → Proc ℓ σ Unit} {xs : List ι} {ps : List (Proc ℓ σ Unit)}

section Blind

lemma blind_attempt (hl : ∀ s t, view s = view t → view (exec l s) = view (exec l t))
    (hkey : ∀ s t, view s = view t → k s = k t) (hf : Blind exec view failed)
    (hk : ∀ s, Blind exec view (k s)) : Blind exec view (attempt l failed k) := by
  refine ⟨fun s t h => ⟨hl s t h, hkey s t h⟩, fun r => ?_⟩
  cases r with
  | none => exact hf
  | some s => exact hk s

lemma blind_ignore (hl : ∀ s t, view s = view t → view (exec l s) = view (exec l t))
    (hp : Blind exec view p) : Blind exec view (ignore l p) :=
  ⟨fun s t h => ⟨hl s t h, rfl⟩, fun _ => hp⟩

lemma blind_bind (hp : Blind exec view p) (hg : ∀ a, Blind exec view (g a)) :
    Blind exec view (p.bind g) := by
  induction p with
  | ret a => exact hg a
  | act l k ih =>
    refine ⟨fun s t h => ⟨(hp.1 s t h).1, ?_⟩, fun r => ih r (hp.2 r)⟩
    exact congrArg (fun q : Proc ℓ σ α => q.bind g) (hp.1 s t h).2

lemma blind_forEach (h : ∀ x ∈ xs, Blind exec view (body x)) :
    Blind exec view (forEach xs body) := by
  induction xs with
  | nil => trivial
  | cons x xs ih => exact blind_bind (h x (by simp)) fun _ => ih fun y hy => h y (by simp [hy])

theorem blind_interleave (schedule : List ℕ) (h : ∀ p ∈ ps, Blind exec view p) :
    Blind exec view (interleave schedule ps) := by
  refine interleave_induction (R := fun ps q => (∀ p ∈ ps, Blind exec view p) → Blind exec view q)
    (fun _ => blind_forEach) (fun hi ih h => ?_) schedule ps h
  have hp := h _ (List.mem_of_getElem? hi)
  refine ⟨fun s t hst => ⟨(hp.1 s t hst).1, ?_⟩, fun r => ih r (forall_mem_set h (hp.2 r))⟩
  dsimp only
  rw [(hp.1 s t hst).2]

theorem Blind.after (hp : Blind exec view p) (faults : List Bool) {s t : σ} (h : view s = view t) :
    view (Run.exec exec s (p.history exec faults s)) =
      view (Run.exec exec t (p.history exec faults t)) := by
  induction p generalizing faults s t with
  | ret a => simpa using h
  | act l k ih =>
    obtain ⟨hl, hk⟩ := hp.1 s t h
    rcases faults with _ | ⟨_ | _, faults⟩ <;> rw [history, history]
    case cons.true => exact ih none (hp.2 _) faults h
    all_goals
      rw [Run.exec_cons, Run.exec_cons, ← hk]
      exact ih (some s) (hp.2 _) _ hl

end Blind

section Unseen

lemma unseen_attempt (hl : ∀ s, view s = v → view (exec l s) = v)
    (hk : ∀ s, view s = v → Unseen exec view v (k s)) : Unseen exec view v (attempt l failed k) :=
  fun s hs => ⟨hl s hs, hk s hs⟩

lemma unseen_ignore (hl : ∀ s, view s = v → view (exec l s) = v) (hp : Unseen exec view v p) :
    Unseen exec view v (ignore l p) :=
  fun s hs => ⟨hl s hs, hp⟩

lemma unseen_bind (hp : Unseen exec view v p) (hg : ∀ a, Unseen exec view v (g a)) :
    Unseen exec view v (p.bind g) := by
  induction p with
  | ret a => exact hg a
  | act l k ih => exact fun s hs => ⟨(hp s hs).1, ih _ (hp s hs).2⟩

lemma unseen_forEach (h : ∀ x ∈ xs, Unseen exec view v (body x)) :
    Unseen exec view v (forEach xs body) := by
  induction xs with
  | nil => trivial
  | cons x xs ih => exact unseen_bind (h x (by simp)) fun _ => ih fun y hy => h y (by simp [hy])

theorem unseen_interleave (schedule : List ℕ) (h : ∀ p ∈ ps, Unseen exec view v p) :
    Unseen exec view v (interleave schedule ps) := by
  refine interleave_induction
    (R := fun ps q => (∀ p ∈ ps, Unseen exec view v p) → Unseen exec view v q)
    (fun _ => unseen_forEach) (fun hi ih h s hs => ?_) schedule ps h
  obtain ⟨hl, hk⟩ := h _ (List.mem_of_getElem? hi) s hs
  exact ⟨hl, ih _ (forall_mem_set h hk)⟩

theorem Unseen.after (hp : Unseen exec view v p) {s : σ} (h : view s = v) :
    view (p.after exec s) = v := by
  induction p generalizing s with
  | ret a => simpa using h
  | act l k ih =>
    rw [after_act]
    exact ih (some s) (hp s h).2 (hp s h).1

end Unseen

end Stablenode.Proc
