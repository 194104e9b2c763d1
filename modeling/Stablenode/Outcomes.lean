import Stablenode.Interleaving

/-! Postconditions under interference: what holds from the end of a process on, whatever the others
do. -/
namespace Stablenode.Proc

open Run

variable {ℓ ℓ' σ γ α β : Type}

def mapLabel (f : ℓ → ℓ') : Proc ℓ σ α → Proc ℓ' σ α
  | ret a => ret a
  | act l k => act (f l) fun r => (k r).mapLabel f

lemma mapLabel_attempt (f : ℓ → ℓ') (l : ℓ) (failed : Proc ℓ σ α) (k : σ → Proc ℓ σ α) :
    (attempt l failed k).mapLabel f = attempt (f l) (failed.mapLabel f) fun s => (k s).mapLabel f := by
  rw [attempt, mapLabel, attempt]
  congr 1
  funext r
  cases r <;> rfl

lemma mapLabel_bind (f : ℓ → ℓ') (p : Proc ℓ σ α) (g : α → Proc ℓ σ β) :
    (p.bind g).mapLabel f = (p.mapLabel f).bind fun a => (g a).mapLabel f := by
  induction p with
  | ret a => rfl
  | act l k ih => exact congrArg (act (f l)) (funext ih)

lemma mapLabel_interleave (f : ℓ → ℓ') (schedule : List ℕ) (ps : List (Proc ℓ σ Unit)) :
    (interleave schedule ps).mapLabel f = interleave schedule (ps.map (mapLabel f)) := by
  induction schedule generalizing ps with
  | nil =>
    simp only [interleave]
    induction ps with
    | nil => rfl
    | cons p ps ih =>
      rw [forEach, mapLabel_bind, ih]
      rfl
  | cons i schedule ih =>
    rw [interleave, interleave, List.getElem?_map]
    cases ps[i]? with
    | none => exact ih ps
    | some p =>
      cases p with
      | ret a => exact ih ps
      | act l k =>
        refine congrArg (act (f l)) (funext fun r => ?_)
        rw [ih, List.map_set]

variable {f : ℓ → ℓ'} {k : σ → Proc ℓ σ α} {failed : Proc ℓ σ α} {l : ℓ} {g : α → Proc ℓ σ β}
  {ps : List (Proc ℓ σ Unit)}

lemma after_mapLabel {exec : ℓ → σ → σ} {exec' : ℓ' → σ → σ} (hf : ∀ l, exec' (f l) = exec l)
    (p : Proc ℓ σ α) (s : σ) : (p.mapLabel f).after exec' s = p.after exec s := by
  induction p generalizing s with
  | ret a => rfl
  | act l k ih =>
    have hstep := ih (some s) (exec l s)
    rw [← hf l] at hstep
    rw [after, after] at hstep ⊢
    rw [mapLabel, history_act, history_act, Run.exec_cons, Run.exec_cons, hstep, hf l]

lemma Uses.mapLabel {P : ℓ → Prop} {Q : ℓ' → Prop} (hf : ∀ l, P l → Q (f l)) {p : Proc ℓ σ α}
    (h : Uses P p) : Uses Q (p.mapLabel f) := by
  induction p with
  | ret a => trivial
  | act l k ih => exact ⟨hf l h.1, fun r => ih r (h.2 r)⟩

section Leads

variable (exec : ℓ → σ → σ) (ghost : ℓ → σ → γ → γ) (R : σ × γ → σ × γ → Prop)
  (I : σ × γ → Prop) (c : ℓ → σ × γ → Prop)

def Leads (Q : α → σ × γ → Prop) : Proc ℓ σ α → σ × γ → Prop
  | ret a, x => ∀ y, R x y → I y → Q a y
  | act l k, x => ∀ y, R x y → I y → c l y ∧ Leads Q (k (some y.1)) (watch exec ghost l y)

variable {exec ghost R I c} {f : Prop} {Q : α → σ × γ → Prop} {x y : σ × γ}

lemma leads_attempt (hl : ∀ y, R x y → I y → c l y)
    (hk : ∀ y, R x y → I y → Leads exec ghost R I c Q (k y.1) (watch exec ghost l y)) :
    Leads exec ghost R I c Q (attempt l failed k) x :=
  fun y hxy hy => ⟨hl y hxy hy, hk y hxy hy⟩

variable {p : Proc ℓ σ α}

lemma Leads.mono (hR : Rely exec ghost R I c) (h : Leads exec ghost R I c Q p x) (hxy : R x y) :
    Leads exec ghost R I c Q p y := by
  cases p with
  | ret a | act l k => exact fun z hyz hz => h z (hR.trans hxy hyz) hz

lemma Leads.imp {Q' : α → σ × γ → Prop} (h : Leads exec ghost R I c Q p x)
    (hQ : ∀ a y, Q a y → Q' a y) : Leads exec ghost R I c Q' p x := by
  induction p generalizing x with
  | ret a => exact fun y hxy hy => hQ a y (h y hxy hy)
  | act l k ih => exact fun y hxy hy => ⟨(h y hxy hy).1, ih _ (h y hxy hy).2⟩

variable (hR : Rely exec ghost R I c)
include hR

lemma Sound.leads (hp : Sound exec ghost R I c f p x) (h : ∀ a y, R x y → I y → Q a y) :
    Leads exec ghost R I c Q p x := by
  induction p generalizing x with
  | ret a => exact h a
  | act l k ih =>
    intro y hxy hy
    obtain ⟨hl, hs, -⟩ := hp y hxy hy
    have hstep := hR.trans hxy (hR.step l y hy hl)
    exact ⟨hl, ih _ hs fun a z hyz hz => h a z (hR.trans hstep hyz) hz⟩

variable {S : σ × γ → Prop} {P : ℕ → σ × γ → Prop}

lemma Leads.and_stable (h : Leads exec ghost R I c Q p x) (hS : ∀ y, R x y → I y → S y) :
    Leads exec ghost R I c (fun a y => Q a y ∧ S y) p x := by
  induction p generalizing x with
  | ret a => exact fun y hxy hy => ⟨h y hxy hy, hS y hxy hy⟩
  | act l k ih =>
    intro y hxy hy
    obtain ⟨hl, hk⟩ := h y hxy hy
    have hstep := hR.trans hxy (hR.step l y hy hl)
    exact ⟨hl, ih _ hk fun z hyz => hS z (hR.trans hstep hyz)⟩

lemma leads_bind {Q' : β → σ × γ → Prop} (hx : I x) (h : Leads exec ghost R I c Q p x)
    (hg : ∀ a y, R x y → I y → (∀ z, R y z → I z → Q a z) → Leads exec ghost R I c Q' (g a) y) :
    Leads exec ghost R I c Q' (p.bind g) x := by
  induction p generalizing x with
  | ret a => exact hg a x (hR.refl x) hx h
  | act l k ih =>
    intro y hxy hy
    obtain ⟨hl, hk⟩ := h y hxy hy
    have hstep := hR.trans hxy (hR.step l y hy hl)
    exact ⟨hl, ih _ (hR.inv l y hy hl) hk fun a z hz => hg a z (hR.trans hstep hz)⟩

lemma Leads.discard (hx : I x) (h : Leads exec ghost R I c (fun _ => S) p x) :
    Leads exec ghost R I c (fun _ => S) p.discard x :=
  leads_bind hR hx h fun _ _ _ _ hS => hS

lemma leads_forEach (hx : I x)
    (h : ∀ i p, ps[i]? = some p → Leads exec ghost R I c (fun _ => P i) p x) :
    Leads exec ghost R I c (fun _ y => ∀ i < ps.length, P i y) (forEach ps id) x := by
  induction ps generalizing x P with
  | nil => exact fun y _ _ i hi => absurd hi (Nat.not_lt_zero i)
  | cons p ps ih =>
    refine leads_bind hR hx (h 0 p rfl) fun _ y hxy hy hP => ?_
    have hrest := ih (P := fun i => P (i + 1)) hy fun i q hq => (h (i + 1) q hq).mono hR hxy
    refine (hrest.and_stable hR hP).imp ?_
    rintro _ z ⟨hlater, hfirst⟩ (_ | i) hi
    · exact hfirst
    · exact hlater i (by simpa using hi)

theorem leads_interleave (schedule : List ℕ) (hx : I x)
    (h : ∀ i p, ps[i]? = some p → Leads exec ghost R I c (fun _ => P i) p x) :
    Leads exec ghost R I c (fun _ y => ∀ i < ps.length, P i y) (interleave schedule ps) x := by
  induction schedule generalizing ps x with
  | nil => exact leads_forEach hR hx h
  | cons i schedule ih =>
    rw [interleave]
    split
    next l k hi =>
      intro y hxy hy
      obtain ⟨hl, hk⟩ := h _ _ hi y hxy hy
      have hstep := hR.trans hxy (hR.step l y hy hl)
      have hrest := ih (hR.inv l y hy hl)
        (forall_getElem?_set (fun j q hj => (h j q hj).mono hR hstep) hk)
      rw [List.length_set] at hrest
      exact ⟨hl, hrest⟩
    · exact ih hx h

lemma leads_interleave_map (schedule : List ℕ) {ι : Type} {xs : List ι} {body : ι → Proc ℓ σ Unit}
    {P : ι → σ × γ → Prop} (hx : I x)
    (h : ∀ i ∈ xs, Leads exec ghost R I c (fun _ => P i) (body i) x) :
    Leads exec ghost R I c (fun _ y => ∀ i ∈ xs, P i y) (interleave schedule (xs.map body)) x := by
  have hall : Leads exec ghost R I c
      (fun _ y => ∀ n < (xs.map body).length, ∀ i, xs[n]? = some i → P i y)
      (interleave schedule (xs.map body)) x := by
    refine leads_interleave hR schedule hx ?_
    intro n p hp
    rw [List.getElem?_map, Option.map_eq_some_iff] at hp
    obtain ⟨i, hi, rfl⟩ := hp
    refine (h i (List.mem_of_getElem? hi)).imp fun _ y hy j hj => ?_
    obtain rfl := Option.some.inj (hi.symm.trans hj)
    exact hy
  refine hall.imp fun _ y hy i hi => ?_
  obtain ⟨n, hn⟩ := List.mem_iff_getElem?.1 hi
  obtain ⟨hlt, -⟩ := List.getElem?_eq_some_iff.1 hn
  exact hy n (by simpa using hlt) i hn

theorem Leads.watched (h : Leads exec ghost R I c Q p x) (hx : I x) :
    I (p.watched exec ghost x) ∧ Q (p.result exec [] x.1) (p.watched exec ghost x) := by
  induction p generalizing x with
  | ret a => simpa using ⟨hx, h x (hR.refl x) hx⟩
  | act l k ih =>
    obtain ⟨hl, hk⟩ := h x (hR.refl x) hx
    simpa [Proc.watched, watch] using ih _ hk (hR.inv l x hx hl)

end Leads

section Reads

inductive Reads (l : ℓ) : Proc ℓ σ α → Proc ℓ σ α → Prop where
  | refl (p : Proc ℓ σ α) : Reads l p p
  | step {k : Option σ → Proc ℓ σ α} {q : Proc ℓ σ α} (h : ∀ s, Reads l (k (some s)) q) :
    Reads l (act l k) q

variable {l : ℓ} {p q : Proc ℓ σ α}

lemma reads_attempt (h : ∀ s, Reads l (k s) q) : Reads l (attempt l failed k) q := .step h

lemma Reads.bind {a : α} {r : Proc ℓ σ β} (hp : Reads l p (ret a)) (hg : Reads l (g a) r) :
    Reads l (p.bind g) r := by
  generalize hq : (ret a : Proc ℓ σ α) = q at hp
  induction hp with
  | refl p => exact hq ▸ hg
  | step _ ih => exact .step fun s => ih s hq

variable {exec : ℓ → σ → σ}

variable {ghost : ℓ → σ → γ → γ} {R : σ × γ → σ × γ → Prop} {I : σ × γ → Prop}
  {c : ℓ → σ × γ → Prop} {Q : α → σ × γ → Prop} {x : σ × γ}

lemma Reads.leads (hR : Rely exec ghost R I c) (hl : ∀ y, watch exec ghost l y = y)
    (hc : ∀ y, I y → c l y) (h : Reads l p q) (hx : I x)
    (hq : ∀ y, R x y → I y → Leads exec ghost R I c Q q y) : Leads exec ghost R I c Q p x := by
  induction h generalizing x with
  | refl p => exact hq x (hR.refl x) hx
  | step _ ih =>
    refine fun y hxy hy => ⟨hc y hy, ?_⟩
    rw [hl]
    exact ih _ hy fun z hyz => hq z (hR.trans hxy hyz)

end Reads

section Beside

variable (exec : ℓ → σ → σ) (R : σ → σ → Prop) (P : ℓ → Prop)

structure Covering : Prop where
  refl : ∀ s, R s s
  trans : ∀ {s t u}, R s t → R t u → R s u
  step : ∀ l s, P l → R s (exec l s)

def LeadsBeside (Q : α → σ → Prop) : Proc ℓ σ α → σ → Prop
  | ret a, s => ∀ t, R s t → Q a t
  | act l k, s => ∀ t, R s t → LeadsBeside Q (k (some t)) (exec l t)

variable {exec R P} {Q : α → σ → Prop} {s t : σ}

lemma leadsBeside_attempt (h : ∀ t, R s t → LeadsBeside exec R Q (k t) (exec l t)) :
    LeadsBeside exec R Q (attempt l failed k) s := h

variable {p : Proc ℓ σ α}

lemma LeadsBeside.mono (hR : Covering exec R P) (h : LeadsBeside exec R Q p s) (hst : R s t) :
    LeadsBeside exec R Q p t := by
  cases p with
  | ret a | act l k => exact fun u htu => h u (hR.trans hst htu)

lemma LeadsBeside.bind (hR : Covering exec R P) {Q' : β → σ → Prop}
    (h : LeadsBeside exec R (fun a t => LeadsBeside exec R Q' (g a) t) p s) :
    LeadsBeside exec R Q' (p.bind g) s := by
  induction p generalizing s with
  | ret a => exact h s (hR.refl s)
  | act l k ih => exact fun t hst => ih _ (h t hst)

lemma LeadsBeside.discard {S : σ → Prop} (h : LeadsBeside exec R (fun _ => S) p s) :
    LeadsBeside exec R (fun _ => S) p.discard s := by
  induction p generalizing s with
  | ret a => exact h
  | act l k ih => exact fun t hst => ih _ (h t hst)

variable (hR : Covering exec R P)
include hR

lemma Reads.leadsBeside {q : Proc ℓ σ α} (hl : ∀ s, exec l s = s) (h : Reads l p q)
    (hq : ∀ t, R s t → LeadsBeside exec R Q q t) : LeadsBeside exec R Q p s := by
  induction h generalizing s with
  | refl p => exact hq s (hR.refl s)
  | step _ ih =>
    intro t hst
    rw [hl]
    exact ih _ fun u htu => hq u (hR.trans hst htu)

lemma Uses.leadsBeside (h : Uses P p) (hQ : ∀ a t, R s t → Q a t) : LeadsBeside exec R Q p s := by
  induction p generalizing s with
  | ret a => exact hQ a
  | act l k ih =>
    intro t hst
    have hstep := hR.trans hst (hR.step l t h.1)
    exact ih _ (h.2 _) fun a u htu => hQ a u (hR.trans hstep htu)

lemma LeadsBeside.after (h : LeadsBeside exec R Q p s) :
    ∀ t, R (p.after exec s) t → Q (p.result exec [] s) t := by
  induction p generalizing s with
  | ret a =>
    rw [after_ret, result_ret]
    exact h
  | act l k ih => simpa [Proc.after] using ih _ (h s (hR.refl s))

lemma Uses.after_covered (h : Uses P p) : R s (p.after exec s) := by
  induction p generalizing s with
  | ret a => simpa using hR.refl s
  | act l k ih => simpa [Proc.after] using hR.trans (hR.step l s h.1) (ih _ (h.2 _))

omit hR

variable {S : σ → Prop} {p : Proc ℓ σ Unit}

lemma LeadsBeside.forEach (hR : Covering exec R P) {i : ℕ} (hi : ps[i]? = some p)
    (hothers : ∀ j q, j ≠ i → ps[j]? = some q → Uses P q) (h : LeadsBeside exec R (fun _ => S) p s)
    : S ((forEach ps id).after exec s) := by
  induction ps generalizing i s with
  | nil => simp at hi
  | cons q ps ih =>
    rw [Proc.forEach, after_bind, id]
    cases i with
    | zero =>
      obtain rfl : q = p := by simpa using hi
      refine h.after hR _ (Uses.after_covered hR (uses_forEach fun r hr => ?_))
      obtain ⟨j, hj⟩ := List.mem_iff_getElem?.1 hr
      exact hothers (j + 1) r (by simp) (by simpa using hj)
    | succ i =>
      have hq : Uses P q := hothers 0 q (by simp) (by simp)
      refine ih (by simpa using hi) (fun j r hj hr => ?_) (h.mono hR (hq.after_covered hR))
      exact hothers (j + 1) r (by simpa using hj) (by simpa using hr)

theorem LeadsBeside.interleave (hR : Covering exec R P) (schedule : List ℕ) {i : ℕ}
    (hi : ps[i]? = some p) (hothers : ∀ j q, j ≠ i → ps[j]? = some q → Uses P q)
    (h : LeadsBeside exec R (fun _ => S) p s) : S ((interleave schedule ps).after exec s) := by
  induction schedule generalizing ps p s with
  | nil => exact h.forEach hR hi hothers
  | cons j schedule ih =>
    rw [Proc.interleave]
    split
    next l k hj =>
      rw [after_act]
      by_cases hij : j = i
      · subst hij
        obtain rfl : act l k = p := by simpa [hj] using hi
        exact ih (getElem?_set_of_some hi _) (forall_ne_set hothers (absurd rfl)) (h s (hR.refl s))
      have hq := hothers j _ hij hj
      exact ih (by rwa [List.getElem?_set_ne hij]) (forall_ne_set hothers fun _ => hq.2 _)
        (h.mono hR (hR.step l s hq.1))
    · exact ih hi hothers h

end Beside

end Stablenode.Proc
