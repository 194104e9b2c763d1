import Stablenode.Traces

/-! Processes that run alone while some of their calls cannot fail. -/
namespace Stablenode.Proc

variable {ℓ σ α β : Type} {k : σ → Proc ℓ σ α} {failed : Proc ℓ σ α}

section Reaches

inductive Reaches (P : ℓ → Prop) (s : σ) : Proc ℓ σ α → Proc ℓ σ α → Prop where
  | refl (p : Proc ℓ σ α) : Reaches P s p p
  | call {l : ℓ} {k : Option σ → Proc ℓ σ α} {q : Proc ℓ σ α} (hl : P l)
    (h : Reaches P s (k (some s)) q) : Reaches P s (act l k) q

variable {P : ℓ → Prop} {s : σ} {p q : Proc ℓ σ α} {exec : ℓ → σ → σ}

lemma reaches_attempt {l : ℓ} (hl : P l) (h : Reaches P s (k s) q) :
    Reaches P s (attempt l failed k) q :=
  .call hl h

lemma Reaches.outcomeIf {fails : ℓ → Bool} (h : Reaches P s p q)
    (hP : ∀ l, P l → exec l s = s ∧ fails l = false) :
    p.outcomeIf exec fails s = q.outcomeIf exec fails s := by
  induction h with
  | refl p => rfl
  | @call l k q hl _ ih =>
    rw [Proc.outcomeIf, (hP l hl).2, (hP l hl).1]
    exact ih

lemma Reaches.ends {a : α} {t : σ} (h : Reaches P s p q) (hP : ∀ l, P l → exec l s = s)
    (hq : Ends exec q s a t) : Ends exec p s a t := by
  induction h with
  | refl p => exact hq
  | @call l k q hl _ ih =>
    refine .step ?_
    rw [hP l hl]
    exact ih hq

lemma Reaches.mapLabel {ℓ' : Type} {P' : ℓ' → Prop} {f : ℓ → ℓ'} (h : Reaches P s p q)
    (hf : ∀ l, P l → P' (f l)) : Reaches P' s (p.mapLabel f) (q.mapLabel f) := by
  induction h with
  | refl p => exact .refl _
  | @call l k q hl _ ih => exact .call (hf l hl) ih

lemma Reaches.trace (h : Reaches P s p q) (hP : ∀ l, P l → exec l s = s) :
    ∃ calls, p.trace exec [] s = calls ++ q.trace exec [] s := by
  induction h with
  | refl p => exact ⟨[], rfl⟩
  | @call l k q hl _ ih =>
    obtain ⟨calls, hcalls⟩ := ih
    refine ⟨⟨l, s, true⟩ :: calls, ?_⟩
    rw [Proc.trace, hP l hl, hcalls]
    rfl

end Reaches

section Yields

variable (exec : ℓ → σ → σ) (mayFail : ℓ → Prop)

def Yields (Q : α → List ℓ → σ → Prop) : Proc ℓ σ α → σ → Prop
  | ret a, s => Q a [] s
  | act l k, s =>
    Yields (fun a ls t => Q a (l :: ls) t) (k (some s)) (exec l s) ∧
      (mayFail l → Yields (fun a ls t => Q a (l :: ls) t) (k none) s)

variable {exec mayFail} {Q Q' : α → List ℓ → σ → Prop} {s : σ}

def FailsOnly (mayFail : ℓ → Prop) (calls : List (Call ℓ σ)) : Prop :=
  ∀ c ∈ calls, c.done = false → mayFail c.label

lemma failsOnly_trace_nil (p : Proc ℓ σ α) : FailsOnly mayFail (p.trace exec [] s) := by
  induction p generalizing s with
  | ret a => intro c hc; cases hc
  | act l k ih =>
    intro c hc hdone
    rcases List.mem_cons.1 hc with rfl | hc
    · cases hdone
    · exact ih _ c hc hdone

variable {p : Proc ℓ σ α} {l : ℓ}

theorem yields_iff_forall_trace :
    Yields exec mayFail Q p s ↔ ∀ faults, FailsOnly mayFail (p.trace exec faults s) →
      Q (p.result exec faults s) ((p.trace exec faults s).map Call.label)
        (Run.exec exec s (p.history exec faults s)) := by
  induction p generalizing Q s with
  | ret a => simp [Yields, FailsOnly, trace]
  | act l k ih =>
    rw [Yields, ih, forall_congr' fun _ : mayFail l => ih _]
    constructor
    · rintro ⟨hstep, hfail⟩ faults hfaults
      rcases faults with _ | ⟨_ | _, fs⟩
      case cons.true =>
        rw [trace] at hfaults ⊢
        have hl : mayFail l := hfaults _ (List.mem_cons_self ..) rfl
        rw [result, history]
        exact hfail hl fs fun c hc => hfaults c (List.mem_cons_of_mem _ hc)
      all_goals
        rw [trace] at hfaults ⊢
        rw [result, history]
        exact hstep _ fun c hc => hfaults c (List.mem_cons_of_mem _ hc)
    · intro h
      refine ⟨fun fs hfs => ?_, fun hl fs hfs => ?_⟩
      · have := h (false :: fs)
        rw [trace, result, history] at this
        refine this fun c hc => ?_
        rcases List.mem_cons.1 hc with rfl | hc
        · intro hdone
          cases hdone
        · exact hfs c hc
      · have := h (true :: fs)
        rw [trace, result, history] at this
        refine this fun c hc => ?_
        rcases List.mem_cons.1 hc with rfl | hc
        · exact fun _ => hl
        · exact hfs c hc

lemma Yields.mono (h : Yields exec mayFail Q p s) (hQ : ∀ a ls t, Q a ls t → Q' a ls t) :
    Yields exec mayFail Q' p s := by
  induction p generalizing Q Q' s with
  | ret a => exact hQ a [] s h
  | act l k ih =>
    exact ⟨ih _ h.1 fun a ls t => hQ a (l :: ls) t, fun hl => ih _ (h.2 hl) fun a ls t => hQ a (l :: ls) t⟩

lemma yields_attempt_reliable (hl : ¬ mayFail l)
    (h : Yields exec mayFail (fun a ls t => Q a (l :: ls) t) (k s) (exec l s)) :
    Yields exec mayFail Q (attempt l failed k) s :=
  ⟨h, fun hmay => absurd hmay hl⟩

lemma yields_attempt (h : Yields exec mayFail (fun a ls t => Q a (l :: ls) t) (k s) (exec l s))
    (hfailed : Yields exec mayFail (fun a ls t => Q a (l :: ls) t) failed s) :
    Yields exec mayFail Q (attempt l failed k) s :=
  ⟨h, fun _ => hfailed⟩

lemma yields_ignore_reliable (hl : ¬ mayFail l)
    (h : Yields exec mayFail (fun a ls t => Q a (l :: ls) t) p (exec l s)) :
    Yields exec mayFail Q (ignore l p) s :=
  ⟨h, fun hmay => absurd hmay hl⟩

lemma yields_ignore (h : Yields exec mayFail (fun a ls t => Q a (l :: ls) t) p (exec l s))
    (hfailed : Yields exec mayFail (fun a ls t => Q a (l :: ls) t) p s) :
    Yields exec mayFail Q (ignore l p) s :=
  ⟨h, fun _ => hfailed⟩

lemma Yields.bind {g : α → Proc ℓ σ β} {Q : β → List ℓ → σ → Prop}
    (h : Yields exec mayFail (fun a ls t =>
      Yields exec mayFail (fun b ls' u => Q b (ls ++ ls') u) (g a) t) p s) :
    Yields exec mayFail Q (p.bind g) s := by
  induction p generalizing Q s with
  | ret a => exact h
  | act l k ih => exact ⟨ih _ h.1, fun hl => ih _ (h.2 hl)⟩

lemma Uses.yields {P : ℓ → Prop} {I : σ → Prop} (h : Uses P p)
    (hI : ∀ l s, P l → I s → I (exec l s)) (hs : I s) :
    Yields exec mayFail (fun _ ls t => (∀ l ∈ ls, P l) ∧ I t) p s := by
  induction p generalizing s with
  | ret a => exact ⟨by simp, hs⟩
  | act l k ih =>
    have hcons : ∀ (a : α) ls t, ((∀ l ∈ ls, P l) ∧ I t) → (∀ l' ∈ l :: ls, P l') ∧ I t :=
      fun _ ls t hls => ⟨List.forall_mem_cons.2 ⟨h.1, hls.1⟩, hls.2⟩
    exact ⟨(ih _ (h.2 _) (hI l s h.1 hs)).mono hcons, fun _ => (ih _ (h.2 _) hs).mono hcons⟩

end Yields

end Stablenode.Proc
