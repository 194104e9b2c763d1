import Mathlib

/-! Runs of a deterministic step function and their invariants. -/
namespace Stablenode.Run

variable {σ ε : Type*} (step : ε → σ → σ)

def exec (s : σ) (es : List ε) : σ :=
  es.foldl (fun s e => step e s) s

@[simp] lemma exec_nil (s : σ) : exec step s [] = s := rfl

@[simp] lemma exec_cons (s : σ) (e : ε) (es : List ε) :
    exec step s (e :: es) = exec step (step e s) es := rfl

lemma exec_append (s : σ) (es fs : List ε) :
    exec step s (es ++ fs) = exec step (exec step s es) fs :=
  List.foldl_append

def Always (p : σ → Prop) : σ → List ε → Prop
  | s, [] => p s
  | s, e :: es => p s ∧ Always p (step e s) es

def Admitted (c : ε → σ → Prop) : σ → List ε → Prop
  | _, [] => True
  | s, e :: es => c e s ∧ Admitted c (step e s) es

variable {step} {p : σ → Prop} {c : ε → σ → Prop} {v : ε → Prop}

@[simp] lemma admitted_nil (s : σ) : Admitted step c s [] := trivial

@[simp] lemma admitted_cons (s : σ) (e : ε) (es : List ε) :
    Admitted step c s (e :: es) ↔ c e s ∧ Admitted step c (step e s) es := Iff.rfl

lemma admitted_of_forall (h : ∀ e s, c e s) (s : σ) (es : List ε) : Admitted step c s es := by
  induction es generalizing s with
  | nil => trivial
  | cons e es ih => exact ⟨h e s, ih _⟩

lemma admitted_append (s : σ) (es fs : List ε) :
    Admitted step c s (es ++ fs) ↔ Admitted step c s es ∧ Admitted step c (exec step s es) fs := by
  induction es generalizing s with
  | nil => simp [Admitted]
  | cons e es ih => simp [Admitted, ih, and_assoc]

variable {s : σ} {es : List ε}

lemma admitted_iff_forall_mem {q : ε → Prop} :
    Admitted step (fun e _ => q e) s es ↔ ∀ e ∈ es, q e := by
  induction es generalizing s with
  | nil => simp
  | cons e es ih => simp [ih]

variable {d : ε → σ → Prop}

lemma Admitted.and (hc : Admitted step c s es) (hd : Admitted step d s es) :
    Admitted step (fun e s => c e s ∧ d e s) s es := by
  induction es generalizing s with
  | nil => trivial
  | cons e es ih => exact ⟨⟨hc.1, hd.1⟩, ih hc.2 hd.2⟩

lemma admitted_congr (hcd : ∀ e s, p s → (c e s ↔ d e s))
    (hstep : ∀ e s, p s → d e s → p (step e s)) (hs : p s) (es : List ε) :
    Admitted step c s es ↔ Admitted step d s es := by
  induction es generalizing s with
  | nil => exact Iff.rfl
  | cons e es ih =>
    rw [admitted_cons, admitted_cons, hcd e s hs]
    exact and_congr_right fun hd => ih (hstep e s hs hd)

lemma Always.mono {q : σ → Prop} (hpq : ∀ s, p s → q s) (h : Always step p s es) :
    Always step q s es := by
  induction es generalizing s with
  | nil => exact hpq s h
  | cons e es ih => exact ⟨hpq s h.1, ih h.2⟩

lemma Always.head (h : Always step p s es) : p s := by
  cases es with
  | nil => exact h
  | cons e es => exact h.1

lemma Always.last (h : Always step p s es) : p (exec step s es) := by
  induction es generalizing s with
  | nil => exact h
  | cons e es ih => exact ih h.2

lemma Always.initial {fs : List ε} (h : Always step p s fs) (hpre : es <+: fs) :
    Always step p s es := by
  induction es generalizing s fs with
  | nil => exact h.head
  | cons e es ih =>
    cases fs with
    | nil => simp at hpre
    | cons f fs =>
      obtain ⟨rfl, htail⟩ := List.cons_prefix_cons.1 hpre
      exact ⟨h.1, ih h.2 htail⟩

theorem always_of_admitted (hstep : ∀ e s, p s → c e s → p (step e s)) (hs : p s)
    (h : Admitted step c s es) : Always step p s es := by
  induction es generalizing s with
  | nil => exact hs
  | cons e es ih => exact ⟨hs, ih (hstep e s hs h.1) h.2⟩

theorem always_iff_admitted (hstep : ∀ e s, v e → p s → (p (step e s) ↔ c e s)) (hs : p s)
    (hv : ∀ e ∈ es, v e) : Always step p s es ↔ Admitted step c s es := by
  induction es generalizing s with
  | nil => exact ⟨fun _ => trivial, fun _ => hs⟩
  | cons e es ih =>
    have he : v e := hv e (by simp)
    have htail : ∀ e ∈ es, v e := fun e' h' => hv e' (by simp [h'])
    constructor
    · rintro ⟨_, hrest⟩
      have hp := hrest.head
      exact ⟨(hstep e s he hs).1 hp, (ih hp htail).1 hrest⟩
    · rintro ⟨hc, hrest⟩
      have hp := (hstep e s he hs).2 hc
      exact ⟨hs, (ih hp htail).2 hrest⟩

lemma always_iff_admitted_next :
    Always step p s es ↔ p s ∧ Admitted step (fun e s => p (step e s)) s es := by
  induction es generalizing s with
  | nil => simp [Always]
  | cons e es ih => rw [Always, ih, admitted_cons]

lemma always_of_splits (hs : p s)
    (h : ∀ pre e post, es = pre ++ e :: post → p (exec step s pre) → p (step e (exec step s pre))) :
    Always step p s es := by
  induction es generalizing s with
  | nil => exact hs
  | cons e es ih =>
    refine ⟨hs, ih (h [] e es rfl hs) fun pre e' post heq => ?_⟩
    exact h (e :: pre) e' post (by rw [heq, List.cons_append])

def Evolves (step : ε → σ → σ) (r : σ → σ → Prop) (s : σ) (h : List ε) : Prop :=
  ∀ es fs gs, h = es ++ fs ++ gs → r (exec step s es) (exec step s (es ++ fs))

theorem evolves_iff_admitted {r : σ → σ → Prop} (hrefl : ∀ s, r s s)
    (htrans : ∀ {s t u}, r s t → r t u → r s u) {h : List ε} :
    Evolves step r s h ↔ Admitted step (fun e s => r s (step e s)) s h := by
  constructor
  · intro hr
    induction h generalizing s with
    | nil => trivial
    | cons e h ih =>
      refine ⟨hr [] [e] h rfl, ih fun es fs gs heq => ?_⟩
      exact hr (e :: es) fs gs (by simp [heq])
  · rintro hadm es fs gs rfl
    rw [admitted_append, admitted_append] at hadm
    have hmid := hadm.1.2
    rw [exec_append]
    generalize exec step s es = t at hmid
    clear hadm
    induction fs generalizing t with
    | nil => exact hrefl t
    | cons e fs ih => exact htrans hmid.1 (ih _ hmid.2)

instance decidableAlways [DecidablePred p] : ∀ s es, Decidable (Always step p s es)
  | _, [] => by unfold Always; infer_instance
  | s, e :: es =>
    have := decidableAlways (step e s) es
    by unfold Always; infer_instance

instance decidableAdmitted [∀ e s, Decidable (c e s)] :
    ∀ s es, Decidable (Admitted step c s es)
  | _, [] => by unfold Admitted; infer_instance
  | s, e :: es =>
    have := decidableAdmitted (step e s) es
    by unfold Admitted; infer_instance

end Stablenode.Run
