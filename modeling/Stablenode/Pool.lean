import Stablenode.Process

/-! Threads over a shared state. Operations that read, compute and write once are serialisable as
long as every write finds what it was computed from. -/
namespace Stablenode

structure Pool (ℓ σ α : Type) where
  state : σ
  threads : List (Proc ℓ σ α)

namespace Pool

open Proc

structure Turn where
  thread : ℕ
  fails : Bool
  deriving DecidableEq

variable {ℓ σ α ι ε ε' : Type}

section Semantics

variable (exec : ℓ → σ → σ)

def step (turn : Turn) (x : Pool ℓ σ α) : Pool ℓ σ α :=
  match x.threads[turn.thread]? with
  | some (act l k) =>
    if turn.fails then { x with threads := x.threads.set turn.thread (k none) }
    else ⟨exec l x.state, x.threads.set turn.thread (k (some x.state))⟩
  | _ => x

def Meets (c : ℓ → σ → Prop) (turn : Turn) (x : Pool ℓ σ α) : Prop :=
  match x.threads[turn.thread]? with
  | some (act l _) => turn.fails = true ∨ c l x.state
  | _ => True

instance {c : ℓ → σ → Prop} [∀ l s, Decidable (c l s)] (turn : Turn) (x : Pool ℓ σ α) :
    Decidable (Meets c turn x) := by
  unfold Meets
  split <;> infer_instance

def succeeded (x : Pool ℓ σ (Except ε Unit)) (i : ℕ) : Bool :=
  match x.threads[i]? with
  | some (ret (.ok _)) => true
  | _ => false

end Semantics

section Serial

variable (exec : ℓ → σ → σ) (c : ℓ → σ → Prop)

def serial (result : ι → σ → Except ε σ) (ops : List ι) (s : σ) (order : List ℕ) : Option σ :=
  order.foldlM (fun s i => ops[i]?.bind fun op => (result op s).toOption) s

def Commits (result : σ → Except ε σ) : Proc ℓ σ (Except ε' Unit) → Prop
  | ret r => ∃ e, r = .error e
  | act l k =>
    (∀ s, exec l s = s) ∧ (∀ r, Commits result (k r)) ∨
      (∀ s, c l s → result s = .ok (exec l s)) ∧ (∀ s, k (some s) = ret (.ok ())) ∧
        ∃ e, k none = ret (.error e)

def Serialisable (result : ι → σ → Except ε σ) (ops : List ι) (s : σ)
    (x : Pool ℓ σ (Except ε' Unit)) : Prop :=
  ∃ order : List ℕ, order.Nodup ∧ (∀ i, i ∈ order ↔ x.succeeded i = true) ∧
    serial result ops s order = some x.state

def Pending (result : ι → σ → Except ε σ) (ops : List ι) (x : Pool ℓ σ (Except ε' Unit)) : Prop :=
  ∀ (i : ℕ) p, x.threads[i]? = some p →
    p = ret (.ok ()) ∨ ∃ op, ops[i]? = some op ∧ Commits exec c (result op) p

variable {exec c} {result : ι → σ → Except ε σ} {ops : List ι} {s : σ}
  {x : Pool ℓ σ (Except ε' Unit)}

lemma serial_append (order : List ℕ) (i : ℕ) :
    serial result ops s (order ++ [i]) =
      (serial result ops s order).bind fun t => ops[i]?.bind fun op => (result op t).toOption := by
  simp [serial, List.foldlM_append]

lemma succeeded_iff (i : ℕ) : x.succeeded i = true ↔ x.threads[i]? = some (ret (.ok ())) := by
  rw [succeeded]
  split
  · rename_i h
    simp [h]
  · rename_i h
    simp only [Bool.false_eq_true, false_iff]
    exact h ()

variable {i : ℕ} {p q : Proc ℓ σ (Except ε' Unit)} {t : σ}
  {k : Option σ → Proc ℓ σ (Except ε' Unit)}

lemma not_succeeded_of_act {l : ℓ} (h : x.threads[i]? = some (act l k)) :
    x.succeeded i = false := by
  rw [succeeded, h]

lemma Commits.ne_ok {r : σ → Except ε σ} (h : Commits exec c r p) : p ≠ ret (.ok ()) := by
  rintro rfl
  obtain ⟨e, he⟩ := h
  cases he

lemma succeeded_set (hp : x.threads[i]? = some p) (hne : p ≠ ret (.ok ())) (hq : q ≠ ret (.ok ()))
    (j : ℕ) :
    (⟨t, x.threads.set i q⟩ : Pool ℓ σ (Except ε' Unit)).succeeded j = true ↔
      x.succeeded j = true := by
  rw [succeeded_iff, succeeded_iff]
  by_cases hij : i = j
  · subst hij
    rw [getElem?_set_of_some hp, hp]
    simp [hne, hq]
  · rw [List.getElem?_set_ne hij]

lemma Pending.set (h : Pending exec c result ops x)
    (hq : q = ret (.ok ()) ∨ ∃ op, ops[i]? = some op ∧ Commits exec c (result op) q) :
    Pending exec c result ops ⟨t, x.threads.set i q⟩ :=
  forall_getElem?_set h hq

lemma Serialisable.set (h : Serialisable result ops s x) (hp : x.threads[i]? = some p)
    (hne : p ≠ ret (.ok ())) (hq : q ≠ ret (.ok ())) :
    Serialisable result ops s ⟨x.state, x.threads.set i q⟩ := by
  obtain ⟨order, hnodup, hmem, hserial⟩ := h
  refine ⟨order, hnodup, fun j => ?_, hserial⟩
  rw [hmem, succeeded_set hp hne hq]

lemma Serialisable.commit (h : Serialisable result ops s x) {op : ι} {l : ℓ}
    (hp : x.threads[i]? = some (act l k)) (hop : ops[i]? = some op)
    (hresult : result op x.state = .ok t) :
    Serialisable result ops s ⟨t, x.threads.set i (ret (.ok ()))⟩ := by
  obtain ⟨order, hnodup, hmem, hserial⟩ := h
  have hnew : i ∉ order := by
    rw [hmem, not_succeeded_of_act hp]
    exact Bool.false_ne_true
  refine ⟨order ++ [i], ?_, fun j => ?_, ?_⟩
  · rw [List.nodup_append]
    refine ⟨hnodup, List.nodup_singleton i, fun a ha b hb => ?_⟩
    rw [List.mem_singleton.1 hb]
    rintro rfl
    exact hnew ha
  · rw [List.mem_append, List.mem_singleton, hmem, succeeded_iff, succeeded_iff]
    by_cases hij : i = j
    · subst hij
      simp [getElem?_set_of_some hp]
    · rw [List.getElem?_set_ne hij]
      simp [Ne.symm hij]
  · rw [serial_append, hserial, Option.bind_some, hop, Option.bind_some, hresult]
    rfl

lemma serialisable_step {turn : Turn}
    (h : Serialisable result ops s x ∧ Pending exec c result ops x) (hc : Meets c turn x) :
    Serialisable result ops s (step exec turn x) ∧ Pending exec c result ops (step exec turn x) := by
  obtain ⟨hs, hpending⟩ := h
  rw [step]
  split
  · rename_i l k hp
    obtain hret | ⟨op, hop, hcommits⟩ := hpending _ _ hp
    · cases hret
    rw [Meets, hp] at hc
    have hne : act l k ≠ ret (.ok ()) := nofun
    obtain ⟨hquiet, hrest⟩ | ⟨hwrite, hdone, e, hfailed⟩ := hcommits
    · -- a read: the thread goes on, with whatever it found
      split_ifs
      · exact ⟨hs.set hp hne (hrest none).ne_ok, hpending.set (.inr ⟨op, hop, hrest none⟩)⟩
      · rw [hquiet]
        exact ⟨hs.set hp hne (hrest _).ne_ok, hpending.set (.inr ⟨op, hop, hrest _⟩)⟩
    · split_ifs with hfails
      · rw [hfailed]
        exact ⟨hs.set hp hne nofun, hpending.set (.inr ⟨op, hop, e, rfl⟩)⟩
      · have hresult := hwrite x.state (hc.resolve_left hfails)
        rw [hdone]
        exact ⟨hs.commit hp hop hresult, hpending.set (.inl rfl)⟩
  · exact ⟨hs, hpending⟩

theorem always_serialisable {schedule : List Turn} (hx : Pending exec c result ops x)
    (hstart : ∀ i, x.succeeded i = false) (h : Run.Admitted (step exec) (Meets c) x schedule) :
    Run.Always (step exec) (Serialisable result ops x.state) x schedule := by
  have hempty : Serialisable result ops x.state x :=
    ⟨[], List.nodup_nil, fun i => by simp [hstart i], rfl⟩
  have halways := Run.always_of_admitted
    (p := fun y => Serialisable result ops x.state y ∧ Pending exec c result ops y)
    (fun turn y hy hc => serialisable_step hy hc) ⟨hempty, hx⟩ h
  exact halways.mono fun y hy => hy.1

end Serial

end Pool

end Stablenode
