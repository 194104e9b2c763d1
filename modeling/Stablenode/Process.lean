import Stablenode.Run

/-! Processes over a shared state: each call fails and changes nothing, or executes its label in one
step. -/
namespace Stablenode

section SetAt

variable {α : Type} {as : List α} {a b : α} {i j : ℕ}

lemma forall_mem_set {P : α → Prop} (h : ∀ a ∈ as, P a) (hb : P b) : ∀ a ∈ as.set i b, P a := by
  intro a ha
  rcases List.mem_or_eq_of_mem_set ha with ha | rfl
  · exact h a ha
  · exact hb

lemma forall_getElem?_set {P : ℕ → α → Prop} (h : ∀ j a, as[j]? = some a → P j a) (hb : P i b) :
    ∀ j a, (as.set i b)[j]? = some a → P j a := by
  intro j a ha
  rw [List.getElem?_set] at ha
  split_ifs at ha with hij
  · obtain rfl := Option.some.inj ha
    exact hij ▸ hb
  · exact h j a ha

lemma forall_ne_set {P : α → Prop} (h : ∀ m a, m ≠ i → as[m]? = some a → P a)
    (hb : j ≠ i → P b) : ∀ m a, m ≠ i → (as.set j b)[m]? = some a → P a :=
  fun m a hm ha => forall_getElem?_set (P := fun m a => m ≠ i → P a)
    (fun m a ha hm => h m a hm ha) hb m a ha hm

lemma getElem?_set_of_some (h : as[i]? = some a) (b : α) : (as.set i b)[i]? = some b :=
  List.getElem?_set_self (List.getElem?_eq_some_iff.1 h).1

lemma set_of_getElem?_eq (h : as[i]? = some a) : as.set i a = as := by
  obtain ⟨hlt, rfl⟩ := List.getElem?_eq_some_iff.1 h
  exact List.set_getElem_self hlt

end SetAt

inductive Proc (ℓ σ α : Type) where
  | ret (a : α)
  | act (l : ℓ) (k : Option σ → Proc ℓ σ α)

namespace Proc

variable {ℓ σ α β : Type}

def bind : Proc ℓ σ α → (α → Proc ℓ σ β) → Proc ℓ σ β
  | ret a, f => f a
  | act l k, f => act l fun r => (k r).bind f

def discard (p : Proc ℓ σ α) : Proc ℓ σ Unit :=
  p.bind fun _ => ret ()

def attempt (l : ℓ) (failed : Proc ℓ σ α) (k : σ → Proc ℓ σ α) : Proc ℓ σ α :=
  act l fun
    | none => failed
    | some s => k s

def ignore (l : ℓ) (k : Proc ℓ σ α) : Proc ℓ σ α :=
  act l fun _ => k

def forEach {ι : Type} (xs : List ι) (body : ι → Proc ℓ σ Unit) : Proc ℓ σ Unit :=
  match xs with
  | [] => ret ()
  | x :: xs => (body x).bind fun _ => forEach xs body

def forWhile {ι : Type} (xs : List ι) (body : ι → Proc ℓ σ Bool) : Proc ℓ σ Bool :=
  match xs with
  | [] => ret true
  | x :: xs => (body x).bind fun goOn => if goOn then forWhile xs body else ret false

def interleave : List ℕ → List (Proc ℓ σ Unit) → Proc ℓ σ Unit
  | [], ps => forEach ps id
  | i :: is, ps =>
    match ps[i]? with
    | some (act l k) => act l fun r => interleave is (ps.set i (k r))
    | _ => interleave is ps

theorem interleave_induction {R : List (Proc ℓ σ Unit) → Proc ℓ σ Unit → Prop}
    (hnil : ∀ ps, R ps (forEach ps id))
    (hact : ∀ {schedule ps i l k}, ps[i]? = some (act l k) →
      (∀ r, R (ps.set i (k r)) (interleave schedule (ps.set i (k r)))) →
      R ps (act l fun r => interleave schedule (ps.set i (k r))))
    (schedule : List ℕ) (ps : List (Proc ℓ σ Unit)) : R ps (interleave schedule ps) := by
  induction schedule generalizing ps with
  | nil => exact hnil ps
  | cons i schedule ih =>
    rw [interleave]
    split
    next hi => exact hact hi fun r => ih _
    · exact ih ps

section Semantics

variable (exec : ℓ → σ → σ)

def history : Proc ℓ σ α → List Bool → σ → List ℓ
  | ret _, _, _ => []
  | act _ k, true :: fs, s => (k none).history fs s
  | act l k, false :: fs, s => l :: (k (some s)).history fs (exec l s)
  | act l k, [], s => l :: (k (some s)).history [] (exec l s)

def result : Proc ℓ σ α → List Bool → σ → α
  | ret a, _, _ => a
  | act _ k, true :: fs, s => (k none).result fs s
  | act l k, false :: fs, s => (k (some s)).result fs (exec l s)
  | act l k, [], s => (k (some s)).result [] (exec l s)

def after (p : Proc ℓ σ α) (s : σ) : σ :=
  Run.exec exec s (p.history exec [] s)

end Semantics

variable {exec : ℓ → σ → σ}

@[simp] lemma bind_ret (a : α) (f : α → Proc ℓ σ β) : (ret a : Proc ℓ σ α).bind f = f a := rfl

lemma bind_attempt (l : ℓ) (failed : Proc ℓ σ α) (k : σ → Proc ℓ σ α) (g : α → Proc ℓ σ β) :
    (attempt l failed k).bind g = attempt l (failed.bind g) fun s => (k s).bind g := by
  rw [attempt, bind, attempt]
  congr 1
  funext r
  cases r <;> rfl

@[simp] lemma history_ret (a : α) (fs : List Bool) (s : σ) :
    (ret a : Proc ℓ σ α).history exec fs s = [] := by
  rw [history]

@[simp] lemma history_act (l : ℓ) (k : Option σ → Proc ℓ σ α) (s : σ) :
    (act l k).history exec [] s = l :: (k (some s)).history exec [] (exec l s) := by
  rw [history]

@[simp] lemma result_ret (a : α) (fs : List Bool) (s : σ) :
    (ret a : Proc ℓ σ α).result exec fs s = a := by
  rw [result]

@[simp] lemma result_act (l : ℓ) (k : Option σ → Proc ℓ σ α) (s : σ) :
    (act l k).result exec [] s = (k (some s)).result exec [] (exec l s) := by
  rw [result]

lemma after_act (l : ℓ) (k : Option σ → Proc ℓ σ α) (s : σ) :
    (act l k).after exec s = (k (some s)).after exec (exec l s) := by
  simp [after]

@[simp] lemma after_ret (a : α) (s : σ) : (ret a : Proc ℓ σ α).after exec s = s := by
  simp [after]

@[simp] lemma after_attempt (l : ℓ) (failed : Proc ℓ σ α) (k : σ → Proc ℓ σ α) (s : σ) :
    (attempt l failed k).after exec s = (k s).after exec (exec l s) := by
  simp [after, attempt]

@[simp] lemma result_attempt (l : ℓ) (failed : Proc ℓ σ α) (k : σ → Proc ℓ σ α) (s : σ) :
    (attempt l failed k).result exec [] s = (k s).result exec [] (exec l s) := by
  simp [attempt]

@[simp] lemma after_ignore (l : ℓ) (k : Proc ℓ σ α) (s : σ) :
    (ignore l k).after exec s = k.after exec (exec l s) := by
  simp [after, ignore]

@[simp] lemma result_ignore (l : ℓ) (k : Proc ℓ σ α) (s : σ) :
    (ignore l k).result exec [] s = k.result exec [] (exec l s) := by
  simp [ignore]

@[simp] lemma history_attempt (l : ℓ) (failed : Proc ℓ σ α) (k : σ → Proc ℓ σ α) (s : σ) :
    (attempt l failed k).history exec [] s = l :: (k s).history exec [] (exec l s) := by
  simp [attempt]

@[simp] lemma history_ignore (l : ℓ) (k : Proc ℓ σ α) (s : σ) :
    (ignore l k).history exec [] s = l :: k.history exec [] (exec l s) := by
  simp [ignore]

lemma history_bind (p : Proc ℓ σ α) (f : α → Proc ℓ σ β) (s : σ) :
    (p.bind f).history exec [] s =
      p.history exec [] s ++ (f (p.result exec [] s)).history exec [] (p.after exec s) := by
  induction p generalizing s with
  | ret a => simp
  | act l k ih => simp [bind, ih, after]

lemma result_bind (p : Proc ℓ σ α) (f : α → Proc ℓ σ β) (s : σ) :
    (p.bind f).result exec [] s = (f (p.result exec [] s)).result exec [] (p.after exec s) := by
  induction p generalizing s with
  | ret a => simp
  | act l k ih => simp [bind, ih, after]

lemma after_bind (p : Proc ℓ σ α) (f : α → Proc ℓ σ β) (s : σ) :
    (p.bind f).after exec s = (f (p.result exec [] s)).after exec (p.after exec s) := by
  simp only [after, history_bind, Run.exec_append]

@[simp] lemma after_discard (p : Proc ℓ σ α) (s : σ) : p.discard.after exec s = p.after exec s := by
  rw [discard, after_bind, after_ret]

section Ghost

variable {γ : Type} (exec : ℓ → σ → σ) (ghost : ℓ → σ → γ → γ)

def watch (l : ℓ) (x : σ × γ) : σ × γ := (exec l x.1, ghost l x.1 x.2)

def watched (p : Proc ℓ σ α) (x : σ × γ) : σ × γ :=
  Run.exec (watch exec ghost) x (p.history exec [] x.1)

def Keeps (I : σ × γ → Prop) (c : ℓ → σ × γ → Prop) (p : Proc ℓ σ α) : Prop :=
  ∀ x, I x → Run.Admitted (watch exec ghost) c x (p.history exec [] x.1) →
    I (p.watched exec ghost x)

variable {exec ghost}

lemma exec_watch_fst (ls : List ℓ) (x : σ × γ) :
    (Run.exec (watch exec ghost) x ls).1 = Run.exec exec x.1 ls := by
  induction ls generalizing x with
  | nil => rfl
  | cons l ls ih => exact ih _

@[simp] lemma watched_fst (p : Proc ℓ σ α) (x : σ × γ) :
    (p.watched exec ghost x).1 = p.after exec x.1 :=
  exec_watch_fst _ _

@[simp] lemma watched_ret (a : α) (x : σ × γ) : (ret a : Proc ℓ σ α).watched exec ghost x = x := by
  simp [watched]

@[simp] lemma watched_attempt (l : ℓ) (failed : Proc ℓ σ α) (k : σ → Proc ℓ σ α) (x : σ × γ) :
    (attempt l failed k).watched exec ghost x =
      (k x.1).watched exec ghost (watch exec ghost l x) := by
  simp [watched, attempt, watch]

@[simp] lemma watched_ignore (l : ℓ) (k : Proc ℓ σ α) (x : σ × γ) :
    (ignore l k).watched exec ghost x = k.watched exec ghost (watch exec ghost l x) := by
  simp [watched, ignore, watch]

lemma watched_bind (p : Proc ℓ σ α) (f : α → Proc ℓ σ β) (x : σ × γ) :
    (p.bind f).watched exec ghost x =
      (f (p.result exec [] x.1)).watched exec ghost (p.watched exec ghost x) := by
  rw [watched, history_bind, Run.exec_append]
  simp only [watched, exec_watch_fst, after]

@[simp] lemma watched_discard (p : Proc ℓ σ α) (x : σ × γ) :
    p.discard.watched exec ghost x = p.watched exec ghost x := by
  rw [discard, watched_bind, watched_ret]

variable {I : σ × γ → Prop} {c : ℓ → σ × γ → Prop}

lemma keeps_ret (a : α) : Keeps exec ghost I c (ret a : Proc ℓ σ α) := by
  intro x hx _
  simpa using hx

section Step

variable {l : ℓ} {k : σ → Proc ℓ σ α} {failed : Proc ℓ σ α}
  (hl : ∀ x, I x → c l x → I (watch exec ghost l x))

include hl

lemma keeps_act {k : Option σ → Proc ℓ σ α}
    (hk : ∀ s, Keeps exec ghost I c (k (some s))) : Keeps exec ghost I c (act l k) := by
  intro x hx h
  rw [history_act] at h
  have := hk x.1 _ (hl x hx h.1) h.2
  simpa [watched, watch] using this

lemma keeps_attempt_of_inv
    (hk : ∀ x, I x → Keeps exec ghost I c (k x.1)) : Keeps exec ghost I c (attempt l failed k) := by
  intro x hx h
  rw [history_attempt] at h
  rw [watched_attempt]
  exact hk x hx _ (hl x hx h.1) h.2

lemma keeps_attempt (hk : ∀ s, Keeps exec ghost I c (k s)) :
    Keeps exec ghost I c (attempt l failed k) :=
  keeps_act hl hk

lemma keeps_ignore {k : Proc ℓ σ α} (hk : Keeps exec ghost I c k) :
    Keeps exec ghost I c (ignore l k) :=
  keeps_act hl fun _ => hk

end Step

lemma keeps_bind {p : Proc ℓ σ α} {f : α → Proc ℓ σ β} (hp : Keeps exec ghost I c p)
    (hf : ∀ a, Keeps exec ghost I c (f a)) : Keeps exec ghost I c (p.bind f) := by
  intro x hx h
  rw [history_bind, Run.admitted_append] at h
  rw [watched_bind]
  refine hf _ _ (hp x hx h.1) ?_
  rw [watched_fst]
  exact h.2

lemma keeps_forWhile {ι : Type} {xs : List ι} {body : ι → Proc ℓ σ Bool}
    (h : ∀ i ∈ xs, Keeps exec ghost I c (body i)) : Keeps exec ghost I c (forWhile xs body) := by
  induction xs with
  | nil => exact keeps_ret _
  | cons i xs ih =>
    refine keeps_bind (h i (by simp)) fun goOn => ?_
    cases goOn with
    | false => exact keeps_ret _
    | true => exact ih fun j hj => h j (by simp [hj])

end Ghost

end Proc

end Stablenode
