import Stablenode.Process

/-! Processes that run alone and whose calls may fail. -/
namespace Stablenode.Proc

open Run

variable {ℓ σ α β ι : Type} (exec : ℓ → σ → σ)

inductive Ends : Proc ℓ σ α → σ → α → σ → Prop where
  | ret (a : α) (s : σ) : Ends (ret a) s a s
  | step {l : ℓ} {k : Option σ → Proc ℓ σ α} {s t : σ} {a : α}
    (h : Ends (k (some s)) (exec l s) a t) : Ends (act l k) s a t
  | fail {l : ℓ} {k : Option σ → Proc ℓ σ α} {s t : σ} {a : α}
    (h : Ends (k none) s a t) : Ends (act l k) s a t

def Safe (c : ℓ → σ → Prop) : Proc ℓ σ α → σ → Prop
  | ret _, _ => True
  | act l k, s => c l s ∧ Safe c (k (some s)) (exec l s) ∧ Safe c (k none) s

def Uses (P : ℓ → Prop) : Proc ℓ σ α → Prop
  | ret _ => True
  | act l k => P l ∧ ∀ r, Uses P (k r)

variable {exec} {c : ℓ → σ → Prop} {P : ℓ → Prop} {p failed : Proc ℓ σ α} {s : σ} {a : α}
  {k : σ → Proc ℓ σ α} {l : ℓ} {I : σ → Prop} {g : α → Proc ℓ σ β} {body : ι → Proc ℓ σ Bool}
  {xs : List ι}

theorem safe_iff_forall_faults :
    Safe exec c p s ↔ ∀ faults, Admitted exec c s (p.history exec faults s) := by
  induction p generalizing s with
  | ret a => simp [Safe]
  | act l k ih =>
    rw [Safe, ih, ih]
    constructor
    · rintro ⟨hl, hstep, hfail⟩ faults
      rcases faults with _ | ⟨_ | _, fs⟩ <;> rw [history]
      case cons.true => exact hfail fs
      all_goals exact ⟨hl, hstep _⟩
    intro h
    have hhead := h []
    rw [history] at hhead
    refine ⟨hhead.1, fun fs => ?_, fun fs => ?_⟩
    · have := h (false :: fs)
      rw [history] at this
      exact this.2
    · have := h (true :: fs)
      rw [history] at this
      exact this

section Post

variable (exec) in
def Post (Q : List ℓ → σ → Prop) : Proc ℓ σ α → σ → Prop
  | ret _, s => Q [] s
  | act l k, s => Post (fun h t => Q (l :: h) t) (k (some s)) (exec l s) ∧ Post Q (k none) s

variable {Q : List ℓ → σ → Prop}

variable {p : Proc ℓ σ α} {s : σ}

theorem post_iff_forall_faults :
    Post exec Q p s ↔
      ∀ faults, Q (p.history exec faults s) (Run.exec exec s (p.history exec faults s)) := by
  induction p generalizing Q s with
  | ret a => simp [Post]
  | act l k ih =>
    rw [Post, ih, ih]
    constructor
    · rintro ⟨hstep, hfail⟩ faults
      rcases faults with _ | ⟨_ | _, fs⟩ <;> rw [history]
      case cons.true => exact hfail fs
      all_goals exact hstep _
    · intro h
      refine ⟨fun fs => ?_, fun fs => ?_⟩
      · have := h (false :: fs)
        rwa [history] at this
      · have := h (true :: fs)
        rwa [history] at this

lemma post_attempt_iff :
    Post exec Q (attempt l failed k) s ↔
      Post exec (fun h t => Q (l :: h) t) (k s) (exec l s) ∧ Post exec Q failed s := Iff.rfl

lemma Post.mono {Q' : List ℓ → σ → Prop} (hQ : ∀ h t, Q h t → Q' h t) (h : Post exec Q p s) :
    Post exec Q' p s := by
  rw [post_iff_forall_faults] at h ⊢
  exact fun faults => hQ _ _ (h faults)

lemma Uses.post {P : ℓ → Prop} (h : Uses P p) (hI : ∀ l s, P l → I s → I (exec l s)) (hs : I s)
    (hQ : ∀ ls t, (∀ l ∈ ls, P l) → I t → Q ls t) : Post exec Q p s := by
  induction p generalizing Q s with
  | ret a => exact hQ [] s (by simp) hs
  | act l k ih =>
    refine ⟨ih _ (h.2 _) (hI l s h.1 hs) fun ls t hls ht => ?_, ih _ (h.2 _) hs hQ⟩
    refine hQ (l :: ls) t (fun l' hl' => ?_) ht
    rcases List.mem_cons.1 hl' with rfl | hl'
    · exact h.1
    · exact hls l' hl'

end Post

variable {fs : List Bool}

section Outcome

variable (exec) in
def outcome (p : Proc ℓ σ α) (faults : List Bool) (s : σ) : α × σ :=
  (p.result exec faults s, Run.exec exec s (p.history exec faults s))

variable {l : ℓ} {failed : Proc ℓ σ α} {k : σ → Proc ℓ σ α} {s : σ}

@[simp] lemma outcome_ret (a : α) : (ret a : Proc ℓ σ α).outcome exec fs s = (a, s) := by
  rw [outcome, result_ret, history_ret]
  rfl

@[simp] lemma outcome_attempt_fail :
    (attempt l failed k).outcome exec (true :: fs) s = failed.outcome exec fs s := by
  simp only [outcome, attempt, result, history]

@[simp] lemma outcome_attempt_step :
    (attempt l failed k).outcome exec (false :: fs) s = (k s).outcome exec fs (exec l s) := by
  simp only [outcome, attempt, result, history]
  rfl

@[simp] lemma outcome_ignore_fail :
    (ignore l p).outcome exec (true :: fs) s = p.outcome exec fs s := by
  simp only [outcome, ignore, result, history]

@[simp] lemma outcome_ignore_step :
    (ignore l p).outcome exec (false :: fs) s = p.outcome exec fs (exec l s) := by
  simp only [outcome, ignore, result, history]
  rfl

variable (exec) in
def outcomeIf (fails : ℓ → Bool) : Proc ℓ σ α → σ → α × σ
  | ret a, s => (a, s)
  | act l k, s =>
    if fails l then (k none).outcomeIf fails s else (k (some s)).outcomeIf fails (exec l s)

variable {fails : ℓ → Bool}

@[simp] lemma outcomeIf_ret (a : α) : (ret a : Proc ℓ σ α).outcomeIf exec fails s = (a, s) := rfl

lemma outcomeIf_attempt :
    (attempt l failed k).outcomeIf exec fails s =
      if fails l then failed.outcomeIf exec fails s
      else (k s).outcomeIf exec fails (exec l s) := rfl

lemma outcomeIf_ignore :
    (ignore l p).outcomeIf exec fails s =
      if fails l then p.outcomeIf exec fails s else p.outcomeIf exec fails (exec l s) := rfl

lemma outcomeIf_bind (p : Proc ℓ σ α) (g : α → Proc ℓ σ β) (s : σ) :
    (p.bind g).outcomeIf exec fails s =
      (g (p.outcomeIf exec fails s).1).outcomeIf exec fails (p.outcomeIf exec fails s).2 := by
  induction p generalizing s with
  | ret a => rfl
  | act l k ih =>
    simp only [Proc.bind, outcomeIf]
    split <;> exact ih _ _

end Outcome

section Ends

variable {a : α} {s t : σ}

lemma ends_ret_iff {b : α} : Ends exec (ret a) s b t ↔ b = a ∧ t = s := by
  constructor
  · intro h
    cases h
    exact ⟨rfl, rfl⟩
  · rintro ⟨rfl, rfl⟩
    exact .ret _ _

lemma ends_attempt_iff :
    Ends exec (attempt l failed k) s a t ↔
      Ends exec (k s) (exec l s) a t ∨ Ends exec failed s a t := by
  constructor
  · rintro (_ | h | h)
    · exact Or.inl h
    · exact Or.inr h
  · rintro (h | h)
    · exact .step h
    · exact .fail h

lemma ends_ignore_iff {k : Proc ℓ σ α} :
    Ends exec (ignore l k) s a t ↔ Ends exec k (exec l s) a t ∨ Ends exec k s a t := by
  constructor
  · rintro (_ | h | h)
    · exact Or.inl h
    · exact Or.inr h
  · rintro (h | h)
    · exact .step h
    · exact .fail h

lemma Ends.bind {u : σ} {b : β} (hp : Ends exec p s a t) (hg : Ends exec (g a) t b u) :
    Ends exec (p.bind g) s b u := by
  induction hp with
  | ret a s => exact hg
  | step _ ih => exact .step (ih hg)
  | fail _ ih => exact .fail (ih hg)

lemma ends_bind_iff {u : σ} {b : β} :
    Ends exec (p.bind g) s b u ↔ ∃ a t, Ends exec p s a t ∧ Ends exec (g a) t b u := by
  refine ⟨fun h => ?_, fun ⟨a, t, hp, hg⟩ => hp.bind hg⟩
  induction p generalizing s with
  | ret a => exact ⟨a, s, .ret a s, h⟩
  | act l k ih =>
    cases h with
    | step h =>
      obtain ⟨a, t, hp, hg⟩ := ih _ h
      exact ⟨a, t, .step hp, hg⟩
    | fail h =>
      obtain ⟨a, t, hp, hg⟩ := ih _ h
      exact ⟨a, t, .fail hp, hg⟩

lemma exists_ends (p : Proc ℓ σ α) (s : σ) : ∃ a t, Ends exec p s a t := by
  induction p generalizing s with
  | ret a => exact ⟨a, s, .ret a s⟩
  | act l k ih =>
    obtain ⟨a, t, h⟩ := ih none s
    exact ⟨a, t, .fail h⟩

lemma ends_outcome (p : Proc ℓ σ α) (faults : List Bool) (s : σ) :
    Ends exec p s (p.outcome exec faults s).1 (p.outcome exec faults s).2 := by
  induction p generalizing faults s with
  | ret a =>
    rw [outcome_ret]
    exact .ret a s
  | act l k ih =>
    rcases faults with _ | ⟨_ | _, fs⟩ <;> rw [outcome, result, history]
    case cons.true => exact .fail (ih none fs s)
    all_goals exact .step (ih (some s) _ (exec l s))

lemma ends_forWhile_true (h : Ends exec (forWhile xs body) s true t) :
    ∀ x ∈ xs, ∃ u v, Ends exec (body x) u true v := by
  induction xs generalizing s with
  | nil => simp
  | cons x xs ih =>
    obtain ⟨goOn, u, hbody, hrest⟩ := ends_bind_iff.1 h
    cases goOn with
    | false =>
      have := (ends_ret_iff.1 hrest).1
      cases this
    | true =>
      intro y hy
      rcases List.mem_cons.1 hy with rfl | hmem
      · exact ⟨s, u, hbody⟩
      · exact ih hrest y hmem

lemma ends_forWhile_skip (h : ∀ x ∈ xs, Ends exec (body x) s true s) :
    Ends exec (forWhile xs body) s true s := by
  induction xs with
  | nil => exact .ret _ _
  | cons x xs ih =>
    exact (h x (by simp)).bind (ih fun y hy => h y (by simp [hy]))

end Ends

section Safe

@[simp] lemma safe_ret (a : α) (s : σ) : Safe exec c (ret a : Proc ℓ σ α) s := trivial

lemma safe_attempt_iff :
    Safe exec c (attempt l failed k) s ↔
      c l s ∧ Safe exec c (k s) (exec l s) ∧ Safe exec c failed s := Iff.rfl

lemma safe_ignore_iff {k : Proc ℓ σ α} :
    Safe exec c (ignore l k) s ↔ c l s ∧ Safe exec c k (exec l s) ∧ Safe exec c k s := Iff.rfl

theorem safe_bind_iff :
    Safe exec c (p.bind g) s ↔
      Safe exec c p s ∧ ∀ a t, Ends exec p s a t → Safe exec c (g a) t := by
  induction p generalizing s with
  | ret a =>
    refine ⟨fun h => ⟨trivial, fun b t hb => ?_⟩, fun h => h.2 a s (.ret a s)⟩
    obtain ⟨rfl, rfl⟩ := ends_ret_iff.1 hb
    exact h
  | act l k ih =>
    simp only [Proc.bind, Safe, ih]
    constructor
    · rintro ⟨hl, ⟨hstep, hstep'⟩, hfail, hfail'⟩
      refine ⟨⟨hl, hstep, hfail⟩, fun a t h => ?_⟩
      cases h with
      | step h => exact hstep' a t h
      | fail h => exact hfail' a t h
    · rintro ⟨⟨hl, hstep, hfail⟩, h⟩
      exact ⟨hl, ⟨hstep, fun a t he => h a t (.step he)⟩, hfail, fun a t he => h a t (.fail he)⟩

lemma safe_discard_iff : Safe exec c p.discard s ↔ Safe exec c p s := by
  rw [Proc.discard, safe_bind_iff]
  exact and_iff_left fun _ _ _ => trivial

lemma safe_forWhile (h : ∀ x ∈ xs, ∀ s, Safe exec c (body x) s) (s : σ) :
    Safe exec c (forWhile xs body) s := by
  induction xs generalizing s with
  | nil => trivial
  | cons x xs ih =>
    refine safe_bind_iff.2 ⟨h x (by simp) s, fun goOn t _ => ?_⟩
    cases goOn with
    | false => trivial
    | true => exact ih (fun y hy => h y (by simp [hy])) t

end Safe

section Uses

@[simp] lemma uses_ret (a : α) : Uses P (ret a : Proc ℓ σ α) := trivial

lemma uses_attempt (hl : P l) (hf : Uses P failed) (hk : ∀ s, Uses P (k s)) :
    Uses P (attempt l failed k) := by
  refine ⟨hl, fun r => ?_⟩
  cases r with
  | none => exact hf
  | some s => exact hk s

lemma uses_ignore {k : Proc ℓ σ α} (hl : P l) (hk : Uses P k) : Uses P (ignore l k) :=
  ⟨hl, fun _ => hk⟩

variable {p : Proc ℓ σ α}

lemma uses_bind (hp : Uses P p) (hg : ∀ a, Uses P (g a)) : Uses P (p.bind g) := by
  induction p with
  | ret a => exact hg a
  | act l k ih => exact ⟨hp.1, fun r => ih r (hp.2 r)⟩

lemma uses_forWhile (h : ∀ x ∈ xs, Uses P (body x)) : Uses P (forWhile xs body) := by
  induction xs with
  | nil => trivial
  | cons x xs ih =>
    refine uses_bind (h x (by simp)) fun goOn => ?_
    cases goOn with
    | false => trivial
    | true => exact ih fun y hy => h y (by simp [hy])

lemma Uses.mono {Q : ℓ → Prop} (hPQ : ∀ l, P l → Q l) (h : Uses P p) : Uses Q p := by
  induction p with
  | ret a => trivial
  | act l k ih => exact ⟨hPQ l h.1, fun r => ih r (h.2 r)⟩

lemma Uses.ends {t : σ} (h : Uses P p) (hI : ∀ l s, P l → I s → I (exec l s)) (hs : I s)
    (he : Ends exec p s a t) : I t := by
  induction he with
  | ret => exact hs
  | step _ ih => exact ih (h.2 _) (hI _ _ h.1 hs)
  | fail _ ih => exact ih (h.2 _) hs

lemma Uses.safe (h : Uses P p) (hc : ∀ l s, P l → I s → c l s)
    (hI : ∀ l s, P l → I s → I (exec l s)) (hs : I s) : Safe exec c p s := by
  induction p generalizing s with
  | ret a => trivial
  | act l k ih =>
    exact ⟨hc l s h.1 hs, ih _ (h.2 _) (hI l s h.1 hs), ih _ (h.2 _) hs⟩

lemma Uses.keeps {γ : Type} {ghost : ℓ → σ → γ → γ} {I : σ × γ → Prop} {c : ℓ → σ × γ → Prop}
    (h : Uses P p) (hstep : ∀ l, P l → ∀ x, I x → c l x → I (watch exec ghost l x)) :
    Keeps exec ghost I c p := by
  induction p with
  | ret a => exact keeps_ret a
  | act l k ih => exact keeps_act (hstep l h.1) fun s => ih (some s) (h.2 (some s))

end Uses

section AnswersWith

def failsAt (faults : List Bool) (n : ℕ) : Prop := faults[n]? = some true

instance (faults : List Bool) (n : ℕ) : Decidable (failsAt faults n) :=
  inferInstanceAs (Decidable (_ = _))

@[simp] lemma failsAt_tail {faults : List Bool} {n : ℕ} :
    failsAt faults.tail n ↔ failsAt faults (n + 1) := by
  rw [failsAt, failsAt, List.getElem?_tail]

variable (exec) in
def AnswersWith (ok answer : α → Prop) (c : ℓ → σ → Prop) (p : Proc ℓ σ α) (faults : List Bool)
    (s : σ) : Prop :=
  ok (p.result exec faults s) ∧
    (answer (p.result exec faults s) → Admitted exec c s (p.history exec faults s))

variable {ok answer : α → Prop} {l : ℓ} {failed : Proc ℓ σ α} {k : σ → Proc ℓ σ α} {s : σ}

lemma result_attempt_faults : (attempt l failed k).result exec fs s =
    if failsAt fs 0 then failed.result exec fs.tail s
    else (k s).result exec fs.tail (exec l s) := by
  rcases fs with _ | ⟨_ | _, fs⟩ <;> simp [attempt, result, failsAt]

lemma history_attempt_faults : (attempt l failed k).history exec fs s =
    if failsAt fs 0 then failed.history exec fs.tail s
    else l :: (k s).history exec fs.tail (exec l s) := by
  rcases fs with _ | ⟨_ | _, fs⟩ <;> simp [attempt, history, failsAt]

@[simp] lemma answersWith_ret : AnswersWith exec ok answer c (ret a) fs s ↔ ok a := by
  simp [AnswersWith]

lemma answersWith_attempt (hl : c l s) :
    AnswersWith exec ok answer c (attempt l failed k) fs s ↔
      if failsAt fs 0 then AnswersWith exec ok answer c failed fs.tail s
      else AnswersWith exec ok answer c (k s) fs.tail (exec l s) := by
  rw [AnswersWith, result_attempt_faults, history_attempt_faults]
  split <;> simp [AnswersWith, hl]

lemma answersWith_attempt_of_not (hl : ¬ c l s) :
    AnswersWith exec ok answer c (attempt l failed k) fs s ↔
      if failsAt fs 0 then AnswersWith exec ok answer c failed fs.tail s
      else ok ((k s).result exec fs.tail (exec l s)) ∧
        ¬ answer ((k s).result exec fs.tail (exec l s)) := by
  rw [AnswersWith, result_attempt_faults, history_attempt_faults]
  split <;> simp [AnswersWith, hl]

lemma Safe.answersWith (h : Safe exec c p s) (hok : ok (p.result exec fs s)) :
    AnswersWith exec ok answer c p fs s :=
  ⟨hok, fun _ => safe_iff_forall_faults.1 h fs⟩

end AnswersWith

section Returns

def Returns (Q : α → Prop) : Proc ℓ σ α → Prop
  | ret a => Q a
  | act _ k => ∀ r, Returns Q (k r)

variable {Q : α → Prop}

lemma returns_attempt (hf : Returns Q failed) (hk : ∀ s, Returns Q (k s)) :
    Returns Q (attempt l failed k) := fun r => by
  cases r with
  | none => exact hf
  | some s => exact hk s

lemma returns_bind {p : Proc ℓ σ β} {g : β → Proc ℓ σ α} (hg : ∀ b, Returns Q (g b)) :
    Returns Q (p.bind g) := by
  induction p with
  | ret b => exact hg b
  | act l k ih => exact fun r => ih r

lemma Returns.result (h : Returns Q p) (fs : List Bool) (s : σ) : Q (p.result exec fs s) := by
  induction p generalizing fs s with
  | ret a => rwa [result_ret]
  | act l k ih => rcases fs with _ | ⟨_ | _, fs⟩ <;> exact ih _ (h _) _ _

end Returns

end Stablenode.Proc
