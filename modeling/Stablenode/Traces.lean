import Stablenode.Outcomes

/-! Traces of processes: the calls with the states they met. A trace of an interleaving is a merge
of traces. -/
namespace Stablenode

variable {α β : Type}

section Merge

variable {ε : Type}

inductive Merge : List (List ε) → List ε → Prop where
  | nil {ts : List (List ε)} : (∀ t ∈ ts, t = []) → Merge ts []
  | cons {ts : List (List ε)} {i : ℕ} {x : ε} {u w : List ε} :
      ts[i]? = some (x :: u) → Merge (ts.set i u) w → Merge ts (x :: w)

namespace Merge

variable {ts : List (List ε)} {t w : List ε}

lemma nil_cons (h : Merge ts w) : Merge ([] :: ts) w := by
  induction h with
  | nil h => exact .nil (by simpa using h)
  | @cons ts i x u w hi _ ih => exact .cons (i := i + 1) (by simpa using hi) ih

lemma append_first (h : Merge ts w) (t : List ε) : Merge (t :: ts) (t ++ w) := by
  induction t with
  | nil => exact h.nil_cons
  | cons x t ih => exact .cons (i := 0) rfl ih

lemma sublist (h : Merge ts w) (ht : t ∈ ts) : t.Sublist w := by
  induction h generalizing t with
  | nil h => rw [h t ht]
  | @cons ts i x u w hi _ ih =>
    obtain ⟨j, hj⟩ := List.mem_iff_getElem?.1 ht
    by_cases hij : i = j
    · subst hij
      obtain rfl := Option.some.inj (hj.symm.trans hi)
      exact (ih (List.mem_of_getElem? (getElem?_set_of_some hi u))).cons_cons x
    · exact (ih (List.mem_of_getElem? (by rw [List.getElem?_set_ne hij, hj]))).cons x

lemma exists_split (h : Merge ts w) {pre post : List ε} {x : ε} (hw : w = pre ++ x :: post) :
    ∃ t ∈ ts, ∃ pre' post', t = pre' ++ x :: post' ∧ pre'.Sublist pre ∧
      post'.Sublist post := by
  induction h generalizing pre with
  | nil h => simp at hw
  | @cons ts i y u w hi hrest ih =>
    have hmem : (y :: u) ∈ ts := List.mem_of_getElem? hi
    have hself := getElem?_set_of_some hi u
    cases pre with
    | nil =>
      obtain ⟨rfl, rfl⟩ := List.cons_eq_cons.1 hw
      exact ⟨_, hmem, [], u, rfl, List.Sublist.refl _,
        hrest.sublist (List.mem_of_getElem? hself)⟩
    | cons z pre =>
      obtain ⟨rfl, hw'⟩ := List.cons_eq_cons.1 hw
      obtain ⟨t, ht, pre', post', rfl, hpre, hpost⟩ := ih hw'
      obtain ⟨j, hj⟩ := List.mem_iff_getElem?.1 ht
      by_cases hij : i = j
      · -- the element belongs to the list that the first one comes from
        subst hij
        obtain rfl := Option.some.inj (hself.symm.trans hj)
        exact ⟨_, hmem, y :: pre', post', rfl, hpre.cons_cons y, hpost⟩
      · rw [List.getElem?_set_ne hij] at hj
        exact ⟨_, List.mem_of_getElem? hj, pre', post', rfl, hpre.cons y, hpost⟩

lemma map {δ : Type} (f : ε → δ) (h : Merge ts w) : Merge (ts.map (List.map f)) (w.map f) := by
  induction h with
  | nil h =>
    refine .nil fun t ht => ?_
    obtain ⟨u, hu, rfl⟩ := List.mem_map.1 ht
    rw [h u hu, List.map_nil]
  | @cons ts i x u w hi _ ih =>
    refine .cons (i := i) (u := u.map f) ?_ ?_
    · rw [List.getElem?_map, hi]
      rfl
    · rwa [← List.map_set]

end Merge

variable {i : ℕ} {ts : List (List ε)}

lemma sum_map_set (f : α → ℕ) {as : List α} {a : α} (h : as[i]? = some a) (b : α) :
    ((as.set i b).map f).sum + f a = (as.map f).sum + f b := by
  induction as generalizing i with
  | nil => simp at h
  | cons c as ih =>
    cases i with
    | zero =>
      obtain rfl : c = a := by simpa using h
      simp only [List.set_cons_zero, List.map_cons, List.sum_cons]
      omega
    | succ i =>
      have := ih (by simpa using h)
      simp only [List.set_cons_succ, List.map_cons, List.sum_cons]
      omega

variable {w : List ε}

lemma Merge.countP_eq (h : Merge ts w) (p : ε → Bool) :
    w.countP p = (ts.map (List.countP p)).sum := by
  induction h with
  | @nil ts h =>
    have hzero : ∀ t ∈ ts, List.countP p t = 0 := fun t ht => by rw [h t ht]; rfl
    rw [List.map_congr_left (g := fun _ => 0) hzero]
    simp
  | @cons ts i x u w hi _ ih =>
    have hsum := sum_map_set (List.countP p) hi u
    rw [List.countP_cons] at hsum ⊢
    omega

lemma Merge.count_filterMap [DecidableEq β] (h : Merge ts w) (f : ε → Option β) (b : β) :
    (w.filterMap f).count b = (ts.map fun t => (t.filterMap f).count b).sum := by
  simp only [List.count_filterMap, h.countP_eq]

lemma Merge.filter_eq (h : Merge ts w) {p : ε → Bool} {u : List ε} (hi : ts[i]? = some u)
    (hrest : ∀ j v, j ≠ i → ts[j]? = some v → ∀ x ∈ v, p x = false) : w.filter p = u.filter p := by
  induction h generalizing u with
  | nil h => rw [h u (List.mem_of_getElem? hi)]
  | @cons ts j x v w hj _ ih =>
    by_cases hij : j = i
    · subst hij
      obtain rfl := Option.some.inj (hi.symm.trans hj)
      have htail := ih (getElem?_set_of_some hj v) (forall_ne_set hrest (absurd rfl))
      rw [List.filter_cons, List.filter_cons, htail]
    have hv := hrest j (x :: v) hij hj
    rw [List.filter_cons_of_neg (by simp [hv x List.mem_cons_self])]
    exact ih (by rwa [List.getElem?_set_ne hij])
      (forall_ne_set hrest fun _ y hy => hv y (List.mem_cons_of_mem x hy))

lemma Merge.filter (h : Merge ts w) (p : ε → Bool) :
    Merge (ts.map (List.filter p)) (w.filter p) := by
  induction h with
  | nil h =>
    refine .nil fun t ht => ?_
    obtain ⟨u, hu, rfl⟩ := List.mem_map.1 ht
    rw [h u hu, List.filter_nil]
  | @cons ts i x u w hi _ ih =>
    have hget : (ts.map (List.filter p))[i]? = some ((x :: u).filter p) := by
      rw [List.getElem?_map, hi, Option.map_some]
    rw [List.map_set] at ih
    by_cases hx : p x = true
    · rw [List.filter_cons_of_pos hx] at hget ⊢
      exact .cons hget ih
    · rw [List.filter_cons_of_neg hx] at hget ⊢
      rwa [← (List.getElem?_eq_some_iff.1 hget).2, List.set_getElem_self] at ih

lemma flatten_perm_of_getElem? {x : ε} {u : List ε} (h : ts[i]? = some (x :: u)) :
    ts.flatten.Perm (x :: (ts.set i u).flatten) := by
  induction ts generalizing i with
  | nil => simp at h
  | cons t ts ih =>
    cases i with
    | zero =>
      obtain rfl : t = x :: u := by simpa using h
      exact List.Perm.refl _
    | succ i =>
      have hrest := ih (i := i) (by simpa using h)
      exact (hrest.append_left t).trans List.perm_middle

lemma Merge.perm (h : Merge ts w) : w.Perm ts.flatten := by
  induction h with
  | nil h => rw [List.flatten_eq_nil_iff.2 h]
  | cons hi _ ih => exact (ih.cons _).trans (flatten_perm_of_getElem? hi).symm

end Merge

structure Call (ℓ σ : Type) where
  label : ℓ
  state : σ
  done : Bool
  deriving DecidableEq

def Call.relabel {ℓ ℓ' σ : Type} (f : ℓ → ℓ') (x : Call ℓ σ) : Call ℓ' σ :=
  ⟨f x.label, x.state, x.done⟩

namespace Proc

variable {ℓ ℓ' σ ι : Type} {exec : ℓ → σ → σ}

def executed (t : List (Call ℓ σ)) : List ℓ := (t.filter Call.done).map Call.label

def trace (exec : ℓ → σ → σ) : Proc ℓ σ α → List Bool → σ → List (Call ℓ σ)
  | ret _, _, _ => []
  | act l k, true :: fs, s => ⟨l, s, false⟩ :: (k none).trace exec fs s
  | act l k, false :: fs, s => ⟨l, s, true⟩ :: (k (some s)).trace exec fs (exec l s)
  | act l k, [], s => ⟨l, s, true⟩ :: (k (some s)).trace exec [] (exec l s)

inductive Path : Proc ℓ σ α → List (Call ℓ σ) → α → Prop where
  | ret (a : α) : Path (ret a) [] a
  | done {l : ℓ} {k : Option σ → Proc ℓ σ α} {s : σ} {t : List (Call ℓ σ)} {a : α} :
      Path (k (some s)) t a → Path (act l k) (⟨l, s, true⟩ :: t) a
  | failed {l : ℓ} {k : Option σ → Proc ℓ σ α} {s : σ} {t : List (Call ℓ σ)} {a : α} :
      Path (k none) t a → Path (act l k) (⟨l, s, false⟩ :: t) a

def Chained (exec : ℓ → σ → σ) : σ → List (Call ℓ σ) → Prop
  | _, [] => True
  | s, x :: t => x.state = s ∧ Chained exec (if x.done then exec x.label s else s) t

variable {u : List (Call ℓ σ)} {k : σ → Proc ℓ σ α} {failed : Proc ℓ σ α} {l : ℓ}
  {g : α → Proc ℓ σ β} {P : ℓ → Prop} {body : ι → Proc ℓ σ Unit} {xs : List ι}

section Runs

lemma executed_trace (p : Proc ℓ σ α) (faults : List Bool) (s : σ) :
    executed (p.trace exec faults s) = p.history exec faults s := by
  induction p generalizing faults s with
  | ret a => rw [trace, history]; rfl
  | act l k ih =>
    rcases faults with _ | ⟨_ | _, fs⟩ <;>
      · rw [trace, history, ← ih]
        rfl

lemma path_trace (p : Proc ℓ σ α) (faults : List Bool) (s : σ) :
    ∃ a, Path p (p.trace exec faults s) a := by
  induction p generalizing faults s with
  | ret a => exact ⟨a, by rw [trace]; exact .ret a⟩
  | act l k ih =>
    rcases faults with _ | ⟨_ | _, fs⟩ <;> rw [trace]
    case cons.true => exact (ih none fs s).imp fun _ h => h.failed
    all_goals exact (ih (some s) _ (exec l s)).imp fun _ h => h.done

lemma chained_trace (p : Proc ℓ σ α) (faults : List Bool) (s : σ) :
    Chained exec s (p.trace exec faults s) := by
  induction p generalizing faults s with
  | ret a => rw [trace]; trivial
  | act l k ih =>
    rcases faults with _ | ⟨_ | _, fs⟩ <;> rw [trace]
    case cons.true => exact ⟨rfl, ih none fs s⟩
    all_goals exact ⟨rfl, ih (some s) _ (exec l s)⟩

lemma executed_append (t u : List (Call ℓ σ)) : executed (t ++ u) = executed t ++ executed u := by
  simp [executed]

lemma exec_executed_cons (s : σ) (x : Call ℓ σ) (t : List (Call ℓ σ)) :
    Run.exec exec s (executed (x :: t)) =
      Run.exec exec (if x.done then exec x.label s else s) (executed t) := by
  cases hx : x.done <;> simp [executed, hx, Run.exec]

variable {t : List (Call ℓ σ)} {s : σ}

lemma chained_append_iff :
    Chained exec s (t ++ u) ↔
      Chained exec s t ∧ Chained exec (Run.exec exec s (executed t)) u := by
  induction t generalizing s with
  | nil => simp [Chained, executed, Run.exec]
  | cons x t ih =>
    rw [List.cons_append, Chained, Chained, ih, exec_executed_cons, and_assoc]

lemma Chained.induction {P : σ → Prop} (h : Chained exec s t) (hs : P s)
    (hstep : ∀ x ∈ t, x.done = true → P x.state → P (exec x.label x.state)) :
    P (Run.exec exec s (executed t)) := by
  induction t generalizing s with
  | nil => exact hs
  | cons x t ih =>
    obtain ⟨rfl, ht⟩ := h
    rw [exec_executed_cons]
    refine ih ht ?_ fun y hy => hstep y (List.mem_cons_of_mem _ hy)
    cases hx : x.done with
    | false => exact hs
    | true => exact hstep x List.mem_cons_self hx hs

lemma Chained.later {P : σ → Prop} {pre mid post : List (Call ℓ σ)} {x y : Call ℓ σ}
    (h : Chained exec s (pre ++ x :: mid ++ y :: post))
    (hx : P (if x.done then exec x.label x.state else x.state))
    (hstep : ∀ z ∈ mid, z.done = true → P z.state → P (exec z.label z.state)) : P y.state := by
  rw [List.append_assoc, List.cons_append, chained_append_iff] at h
  obtain ⟨-, hstate, hrest⟩ := h
  rw [← hstate, chained_append_iff] at hrest
  obtain ⟨hmid, hy, -⟩ := hrest
  rw [hy]
  exact hmid.induction hx hstep

end Runs

section Paths

variable {t : List (Call ℓ σ)} {a : α}

lemma path_ret_iff {b : α} : Path (ret b : Proc ℓ σ α) t a ↔ t = [] ∧ a = b := by
  constructor
  · rintro ⟨⟩
    exact ⟨rfl, rfl⟩
  · rintro ⟨rfl, rfl⟩
    exact .ret a

lemma path_attempt_iff :
    Path (attempt l failed k) t a ↔
      (∃ s u, t = ⟨l, s, true⟩ :: u ∧ Path (k s) u a) ∨
        ∃ s u, t = ⟨l, s, false⟩ :: u ∧ Path failed u a := by
  constructor
  · rintro (_ | h | h)
    · exact Or.inl ⟨_, _, rfl, h⟩
    · exact Or.inr ⟨_, _, rfl, h⟩
  · rintro (⟨s, u, rfl, h⟩ | ⟨s, u, rfl, h⟩)
    · exact .done h
    · exact .failed h

lemma path_ignore_iff {k : Proc ℓ σ α} :
    Path (ignore l k) t a ↔ ∃ s done u, t = ⟨l, s, done⟩ :: u ∧ Path k u a := by
  constructor
  · rintro (_ | h | h)
    · exact ⟨_, _, _, rfl, h⟩
    · exact ⟨_, _, _, rfl, h⟩
  · rintro ⟨s, done, u, rfl, h⟩
    cases done with
    | true => exact .done h
    | false => exact .failed h

variable {p : Proc ℓ σ α} {c : ℓ → σ → Prop} {s : σ}

lemma path_bind {b : β} (h : Path (p.bind g) t b) :
    ∃ u v a, t = u ++ v ∧ Path p u a ∧ Path (g a) v b := by
  induction p generalizing t with
  | ret a => exact ⟨[], t, a, rfl, .ret a, h⟩
  | act l k ih =>
    cases h with
    | done h =>
      obtain ⟨u, v, a, rfl, hp, hg⟩ := ih _ h
      exact ⟨_ :: u, v, a, rfl, hp.done, hg⟩
    | failed h =>
      obtain ⟨u, v, a, rfl, hp, hg⟩ := ih _ h
      exact ⟨_ :: u, v, a, rfl, hp.failed, hg⟩

lemma Path.uses (h : Path p t a) (hp : Uses P p) : ∀ x ∈ t, P x.label := by
  induction h with
  | ret a => nofun
  | done _ ih | failed _ ih =>
    rintro x (_ | ⟨_, hx⟩)
    · exact hp.1
    · exact ih (hp.2 _) x hx

lemma path_mapLabel {f : ℓ → ℓ'} {t : List (Call ℓ' σ)} (h : Path (p.mapLabel f) t a) :
    ∃ u, t = u.map (Call.relabel f) ∧ Path p u a := by
  induction p generalizing t with
  | ret b =>
    obtain ⟨rfl, rfl⟩ := path_ret_iff.1 h
    exact ⟨[], rfl, .ret _⟩
  | act l k ih =>
    rw [mapLabel] at h
    cases h with
    | done h =>
      obtain ⟨u, rfl, hu⟩ := ih _ h
      exact ⟨⟨l, _, true⟩ :: u, rfl, hu.done⟩
    | failed h =>
      obtain ⟨u, rfl, hu⟩ := ih _ h
      exact ⟨⟨l, _, false⟩ :: u, rfl, hu.failed⟩

lemma Safe.trace (h : Safe exec c p s) (faults : List Bool) :
    ∀ x ∈ p.trace exec faults s, c x.label x.state := by
  induction p generalizing faults s with
  | ret a => rw [Proc.trace]; nofun
  | act l k ih =>
    obtain ⟨hl, hstep, hfail⟩ := h
    rcases faults with _ | ⟨_ | _, fs⟩ <;> rw [Proc.trace, List.forall_mem_cons]
    case cons.true => exact ⟨hl, ih _ hfail fs⟩
    all_goals exact ⟨hl, ih _ hstep _⟩

variable {I : σ → Prop}

lemma Safe.ends (hI : ∀ l s, c l s → I s → I (exec l s)) {u : σ} {a : α} (h : Safe exec c p s)
    (hs : I s) (he : Ends exec p s a u) : I u := by
  induction he with
  | ret => exact hs
  | step _ ih => exact ih h.2.1 (hI _ _ h.1 hs)
  | fail _ ih => exact ih h.2.2 hs

lemma safe_forEach (hI : ∀ l s, c l s → I s → I (exec l s))
    (h : ∀ x ∈ xs, ∀ s, I s → Safe exec c (body x) s) (hs : I s) :
    Safe exec c (forEach xs body) s := by
  induction xs generalizing s with
  | nil => trivial
  | cons x xs ih =>
    have hx := h x (by simp) s hs
    refine safe_bind_iff.2 ⟨hx, fun _ t ht => ?_⟩
    exact ih (fun y hy => h y (by simp [hy])) (hx.ends hI hs ht)

end Paths

section Interleavings

lemma forall₂_set {R : α → β → Prop} {as : List α} {bs : List β} (h : List.Forall₂ R as bs) {a : α}
    {b : β} (hab : R a b) (i : ℕ) : List.Forall₂ R (as.set i a) (bs.set i b) := by
  induction h generalizing i with
  | nil => exact .nil
  | cons hcd h ih =>
    cases i with
    | zero => exact .cons hab h
    | succ i => exact .cons hcd (ih i)

lemma exists_of_forall₂ {R : α → β → Prop} {as : List α} {bs : List β} (h : List.Forall₂ R as bs)
    {i : ℕ} {a : α} (ha : as[i]? = some a) : ∃ b, bs[i]? = some b ∧ R a b := by
  induction h generalizing i with
  | nil => simp at ha
  | @cons c d as bs hcd _ ih =>
    cases i with
    | zero =>
      obtain rfl : c = a := by simpa using ha
      exact ⟨d, rfl, hcd⟩
    | succ i => exact ih (by simpa using ha)

variable {ps : List (Proc ℓ σ Unit)} {t : List (Call ℓ σ)}

lemma path_forEach (h : Path (forEach ps id) t ()) :
    ∃ ts, List.Forall₂ (fun p u => Path p u ()) ps ts ∧ Merge ts t := by
  induction ps generalizing t with
  | nil =>
    obtain ⟨rfl, -⟩ := path_ret_iff.1 h
    exact ⟨[], .nil, .nil nofun⟩
  | cons p ps ih =>
    obtain ⟨u, v, a, rfl, hp, hps⟩ := path_bind h
    obtain ⟨ts, hts, hmerge⟩ := ih hps
    exact ⟨u :: ts, .cons hp hts, hmerge.append_first u⟩

theorem path_interleave (schedule : List ℕ) (h : Path (interleave schedule ps) t ()) :
    ∃ ts, List.Forall₂ (fun p u => Path p u ()) ps ts ∧ Merge ts t := by
  induction schedule generalizing ps t with
  | nil => exact path_forEach h
  | cons i schedule ih =>
    rw [interleave] at h
    split at h
    next l k hi =>
      -- the first call is put back in front of the rest of its process
      have hback : ∀ (x : Call ℓ σ) r u, (∀ v, Path (k r) v () → Path (act l k) (x :: v) ()) →
          Path (interleave schedule (ps.set i (k r))) u () →
            ∃ ts, List.Forall₂ (fun p u => Path p u ()) ps ts ∧ Merge ts (x :: u) := by
        intro x r u hx hu
        obtain ⟨ts, hts, hmerge⟩ := ih hu
        obtain ⟨v, hv, hpath⟩ := exists_of_forall₂ hts (getElem?_set_of_some hi (k r))
        refine ⟨ts.set i (x :: v), ?_, .cons (getElem?_set_of_some hv _) ?_⟩
        · have hset := forall₂_set hts (hx v hpath) i
          rwa [List.set_set, set_of_getElem?_eq hi] at hset
        · rwa [List.set_set, set_of_getElem?_eq hv]
      cases h with
      | done h => exact hback _ _ _ (fun _ => .done) h
      | failed h => exact hback _ _ _ (fun _ => .failed) h
    · exact ih h

def Mergeable (Q : List (Call ℓ σ) → Prop) : Prop :=
  ∀ ts w, Merge ts w → (∀ t ∈ ts, Q t) → Q w

def Paths (Q : List (Call ℓ σ) → Prop) (p : Proc ℓ σ α) : Prop := ∀ t a, Path p t a → Q t

variable {Q : List (Call ℓ σ) → Prop}

variable (hQ : Mergeable Q)
include hQ

lemma Mergeable.nil : Q [] := hQ [] [] (.nil nofun) nofun

lemma Mergeable.append (ht : Q t) (hu : Q u) : Q (t ++ u) := by
  have hnil : Merge ([] : List (List (Call ℓ σ))) [] := .nil nofun
  have hmerge : Merge [t, u] (t ++ (u ++ [])) := (hnil.append_first u).append_first t
  rw [List.append_nil] at hmerge
  exact hQ _ _ hmerge (by simp [ht, hu])

lemma paths_ret (a : α) : Paths Q (ret a : Proc ℓ σ α) := by
  intro t b h
  obtain ⟨rfl, -⟩ := path_ret_iff.1 h
  exact hQ.nil

lemma paths_attempt (hl : ∀ s done, Q [⟨l, s, done⟩]) (hf : Paths Q failed)
    (hk : ∀ s, Paths Q (k s)) : Paths Q (attempt l failed k) := by
  intro t a h
  rcases path_attempt_iff.1 h with ⟨s, u, rfl, hu⟩ | ⟨s, u, rfl, hu⟩
  · exact hQ.append (hl s true) (hk s u a hu)
  · exact hQ.append (hl s false) (hf u a hu)

lemma paths_ignore {k : Proc ℓ σ α} (hl : ∀ s done, Q [⟨l, s, done⟩]) (hk : Paths Q k) :
    Paths Q (ignore l k) := by
  intro t a h
  obtain ⟨s, done, u, rfl, hu⟩ := path_ignore_iff.1 h
  exact hQ.append (hl s done) (hk u a hu)

variable {p : Proc ℓ σ α}

lemma paths_bind (hp : Paths Q p) (hg : ∀ a, Paths Q (g a)) : Paths Q (p.bind g) := by
  intro t b h
  obtain ⟨u, v, a, rfl, hu, hv⟩ := path_bind h
  exact hQ.append (hp u a hu) (hg a v b hv)

lemma paths_discard (hp : Paths Q p) : Paths Q p.discard :=
  paths_bind hQ hp fun _ => paths_ret hQ _

lemma paths_forEach (h : ∀ x ∈ xs, Paths Q (body x)) : Paths Q (forEach xs body) := by
  induction xs with
  | nil => exact paths_ret hQ _
  | cons x xs ih =>
    exact paths_bind hQ (h x (by simp)) fun _ => ih fun y hy => h y (by simp [hy])

lemma paths_forWhile {body : ι → Proc ℓ σ Bool} (h : ∀ x ∈ xs, Paths Q (body x)) :
    Paths Q (forWhile xs body) := by
  induction xs with
  | nil => exact paths_ret hQ _
  | cons x xs ih =>
    refine paths_bind hQ (h x (by simp)) fun goOn => ?_
    split
    · exact ih fun y hy => h y (by simp [hy])
    · exact paths_ret hQ _

lemma paths_interleave (schedule : List ℕ) (h : ∀ p ∈ ps, Paths Q p) :
    Paths Q (interleave schedule ps) := by
  intro t a ht
  obtain ⟨ts, hts, hmerge⟩ := path_interleave schedule ht
  refine hQ ts t hmerge fun u hu => ?_
  obtain ⟨i, hi⟩ := List.mem_iff_getElem?.1 hu
  obtain ⟨p, hp, hpath⟩ := exists_of_forall₂ hts.flip hi
  exact h p (List.mem_of_getElem? hp) u () hpath

omit hQ

lemma Mergeable.relabel {Q : List (Call ℓ' σ) → Prop} (hQ : Mergeable Q) (f : ℓ → ℓ') :
    Mergeable fun t : List (Call ℓ σ) => Q (t.map (Call.relabel f)) := by
  intro ts w hmerge h
  refine hQ _ _ (hmerge.map (Call.relabel f)) fun t ht => ?_
  obtain ⟨u, hu, rfl⟩ := List.mem_map.1 ht
  exact h u hu

lemma paths_mapLabel {Q : List (Call ℓ' σ) → Prop} {f : ℓ → ℓ'}
    (h : Paths (fun t => Q (t.map (Call.relabel f))) p) : Paths Q (p.mapLabel f) := by
  intro t a ht
  obtain ⟨u, rfl, hu⟩ := path_mapLabel ht
  exact h u a hu

lemma Mergeable.of_singletons (hQ : Mergeable Q) (h : ∀ x ∈ t, Q [x]) : Q t := by
  induction t with
  | nil => exact hQ.nil
  | cons x t ih =>
    rw [List.forall_mem_cons] at h
    exact hQ.append h.1 (ih h.2)

lemma paths_of_forall (hQ : Mergeable Q) (h : ∀ l s done, Q [⟨l, s, done⟩]) (p : Proc ℓ σ α) :
    Paths Q p :=
  fun _ _ _ => hQ.of_singletons fun x _ => h x.label x.state x.done

lemma paths_of_uses (hQ : Mergeable Q) (hp : Uses P p) (h : ∀ l, P l → ∀ s done, Q [⟨l, s, done⟩]) :
    Paths Q p :=
  fun _ _ hpath => hQ.of_singletons fun x hx => h x.label (hpath.uses hp x hx) x.state x.done

end Interleavings

section Properties

def Answered (owes : Call ℓ σ → Prop) (answers : Call ℓ σ → Call ℓ σ → Prop)
    (t : List (Call ℓ σ)) : Prop :=
  ∀ pre x post, t = pre ++ x :: post → owes x → ∃ y ∈ post, answers x y

def Backed (needs : Call ℓ σ → Prop) (backs : Call ℓ σ → Call ℓ σ → Prop)
    (t : List (Call ℓ σ)) : Prop :=
  ∀ pre x post, t = pre ++ x :: post → needs x → ∃ y ∈ pre, backs x y

variable {answers backs : Call ℓ σ → Call ℓ σ → Prop} {owes needs : Call ℓ σ → Prop}

lemma answered_nil : Answered owes answers [] := by
  intro pre x post h
  simp at h

variable {t : List (Call ℓ σ)}

variable {x : Call ℓ σ} {c d : Call ℓ σ → Prop}

lemma answered_cons_iff :
    Answered owes answers (x :: t) ↔
      (owes x → ∃ y ∈ t, answers x y) ∧ Answered owes answers t := by
  constructor
  · refine fun h => ⟨h [] x t rfl, fun pre y post ht => h (x :: pre) y post ?_⟩
    rw [ht, List.cons_append]
  rintro ⟨hx, ht⟩ pre y post h
  cases pre with
  | nil =>
    obtain ⟨rfl, rfl⟩ := List.cons_eq_cons.1 h
    exact hx
  | cons z pre =>
    obtain ⟨rfl, rfl⟩ := List.cons_eq_cons.1 h
    exact ht pre y post rfl

instance decidableAnswered {owes : Call ℓ σ → Prop} {answers : Call ℓ σ → Call ℓ σ → Prop}
    [DecidablePred owes] [∀ x, DecidablePred (answers x)] :
    (t : List (Call ℓ σ)) → Decidable (Answered owes answers t)
  | [] => isTrue answered_nil
  | _ :: t =>
    have : Decidable (Answered owes answers t) := decidableAnswered t
    decidable_of_iff _ answered_cons_iff.symm

lemma backed_singleton (h : ¬ needs x) : Backed needs backs [x] := by
  intro pre y post hsplit hneeds
  have hmem : y ∈ [x] := hsplit ▸ List.mem_append_right _ List.mem_cons_self
  obtain rfl := List.mem_singleton.1 hmem
  exact absurd hneeds h

lemma Backed.concat (h : Backed needs backs t) (hx : needs x → ∃ y ∈ t, backs x y) :
    Backed needs backs (t ++ [x]) := by
  intro pre y post hsplit hneeds
  rcases List.eq_nil_or_concat post with rfl | ⟨post', z, rfl⟩
  · obtain ⟨rfl, hxy⟩ := List.append_inj' hsplit rfl
    obtain rfl := (List.cons_eq_cons.1 hxy).1
    exact hx hneeds
  · rw [List.concat_eq_append, ← List.cons_append, ← List.append_assoc] at hsplit
    obtain ⟨rfl, -⟩ := List.append_inj' hsplit rfl
    exact h pre y post' rfl hneeds

lemma mergeable_answered (c owes : Call ℓ σ → Prop) (answers : Call ℓ σ → Call ℓ σ → Prop) :
    Mergeable fun t : List (Call ℓ σ) => (∀ x ∈ t, c x) → Answered owes answers t := by
  intro ts w hmerge h hc pre x post hw howes
  obtain ⟨t, ht, pre', post', rfl, -, hpost⟩ := hmerge.exists_split hw
  obtain ⟨y, hy, hanswers⟩ :=
    h _ ht (fun z hz => hc z ((hmerge.sublist ht).subset hz)) pre' x post' rfl howes
  exact ⟨y, hpost.subset hy, hanswers⟩

lemma mergeable_backed (needs : Call ℓ σ → Prop) (backs : Call ℓ σ → Call ℓ σ → Prop) :
    Mergeable (Backed needs backs) := by
  intro ts w hmerge h pre x post hw hneeds
  obtain ⟨t, ht, pre', post', rfl, hpre, -⟩ := hmerge.exists_split hw
  obtain ⟨y, hy, hbacks⟩ := h _ ht pre' x post' rfl hneeds
  exact ⟨y, hpre.subset hy, hbacks⟩

def While (c d : Call ℓ σ → Prop) (t : List (Call ℓ σ)) : Prop :=
  ∀ pre x post, t = pre ++ x :: post → (∀ y ∈ pre, c y) → d x

lemma while_cons_iff : While c d (x :: t) ↔ d x ∧ (c x → While c d t) := by
  constructor
  · intro h
    refine ⟨h [] x t rfl nofun, fun hx pre y post ht hpre => ?_⟩
    exact h (x :: pre) y post (by rw [ht, List.cons_append]) (List.forall_mem_cons.2 ⟨hx, hpre⟩)
  rintro ⟨hx, ht⟩ pre y post h hpre
  cases pre with
  | nil =>
    obtain ⟨rfl, rfl⟩ := List.cons_eq_cons.1 h
    exact hx
  | cons z pre =>
    obtain ⟨rfl, rfl⟩ := List.cons_eq_cons.1 h
    obtain ⟨hz, hpre⟩ := List.forall_mem_cons.1 hpre
    exact ht hz pre y post rfl hpre

lemma mergeable_while (c d : Call ℓ σ → Prop) : Mergeable (While c d) := by
  intro ts w hmerge h pre x post hw hc
  obtain ⟨t, ht, pre', post', rfl, hpre, -⟩ := hmerge.exists_split hw
  exact h _ ht pre' x post' rfl fun y hy => hc y (hpre.subset hy)

lemma while_singleton (h : d x) : While c d [x] :=
  while_cons_iff.2 ⟨h, fun _ pre y post hnil => by simp at hnil⟩

lemma paths_while_attempt (hl : ∀ s done, d ⟨l, s, done⟩)
    (hf : ∀ s, c ⟨l, s, false⟩ → Paths (While c d) failed)
    (hk : ∀ s, c ⟨l, s, true⟩ → Paths (While c d) (k s)) :
    Paths (While c d) (attempt l failed k) := by
  intro t a h
  rcases path_attempt_iff.1 h with ⟨s, u, rfl, hu⟩ | ⟨s, u, rfl, hu⟩
  · exact while_cons_iff.2 ⟨hl s true, fun hc => hk s hc u a hu⟩
  · exact while_cons_iff.2 ⟨hl s false, fun hc => hf s hc u a hu⟩

lemma paths_while_ignore {k : Proc ℓ σ α} (hl : ∀ s done, d ⟨l, s, done⟩)
    (hk : ∀ s done, c ⟨l, s, done⟩ → Paths (While c d) k) : Paths (While c d) (ignore l k) := by
  intro t a h
  obtain ⟨s, done, u, rfl, hu⟩ := path_ignore_iff.1 h
  exact while_cons_iff.2 ⟨hl s done, fun hc => hk s done hc u a hu⟩

lemma while_map_iff {c d : Call ℓ' σ → Prop} {f : ℓ → ℓ'} :
    While c d (t.map (Call.relabel f)) ↔
      While (fun x => c (x.relabel f)) (fun x => d (x.relabel f)) t := by
  induction t with
  | nil => exact iff_of_true (fun pre x post h => by simp at h) fun pre x post h => by simp at h
  | cons x t ih => rw [List.map_cons, while_cons_iff, while_cons_iff, ih]

lemma paths_while_mapLabel {c d : Call ℓ' σ → Prop} {f : ℓ → ℓ'} {p : Proc ℓ σ α}
    (h : Paths (While (fun x => c (x.relabel f)) fun x => d (x.relabel f)) p) :
    Paths (While c d) (p.mapLabel f) :=
  paths_mapLabel fun t a ht => while_map_iff.2 (h t a ht)

lemma mergeable_forall (c : Call ℓ σ → Prop) :
    Mergeable fun t : List (Call ℓ σ) => ∀ x ∈ t, c x := by
  intro ts w hmerge h x hx
  obtain ⟨pre, post, hw⟩ := List.append_of_mem hx
  obtain ⟨t, ht, pre', post', rfl, -, -⟩ := hmerge.exists_split hw
  exact h _ ht x (by simp)

lemma mergeable_countP (p q : Call ℓ σ → Bool) :
    Mergeable fun t : List (Call ℓ σ) => t.countP p ≤ t.countP q := by
  intro ts w hmerge h
  rw [hmerge.countP_eq, hmerge.countP_eq]
  exact List.sum_le_sum h

lemma mergeable_count_eq [DecidableEq β] (c : Call ℓ σ → Prop) (f g : Call ℓ σ → Option β) :
    Mergeable fun t : List (Call ℓ σ) => (∀ x ∈ t, c x) →
      ∀ b, (t.filterMap f).count b = (t.filterMap g).count b := by
  intro ts w hmerge h hc b
  rw [hmerge.count_filterMap, hmerge.count_filterMap]
  refine congrArg List.sum (List.map_congr_left fun t ht => h t ht (fun x hx => hc x ?_) b)
  exact (hmerge.sublist ht).subset hx

end Properties

end Proc

end Stablenode
