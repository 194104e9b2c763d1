import Stablenode.Traces

/-! Numbered processes: each call of an interleaving carries the number of its process. -/
namespace Stablenode.Proc

variable {ℓ σ α : Type} {exec : ℓ → σ → σ}

def numbered (ps : List (Proc ℓ σ α)) : List (Proc (ℕ × ℓ) σ Unit) :=
  ps.mapIdx fun i p => (p.mapLabel (Prod.mk i)).discard

def execNumbered (exec : ℓ → σ → σ) (l : ℕ × ℓ) (s : σ) : σ := exec l.2 s

def session (i : ℕ) (t : List (Call (ℕ × ℓ) σ)) : List (Call ℓ σ) :=
  (t.filter fun x => x.label.1 = i).map (Call.relabel Prod.snd)

lemma session_append (i : ℕ) (t u : List (Call (ℕ × ℓ) σ)) :
    session i (t ++ u) = session i t ++ session i u := by
  simp [session]

lemma session_cons_self (x : Call (ℕ × ℓ) σ) (t : List (Call (ℕ × ℓ) σ)) :
    session x.label.1 (x :: t) = x.relabel Prod.snd :: session x.label.1 t := by
  simp [session]

lemma mem_session {i : ℕ} {t : List (Call (ℕ × ℓ) σ)} {y : Call ℓ σ} :
    y ∈ session i t ↔ (⟨(i, y.label), y.state, y.done⟩ : Call (ℕ × ℓ) σ) ∈ t := by
  rw [session, List.mem_map]
  constructor
  · rintro ⟨⟨⟨j, l⟩, s, done⟩, hx, rfl⟩
    obtain ⟨hmem, hj⟩ := List.mem_filter.1 hx
    obtain rfl : j = i := by simpa using hj
    exact hmem
  · exact fun h => ⟨_, List.mem_filter.2 ⟨h, by simp⟩, rfl⟩

variable {t : List (Call ℓ σ)} {p : Proc ℓ σ α} {P : Call ℓ σ → Prop}

lemma path_discard (h : Path p.discard t ()) : ∃ a, Path p t a := by
  obtain ⟨u, v, a, rfl, hu, hv⟩ := path_bind h
  obtain ⟨rfl, -⟩ := path_ret_iff.1 hv
  exact ⟨a, (List.append_nil u).symm ▸ hu⟩

section Paths

variable {ps : List (Proc ℓ σ α)} {schedule : List ℕ} {t : List (Call (ℕ × ℓ) σ)}

variable (h : Path (interleave schedule (numbered ps)) t ())
include h

lemma exists_merge_numbered :
    ∃ ts, Merge ts t ∧ ts.length = ps.length ∧ ∀ (i : ℕ) u, ts[i]? = some u →
      ∃ p v a, ps[i]? = some p ∧ u = v.map (Call.relabel (Prod.mk i)) ∧ Path p v a := by
  obtain ⟨ts, hts, hmerge⟩ := path_interleave schedule h
  refine ⟨ts, hmerge, ?_, fun i u hu => ?_⟩
  · rw [← hts.length_eq, numbered, List.length_mapIdx]
  obtain ⟨q, hq, hpath⟩ := exists_of_forall₂ hts.flip hu
  rw [numbered, List.getElem?_mapIdx, Option.map_eq_some_iff] at hq
  obtain ⟨p, hp, rfl⟩ := hq
  obtain ⟨a, hv⟩ := path_discard hpath
  obtain ⟨v, rfl, hv'⟩ := path_mapLabel hv
  exact ⟨p, v, a, hp, rfl, hv'⟩

variable {x : Call (ℕ × ℓ) σ}

lemma exists_process (hx : x ∈ t) : ∃ p, ps[x.label.1]? = some p := by
  obtain ⟨ts, hmerge, -, hts⟩ := exists_merge_numbered h
  obtain ⟨u, hu, hxu⟩ := List.mem_flatten.1 (hmerge.perm.subset hx)
  obtain ⟨i, hi⟩ := List.mem_iff_getElem?.1 hu
  obtain ⟨p, v, a, hp, rfl, -⟩ := hts i u hi
  obtain ⟨y, -, rfl⟩ := List.mem_map.1 hxu
  exact ⟨p, hp⟩

theorem path_session {i : ℕ} (hp : ps[i]? = some p) : ∃ a, Path p (session i t) a := by
  obtain ⟨ts, hmerge, hlen, hts⟩ := exists_merge_numbered h
  have hlt : i < ts.length := hlen ▸ (List.getElem?_eq_some_iff.1 hp).1
  obtain ⟨p', v, a, hp', hu, hpath⟩ := hts i ts[i] (List.getElem?_eq_getElem hlt)
  obtain rfl := Option.some.inj (hp.symm.trans hp')
  have hfilter : t.filter (fun x => x.label.1 = i) = ts[i].filter fun x => x.label.1 = i := by
    refine hmerge.filter_eq (List.getElem?_eq_getElem hlt) fun j w hj hw x hx => ?_
    obtain ⟨-, v', -, -, rfl, -⟩ := hts j w hw
    obtain ⟨y, -, rfl⟩ := List.mem_map.1 hx
    exact decide_eq_false hj
  have hsession : session i t = v := by
    rw [session, hfilter, hu, List.filter_eq_self.2, List.map_map]
    · exact List.map_id v
    · intro x hx
      obtain ⟨y, -, rfl⟩ := List.mem_map.1 hx
      exact decide_eq_true rfl
  exact ⟨a, hsession ▸ hpath⟩

omit h

lemma backed_session {needs : Call ℓ σ → Prop} {backs : Call ℓ σ → Call ℓ σ → Prop}
    (hps : ∀ p ∈ ps, Paths (Backed needs backs) p)
    (h : Path (interleave schedule (numbered ps)) t ()) {pre post : List (Call (ℕ × ℓ) σ)}
    (ht : t = pre ++ x :: post) (hx : needs (x.relabel Prod.snd)) :
    ∃ y, (⟨(x.label.1, y.label), y.state, y.done⟩ : Call (ℕ × ℓ) σ) ∈ pre ∧
      backs (x.relabel Prod.snd) y := by
  obtain ⟨p, hp⟩ := exists_process h (ht ▸ List.mem_append_right pre List.mem_cons_self)
  obtain ⟨a, hpath⟩ := path_session h hp
  rw [ht, session_append, session_cons_self] at hpath
  obtain ⟨y, hy, hbacks⟩ := hps p (List.mem_of_getElem? hp) _ a hpath _ _ _ rfl hx
  exact ⟨y, mem_session.1 hy, hbacks⟩

end Paths

end Stablenode.Proc
