import Mathlib

/-! A map that is filled from a list keeps the last element of every key. -/
namespace Stablenode

section LastByKey

variable {ε δ κ : Type} [DecidableEq κ] {key : ε → κ} {es : List ε} {e : ε} {k : κ}

def lastByKey (key : ε → κ) (es : List ε) : κ → Option ε :=
  es.foldl (fun m e => Function.update m (key e) (some e)) fun _ => none

@[simp] lemma lastByKey_nil (k : κ) : lastByKey key ([] : List ε) k = none := rfl

lemma lastByKey_concat (es : List ε) (e : ε) (k : κ) :
    lastByKey key (es ++ [e]) k = if key e = k then some e else lastByKey key es k := by
  simp only [lastByKey, List.foldl_append, List.foldl_cons, List.foldl_nil, Function.update_apply,
    eq_comm]

lemma mem_of_lastByKey (h : lastByKey key es k = some e) : e ∈ es ∧ key e = k := by
  induction es using List.reverseRecOn with
  | nil => cases h
  | append_singleton es d ih =>
    rw [lastByKey_concat] at h
    split_ifs at h with hd
    · obtain rfl := Option.some.inj h
      exact ⟨by simp, hd⟩
    · obtain ⟨hmem, hkey⟩ := ih h
      exact ⟨by simp [hmem], hkey⟩

lemma exists_lastByKey (h : k ∈ es.map key) : ∃ e, lastByKey key es k = some e := by
  induction es using List.reverseRecOn with
  | nil => simp at h
  | append_singleton es d ih =>
    rw [lastByKey_concat]
    split_ifs with hd
    · exact ⟨d, rfl⟩
    · refine ih ?_
      simpa [Ne.symm hd] using h

lemma lastByKey_key (hnodup : (es.map key).Nodup) (he : e ∈ es) :
    lastByKey key es (key e) = some e := by
  obtain ⟨d, hd⟩ := exists_lastByKey (List.mem_map_of_mem (f := key) he)
  obtain ⟨hmem, hkey⟩ := mem_of_lastByKey hd
  rwa [List.inj_on_of_nodup_map hnodup hmem he hkey] at hd

lemma lastByKey_map (f : δ → ε) (ds : List δ) (k : κ) :
    lastByKey key (ds.map f) k = (lastByKey (key ∘ f) ds k).map f := by
  induction ds using List.reverseRecOn with
  | nil => rfl
  | append_singleton ds d ih =>
    rw [List.map_append, List.map_singleton, lastByKey_concat, lastByKey_concat, ih]
    simp only [Function.comp_apply]
    split_ifs <;> rfl

lemma filterMap_lastByKey_keys (hnodup : (es.map key).Nodup) :
    (es.map key).filterMap (lastByKey key es) = es := by
  rw [List.filterMap_map]
  have hfound : ∀ e ∈ es, (lastByKey key es ∘ key) e = some e := fun e he =>
    lastByKey_key hnodup he
  rw [List.filterMap_congr hfound, List.filterMap_some]

lemma count_filterMap_lastByKey [BEq ε] [LawfulBEq ε] (hnodup : (es.map key).Nodup) (he : e ∈ es)
    (ks : List κ) : (ks.filterMap (lastByKey key es)).count e = ks.count (key e) := by
  rw [List.count_filterMap, List.count_eq_countP]
  refine List.countP_congr fun k _ => ?_
  rw [beq_iff_eq, beq_iff_eq]
  constructor
  · intro hk
    exact (mem_of_lastByKey hk).2.symm
  · rintro rfl
    exact lastByKey_key hnodup he

variable {ks : List κ}

lemma map_key_filterMap (hks : ∀ k ∈ ks, k ∈ es.map key) :
    (ks.filterMap (lastByKey key es)).map key = ks := by
  induction ks with
  | nil => rfl
  | cons k ks ih =>
    rw [List.forall_mem_cons] at hks
    obtain ⟨e, he⟩ := exists_lastByKey hks.1
    rw [List.filterMap_cons_some he, List.map_cons, ih hks.2, (mem_of_lastByKey he).2]

theorem filterMap_lastByKey_perm_iff (hks : ∀ k ∈ ks, k ∈ es.map key) (hes : es.Nodup) :
    (ks.filterMap (lastByKey key es)).Perm es ↔ (es.map key).Nodup ∧ ks.Perm (es.map key) := by
  constructor
  · intro hperm
    -- an element that is found is the last one of its key
    have hlast : ∀ e ∈ es, lastByKey key es (key e) = some e := by
      intro e he
      obtain ⟨k, -, hk⟩ := List.mem_filterMap.1 (hperm.mem_iff.2 he)
      rwa [(mem_of_lastByKey hk).2]
    have hinj : ∀ d ∈ es, ∀ e ∈ es, key d = key e → d = e := by
      intro d hd e he hde
      have hfound := hlast d hd
      rw [hde, hlast e he] at hfound
      exact (Option.some.inj hfound).symm
    refine ⟨(List.nodup_map_iff_inj_on hes).2 hinj, ?_⟩
    have hkeys := hperm.map key
    rwa [map_key_filterMap hks] at hkeys
  · rintro ⟨hnodup, hperm⟩
    have hfound := hperm.filterMap (lastByKey key es)
    rwa [filterMap_lastByKey_keys hnodup] at hfound

end LastByKey

end Stablenode
