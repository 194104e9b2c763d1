import Mathlib

/-! Hashes as lists of named fields, written field by field in place. -/
namespace Stablenode.Fields

variable {κ ν : Type} [DecidableEq κ]

def setField (fields : List (κ × ν)) (f : κ × ν) : List (κ × ν) :=
  if f.1 ∈ fields.map Prod.fst then fields.map fun g => if g.1 = f.1 then f else g
  else fields ++ [f]

def setFields (fields new : List (κ × ν)) : List (κ × ν) := new.foldl setField fields

def Holds (fields : List (κ × ν)) (f : κ × ν) : Prop :=
  f ∈ fields ∧ ∀ g ∈ fields, g.1 = f.1 → g = f

instance [DecidableEq ν] (fields : List (κ × ν)) (f : κ × ν) : Decidable (Holds fields f) :=
  inferInstanceAs (Decidable (_ ∧ _))

variable {fields new : List (κ × ν)} {f g : κ × ν}

lemma Holds.find? (h : Holds fields f) : fields.find? (fun g => g.1 = f.1) = some f := by
  have hsome : (fields.find? fun g => g.1 = f.1).isSome := by
    simpa using ⟨f.2, h.1⟩
  obtain ⟨g, hg⟩ := Option.isSome_iff_exists.1 hsome
  have hkey : g.1 = f.1 := by simpa using List.find?_some hg
  rw [hg, h.2 g (List.mem_of_find?_eq_some hg) hkey]

lemma setField_of_holds (h : Holds fields f) : setField fields f = fields := by
  rw [setField, if_pos (List.mem_map_of_mem h.1)]
  refine (List.map_congr_left fun g hg => ?_).trans (List.map_id fields)
  split_ifs with hkey
  · exact (h.2 g hg hkey).symm
  · rfl

lemma holds_setField (fields : List (κ × ν)) (f : κ × ν) : Holds (setField fields f) f := by
  rw [setField]
  split_ifs with hmem
  · obtain ⟨g, hg, hkey⟩ := List.mem_map.1 hmem
    refine ⟨List.mem_map.2 ⟨g, hg, if_pos hkey⟩, fun g' hg' hkey' => ?_⟩
    obtain ⟨g, -, rfl⟩ := List.mem_map.1 hg'
    by_cases hg : g.1 = f.1
    · exact if_pos hg
    · rw [if_neg hg] at hkey'
      exact absurd hkey' hg
  · refine ⟨by simp, fun g hg hkey => ?_⟩
    rcases List.mem_append.1 hg with hg | hg
    · exact absurd (hkey ▸ List.mem_map_of_mem hg) hmem
    · exact List.mem_singleton.1 hg

lemma Holds.setField (h : Holds fields f) (hne : g.1 ≠ f.1) : Holds (setField fields g) f := by
  rw [Fields.setField]
  split_ifs
  · refine ⟨List.mem_map.2 ⟨f, h.1, if_neg hne.symm⟩, fun g' hg' hkey' => ?_⟩
    obtain ⟨g', hmem, rfl⟩ := List.mem_map.1 hg'
    by_cases hg : g'.1 = g.1
    · rw [if_pos hg] at hkey'
      exact absurd hkey' hne
    · rw [if_neg hg] at hkey' ⊢
      exact h.2 g' hmem hkey'
  · refine ⟨List.mem_append_left _ h.1, fun g' hg' hkey' => ?_⟩
    rcases List.mem_append.1 hg' with hg' | hg'
    · exact h.2 g' hg' hkey'
    · rw [List.mem_singleton.1 hg'] at hkey'
      exact absurd hkey' hne

lemma Holds.setFields (h : Holds fields f) (hne : f.1 ∉ new.map Prod.fst) :
    Holds (setFields fields new) f := by
  induction new generalizing fields with
  | nil => exact h
  | cons g new ih =>
    rw [List.map_cons, List.mem_cons, not_or] at hne
    exact ih (h.setField (Ne.symm hne.1)) hne.2

lemma holds_setFields (fields : List (κ × ν)) (hnew : (new.map Prod.fst).Nodup) (hf : f ∈ new) :
    Holds (setFields fields new) f := by
  induction new generalizing fields with
  | nil => cases hf
  | cons g new ih =>
    rw [List.map_cons, List.nodup_cons] at hnew
    rcases List.mem_cons.1 hf with rfl | hmem
    · exact (holds_setField fields f).setFields hnew.1
    · exact ih _ hnew.2 hmem

theorem setFields_eq_self_iff (hnew : (new.map Prod.fst).Nodup) :
    setFields fields new = fields ↔ ∀ f ∈ new, Holds fields f := by
  refine ⟨fun h f hf => h ▸ holds_setFields fields hnew hf, fun h => ?_⟩
  clear hnew
  induction new with
  | nil => rfl
  | cons g new ih =>
    rw [setFields, List.foldl_cons, setField_of_holds (h g (by simp))]
    exact ih fun f hf => h f (by simp [hf])

end Stablenode.Fields
