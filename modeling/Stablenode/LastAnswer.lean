import Mathlib.Data.List.Perm.Basic
import Mathlib.Data.List.Basic
import Mathlib.Order.Lattice
import Mathlib.Order.MinMax
import Mathlib.Tactic

/-! Scans of sources in any order: exact answers are always taken, substitutes with a bound above
all before. -/
namespace Stablenode

inductive Answer (β : Type) where
  | missing
  | exact (value : β) (raises : Bool)
  | substitute (value : β)
  deriving DecidableEq

namespace Answer

variable {κ β γ : Type} [LinearOrder γ]

def apply (bound : γ) (state : β × γ) : Answer β → β × γ
  | missing => state
  | exact value raises => (value, if raises then max state.2 bound else state.2)
  | substitute value => if state.2 < bound then (value, bound) else state

def scan (bound : κ → γ) (answer : κ → Answer β) (start : β × γ) (keys : List κ) : β × γ :=
  keys.foldl (fun state key => (answer key).apply (bound key) state) start

variable {bound : κ → γ} {answer : κ → Answer β} {start : β × γ} {keys : List κ}

lemma scan_append (keys' : List κ) :
    scan bound answer start (keys ++ keys') =
      scan bound answer (scan bound answer start keys) keys' :=
  List.foldl_append

lemma scan_concat (key : κ) :
    scan bound answer start (keys ++ [key]) =
      (answer key).apply (bound key) (scan bound answer start keys) :=
  scan_append [key]

lemma le_apply (a : Answer β) (b : γ) (state : β × γ) : state.2 ≤ (a.apply b state).2 := by
  cases a with
  | missing => exact le_rfl
  | exact value raises => cases raises <;> simp [apply]
  | substitute value =>
    rw [apply]
    split
    next h => exact h.le
    · exact le_rfl

lemma le_scan : start.2 ≤ (scan bound answer start keys).2 := by
  induction keys using List.reverseRecOn with
  | nil => exact le_rfl
  | append_singleton keys key ih =>
    rw [scan_concat]
    exact ih.trans (le_apply _ _ _)

def Raises : Answer β → Prop
  | missing => False
  | exact _ raises => raises = true
  | substitute _ => True

variable {a : Answer β}

lemma Raises.bound_le (h : a.Raises) (b : γ) (state : β × γ) : b ≤ (a.apply b state).2 := by
  cases a with
  | missing => exact h.elim
  | exact value raises =>
    obtain rfl : raises = true := h
    simp [apply]
  | substitute value =>
    rw [apply]
    split
    · exact le_rfl
    next hle => exact not_lt.1 hle

lemma bound_le_scan {key : κ} (hkey : key ∈ keys) (h : (answer key).Raises) :
    bound key ≤ (scan bound answer start keys).2 := by
  induction keys using List.reverseRecOn with
  | nil => cases hkey
  | append_singleton keys last ih =>
    rw [scan_concat]
    rcases List.mem_append.1 hkey with hin | hlast
    · exact (ih hin).trans (le_apply _ _ _)
    · obtain rfl := List.mem_singleton.1 hlast
      exact h.bound_le _ _

def IsExact (a : Answer β) : Prop := ∃ value raises, a = exact value raises

def isSubstitute : Answer β → Bool
  | substitute _ => true
  | _ => false

lemma isSubstitute_iff : a.isSubstitute = true ↔ ∃ value, a = substitute value := by
  cases a <;> simp [isSubstitute]

def Settled (bound : κ → γ) (answer : κ → Answer β) (start : γ) (keys : List κ) (state : β × γ) :
    Prop :=
  (∃ key ∈ keys, ∃ raises, answer key = exact state.1 raises) ∨
    ∃ key ∈ keys, answer key = substitute state.1 ∧ bound key = state.2 ∧ start < bound key ∧
      ∀ key' ∈ keys, ∀ value, answer key' = exact value true → bound key' < bound key

lemma Settled.concat {start : γ} {state : β × γ} (h : Settled bound answer start keys state)
    {last : κ} (hlast : ¬ (answer last).IsExact) :
    Settled bound answer start (keys ++ [last]) state := by
  rcases h with ⟨key, hkey, raises, hvalue⟩ | ⟨key, hkey, hvalue, hbound, hstart, habove⟩
  · exact .inl ⟨key, List.mem_append_left _ hkey, raises, hvalue⟩
  refine .inr ⟨key, List.mem_append_left _ hkey, hvalue, hbound, hstart, fun key' hkey' value h => ?_⟩
  rcases List.mem_append.1 hkey' with hin | hin
  · exact habove key' hin value h
  · obtain rfl := List.mem_singleton.1 hin
    exact (hlast ⟨value, true, h⟩).elim

lemma settled_scan (hexact : ∃ key ∈ keys, (answer key).IsExact) :
    Settled bound answer start.2 keys (scan bound answer start keys) := by
  induction keys using List.reverseRecOn with
  | nil => simp at hexact
  | append_singleton keys last ih =>
    -- if the last source is not exact, an exact one came before it
    have hbefore : ¬ (answer last).IsExact → ∃ key ∈ keys, (answer key).IsExact := by
      intro hlast
      obtain ⟨key, hkey, h⟩ := hexact
      rcases List.mem_append.1 hkey with hin | hin
      · exact ⟨key, hin, h⟩
      · exact (hlast (List.mem_singleton.1 hin ▸ h)).elim
    rw [scan_concat]
    cases hlast : answer last with
    | exact value raises => exact .inl ⟨last, by simp, raises, hlast⟩
    | missing =>
      have hnot : ¬ (answer last).IsExact := by simp [hlast, IsExact]
      exact (ih (hbefore hnot)).concat hnot
    | substitute value =>
      have hnot : ¬ (answer last).IsExact := by simp [hlast, IsExact]
      rw [apply]
      split
      next hless =>
        refine .inr ⟨last, by simp, hlast, rfl, le_scan.trans_lt hless, fun key' hkey' v h => ?_⟩
        rcases List.mem_append.1 hkey' with hin | hin
        · have hraises : (answer key').Raises := by simp [h, Raises]
          exact (bound_le_scan hin hraises).trans_lt hless
        · obtain rfl := List.mem_singleton.1 hin
          exact (hnot ⟨v, true, h⟩).elim
      · exact (ih (hbefore hnot)).concat hnot

lemma scan_eq_self (h : ∀ key ∈ keys, ∃ value, answer key = substitute value ∧ bound key ≤ start.2)
    :
    scan bound answer start keys = start := by
  induction keys with
  | nil => rfl
  | cons key keys ih =>
    obtain ⟨value, hvalue, hle⟩ := h key (List.mem_cons_self ..)
    have hfirst : (answer key).apply (bound key) start = start := by
      rw [hvalue, apply, if_neg (not_lt.2 hle)]
    rw [scan, List.foldl_cons, hfirst]
    exact ih fun key' hkey' => h key' (List.mem_cons_of_mem key hkey')

lemma scan_cases (hbound : ∀ key ∈ keys, start.2 < bound key) :
    ((∀ key ∈ keys, answer key = missing) ∧ scan bound answer start keys = start) ∨
      ∃ key ∈ keys, (∃ raises, answer key = exact (scan bound answer start keys).1 raises) ∨
        answer key = substitute (scan bound answer start keys).1 := by
  induction keys using List.reverseRecOn with
  | nil => exact .inl ⟨by simp, rfl⟩
  | append_singleton keys last ih =>
    have hkeys := ih fun key hkey => hbound key (List.mem_append_left _ hkey)
    have hmem : last ∈ keys ++ [last] := by simp
    have hearlier {value : β} : (∃ key ∈ keys, (∃ raises, answer key = exact value raises) ∨
        answer key = substitute value) → ∃ key ∈ keys ++ [last],
          (∃ raises, answer key = exact value raises) ∨ answer key = substitute value :=
      fun ⟨key, hkey, h⟩ => ⟨key, List.mem_append_left _ hkey, h⟩
    rw [scan_concat]
    cases hlast : answer last with
    | missing =>
      refine hkeys.imp (fun ⟨hmissing, hscan⟩ => ⟨fun key hkey => ?_, hscan⟩) hearlier
      rcases List.mem_append.1 hkey with hin | hin
      · exact hmissing key hin
      · rw [List.mem_singleton.1 hin, hlast]
    | exact value raises => exact .inr ⟨last, hmem, .inl ⟨raises, hlast⟩⟩
    | substitute value =>
      rw [apply]
      split
      · exact .inr ⟨last, hmem, .inr hlast⟩
      next hless =>
        refine hkeys.elim (fun ⟨_, hscan⟩ => absurd (hbound last hmem) ?_) fun h => .inr (hearlier h)
        rwa [hscan] at hless

lemma scan_lt {b : γ} (hstart : start.2 < b)
    (h : ∀ key ∈ keys, ∀ value, answer key ≠ substitute value)
    (hexact : ∀ key ∈ keys, ∀ value, answer key = exact value true → bound key < b) :
    (scan bound answer start keys).2 < b := by
  induction keys using List.reverseRecOn with
  | nil => exact hstart
  | append_singleton keys last ih =>
    have hkeys := ih (fun key hkey => h key (List.mem_append_left _ hkey))
      fun key hkey => hexact key (List.mem_append_left _ hkey)
    have hmem : last ∈ keys ++ [last] := by simp
    rw [scan_concat]
    cases hlast : answer last with
    | missing => exact hkeys
    | substitute value => exact (h last hmem value hlast).elim
    | exact value raises =>
      cases raises with
      | false => exact hkeys
      | true =>
        rw [apply, if_pos rfl]
        exact max_lt hkeys (hexact last hmem value hlast)

theorem forall_perm_scan_iff [DecidableEq κ] {good : β → Prop}
    (hexact : ∃ key ∈ keys, (answer key).IsExact) :
    (∀ keys', keys'.Perm keys → good (scan bound answer start keys').1) ↔
      (∀ key ∈ keys, ∀ value raises, answer key = exact value raises → good value) ∧
      ∀ key ∈ keys, ∀ value, answer key = substitute value → start.2 < bound key →
        (∀ key' ∈ keys, ∀ v, answer key' = exact v true → bound key' < bound key) →
        (∀ key' ∈ keys, ∀ v, answer key' = substitute v → bound key' ≤ bound key) → good value := by
  constructor
  · intro h
    refine ⟨fun key hkey value raises hvalue => ?_, fun key hkey value hvalue hstart habove hmax => ?_⟩
    · -- the exact source comes last
      have hperm : (keys.erase key ++ [key]).Perm keys :=
        (List.perm_append_singleton key _).trans (List.perm_cons_erase hkey).symm
      have hgood := h _ hperm
      rwa [scan_concat, hvalue] at hgood
    -- the substitute comes after all sources that are not substitutes
    have hin : key ∈ keys.filter fun key => (answer key).isSubstitute :=
      List.mem_filter.2 ⟨hkey, isSubstitute_iff.2 ⟨value, hvalue⟩⟩
    have hperm : (keys.filter (fun key => !(answer key).isSubstitute) ++
        key :: (keys.filter fun key => (answer key).isSubstitute).erase key).Perm keys := by
      refine ((List.perm_cons_erase hin).symm.append_left _).trans ?_
      exact List.perm_append_comm.trans (List.filter_append_perm _ keys)
    have hgood := h _ hperm
    have hlow : (scan bound answer start (keys.filter fun key => !(answer key).isSubstitute)).2 <
        bound key := by
      refine scan_lt hstart (fun key' hkey' v hv => ?_) fun key' hkey' =>
        habove key' (List.mem_filter.1 hkey').1
      have hnot := (List.mem_filter.1 hkey').2
      rw [hv] at hnot
      cases hnot
    rw [scan_append, ← List.singleton_append, scan_append] at hgood
    have hset : scan bound answer
        (scan bound answer start (keys.filter fun key => !(answer key).isSubstitute)) [key] =
          (value, bound key) := by
      rw [scan, List.foldl_cons, List.foldl_nil, hvalue, apply, if_pos hlow]
    rwa [hset, scan_eq_self] at hgood
    intro key' hkey'
    obtain ⟨hmem, hsub⟩ := List.mem_filter.1 (List.mem_of_mem_erase hkey')
    obtain ⟨v, hv⟩ := isSubstitute_iff.1 hsub
    exact ⟨v, hv, hmax key' hmem v hv⟩
  · rintro ⟨hgood, hsubstitute⟩ keys' hperm
    have hexact' : ∃ key ∈ keys', (answer key).IsExact := by
      obtain ⟨key, hkey, h⟩ := hexact
      exact ⟨key, hperm.mem_iff.2 hkey, h⟩
    have hsettled : Settled bound answer start.2 keys' (scan bound answer start keys') :=
      settled_scan hexact'
    rcases hsettled with
      ⟨key, hkey, raises, hvalue⟩ | ⟨key, hkey, hvalue, hbound, hstart, habove⟩
    · exact hgood key (hperm.mem_iff.1 hkey) _ raises hvalue
    refine hsubstitute key (hperm.mem_iff.1 hkey) _ hvalue hstart
      (fun key' hkey' => habove key' (hperm.mem_iff.2 hkey')) fun key' hkey' v hv => ?_
    rw [hbound]
    exact bound_le_scan (hperm.mem_iff.2 hkey') (by simp [hv, Raises])

end Answer

end Stablenode
