import Mathlib

/-! Tables of rows with a unique key. -/
namespace Stablenode

structure Table {κ α : Type} (key : α → κ) where
  rows : List α
  nodup_keys : (rows.map key).Nodup
  deriving DecidableEq

inductive QueryError where
  | notFound
  | notSingular
  deriving DecidableEq

def only {α : Type} : List α → Except QueryError α
  | [] => .error .notFound
  | [a] => .ok a
  | _ :: _ :: _ => .error .notSingular

variable {α : Type}

lemma only_eq_ok_iff {as : List α} {a : α} : only as = .ok a ↔ as = [a] := by
  rcases as with _ | ⟨b, _ | ⟨c, cs⟩⟩ <;> simp [only]

lemma only_eq_notFound_iff {as : List α} : only as = .error .notFound ↔ as = [] := by
  rcases as with _ | ⟨b, _ | ⟨c, cs⟩⟩ <;> simp [only]

lemma only_ne_notSingular {as : List α} (h : as.length ≤ 1) : only as ≠ .error .notSingular := by
  rcases as with _ | ⟨b, _ | ⟨c, cs⟩⟩ <;> simp [only] at h ⊢

namespace Table

variable {κ : Type} {key : α → κ}

instance [DecidableEq α] : DecidableEq (Table key) := fun s t =>
  decidable_of_iff (s.rows = t.rows) ⟨fun h => by cases s; cases t; simpa using h, fun h => h ▸ rfl⟩

def empty : Table key := ⟨[], List.nodup_nil⟩

def single (a : α) : Table key := ⟨[a], List.nodup_singleton _⟩

@[simp] lemma rows_single (a : α) : (single a : Table key).rows = [a] := rfl

def select (t : Table key) (p : α → Bool) : List α := t.rows.filter p

def update (t : Table key) (p : α → Bool) (f : α → α) (hf : ∀ a, key (f a) = key a) : Table key where
  rows := t.rows.map fun a => if p a then f a else a
  nodup_keys := by
    have h : (key ∘ fun a => if p a then f a else a) = key := by
      funext a
      by_cases hp : p a <;> simp [hp, hf]
    rw [List.map_map, h]
    exact t.nodup_keys

def delete (t : Table key) (p : α → Bool) : Table key where
  rows := t.rows.filter fun a => !p a
  nodup_keys := t.nodup_keys.sublist (List.filter_sublist.map key)

lemma select_update_length (t : Table key) (p q : α → Bool) (f : α → α)
    (hf : ∀ a, key (f a) = key a) (hq : ∀ a, q (f a) = q a) :
    ((t.update p f hf).select q).length = (t.select q).length := by
  simp only [select, update, List.filter_map, List.length_map]
  congr 2
  funext a
  by_cases hp : p a <;> simp [hp, hq]

lemma select_update_self (t : Table key) (p : α → Bool) (f : α → α) (hf : ∀ a, key (f a) = key a)
    (hp : ∀ a, p (f a) = p a) : (t.update p f hf).select p = (t.select p).map f := by
  have hcomp : (p ∘ fun a => if p a then f a else a) = p := by
    funext a
    by_cases ha : p a <;> simp [ha, hp]
  rw [select, update, List.filter_map, hcomp, select]
  exact List.map_congr_left fun a ha => if_pos (List.mem_filter.1 ha).2

def map (t : Table key) (g : α → α) (hg : ∀ a, key (g a) = key a) : Table key :=
  t.update (fun _ => true) g hg

@[simp] lemma map_rows (t : Table key) (g : α → α) (hg : ∀ a, key (g a) = key a) :
    (t.map g hg).rows = t.rows.map g := by
  simp [map, update]

variable {f g : α → α} {t : Table key} {p : α → Bool}

lemma select_map (t : Table key) (hg : ∀ a, key (g a) = key a) {q : α → Bool}
    (hq : ∀ a, q (g a) = q a) : (t.map g hg).select q = (t.select q).map g := by
  rw [select, map_rows, List.filter_map, show q ∘ g = q from funext hq, select]

lemma ext_rows {u : Table key} (h : t.rows = u.rows) : t = u := by
  cases t
  cases u
  simpa using h

lemma update_congr (hf : ∀ a, key (f a) = key a) (hg : ∀ a, key (g a) = key a)
    (h : ∀ a ∈ t.rows, p a = true → f a = g a) : t.update p f hf = t.update p g hg := by
  refine ext_rows (List.map_congr_left fun a ha => ?_)
  by_cases hp : p a = true
  · rw [if_pos hp, if_pos hp, h a ha hp]
  · rw [if_neg hp, if_neg hp]

lemma map_map_self (hg : ∀ a, key (g a) = key a) (hgg : ∀ a, g (g a) = g a) :
    (t.map g hg).map g hg = t.map g hg := by
  apply ext_rows
  rw [map_rows, map_rows, List.map_map]
  exact List.map_congr_left fun a _ => hgg a

lemma map_update (hf : ∀ a, key (f a) = key a) (hg : ∀ a, key (g a) = key a)
    (hp : ∀ a, p (g a) = p a) (hgg : ∀ a, g (g a) = g a) (hfg : ∀ a, g (f (g a)) = g (f a)) :
    (t.update p f hf).map g hg = ((t.map g hg).update p f hf).map g hg := by
  apply ext_rows
  simp only [map_rows, update, List.map_map]
  refine List.map_congr_left fun a _ => ?_
  simp only [Function.comp_apply, hp]
  split_ifs
  · exact (hfg a).symm
  · exact (hgg a).symm

lemma map_update_hidden (hf : ∀ a, key (f a) = key a) (hg : ∀ a, key (g a) = key a)
    (h : ∀ a ∈ t.rows, p a = true → g (f a) = g a) : (t.update p f hf).map g hg = t.map g hg := by
  apply ext_rows
  simp only [map_rows, update, List.map_map]
  refine List.map_congr_left fun a ha => ?_
  simp only [Function.comp_apply]
  split_ifs with hp
  · exact h a ha hp
  · rfl

variable [DecidableEq κ]

def get (t : Table key) (k : κ) : Option α := t.rows.find? fun a => key a = k

def modify (t : Table key) (k : κ) (f : α → α) (hf : ∀ a, key (f a) = key a) : Table key :=
  t.update (fun a => key a = k) f hf

def insert (t : Table key) (a : α) : Table key :=
  if h : key a ∈ t.rows.map key then t
  else
    { rows := t.rows ++ [a]
      nodup_keys := by
        rw [List.map_append, List.nodup_append]
        refine ⟨t.nodup_keys, by simp, fun x hx y hy => ?_⟩
        simp only [List.map_cons, List.map_nil, List.mem_singleton] at hy
        rintro rfl
        exact h (hy ▸ hx) }

variable {t : Table key} {k : κ} {a : α}

lemma get_key (h : t.get k = some a) : key a = k := by
  simpa using List.find?_some h

lemma mem_of_get (h : t.get k = some a) : a ∈ t.rows :=
  List.mem_of_find?_eq_some h

lemma get_of_mem (h : a ∈ t.rows) : t.get (key a) = some a := by
  have hnodup := t.nodup_keys
  rw [get]
  induction hrows : t.rows generalizing t with
  | nil => simp [hrows] at h
  | cons b rows ih =>
    rw [hrows] at h hnodup
    by_cases hb : key b = key a
    · rcases List.mem_cons.1 h with rfl | hmem
      · simp
      · exact absurd (hb ▸ List.mem_map_of_mem hmem) (List.nodup_cons.1 hnodup).1
    · rw [List.find?_cons_of_neg (by simpa using hb)]
      rcases List.mem_cons.1 h with rfl | hmem
      · exact absurd rfl hb
      · exact ih (t := ⟨rows, (List.nodup_cons.1 hnodup).2⟩) hmem (List.nodup_cons.1 hnodup).2 rfl

lemma forall_key_iff {P : α → Prop} : (∀ a ∈ t.rows, key a = k → P a) ↔ ∀ a ∈ t.get k, P a := by
  constructor
  · intro h a ha
    exact h a (mem_of_get ha) (get_key ha)
  · rintro h a ha rfl
    exact h a (get_of_mem ha)

@[simp] lemma get_update (t : Table key) (p : α → Bool) (f : α → α) (hf : ∀ a, key (f a) = key a)
    (k : κ) : (t.update p f hf).get k = (t.get k).map fun a => if p a then f a else a := by
  rw [get, update, get, List.find?_map]
  congr 2
  funext a
  by_cases hp : p a <;> simp [hp, hf]

@[simp] lemma get_modify_self (t : Table key) (k : κ) (f : α → α) (hf : ∀ a, key (f a) = key a) :
    (t.modify k f hf).get k = (t.get k).map f := by
  rw [modify, get_update]
  cases h : t.get k with
  | none => rfl
  | some a => simp [get_key h]

lemma get_modify_of_ne (t : Table key) {k k' : κ} (f : α → α) (hf : ∀ a, key (f a) = key a)
    (h : k' ≠ k) : (t.modify k f hf).get k' = t.get k' := by
  rw [modify, get_update]
  cases hg : t.get k' with
  | none => rfl
  | some a => simp [get_key hg, h]

lemma get_modify (t : Table key) (k : κ) (f : α → α) (hf : ∀ a, key (f a) = key a) (k' : κ) :
    (t.modify k f hf).get k' = if k' = k then (t.get k).map f else t.get k' := by
  split_ifs with h
  · rw [h, get_modify_self]
  · exact get_modify_of_ne t f hf h

lemma sum_modify {v : α → ℚ} (hf : ∀ a, key (f a) = key a) (h : t.get k = some a) :
    ((t.modify k f hf).rows.map v).sum = (t.rows.map v).sum + (v (f a) - v a) := by
  obtain rfl := get_key h
  have hnodup := t.nodup_keys
  have ha := mem_of_get h
  rw [modify, update, List.map_map]
  generalize t.rows = rows at hnodup ha
  induction rows with
  | nil => cases ha
  | cons b rows ih =>
    obtain ⟨hb, hrows⟩ := List.nodup_cons.1 hnodup
    by_cases heq : key b = key a
    · have hmem : a ∉ rows := fun hmem => hb (heq ▸ List.mem_map_of_mem hmem)
      obtain rfl := (List.mem_cons.1 ha).resolve_right hmem
      have hrest : rows.map (v ∘ fun c => if key c = key a then f c else c) = rows.map v :=
        List.map_congr_left fun c hc => by
          simp [show key c ≠ key a from fun hca => hb (hca ▸ List.mem_map_of_mem hc)]
      simp [hrest]
      ring
    · have hmem := (List.mem_cons.1 ha).resolve_left fun hab => heq (hab ▸ rfl)
      rw [List.map_cons, List.sum_cons, ih hrows hmem]
      simp [heq, add_assoc]

lemma get_delete (t : Table key) (q : κ → Bool) (k : κ) :
    (t.delete fun a => q (key a)).get k = if q k then none else t.get k := by
  rw [get, delete, List.find?_filter, get]
  split_ifs with hq
  · rw [List.find?_eq_none]
    intro a _ ha
    simp only [decide_eq_true_eq] at ha
    simp [ha.2, hq] at ha
  · congr 1
    funext a
    by_cases ha : key a = k <;> simp [ha, hq]

lemma get_delete_eq (t : Table key) (p : α → Bool) (k : κ) :
    (t.delete p).get k = (t.get k).filter fun a => !p a := by
  refine Option.ext fun a => ?_
  rw [Option.filter_eq_some_iff]
  constructor
  · intro h
    obtain ⟨hmem, hp⟩ := List.mem_filter.1 (mem_of_get h)
    exact ⟨get_key h ▸ get_of_mem hmem, hp⟩
  · rintro ⟨h, hp⟩
    have hmem : a ∈ (t.delete p).rows := List.mem_filter.2 ⟨mem_of_get h, hp⟩
    exact get_key h ▸ get_of_mem hmem

lemma select_eq_singleton (ha : a ∈ t.rows) (hp : p a = true)
    (huniq : ∀ b ∈ t.rows, p b = true → key b = key a) : t.select p = [a] := by
  have hnodup : (t.select p).Nodup := (t.nodup_keys.of_map key).filter p
  have hmem : ∀ b ∈ t.select p, b = a := by
    intro b hb
    obtain ⟨hb, hpb⟩ := List.mem_filter.1 hb
    have hget := get_of_mem hb
    rw [huniq b hb hpb, get_of_mem ha] at hget
    exact (Option.some.inj hget).symm
  have hin : a ∈ t.select p := List.mem_filter.2 ⟨ha, hp⟩
  rcases hs : t.select p with _ | ⟨b, _ | ⟨c, l⟩⟩
  · rw [hs] at hin
    cases hin
  · rw [hmem b (by simp [hs])]
  rw [hs] at hnodup hmem
  have hb := hmem b (by simp)
  have hc := hmem c (by simp)
  exact absurd hnodup (by simp [hb, hc])

lemma insert_rows (h : t.get (key a) = none) : (t.insert a).rows = t.rows ++ [a] := by
  have hfresh : key a ∉ t.rows.map key := by
    rw [List.mem_map]
    rintro ⟨b, hb, hkey⟩
    rw [← hkey, get_of_mem hb] at h
    exact absurd h (by simp)
  rw [insert, dif_neg hfresh]

lemma get_insert_self (h : t.get (key a) = none) : (t.insert a).get (key a) = some a := by
  have hnone : t.rows.find? (fun b => key b = key a) = none := h
  rw [get, insert_rows h]
  simp [List.find?_append, hnone]

lemma insert_map (hg : ∀ a, key (g a) = key a) :
    (t.insert a).map g hg = (t.map g hg).insert (g a) := by
  have hkeys : (t.map g hg).rows.map key = t.rows.map key := by
    rw [map_rows, List.map_map]
    exact List.map_congr_left fun b _ => hg b
  apply ext_rows
  by_cases htaken : key a ∈ t.rows.map key
  · rw [insert, dif_pos htaken, insert, dif_pos (by rw [hkeys, hg]; exact htaken)]
  · rw [insert, dif_neg htaken, insert, dif_neg (by rw [hkeys, hg]; exact htaken)]
    simp

lemma get_map (hg : ∀ a, key (g a) = key a) : (t.map g hg).get k = (t.get k).map g := by
  rw [map, get_update]
  simp

lemma select_insert (h : t.get (key a) = none) (p : α → Bool) :
    (t.insert a).select p = t.select p ++ if p a then [a] else [] := by
  rw [select, insert_rows h, List.filter_append, select]
  by_cases hp : p a <;> simp [hp]

lemma get_insert_of_ne (h : k ≠ key a) : (t.insert a).get k = t.get k := by
  rw [insert]
  split_ifs with htaken
  · rfl
  · simp [get, List.find?_append, Ne.symm h]

section Fresh

variable {key : α → ℕ}

def fresh (t : Table key) : ℕ := t.rows.foldr (fun a m => max (key a + 1) m) 0

private lemma lt_foldr_max (rows : List α) {a : α} (h : a ∈ rows) :
    key a < rows.foldr (fun a m => max (key a + 1) m) 0 := by
  induction rows with
  | nil => simp at h
  | cons b rows ih =>
    rcases List.mem_cons.1 h with rfl | hmem
    · simp
    · exact lt_of_lt_of_le (ih hmem) (le_max_right _ _)

variable {t : Table key}

lemma fresh_map {g : α → α} (hg : ∀ a, key (g a) = key a) : (t.map g hg).fresh = t.fresh := by
  rw [fresh, map_rows, List.foldr_map, fresh]
  simp only [hg]

lemma lt_fresh {a : α} (h : a ∈ t.rows) : key a < t.fresh :=
  lt_foldr_max t.rows h

lemma get_fresh (t : Table key) : t.get t.fresh = none := by
  cases h : t.get t.fresh with
  | none => rfl
  | some a => exact absurd (get_key h) (lt_fresh (mem_of_get h)).ne

end Fresh

end Table

end Stablenode
