import Stablenode.PaymentInitiation
import Stablenode.Sessions

/-! The references of payment orders under concurrent requests; no constraint of the table backs the
check up (ent/schema/paymentorder.go). -/
namespace Stablenode.Initiation

open Proc

def concurrently (requests : List (InitiationEnvironment × NewPaymentOrderPayload))
    (schedule : List ℕ) : Proc (ℕ × InitiationCall) InitiationStore Unit :=
  interleave schedule (numbered (requests.map fun r => r.1.initiatePaymentOrder r.2))

def InitiationStore.UniqueReferences (s : InitiationStore) : Prop :=
  ((s.orders.map InitiatedOrder.reference).filter (· ≠ "")).Nodup

instance (s : InitiationStore) : Decidable s.UniqueReferences :=
  inferInstanceAs (Decidable (List.Nodup _))

def Undisturbed (calls : List (ℕ × InitiationCall)) : Prop :=
  ∀ pre mid post i order, order.reference ≠ "" →
    calls = pre ++ (i, .referenceExists order.reference) :: mid ++ (i, .commit order) :: post →
      ∀ j other, (j, .commit other) ∈ mid → other.reference ≠ order.reference

variable {s : InitiationStore} {order : InitiatedOrder}

section Rows

variable {reference : String} {l : InitiationCall}

lemma hasReference_eq_false_iff :
    s.hasReference reference = false ↔ reference ∉ s.orders.map InitiatedOrder.reference := by
  simp [InitiationStore.hasReference]

lemma orders_exec (h : ∀ order, l ≠ .commit order) : (l.exec s).orders = s.orders := by
  cases l <;> first | rfl | exact absurd rfl (h _)

lemma uniqueReferences_commit_iff (h : s.UniqueReferences) :
    ((InitiationCall.commit order).exec s).UniqueReferences ↔
      (order.reference ≠ "" → s.hasReference order.reference = false) := by
  rw [InitiationStore.UniqueReferences] at h ⊢
  rw [hasReference_eq_false_iff, InitiationCall.exec, List.map_append, List.filter_append,
    List.nodup_append_comm]
  simp only [ne_eq, decide_not] at h ⊢
  by_cases hempty : order.reference = ""
  · simp [hempty, h]
  · simp [hempty, h]

lemma hasReference_exec (l : InitiationCall) (h : s.hasReference reference = true) :
    (l.exec s).hasReference reference = true := by
  cases l with
  | commit order =>
    rw [InitiationStore.hasReference, InitiationCall.exec, List.any_append, Bool.or_eq_true]
    exact .inl h
  | _ => exact h

lemma hasReference_exec_of_commits (hl : ∀ order, l = .commit order → order.reference ≠ reference)
    (h : s.hasReference reference = false) : (l.exec s).hasReference reference = false := by
  cases l with
  | commit order =>
    rw [InitiationStore.hasReference, InitiationCall.exec, List.any_append, Bool.or_eq_false_iff]
    exact ⟨h, by simpa using hl order rfl⟩
  | _ => exact h

end Rows

section Request

variable {E : InitiationEnvironment} {p : NewPaymentOrderPayload}

def StoresReference (x : Call InitiationCall InitiationStore) : Prop :=
  ∃ order, x.label = .commit order ∧ order.reference ≠ ""

def FindsFree (x y : Call InitiationCall InitiationStore) : Prop :=
  ∀ order, x.label = .commit order → y.label = .referenceExists order.reference ∧ y.done = true ∧
    y.state.hasReference order.reference = false

lemma paths_checkReference {k : InitiationProgram InitiationReply}
    (hk : Uses (OnlyStores (·.reference = p.reference)) k) :
    Paths (Backed StoresReference FindsFree) (checkReference p k) := by
  have hret : ∀ a, Paths (Backed StoresReference FindsFree)
      (ret a : InitiationProgram InitiationReply) := paths_ret (mergeable_backed _ _)
  rw [checkReference]
  split
  next hempty =>
    intro t a ht pre x post hsplit hx
    obtain ⟨order, hlabel, hne⟩ := hx
    have hmem : x ∈ t := hsplit ▸ List.mem_append_right _ List.mem_cons_self
    have hstores := ht.uses hk x hmem
    rw [hlabel] at hstores
    exact absurd (Eq.trans hstores hempty) hne
  split
  · exact hret _
  intro t a ht
  rcases path_attempt_iff.1 ht with ⟨s, u, rfl, hu⟩ | ⟨s, u, rfl, hu⟩
  · split at hu
    next =>
      obtain ⟨rfl, -⟩ := path_ret_iff.1 hu
      exact backed_singleton fun ⟨_, h, _⟩ => nomatch h
    next hfree =>
      rintro pre x post hsplit ⟨order, hlabel, hne⟩
      cases pre with
      | nil =>
        obtain ⟨rfl, -⟩ := List.cons_eq_cons.1 hsplit
        cases hlabel
      | cons y pre =>
        obtain ⟨rfl, rfl⟩ := List.cons_eq_cons.1 hsplit
        refine ⟨_, List.mem_cons_self, fun order' hlabel' => ?_⟩
        have hstores : OnlyStores (·.reference = p.reference) x.label :=
          hu.uses hk x (List.mem_append_right _ List.mem_cons_self)
        rw [hlabel', OnlyStores] at hstores
        rw [hstores]
        exact ⟨rfl, rfl, by simpa using hfree⟩
  · obtain ⟨rfl, -⟩ := path_ret_iff.1 hu
    exact backed_singleton fun ⟨_, h, _⟩ => nomatch h

lemma paths_initiatePaymentOrder :
    Paths (Backed StoresReference FindsFree) (E.initiatePaymentOrder p) := by
  have hQ := mergeable_backed StoresReference FindsFree
  have hret : ∀ a, Paths (Backed StoresReference FindsFree)
      (ret a : InitiationProgram InitiationReply) := paths_ret hQ
  have hquery : ∀ s done, Backed StoresReference FindsFree [⟨.query, s, done⟩] :=
    fun s done => backed_singleton fun ⟨_, h, _⟩ => nomatch h
  rw [InitiationEnvironment.initiatePaymentOrder]
  split
  · exact hret _
  split
  · exact hret _
  refine paths_attempt hQ hquery (hret _) fun s => ?_
  split
  · exact hret _
  · exact hret _
  refine paths_attempt hQ hquery (hret _) fun s => ?_
  split
  · exact hret _
  split
  · exact hret _
  dsimp only
  split
  · exact hret _
  · exact hret _
  exact paths_checkReference <| uses_loadCurrency fun currency => uses_validate fun accountName =>
    uses_checkProvider <| uses_provideAddress fun address => uses_storeOrder rfl

end Request

section Runs

variable {requests : List (InitiationEnvironment × NewPaymentOrderPayload)} {schedule : List ℕ}
  {t : List (Call (ℕ × InitiationCall) InitiationStore)}

lemma exists_split_of_executed {pre post : List (ℕ × InitiationCall)} {l : ℕ × InitiationCall}
    (h : executed t = pre ++ l :: post) :
    ∃ before state after, t = before ++ ⟨l, state, true⟩ :: after ∧ executed before = pre ∧
      executed after = post := by
  rw [executed, List.map_eq_append_iff] at h
  obtain ⟨a, b, hfilter, hpre, hb⟩ := h
  obtain ⟨x, c, rfl, rfl, hpost⟩ := List.map_eq_cons_iff.1 hb
  obtain ⟨before, rest, rfl, rfl, hrest⟩ := List.filter_eq_append_iff.1 hfilter
  obtain ⟨skipped, after, rfl, hskipped, hx, rfl⟩ := List.filter_eq_cons_iff.1 hrest
  refine ⟨before ++ skipped, x.state, after, ?_, ?_, hpost⟩
  · rw [List.append_assoc, ← hx]
  · have hnone : skipped.filter Call.done = [] := List.filter_eq_nil_iff.2 hskipped
    rw [executed, List.filter_append, hnone, List.append_nil]
    exact hpre

lemma free_at_commit (hpath : Path (concurrently requests schedule) t ())
    (hchained : Chained (execNumbered InitiationCall.exec) s t)
    (hundisturbed : Undisturbed (executed t))
    {before after : List (Call (ℕ × InitiationCall) InitiationStore)} {i : ℕ}
    {state : InitiationStore} (ht : t = before ++ ⟨(i, .commit order), state, true⟩ :: after)
    (hne : order.reference ≠ "") : state.hasReference order.reference = false := by
  have hps : ∀ p ∈ requests.map fun r => r.1.initiatePaymentOrder r.2,
      Paths (Backed StoresReference FindsFree) p := by
    intro p hp
    obtain ⟨r, -, rfl⟩ := List.mem_map.1 hp
    exact paths_initiatePaymentOrder
  obtain ⟨y, hy, hfree⟩ := backed_session hps hpath ht ⟨order, rfl, hne⟩
  obtain ⟨hlabel, hdone, hstate⟩ := hfree order rfl
  obtain ⟨pre, mid, rfl⟩ := List.append_of_mem hy
  rw [hlabel, hdone] at ht
  subst ht
  refine hchained.later (P := fun u => u.hasReference order.reference = false) hstate ?_
  intro z hz hzdone hzstate
  refine hasReference_exec_of_commits (fun other hother => ?_) hzstate
  refine hundisturbed (executed pre) (executed mid) (executed after) i order hne ?_ z.label.1 other ?_
  · simp [executed]
  · rw [← hother]
    exact List.mem_map.2 ⟨z, List.mem_filter.2 ⟨hz, hzdone⟩, rfl⟩

lemma hasReference_of_mem {calls : List (ℕ × InitiationCall)} {j : ℕ}
    (h : (j, .commit order) ∈ calls) (s : InitiationStore) :
    (Run.exec (execNumbered InitiationCall.exec) s calls).hasReference order.reference = true := by
  obtain ⟨pre, post, rfl⟩ := List.append_of_mem h
  rw [Run.exec_append, Run.exec_cons]
  generalize hu : execNumbered InitiationCall.exec (j, .commit order)
    (Run.exec (execNumbered InitiationCall.exec) s pre) = u
  have hstored : u.hasReference order.reference = true := by
    rw [← hu]
    simp [execNumbered, InitiationCall.exec, InitiationStore.hasReference]
  clear hu
  induction post generalizing u with
  | nil => exact hstored
  | cons l post ih => exact ih (by simp) _ (hasReference_exec l.2 hstored)

end Runs

theorem unique_iff_undisturbed (requests : List (InitiationEnvironment × NewPaymentOrderPayload))
    (schedule : List ℕ) (faults : List Bool) (s : InitiationStore) (hs : s.UniqueReferences) :
    Run.Always (execNumbered InitiationCall.exec) InitiationStore.UniqueReferences s
        ((concurrently requests schedule).history (execNumbered InitiationCall.exec) faults s) ↔
      Undisturbed
        ((concurrently requests schedule).history (execNumbered InitiationCall.exec) faults s) := by
  rw [← executed_trace]
  generalize ht : (concurrently requests schedule).trace (execNumbered InitiationCall.exec) faults s = t
  obtain ⟨⟨⟩, hpath⟩ : ∃ a, Path (concurrently requests schedule) t a := ht ▸ path_trace _ _ _
  have hchained : Chained (execNumbered InitiationCall.exec) s t := ht ▸ chained_trace _ _ _
  constructor
  · rintro hunique pre mid post i order hne hsplit j other hother hsame
    -- the commit finds the reference stored by the other one
    rw [hsplit] at hunique
    have hbefore := (hunique.initial (List.prefix_append _ _)).last
    have hprefix : (pre ++ (i, .referenceExists order.reference) :: mid) ++ [(i, .commit order)] <+:
        pre ++ (i, .referenceExists order.reference) :: mid ++ (i, .commit order) :: post :=
      ⟨post, by simp⟩
    have hafter := (hunique.initial hprefix).last
    rw [Run.exec_append, Run.exec_cons, Run.exec_nil] at hafter
    have hfree := (uniqueReferences_commit_iff hbefore).1 hafter hne
    rw [← hsame, hasReference_of_mem (List.mem_append_right _ (List.mem_cons_of_mem _ hother))]
      at hfree
    cases hfree
  · intro hundisturbed
    refine Run.always_of_splits hs fun pre l post hsplit hunique => ?_
    obtain ⟨before, state, after, ht, hpre, -⟩ := exists_split_of_executed hsplit
    have hstate : state = Run.exec (execNumbered InitiationCall.exec) s pre := by
      rw [ht, chained_append_iff, hpre] at hchained
      exact hchained.2.1
    obtain ⟨i, call⟩ := l
    by_cases hcommit : ∃ order, call = .commit order
    · obtain ⟨order, rfl⟩ := hcommit
      refine (uniqueReferences_commit_iff hunique).2 fun hne => ?_
      rw [← hstate]
      exact free_at_commit hpath hchained hundisturbed ht hne
    · rw [InitiationStore.UniqueReferences, execNumbered,
        orders_exec fun order h => hcommit ⟨order, h⟩]
      exact hunique

open Initiation.Sample in
theorem one_after_the_other_undisturbed :
    Undisturbed ((concurrently [(partner, payment), (partner, payment)] []).history
      (execNumbered InitiationCall.exec) [] senderStore) :=
  (unique_iff_undisturbed [(partner, payment), (partner, payment)] [] [] senderStore
    (by decide)).1 (by decide +kernel)

open Initiation.Sample in
theorem same_reference_stored_twice :
    senderStore.UniqueReferences ∧
      ((Run.exec (execNumbered InitiationCall.exec) senderStore
        ((concurrently [(partner, payment), (partner, payment)] [0, 0, 0, 1, 1, 1]).history
          (execNumbered InitiationCall.exec) [] senderStore)).orders.map InitiatedOrder.reference) =
        ["invoice-1", "invoice-1"] := by
  decide +kernel

end Stablenode.Initiation
