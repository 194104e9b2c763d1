import Stablenode.HandlerLabels
import Stablenode.QueueRebuild

/-! The rebuild of a queue beside rotations and cancellations: where the pushed entries end up. -/
namespace Stablenode

open Proc

namespace QueueRuns

section Calls

variable (key : QueueKey) (x : Call QueueWrite Store)

def popOf : Option QueueEntry :=
  match x.label with
  | .assign (.popQueue k) => if k = key ∧ x.done then (x.state.queue key).head? else none
  | _ => none

def pushOf : Option QueueEntry :=
  match x.label with
  | .assign (.pushQueue k entry) => if k = key ∧ x.done then some entry else none
  | _ => none

def overwriteOf : Option QueueEntry :=
  match x.label with
  | .cancel _ (.setQueueFromEnd k index _) =>
    if k = key ∧ x.done then (x.state.queue key).reverse[index]? else none
  | _ => none

def deletes : Bool := x.label = .deleteQueue key

def rotates : Bool :=
  match x.label with
  | .assign (.pushQueue k _) => k = key
  | _ => false

def overwritesOwn : Bool :=
  match x.label with
  | .cancel provider (.setQueueFromEnd k index _) =>
    k ≠ key ∨ ((x.state.queue key).reverse[index]?).all fun e =>
      e.isOf provider || e == deletedProvider
  | _ => true

end Calls

section Labels

inductive RemovalWrite : OrderWrite → Prop where
  | set (key : QueueKey) (index : ℕ) : RemovalWrite (.setQueueFromEnd key index deletedProvider)
  | remove (key : QueueKey) : RemovalWrite (.removeFromQueue key deletedProvider)
  | other {w : OrderWrite} (h : w.writesQueue = false) : RemovalWrite w

inductive Moves (key : QueueKey) : QueueWrite → Prop where
  | assign {id : ℕ} {w : OrderWrite} (h : AssignmentLabel id w) : Moves key (.assign w)
  | cancel (provider : String) {w : OrderWrite} (h : RemovalWrite w) :
    Moves key (.cancel provider w)
  | deleteOther {k : QueueKey} (h : k ≠ key) : Moves key (.deleteQueue k)
  | copyOther {k : QueueKey} (h : k ≠ key) (entries : List QueueEntry) :
    Moves key (.copyQueue k entries)
  | enqueue (entry : QueueEntry) : Moves key (.enqueue key entry)
  | read : Moves key .read

lemma cancelOrder_uses_removal (conf : OrderConfig) (fuel : ℕ) (provider : ProviderProfile)
    (reason : String) (param : Option ℕ) :
    Uses RemovalWrite (cancelOrder conf fuel provider reason param) :=
  uses_cancelOrder conf provider (.other rfl) .set .remove
    (fun _ _ _ => (cancelWith_writesQueue _ _).mono fun _ => .other) fuel reason param

end Labels

variable {w : OrderWrite} {x : Call QueueWrite Store} {s : Store} {t : List (Call QueueWrite Store)}
  {e : QueueEntry}

section Conservation

variable {key : QueueKey}

lemma writesQueue_of_assignmentLabel {id : ℕ} (h : AssignmentLabel id w) :
    w.writesQueue = false ∨ (∃ k, w = .popQueue k) ∨ ∃ k entry, w = .pushQueue k entry := by
  rcases h with ⟨⟨⟩⟩ | _ | _ | _ | _
  case write.popQueue k => exact .inr (.inl ⟨k, rfl⟩)
  case write.pushQueue k entry => exact .inr (.inr ⟨k, entry, rfl⟩)
  all_goals exact .inl rfl

def queueAfter (key : QueueKey) (x : Call QueueWrite Store) : List QueueEntry :=
  (if x.done then x.label.exec x.state else x.state).queue key

def Moved (key : QueueKey) (e : QueueEntry) (x : Call QueueWrite Store) : Prop :=
  (queueAfter key x).count e + (popOf key x).toList.count e + (overwriteOf key x).toList.count e =
    (x.state.queue key).count e + (enqueueOf key x).toList.count e + (pushOf key x).toList.count e

lemma moved_of_unchanged (hqueue : queueAfter key x = x.state.queue key) (hpop : popOf key x = none)
    (hoverwrite : overwriteOf key x = none) (henqueue : enqueueOf key x = none)
    (hpush : pushOf key x = none) : Moved key e x := by
  rw [Moved, hqueue, hpop, hoverwrite, henqueue, hpush]

lemma moved_of_failed {l : QueueWrite} : Moved key e ⟨l, s, false⟩ := by
  refine moved_of_unchanged rfl ?_ ?_ ?_ ?_
  · rw [popOf]
    split <;> simp
  · rw [overwriteOf]
    split <;> simp
  · rw [enqueueOf]
    split <;> simp
  · rw [pushOf]
    split <;> simp

lemma moved_assign_quiet (hw : w.writesQueue = false) (s : Store) :
    Moved key e ⟨.assign w, s, true⟩ := by
  refine moved_of_unchanged (OrderWrite.exec_queue hw s key) ?_ rfl rfl ?_
  · cases w <;> first | rfl | cases hw
  · cases w <;> first | rfl | cases hw

lemma moved_cancel_quiet (hw : w.writesQueue = false) (provider : String) (s : Store) :
    Moved key e ⟨.cancel provider w, s, true⟩ := by
  refine moved_of_unchanged (OrderWrite.exec_queue hw s key) rfl ?_ rfl rfl
  cases w <;> first | rfl | cases hw

lemma moved_popQueue (k : QueueKey) (s : Store) : Moved key e ⟨.assign (.popQueue k), s, true⟩ := by
  simp only [Moved, queueAfter, popOf, overwriteOf, enqueueOf, pushOf, QueueWrite.exec,
    OrderWrite.exec, Store.queue_updateQueue, if_true, and_true]
  by_cases hk : k = key
  · subst hk
    cases s.queue k with
    | nil => simp
    | cons head tail => simp [List.count_cons]
  · simp [hk, Ne.symm hk]

lemma moved_pushQueue (k : QueueKey) (entry : QueueEntry) (s : Store) :
    Moved key e ⟨.assign (.pushQueue k entry), s, true⟩ := by
  simp only [Moved, queueAfter, popOf, overwriteOf, enqueueOf, pushOf, QueueWrite.exec,
    OrderWrite.exec, Store.queue_updateQueue, if_true, and_true]
  by_cases hk : k = key
  · subst hk
    simp [List.count_append]
  · simp [hk, Ne.symm hk]

lemma moved_enqueue (entry : QueueEntry) (s : Store) :
    Moved key e ⟨.enqueue key entry, s, true⟩ := by
  simp [Moved, queueAfter, popOf, overwriteOf, enqueueOf, pushOf, QueueWrite.exec,
    Store.queue_updateQueue, List.count_append]

variable (he : e ≠ deletedProvider)
include he

lemma moved_set (provider : String) (k : QueueKey) (index : ℕ) (s : Store) :
    Moved key e ⟨.cancel provider (.setQueueFromEnd k index deletedProvider), s, true⟩ := by
  simp only [Moved, queueAfter, popOf, overwriteOf, enqueueOf, pushOf, QueueWrite.exec,
    OrderWrite.exec, Store.queue_updateQueue, if_true, and_true]
  by_cases hk : k = key
  · subst hk
    by_cases hindex : index < (s.queue k).reverse.length
    · have hpos : (if (s.queue k).reverse[index] == e then 1 else 0) ≤
          (s.queue k).reverse.count e := by
        split
        next heq =>
          rw [← eq_of_beq heq]
          exact List.count_pos_iff.2 (List.getElem_mem hindex)
        next => exact Nat.zero_le _
      have hnew : (deletedProvider == e) = false := by simpa using he.symm
      simp only [if_true, List.count_reverse, List.count_set hindex,
        List.getElem?_eq_getElem hindex, Option.toList_some, List.count_singleton,
        Option.toList_none, List.count_nil, hnew, Bool.false_eq_true, if_false] at hpos ⊢
      omega
    · simp [List.set_eq_of_length_le (not_lt.1 hindex), List.getElem?_eq_none (not_lt.1 hindex)]
  · simp [hk, Ne.symm hk]

lemma moved_remove (provider : String) (k : QueueKey) (s : Store) :
    Moved key e ⟨.cancel provider (.removeFromQueue k deletedProvider), s, true⟩ := by
  simp only [Moved, queueAfter, popOf, overwriteOf, enqueueOf, pushOf, QueueWrite.exec,
    OrderWrite.exec, Store.queue_updateQueue, if_true]
  by_cases hk : key = k
  · subst hk
    simp [List.count_filter, he]
  · simp [hk]

lemma moved_of_moves (h : Moves key x.label) : Moved key e x := by
  obtain ⟨l, s, done⟩ := x
  cases done with
  | false => exact moved_of_failed
  | true =>
    cases h with
    | assign hw =>
      rcases writesQueue_of_assignmentLabel hw with hquiet | ⟨k, rfl⟩ | ⟨k, entry, rfl⟩
      · exact moved_assign_quiet hquiet s
      · exact moved_popQueue k s
      · exact moved_pushQueue k entry s
    | cancel provider hw =>
      cases hw with
      | set k index => exact moved_set he provider k index s
      | remove k => exact moved_remove he provider k s
      | other hquiet => exact moved_cancel_quiet hquiet provider s
    | deleteOther hk | copyOther hk entries =>
      refine moved_of_unchanged ?_ rfl rfl rfl rfl
      simp [queueAfter, QueueWrite.exec, Store.queue_updateQueue, Ne.symm hk]
    | enqueue entry => exact moved_enqueue entry s
    | read => exact moved_of_unchanged rfl rfl rfl rfl rfl

lemma count_conserved (hchained : Chained QueueWrite.exec s t) (hmoves : ∀ x ∈ t, Moves key x.label)
    :
    ((Run.exec QueueWrite.exec s (executed t)).queue key).count e +
        (t.filterMap (popOf key)).count e + (t.filterMap (overwriteOf key)).count e =
      (s.queue key).count e + (t.filterMap (enqueueOf key)).count e +
        (t.filterMap (pushOf key)).count e := by
  induction t generalizing s with
  | nil => simp [executed]
  | cons x t ih =>
    obtain ⟨hstate, hrest⟩ := hchained
    obtain ⟨hx, ht⟩ := List.forall_mem_cons.1 hmoves
    have hstep : Moved key e x := moved_of_moves he hx
    have hind := ih hrest ht
    rw [exec_executed_cons]
    simp only [Moved, queueAfter, hstate] at hstep
    have hcons : ∀ f : Call QueueWrite Store → Option QueueEntry,
        ((x :: t).filterMap f).count e = (f x).toList.count e + (t.filterMap f).count e := by
      intro f
      cases hf : f x with
      | none => simp [hf]
      | some b => simp [hf, List.count_cons, Nat.add_comm]
    simp only [hcons]
    omega

end Conservation

section Rotations

variable {key : QueueKey}

abbrev Returns (key : QueueKey) (t : List (Call QueueWrite Store)) : Prop :=
  (∀ x ∈ t, rotates key x = true → x.done = true) →
    ∀ e, (t.filterMap (popOf key)).count e = (t.filterMap (pushOf key)).count e

lemma mergeable_returns : Mergeable (Returns key) := mergeable_count_eq _ _ _

abbrev OrderReturns (key : QueueKey) (t : List (Call OrderWrite Store)) : Prop :=
  Returns key (t.map (Call.relabel .assign))

lemma mergeable_orderReturns : Mergeable (OrderReturns key) := mergeable_returns.relabel _

lemma orderReturns_of_quiet (hw : w.writesQueue = false) (s : Store) (done : Bool) :
    OrderReturns key [⟨w, s, done⟩] := by
  intro _ e
  cases w <;> first | rfl | cases hw

lemma rotateHead_paths {send : OrderProgram (Completion AssignError)}
    (hsend : Paths (OrderReturns key) send) (k : QueueKey) :
    Paths (OrderReturns key) (rotateHead k send) := by
  intro t r h hdone e
  rcases path_attempt_iff.1 h with ⟨s, u, rfl, hu⟩ | ⟨s, u, rfl, hu⟩
  · cases hhead : (s.queue k).head? with
    | none =>
      rw [hhead] at hu
      obtain ⟨rfl, -⟩ := path_ret_iff.1 hu
      by_cases hk : k = key
      · subst hk
        simp [Call.relabel, List.filterMap_cons, popOf, pushOf, hhead]
      · simp [Call.relabel, List.filterMap_cons, popOf, pushOf, hk]
    | some data =>
      rw [hhead] at hu
      rcases path_attempt_iff.1 hu with ⟨s', v, rfl, hv⟩ | ⟨s', v, rfl, hv⟩
      · have hrest := hsend v r hv (fun x hx => hdone x (by simp [hx])) e
        by_cases hk : k = key
        · subst hk
          simpa [Call.relabel, List.filterMap_cons, popOf, pushOf, hhead, List.count_cons]
            using hrest
        · simpa [Call.relabel, List.filterMap_cons, popOf, pushOf, hk] using hrest
      · by_cases hk : k = key
        · subst hk
          exact absurd (hdone ⟨.assign (.pushQueue k data), s', false⟩ (by simp [Call.relabel])
            (by simp [rotates])) (by simp)
        · obtain ⟨rfl, -⟩ := path_ret_iff.1 hv
          simp [Call.relabel, List.filterMap_cons, popOf, pushOf, hk]
  · obtain ⟨rfl, -⟩ := path_ret_iff.1 hu
    simp [Call.relabel, List.filterMap_cons, popOf, pushOf]

theorem assignLockPaymentOrder_returns (conf : OrderConfig) (env : Environment) (fuel : ℕ)
    (order : OrderFields) :
    Paths (OrderReturns key) (assignLockPaymentOrder conf env fuel order) := by
  have hmerge := @mergeable_orderReturns key
  have hrule : AssignmentRule conf env (fun _ => True) (fun _ => True) (Paths (OrderReturns key)) :=
    { ret := paths_ret hmerge
      bind := paths_bind hmerge
      read := paths_attempt hmerge (orderReturns_of_quiet rfl)
      readExclude := fun _ hf hk =>
        paths_attempt hmerge (orderReturns_of_quiet rfl) hf fun s => hk s trivial
      offer := fun _ h => h
      rotate := fun k hsend => rotateHead_paths hsend k
      exclude := fun _ _ => paths_ignore hmerge (orderReturns_of_quiet rfl)
      setRate := fun _ _ hk => paths_ignore hmerge (orderReturns_of_quiet rfl) (hk trivial)
      send := fun {order} _ _ _ _ =>
        paths_of_uses hmerge (sendOrderRequest_uses_send conf env order) fun w hw =>
          orderReturns_of_quiet (by cases hw <;> rfl) }
  exact hrule.assignLockPaymentOrder fuel trivial

end Rotations

inductive QueueOp where
  | assignLockPaymentOrder (conf : OrderConfig) (env : Environment) (fuel : ℕ) (order : OrderFields)
  | cancelOrder (conf : OrderConfig) (fuel : ℕ) (provider : ProviderProfile) (reason : String)
    (param : Option ℕ)

def QueueOp.program : QueueOp → Proc QueueWrite Store Unit
  | assignLockPaymentOrder conf env fuel order =>
    (Stablenode.assignLockPaymentOrder conf env fuel order).discard.mapLabel .assign
  | cancelOrder conf fuel provider reason param =>
    (Stablenode.cancelOrder conf fuel provider reason param).discard.mapLabel (.cancel provider.id)

def Rebuild.run (R : Rebuild) (schedule : List ℕ) (ops : List QueueOp) :
    Proc QueueWrite Store Unit :=
  interleave schedule (R.program :: ops.map QueueOp.program)

section Runs

variable (key : QueueKey) (t : List (Call QueueWrite Store))

def untilDelete : List (Call QueueWrite Store) := t.takeWhile fun x => !deletes key x

def sinceDelete : List (Call QueueWrite Store) := t.dropWhile fun x => !deletes key x

structure Orderly : Prop where
  deletes_done : ∀ x ∈ t, deletes key x = true → x.done = true
  rotates_done : ∀ x ∈ t, rotates key x = true → x.done = true
  returned : ((untilDelete key t).filterMap (popOf key)).Perm
    ((untilDelete key t).filterMap (pushOf key))
  overwritesOwn : ∀ x ∈ sinceDelete key t, overwritesOwn key x = true

end Runs

section Programs

variable {key : QueueKey} {R : Rebuild}

def isBeside : QueueWrite → Bool
  | .assign _ | .cancel _ _ => true
  | _ => false

lemma op_labels (op : QueueOp) : Uses (fun l => Moves key l ∧ isBeside l = true) op.program := by
  cases op with
  | assignLockPaymentOrder conf env fuel order =>
    have huses : Uses (AssignmentLabel order.id)
        (Stablenode.assignLockPaymentOrder conf env fuel order).discard :=
      uses_bind (assignLockPaymentOrder_uses fuel rfl) fun _ => trivial
    exact huses.mapLabel fun _ h => ⟨.assign h, rfl⟩
  | cancelOrder conf fuel provider reason param =>
    have huses : Uses RemovalWrite
        (Stablenode.cancelOrder conf fuel provider reason param).discard :=
      uses_bind (cancelOrder_uses_removal conf fuel provider reason param) fun _ => trivial
    exact huses.mapLabel fun _ h => ⟨.cancel _ h, rfl⟩

lemma enqueueOf_of_isBeside (h : isBeside x.label = true) : enqueueOf key x = none := by
  rw [enqueueOf]
  split
  next heq =>
    rw [heq] at h
    cases h
  · rfl

lemma op_returns (op : QueueOp) : Paths (Returns key) op.program := by
  cases op with
  | assignLockPaymentOrder conf env fuel order =>
    exact paths_mapLabel (paths_discard mergeable_orderReturns
      (assignLockPaymentOrder_returns conf env fuel order))
  | cancelOrder conf fuel provider reason param =>
    exact paths_mapLabel (paths_of_forall (mergeable_returns.relabel _) (fun _ _ _ _ _ => rfl) _)

lemma Rebuild.labels {u : Unit} (h : Path R.program t u) :
    ∀ x ∈ t, R.Copies x.label ∨ x.label = .deleteQueue R.key ∨
      ∃ entry, x.label = .enqueue R.key entry := by
  obtain ⟨pre, d, post, rfl, hpre, hd, hpost⟩ := R.path_program h
  intro x hx
  rcases List.mem_append.1 hx with hx | hx
  · exact .inl (hpre x hx)
  · rcases List.mem_cons.1 hx with rfl | hx
    · exact .inr (.inl hd)
    · exact (hpost.labels x hx).imp .inl .inr

lemma Rebuild.moves {u : Unit} (h : Path R.program t u) :
    ∀ x ∈ t, deletes R.key x = true ∨ Moves R.key x.label := by
  intro x hx
  rcases R.labels h x hx with (hlabel | hlabel | ⟨entries, hlabel⟩) | hlabel | ⟨entry, hlabel⟩
  · exact .inr (hlabel ▸ .read)
  · exact .inr (hlabel ▸ .deleteOther R.prev_ne_key)
  · exact .inr (hlabel ▸ .copyOther R.prev_ne_key entries)
  · exact .inl (by simp [deletes, hlabel])
  · exact .inr (hlabel ▸ .enqueue entry)

lemma Rebuild.returns : Paths (Returns key) R.program := by
  refine fun t u h => mergeable_returns.of_singletons fun x hx _ e => ?_
  rcases R.labels h x hx with (hlabel | hlabel | ⟨entries, hlabel⟩) | hlabel | ⟨entry, hlabel⟩ <;>
    simp [popOf, pushOf, hlabel]

end Programs

section Runs

variable {R : Rebuild} {schedule : List ℕ} {ops : List QueueOp} {t : List (Call QueueWrite Store)}

lemma Rebuild.exists_path (h : Path (R.run schedule ops) t ()) :
    ∃ own, Path R.program own () ∧ t.countP (deletes R.key) = own.countP (deletes R.key) ∧
      ∀ e, (t.filterMap (enqueueOf R.key)).count e = (own.filterMap (enqueueOf R.key)).count e := by
  obtain ⟨ts, hts, hmerge⟩ := path_interleave schedule h
  obtain ⟨own, others, rfl, hown, hothers⟩ : ∃ own others, ts = own :: others ∧
      Path R.program own () ∧
        List.Forall₂ (fun p u => Path p u ()) (ops.map QueueOp.program) others := by
    cases hts with
    | cons hown hothers => exact ⟨_, _, rfl, hown, hothers⟩
  have hbeside : ∀ u ∈ others, ∀ x ∈ u, isBeside x.label = true := by
    intro u hu
    obtain ⟨j, hj⟩ := List.mem_iff_getElem?.1 hu
    obtain ⟨p, hp, hpath⟩ := exists_of_forall₂ hothers.flip hj
    obtain ⟨op, -, rfl⟩ := List.mem_map.1 (List.mem_of_getElem? hp)
    exact fun x hx => (hpath.uses (@op_labels R.key op) x hx).2
  have hzero : ∀ f : List (Call QueueWrite Store) → ℕ,
      (∀ u, (∀ x ∈ u, isBeside x.label = true) → f u = 0) → (others.map f).sum = 0 := by
    intro f hf
    refine List.sum_eq_zero fun n hn => ?_
    obtain ⟨u, hu, rfl⟩ := List.mem_map.1 hn
    exact hf u (hbeside u hu)
  refine ⟨own, hown, ?_, fun e => ?_⟩
  · rw [hmerge.countP_eq, List.map_cons, List.sum_cons, hzero, Nat.add_zero]
    intro u hu
    refine List.countP_eq_zero.2 fun x hx hdeletes => ?_
    have hlabel := hu x hx
    rw [show x.label = .deleteQueue R.key by simpa [deletes] using hdeletes] at hlabel
    cases hlabel
  · rw [hmerge.count_filterMap, List.map_cons, List.sum_cons, hzero, Nat.add_zero]
    intro u hu
    rw [List.filterMap_eq_nil_iff.2 fun x hx => enqueueOf_of_isBeside (hu x hx), List.count_nil]

def Enqueues (key : QueueKey) (x : Call QueueWrite Store) : Prop :=
  ∃ entry, x.label = .enqueue key entry

variable (h : Path (R.run schedule ops) t ())
include h

lemma Rebuild.backed : Backed (Enqueues R.key) (fun _ y => deletes R.key y = true) t := by
  have hmerge := mergeable_backed (Enqueues R.key)
    fun (_ : Call QueueWrite Store) y => deletes R.key y = true
  refine paths_interleave hmerge schedule (fun p hp => ?_) t () h
  rcases List.mem_cons.1 hp with rfl | hp
  · intro u _ hu
    obtain ⟨pre, d, post, rfl, hpre, hd, hpost⟩ := R.path_program hu
    have hdeletes : deletes R.key d = true := by simp [deletes, hd]
    intro pre' x post' hsplit ⟨entry, hentry⟩
    -- the push is neither before the deletion nor the deletion itself
    rcases List.append_eq_append_iff.1 hsplit with ⟨mid, rfl, htail⟩ | ⟨mid, rfl, htail⟩
    · cases mid with
      | nil =>
        obtain ⟨rfl, -⟩ := List.cons_eq_cons.1 htail
        rw [hentry] at hd
        cases hd
      | cons y mid =>
        obtain ⟨rfl, -⟩ := List.cons_eq_cons.1 htail
        exact ⟨d, by simp, hdeletes⟩
    · cases mid with
      | nil =>
        obtain ⟨rfl, -⟩ := List.cons_eq_cons.1 htail
        rw [hentry] at hd
        cases hd
      | cons y mid =>
        obtain ⟨rfl, -⟩ := List.cons_eq_cons.1 htail
        rcases hpre x (by simp) with hlabel | hlabel | ⟨entries, hlabel⟩ <;>
          (rw [hentry] at hlabel; cases hlabel)
  · obtain ⟨op, -, rfl⟩ := List.mem_map.1 hp
    refine paths_of_uses hmerge (@op_labels R.key op) fun l hl s done => backed_singleton ?_
    rintro ⟨entry, rfl⟩
    cases hl.2

lemma Rebuild.run_moves : ∀ x ∈ t, deletes R.key x = true ∨ Moves R.key x.label := by
  have hmerge := mergeable_forall fun x : Call QueueWrite Store =>
    deletes R.key x = true ∨ Moves R.key x.label
  refine paths_interleave hmerge schedule (fun p hp => ?_) t () h
  rcases List.mem_cons.1 hp with rfl | hp
  · exact fun u _ hu => R.moves hu
  · obtain ⟨op, -, rfl⟩ := List.mem_map.1 hp
    refine paths_of_uses hmerge (@op_labels R.key op) fun l hl s done => ?_
    simpa using .inr hl.1

lemma Rebuild.run_returns : Returns R.key t := by
  refine paths_interleave mergeable_returns schedule (fun p hp => ?_) t () h
  rcases List.mem_cons.1 hp with rfl | hp
  · exact R.returns
  · obtain ⟨op, -, rfl⟩ := List.mem_map.1 hp
    exact op_returns op

lemma Rebuild.countP_deletes : t.countP (deletes R.key) = 1 := by
  obtain ⟨own, hown, hcount, -⟩ := Rebuild.exists_path h
  obtain ⟨pre, d, post, rfl, hpre, hd, hpost⟩ := R.path_program hown
  have hdeletes : deletes R.key d = true := by simp [deletes, hd]
  have hbefore : pre.countP (deletes R.key) = 0 := by
    refine List.countP_eq_zero.2 fun x hx => ?_
    rcases hpre x hx with hlabel | hlabel | ⟨entries, hlabel⟩ <;> simp [deletes, hlabel, R.prev_ne_key]
  have hafter : post.countP (deletes R.key) = 0 := by
    refine List.countP_eq_zero.2 fun x hx => ?_
    rcases hpost.labels x hx with hlabel | ⟨entry, hlabel⟩ <;> simp [deletes, hlabel]
  rw [hcount, List.countP_append, List.countP_cons_of_pos hdeletes, hbefore, hafter]

lemma Rebuild.exists_sinceDelete :
    ∃ d after, sinceDelete R.key t = d :: after ∧ deletes R.key d = true ∧
      t = untilDelete R.key t ++ d :: after ∧ after.countP (deletes R.key) = 0 := by
  have hone := Rebuild.countP_deletes h
  have hsplit : t = untilDelete R.key t ++ sinceDelete R.key t :=
    List.takeWhile_append_dropWhile.symm
  have hbefore : (untilDelete R.key t).countP (deletes R.key) = 0 :=
    List.countP_eq_zero.2 fun x hx => by simpa using List.mem_takeWhile_imp hx
  cases hsince : sinceDelete R.key t with
  | nil =>
    rw [hsplit, List.countP_append, hbefore, hsince] at hone
    cases hone
  | cons d after =>
    have hd : deletes R.key d = true := by
      have hhead := List.head?_dropWhile_not (fun x => !deletes R.key x) t
      rw [sinceDelete] at hsince
      rw [hsince] at hhead
      simpa using hhead
    refine ⟨d, after, rfl, hd, by rw [← hsince]; exact hsplit, ?_⟩
    rw [hsplit, List.countP_append, hbefore, hsince, List.countP_cons_of_pos hd] at hone
    omega

lemma Rebuild.count_rebuilt (hchained : Chained QueueWrite.exec s t) (horderly : Orderly R.key t)
    (he : e ≠ deletedProvider) :
    ((Run.exec QueueWrite.exec s (executed t)).queue R.key).count e +
        ((sinceDelete R.key t).filterMap (overwriteOf R.key)).count e =
      (t.filterMap (enqueueOf R.key)).count e := by
  obtain ⟨d, after, hsince, hd, hsplit, hnone⟩ := Rebuild.exists_sinceDelete h
  have hlabel : d.label = .deleteQueue R.key := by simpa [deletes] using hd
  have hcalls : popOf R.key d = none ∧ pushOf R.key d = none ∧ enqueueOf R.key d = none ∧
      overwriteOf R.key d = none := by
    simp [popOf, pushOf, enqueueOf, overwriteOf, hlabel]
  obtain ⟨hpop, hpush, henqueue, hoverwrite⟩ := hcalls
  -- nothing is in flight from before the deletion, and everything is back in the end
  have hreturned := horderly.returned.count_eq e
  have hreturns := Rebuild.run_returns h horderly.rotates_done e
  have hpushed : (untilDelete R.key t).filterMap (enqueueOf R.key) = [] := by
    refine List.filterMap_eq_nil_iff.2 fun x hx => ?_
    by_contra hsome
    have hbacked := Rebuild.backed h
    obtain ⟨pre, post, hpre⟩ := List.append_of_mem hx
    obtain ⟨y, hy, hdeletes⟩ := hbacked pre x (post ++ d :: after) (by
      rw [hsplit, hpre, List.append_assoc, List.cons_append]) (by
        rw [enqueueOf] at hsome
        split at hsome
        · rename_i k entry heq
          split_ifs at hsome with hk
          · exact ⟨entry, by rw [heq, hk.1]⟩
          · exact absurd rfl hsome
        · exact absurd rfl hsome)
    have hin : y ∈ untilDelete R.key t := by rw [hpre]; simp [hy]
    simpa [hdeletes] using List.mem_takeWhile_imp hin
  rw [hsplit, chained_append_iff] at hchained
  obtain ⟨-, hstate, hafter⟩ := hchained
  have hdone : d.done = true := horderly.deletes_done d (by rw [hsplit]; simp) hd
  rw [← hstate, hdone, if_pos rfl] at hafter
  have hmoves : ∀ x ∈ after, Moves R.key x.label := by
    intro x hx
    refine (Rebuild.run_moves h x (by rw [hsplit]; simp [hx])).resolve_left fun hdeletes => ?_
    exact List.countP_eq_zero.1 hnone x hx hdeletes
  have hconserved := count_conserved he hafter hmoves
  have hempty : (d.label.exec d.state).queue R.key = [] := by
    rw [hlabel, QueueWrite.exec, Store.queue_updateQueue, if_pos rfl]
  have hfinal : Run.exec QueueWrite.exec s (executed t) =
      Run.exec QueueWrite.exec (d.label.exec d.state) (executed after) := by
    conv_lhs => rw [hsplit, executed_append, Run.exec_append, ← hstate, exec_executed_cons, hdone,
      if_pos rfl]
  have hcount : ∀ f : Call QueueWrite Store → Option QueueEntry, f d = none →
      (t.filterMap f).count e =
        ((untilDelete R.key t).filterMap f).count e + (after.filterMap f).count e := by
    intro f hf
    conv_lhs => rw [hsplit, List.filterMap_append, List.filterMap_cons_none hf, List.count_append]
  rw [hcount _ hpop, hcount _ hpush, hreturned] at hreturns
  rw [hempty] at hconserved
  rw [hcount _ henqueue, hpushed, hsince, List.filterMap_cons_none hoverwrite, hfinal]
  simp only [List.count_nil] at hconserved ⊢
  omega

lemma Rebuild.enqueued_nodup :
    ((t.filterMap (enqueueOf R.key)).filterMap slot).Nodup ∧
      ∀ e ∈ t.filterMap (enqueueOf R.key), e ≠ deletedProvider := by
  obtain ⟨own, hown, -, hcount⟩ := Rebuild.exists_path h
  obtain ⟨pre, d, post, rfl, hpre, hd, hpost⟩ := R.path_program hown
  have hperm : (t.filterMap (enqueueOf R.key)).Perm
      ((pre ++ d :: post).filterMap (enqueueOf R.key)) := List.perm_iff_count.2 hcount
  have hfirst : pre.filterMap (enqueueOf R.key) = [] := by
    refine List.filterMap_eq_nil_iff.2 fun x hx => ?_
    rcases hpre x hx with hlabel | hlabel | ⟨entries, hlabel⟩ <;> simp [enqueueOf, hlabel]
  have hdelete : enqueueOf R.key d = none := by simp [enqueueOf, hd]
  rw [List.filterMap_append, hfirst, List.filterMap_cons_none hdelete, List.nil_append] at hperm
  refine ⟨(hperm.filterMap slot).nodup_iff.2 hpost.nodup, fun e he => ?_⟩
  exact hpost.offers e (hperm.mem_iff.1 he)

omit h

def takesOut (key : QueueKey) (provider : String) (x : Call QueueWrite Store) : Bool :=
  match x.label with
  | .cancel p (.setQueueFromEnd k _ _) => p = provider ∧ k = key ∧ x.done
  | _ => false

lemma exists_takesOut {key : QueueKey} (he : e ≠ deletedProvider)
    (hoverwrite : overwriteOf key x = some e) (hown : overwritesOwn key x = true) :
    ∃ provider, e.isOf provider = true ∧ takesOut key provider x = true := by
  rw [overwriteOf] at hoverwrite
  split at hoverwrite
  · rename_i provider k index entry hlabel
    split_ifs at hoverwrite with hk
    · refine ⟨provider, ?_, by simp [takesOut, hlabel, hk.1, hk.2]⟩
      simpa [overwritesOwn, hlabel, hk.1, hoverwrite, he] using hown
  · cases hoverwrite

variable (R schedule ops) in
theorem queue_after_rebuild (faults : List Bool) (s : Store)
    (horderly : Orderly R.key ((R.run schedule ops).trace QueueWrite.exec faults s)) :
    let calls := (R.run schedule ops).trace QueueWrite.exec faults s
    let queue := (Run.exec QueueWrite.exec s (executed calls)).queue R.key
    (queue.filterMap slot).Nodup ∧
      ∀ e ∈ calls.filterMap (enqueueOf R.key), e ∈ queue ∨
        ∃ provider, e.isOf provider = true ∧
          ∃ x ∈ sinceDelete R.key calls, takesOut R.key provider x = true := by
  intro calls queue
  obtain ⟨u, hpath⟩ : ∃ u, Path (R.run schedule ops) calls u := path_trace _ _ _
  have hchained : Chained QueueWrite.exec s calls := chained_trace _ _ _
  obtain ⟨hnodup, hoffers⟩ := Rebuild.enqueued_nodup hpath
  have hcount : ∀ e, e ≠ deletedProvider → queue.count e +
      ((sinceDelete R.key calls).filterMap (overwriteOf R.key)).count e =
        (calls.filterMap (enqueueOf R.key)).count e :=
    fun e he => Rebuild.count_rebuilt hpath hchained horderly he
  constructor
  · have hsubperm : (queue.filter (· ≠ deletedProvider)).Subperm
        (calls.filterMap (enqueueOf R.key)) := by
      refine List.subperm_ext_iff.2 fun e he => ?_
      have hreal : e ≠ deletedProvider := by simpa using (List.mem_filter.1 he).2
      rw [List.count_filter (by simpa using hreal), ← hcount e hreal]
      exact Nat.le_add_right _ _
    obtain ⟨l, hperm, hsub⟩ := hsubperm
    have hslots : queue.filterMap slot = (queue.filter (· ≠ deletedProvider)).filterMap slot := by
      rw [List.filterMap_filter]
      refine List.filterMap_congr fun e _ => ?_
      by_cases he : e = deletedProvider
      · rw [he]
        rfl
      · simp [he]
    rw [hslots, ← (hperm.filterMap slot).nodup_iff]
    exact (hsub.filterMap slot).nodup hnodup
  · intro e he
    have hreal := hoffers e he
    by_cases hin : e ∈ queue
    · exact .inl hin
    have hpos := List.count_pos_iff.2 he
    rw [← hcount e hreal, List.count_eq_zero.2 hin, Nat.zero_add, List.count_pos_iff] at hpos
    obtain ⟨x, hx, hoverwrite⟩ := List.mem_filterMap.1 hpos
    obtain ⟨provider, hprovider, htakes⟩ :=
      exists_takesOut hreal hoverwrite (horderly.overwritesOwn x hx)
    exact .inr ⟨provider, hprovider, x, hx, htakes⟩

def besideCalls (schedule : List ℕ) (ops : List QueueOp) (faults : List Bool) (s : Store) :
    List (Call QueueWrite Store) :=
  (interleave schedule (ops.map QueueOp.program)).trace QueueWrite.exec faults s

theorem queue_conserved (key : QueueKey) (schedule : List ℕ) (ops : List QueueOp)
    (faults : List Bool) (s : Store)
    (hdone : ∀ x ∈ besideCalls schedule ops faults s, rotates key x = true → x.done = true)
    (he : e ≠ deletedProvider) :
    ((Run.exec QueueWrite.exec s (executed (besideCalls schedule ops faults s))).queue key).count e +
        ((besideCalls schedule ops faults s).filterMap (overwriteOf key)).count e =
      (s.queue key).count e := by
  obtain ⟨u, hpath⟩ : ∃ u, Path (interleave schedule (ops.map QueueOp.program))
      (besideCalls schedule ops faults s) u := path_trace _ _ _
  have hmerge := mergeable_forall fun x : Call QueueWrite Store =>
    Moves key x.label ∧ isBeside x.label = true
  have hlabels := paths_interleave hmerge schedule
    (List.forall_mem_map.2 fun op _ => paths_of_uses hmerge (op_labels op) fun l hl s done =>
      List.forall_mem_singleton.2 hl) _ u hpath
  have hreturns := paths_interleave mergeable_returns schedule
    (List.forall_mem_map.2 fun op _ => op_returns op) _ u hpath hdone e
  have hnone := List.filterMap_eq_nil_iff.2 fun x hx =>
    (enqueueOf_of_isBeside (hlabels x hx).2 : enqueueOf key x = none)
  have hconserved := count_conserved he (chained_trace _ _ _) fun x hx => (hlabels x hx).1
  rw [← besideCalls, hnone, hreturns, List.count_nil] at hconserved
  omega

end Runs

open Sample

def usdcOf (provider : String) : TokenConfiguration :=
  ⟨⟨provider, 1, "NGN", "base", "0xprovider", 1⟩, .fixed, 10, 0, 1, 90⟩

def sampleRebuild : Rebuild where
  builder := ⟨[usdcOf "p1", usdcOf "p2"], fun _ => "USDC", fun _ => 10, false, 1⟩
  bucket := bucket
  providers := ["p2", "p1"]
  nodup := by decide

def queuedStore : Store :=
  { store with
    balances := balancesOf ⟨1000, 0, 1000⟩
    providerOrderTokens := [(usdcOf "p1").toProviderOrderToken, (usdcOf "p2").toProviderOrderToken]
    queues := .single ⟨⟨bucket, false⟩, [offerOf "p1" "USDC", offerOf "p2" "USDC"]⟩ }

def sampleAssign : QueueOp :=
  .assignLockPaymentOrder {} .silent 3 { lockOrder.reassignFields with id := 2, rate := 10 }

def sampleCancel : QueueOp := .cancelOrder {} 3 provider "Insufficient funds" (some 1)

theorem queue_conserved_rotating :
    let calls := besideCalls [0, 1] [sampleAssign, sampleCancel] [] queuedStore
    ((Run.exec QueueWrite.exec queuedStore (executed calls)).queue sampleRebuild.key).count
        (offerOf "p1" "USDC") +
      (calls.filterMap (overwriteOf sampleRebuild.key)).count (offerOf "p1" "USDC") = 1 :=
  queue_conserved sampleRebuild.key [0, 1] [sampleAssign, sampleCancel] [] queuedStore
    (by decide +kernel) (by decide)

def sampleCalls (schedule : List ℕ) (ops : List QueueOp) : List (Call QueueWrite Store) :=
  (sampleRebuild.run schedule ops).trace QueueWrite.exec [] queuedStore

def sampleQueue (schedule : List ℕ) (ops : List QueueOp) : List QueueEntry :=
  (Run.exec QueueWrite.exec queuedStore (executed (sampleCalls schedule ops))).queue
    sampleRebuild.key

theorem queue_after_rebuild_sequential :
    sampleQueue [] [sampleAssign, sampleCancel] = [offerOf "p2" "USDC"] ∧
      ((sampleQueue [] [sampleAssign, sampleCancel]).filterMap slot).Nodup := by
  have horderly : Orderly sampleRebuild.key (sampleCalls [] [sampleAssign, sampleCancel]) :=
    ⟨by decide +kernel, by decide +kernel, by decide +kernel, by decide +kernel⟩
  exact ⟨by decide +kernel, (queue_after_rebuild sampleRebuild [] _ [] queuedStore horderly).1⟩

theorem rotation_duplicates_and_loses_entries :
    sampleQueue ([1, 1, 1, 1] ++ List.replicate 12 0) [sampleAssign] =
        [offerOf "p2" "USDC", offerOf "p1" "USDC", offerOf "p1" "USDC"] ∧
      sampleQueue (List.replicate 12 0 ++ [2, 2, 1, 1, 1, 1, 1]) [sampleAssign, sampleCancel] =
        [offerOf "p1" "USDC"] := by
  decide +kernel

end QueueRuns

end Stablenode
