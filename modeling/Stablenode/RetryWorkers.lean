import Stablenode.PaymentTasks
import Stablenode.Reliable

/-! `RetryStaleUserOperations` (tasks/tasks.go) with its goroutines, which share the variables
`lockOrders` and `err`. -/
namespace Stablenode

open Proc

namespace RetryWorkers

structure Memory where
  store : Store
  lockOrders : List LockPaymentOrder
  err : Bool

inductive Pass where
  | settle
  | refund
  deriving DecidableEq

inductive RetryCall where
  | createQuery
  | query (pass : Pass)
  | assignLockOrders (pass : Pass) (rows : List LockPaymentOrder)
  | assignErr (failed : Bool)
  | checkErr (pass : Pass)
  | range (pass : Pass)
  | updateOrder (paymentOrder : ℕ) (status : PaymentOrderStatus)
  | createOrder (paymentOrder : ℕ)
  | settleOrder (lockOrder : ℕ)
  | refundOrder (network gatewayId : String)
  /-- Any change of the database, by the services that are called or by another process. -/
  | other (change : Store → Store)

def RetryCall.exec : RetryCall → Memory → Memory
  | assignLockOrders _ rows, m => { m with lockOrders := rows }
  | assignErr failed, m => { m with err := failed }
  | updateOrder paymentOrder status, m =>
    { m with store := (PaymentWrite.update paymentOrder (.status status)).exec m.store }
  | other change, m => { m with store := change m.store }
  | _, m => m

def RetryCall.MayFail : RetryCall → Prop
  | assignLockOrders _ _ | assignErr _ | checkErr _ | range _ => False
  | _ => True

variable (conf : OrderConfig)

def settleRows (s : Store) : List LockPaymentOrder :=
  s.lockOrders.select fun o =>
    o.status = .validated ∧ (s.fulfillmentsOf o.id).any (fun f => f.validationStatus = .success) ∧
      o.updatedAt + 300 < s.now ∧ s.now ≤ o.updatedAt + 900

def refundRows (s : Store) : List LockPaymentOrder :=
  s.lockOrders.select fun o =>
    let fulfillments := s.fulfillmentsOf o.id
    let failed := fulfillments.any fun f => f.validationStatus = .failed
    o.gatewayId ≠ "" ∧ s.now ≤ o.updatedAt + 300 ∧
      ((o.status = .pending ∨ o.status = .cancelled) ∧
          o.createdAt + conf.orderRefundTimeout ≤ s.now ∧ (fulfillments = [] ∨ failed) ∨
        (o.provider.bind s.providers.get).any (fun p => p.visibilityMode = .privateMode) ∧
          o.status = .fulfilled ∧ failed)

def queryRows (pass : Pass) (s : Store) : List LockPaymentOrder :=
  match pass with
  | .settle => settleRows s
  | .refund => refundRows conf s

abbrev RetryProgram := Proc RetryCall Memory Unit

def setErr (call : RetryCall) (k : RetryProgram) : RetryProgram :=
  act call fun r => ignore (.assignErr r.isNone) k

def createWorker (orders : List PaymentOrder) : RetryProgram :=
  forEach orders fun order =>
    if order.amount + order.networkFee + order.senderFee ≤ order.amountPaid then
      setErr (.updateOrder order.id .pending) <|
      setErr (.updateOrder order.id .initiated) <|
      setErr (.createOrder order.id) <| ret ()
    else ret ()

def settleWorker : RetryProgram :=
  attempt (.range .settle) (ret ()) fun m =>
  forEach m.lockOrders fun order => ignore (.settleOrder order.id) (ret ())

def refundWorker : RetryProgram :=
  attempt (.range .refund) (ret ()) fun m =>
  forEach m.lockOrders fun order => ignore (.refundOrder order.token.network order.gatewayId) (ret ())

def runQuery (pass : Pass) (k : RetryProgram) : RetryProgram :=
  act (.query pass) fun r =>
  ignore (.assignLockOrders pass (r.elim [] fun m => queryRows conf pass m.store)) <|
  ignore (.assignErr r.isNone) <|
  attempt (.checkErr pass) (ret ()) fun m => if m.err then ret () else k

def settleAndRefund (schedule : List ℕ) : RetryProgram :=
  runQuery conf .settle <| interleave schedule [settleWorker, runQuery conf .refund refundWorker]

def retryStaleUserOperations (schedule schedule' : List ℕ) : RetryProgram :=
  attempt .createQuery (ret ()) fun m =>
  interleave schedule' [createWorker m.store.staleOrders, settleAndRefund conf schedule]

def run (schedule schedule' schedule'' : List ℕ) (others : List RetryProgram) : RetryProgram :=
  interleave schedule'' (retryStaleUserOperations conf schedule schedule' :: others)

def IsOther : RetryCall → Prop
  | .other _ => True
  | _ => False

variable {pre post : RetryTrace} {x : Call RetryCall Memory} {t : RetryTrace}
  {rows : List LockPaymentOrder}

section Trace

abbrev RetryTrace := List (Call RetryCall Memory)

def returnedBy (pass : Pass) (x : Call RetryCall Memory) : List LockPaymentOrder :=
  match x.label, x.done with
  | .query pass', true => if pass' = pass then queryRows conf pass x.state.store else []
  | _, _ => []

def settledBy : RetryCall → List ℕ
  | .settleOrder id => [id]
  | _ => []

def refundedBy : RetryCall → List String
  | .refundOrder _ gatewayId => [gatewayId]
  | _ => []

def returned (pass : Pass) (t : RetryTrace) : List LockPaymentOrder := t.flatMap (returnedBy conf pass)

def settled (t : RetryTrace) : List ℕ := t.flatMap fun x => settledBy x.label

def refunded (t : RetryTrace) : List String := t.flatMap fun x => refundedBy x.label

def WorksOwnList (t : RetryTrace) : Prop :=
  (settled t).Perm ((returned conf .settle t).map LockPaymentOrder.id) ∧
    (refunded t).Perm ((returned conf .refund t).map LockPaymentOrder.gatewayId)

def Reassigned (t : RetryTrace) : Prop := ∃ y ∈ t, ∃ rows, y.label = .assignLockOrders .refund rows

structure InTime (t : RetryTrace) : Prop where
  check : ∀ x ∈ t, ∀ pass, x.label = .checkErr pass → x.state.err = true → returned conf pass t = []
  range : ∀ pre x post, t = pre ++ x :: post → x.label = .range .settle → Reassigned pre →
    ((returned conf .settle t).map LockPaymentOrder.id).Perm
      ((returned conf .refund t).map LockPaymentOrder.id)

def concerns (x : Call RetryCall Memory) : Bool :=
  match x.label with
  | .query _ | .assignLockOrders _ _ | .checkErr _ | .range _ | .settleOrder _ | .refundOrder _ _ => true
  | _ => false

def assigned (rows : List LockPaymentOrder) (x : Call RetryCall Memory) : List LockPaymentOrder :=
  match x.label, x.done with
  | .assignLockOrders _ rows', true => rows'
  | _, _ => rows

def HoldsList : List LockPaymentOrder → RetryTrace → Prop
  | _, [] => True
  | rows, x :: t => x.state.lockOrders = rows ∧ HoldsList (assigned rows x) t

variable {conf}

lemma flatMap_filter_concerns {α : Type} {f : Call RetryCall Memory → List α}
    (hf : ∀ x, concerns x = false → f x = []) (t : RetryTrace) :
    (t.filter concerns).flatMap f = t.flatMap f := by
  induction t with
  | nil => rfl
  | cons x t ih =>
    rw [List.filter_cons, List.flatMap_cons]
    split
    · rw [List.flatMap_cons, ih]
    next hx => rw [hf x (by simpa using hx), ih, List.nil_append]

lemma returned_filter (pass : Pass) (t : RetryTrace) :
    returned conf pass (t.filter concerns) = returned conf pass t := by
  refine flatMap_filter_concerns (fun x hx => ?_) t
  obtain ⟨label, m, done⟩ := x
  cases label <;> first | rfl | cases hx

lemma settled_filter (t : RetryTrace) : settled (t.filter concerns) = settled t := by
  refine flatMap_filter_concerns (fun x hx => ?_) t
  obtain ⟨label, m, done⟩ := x
  cases label <;> first | rfl | cases hx

lemma refunded_filter (t : RetryTrace) : refunded (t.filter concerns) = refunded t := by
  refine flatMap_filter_concerns (fun x hx => ?_) t
  obtain ⟨label, m, done⟩ := x
  cases label <;> first | rfl | cases hx

lemma worksOwnList_filter : WorksOwnList conf (t.filter concerns) ↔ WorksOwnList conf t := by
  rw [WorksOwnList, settled_filter, refunded_filter, returned_filter, returned_filter]
  rfl

lemma inTime_filter : InTime conf (t.filter concerns) ↔ InTime conf t := by
  constructor
  · rintro ⟨hcheck, hrange⟩
    refine ⟨fun x hx pass hlabel herr => ?_, fun pre x post ht hlabel hassign => ?_⟩
    · rw [← returned_filter]
      exact hcheck x (List.mem_filter.2 ⟨hx, by rw [concerns, hlabel]⟩) pass hlabel herr
    obtain ⟨y, hy, rows, hrows⟩ := hassign
    rw [← returned_filter .settle, ← returned_filter .refund]
    refine hrange (pre.filter concerns) x (post.filter concerns) ?_ hlabel
      ⟨y, List.mem_filter.2 ⟨hy, by rw [concerns, hrows]⟩, rows, hrows⟩
    rw [ht, List.filter_append, List.filter_cons_of_pos (by rw [concerns, hlabel])]
  · rintro ⟨hcheck, hrange⟩
    refine ⟨fun x hx pass hlabel herr => ?_, fun pre x post ht hlabel hassign => ?_⟩
    · rw [returned_filter]
      exact hcheck x (List.mem_filter.1 hx).1 pass hlabel herr
    obtain ⟨pre', rest, rfl, hpre, hrest⟩ := List.filter_eq_append_iff.1 ht
    obtain ⟨mid, post', rfl, -, -, -⟩ := List.filter_eq_cons_iff.1 hrest
    obtain ⟨y, hy, rows, hrows⟩ := hassign
    rw [returned_filter, returned_filter]
    refine hrange (pre' ++ mid) x post' (by simp) hlabel ⟨y, ?_, rows, hrows⟩
    exact List.mem_append_left _ (List.mem_filter.1 (hpre ▸ hy)).1

lemma holdsList_filter {m : Memory} (h : Chained RetryCall.exec m t) :
    HoldsList m.lockOrders (t.filter concerns) := by
  induction t generalizing m with
  | nil => trivial
  | cons x t ih =>
    obtain ⟨rfl, ht⟩ := h
    have hrest := ih ht
    obtain ⟨label, m, done⟩ := x
    cases label <;> cases done <;> first
      | exact ⟨rfl, hrest⟩
      | exact hrest

lemma HoldsList.state (h : HoldsList rows (pre ++ x :: post)) :
    x.state.lockOrders = pre.foldl assigned rows := by
  induction pre generalizing rows with
  | nil => exact h.1
  | cons y pre ih => exact ih h.2

lemma foldl_assigned_of_none (h : ∀ y ∈ pre, ∀ rows, assigned rows y = rows) :
    pre.foldl assigned rows = rows := by
  induction pre with
  | nil => rfl
  | cons y pre ih =>
    rw [List.forall_mem_cons] at h
    rw [List.foldl_cons, h.1, ih h.2]

lemma foldl_assigned_of_mem {new : List LockPaymentOrder}
    (h : ∀ y ∈ pre, ∀ rows, assigned rows y = rows ∨ assigned rows y = new)
    (hmem : rows = new ∨ ∃ y ∈ pre, ∀ rows, assigned rows y = new) :
    pre.foldl assigned rows = new := by
  induction pre generalizing rows with
  | nil => simpa using hmem
  | cons y pre ih =>
    rw [List.forall_mem_cons] at h
    refine ih h.2 ?_
    rcases hmem with rfl | ⟨z, hz, hnew⟩
    · exact .inl ((h.1 rows).elim id id)
    · rcases List.mem_cons.1 hz with rfl | hz
      · exact .inl (hnew rows)
      · exact .inr ⟨z, hz, hnew⟩

end Trace

section Paths

variable {conf} {pass : Pass} {schedule : List ℕ}

lemma path_runQuery {k : RetryProgram} (h : Path (runQuery conf pass k) t ())
    (hcells : FailsOnly RetryCall.MayFail t) :
    ∃ m₁ m₂ m₃ done u,
      t.filter concerns = ⟨.query pass, m₁, done⟩ ::
        ⟨.assignLockOrders pass (returnedBy conf pass ⟨.query pass, m₁, done⟩), m₂, true⟩ ::
        ⟨.checkErr pass, m₃, true⟩ :: u.filter concerns ∧
      FailsOnly RetryCall.MayFail u ∧ (if m₃.err then u = [] else Path k u ()) := by
  obtain ⟨m₁, done, w, rfl, hw⟩ : ∃ m₁ done w, t = ⟨.query pass, m₁, done⟩ :: w ∧
      Path (ignore (.assignLockOrders pass (returnedBy conf pass ⟨.query pass, m₁, done⟩)) <|
        ignore (.assignErr (!done)) <|
        attempt (.checkErr pass) (ret ()) fun m => if m.err then ret () else k) w () := by
    cases h with
    | @done _ _ m w _ hw => exact ⟨m, true, w, rfl, by simpa [returnedBy] using hw⟩
    | @failed _ _ m w _ hw => exact ⟨m, false, w, rfl, hw⟩
  obtain ⟨m₂, done₂, w₂, rfl, hw₂⟩ := path_ignore_iff.1 hw
  obtain ⟨m, done', w₃, rfl, hw₃⟩ := path_ignore_iff.1 hw₂
  obtain rfl : done₂ = true := by
    cases done₂ with
    | true => rfl
    | false => exact (hcells _ (List.mem_cons_of_mem _ List.mem_cons_self) rfl).elim
  rcases path_attempt_iff.1 hw₃ with ⟨m₃, u, rfl, hu⟩ | ⟨m₃, u, rfl, -⟩
  · refine ⟨m₁, m₂, m₃, done, u, rfl, fun x hx => hcells x (by simp [hx]), ?_⟩
    split at hu
    next herr =>
      rw [if_pos herr]
      exact (path_ret_iff.1 hu).1
    next herr => rwa [if_neg herr]
  · exact (hcells ⟨.checkErr pass, m₃, false⟩ (by simp) rfl).elim

lemma path_worker {call : LockPaymentOrder → RetryCall}
    (hcall : ∀ o m done, concerns ⟨call o, m, done⟩ = true)
    (h : Path (attempt (.range pass) (ret ()) fun m : Memory =>
      forEach m.lockOrders fun o => ignore (call o) (ret ())) t ())
    (hcells : FailsOnly RetryCall.MayFail t) :
    ∃ m calls, t.filter concerns = ⟨.range pass, m, true⟩ :: calls ∧
      calls.map Call.label = m.lockOrders.map call := by
  rcases path_attempt_iff.1 h with ⟨m, u, rfl, hu⟩ | ⟨m, u, rfl, -⟩
  · refine ⟨m, u.filter concerns, rfl, ?_⟩
    have hcalls : ∀ (orders : List LockPaymentOrder) (u : RetryTrace),
        Path (forEach orders fun o => ignore (call o) (ret ())) u () →
          (u.filter concerns).map Call.label = orders.map call := by
      intro orders
      induction orders with
      | nil =>
        intro u hu
        rw [(path_ret_iff.1 hu).1]
        rfl
      | cons o orders ih =>
        intro u hu
        obtain ⟨u₁, u₂, a, rfl, h₁, h₂⟩ := path_bind hu
        obtain ⟨m', done, v, rfl, hv⟩ := path_ignore_iff.1 h₁
        obtain ⟨rfl, -⟩ := path_ret_iff.1 hv
        rw [List.cons_append, List.filter_cons_of_pos (hcall o m' done), List.map_cons,
          List.nil_append, ih u₂ h₂, List.map_cons]
    exact hcalls _ u hu
  · exact (hcells ⟨.range pass, m, false⟩ (by simp) rfl).elim

structure Beside (conf : OrderConfig) (W : RetryTrace) where
  read : Memory
  settles : RetryTrace
  query : Call RetryCall Memory
  state : Memory
  check : Memory
  rest : RetryTrace
  settles_eq : settles.map Call.label = read.lockOrders.map fun o => RetryCall.settleOrder o.id
  query_label : query.label = .query .refund
  merge : Merge [⟨.range .settle, read, true⟩ :: settles,
    query :: ⟨.assignLockOrders .refund (returnedBy conf .refund query), state, true⟩ ::
      ⟨.checkErr .refund, check, true⟩ :: rest] W
  rest_eq : if check.err then rest = [] else ∃ m calls, rest = ⟨.range .refund, m, true⟩ :: calls ∧
    calls.map Call.label = m.lockOrders.map fun o => RetryCall.refundOrder o.token.network o.gatewayId

lemma path_beside
    (h : Path (interleave schedule [settleWorker, runQuery conf .refund refundWorker]) t ())
    (hcells : FailsOnly RetryCall.MayFail t) : Nonempty (Beside conf (t.filter concerns)) := by
  obtain ⟨ts, hpaths, hmerge⟩ := path_interleave schedule h
  obtain ⟨u, us, hu, hus, rfl⟩ := List.forall₂_cons_left_iff.1 hpaths
  obtain ⟨v, vs, hv, hvs, rfl⟩ := List.forall₂_cons_left_iff.1 hus
  obtain rfl := List.forall₂_nil_left_iff.1 hvs
  have hsub : ∀ w ∈ [u, v], FailsOnly RetryCall.MayFail w := fun w hw x hx =>
    hcells x ((hmerge.sublist hw).subset hx)
  obtain ⟨m, settles, hsettle, hsettles⟩ := path_worker (fun _ _ _ => rfl) hu (hsub u (by simp))
  obtain ⟨m₁, m₂, m₃, done, w, hrefund, hw, hpath⟩ := path_runQuery hv (hsub v (by simp))
  have hfiltered := hmerge.filter concerns
  rw [List.map_cons, List.map_singleton, hsettle, hrefund] at hfiltered
  refine ⟨⟨m, settles, _, m₂, m₃, _, hsettles, rfl, hfiltered, ?_⟩⟩
  split
  next herr =>
    rw [if_pos herr] at hpath
    rw [hpath]
    rfl
  next herr =>
    rw [if_neg herr] at hpath
    exact path_worker (fun _ _ _ => rfl) hpath hw

variable {W : RetryTrace}

namespace Beside

variable (B : Beside conf W)

def refunds : List LockPaymentOrder := returnedBy conf .refund B.query

lemma mem_iff :
    x ∈ W ↔ x = ⟨.range .settle, B.read, true⟩ ∨ x ∈ B.settles ∨ x = B.query ∨
      x = ⟨.assignLockOrders .refund B.refunds, B.state, true⟩ ∨
      x = ⟨.checkErr .refund, B.check, true⟩ ∨ x ∈ B.rest := by
  rw [B.merge.perm.mem_iff]
  simp [refunds]

lemma label_of_mem_settles (h : x ∈ B.settles) : ∃ id, x.label = .settleOrder id := by
  have hmem := List.mem_map_of_mem (f := Call.label) h
  rw [B.settles_eq] at hmem
  obtain ⟨o, -, ho⟩ := List.mem_map.1 hmem
  exact ⟨o.id, ho.symm⟩

lemma label_of_mem_rest (h : x ∈ B.rest) :
    x.label = .range .refund ∨ ∃ network gatewayId, x.label = .refundOrder network gatewayId := by
  have hrest := B.rest_eq
  split at hrest
  · rw [hrest] at h
    cases h
  obtain ⟨m, calls, hcalls, hlabels⟩ := hrest
  rw [hcalls] at h
  rcases List.mem_cons.1 h with rfl | h
  · exact .inl rfl
  have hmem := List.mem_map_of_mem (f := Call.label) h
  rw [hlabels] at hmem
  obtain ⟨o, -, ho⟩ := List.mem_map.1 hmem
  exact .inr ⟨_, _, ho.symm⟩

lemma assigned_eq (h : x ∈ W) :
    (∀ rows, assigned rows x = rows) ∧ (∀ pass rows, x.label ≠ .assignLockOrders pass rows) ∨
      x = ⟨.assignLockOrders .refund B.refunds, B.state, true⟩ := by
  have hother : ∀ x : Call RetryCall Memory, (∀ pass rows, x.label ≠ .assignLockOrders pass rows) →
      ∀ rows, assigned rows x = rows := by
    intro x hx rows
    rw [assigned]
    split
    next pass rows' hlabel _ => exact absurd hlabel (hx pass rows')
    · rfl
  have hleft : ∀ x : Call RetryCall Memory, (∀ pass rows, x.label ≠ .assignLockOrders pass rows) →
      (∀ rows, assigned rows x = rows) ∧ (∀ pass rows, x.label ≠ .assignLockOrders pass rows) :=
    fun x hx => ⟨hother x hx, hx⟩
  rcases B.mem_iff.1 h with rfl | hx | rfl | rfl | rfl | hx
  · exact .inl (hleft _ nofun)
  · obtain ⟨id, hid⟩ := B.label_of_mem_settles hx
    exact .inl (hleft _ (by rw [hid]; nofun))
  · exact .inl (hleft _ (by rw [B.query_label]; nofun))
  · exact .inr rfl
  · exact .inl (hleft _ nofun)
  · refine .inl (hleft _ ?_)
    rcases B.label_of_mem_rest hx with hlabel | ⟨network, gatewayId, hlabel⟩ <;> rw [hlabel] <;> nofun

lemma foldl_assigned (hW : W = pre ++ post) (rows : List LockPaymentOrder) :
    (Reassigned pre → pre.foldl assigned rows = B.refunds) ∧
      (¬ Reassigned pre → pre.foldl assigned rows = rows) := by
  have hpre : ∀ y ∈ pre, y ∈ W := fun y hy => hW ▸ List.mem_append_left _ hy
  constructor
  · rintro ⟨y, hy, rows', hlabel⟩
    refine foldl_assigned_of_mem (fun z hz rows => ?_) (.inr ⟨y, hy, fun rows => ?_⟩)
    · rcases B.assigned_eq (hpre z hz) with ⟨hsame, -⟩ | rfl
      · exact .inl (hsame rows)
      · exact .inr rfl
    · rcases B.assigned_eq (hpre y hy) with ⟨-, hno⟩ | rfl
      · exact absurd hlabel (hno _ _)
      · rfl
  · intro hno
    refine foldl_assigned_of_none fun y hy rows => ?_
    rcases B.assigned_eq (hpre y hy) with ⟨hsame, -⟩ | rfl
    · exact hsame rows
    · exact absurd ⟨_, hy, _, rfl⟩ hno

lemma eq_of_label_settle (hx : x ∈ W) (hlabel : x.label = .range .settle) :
    x = ⟨.range .settle, B.read, true⟩ := by
  rcases B.mem_iff.1 hx with rfl | hx | rfl | rfl | rfl | hx
  · rfl
  · obtain ⟨id, hid⟩ := B.label_of_mem_settles hx
    rw [hid] at hlabel
    cases hlabel
  · rw [B.query_label] at hlabel
    cases hlabel
  · cases hlabel
  · cases hlabel
  · rcases B.label_of_mem_rest hx with h | ⟨network, gatewayId, h⟩ <;> rw [h] at hlabel <;>
      cases hlabel

lemma lockOrders_refund (hW : HoldsList rows W) {m : Memory} {calls : RetryTrace}
    (hrest : B.rest = ⟨.range .refund, m, true⟩ :: calls) : m.lockOrders = B.refunds := by
  have hmem : (⟨.range .refund, m, true⟩ : Call RetryCall Memory) ∈ W :=
    B.mem_iff.2 (by simp [hrest])
  obtain ⟨pre, post, rfl⟩ := List.append_of_mem hmem
  rw [show m.lockOrders = pre.foldl assigned rows from hW.state]
  refine (B.foldl_assigned rfl rows).1 ?_
  -- in its own process the assignment comes before the range
  obtain ⟨u, hu, pre', post', hsplit, hpre, -⟩ := B.merge.exists_split rfl
  refine ⟨⟨.assignLockOrders .refund B.refunds, B.state, true⟩, hpre.subset ?_, _, rfl⟩
  rcases List.mem_pair.1 hu with rfl | rfl
  · have hsettle : (⟨.range .refund, m, true⟩ : Call RetryCall Memory) ∈
        (⟨.range .settle, B.read, true⟩ :: B.settles : RetryTrace) := hsplit ▸ by simp
    rcases List.mem_cons.1 hsettle with heq | hin
    · cases heq
    · obtain ⟨id, hid⟩ := B.label_of_mem_settles hin
      cases hid
  · rcases pre' with _ | ⟨x, _ | ⟨y, pre'⟩⟩
    · have hlabel := congrArg Call.label (List.cons_eq_cons.1 hsplit).1
      rw [B.query_label] at hlabel
      cases hlabel
    · cases (List.cons_eq_cons.1 (List.cons_eq_cons.1 hsplit).2).1
    · rw [(List.cons_eq_cons.1 (List.cons_eq_cons.1 hsplit).2).1.symm]
      simp [refunds]

lemma settled_perm : (settled W).Perm (B.read.lockOrders.map LockPaymentOrder.id) := by
  have hsettles : B.settles.flatMap (fun x => settledBy x.label) =
      B.read.lockOrders.map LockPaymentOrder.id := by
    rw [← List.flatMap_map (f := Call.label) (g := settledBy), B.settles_eq, List.flatMap_map,
      List.map_eq_flatMap]
    rfl
  have hrest : B.rest.flatMap (fun x => settledBy x.label) = [] := by
    refine List.flatMap_eq_nil_iff.2 fun x hx => ?_
    rcases B.label_of_mem_rest hx with h | ⟨network, gatewayId, h⟩ <;> rw [h] <;> rfl
  refine (B.merge.perm.flatMap_right _).trans (List.Perm.of_eq ?_)
  simp only [List.flatten_cons, List.flatten_nil, List.append_nil, List.flatMap_append,
    List.flatMap_cons, B.query_label, hsettles, hrest]
  simp [settledBy]

lemma refunded_perm : (refunded W).Perm (B.rest.flatMap fun x => refundedBy x.label) := by
  have hsettles : B.settles.flatMap (fun x => refundedBy x.label) = [] := by
    refine List.flatMap_eq_nil_iff.2 fun x hx => ?_
    obtain ⟨id, h⟩ := B.label_of_mem_settles hx
    rw [h]
    rfl
  refine (B.merge.perm.flatMap_right _).trans (List.Perm.of_eq ?_)
  simp only [List.flatten_cons, List.flatten_nil, List.append_nil, List.flatMap_append,
    List.flatMap_cons, B.query_label, hsettles]
  simp [refundedBy]

lemma returned_perm (pass : Pass) :
    (returned conf pass W).Perm (if pass = .refund then B.refunds else []) := by
  have hsettles : B.settles.flatMap (returnedBy conf pass) = [] := by
    refine List.flatMap_eq_nil_iff.2 fun x hx => ?_
    obtain ⟨id, h⟩ := B.label_of_mem_settles hx
    simp [returnedBy, h]
  have hrest : B.rest.flatMap (returnedBy conf pass) = [] := by
    refine List.flatMap_eq_nil_iff.2 fun x hx => ?_
    rcases B.label_of_mem_rest hx with h | ⟨network, gatewayId, h⟩ <;> simp [returnedBy, h]
  have hquery : returnedBy conf pass B.query = if pass = .refund then B.refunds else [] := by
    rw [refunds, returnedBy, returnedBy, B.query_label]
    cases B.query.done <;> cases pass <;> rfl
  refine (B.merge.perm.flatMap_right _).trans (List.Perm.of_eq ?_)
  simp only [List.flatten_cons, List.flatten_nil, List.append_nil, List.flatMap_append,
    List.flatMap_cons, hsettles, hrest, hquery]
  simp [returnedBy]

lemma refunds_worked_iff (hW : HoldsList rows W) :
    (B.rest.flatMap fun x => refundedBy x.label).Perm (B.refunds.map LockPaymentOrder.gatewayId) ↔
      (B.check.err = true → B.refunds = []) := by
  have hrest := B.rest_eq
  cases herr : B.check.err with
  | true =>
    rw [herr, if_pos rfl] at hrest
    rw [hrest]
    simp [List.nil_perm]
  | false =>
    rw [herr, if_neg Bool.false_ne_true] at hrest
    obtain ⟨m, calls, hrest, hcalls⟩ := hrest
    have hlist := B.lockOrders_refund hW hrest
    have hrefunded : B.rest.flatMap (fun x => refundedBy x.label) =
        B.refunds.map LockPaymentOrder.gatewayId := by
      rw [hrest, List.flatMap_cons, ← List.flatMap_map (f := Call.label) (g := refundedBy), hcalls,
        List.flatMap_map, ← hlist, List.map_eq_flatMap]
      rfl
    rw [hrefunded]
    simp

lemma read_eq (hW : HoldsList rows W) (hsplit : W = pre ++ x :: post)
    (hlabel : x.label = .range .settle) :
    (Reassigned pre → B.read.lockOrders = B.refunds) ∧
      (¬ Reassigned pre → B.read.lockOrders = rows) := by
  have hx := B.eq_of_label_settle (hsplit ▸ by simp) hlabel
  have hfold := B.foldl_assigned hsplit rows
  rw [hsplit] at hW
  have hstate := hW.state
  rw [hx] at hstate
  exact ⟨fun h => hstate.trans (hfold.1 h), fun h => hstate.trans (hfold.2 h)⟩

lemma check_of_mem (hx : x ∈ W) (hlabel : x.label = .checkErr pass) :
    pass = .refund ∧ x = ⟨.checkErr .refund, B.check, true⟩ := by
  rcases B.mem_iff.1 hx with rfl | hx | rfl | rfl | rfl | hx
  · cases hlabel
  · obtain ⟨id, hid⟩ := B.label_of_mem_settles hx
    rw [hid] at hlabel
    cases hlabel
  · rw [B.query_label] at hlabel
    cases hlabel
  · cases hlabel
  · cases hlabel
    exact ⟨rfl, rfl⟩
  · rcases B.label_of_mem_rest hx with h | ⟨network, gatewayId, h⟩ <;> rw [h] at hlabel <;>
      cases hlabel

end Beside

section Main

variable {q : Call RetryCall Memory} {m₂ m₃ : Memory}

def mainCalls (conf : OrderConfig) (q : Call RetryCall Memory) (m₂ m₃ : Memory) (W : RetryTrace) :
    RetryTrace :=
  q :: ⟨.assignLockOrders .settle (returnedBy conf .settle q), m₂, true⟩ ::
    ⟨.checkErr .settle, m₃, true⟩ :: W

variable (hq : q.label = .query .settle)
include hq

lemma returnedBy_refund : returnedBy conf .refund q = [] := by
  rw [returnedBy, hq]
  cases q.done <;> rfl

lemma stopped_iff (herr : m₃.err = true) :
    WorksOwnList conf (mainCalls conf q m₂ m₃ []) ↔ InTime conf (mainCalls conf q m₂ m₃ []) := by
  have hsettle : returned conf .settle (mainCalls conf q m₂ m₃ []) = returnedBy conf .settle q := by
    simp [returned, mainCalls, returnedBy]
  have hrefund : returned conf .refund (mainCalls conf q m₂ m₃ []) = [] := by
    simp [returned, mainCalls, returnedBy_refund hq]
    simp [returnedBy]
  have hworks : WorksOwnList conf (mainCalls conf q m₂ m₃ []) ↔ returnedBy conf .settle q = [] := by
    rw [WorksOwnList, hsettle, hrefund]
    simp [settled, refunded, mainCalls, settledBy, refundedBy, hq, List.nil_perm]
  rw [hworks]
  constructor
  · intro hnil
    refine ⟨fun x hx pass hlabel _ => ?_, fun pre x post hsplit hlabel _ => ?_⟩
    · cases pass with
      | settle => rw [hsettle, hnil]
      | refund => exact hrefund
    · have hx : x ∈ mainCalls conf q m₂ m₃ [] := hsplit ▸ by simp
      simp only [mainCalls, List.mem_cons, List.not_mem_nil, or_false] at hx
      rcases hx with rfl | rfl | rfl
      · rw [hq] at hlabel
        cases hlabel
      · cases hlabel
      · cases hlabel
  · intro h
    rw [← hsettle]
    exact h.check ⟨.checkErr .settle, m₃, true⟩ (by simp [mainCalls]) .settle rfl herr

lemma check_of_mem_mainCalls (hx : x ∈ mainCalls conf q m₂ m₃ W) (hlabel : x.label = .checkErr pass)
    :
    x = ⟨.checkErr .settle, m₃, true⟩ ∨ x ∈ W := by
  simp only [mainCalls, List.mem_cons] at hx
  rcases hx with rfl | rfl | rfl | hx
  · rw [hq] at hlabel
    cases hlabel
  · cases hlabel
  · exact .inl rfl
  · exact .inr hx

lemma split_mainCalls (hsplit : mainCalls conf q m₂ m₃ W = pre ++ x :: post)
    (hlabel : x.label = .range .settle) :
    ∃ pre', W = pre' ++ x :: post ∧ (Reassigned pre ↔ Reassigned pre') := by
  rw [mainCalls] at hsplit
  rcases pre with _ | ⟨a, _ | ⟨b, _ | ⟨c, pre⟩⟩⟩
  · obtain ⟨rfl, -⟩ := List.cons_eq_cons.1 hsplit
    rw [hq] at hlabel
    cases hlabel
  · cases hsplit
    cases hlabel
  · cases hsplit
    cases hlabel
  simp only [List.cons_append, List.cons.injEq] at hsplit
  obtain ⟨rfl, rfl, rfl, hW⟩ := hsplit
  refine ⟨pre, hW, ?_⟩
  simp [Reassigned, hq]

lemma beside_iff (herr : m₃.err = false) (B : Beside conf W)
    (hW : HoldsList (returnedBy conf .settle q) W) :
    WorksOwnList conf (mainCalls conf q m₂ m₃ W) ↔ InTime conf (mainCalls conf q m₂ m₃ W) := by
  have hnone : returned conf .settle W = [] := (B.returned_perm .settle).eq_nil
  have hsettle : returned conf .settle (mainCalls conf q m₂ m₃ W) = returnedBy conf .settle q := by
    simpa [returned, mainCalls, returnedBy] using hnone
  have hrefund : (returned conf .refund (mainCalls conf q m₂ m₃ W)).Perm B.refunds := by
    have hsame : returned conf .refund (mainCalls conf q m₂ m₃ W) = returned conf .refund W := by
      simp only [returned, mainCalls, List.flatMap_cons, returnedBy_refund hq]
      rfl
    exact (List.Perm.of_eq hsame).trans (B.returned_perm .refund)
  have hsettled : (settled (mainCalls conf q m₂ m₃ W)).Perm
      (B.read.lockOrders.map LockPaymentOrder.id) := by
    have hperm := B.settled_perm
    simpa [settled, mainCalls, settledBy, hq] using hperm
  have hrefunded : (refunded (mainCalls conf q m₂ m₃ W)).Perm
      (B.rest.flatMap fun x => refundedBy x.label) := by
    have hperm := B.refunded_perm
    simpa [refunded, mainCalls, refundedBy, hq] using hperm
  rw [WorksOwnList, hsettle, hsettled.congr_left, hrefunded.congr_left,
    (hrefund.map LockPaymentOrder.gatewayId).congr_right, B.refunds_worked_iff hW]
  constructor
  · rintro ⟨hread, hcheck⟩
    refine ⟨fun x hx pass hlabel hstate => ?_, fun pre x post hsplit hlabel hassign => ?_⟩
    · rcases check_of_mem_mainCalls hq hx hlabel with rfl | hx
      · rw [herr] at hstate
        cases hstate
      · obtain ⟨rfl, rfl⟩ := B.check_of_mem hx hlabel
        exact (hrefund.trans (List.Perm.of_eq (hcheck hstate))).eq_nil
    · obtain ⟨pre', hW', hiff⟩ := split_mainCalls hq hsplit hlabel
      rw [(B.read_eq hW hW' hlabel).1 (hiff.1 hassign)] at hread
      rw [hsettle]
      exact hread.symm.trans (hrefund.map _).symm
  · rintro ⟨hcheck, hrange⟩
    refine ⟨?_, fun hstate => ?_⟩
    · obtain ⟨pre, post, hsplit⟩ := List.append_of_mem (B.mem_iff.2 (.inl rfl))
      have hread := B.read_eq hW hsplit rfl
      by_cases hassign : Reassigned pre
      · rw [hread.1 hassign, ← hsettle]
        have hperm := hrange (mainCalls conf q m₂ m₃ pre) _ post (by rw [hsplit]; rfl) rfl
          (hassign.imp fun y hy => ⟨by simp [mainCalls, hy.1], hy.2⟩)
        exact ((hperm.trans (hrefund.map _))).symm
      · rw [hread.2 hassign]
    · have hmem : (⟨.checkErr .refund, B.check, true⟩ : Call RetryCall Memory) ∈
          mainCalls conf q m₂ m₃ W := by
        simp only [mainCalls, List.mem_cons]
        exact .inr (.inr (.inr (B.mem_iff.2 (by simp))))
      have hnil := hcheck _ hmem .refund rfl hstate
      rw [hnil] at hrefund
      exact hrefund.symm.eq_nil

end Main

lemma createWorker_uses (orders : List PaymentOrder) :
    Uses (fun l => ∀ m done, concerns ⟨l, m, done⟩ = false) (createWorker orders) := by
  refine uses_forEach fun order _ => ?_
  split
  · have hset : ∀ (call : RetryCall) (k : RetryProgram),
        (∀ m done, concerns ⟨call, m, done⟩ = false) →
        Uses (fun l => ∀ m done, concerns ⟨l, m, done⟩ = false) k →
        Uses (fun l => ∀ m done, concerns ⟨l, m, done⟩ = false) (setErr call k) :=
      fun call k hcall hk => ⟨hcall, fun _ => ⟨fun _ _ => rfl, fun _ => hk⟩⟩
    exact hset _ _ (fun _ _ => rfl) <| hset _ _ (fun _ _ => rfl) <| hset _ _ (fun _ _ => rfl) trivial
  · trivial

lemma exists_settleAndRefund {schedule' schedule'' : List ℕ} {others : List RetryProgram}
    (hothers : ∀ p ∈ others, Uses IsOther p)
    (h : Path (run conf schedule schedule' schedule'' others) t ()) :
    t.filter concerns = [] ∨ ∃ u, t.filter concerns = u.filter concerns ∧ u.Sublist t ∧
      Path (settleAndRefund conf schedule) u () := by
  obtain ⟨ts, hpaths, hmerge⟩ := path_interleave schedule'' h
  obtain ⟨u, us, hu, hus, rfl⟩ := List.forall₂_cons_left_iff.1 hpaths
  have hfilter : t.filter concerns = u.filter concerns := by
    refine hmerge.filter_eq (i := 0) rfl fun j v hj hv x hx => ?_
    obtain ⟨j, rfl⟩ := Nat.exists_eq_succ_of_ne_zero hj
    obtain ⟨p, hp, hpath⟩ := exists_of_forall₂ hus.flip (by simpa using hv : us[j]? = some v)
    have hother := hpath.uses (hothers p (List.mem_of_getElem? hp)) x hx
    obtain ⟨label, m, done⟩ := x
    cases label <;> first | rfl | exact hother.elim
  rcases path_attempt_iff.1 hu with ⟨m, v, rfl, hv⟩ | ⟨m, v, rfl, hv⟩
  · obtain ⟨vs, hpaths', hmerge'⟩ := path_interleave schedule' hv
    obtain ⟨x, xs, hx, hxs, rfl⟩ := List.forall₂_cons_left_iff.1 hpaths'
    obtain ⟨y, ys, hy, hys, rfl⟩ := List.forall₂_cons_left_iff.1 hxs
    obtain rfl := List.forall₂_nil_left_iff.1 hys
    refine .inr ⟨y, ?_, ?_, hy⟩
    · rw [hfilter, List.filter_cons_of_neg (by simp [concerns])]
      refine hmerge'.filter_eq (i := 1) rfl fun j w hj hw z hz => ?_
      rcases j with _ | _ | j
      · cases hw
        exact hx.uses (createWorker_uses _) z hz _ _
      · exact absurd rfl hj
      · simp at hw
    · exact ((hmerge'.sublist (by simp)).cons _).trans (hmerge.sublist List.mem_cons_self)
  · obtain ⟨rfl, -⟩ := path_ret_iff.1 hv
    exact .inl hfilter

end Paths

theorem worksOwnList_iff_inTime (schedule schedule' schedule'' : List ℕ)
    {others : List RetryProgram} (hothers : ∀ p ∈ others, Uses IsOther p) (faults : List Bool)
    (m : Memory)
    (hcells : FailsOnly RetryCall.MayFail
      ((run conf schedule schedule' schedule'' others).trace RetryCall.exec faults m)) :
    WorksOwnList conf
        ((run conf schedule schedule' schedule'' others).trace RetryCall.exec faults m) ↔
      InTime conf
        ((run conf schedule schedule' schedule'' others).trace RetryCall.exec faults m) := by
  have hpaths : ∃ a, Path (run conf schedule schedule' schedule'' others)
      ((run conf schedule schedule' schedule'' others).trace RetryCall.exec faults m) a :=
    path_trace _ faults m
  have hchained : Chained RetryCall.exec m
      ((run conf schedule schedule' schedule'' others).trace RetryCall.exec faults m) :=
    chained_trace _ faults m
  obtain ⟨_, hpath⟩ := hpaths
  have hholds := holdsList_filter hchained
  rw [← worksOwnList_filter, ← inTime_filter]
  rcases exists_settleAndRefund hothers hpath with hnil | ⟨u, hu, hsub, hmain⟩
  · rw [hnil]
    exact iff_of_true ⟨List.Perm.nil, List.Perm.nil⟩ ⟨nofun, fun pre x post h => by simp at h⟩
  obtain ⟨m₁, m₂, m₃, done, w, hw, hcells', hrest⟩ :=
    path_runQuery hmain fun x hx => hcells x (hsub.subset hx)
  rw [hu, hw] at hholds ⊢
  have hholds' : HoldsList (returnedBy conf .settle ⟨.query .settle, m₁, done⟩)
      (w.filter concerns) := hholds.2.2.2
  split at hrest
  next herr =>
    rw [hrest]
    exact stopped_iff rfl herr
  next herr =>
    obtain ⟨B⟩ := path_beside hrest hcells'
    exact beside_iff rfl (by simpa using herr) B hholds'

section Samples

open Sample

def refundableOrder : LockPaymentOrder :=
  { lockOrder with id := 2, gatewayId := "g2", status := .pending, provider := none, updatedAt := 500 }

def staleMemory : Memory where
  store := { Store.empty with
    now := 600
    lockOrders := ⟨[{ lockOrder with status := .validated }, refundableOrder], by decide⟩
    fulfillments := .single (fulfillment 1 "tx1" .success 1)
    paymentOrders := Table.empty.insert { paymentOrder 1 with amountPaid := 100, updatedAt := 500 }
    receiveAddresses := Table.empty.insert { receiveAddress 1 with status := .used } }
  lockOrders := []
  err := false

def staleRun (schedule schedule' : List ℕ) (faults : List Bool) : RetryTrace :=
  (run {} schedule schedule' [] []).trace RetryCall.exec faults staleMemory

theorem inTime_in_order :
    settled (staleRun [] [] []) = [1] ∧ refunded (staleRun [] [] []) = ["g2"] ∧
      InTime {} (staleRun [] [] []) :=
  ⟨by decide +kernel, by decide +kernel,
    (worksOwnList_iff_inTime {} [] [] [] (by simp : ∀ p ∈ ([] : List RetryProgram), _) [] staleMemory
      (failsOnly_trace_nil _)).1 ⟨by decide +kernel, by decide +kernel⟩⟩

theorem settles_refund_list_and_stops_early :
    (settled (staleRun [1, 1, 1, 1] [] []) = [2] ∧
      (returned {} .settle (staleRun [1, 1, 1, 1] [] [])).map LockPaymentOrder.id = [1]) ∧
    (settled (staleRun [] [1, 1, 1, 0, 0, 0, 0, 0, 0] (List.replicate 8 false ++ [true])) = [] ∧
      (returned {} .settle (staleRun [] [1, 1, 1, 0, 0, 0, 0, 0, 0]
        (List.replicate 8 false ++ [true]))).map LockPaymentOrder.id = [1]) := by
  decide +kernel

end Samples

end RetryWorkers

end Stablenode
