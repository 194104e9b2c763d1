import Stablenode.CreationRules
import Stablenode.HandlerLabels
import Stablenode.LedgerRuns
import Stablenode.Traces

/-! The amounts that `sendOrderRequest` reserves against the fiat amount of the stored order at any
later time. -/
namespace Stablenode.ReservedAmounts

open Proc

section Amounts

variable (id : ℕ) (amount fiat : ℚ)

structure Kept (x : Call CreationWrite Store) : Prop where
  rate : ∀ rate, x.label = .order (.setPaymentOrderRate id rate) → fiatAmount amount rate = fiat
  found : ∀ o ∈ x.state.lockOrders.get id, o.amount = amount ∧ o.fiat = fiat
  created : ∀ c network withLog, x.label = .createCommit c network withLog → x.done = true →
    ∀ o, c.save x.state = .ok o → o.id = id → o.amount = amount ∧ o.fiat = fiat

def Reserves (x : Call CreationWrite Store) : Prop :=
  ∀ provider currency a new, x.label = .order (.reserveCommit id provider currency a new) → a = fiat

abbrev Keeping : List (Call CreationWrite Store) → Prop :=
  While (Kept id amount fiat) (Reserves id fiat)

abbrev OrderKeeping : List (Call OrderWrite Store) → Prop :=
  While (fun x => Kept id amount fiat (x.relabel .order))
    fun x => Reserves id fiat (x.relabel .order)

def Agrees (order : OrderFields) : Prop :=
  order.id = id → order.amount = amount ∧ order.fiat = fiat

end Amounts

variable {id : ℕ} {amount fiat : ℚ}

lemma mergeable_keeping : Mergeable (Keeping id amount fiat) := mergeable_while _ _

lemma mergeable_orderKeeping : Mergeable (OrderKeeping id amount fiat) := mergeable_while _ _

variable {w : OrderWrite} {c : LockOrderCreate} {conf : OrderConfig} {env : Environment}

section Assignment

variable {order : OrderFields}

lemma reserves_of_offers (h : w.offers = false) (s : Store) (done : Bool) :
    Reserves id fiat ⟨.order w, s, done⟩ := by
  rintro provider currency a new ⟨⟩
  cases h

lemma orderKeeping_of_offers (h : w.offers = false) (s : Store) (done : Bool) :
    OrderKeeping id amount fiat [⟨w, s, done⟩] :=
  while_singleton (reserves_of_offers h s done)

lemma paths_of_offers {α : Type} {p : OrderProgram α} (h : Uses (fun w => w.offers = false) p) :
    Paths (OrderKeeping id amount fiat) p :=
  paths_of_uses mergeable_orderKeeping h fun _ hw => orderKeeping_of_offers hw

lemma sendOrderRequest_paths (h : Agrees id amount fiat order) :
    Paths (OrderKeeping id amount fiat) (sendOrderRequest conf env order) := by
  have huses : Uses (fun w => ∀ provider currency a new,
      w = OrderWrite.reserveCommit id provider currency a new → a = fiat)
      (sendOrderRequest conf env order) := by
    unfold sendOrderRequest
    split
    · trivial
    refine uses_attempt nofun trivial fun s => ?_
    split
    · trivial
    split
    · trivial
    refine uses_attempt nofun trivial fun s => ?_
    refine uses_ignore nofun ?_
    split
    · refine uses_attempt nofun trivial fun _ => ?_
      refine uses_attempt ?_ trivial fun _ => trivial
      rintro provider currency a new hlabel
      obtain ⟨hid, -, -, rfl, -⟩ := OrderWrite.reserveCommit.inj hlabel
      exact (h hid).2
    · trivial
  refine paths_of_uses mergeable_orderKeeping huses fun w hw s done => while_singleton ?_
  intro provider currency a new hlabel
  exact hw provider currency a new (CreationWrite.order.inj hlabel)

theorem assignLockPaymentOrder_paths (fuel : ℕ) (h : Agrees id amount fiat order) :
    Paths (OrderKeeping id amount fiat) (assignLockPaymentOrder conf env fuel order) := by
  have hmerge := @mergeable_orderKeeping id amount fiat
  have hrule : AssignmentRule conf env (Agrees id amount fiat) (fun _ => True)
      (Paths (OrderKeeping id amount fiat)) :=
    { ret := paths_ret hmerge
      bind := paths_bind hmerge
      read := paths_attempt hmerge (orderKeeping_of_offers rfl)
      readExclude := fun _ hf hk =>
        paths_attempt hmerge (orderKeeping_of_offers rfl) hf fun s => hk s trivial
      offer := fun _ h => h
      rotate := fun key hsend => by
        refine paths_attempt hmerge (orderKeeping_of_offers rfl) (paths_ret hmerge _) fun s => ?_
        split
        · exact paths_ret hmerge _
        · exact paths_attempt hmerge (orderKeeping_of_offers rfl) (paths_ret hmerge _)
            fun _ => hsend
      exclude := fun _ _ => paths_ignore hmerge (orderKeeping_of_offers rfl)
      setRate := fun rate h hk => by
        refine paths_while_ignore (reserves_of_offers rfl) fun s done hkept => ?_
        refine hk fun hid => ⟨(h hid).1, ?_⟩
        rw [OrderFields.fiat, (h hid).1]
        exact hkept.rate _ (by rw [← hid]; rfl)
      send := fun h _ _ => sendOrderRequest_paths h }
  exact hrule.assignLockPaymentOrder fuel h

end Assignment

section Tasks

variable {fuel : ℕ} {order : LockPaymentOrder}

lemma reassignCancelledOrder_paths (h : order.id = id → order.amount = amount ∧ order.fiat = fiat)
    (provider : ProviderProfile) (fulfillment : Option ℕ) :
    Paths (OrderKeeping id amount fiat)
      (reassignCancelledOrder conf env fuel order provider fulfillment) := by
  have hmerge := @mergeable_orderKeeping id amount fiat
  exact reassignCancelledOrder_rule (W := fun w => w.offers = false) (paths_ret hmerge)
    (fun _ _ hw hk => paths_attempt hmerge (orderKeeping_of_offers hw) (paths_ret hmerge _) hk)
    (fun _ hk => paths_bind hmerge (assignLockPaymentOrder_paths fuel h) hk) rfl rfl fun _ _ => rfl

lemma syncOrder_paths (h : order.id = id → order.amount = amount ∧ order.fiat = fiat)
    (provider : Option ProviderProfile) (fs : List LockOrderFulfillment) :
    Paths (OrderKeeping id amount fiat) (syncOrder conf env fuel order provider fs) := by
  have hmerge := @mergeable_orderKeeping id amount fiat
  cases provider with
  | none => exact paths_ret hmerge _
  | some provider =>
    simp only [syncOrder]
    split_ifs
    · exact reassignCancelledOrder_paths h provider none
    · exact paths_of_offers (syncUnfulfilled_offers order)
    refine paths_forWhile hmerge fun f _ => ?_
    cases hstatus : f.validationStatus with
    | failed =>
      simp only [syncFulfillment, hstatus]
      exact reassignCancelledOrder_paths h provider _
    | _ => exact paths_of_offers (syncFulfillment_offers order provider (by simp [hstatus]))

lemma syncLockOrderFulfillments_paths :
    Paths (OrderKeeping id amount fiat) (syncLockOrderFulfillments conf env fuel) := by
  have hmerge := @mergeable_orderKeeping id amount fiat
  refine paths_while_attempt (reserves_of_offers rfl) (fun _ _ => paths_ret hmerge _)
    fun s hkept => ?_
  refine paths_forWhile hmerge fun o ho => syncOrder_paths (fun hid => ?_) _ _
  have hget := Table.get_of_mem (List.mem_of_mem_filter ho)
  rw [show LockPaymentOrder.id o = id from hid] at hget
  exact hkept.found o hget

end Tasks

variable {s : Store} {o : LockPaymentOrder}

section Creation

variable {I : Indexer} {event : OrderCreatedEvent} {fields : LockPaymentOrderFields}

def Frees (l : CreationWrite) : Prop :=
  ∀ id provider currency a new, l ≠ .order (.reserveCommit id provider currency a new)

variable {l : CreationWrite}

lemma Frees.reserves (h : Frees l) (s : Store) (done : Bool) : Reserves id fiat ⟨l, s, done⟩ :=
  fun provider currency a new hlabel => absurd hlabel (h id provider currency a new)

lemma Frees.keeping (h : Frees l) (s : Store) (done : Bool) :
    Keeping id amount fiat [⟨l, s, done⟩] :=
  while_singleton (h.reserves s done)

lemma frees_of_offers (h : w.offers = false) : Frees (.order w) := by
  rintro id provider currency a new ⟨⟩
  cases h

lemma frees_of_refusal (h : Creation.RefusalLabel l) : Frees l := by
  cases h with
  | read | call => exact frees_of_offers rfl
  | createCancelled => nofun

lemma frees_createCommit (c : LockOrderCreate) (network : String) (withLog : Bool) :
    Frees (.createCommit c network withLog) := nofun

lemma exists_row_of_save (h : c.save s = .ok o) :
    ∃ token, o = c.defaults.row token s.lockOrders.fresh s.now := by
  rw [LockOrderCreate.save] at h
  split at h
  · cases h
  · cases h
  rename_i token _ _
  dsimp only at h
  split_ifs at h
  exact ⟨token, (Except.ok.inj h).symm⟩

lemma save_amounts (h : fields.create.save s = .ok o) :
    o.amount = fields.amount ∧ o.rate = fields.rate := by
  obtain ⟨token, rfl⟩ := exists_row_of_save h
  exact ⟨rfl, rfl⟩

lemma save_id (h : c.save s = .ok o) : o.id = s.lockOrders.fresh := by
  obtain ⟨token, rfl⟩ := exists_row_of_save h
  rfl

lemma handleCancellation_offers (order : LockPaymentOrder) (reason : String) :
    Uses (fun w => w.offers = false) (handleCancellation order reason) := by
  refine uses_attempt rfl trivial fun _ => ?_
  refine uses_attempt rfl trivial fun s => ?_
  split
  · trivial
  · exact uses_ignore rfl trivial

lemma assignCreated_paths (hamounts : o.amount = fields.amount ∧ o.rate = fields.rate)
    (h : o.id = id → o.amount = amount ∧ o.fiat = fiat) :
    Paths (Keeping id amount fiat) (I.assignCreated fields o) := by
  have hmerge := @mergeable_keeping id amount fiat
  rw [Indexer.assignCreated]
  split_ifs
  · refine paths_bind hmerge (paths_while_mapLabel (paths_of_offers ?_)) fun r => ?_
    · exact handleCancellation_offers o _
    · cases r <;> exact paths_ret hmerge _
  have hagrees : Agrees id amount fiat (fields.assignment o.id) := by
    intro hid
    obtain ⟨hamount, hfiat⟩ := h hid
    rw [LockPaymentOrder.fiat, hamounts.1, hamounts.2] at hfiat
    exact ⟨hamounts.1.symm.trans hamount, hfiat⟩
  refine paths_bind hmerge
    (paths_while_mapLabel (assignLockPaymentOrder_paths I.fuel hagrees)) fun r => ?_
  cases r <;> exact paths_ret hmerge _

lemma commitLockPaymentOrder_paths (withLog : Bool) :
    Paths (Keeping id amount fiat) (I.commitLockPaymentOrder fields withLog) := by
  have hmerge := @mergeable_keeping id amount fiat
  refine paths_while_attempt (frees_createCommit _ _ _).reserves
    (fun _ _ => paths_ret hmerge _) fun s hkept => ?_
  split
  · exact paths_ret hmerge _
  · rename_i o ho
    exact assignCreated_paths (save_amounts ho) (hkept.created _ _ _ rfl rfl o ho)

theorem createLockPaymentOrder_paths (background : List ℕ) :
    Paths (Keeping id amount fiat) (I.createLockPaymentOrder background event) := by
  have hmerge := @mergeable_keeping id amount fiat
  have hread : Frees .read := frees_of_offers rfl
  have hpasses : Creation.Passes (Paths (Keeping id amount fiat)) :=
    { ret := fun r => paths_ret hmerge r
      refuse := fun h => paths_of_uses hmerge h fun _ hl => (frees_of_refusal hl).keeping
      read := fun hf hk => paths_attempt hmerge hread.keeping hf hk
      bind := fun hp hg =>
        paths_bind hmerge (paths_of_uses hmerge hp fun _ hl => by rw [hl]; exact hread.keeping) hg }
  refine paths_attempt hmerge hread.keeping (paths_ret hmerge _) fun s => ?_
  split
  · exact paths_ret hmerge _
  refine paths_interleave hmerge background fun p hp => ?_
  simp only [List.mem_cons, List.not_mem_nil, or_false] at hp
  rcases hp with rfl | rfl
  · exact paths_discard hmerge <|
      hpasses.checkAndStore fun _ _ _ _ _ => commitLockPaymentOrder_paths
  · exact paths_of_uses hmerge (Creation.uses_linkPaymentOrder hread (fun _ => nofun)
      (fun _ => nofun) (fun _ _ => frees_of_offers rfl) 30) fun _ hl => hl.keeping

end Creation

section Runs

inductive Op where
  | createLockPaymentOrder (I : Indexer) (background : List ℕ) (event : OrderCreatedEvent)
  | syncLockOrderFulfillments (env : Environment) (fuel : ℕ)
  | reassignStaleOrderRequest (order : Option ℕ)
  | requestExpiry (order : ℕ)
  | acceptOrder (provider : ProviderProfile) (param : Option ℕ)
  | declineOrder (provider : ProviderProfile) (param : Option ℕ)
  | fulfillOrder (payload : FulfillLockOrderPayload) (param : Option ℕ)
  | cancelOrder (fuel : ℕ) (provider : ProviderProfile) (reason : String) (param : Option ℕ)
  | orderRefunded (network : String) (event : OrderRefundedEvent) (messageHash : String)
  | orderSettled (network : String) (event : OrderSettledEvent) (messageHash : String)
  | fetchProviderBalances (reported : List ReportedBalance)
  | tick (seconds : ℕ)

def Op.program (conf : OrderConfig) : Op → CreationProgram Unit
  | createLockPaymentOrder I background event => I.createLockPaymentOrder background event
  | syncLockOrderFulfillments env fuel =>
    (Stablenode.syncLockOrderFulfillments conf env fuel).discard.mapLabel .order
  | reassignStaleOrderRequest order =>
    (Stablenode.reassignStaleOrderRequest order).discard.mapLabel .order
  | requestExpiry order => (OrderLedger.expireRequest order).mapLabel .order
  | acceptOrder provider param => (Stablenode.acceptOrder provider param).discard.mapLabel .order
  | declineOrder provider param => (Stablenode.declineOrder provider param).discard.mapLabel .order
  | fulfillOrder payload param => (Stablenode.fulfillOrder payload param).discard.mapLabel .order
  | cancelOrder fuel provider reason param =>
    (Stablenode.cancelOrder conf fuel provider reason param).discard.mapLabel .order
  | orderRefunded network event messageHash =>
    (updateOrderStatusRefunded network event messageHash).discard.mapLabel .order
  | orderSettled network event messageHash =>
    (updateOrderStatusSettled network event messageHash).discard.mapLabel .order
  | fetchProviderBalances reported => (Stablenode.fetchProviderBalances reported).mapLabel .order
  | tick seconds => ignore (.order (.tick seconds)) (ret ())

def run (conf : OrderConfig) (schedule : List ℕ) (ops : List Op) : CreationProgram Unit :=
  interleave schedule (ops.map (Op.program conf))

def keepsRate (id : ℕ) (x : Call CreationWrite Store) : Bool :=
  match x.label with
  | .order (.setPaymentOrderRate order rate) =>
    order ≠ id ∨ (x.state.lockOrders.get id).any fun o => fiatAmount o.amount rate = o.fiat
  | _ => true

def reservation (id : ℕ) (x : Call CreationWrite Store) : Option ℚ :=
  match x.label with
  | .order (.reserveCommit order _ _ amount _) => if order = id then some amount else none
  | _ => none

variable {x : Call CreationWrite Store}

lemma Reserves.eq_of_mem (h : Reserves id fiat x) {reserved : ℚ}
    (hreserved : reserved ∈ reservation id x) : reserved = fiat := by
  rw [reservation] at hreserved
  split at hreserved
  · rename_i order provider currency a new hlabel
    split_ifs at hreserved with hid
    · obtain rfl := Option.some.inj hreserved
      exact h provider currency a new (by rw [hlabel, hid])
    · cases hreserved
  · cases hreserved

lemma op_paths (op : Op) : Paths (Keeping id amount fiat) (op.program conf) := by
  have hmerge := @mergeable_keeping id amount fiat
  have hdiscard {α : Type} {p : OrderProgram α} (h : Uses (fun w => w.offers = false) p) :
      Paths (Keeping id amount fiat) (p.discard.mapLabel .order) :=
    paths_while_mapLabel (paths_discard mergeable_orderKeeping (paths_of_offers h))
  cases op with
  | createLockPaymentOrder I background event => exact createLockPaymentOrder_paths background
  | syncLockOrderFulfillments env fuel =>
    exact paths_while_mapLabel <|
      paths_discard mergeable_orderKeeping syncLockOrderFulfillments_paths
  | reassignStaleOrderRequest order => exact hdiscard (reassignStaleOrderRequest_offers order)
  | requestExpiry order =>
    refine paths_while_mapLabel (paths_of_offers (uses_attempt rfl trivial fun s => ?_))
    split
    · exact uses_ignore rfl trivial
    · trivial
  | acceptOrder provider param => exact hdiscard (acceptOrder_uses provider param)
  | declineOrder provider param => exact hdiscard (declineOrder_uses provider param)
  | fulfillOrder payload param =>
    exact hdiscard ((fulfillOrder_uses payload param).mono fun _ => OrderWrite.offers_of_fulfills)
  | cancelOrder fuel provider reason param =>
    exact hdiscard (cancelOrder_uses conf provider fuel reason param)
  | orderRefunded network event messageHash =>
    exact hdiscard (updateOrderStatusRefunded_uses network messageHash event)
  | orderSettled network event messageHash =>
    exact hdiscard (updateOrderStatusSettled_uses network messageHash event)
  | fetchProviderBalances reported =>
    exact paths_while_mapLabel (paths_of_offers (fetchProviderBalances_offers reported))
  | tick seconds => exact paths_ignore hmerge (frees_of_offers rfl).keeping (paths_ret hmerge _)

def Stored (id : ℕ) (amount fiat : ℚ) (s : Store) : Prop :=
  ∃ o, s.lockOrders.get id = some o ∧ o.amount = amount ∧ o.fiat = fiat

lemma changeOrder_isSome (h : w ≠ .deleteOrder o.id) : ∃ o', w.changeOrder s o = some o' := by
  cases w <;> simp only [OrderWrite.changeOrder] <;> first
    | exact ⟨_, rfl⟩
    | (split_ifs with hid
       · subst hid
         exact absurd rfl h
       · exact ⟨_, rfl⟩)

lemma get_save {row : LockPaymentOrder} (hrow : c.save s = .ok row)
    (ho : s.lockOrders.get id = some o) : (s.lockOrders.insert row).get id = some o := by
  have hfresh : row.id = s.lockOrders.fresh := save_id hrow
  rw [Table.get_insert_of_ne, ho]
  rintro rfl
  rw [hfresh, Table.get_fresh] at ho
  cases ho

lemma Stored.exec {l : CreationWrite} (h : Stored id amount fiat s)
    (hl : l ≠ .order (.deleteOrder id)) : Stored id amount fiat (l.exec s) := by
  obtain ⟨o, ho, hamount, hfiat⟩ := h
  cases l with
  | order w =>
    obtain ⟨o', hchange⟩ : ∃ o', w.changeOrder s o = some o' := by
      refine changeOrder_isSome ?_
      rintro rfl
      exact hl (by rw [← Table.get_key ho])
    obtain ⟨-, hamount', hrate, -⟩ := OrderWrite.changeOrder_same hchange
    refine ⟨o', ?_, hamount'.trans hamount, ?_⟩
    · rw [CreationWrite.exec, OrderWrite.exec_getLockOrder, ho, Option.bind_some, hchange]
    · rw [LockPaymentOrder.fiat, hamount', hrate, ← hfiat]
      rfl
  | linkPaymentOrder paymentOrder event =>
    refine ⟨o, ?_, hamount, hfiat⟩
    simp only [CreationWrite.exec]
    split_ifs <;> exact ho
  | refetchPaymentOrder paymentOrder => exact ⟨o, ho, hamount, hfiat⟩
  | createCancelled c | createCommit c network withLog =>
    refine ⟨o, ?_, hamount, hfiat⟩
    simp only [CreationWrite.exec]
    split
    · exact ho
    · rename_i row hrow
      exact get_save hrow ho

lemma kept_of_later {before after : List (Call CreationWrite Store)} {d : Call CreationWrite Store}
    (hchained : Chained CreationWrite.exec s (before ++ d :: after))
    (ho : d.state.lockOrders.get id = some o)
    (hdelete : ∀ x ∈ before, x.done = true → x.label ≠ .order (.deleteOrder id))
    (hrate : ∀ x ∈ before, keepsRate id x = true) (hx : x ∈ before) :
    Kept id o.amount o.fiat x := by
  obtain ⟨pre, mid, rfl⟩ := List.append_of_mem hx
  -- what is stored after the call is what the later call finds
  have hlater : ∀ {amount fiat : ℚ},
      Stored id amount fiat (if x.done then x.label.exec x.state else x.state) →
        o.amount = amount ∧ o.fiat = fiat := by
    intro amount fiat hafter
    obtain ⟨o', ho', hamounts⟩ := hchained.later hafter fun z hz hdone hstored =>
      hstored.exec (hdelete z (by simp [hz]) hdone)
    rw [ho] at ho'
    obtain rfl := Option.some.inj ho'
    exact hamounts
  have hfound : ∀ o' ∈ x.state.lockOrders.get id, o.amount = o'.amount ∧ o.fiat = o'.fiat := by
    intro o' ho'
    refine hlater ?_
    have hstored : Stored id o'.amount o'.fiat x.state := ⟨o', ho', rfl, rfl⟩
    cases hdone : x.done with
    | false => exact hstored
    | true => exact hstored.exec (hdelete x hx hdone)
  refine ⟨fun rate hlabel => ?_, fun o' ho' => ?_,
    fun c network withLog hlabel hdone o' hsave hid => ?_⟩
  · have hkeeps := hrate x hx
    simp only [keepsRate, hlabel, ne_eq, not_true_eq_false, false_or, decide_eq_true_eq,
      Option.any_eq_true] at hkeeps
    obtain ⟨o', ho', hfiat⟩ := hkeeps
    obtain ⟨hamount, hfiat'⟩ := hfound o' ho'
    rw [hamount, hfiat', hfiat]
  · obtain ⟨hamount, hfiat⟩ := hfound o' ho'
    exact ⟨hamount.symm, hfiat.symm⟩
  have hstored : Stored id o'.amount o'.fiat (x.label.exec x.state) := by
    refine ⟨o', ?_, rfl, rfl⟩
    simp only [hlabel, CreationWrite.exec, hsave]
    rw [← hid]
    refine Table.get_insert_self ?_
    rw [save_id hsave, Table.get_fresh]
  obtain ⟨hamount, hfiat⟩ := hlater (by rw [hdone]; exact hstored)
  exact ⟨hamount.symm, hfiat.symm⟩

theorem reserved_eq_fiat (conf : OrderConfig) (schedule : List ℕ) (ops : List Op)
    (faults : List Bool) (s : Store) (before after : List (Call CreationWrite Store))
    (d : Call CreationWrite Store) (id : ℕ) (o : LockPaymentOrder)
    (htrace : (run conf schedule ops).trace CreationWrite.exec faults s = before ++ d :: after)
    (ho : d.state.lockOrders.get id = some o)
    (hdelete : ∀ x ∈ before, x.done = true → x.label ≠ .order (.deleteOrder id))
    (hrate : ∀ x ∈ before, keepsRate id x = true) :
    ∀ x ∈ before, ∀ reserved ∈ reservation id x, reserved = o.fiat := by
  intro x hx reserved hreserved
  have hpaths : Paths (Keeping id o.amount o.fiat) (run conf schedule ops) := by
    refine paths_interleave mergeable_keeping schedule fun p hp => ?_
    obtain ⟨op, -, rfl⟩ := List.mem_map.1 hp
    exact op_paths op
  have hchained : Chained CreationWrite.exec s
      ((run conf schedule ops).trace CreationWrite.exec faults s) := chained_trace _ _ _
  obtain ⟨u, hpath⟩ : ∃ u, Path (run conf schedule ops)
      ((run conf schedule ops).trace CreationWrite.exec faults s) u := path_trace _ _ _
  rw [htrace] at hchained hpath
  obtain ⟨pre, mid, hsplit⟩ := List.append_of_mem hx
  have hreserves : Reserves id o.fiat x :=
    hpaths _ u hpath pre x (mid ++ d :: after) (by simp [hsplit]) fun y hy =>
      kept_of_later hchained ho hdelete hrate (by simp [hsplit, hy])
  exact hreserves.eq_of_mem hreserved

end Runs

open Sample

def namedIndexer (rate : Option ℚ) : Indexer :=
  { indexer with
    env := { Environment.silent with providerRate := fun _ _ _ => rate }
    offers := [⟨"p1", .publicMode, true, ["NGN"], 1, "NGN", "base", "0xprovider", 0, 1000⟩]
    recipient := fun _ => some (some ⟨"bank", "001", "name", "", "p1"⟩) }

def namedTrace (rate : Option ℚ) : List (Call CreationWrite Store) :=
  (run {} [] [.createLockPaymentOrder (namedIndexer rate) [] (createdEvent "0xtx" "g1" "m1"),
    .acceptOrder provider (some 0), .cancelOrder 2 provider "busy" (some 0)]).trace
    CreationWrite.exec []
    { Store.empty with
      balances := .single ⟨"p1", "NGN", ⟨100, 0, 100⟩, true, 0⟩
      providers := .single provider
      now := 1000 }

theorem reserved_eq_fiat_named : (namedTrace (some 1)).filterMap (reservation 0) = [40] ∧
    ∀ x ∈ (namedTrace (some 1)).take 56, ∀ reserved ∈ reservation 0 x, reserved = 40 := by
  refine ⟨by decide +kernel, ?_⟩
  have hrow : ((namedTrace (some 1))[56]?.bind fun d => d.state.lockOrders.get 0).map
      LockPaymentOrder.fiat = some 40 := by decide +kernel
  obtain ⟨o, hfound, hfiat⟩ := Option.map_eq_some_iff.1 hrow
  obtain ⟨d, hd, ho⟩ := Option.bind_eq_some_iff.1 hfound
  have htrace : namedTrace (some 1) =
      (namedTrace (some 1)).take 56 ++ d :: (namedTrace (some 1)).drop 57 := by
    obtain ⟨hlt, rfl⟩ := List.getElem?_eq_some_iff.1 hd
    rw [List.getElem_cons_drop, List.take_append_drop]
  rw [← hfiat]
  exact reserved_eq_fiat {} [] _ [] _ _ _ d 0 o htrace ho (by decide +kernel) (by decide +kernel)

def fiatAtRelease (id : ℕ) (x : Call CreationWrite Store) : Option ℚ :=
  match x.label with
  | .order (.releaseCommit _ _ _) => (x.state.lockOrders.get id).map LockPaymentOrder.fiat
  | _ => none

theorem named_reserves_more_than_released :
    (namedTrace (some 2)).filterMap (reservation 0) = [80] ∧
      (namedTrace (some 2)).filterMap (fiatAtRelease 0) = [40] := by
  decide +kernel

end Stablenode.ReservedAmounts
