import Stablenode.CreationRules
import Stablenode.HandlerLabels
import Stablenode.Submissions

/-! The calls of `SendPaymentOrderWebhook` (utils/utils.go) that follow the changes of a payment
order's status. -/
namespace Stablenode.WebhookCalls

open Proc Creation

def statusName : PaymentOrderStatus → String
  | .initiated => "initiated"
  | .processing => "processing"
  | .pending => "pending"
  | .validated => "validated"
  | .expired => "expired"
  | .settled => "settled"
  | .refunded => "refunded"

def webhookEvent (webhookURL : Option String) (status : PaymentOrderStatus) : Option String :=
  match webhookURL with
  | none | some "" => none
  | some _ =>
    match status with
    | .pending => some "payment_order.pending"
    | .validated => some "payment_order.validated"
    | .expired => some "payment_order.expired"
    | .settled => some "payment_order.settled"
    | .refunded => some "payment_order.refunded"
    | _ => none

def announced : List PaymentOrderStatus := [.pending, .validated, .expired, .settled, .refunded]

lemma webhookEvent_announced {url : String} (hurl : url ≠ "") {status : PaymentOrderStatus}
    (h : status ∈ announced) :
    webhookEvent (some url) status = some ("payment_order." ++ statusName status) := by
  have hsome : webhookEvent (some url) status = webhookEvent (some "url") status := by
    unfold webhookEvent
    split
    · rename_i heq
      simp at heq
    · rename_i heq
      exact absurd (Option.some.inj heq) hurl
    · rfl
  rw [hsome]
  simp only [announced, List.mem_cons, List.not_mem_nil, or_false] at h
  rcases h with rfl | rfl | rfl | rfl | rfl <;> rfl

def statusSet : SideWrite → Option PaymentOrderStatus
  | .payment (.update _ (.status .expired)) => some .expired
  | .creation (.linkPaymentOrder _ _) => some .pending
  | .creation (.order (.setPaymentOrderStatus _ status)) => some status
  | .creation (.order (.gatewayCommit _ (some c))) => c.status
  | _ => none

def webhook : SideWrite → Option (ℕ × PaymentOrderStatus)
  | .payment (.call (.paymentOrderWebhook id status)) => some (id, status)
  | .creation (.order (.call (.paymentOrderWebhook id status))) => some (id, status)
  | _ => none

structure Turns (order : ℕ) (status : PaymentOrderStatus) (x : Call SideWrite Store) : Prop where
  done : x.done = true
  sets : statusSet x.label = some status
  changes : ∃ o ∈ x.state.paymentOrders.get order,
    ∃ o' ∈ (x.label.exec x.state).paymentOrders.get order, o.status ≠ status ∧ o'.status = status

instance (order : ℕ) (status : PaymentOrderStatus) : DecidablePred (Turns order status) := fun x =>
  decidable_of_iff (x.done = true ∧ statusSet x.label = some status ∧
    ∃ o ∈ x.state.paymentOrders.get order,
      ∃ o' ∈ (x.label.exec x.state).paymentOrders.get order, o.status ≠ status ∧ o'.status = status)
    ⟨fun h => ⟨h.1, h.2.1, h.2.2⟩, fun h => ⟨h.done, h.sets, h.changes⟩⟩

def Announces (url : String) (order : ℕ) (status : PaymentOrderStatus)
    (y : Call SideWrite Store) : Prop :=
  webhook y.label = some (order, status) ∧
    webhookEvent (some url) status = some ("payment_order." ++ statusName status)

instance (url : String) (order : ℕ) (status : PaymentOrderStatus) :
    DecidablePred (Announces url order status) := fun y => by unfold Announces; infer_instance

def ToldAll (url : String) (t : List (Call SideWrite Store)) : Prop :=
  ∀ order, ∀ status ∈ announced,
    Answered (Turns order status) (fun _ y => Announces url order status y) t

def EntityCurrent (x : Call SideWrite Store) : Prop :=
  match x.label with
  | .payment (.update order (.status .expired)) =>
    ∀ o ∈ x.state.paymentOrders.get order, o.status = .expired
  | .creation (.order (.setPaymentOrderStatus order status)) =>
    ∀ o ∈ x.state.paymentOrders.get order, o.status = status
  | .creation (.refetchPaymentOrder order) =>
    x.done = true ∧ ∃ o ∈ x.state.paymentOrders.get order, o.status = .pending
  | .creation (.order (.gatewayCommit _ (some c))) =>
    ∀ o ∈ x.state.paymentOrders.rows, c.selects o = true → o.id = c.paymentOrder
  | _ => True

instance : DecidablePred EntityCurrent := fun x => by
  unfold EntityCurrent
  split <;> infer_instance

variable {order : ℕ} {status : PaymentOrderStatus}

section Calls

variable {x : Call SideWrite Store}

lemma Turns.stored (h : Turns order status x) : ∃ o, x.state.paymentOrders.get order = some o ∧
    o.status ≠ status ∧ (x.label.change x.state o).status = status := by
  obtain ⟨o, ho, o', ho', hne, heq⟩ := h.changes
  have ho : x.state.paymentOrders.get order = some o := ho
  have ho' : (x.label.exec x.state).paymentOrders.get order = some o' := ho'
  rw [SideWrite.exec_getPaymentOrder, ho] at ho'
  obtain rfl := Option.some.inj ho'
  exact ⟨o, ho, hne, heq⟩

lemma Turns.of_ite {p : Prop} [Decidable p] {f : PaymentOrder → PaymentOrder}
    {q : PaymentOrder → Prop} [DecidablePred q] (h : Turns order status x)
    (hchange : ∀ o, x.label.change x.state o = if ¬ p ∧ q o then f o else o) :
    ∃ o, x.state.paymentOrders.get order = some o ∧ o.status ≠ status ∧ ¬ p ∧ q o := by
  obtain ⟨o, ho, hne, heq⟩ := h.stored
  rw [hchange] at heq
  by_cases hpq : ¬ p ∧ q o
  · exact ⟨o, ho, hne, hpq⟩
  · rw [if_neg hpq] at heq
    exact absurd heq hne

def owesWebhook : SideWrite → Bool
  | .creation (.linkPaymentOrder _ _) => true
  | .creation (.order (.gatewayCommit _ _)) => true
  | _ => false

lemma not_turns_of_entityCurrent (hx : owesWebhook x.label = false) (h : EntityCurrent x) :
    ¬ Turns order status x := by
  obtain ⟨label, s, done⟩ := x
  intro hturns
  have hsets := hturns.sets
  unfold statusSet at hsets
  split at hsets
  · -- the expiry of an address
    rename_i id heq
    obtain rfl := heq
    obtain rfl := Option.some.inj hsets
    obtain ⟨o, ho, hne, -, hid⟩ := hturns.of_ite fun _ => rfl
    rw [Table.get_key ho] at hid
    exact hne (h o (hid ▸ ho))
  · rename_i heq
    obtain rfl := heq
    cases hx
  · -- the validation of a fulfilled order
    rename_i id status' heq
    obtain rfl := heq
    obtain rfl := Option.some.inj hsets
    obtain ⟨o, ho, hne, -, hid⟩ := hturns.of_ite fun _ => rfl
    rw [Table.get_key ho] at hid
    exact hne (h o (hid ▸ ho))
  · rename_i heq
    obtain rfl := heq
    cases hx
  · cases hsets

end Calls

section Paths

def Told (order : ℕ) (status : PaymentOrderStatus) (t : List (Call SideWrite Store)) : Prop :=
  (∀ x ∈ t, EntityCurrent x) →
    Answered (Turns order status) (fun _ y => webhook y.label = some (order, status)) t

lemma told_mergeable : Mergeable (Told order status) := mergeable_answered _ _ _

lemma told_creation_mergeable :
    Mergeable fun t => Told order status (t.map (Call.relabel .creation)) :=
  told_mergeable.relabel _

variable (order status) in
abbrev OrderTold (t : List (Call OrderWrite Store)) : Prop :=
  Told order status (t.map (Call.relabel fun w => .creation (.order w)))

lemma told_order_mergeable : Mergeable (OrderTold order status) := told_mergeable.relabel _

lemma told_singleton {x : Call SideWrite Store} (h : EntityCurrent x → ¬ Turns order status x) :
    Told order status [x] := by
  intro hcurrent
  refine answered_cons_iff.2 ⟨fun hx => ?_, answered_nil⟩
  exact absurd hx (h (hcurrent x List.mem_cons_self))

lemma told_of_not_owesWebhook {w : SideWrite} (h : owesWebhook w = false) (s : Store)
    (done : Bool) : Told order status [⟨w, s, done⟩] :=
  told_singleton (not_turns_of_entityCurrent h)

variable {α : Type} {event : OrderCreatedEvent} {w : OrderWrite}
  {f : PaymentOrder → Option PaymentOrderChange} {found : Option PaymentOrder}

lemma told_of_uses {p : Proc SideWrite Store α} (h : Uses (fun w => owesWebhook w = false) p) :
    Paths (Told order status) p :=
  paths_of_uses told_mergeable h fun _ hw => told_of_not_owesWebhook hw

lemma told_link {id : ℕ} {s s' s'' : Store} {done : Bool} {updated : PaymentOrder}
    (hget : s'.paymentOrders.get id = some updated) :
    Told order status [⟨.creation (.linkPaymentOrder id event), s, true⟩,
      ⟨.creation (.refetchPaymentOrder id), s', true⟩,
      ⟨.creation (.order (.call (.paymentOrderWebhook updated.id updated.status))), s'', done⟩] := by
  intro hcurrent
  have hrefetch := hcurrent _ (List.mem_cons_of_mem _ List.mem_cons_self)
  obtain ⟨-, o, ho, hpending⟩ := hrefetch
  obtain rfl := Option.some.inj (hget.symm.trans ho)
  refine answered_cons_iff.2 ⟨fun hturns => ?_, ?_⟩
  · obtain rfl := Option.some.inj hturns.sets
    obtain ⟨o, ho, -, -, hid⟩ := hturns.of_ite fun _ => rfl
    refine ⟨_, List.mem_cons_of_mem _ List.mem_cons_self, ?_⟩
    rw [webhook, hpending, Table.get_key hget, ← hid, Table.get_key ho]
  · exact told_mergeable.append (told_of_not_owesWebhook rfl s' true)
      (told_of_not_owesWebhook rfl s'' done)
      fun x hx => hcurrent x (List.mem_cons_of_mem _ hx)

lemma linkPaymentOrder_told (event : OrderCreatedEvent) (retries : ℕ) :
    Paths (fun t => Told order status (t.map (Call.relabel .creation)))
      (event.linkPaymentOrder retries) := by
  have hmerge := @told_creation_mergeable order status
  induction retries with
  | zero => exact paths_ret hmerge _
  | succ retries ih =>
    refine paths_attempt hmerge (told_of_not_owesWebhook (w := .creation .read) rfl) ih fun s => ?_
    split
    · exact ih
    rename_i o _
    -- only the link itself owes a webhook
    intro t a ht
    rcases path_attempt_iff.1 ht with ⟨s, u, rfl, hu⟩ | ⟨s, u, rfl, hu⟩
    · split at hu
      · rename_i hraises
        obtain ⟨rfl, -⟩ := path_ret_iff.1 hu
        refine told_singleton fun _ hturns => ?_
        obtain ⟨_, -, -, haccepted, -⟩ := hturns.of_ite fun _ => rfl
        exact haccepted hraises
      rcases path_attempt_iff.1 hu with ⟨s', v, rfl, hv⟩ | ⟨s', v, rfl, hv⟩
      · split at hv
        · rename_i hnone
          intro hcurrent
          have hrefetch := hcurrent _ (List.mem_cons_of_mem _ List.mem_cons_self)
          obtain ⟨-, o, ho, -⟩ := hrefetch
          cases hnone.symm.trans ho
        · rename_i updated hget
          obtain ⟨s'', done, w, rfl, hw⟩ := path_ignore_iff.1 hv
          obtain ⟨rfl, -⟩ := path_ret_iff.1 hw
          exact told_link hget
      · intro hcurrent
        have hrefetch := hcurrent _ (List.mem_cons_of_mem _ List.mem_cons_self)
        cases hrefetch.1
    · obtain ⟨rfl, -⟩ := path_ret_iff.1 hu
      exact told_singleton fun _ hturns => Bool.false_ne_true hturns.done

lemma owesWebhook_of_storeLabel {I : Indexer} {w : CreationWrite} (h : StoreLabel I event w) :
    owesWebhook (.creation w) = false := by
  cases h with
  | assignment h => rcases h with ⟨⟨⟩⟩ | _ | _ | _ | _ <;> rfl
  | _ => rfl

lemma createLockPaymentOrder_told (I : Indexer) (background : List ℕ) (event : OrderCreatedEvent) :
    Paths (Told order status) ((I.createLockPaymentOrder background event).mapLabel .creation) := by
  have hmerge := @told_creation_mergeable order status
  refine paths_mapLabel (paths_attempt hmerge
    (told_of_not_owesWebhook (w := .creation .read) rfl) (paths_ret hmerge _) fun s => ?_)
  split
  · exact paths_ret hmerge _
  refine paths_interleave hmerge background fun p hp => ?_
  simp only [List.mem_cons, List.not_mem_nil, or_false] at hp
  rcases hp with rfl | rfl
  · refine paths_discard hmerge (paths_of_uses hmerge (checkAndStore_labels event) ?_)
    exact fun w hw s done => told_of_not_owesWebhook (owesWebhook_of_storeLabel hw) s done
  · exact linkPaymentOrder_told event 30

lemma commitGatewayEvent_told {event : GatewayEvent} {change : Option PaymentOrderChange}
    {entity : Option (ℕ × PaymentOrderStatus)} {e₁ e₂ e₃ : String}
    (hentity : ∀ c ∈ change, ∀ st ∈ c.status, entity = some (c.paymentOrder, st)) :
    Paths (OrderTold order status)
      (commitGatewayEvent event change entity e₁ e₂ e₃) := by
  -- what a commit that changes the order has found
  have hcommit : ∀ s, EntityCurrent ⟨.creation (.order (.gatewayCommit event change)), s, true⟩ →
      Turns order status ⟨.creation (.order (.gatewayCommit event change)), s, true⟩ →
        s.refusesGatewayCommit event change = false ∧ entity = some (order, status) := by
    intro s hcurrent hturns
    cases change with
    | none => cases hturns.sets
    | some c =>
      obtain ⟨o, ho, -, haccepted, hselects⟩ := hturns.of_ite fun _ => rfl
      have hid := hcurrent o (Table.mem_of_get ho) hselects
      refine ⟨by simpa using haccepted, ?_⟩
      rw [hentity c rfl status hturns.sets, ← hid, Table.get_key ho]
  intro t a ht
  rcases path_attempt_iff.1 ht with ⟨s, u, rfl, hu⟩ | ⟨s, u, rfl, hu⟩
  · split at hu
    · rename_i hrefused
      obtain ⟨rfl, -⟩ := path_ret_iff.1 hu
      refine told_singleton fun hcurrent hturns => ?_
      cases hrefused.symm.trans (hcommit s hcurrent hturns).1
    split at hu
    · obtain ⟨rfl, -⟩ := path_ret_iff.1 hu
      exact told_singleton fun hcurrent hturns => nomatch (hcommit s hcurrent hturns).2
    rename_i id st
    obtain ⟨s', done, rfl⟩ : ∃ s' done, u = [⟨.call (.paymentOrderWebhook id st), s', done⟩] := by
      rcases path_attempt_iff.1 hu with ⟨s', v, rfl, hv⟩ | ⟨s', v, rfl, hv⟩
      · obtain ⟨rfl, -⟩ := path_ret_iff.1 hv
        exact ⟨s', true, rfl⟩
      · obtain ⟨rfl, -⟩ := path_ret_iff.1 hv
        exact ⟨s', false, rfl⟩
    intro hcurrent
    refine answered_cons_iff.2 ⟨fun hturns => ?_, ?_⟩
    · have hsent := (hcommit s (hcurrent _ List.mem_cons_self) hturns).2
      exact ⟨_, List.mem_cons_self, hsent⟩
    · exact told_of_not_owesWebhook rfl s' done
        fun x hx => hcurrent x (List.mem_cons_of_mem _ hx)
  · obtain ⟨rfl, -⟩ := path_ret_iff.1 hu
    exact told_singleton fun _ hturns => Bool.false_ne_true hturns.done

def besideGateway : OrderWrite → Bool
  | .gatewayCommit _ _ => false
  | _ => true

lemma owesWebhook_order (h : besideGateway w = true) :
    owesWebhook (.creation (.order w)) = false := by
  cases w <;> first | rfl | cases h

lemma besideGateway_of_fulfills (h : w.fulfills = true) : besideGateway w = true := by
  cases w <;> first | rfl | cases h

lemma releaseReservedBalance_besideGateway (provider currency : String) (amount : ℚ) :
    Uses (fun w => besideGateway w = true) (releaseReservedBalance provider currency amount) :=
  releaseReservedBalance_uses (P := fun w => besideGateway w = true) rfl (fun _ => rfl) amount

lemma entity_of_change (hf : ∀ o, ∀ c ∈ f o, c.paymentOrder = o.id) :
    ∀ c ∈ found.bind f, ∀ st ∈ c.status,
      (found.map fun o => o.entity (found.bind f)) = some (c.paymentOrder, st) := by
  intro c hc st hst
  obtain ⟨o, rfl, ho⟩ := Option.bind_eq_some_iff.1 hc
  have hchange : (some o).bind f = some c := hc
  have hstatus : c.status = some st := hst
  rw [Option.map_some, hchange, PaymentOrder.entity, Option.bind_some, hstatus, hf o c ho,
    Option.getD_some]

lemma entity_of_some_change (hf : ∀ o, ∀ c ∈ f o, c.paymentOrder = o.id) :
    ∀ c ∈ found.bind f, ∀ st ∈ c.status,
      (if (found.bind f).isSome then found.map fun o => o.entity (found.bind f) else none) =
        some (c.paymentOrder, st) := by
  intro c hc st hst
  rw [if_pos (Option.isSome_iff_exists.2 ⟨c, hc⟩)]
  exact entity_of_change hf c hc st hst

lemma told_read (s : Store) (done : Bool) : OrderTold order status [⟨.read, s, done⟩] :=
  told_of_not_owesWebhook rfl s done

lemma updateOrderStatusRefunded_told (network : String) (event : OrderRefundedEvent)
    (messageHash : String) :
    Paths (OrderTold order status)
      (updateOrderStatusRefunded network event messageHash) := by
  have hmerge := @told_order_mergeable order status
  have hid : ∀ o, ∀ c ∈ event.change network messageHash o, c.paymentOrder = o.id := by
    intro o c hc
    rw [OrderRefundedEvent.change] at hc
    split at hc
    · cases hc
    · obtain rfl := Option.some.inj hc
      rfl
  unfold updateOrderStatusRefunded
  refine paths_attempt hmerge told_read (paths_ret hmerge _) fun s => ?_
  split
  · exact paths_ret hmerge _
  refine paths_attempt hmerge told_read (paths_ret hmerge _) fun s => ?_
  split
  · exact paths_ret hmerge _
  split
  · exact commitGatewayEvent_told (entity_of_change hid)
  refine paths_bind hmerge (paths_of_uses hmerge
    (releaseReservedBalance_besideGateway _ _ _) fun w hw s done => ?_) fun _ => ?_
  · exact told_of_not_owesWebhook (owesWebhook_order hw) s done
  · exact commitGatewayEvent_told (entity_of_change hid)

lemma updateOrderStatusSettled_told (network : String) (event : OrderSettledEvent)
    (messageHash : String) :
    Paths (OrderTold order status)
      (updateOrderStatusSettled network event messageHash) := by
  have hmerge := @told_order_mergeable order status
  have hid : ∀ o, ∀ c ∈ event.change messageHash o, c.paymentOrder = o.id := by
    intro o c hc
    unfold OrderSettledEvent.change at hc
    split at hc
    · cases hc
    · obtain rfl := Option.some.inj hc
      rfl
  unfold updateOrderStatusSettled
  refine paths_attempt hmerge told_read (paths_ret hmerge _) fun s => ?_
  split
  · exact paths_ret hmerge _
  split
  · exact paths_ret hmerge _
  refine paths_attempt hmerge told_read (paths_ret hmerge _) fun s => ?_
  split
  · exact commitGatewayEvent_told (entity_of_some_change hid)
  refine paths_attempt hmerge told_read (commitGatewayEvent_told (entity_of_some_change hid))
    fun s => ?_
  split
  · exact commitGatewayEvent_told (entity_of_some_change hid)
  · exact paths_ignore hmerge (fun s done => told_of_not_owesWebhook rfl s done)
      (commitGatewayEvent_told (entity_of_some_change hid))

lemma orderSide_told {p : OrderProgram α}
    (h : Paths (OrderTold order status) p) :
    Paths (Told order status) (orderSide p) :=
  paths_discard told_mergeable (paths_mapLabel h)

lemma paymentSide_told (p : PaymentProgram α) : Paths (Told order status) (paymentSide p) :=
  paths_discard told_mergeable (paths_mapLabel (paths_of_forall (told_mergeable.relabel _)
    (fun w s done => told_of_not_owesWebhook (w := .payment w) rfl s done) p))

theorem program_told (conf : PaymentConfig) (w : PaymentWriter) :
    Paths (Told order status) (w.program conf) := by
  cases w with
  | deposit env r o event | create env cause order => exact paymentSide_told _
  | createTron env id =>
    exact paths_discard told_mergeable (told_of_uses (createOrderTron_uses
      (P := fun w => owesWebhook w = false) rfl (fun _ => rfl) (fun _ _ => rfl) env id))
  | created indexer background event => exact createLockPaymentOrder_told indexer background event
  | fulfill payload param =>
    refine orderSide_told (paths_of_uses told_order_mergeable (fulfillOrder_uses payload param) ?_)
    intro w hw s done
    exact told_of_not_owesWebhook (owesWebhook_order (besideGateway_of_fulfills hw)) s done
  | retry env | validity now r o => exact paymentSide_told _
  | settled network event messageHash =>
    exact orderSide_told (updateOrderStatusSettled_told network event messageHash)
  | refunded network event messageHash =>
    exact orderSide_told (updateOrderStatusRefunded_told network event messageHash)

end Paths

theorem toldAll_of_entityCurrent (conf : PaymentConfig) (schedule : List ℕ)
    (writers : List PaymentWriter) (faults : List Bool) (s : Store)
    (h : ∀ x ∈ (paymentRun conf schedule writers).trace SideWrite.exec faults s, EntityCurrent x)
    {url : String} (hurl : url ≠ "") :
    ToldAll url ((paymentRun conf schedule writers).trace SideWrite.exec faults s) := by
  intro order status hstatus
  have hpaths : Paths (Told order status) (paymentRun conf schedule writers) := by
    refine paths_interleave told_mergeable schedule fun p hp => ?_
    obtain ⟨w, -, rfl⟩ := List.mem_map.1 hp
    exact program_told conf w
  obtain ⟨a, hpath⟩ : ∃ a, Path (paymentRun conf schedule writers)
      ((paymentRun conf schedule writers).trace SideWrite.exec faults s) a := path_trace _ faults s
  intro pre x post hsplit hturns
  obtain ⟨y, hy, hwebhook⟩ := hpaths _ a hpath h pre x post hsplit hturns
  exact ⟨y, hy, hwebhook, webhookEvent_announced hurl hstatus⟩

def paidStore : Store :=
  { Sample.store with
    lockOrders := .single { Sample.lockOrder with status := .fulfilled }
    balances := .single ⟨"p1", "NGN", ⟨60, 40, 100⟩, true, 0⟩
    fulfillments := .single (Sample.fulfillment 1 "tx" .pending 1)
    paymentOrders := ⟨[{ Sample.paymentOrder 1 with status := .pending, messageHash := some "m1" },
      Sample.paymentOrder 2], by decide⟩
    receiveAddresses := .single { Sample.receiveAddress 2 with validUntil := some 50 } }

def settlement : List PaymentWriter :=
  [.settled "base" ⟨2, "0x2", some 1, "g1", 100000⟩ "m1"]

theorem toldAll_settlement :
    ((paymentRun {} [] settlement).trace SideWrite.exec [] paidStore).filterMap
        (fun x => webhook x.label) = [(1, .settled)] ∧
      ToldAll "hook" ((paymentRun {} [] settlement).trace SideWrite.exec [] paidStore) :=
  ⟨by decide +kernel, toldAll_of_entityCurrent {} [] settlement [] paidStore (by decide +kernel)
    (by decide)⟩

def validation : List PaymentWriter := [.fulfill ⟨"psp", "tx", .success, ""⟩ (some 1)]

def expiry : List PaymentWriter :=
  [.validity 100 { Sample.receiveAddress 2 with validUntil := some 50 } (Sample.paymentOrder 2)]

theorem stale_entities_announced :
    (((paymentRun {} [] validation).trace SideWrite.exec [] paidStore).filterMap
        (fun x => webhook x.label) = [(1, .pending)] ∧
      ¬ ToldAll "hook" ((paymentRun {} [] validation).trace SideWrite.exec [] paidStore)) ∧
    ((paymentRun {} [] expiry).trace SideWrite.exec [] paidStore).filterMap
        (fun x => webhook x.label) = [(2, .initiated)] ∧
      webhookEvent (some "hook") .initiated = none ∧
      ¬ ToldAll "hook" ((paymentRun {} [] expiry).trace SideWrite.exec [] paidStore) := by
  have hvalidation : ¬ Answered (Turns 1 .validated) (fun _ y => Announces "hook" 1 .validated y)
      ((paymentRun {} [] validation).trace SideWrite.exec [] paidStore) := by decide +kernel
  have hexpiry : ¬ Answered (Turns 2 .expired) (fun _ y => Announces "hook" 2 .expired y)
      ((paymentRun {} [] expiry).trace SideWrite.exec [] paidStore) := by decide +kernel
  exact ⟨⟨by decide +kernel, fun h => hvalidation (h 1 .validated (by decide))⟩,
    by decide +kernel, by decide, fun h => hexpiry (h 2 .expired (by decide))⟩

end Stablenode.WebhookCalls
