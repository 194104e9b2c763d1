import Stablenode.Faults
import Stablenode.Tasks

/-! The writes that the programs shared by several handlers and tasks are made of. -/
namespace Stablenode

open Proc

variable {P : OrderWrite → Prop} {currency : String} {provider : ProviderProfile}
  {o : LockPaymentOrder} {order : OrderFields}

lemma releaseReservedBalance_uses (hread : P .read) {provider : String}
    (hrelease : ∀ b, P (.releaseCommit provider currency b)) (amount : ℚ) :
    Uses P (releaseReservedBalance provider currency amount) := by
  rw [releaseReservedBalance]
  refine uses_attempt hread trivial fun s => ?_
  split
  · trivial
  split
  · trivial
  refine uses_attempt hread trivial fun s => ?_
  split
  · trivial
  · split
    · trivial
    · exact uses_attempt (hrelease _) trivial fun _ => trivial

lemma removeProviderFromQueue_uses (hread : P .read) {key : QueueKey}
    (hset : ∀ index, P (.setQueueFromEnd key index (.malformed "DELETED_PROVIDER")))
    (hremove : P (.removeFromQueue key (.malformed "DELETED_PROVIDER"))) (provider : String)
    (fuel index : ℕ) : Uses P (removeProviderFromQueue key provider fuel index) := by
  induction fuel generalizing index with
  | zero => trivial
  | succ fuel ih =>
    rw [removeProviderFromQueue]
    refine uses_attempt hread trivial fun s => ?_
    split
    · trivial
    · exact ih _
    · split_ifs
      · exact uses_ignore (hset _) (uses_ignore hremove trivial)
      · exact ih _

lemma cancelWith_uses (hread : P .read) {conf : OrderConfig} {count : ℕ} {reason : Option String}
    (hupdate : P (.cancelUpdate o.id count reason))
    (hrelease : ∀ currency b, P (.releaseCommit provider.id currency b))
    (hrefund : ∀ network gatewayId, P (.call (.refundOrder o.id network gatewayId)))
    (hexclude : P (.pushExclude o.id provider.id)) :
    Uses P (cancelWith conf provider o count reason) := by
  rw [cancelWith]
  refine uses_attempt hupdate trivial fun s => ?_
  split_ifs
  · dsimp only
    split
    · trivial
    refine uses_bind (releaseReservedBalance_uses hread (hrelease _) _) fun _ => ?_
    split_ifs
    · exact uses_ignore (hrefund _ _) (uses_attempt hexclude trivial fun _ => trivial)
    · exact uses_attempt hexclude trivial fun _ => trivial
  · trivial

def rotateHead (key : QueueKey) (send : OrderProgram (Completion AssignError)) :
    OrderProgram (Completion AssignError) :=
  attempt (.popQueue key) (ret (.error .redis)) fun s =>
  match (s.queue key).head? with
  | none => ret (.error .redisNil)
  | some data => attempt (.pushQueue key data) (ret (.error .redis)) fun _ => send

structure AssignmentRule (conf : OrderConfig) (env : Environment) (known : OrderFields → Prop)
    (good : List String → Prop) (R : OrderProgram (Completion AssignError) → Prop) : Prop where
  ret (r : Completion AssignError) : R (ret r)
  bind {p : OrderProgram (Completion AssignError)}
    {g : Completion AssignError → OrderProgram (Completion AssignError)} :
    R p → (∀ r, R (g r)) → R (p.bind g)
  read {failed : OrderProgram (Completion AssignError)}
    {k : Store → OrderProgram (Completion AssignError)} :
    R failed → (∀ s, R (k s)) → R (attempt .read failed k)
  readExclude {order : OrderFields} {failed : OrderProgram (Completion AssignError)}
    {k : Store → OrderProgram (Completion AssignError)} :
    known order → R failed → (∀ s, good (s.excludeList order.id) → R (k s)) →
      R (attempt .read failed k)
  offer {order : OrderFields} (provider : String) :
    known order → known { order with providerId := provider }
  rotate {send : OrderProgram (Completion AssignError)} (key : QueueKey) :
    R send → R (rotateHead key send)
  exclude {order : OrderFields} {k : OrderProgram (Completion AssignError)} (provider : String) :
    known order → R k → R (ignore (.pushExclude order.id provider) k)
  setRate {order : OrderFields} {k : OrderProgram (Completion AssignError)} (rate : ℚ) :
    known order → (known { order with rate } → R k) →
      R (ignore (.setPaymentOrderRate order.id rate) k)
  send {order : OrderFields} {excludeList : List String} :
    known order → good excludeList → order.providerId ∉ excludeList →
      R (sendOrderRequest conf env order)

lemma offerTest_ok_not_mem {env : Environment} {provider token : String} {excludeList : List String}
    {rate minAmount maxAmount : Option ℚ}
    (h : offerTest env order currency excludeList
      (.offer provider token rate minAmount maxAmount) = .ok) : provider ∉ excludeList := by
  cases minAmount with
  | none => cases h
  | some lo =>
    cases maxAmount with
    | none => cases h
    | some hi =>
      simp only [offerTest] at h
      split_ifs at h with hskip
      exact fun hmem => hskip (Or.inl hmem)

variable {conf : OrderConfig} {env : Environment}

namespace AssignmentRule

variable {known : OrderFields → Prop} {good : List String → Prop}
  {R : OrderProgram (Completion AssignError) → Prop}
  {reassign : OrderFields → OrderProgram (Completion AssignError)} {excludeList : List String}

variable (hR : AssignmentRule conf env known good R)
include hR

lemma matchRate (hr : ∀ o, known o → R (reassign o)) (key : QueueKey) (hgood : good excludeList)
    (fuel index : ℕ) (hknown : known order) :
    R (Stablenode.matchRate conf env reassign key excludeList fuel index order) := by
  induction fuel generalizing index order with
  | zero => exact hR.ret _
  | succ fuel ih =>
    rw [Stablenode.matchRate]
    refine hR.read (hR.ret _) fun s => ?_
    split
    · exact hR.ret _
    · exact ih _ hknown
    rename_i provider token rate minAmount maxAmount _
    have hnext := hR.offer provider hknown
    dsimp only
    split
    · exact hR.ret _
    · exact ih _ hnext
    rename_i htest
    refine hR.read (ih _ hnext) fun s => ?_
    split_ifs
    on_goal 3 => exact ih _ hnext
    on_goal 1 => refine hR.rotate key ?_
    all_goals
      refine hR.bind (hR.send hnext hgood (offerTest_ok_not_mem htest)) fun r => ?_
      cases r with
      | error e => exact hR.exclude provider hknown (hr _ hnext)
      | ok | panicked => exact hR.ret _

lemma assignFromQueue (hr : ∀ o, known o → R (reassign o)) (fuel : ℕ) (hgood : good excludeList)
    (hknown : known order) :
    R (Stablenode.assignFromQueue conf env reassign fuel order excludeList) := by
  rw [Stablenode.assignFromQueue]
  split
  · exact hR.ret _
  refine hR.bind (hR.matchRate hr _ hgood _ _ hknown) fun r => ?_
  split
  · refine hR.bind (hR.matchRate hr _ hgood _ _ hknown) fun r => ?_
    split <;> exact hR.ret _
  · exact hR.ret _

lemma offerToNamed {queues : OrderFields → OrderProgram (Completion AssignError)}
    (hq : ∀ o, known o → R (queues o)) (provider : ProviderProfile) (hgood : good excludeList)
    (hknown : known order) (hp : order.providerId ∉ excludeList) :
    R (Stablenode.offerToNamed conf env queues provider order) := by
  refine hR.bind (hR.send hknown hgood hp) fun r => ?_
  split
  · split_ifs
    · exact hR.ret _
    · exact hq _ hknown
  · exact hR.ret _

theorem assignLockPaymentOrder (fuel : ℕ) (hknown : known order) :
    R (Stablenode.assignLockPaymentOrder conf env fuel order) := by
  induction fuel generalizing order with
  | zero => exact hR.ret _
  | succ fuel ih =>
    rw [Stablenode.assignLockPaymentOrder]
    refine hR.readExclude hknown (hR.ret _) fun s hgood => ?_
    have hqueue : ∀ o : OrderFields, known o → R (Stablenode.assignFromQueue conf env
        (Stablenode.assignLockPaymentOrder conf env fuel) fuel o (s.excludeList order.id)) :=
      fun o ho => hR.assignFromQueue (fun _ h => ih h) fuel hgood ho
    dsimp only
    split_ifs with hskip
    · exact hqueue _ hknown
    rw [not_or] at hskip
    refine hR.read (hR.ret _) fun s => ?_
    split
    · exact hR.ret _
    split_ifs
    · split
      · exact hR.ret _
      · exact hR.setRate _ hknown fun hrate =>
          hR.offerToNamed hqueue _ hgood hrate hskip.2
    · exact hR.offerToNamed hqueue _ hgood hknown hskip.2

end AssignmentRule

inductive SendWrite (id : ℕ) : OrderWrite → Prop where
  | read : SendWrite id .read
  | setOrderRequest (fields : List (String × String)) : SendWrite id (.setOrderRequest id fields)
  | expireOrderRequestAt (time : ℕ) : SendWrite id (.expireOrderRequestAt id time)
  | newOrder (provider : String) : SendWrite id (.call (.newOrder provider id))
  | reserveCommit (provider currency : String) (amount : ℚ) (new : BalanceManagement.Balance) :
    SendWrite id (.reserveCommit id provider currency amount new)

lemma sendOrderRequest_uses_send (conf : OrderConfig) (env : Environment) (order : OrderFields) :
    Uses (SendWrite order.id) (sendOrderRequest conf env order) := by
  rw [sendOrderRequest]
  split
  · trivial
  refine uses_attempt .read trivial fun s => ?_
  split
  · trivial
  split
  · trivial
  refine uses_attempt (.setOrderRequest _) trivial fun s => ?_
  refine uses_ignore (.expireOrderRequestAt _) ?_
  split
  · exact uses_attempt (.newOrder _) trivial fun _ =>
      uses_attempt (.reserveCommit ..) trivial fun _ => trivial
  · trivial

inductive AssignmentWrite : OrderWrite → Prop where
  | read : AssignmentWrite .read
  | popQueue (key : QueueKey) : AssignmentWrite (.popQueue key)
  | pushQueue (key : QueueKey) (entry : QueueEntry) : AssignmentWrite (.pushQueue key entry)
  | pushExclude (order : ℕ) (provider : String) : AssignmentWrite (.pushExclude order provider)
  | setPaymentOrderRate (order : ℕ) (rate : ℚ) : AssignmentWrite (.setPaymentOrderRate order rate)

inductive AssignmentLabel (id : ℕ) : OrderWrite → Prop where
  | write {w : OrderWrite} (h : AssignmentWrite w) : AssignmentLabel id w
  | setOrderRequest (fields : List (String × String)) :
    AssignmentLabel id (.setOrderRequest id fields)
  | expireOrderRequestAt (time : ℕ) : AssignmentLabel id (.expireOrderRequestAt id time)
  | newOrder (provider : String) : AssignmentLabel id (.call (.newOrder provider id))
  | reserveCommit (provider currency : String) (amount : ℚ) (new : BalanceManagement.Balance) :
    AssignmentLabel id (.reserveCommit id provider currency amount new)

lemma AssignmentLabel.writesFulfillment {id : ℕ} {w : OrderWrite} (h : AssignmentLabel id w) :
    w.writesFulfillment = false := by
  rcases h with ⟨⟨⟩⟩ | _ | _ | _ | _ <;> rfl

section Labels

variable {id : ℕ}

lemma sendOrderRequest_uses (hid : order.id = id) :
    Uses (AssignmentLabel id) (sendOrderRequest conf env order) := by
  subst hid
  refine (sendOrderRequest_uses_send conf env order).mono fun w hw => ?_
  cases hw with
  | read => exact .write .read
  | setOrderRequest => exact .setOrderRequest _
  | expireOrderRequestAt => exact .expireOrderRequestAt _
  | newOrder => exact .newOrder _
  | reserveCommit => exact .reserveCommit ..

theorem assignLockPaymentOrder_uses (fuel : ℕ) (hid : order.id = id) :
    Uses (AssignmentLabel id) (assignLockPaymentOrder conf env fuel order) := by
  have hrule : AssignmentRule conf env (fun o => o.id = id) (fun _ => True)
      (Uses (AssignmentLabel id)) :=
    { ret := fun _ => trivial
      bind := uses_bind
      read := uses_attempt (.write .read)
      readExclude := fun _ hf hk => uses_attempt (.write .read) hf fun s => hk s trivial
      offer := fun _ h => h
      rotate := fun key hsend => by
        refine uses_attempt (.write (.popQueue _)) trivial fun s => ?_
        split
        · trivial
        · exact uses_attempt (.write (.pushQueue _ _)) trivial fun _ => hsend
      exclude := fun _ _ => uses_ignore (.write (.pushExclude _ _))
      setRate := fun _ h hk => uses_ignore (.write (.setPaymentOrderRate _ _)) (hk h)
      send := fun h _ _ => sendOrderRequest_uses h }
  exact hrule.assignLockPaymentOrder fuel hid

variable {fulfillment : Option ℕ} {fuel : ℕ}

lemma reassignCancelledOrder_rule {R : OrderProgram Bool → Prop} {W : OrderWrite → Prop}
    (hret : ∀ b, R (ret b)) (hattempt : ∀ w k, W w → (∀ s, R (k s)) → R (attempt w (ret true) k))
    (hassign : ∀ k, (∀ r, R (k r)) →
      R ((assignLockPaymentOrder conf env fuel o.reassignFields).bind k))
    (hexclude : W (.pushExclude o.id provider.id)) (hupdate : W (.reassignUpdate o.id))
    (hdelete : ∀ f ∈ fulfillment, W (.deleteFulfillment f)) :
    R (reassignCancelledOrder conf env fuel o provider fulfillment) := by
  rw [reassignCancelledOrder]
  split_ifs
  · refine hattempt _ _ hexclude fun _ => hattempt _ _ hupdate fun s => ?_
    split_ifs
    · cases fulfillment with
      | none => exact hassign _ fun r => by cases r <;> exact hret _
      | some f =>
        refine hattempt _ _ (hdelete f rfl) fun s => ?_
        split_ifs
        · exact hassign _ fun r => by cases r <;> exact hret _
        · exact hret _
    · exact hret _
  · exact hret _

lemma reassignCancelledOrder_uses (hassign : ∀ w, AssignmentLabel o.id w → P w)
    (hreassign : P (.reassignUpdate o.id)) (hdelete : ∀ f ∈ fulfillment, P (.deleteFulfillment f)) :
    Uses P (reassignCancelledOrder conf env fuel o provider fulfillment) := by
  have hid : o.reassignFields.id = o.id := rfl
  exact reassignCancelledOrder_rule (W := P) (fun _ => trivial)
    (fun _ _ hw hk => uses_attempt hw trivial hk)
    (fun _ hk => uses_bind ((assignLockPaymentOrder_uses fuel hid).mono hassign) hk)
    (hassign _ (.write (.pushExclude _ _))) hreassign hdelete

section Sync

variable (hlog : ∀ network, P (.createLog .orderValidated network))
  (hstatus : ∀ status log, status ≠ .pending → P (.syncStatus o.id status log))

include hlog hstatus

lemma syncValidated_uses : Uses P (syncValidated o) :=
  uses_attempt (hlog _) trivial fun _ => uses_ignore (hstatus _ _ nofun) trivial

lemma syncUnfulfilled_uses (hread : P .read) (hpending : P (.syncStatus o.id .pending none))
    (hdelete : P (.deleteOrder o.id))
    (hcreate : ∀ txId psp status error, P (.createFulfillment o.id txId psp status error)) :
    Uses P (syncUnfulfilled conf env o) := by
  rw [syncUnfulfilled]
  split
  · trivial
  · trivial
  · split_ifs
    · exact uses_ignore hpending trivial
    · trivial
  · refine uses_attempt hread trivial fun s => ?_
    split_ifs
    · exact uses_ignore hdelete trivial
    · trivial
  · trivial
  split_ifs
  · refine uses_attempt (hcreate _ _ _ _) trivial fun s => ?_
    split_ifs
    · exact uses_ignore (hstatus _ _ nofun) trivial
    · trivial
  · refine uses_attempt (hcreate _ _ _ _) trivial fun s => ?_
    split_ifs
    · exact syncValidated_uses hlog hstatus
    · trivial
  · trivial

lemma syncFulfillment_uses_of_ne {f : LockOrderFulfillment} (hne : f.validationStatus ≠ .failed)
    (hfailed : ∀ error, P (.setFulfillment f.id .failed error))
    (hsuccess : f.validationStatus = .pending → ∀ psp txId error,
      env.txStatus o.id (some f.id) = .status "success" psp txId error →
        P (.setFulfillment f.id .success none)) :
    Uses P (syncFulfillment conf env fuel o provider f) := by
  rw [syncFulfillment]
  cases hvalidation : f.validationStatus with
  | failed => exact absurd hvalidation hne
  | success => exact syncValidated_uses hlog hstatus
  | pending =>
    dsimp only
    split
    · trivial
    · trivial
    · trivial
    · trivial
    · trivial
    rename_i status psp txId error _ hreply _
    split_ifs with _ hreports
    · refine uses_attempt (hfailed _) trivial fun s => ?_
      split_ifs
      · exact uses_ignore (hstatus _ _ nofun) trivial
      · trivial
    · subst hreports
      refine uses_attempt (hsuccess hvalidation _ _ _ hreply) trivial fun s => ?_
      split_ifs
      · exact syncValidated_uses hlog hstatus
      · trivial
    · trivial

end Sync

end Labels

end Stablenode
