import Stablenode.PaidOrders

/-! `SyncLockOrderFulfillments` on paid orders. -/
namespace Stablenode

open Proc Run

namespace PaidOrders

variable {conf : OrderConfig}

inductive FulfillmentLabel (order fulfillment : ℕ) (pays fails : Prop) : OrderWrite → Prop where
  | assignment {w : OrderWrite} (hf : fails) (h : AssignmentLabel order w) :
    FulfillmentLabel order fulfillment pays fails w
  | createLog (status : TransactionStatus) (network : String) :
    FulfillmentLabel order fulfillment pays fails (.createLog status network)
  | syncStatus (status : LockOrderStatus) (log : Option ℕ) (h : status ≠ .pending) :
    FulfillmentLabel order fulfillment pays fails (.syncStatus order status log)
  | reassignUpdate (hf : fails) :
    FulfillmentLabel order fulfillment pays fails (.reassignUpdate order)
  | setFulfillment (status : ValidationStatus) (error : Option String)
    (h : status = .success → pays) :
    FulfillmentLabel order fulfillment pays fails (.setFulfillment fulfillment status error)
  | deleteFulfillment (hf : fails) :
    FulfillmentLabel order fulfillment pays fails (.deleteFulfillment fulfillment)

variable {k : ℕ} {order : ℕ} {w : OrderWrite} {s : Store}

section Labels

variable {id : ℕ}

lemma respectsPaid_of_assignment (h : AssignmentLabel order w) (hs : s.isPaid order = false) :
    RespectsPaid w s := by
  rcases h with ⟨⟨⟩⟩ | _ | _ | _ | _ <;> trivial

lemma isPaid_setFulfillment {status : ValidationStatus} (hstatus : status ≠ .success)
    (error : Option String) (hs : s.isPaid order = false) :
    ((OrderWrite.setFulfillment id status error).exec s).isPaid order = false := by
  rw [Bool.eq_false_iff] at hs ⊢
  intro h
  obtain ⟨f, hf, horder, hsuccess⟩ := isPaid_iff.1 h
  obtain ⟨g, hg, rfl⟩ := List.mem_map.1 hf
  by_cases hid : g.id = id
  · simp only [hid, decide_true, if_true] at hsuccess
    exact hstatus hsuccess
  · simp only [hid, decide_false, Bool.false_eq_true, if_false] at horder hsuccess
    exact hs (isPaid_iff.2 ⟨g, hg, horder, hsuccess⟩)

lemma isPaid_deleteFulfillment (hs : s.isPaid order = false) :
    ((OrderWrite.deleteFulfillment id).exec s).isPaid order = false := by
  rw [Bool.eq_false_iff] at hs ⊢
  intro h
  obtain ⟨f, hf, horder, hsuccess⟩ := isPaid_iff.1 h
  exact hs (isPaid_iff.2 ⟨f, (List.mem_filter.1 hf).1, horder, hsuccess⟩)

section

variable {pays fails : Prop} (h : FulfillmentLabel order id pays fails w)

include h

lemma FulfillmentLabel.unpaid (hpays : ¬ pays) (hs : s.isPaid order = false) :
    (w.exec s).isPaid order = false := by
  have hkeep : w.writesFulfillment = false → (w.exec s).isPaid order = false := fun hw =>
    (isPaid_congr (OrderWrite.exec_fulfillments hw s) order).trans hs
  cases h with
  | assignment _ h => exact hkeep h.writesFulfillment
  | createLog | syncStatus | reassignUpdate => exact hkeep rfl
  | setFulfillment status error hstatus =>
    exact isPaid_setFulfillment (fun h => hpays (hstatus h)) error hs
  | deleteFulfillment => exact isPaid_deleteFulfillment hs

lemma FulfillmentLabel.respectsPaid (hs : fails → s.isPaid order = false) : RespectsPaid w s := by
  cases h with
  | assignment hf h => exact respectsPaid_of_assignment h (hs hf)
  | reassignUpdate hf => exact hs hf
  | syncStatus status log hstatus => cases status <;> trivial
  | _ => trivial

lemma FulfillmentLabel.get_of_ne (hk : k ≠ id) :
    (w.exec s).fulfillments.get k = s.fulfillments.get k := by
  have hkeep : w.writesFulfillment = false →
      (w.exec s).fulfillments.get k = s.fulfillments.get k := fun hw => by
    rw [OrderWrite.exec_fulfillments hw]
  cases h with
  | assignment _ h => exact hkeep h.writesFulfillment
  | createLog | syncStatus | reassignUpdate => exact hkeep rfl
  | setFulfillment =>
    simp only [OrderWrite.exec]
    exact Table.get_modify_of_ne _ _ _ hk
  | deleteFulfillment =>
    exact (Table.get_delete s.fulfillments (fun f => f = id) k).trans (by simp [hk])

end

end Labels

section Sync

variable {env : Environment} {fuel : ℕ} {o : LockPaymentOrder} {provider : ProviderProfile}
  {t : Store}

theorem syncFulfillment_uses (f : LockOrderFulfillment) :
    Uses (FulfillmentLabel o.id f.id
        (f.validationStatus = .pending ∧ reportsSuccess env o f.id = true)
        (f.validationStatus = .failed))
      (syncFulfillment conf env fuel o provider f) := by
  by_cases hstatus : f.validationStatus = .failed
  · rw [syncFulfillment, hstatus]
    exact reassignCancelledOrder_uses (fun _ h => .assignment rfl h) (.reassignUpdate rfl)
      (by rintro g ⟨rfl⟩; exact .deleteFulfillment rfl)
  · refine syncFulfillment_uses_of_ne (fun _ => .createLog _ _) .syncStatus hstatus
      (fun _ => .setFulfillment _ _ (by simp)) fun hpending psp txId error hreply => ?_
    exact .setFulfillment _ _ fun _ => ⟨hpending, by simp [reportsSuccess, hreply]⟩

lemma isReassignable_some :
    isReassignable conf o (some provider) = true ↔
      provider.visibilityMode ≠ .privateMode ∧
        o.cancellationCount < conf.refundCancellationCount := by
  simp [isReassignable]

lemma reassignCancelledOrder_safe_iff (fulfillment : Option ℕ) :
    Safe OrderWrite.exec RespectsPaid
        (reassignCancelledOrder conf env fuel o provider fulfillment) s ↔
      (isReassignable conf o (some provider) = true → s.isPaid o.id = false) := by
  constructor
  · intro h hr
    rw [reassignCancelledOrder, if_pos (isReassignable_some.1 hr)] at h
    exact h.2.1.1
  intro h
  by_cases hr : isReassignable conf o (some provider) = true
  · refine (reassignCancelledOrder_uses
      (P := fun w => ∃ id, FulfillmentLabel o.id id False True w)
      (fun _ h => ⟨0, .assignment trivial h⟩) ⟨0, .reassignUpdate trivial⟩
      fun f _ => ⟨f, .deleteFulfillment trivial⟩).safe (I := fun t => t.isPaid o.id = false)
      (fun w t hw ht => ?_) (fun w t hw ht => ?_) (h hr)
    · obtain ⟨id, hw⟩ := hw
      exact hw.respectsPaid fun _ => ht
    · obtain ⟨id, hw⟩ := hw
      exact hw.unpaid not_false ht
  · rw [reassignCancelledOrder, if_neg (fun h => hr (isReassignable_some.2 h))]
    trivial

lemma syncFulfillment_safe_iff (f : LockOrderFulfillment) :
    Safe OrderWrite.exec RespectsPaid (syncFulfillment conf env fuel o provider f) s ↔
      (f.validationStatus = .failed → isReassignable conf o (some provider) = true →
        s.isPaid o.id = false) := by
  cases hstatus : f.validationStatus with
  | failed =>
    rw [syncFulfillment, hstatus]
    simpa using reassignCancelledOrder_safe_iff (some f.id)
  | _ =>
    refine ⟨fun _ hfailed => (by cases hfailed), fun _ => ?_⟩
    refine (syncFulfillment_uses f).safe (I := fun _ => True) (fun w t hw _ => ?_)
      (fun _ _ _ _ => trivial) trivial
    exact hw.respectsPaid fun hfailed => by simp [hstatus] at hfailed

variable {f : LockOrderFulfillment} {goOn : Bool} {fs : List LockOrderFulfillment} {ids : List ℕ}

lemma ends_syncFulfillment_skip
    (hf : f.validationStatus = .pending → replyPanics env o (some f.id) = false) :
    Ends OrderWrite.exec (syncFulfillment conf env fuel o provider f) s true s := by
  rw [syncFulfillment]
  cases hstatus : f.validationStatus with
  | failed =>
    dsimp only
    rw [reassignCancelledOrder]
    split_ifs
    · exact .fail (.ret _ _)
    · exact .ret _ _
  | success => exact .fail (.ret _ _)
  | pending =>
    have hpanics := hf hstatus
    cases hreply : env.txStatus o.id (some f.id) with
    | noSecret => exact .ret _ _
    | status status psp txId error =>
      cases hbucket : o.provisionBucket with
      | none => simp [replyPanics, hreply, hbucket] at hpanics
      | some bucket =>
        dsimp only
        split_ifs
        · exact .fail (.ret _ _)
        · exact .fail (.ret _ _)
        · exact .ret _ _
    | _ =>
      cases hbucket : o.provisionBucket with
      | none => simp [replyPanics, hreply, hbucket] at hpanics
      | some bucket =>
        first
        | exact .ret _ _
        | simp [replyPanics, hreply, hbucket] at hpanics

lemma ends_syncFulfillment_pays (hf : f.validationStatus = .pending)
    (hget : s.fulfillments.get f.id = some f) (horder : f.order = o.id)
    (hpanics : replyPanics env o (some f.id) = false) (hreports : reportsSuccess env o f.id = true)
    :
    ∃ t, Ends OrderWrite.exec (syncFulfillment conf env fuel o provider f) s true t ∧
      t.isPaid o.id = true := by
  refine ⟨(OrderWrite.setFulfillment f.id .success none).exec s, ?_, ?_⟩
  · rw [syncFulfillment, hf]
    dsimp only
    rw [reportsSuccess] at hreports
    rw [replyPanics] at hpanics
    split at hreports
    · rename_i status psp txId error hreply
      obtain rfl := of_decide_eq_true hreports
      rw [hreply] at hpanics ⊢
      cases hbucket : o.provisionBucket with
      | none => simp [hbucket] at hpanics
      | some bucket =>
        have hhas : s.hasFulfillment f.id = true := by simp [Store.hasFulfillment, hget]
        simp only [show ("success" : String) ≠ "failed" by decide, if_false, if_true]
        refine .step ?_
        simp only [hhas, if_true]
        exact .fail (.ret _ _)
    · cases hreports
  · have hafter : ((OrderWrite.setFulfillment f.id .success none).exec s).fulfillments.get f.id =
        some { f with validationStatus := .success, updatedAt := s.now } := by
      simp [OrderWrite.exec, hget]
    exact isPaid_iff.2 ⟨_, Table.mem_of_get hafter, horder, rfl⟩

lemma meetsFailed_mono (fs : List LockOrderFulfillment) {paid : Bool}
    (h : meetsFailed env o true fs = false) : meetsFailed env o paid fs = false := by
  cases paid with
  | true => exact h
  | false =>
    induction fs with
    | nil => rfl
    | cons f fs ih =>
      rw [meetsFailed] at h ⊢
      cases hstatus : f.validationStatus with
      | pending =>
        simp only [hstatus, Bool.true_or, Bool.false_or, Bool.and_eq_false_iff] at h ⊢
        refine h.imp id fun h => ?_
        cases reportsSuccess env o f.id with
        | true => exact h
        | false => exact ih h
      | failed => simp [hstatus] at h
      | success =>
        simp only [hstatus] at h ⊢
        exact ih h

lemma not_replyPanics_of_ends
    (h : Ends OrderWrite.exec (syncFulfillment conf env fuel o provider f) s true t)
    (hf : f.validationStatus = .pending) : replyPanics env o (some f.id) = false := by
  rw [syncFulfillment, hf] at h
  cases hreply : env.txStatus o.id (some f.id) with
  | noSecret => simp [replyPanics, hreply]
  | _ =>
    cases hbucket : o.provisionBucket with
    | none =>
      simp only [hreply, hbucket] at h
      have := (ends_ret_iff.1 h).1
      cases this
    | some bucket =>
      first
      | (simp only [replyPanics, hreply, hbucket]; done)
      | (simp only [hreply, hbucket] at h
         have := (ends_ret_iff.1 h).1
         cases this)

lemma isPaid_of_ends
    (h : Ends OrderWrite.exec (syncFulfillment conf env fuel o provider f) s goOn t)
    (hpays : ¬ (f.validationStatus = .pending ∧ reportsSuccess env o f.id = true))
    (hs : s.isPaid o.id = false) : t.isPaid o.id = false :=
  (syncFulfillment_uses f).ends (I := fun t => t.isPaid o.id = false)
    (fun _ _ hw ht => hw.unpaid hpays ht) hs h

lemma get_of_ends (hk : k ≠ f.id)
    (h : Ends OrderWrite.exec (syncFulfillment conf env fuel o provider f) s goOn t) :
    t.fulfillments.get k = s.fulfillments.get k :=
  (syncFulfillment_uses f).ends (I := fun t => t.fulfillments.get k = s.fulfillments.get k)
    (fun _ _ hw ht => (hw.get_of_ne hk).trans ht) rfl h

lemma exists_ends_isPaid (hget : s.fulfillments.get f.id = some f) (horder : f.order = o.id)
    (hpanics : f.validationStatus = .pending → replyPanics env o (some f.id) = false) :
    ∃ t, Ends OrderWrite.exec (syncFulfillment conf env fuel o provider f) s true t ∧
      t.isPaid o.id = (s.isPaid o.id ||
        (f.validationStatus = .pending && reportsSuccess env o f.id)) := by
  by_cases hpays : f.validationStatus = .pending ∧ reportsSuccess env o f.id = true
  · obtain ⟨t, he, ht⟩ := ends_syncFulfillment_pays hpays.1 hget horder (hpanics hpays.1) hpays.2
    exact ⟨t, he, by simp [ht, hpays]⟩
  refine ⟨s, ends_syncFulfillment_skip hpanics, ?_⟩
  have : (f.validationStatus = .pending && reportsSuccess env o f.id) = false := by
    simpa using hpays
  simp [this]

lemma meetsFailed_cons (paid : Bool) (fs : List LockOrderFulfillment) :
    meetsFailed env o paid (f :: fs) = false ↔
      (f.validationStatus = .failed → paid = false) ∧
        ((f.validationStatus = .pending → replyPanics env o (some f.id) = false) →
          meetsFailed env o
            (paid || (f.validationStatus = .pending && reportsSuccess env o f.id)) fs = false) := by
  rw [meetsFailed]
  cases f.validationStatus with
  | pending => cases replyPanics env o (some f.id) <;> simp
  | failed => cases paid <;> simp
  | success => simp

theorem syncLoop_safe_iff (hr : isReassignable conf o (some provider) = true)
    (fs : List LockOrderFulfillment)
    (hfs : ∀ f ∈ fs, s.fulfillments.get f.id = some f ∧ f.order = o.id)
    (hnodup : (fs.map LockOrderFulfillment.id).Nodup) :
    Safe OrderWrite.exec RespectsPaid
        (forWhile fs (syncFulfillment conf env fuel o provider)) s ↔
      meetsFailed env o (s.isPaid o.id) fs = false := by
  induction fs generalizing s with
  | nil => exact ⟨fun _ => rfl, fun _ => trivial⟩
  | cons f fs ih =>
    obtain ⟨hf, hnodup⟩ := List.nodup_cons.1 hnodup
    have hrest : ∀ goOn t, Ends OrderWrite.exec (syncFulfillment conf env fuel o provider f) s
        goOn t → (Safe OrderWrite.exec RespectsPaid
          (forWhile fs (syncFulfillment conf env fuel o provider)) t ↔
            meetsFailed env o (t.isPaid o.id) fs = false) := by
      intro goOn t he
      refine ih (fun g hg => ?_) hnodup
      have hne : g.id ≠ f.id := fun h => hf (h ▸ List.mem_map_of_mem hg)
      rw [get_of_ends hne he]
      exact hfs g (by simp [hg])
    rw [forWhile, safe_bind_iff, syncFulfillment_safe_iff, meetsFailed_cons]
    refine and_congr ⟨fun h hfailed => h hfailed hr, fun h hfailed _ => h hfailed⟩ ⟨?_, ?_⟩
    · intro h hpanics
      obtain ⟨t, he, ht⟩ := exists_ends_isPaid (hfs f (by simp)).1 (hfs f (by simp)).2 hpanics
      exact ht ▸ (hrest true t he).1 (h true t he)
    intro h goOn t he
    cases goOn with
    | false => trivial
    | true =>
      have hmeets := h (not_replyPanics_of_ends he)
      refine (hrest true t he).2 ?_
      cases hpaid : (s.isPaid o.id || (f.validationStatus = .pending && reportsSuccess env o f.id))
        with
      | true => exact meetsFailed_mono fs (hpaid ▸ hmeets)
      | false =>
        rw [hpaid] at hmeets
        simp only [Bool.or_eq_false_iff] at hpaid
        rw [isPaid_of_ends he (by simpa using hpaid.2) hpaid.1]
        exact hmeets

lemma syncUnfulfilled_safe (hs : s.isPaid o.id = false) :
    Safe OrderWrite.exec RespectsPaid (syncUnfulfilled conf env o) s := by
  rw [syncUnfulfilled]
  split
  · trivial
  · trivial
  · split_ifs
    · exact ⟨hs, trivial, trivial⟩
    · trivial
  · refine ⟨trivial, ?_, trivial⟩
    dsimp only
    split_ifs
    · exact ⟨trivial, trivial, trivial⟩
    · trivial
  · trivial
  split_ifs
  · refine ⟨trivial, ?_, trivial⟩
    dsimp only
    split_ifs
    · exact ⟨trivial, trivial, trivial⟩
    · trivial
  · refine ⟨trivial, ?_, trivial⟩
    dsimp only
    split_ifs
    · exact ⟨trivial, ⟨trivial, trivial, trivial⟩, trivial⟩
    · trivial
  · trivial

theorem syncOrder_safe_iff {provider : Option ProviderProfile}
    (hfs : ∀ f ∈ fs, s.fulfillments.get f.id = some f ∧ f.order = o.id)
    (hnodup : (fs.map LockOrderFulfillment.id).Nodup) (hempty : fs = [] → s.isPaid o.id = false) :
    Safe OrderWrite.exec RespectsPaid (syncOrder conf env fuel o provider fs) s ↔
      (isReassignable conf o provider && meetsFailed env o (s.isPaid o.id) fs) = false := by
  cases provider with
  | none => simp [syncOrder, isReassignable]
  | some provider =>
    rw [syncOrder]
    by_cases hnil : fs = []
    · subst hnil
      simp only [if_true, meetsFailed, Bool.and_false, iff_true]
      split_ifs
      · exact (reassignCancelledOrder_safe_iff none).2 fun _ => hempty rfl
      · exact syncUnfulfilled_safe (hempty rfl)
    · simp only [hnil, if_false]
      by_cases hr : isReassignable conf o (some provider) = true
      · rw [syncLoop_safe_iff hr fs hfs hnodup, hr, Bool.true_and]
      · simp only [hr, Bool.false_and, iff_true]
        exact safe_forWhile (fun f _ t => (syncFulfillment_safe_iff f).2 fun _ h => absurd h hr) s

lemma isPaid_of_same (h : SameFulfillments order s t) : t.isPaid order = s.isPaid order := by
  rw [Bool.eq_iff_iff, isPaid_iff, isPaid_iff]
  refine exists_congr fun f => ⟨fun ⟨hf, hrest⟩ => ?_, fun ⟨hf, hrest⟩ => ?_⟩
  · exact ⟨Table.mem_of_get ((h f.id f hrest.1).1 (Table.get_of_mem hf)), hrest⟩
  · exact ⟨Table.mem_of_get ((h f.id f hrest.1).2 (Table.get_of_mem hf)), hrest⟩

inductive SyncLabel (order : ℕ) (ids : List ℕ) : OrderWrite → Prop where
  | other {w : OrderWrite} (h : w.writesFulfillment = false) : SyncLabel order ids w
  | setFulfillment {id : ℕ} (h : id ∈ ids) (status : ValidationStatus) (error : Option String) :
    SyncLabel order ids (.setFulfillment id status error)
  | deleteFulfillment {id : ℕ} (h : id ∈ ids) : SyncLabel order ids (.deleteFulfillment id)
  | createFulfillment (txId psp : String) (status : ValidationStatus) (error : String) :
    SyncLabel order ids (.createFulfillment order txId psp status error)
  | deleteOrder : SyncLabel order ids (.deleteOrder order)

lemma FulfillmentLabel.syncLabel {id : ℕ} {pays fails : Prop}
    (h : FulfillmentLabel order id pays fails w) (hid : id ∈ ids) : SyncLabel order ids w := by
  cases h with
  | assignment _ h => exact .other h.writesFulfillment
  | setFulfillment => exact .setFulfillment hid _ _
  | deleteFulfillment => exact .deleteFulfillment hid
  | _ => exact .other rfl

lemma syncOrder_uses (provider : Option ProviderProfile) (fs : List LockOrderFulfillment) :
    Uses (SyncLabel o.id (fs.map LockOrderFulfillment.id))
      (syncOrder conf env fuel o provider fs) := by
  cases provider with
  | none => trivial
  | some provider =>
    rw [syncOrder]
    split_ifs
    · exact reassignCancelledOrder_uses (fun _ h => .other h.writesFulfillment) (.other rfl)
        (by simp)
    · exact syncUnfulfilled_uses (fun _ => .other rfl) (fun _ _ _ => .other rfl) (.other rfl)
        (.other rfl) .deleteOrder .createFulfillment
    · exact uses_forWhile fun f hf =>
        (syncFulfillment_uses f).mono fun _ h => h.syncLabel (List.mem_map_of_mem hf)

lemma SyncLabel.get_iff {id : ℕ} (hw : SyncLabel order ids w)
    (hown : ∀ id ∈ ids, ∀ f, t.fulfillments.get id = some f → f.order = order)
    (hf : f.order ≠ order) :
    (w.exec t).fulfillments.get id = some f ↔ t.fulfillments.get id = some f := by
  cases hw with
  | other hw => rw [OrderWrite.exec_fulfillments hw]
  | setFulfillment htarget status error =>
    have hk : ∀ g, t.fulfillments.get _ = some g → g.order ≠ f.order :=
      fun g hg horder => hf (horder.symm.trans (hown _ htarget g hg))
    exact SameFulfillments.of_set status error hk id f rfl
  | @deleteFulfillment target htarget =>
    simp only [OrderWrite.exec, Table.get_delete_eq, Option.filter_eq_some_iff, and_iff_left_iff_imp]
    intro h
    have hid : f.id ≠ target := by
      rintro rfl
      exact hf (hown f.id htarget f (Table.get_key h ▸ h))
    simp [hid]
  | createFulfillment txId psp status error =>
    exact SameFulfillments.of_create hf t txId psp status error id f rfl
  | deleteOrder =>
    simp only [OrderWrite.exec, Table.get_delete_eq, Option.filter_eq_some_iff, and_iff_left_iff_imp]
    intro _
    simp [hf]

lemma sameFulfillments_of_ends {provider : Option ProviderProfile}
    (hfs : ∀ f ∈ fs, s.fulfillments.get f.id = some f ∧ f.order = o.id)
    (h : Ends OrderWrite.exec (syncOrder conf env fuel o provider fs) s goOn t) (hk : k ≠ o.id) :
    SameFulfillments k s t := by
  -- the fulfilments of the order stay its own, so that no write on them hits another order
  let ids := fs.map LockOrderFulfillment.id
  refine ((syncOrder_uses provider fs).ends
    (I := fun t => SameFulfillments k s t ∧
      ∀ id ∈ ids, ∀ f, t.fulfillments.get id = some f → f.order = o.id)
    (fun w u hw hu => ⟨fun id f hf => ?_, fun id hid f hf => ?_⟩) ⟨fun _ _ _ => Iff.rfl, ?_⟩ h).1
  · exact (hw.get_iff hu.2 (hf ▸ hk)).trans (hu.1 id f hf)
  · by_contra hne
    exact hne (hu.2 id hid f ((hw.get_iff hu.2 hne).1 hf))
  intro id hid f hf
  obtain ⟨g, hg, rfl⟩ := List.mem_map.1 hid
  obtain rfl := Option.some.inj (hf.symm.trans (hfs g hg).1)
  exact (hfs f hg).2

lemma replyPanics_of_ends (h : Ends OrderWrite.exec (syncUnfulfilled conf env o) s true t) :
    replyPanics env o none = false := by
  rw [syncUnfulfilled] at h
  cases hreply : env.txStatus o.id none with
  | noSecret => simp [replyPanics, hreply]
  | _ =>
    cases hbucket : o.provisionBucket with
    | none =>
      simp only [hreply, hbucket] at h
      have := (ends_ret_iff.1 h).1
      cases this
    | some bucket =>
      first
      | (simp only [replyPanics, hreply, hbucket]; done)
      | (simp only [hreply, hbucket] at h
         have := (ends_ret_iff.1 h).1
         cases this)

lemma ends_syncUnfulfilled_skip (h : replyPanics env o none = false) :
    Ends OrderWrite.exec (syncUnfulfilled conf env o) s true s := by
  rw [syncUnfulfilled]
  cases hreply : env.txStatus o.id none with
  | noSecret => exact .ret _ _
  | _ =>
    cases hbucket : o.provisionBucket with
    | none => simp [replyPanics, hreply, hbucket] at h
    | some bucket =>
      dsimp only
      first
      | exact .fail (.ret _ _)
      | (simp [replyPanics, hreply, hbucket] at h; done)
      | (split_ifs <;> first | exact .fail (.ret _ _) | exact .ret _ _)

def snapshotOrder (conf : OrderConfig) (env : Environment) (fuel : ℕ) (s : Store)
    (o : LockPaymentOrder) : OrderProgram Bool :=
  syncOrder conf env fuel o (o.provider.bind s.providers.get) (s.fulfillmentsOf o.id)

lemma ends_snapshotOrder_skip (h : syncPanics env s o = false) :
    Ends OrderWrite.exec (snapshotOrder conf env fuel s o) t true t := by
  rw [snapshotOrder]
  rw [syncPanics] at h
  cases hp : o.provider.bind s.providers.get with
  | none => exact .ret _ _
  | some provider =>
    rw [hp, Option.isSome_some, Bool.true_and] at h
    rw [syncOrder]
    split_ifs at h ⊢ with hnil hstatus
    · rw [reassignCancelledOrder]
      split_ifs
      · exact .fail (.ret _ _)
      · exact .ret _ _
    · exact ends_syncUnfulfilled_skip (by simpa [hstatus] using h)
    · refine ends_forWhile_skip fun f hf => ends_syncFulfillment_skip fun hpending => ?_
      have := List.any_eq_false.1 h f hf
      simpa [hpending] using this

lemma not_syncPanics_of_ends {u : Store}
    (h : Ends OrderWrite.exec (snapshotOrder conf env fuel s o) t true u) :
    syncPanics env s o = false := by
  rw [snapshotOrder] at h
  rw [syncPanics]
  cases hp : o.provider.bind s.providers.get with
  | none => rfl
  | some provider =>
    rw [hp, syncOrder] at h
    rw [Option.isSome_some, Bool.true_and]
    split_ifs at h ⊢ with hnil hstatus
    · simp [hstatus]
    · simp [replyPanics_of_ends h]
    refine List.any_eq_false.2 fun f hf => ?_
    obtain ⟨v, u, he⟩ := ends_forWhile_true h f hf
    by_cases hpending : f.validationStatus = .pending
    · simp [not_replyPanics_of_ends he hpending]
    · simp [hpending]

lemma snapshotOrder_fulfillments (h : SameFulfillments o.id s t) :
    ∀ f ∈ s.fulfillmentsOf o.id, t.fulfillments.get f.id = some f ∧ f.order = o.id := by
  intro f hf
  obtain ⟨hmem, horder⟩ := List.mem_filter.1 hf
  have horder : f.order = o.id := by simpa using horder
  exact ⟨(h f.id f horder).2 (Table.get_of_mem hmem), horder⟩

lemma snapshotOrder_safe_iff (h : SameFulfillments o.id s t) :
    Safe OrderWrite.exec RespectsPaid (snapshotOrder conf env fuel s o) t ↔
      syncResells conf env s o = false := by
  have hnodup : ((s.fulfillmentsOf o.id).map LockOrderFulfillment.id).Nodup :=
    s.fulfillments.nodup_keys.sublist (List.filter_sublist.map _)
  have hempty : s.fulfillmentsOf o.id = [] → t.isPaid o.id = false := by
    intro hnil
    rw [isPaid_of_same h, Store.isPaid, hnil]
    rfl
  rw [snapshotOrder, syncOrder_safe_iff (snapshotOrder_fulfillments h) hnodup hempty,
    isPaid_of_same h, syncResells]

theorem syncAll_safe_iff (os : List LockPaymentOrder) (hnodup : (os.map LockPaymentOrder.id).Nodup)
    (h : ∀ o ∈ os, SameFulfillments o.id s t) :
    Safe OrderWrite.exec RespectsPaid (forWhile os (snapshotOrder conf env fuel s)) t ↔
      syncReaches conf env s os = false := by
  induction os generalizing t with
  | nil => exact ⟨fun _ => rfl, fun _ => trivial⟩
  | cons o os ih =>
    obtain ⟨ho, hnodup⟩ := List.nodup_cons.1 hnodup
    have hsame := h o (by simp)
    have htail : ∀ k ∈ os, SameFulfillments k.id s t := fun k hk => h k (by simp [hk])
    rw [forWhile, safe_bind_iff, snapshotOrder_safe_iff hsame, syncReaches, Bool.or_eq_false_iff]
    refine and_congr_right fun _ => ⟨fun hrest => ?_, fun hrest goOn u he => ?_⟩
    · cases hpanics : syncPanics env s o with
      | true => rfl
      | false => exact (ih hnodup htail).1 (hrest true t (ends_snapshotOrder_skip hpanics))
    cases goOn with
    | false => trivial
    | true =>
      rw [not_syncPanics_of_ends he] at hrest
      refine (ih hnodup fun k hk id f hf => ?_).2 hrest
      have hne : k.id ≠ o.id := fun heq => ho (heq ▸ List.mem_map_of_mem hk)
      exact (sameFulfillments_of_ends (snapshotOrder_fulfillments hsame) he hne id f hf).trans
        (htail k hk id f hf)

theorem syncLockOrderFulfillments_safe_iff :
    Safe OrderWrite.exec RespectsPaid (syncLockOrderFulfillments conf env fuel) s ↔
      Task.Harmless conf (.sync env fuel) s := by
  have hall : Safe OrderWrite.exec RespectsPaid
      (forWhile (s.lockOrders.select (syncSelects conf s)) (snapshotOrder conf env fuel s)) s ↔
        syncReaches conf env s (s.lockOrders.select (syncSelects conf s)) = false :=
    syncAll_safe_iff _ (s.lockOrders.nodup_keys.sublist (List.filter_sublist.map _))
      fun _ _ _ _ _ => Iff.rfl
  exact ⟨fun h => hall.1 h.2.1, fun h => ⟨trivial, hall.2 h, trivial⟩⟩

end Sync

theorem respectsPaid_iff_harmless (task : Task) (s : Store) :
    (∀ faults, Admitted OrderWrite.exec RespectsPaid s
      ((task.program conf).history OrderWrite.exec faults s)) ↔ task.Harmless conf s := by
  rw [← safe_iff_forall_faults]
  cases task with
  | cancel fuel provider reason param =>
    rw [Task.program, safe_discard_iff, cancelOrder_safe_iff]
  | sync env fuel =>
    rw [Task.program, safe_discard_iff, syncLockOrderFulfillments_safe_iff]
  | refundPass =>
    have hloop := refundLoop_safe_iff (s.lockOrders.select (refundSelects conf s)) s
    exact ⟨fun h => hloop.1 h.2.1, fun h => ⟨trivial, hloop.2 h, trivial⟩⟩

def mixedStore : Store :=
  { Sample.store with
    lockOrders := .single { Sample.lockOrder with status := .fulfilled }
    fulfillments := ⟨[Sample.fulfillment 1 "t1" .success 1, Sample.fulfillment 2 "t2" .failed 1],
      by decide⟩
    balances := ⟨[⟨"p1", "NGN", ⟨60, 40, 100⟩, true, 0⟩, ⟨"p2", "NGN", ⟨100, 0, 100⟩, true, 0⟩],
      by decide⟩
    providerOrderTokens := [⟨"p2", 1, "NGN", "base", "0xp2", 1⟩]
    queues := .single ⟨⟨Sample.bucket, false⟩, [.offer "p2" "USDC" (some 1) (some 0) (some 1000)]⟩ }

theorem paid_order_resold :
    mixedStore.isPaid 1 = true ∧
      let after := ((Task.sync .silent 3).program {}).after OrderWrite.exec mixedStore
      after.isPaid 1 = true ∧ (after.lockOrders.get 1).map LockPaymentOrder.status = some .pending ∧
        after.isOffered 1 "p2" = true ∧
        ¬ Admitted OrderWrite.exec RespectsPaid mixedStore
          (((Task.sync .silent 3).program {}).history OrderWrite.exec [] mixedStore) := by
  decide +kernel

end PaidOrders

end Stablenode
