import Stablenode.QueueEffects

/-! The removal of a provider from its bucket queue (controllers/provider/provider.go): its last
entry becomes a placeholder, and placeholders are removed. -/
namespace Stablenode

open Proc

def QueueEntry.isOf (provider : String) (e : QueueEntry) : Bool := e.provider? = some provider

def deletedProvider : QueueEntry := .malformed "DELETED_PROVIDER"

variable {index : ℕ}

section Lists

variable {provider : String} {queue : List QueueEntry}

lemma deletedProvider_isOf : deletedProvider.isOf provider = false := rfl

def removeFromEnd (provider : String) (reversed : List QueueEntry) : List QueueEntry :=
  if reversed.any (QueueEntry.isOf provider) then
    (reversed.eraseP (QueueEntry.isOf provider)).filter (· ≠ deletedProvider)
  else reversed

variable {reversed : List QueueEntry}

lemma filter_set_eq_eraseP {e : QueueEntry} (hentry : reversed[index]? = some e)
    (he : e.isOf provider = true)
    (hbefore : ∀ e ∈ reversed.take index, QueueEntry.isOf provider e = false) :
    (reversed.set index deletedProvider).filter (· ≠ deletedProvider) =
      (reversed.eraseP (QueueEntry.isOf provider)).filter (· ≠ deletedProvider) := by
  obtain ⟨hlt, hget⟩ := List.getElem?_eq_some_iff.1 hentry
  have hsplit : reversed = reversed.take index ++ e :: reversed.drop (index + 1) := by
    rw [← hget, List.cons_getElem_drop_succ, List.take_append_drop]
  have herase : reversed.eraseP (QueueEntry.isOf provider) =
      reversed.take index ++ reversed.drop (index + 1) := by
    nth_rewrite 1 [hsplit]
    rw [List.eraseP_append_right _ fun b hb => by simp [hbefore b hb], List.eraseP_cons_of_pos he]
  rw [herase, List.set_eq_take_append_cons_drop, if_pos hlt]
  simp

lemma removeFromEnd_eq_filter_iff :
    removeFromEnd provider reversed = reversed.filter (fun e => !e.isOf provider) ↔
      reversed.countP (QueueEntry.isOf provider) = 0 ∨
        reversed.countP (QueueEntry.isOf provider) = 1 ∧ deletedProvider ∉ reversed := by
  rw [removeFromEnd]
  split
  next hany =>
    obtain ⟨a, ha, hpa⟩ := List.any_eq_true.1 hany
    obtain ⟨e, pre, post, hpre, he, rfl, herase⟩ := List.exists_of_eraseP ha hpa
    have hkeep : (pre ++ e :: post).filter (fun e => !e.isOf provider) =
        pre ++ post.filter fun e => !e.isOf provider := by
      have hpre' : pre.filter (fun e => !e.isOf provider) = pre :=
        List.filter_eq_self.2 fun b hb => by simp [eq_false_of_ne_true (hpre b hb)]
      rw [List.filter_append, List.filter_cons_of_neg (by simp [he]), hpre']
    have hcount : (pre ++ e :: post).countP (QueueEntry.isOf provider) =
        post.countP (QueueEntry.isOf provider) + 1 := by
      rw [List.countP_append, List.countP_eq_zero.2 hpre, List.countP_cons_of_pos he, Nat.zero_add]
    rw [herase, hkeep, hcount]
    constructor
    · intro heq
      -- no placeholder is left on one side, so none is on the other
      have habsent : deletedProvider ∉ pre ++ post.filter fun e => !e.isOf provider := by
        rw [← heq]
        simp
      rw [List.mem_append, not_or] at habsent
      have hpost : deletedProvider ∉ post := fun hmem =>
        habsent.2 (List.mem_filter.2 ⟨hmem, by simp [deletedProvider_isOf]⟩)
      have hself : (pre ++ post).filter (· ≠ deletedProvider) = pre ++ post := by
        refine List.filter_eq_self.2 fun b hb => decide_eq_true fun hdeleted => ?_
        rw [hdeleted, List.mem_append] at hb
        exact hb.elim habsent.1 hpost
      rw [hself, List.append_cancel_left_eq] at heq
      have hnone : post.countP (QueueEntry.isOf provider) = 0 := by
        refine List.countP_eq_zero.2 fun b hb hof => ?_
        have hkept := List.filter_eq_self.1 heq.symm b hb
        simp [hof] at hkept
      refine .inr ⟨by rw [hnone], fun hmem => ?_⟩
      rcases List.mem_append.1 hmem with hin | hin
      · exact habsent.1 hin
      · rcases List.mem_cons.1 hin with rfl | hin
        · cases he
        · exact hpost hin
    · rintro (hzero | ⟨hone, habsent⟩)
      · omega
      have hnone := List.countP_eq_zero.1 (Nat.succ.inj hone)
      have hpost : post.filter (fun e => !e.isOf provider) = post :=
        List.filter_eq_self.2 fun b hb => by simp [eq_false_of_ne_true (hnone b hb)]
      rw [hpost]
      refine List.filter_eq_self.2 fun b hb => decide_eq_true fun hdeleted => habsent ?_
      rw [hdeleted, List.mem_append] at hb
      exact hb.elim (List.mem_append_left _)
        fun hin => List.mem_append_right _ (List.mem_cons_of_mem e hin)
  next hnone =>
    have hall : ∀ e ∈ reversed, e.isOf provider = false := by simpa using hnone
    refine iff_of_true (List.filter_eq_self.2 fun e he => by simp [hall e he]).symm (.inl ?_)
    exact List.countP_eq_zero.2 fun e he => by simp [hall e he]

end Lists

section Program

variable {key : QueueKey} {provider : String} {s : Store}

lemma removeFromEnd_past_end {queue : List QueueEntry} (hindex : queue.length ≤ index)
    (hbefore : ∀ e ∈ queue.reverse.take index, e.isOf provider = false) :
    (removeFromEnd provider queue.reverse).reverse = queue := by
  rw [List.take_of_length_le (by simpa using hindex)] at hbefore
  rw [removeFromEnd, if_neg (by simpa using hbefore), List.reverse_reverse]

lemma removeProviderFromQueue_after {fuel : ℕ}
    (hbefore : ∀ e ∈ (s.queue key).reverse.take index, e.isOf provider = false)
    (hfuel : (s.queue key).length ≤ index + fuel) :
    ((removeProviderFromQueue key provider fuel index).after OrderWrite.exec s).queue key =
      (removeFromEnd provider (s.queue key).reverse).reverse := by
  induction fuel generalizing index with
  | zero => exact (removeFromEnd_past_end hfuel hbefore).symm
  | succ fuel ih =>
    rw [removeProviderFromQueue, after_attempt]
    cases hentry : (s.queue key).reverse[index]? with
    | none =>
      have hpast : (s.queue key).length ≤ index := by simpa using hentry
      exact (removeFromEnd_past_end hpast hbefore).symm
    | some e =>
      have hnext : e.isOf provider = false →
          ((removeProviderFromQueue key provider fuel (index + 1)).after OrderWrite.exec s).queue key =
            (removeFromEnd provider (s.queue key).reverse).reverse := by
        intro he
        refine ih (fun b hb => ?_) (by omega)
        rw [List.take_add_one, hentry, List.mem_append] at hb
        rcases hb with hb | hb
        · exact hbefore b hb
        · rw [List.mem_singleton.1 hb]
          exact he
      cases e with
      | malformed text => exact hnext rfl
      | offer p token rate minAmount maxAmount =>
        simp only
        split
        next hp =>
          have he : (QueueEntry.offer p token rate minAmount maxAmount).isOf provider = true :=
            decide_eq_true (congrArg some hp)
          have hany : (s.queue key).reverse.any (QueueEntry.isOf provider) = true :=
            List.any_eq_true.2 ⟨_, List.mem_of_getElem? hentry, he⟩
          rw [after_ignore, after_ignore, after_ret, removeFromEnd, if_pos hany,
            ← filter_set_eq_eraseP hentry he hbefore, ← List.filter_reverse]
          simp only [OrderWrite.exec, Store.queue_updateQueue, if_true]
          rfl
        next hp => exact hnext (decide_eq_false fun h => hp (Option.some.inj h))

variable {conf : OrderConfig} {p : ProviderProfile} {order : LockPaymentOrder}

lemma cancelWith_writesQueue (count : ℕ) (reason : Option String) :
    Uses (fun w => w.writesQueue = false) (cancelWith conf p order count reason) :=
  cancelWith_uses (P := fun w => w.writesQueue = false) rfl rfl (fun _ _ => rfl) (fun _ _ => rfl) rfl

lemma cancelWith_after_queue (count : ℕ) (reason : Option String) (s : Store) (key : QueueKey) :
    ((cancelWith conf p order count reason).after OrderWrite.exec s).queue key = s.queue key := by
  have hends : Ends OrderWrite.exec (cancelWith conf p order count reason) s _ _ :=
    ends_outcome _ [] s
  exact (cancelWith_writesQueue count reason).ends (I := fun t => t.queue key = s.queue key)
    (fun w t hw ht => (OrderWrite.exec_queue hw t key).trans ht) rfl hends

theorem cancelOrder_queue_iff {fuel id : ℕ} {bucket : ProvisionBucket}
    (horder : s.lockOrders.get id = some order) (hprovider : order.provider = some p.id)
    (hbucket : order.provisionBucket = some bucket)
    (hfuel : (s.queue ⟨bucket, false⟩).length ≤ fuel) :
    ((cancelOrder conf fuel p "Insufficient funds" (some id)).after OrderWrite.exec s).queue
        ⟨bucket, false⟩ = (s.queue ⟨bucket, false⟩).filter (fun e => !e.isOf p.id) ↔
      (s.queue ⟨bucket, false⟩).countP (QueueEntry.isOf p.id) = 0 ∨
        p.visibilityMode ≠ .privateMode ∧
          (s.queue ⟨bucket, false⟩).countP (QueueEntry.isOf p.id) = 1 ∧
          deletedProvider ∉ s.queue ⟨bucket, false⟩ := by
  have hafter : (cancelOrder conf fuel p "Insufficient funds" (some id)).after OrderWrite.exec s =
      (cancelFound conf fuel p "Insufficient funds" order).after OrderWrite.exec s := by
    have hreason : ("Insufficient funds" : String) ≠ "" := by decide
    rw [cancelOrder, if_neg hreason]
    simp only [after_attempt, horder, hprovider, ne_eq, not_true, if_false]
    rfl
  have hkept : (s.queue ⟨bucket, false⟩).filter (fun e => !e.isOf p.id) = s.queue ⟨bucket, false⟩ ↔
      (s.queue ⟨bucket, false⟩).countP (QueueEntry.isOf p.id) = 0 := by
    rw [List.filter_eq_self, List.countP_eq_zero]
    exact forall₂_congr fun e _ => by simp
  have hreason : ("Insufficient funds" : String) ≠ "Invalid recipient bank details" := by decide
  rw [hafter, cancelFound]
  by_cases hprivate : p.visibilityMode = .privateMode
  · -- the first branch does not look at the queue
    rw [if_pos (.inr hprivate), cancelWith_after_queue, eq_comm, hkept]
    simp [hprivate]
  · rw [if_neg (not_or.2 ⟨hreason, hprivate⟩), if_neg (not_not.2 rfl)]
    simp only [hbucket, after_bind, cancelWith_after_queue]
    rw [removeProviderFromQueue_after (by simp) (by omega)]
    have hiff := @removeFromEnd_eq_filter_iff p.id (s.queue ⟨bucket, false⟩).reverse
    rw [List.countP_reverse, List.mem_reverse, List.filter_reverse] at hiff
    rw [List.reverse_eq_iff, hiff]
    simp [hprivate]

end Program

namespace Sample

def cancelStore (entries : List QueueEntry) : Store :=
  { store with queues := .single ⟨⟨bucket, false⟩, entries⟩ }

def offerOf (provider token : String) : QueueEntry :=
  .offer provider token (some 10) (some 1) (some 90)

end Sample

open Sample in
theorem cancelOrder_queue_one_entry :
    ((cancelOrder {} 3 provider "Insufficient funds" (some 1)).after OrderWrite.exec
        (cancelStore [offerOf "p2" "USDC", offerOf "p1" "USDC", offerOf "p2" "USDT"])).queue
        ⟨bucket, false⟩ = [offerOf "p2" "USDC", offerOf "p2" "USDT"] := by
  have horder : (cancelStore [offerOf "p2" "USDC", offerOf "p1" "USDC",
      offerOf "p2" "USDT"]).lockOrders.get 1 = some lockOrder := rfl
  exact (cancelOrder_queue_iff horder rfl rfl le_rfl).2
    (.inr ⟨by decide, by decide +kernel, by decide +kernel⟩)

open Sample in
theorem cancelOrder_keeps_entry :
    ((cancelOrder {} 3 provider "Insufficient funds" (some 1)).after OrderWrite.exec
        (cancelStore [offerOf "p1" "USDC", offerOf "p2" "USDC", offerOf "p1" "USDT"])).queue
        ⟨bucket, false⟩ = [offerOf "p1" "USDC", offerOf "p2" "USDC"] := by
  decide +kernel

end Stablenode
