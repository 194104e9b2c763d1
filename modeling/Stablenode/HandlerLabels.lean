import Stablenode.Interleaving
import Stablenode.ProgramLabels

/-! The writes of the requests of a provider and of the gateway events; none of them offers an
order. -/
namespace Stablenode

open Proc

def OrderWrite.offers : OrderWrite → Bool
  | .setOrderRequest _ _ | .expireOrderRequestAt _ _ | .reserveCommit _ _ _ _ _ => true
  | _ => false

def OrderWrite.fulfills : OrderWrite → Bool
  | .read | .call _ | .releaseCommit _ _ _ | .createLog _ _ | .createFulfillment _ _ _ _ _
  | .setFulfillment _ _ _ | .fulfillUpdate _ _ | .validateCommit _ _ _ _ _ _
  | .setPaymentOrderStatus _ _ => true
  | _ => false

lemma OrderWrite.offers_of_fulfills {w : OrderWrite} (h : w.fulfills = true) :
    w.offers = false := by
  cases w <;> first | rfl | cases h

lemma fulfillWith_uses (orderID : ℕ) (payload : FulfillLockOrderPayload) (f : LockOrderFulfillment)
    (order : LockPaymentOrder) (edges : Option (String × ProvisionBucket)) :
    Uses (fun w => w.fulfills = true) (fulfillWith orderID payload f order edges) := by
  unfold fulfillWith
  split
  · split
    · trivial
    refine uses_attempt rfl trivial fun s => ?_
    split
    · trivial
    split
    · trivial
    refine uses_attempt rfl trivial fun s => ?_
    split
    · trivial
    split
    · trivial
    refine uses_attempt rfl trivial fun s => ?_
    split
    · trivial
    refine uses_bind ?_ fun _ => uses_ignore rfl trivial
    refine uses_attempt rfl trivial fun s => ?_
    split
    · trivial
    · exact uses_ignore rfl (uses_ignore rfl trivial)
  · refine uses_attempt rfl trivial fun s => ?_
    split
    · trivial
    refine uses_attempt rfl trivial fun s => ?_
    split
    · trivial
    · exact uses_bind (releaseReservedBalance_uses (P := fun w => w.fulfills = true) rfl
        (fun _ => rfl) _) fun _ => trivial
  · exact uses_attempt rfl trivial fun s => uses_attempt rfl trivial fun _ => trivial

lemma fulfillOrder_uses (payload : FulfillLockOrderPayload) (param : Option ℕ) :
    Uses (fun w => w.fulfills = true) (fulfillOrder payload param) := by
  unfold fulfillOrder
  split
  · trivial
  split
  · trivial
  refine uses_attempt rfl trivial fun s => ?_
  dsimp only
  split
  · trivial
  · refine uses_attempt rfl trivial fun s => ?_
    split
    · trivial
    refine uses_attempt rfl trivial fun s => ?_
    split
    · trivial
    · split
      · trivial
      · exact fulfillWith_uses _ _ _ _ _
  · split
    · trivial
    · exact fulfillWith_uses _ _ _ _ _

lemma releaseReservedBalance_offers (provider currency : String) (amount : ℚ) :
    Uses (fun w => w.offers = false) (releaseReservedBalance provider currency amount) :=
  releaseReservedBalance_uses (P := fun w => w.offers = false) rfl (fun _ => rfl) amount

lemma takeOrderRequest_uses (why : RequestEnd) (orderID : ℕ) (provider : String)
    {failed k : OrderProgram Reply} (hf : Uses (fun w => w.offers = false) failed)
    (hk : Uses (fun w => w.offers = false) k) :
    Uses (fun w => w.offers = false) (takeOrderRequest why orderID provider failed k) := by
  refine uses_attempt rfl hf fun s => ?_
  split
  · exact uses_attempt rfl hf fun _ => hk
  · trivial

lemma acceptOrder_uses (provider : ProviderProfile) (param : Option ℕ) :
    Uses (fun w => w.offers = false) (acceptOrder provider param) := by
  cases param with
  | none => trivial
  | some orderID =>
    refine takeOrderRequest_uses _ _ _ trivial ?_
    refine uses_attempt rfl trivial fun s => ?_
    refine uses_attempt rfl trivial fun s => ?_
    split <;> trivial

lemma declineOrder_uses (provider : ProviderProfile) (param : Option ℕ) :
    Uses (fun w => w.offers = false) (declineOrder provider param) := by
  cases param with
  | none => trivial
  | some orderID =>
    exact takeOrderRequest_uses _ _ _ trivial (uses_attempt rfl trivial fun _ => trivial)

section Cancel

variable (conf : OrderConfig) (provider : ProviderProfile)

lemma uses_cancelOrder {P : OrderWrite → Prop} (hread : P .read)
    (hset : ∀ key index, P (.setQueueFromEnd key index (.malformed "DELETED_PROVIDER")))
    (hremove : ∀ key, P (.removeFromQueue key (.malformed "DELETED_PROVIDER")))
    (hwith : ∀ order count reason, Uses P (cancelWith conf provider order count reason))
    (fuel : ℕ) (reason : String) (param : Option ℕ) :
    Uses P (cancelOrder conf fuel provider reason param) := by
  unfold cancelOrder
  split
  · trivial
  split
  · trivial
  refine uses_attempt hread trivial fun s => ?_
  split
  · trivial
  split
  · trivial
  unfold cancelFound
  split
  · exact hwith _ _ _
  split
  · exact hwith _ _ _
  split
  · trivial
  · exact uses_bind (removeProviderFromQueue_uses hread (hset _) (hremove _) _ _ _)
      fun _ => hwith _ _ _

lemma cancelOrder_uses (fuel : ℕ) (reason : String) (param : Option ℕ) :
    Uses (fun w => w.offers = false) (cancelOrder conf fuel provider reason param) :=
  uses_cancelOrder (P := fun w => w.offers = false) conf provider rfl (fun _ _ => rfl)
    (fun _ => rfl) (fun _ _ _ => cancelWith_uses (P := fun w => w.offers = false) rfl rfl
      (fun _ _ => rfl) (fun _ _ => rfl) rfl) fuel reason param

end Cancel

section Gateway

variable (network : String) (messageHash : String)

lemma commitGatewayEvent_uses (event : GatewayEvent) (change : Option PaymentOrderChange)
    (webhook : Option (ℕ × PaymentOrderStatus)) (commitError senderError webhookError : String) :
    Uses (fun w => w.offers = false)
      (commitGatewayEvent event change webhook commitError senderError webhookError) := by
  refine uses_attempt rfl trivial fun s => ?_
  split
  · trivial
  · split
    · trivial
    · exact uses_attempt rfl trivial fun _ => trivial

lemma updateOrderStatusRefunded_uses (event : OrderRefundedEvent) :
    Uses (fun w => w.offers = false) (updateOrderStatusRefunded network event messageHash) := by
  unfold updateOrderStatusRefunded
  refine uses_attempt rfl trivial fun s => ?_
  split
  · trivial
  refine uses_attempt rfl trivial fun s => ?_
  split
  · trivial
  split
  · exact commitGatewayEvent_uses _ _ _ _ _ _
  · exact uses_bind (releaseReservedBalance_offers _ _ _) fun _ =>
      commitGatewayEvent_uses _ _ _ _ _ _

lemma updateOrderStatusSettled_uses (event : OrderSettledEvent) :
    Uses (fun w => w.offers = false) (updateOrderStatusSettled network event messageHash) := by
  unfold updateOrderStatusSettled
  refine uses_attempt rfl trivial fun s => ?_
  split
  · trivial
  split
  · trivial
  refine uses_attempt rfl trivial fun s => ?_
  split
  · exact commitGatewayEvent_uses _ _ _ _ _ _
  refine uses_attempt rfl (commitGatewayEvent_uses _ _ _ _ _ _) fun s => ?_
  split
  · exact commitGatewayEvent_uses _ _ _ _ _ _
  · exact uses_ignore rfl (commitGatewayEvent_uses _ _ _ _ _ _)

end Gateway

section Synchronisation

variable {conf : OrderConfig} {env : Environment} {fuel : ℕ} (order : LockPaymentOrder)

lemma syncUnfulfilled_offers : Uses (fun w => w.offers = false) (syncUnfulfilled conf env order) :=
  syncUnfulfilled_uses (P := fun w => w.offers = false) (fun _ => rfl) (fun _ _ _ => rfl) rfl rfl rfl
    fun _ _ _ _ => rfl

lemma syncFulfillment_offers (provider : ProviderProfile) {f : LockOrderFulfillment}
    (h : f.validationStatus ≠ .failed) :
    Uses (fun w => w.offers = false) (syncFulfillment conf env fuel order provider f) :=
  syncFulfillment_uses_of_ne (P := fun w => w.offers = false) (fun _ => rfl) (fun _ _ _ => rfl) h
    (fun _ => rfl) fun _ _ _ _ _ => rfl

end Synchronisation

lemma reassignStaleOrderRequest_offers (order : Option ℕ) :
    Uses (fun w => w.offers = false) (reassignStaleOrderRequest order) := by
  cases order with
  | none => trivial
  | some order =>
    refine uses_attempt rfl trivial fun s => ?_
    split
    · trivial
    · exact uses_attempt rfl trivial fun _ => trivial

lemma fetchProviderBalances_offers (reported : List ReportedBalance) :
    Uses (fun w => w.offers = false) (fetchProviderBalances reported) := by
  refine uses_forEach fun r _ => uses_attempt rfl trivial fun s => ?_
  split
  · exact uses_ignore rfl trivial
  · split
    · exact uses_ignore rfl trivial
    · trivial

end Stablenode
