import Stablenode.QueueEffects
import Stablenode.Reliable

/-! `AssignLockPaymentOrder` and `matchRate` (services/priority_queue.go) with their Redis calls
told apart. -/
namespace Stablenode

open Proc

inductive AssignCall where
  | redis (w : OrderWrite)
  | database (w : OrderWrite)
  | sending (fromQueue : Bool) (provider : String) (w : OrderWrite)

namespace AssignCall

def erase : AssignCall → OrderWrite
  | redis w | database w | sending _ _ w => w

def exec (c : AssignCall) : Store → Store := c.erase.exec

end AssignCall

section Calls

variable (conf : OrderConfig) (env : Environment)

def sendOrderRequestCalls (fromQueue : Bool) (order : OrderFields) :
    Proc AssignCall Store (Completion AssignError) :=
  (sendOrderRequest conf env order).mapLabel (.sending fromQueue order.providerId)

def matchRateCalls (reassign : OrderFields → Proc AssignCall Store (Completion AssignError))
    (key : QueueKey) (excludeList : List String) :
    ℕ → ℕ → OrderFields → Proc AssignCall Store (Completion AssignError)
  | 0, _, _ => ret (.error .outOfFuel)
  | fuel + 1, index, order =>
    attempt (.redis .read) (ret (.error .redis)) fun s =>
    match (s.queue key)[index]? with
    | none => ret (.error .redisNil)
    | some (.malformed _) => matchRateCalls reassign key excludeList fuel (index + 1) order
    | some (.offer provider token rate minAmount maxAmount) =>
      let order := { order with providerId := provider }
      let next := matchRateCalls reassign key excludeList fuel (index + 1) order
      match offerTest env order key.bucket.currency excludeList
        (.offer provider token rate minAmount maxAmount) with
      | .panicked => ret .panicked
      | .error _ => next
      | .ok =>
        attempt (.database .read) next fun s =>
        if ¬ providerFits s order key.bucket.currency provider (rate.getD 0) then next
        else
          let send := (sendOrderRequestCalls conf env true order).bind fun
            | .error _ => ignore (.redis (.pushExclude order.id provider)) (reassign order)
            | r => ret r
          if index = 0 then
            attempt (.redis (.popQueue key)) (ret (.error .redis)) fun s =>
            match (s.queue key).head? with
            | none => ret (.error .redisNil)
            | some data => attempt (.redis (.pushQueue key data)) (ret (.error .redis)) fun _ => send
          else send

def handOverCalls (reassign : OrderFields → Proc AssignCall Store (Completion AssignError))
    (key : QueueKey) (index : ℕ) (provider : String) (order : OrderFields) :
    Proc AssignCall Store (Completion AssignError) :=
  let send := (sendOrderRequestCalls conf env true order).bind fun
    | .error _ => ignore (.redis (.pushExclude order.id provider)) (reassign order)
    | r => ret r
  if index = 0 then
    attempt (.redis (.popQueue key)) (ret (.error .redis)) fun s =>
    match (s.queue key).head? with
    | none => ret (.error .redisNil)
    | some data => attempt (.redis (.pushQueue key data)) (ret (.error .redis)) fun _ => send
  else send

def assignFromQueueCalls (reassign : OrderFields → Proc AssignCall Store (Completion AssignError))
    (fuel : ℕ) (order : OrderFields) (excludeList : List String) :
    Proc AssignCall Store (Completion AssignError) :=
  match order.provisionBucket with
  | none => ret .panicked
  | some bucket =>
    (matchRateCalls conf env reassign ⟨bucket, false⟩ excludeList fuel 0 order).bind fun
      | .error _ =>
        (matchRateCalls conf env reassign ⟨bucket, true⟩ excludeList fuel 0 order).bind fun
          | .error .redisNil => ret .ok
          | r => ret r
      | r => ret r

def offerToNamedCalls (queues : OrderFields → Proc AssignCall Store (Completion AssignError))
    (provider : ProviderProfile) (order : OrderFields) : Proc AssignCall Store (Completion AssignError) :=
  (sendOrderRequestCalls conf env false order).bind fun
    | .error _ => if provider.visibilityMode = .privateMode then ret .ok else queues order
    | r => ret r

def assignCalls : ℕ → OrderFields → Proc AssignCall Store (Completion AssignError)
  | 0, _ => ret (.error .outOfFuel)
  | fuel + 1, order =>
    attempt (.redis .read) (ret (.error .redis)) fun s =>
    let excludeList := s.excludeList order.id
    let queues (order : OrderFields) :=
      assignFromQueueCalls conf env (assignCalls fuel) fuel order excludeList
    if order.providerId = "" ∨ order.providerId ∈ excludeList then queues order
    else
      attempt (.database .read) (ret .panicked) fun s =>
      match s.providers.get order.providerId with
      | none => ret .panicked
      | some provider =>
        if order.updatedAt + 600 < s.now then
          match order.provisionBucket with
          | none => ret .panicked
          | some bucket =>
            let rate := (env.providerRate provider.id order.token.symbol bucket.currency).getD 0
            ignore (.database (.setPaymentOrderRate order.id rate))
              (offerToNamedCalls conf env queues provider { order with rate })
        else offerToNamedCalls conf env queues provider order

end Calls

section Erase

variable {conf : OrderConfig} {env : Environment}

lemma mapLabel_ignore {ℓ ℓ' σ α : Type} (f : ℓ → ℓ') (l : ℓ) (p : Proc ℓ σ α) :
    (ignore l p).mapLabel f = ignore (f l) (p.mapLabel f) := by
  rfl

lemma sendOrderRequestCalls_erase (fromQueue : Bool) (order : OrderFields) :
    (sendOrderRequestCalls conf env fromQueue order).mapLabel AssignCall.erase =
      sendOrderRequest conf env order := by
  rw [sendOrderRequestCalls]
  induction sendOrderRequest conf env order with
  | ret a => rfl
  | act l k ih => exact congrArg (act l) (funext ih)

section Erase

variable {reassign : OrderFields → Proc AssignCall Store (Completion AssignError)}
  {reassign' : OrderFields → OrderProgram (Completion AssignError)}
  (hreassign : ∀ order, (reassign order).mapLabel AssignCall.erase = reassign' order)
include hreassign

lemma bind_sendOrderRequestCalls_erase (provider : String) (order : OrderFields) :
    ((sendOrderRequestCalls conf env true order).bind fun
        | .error _ => ignore (.redis (.pushExclude order.id provider)) (reassign order)
        | r => ret r).mapLabel AssignCall.erase =
      (sendOrderRequest conf env order).bind fun
        | .error _ => ignore (.pushExclude order.id provider) (reassign' order)
        | r => ret r := by
  rw [mapLabel_bind, sendOrderRequestCalls_erase]
  congr 1
  funext r
  cases r with
  | error e => exact congrArg (ignore _) (hreassign order)
  | ok | panicked => rfl

lemma matchRateCalls_erase (key : QueueKey) (excludeList : List String) (fuel index : ℕ)
    (order : OrderFields) :
    (matchRateCalls conf env reassign key excludeList fuel index order).mapLabel AssignCall.erase =
      matchRate conf env reassign' key excludeList fuel index order := by
  induction fuel generalizing index order with
  | zero => rfl
  | succ fuel ih =>
    rw [matchRateCalls, matchRate, mapLabel_attempt]
    congr 1
    funext s
    cases (s.queue key)[index]? with
    | none => rfl
    | some e =>
      cases e with
      | malformed text => exact ih (index + 1) order
      | offer provider token rate minAmount maxAmount =>
        have hnext := ih (index + 1) { order with providerId := provider }
        have hsend := @bind_sendOrderRequestCalls_erase conf env _ _ hreassign provider
          { order with providerId := provider }
        dsimp only
        cases offerTest env { order with providerId := provider } key.bucket.currency excludeList
            (.offer provider token rate minAmount maxAmount) with
        | panicked => rfl
        | error e => exact hnext
        | ok =>
          simp only [mapLabel_attempt]
          congr 1
          funext s
          split
          · exact hnext
          split
          · rw [mapLabel_attempt]
            congr 1
            funext s
            cases (s.queue key).head? with
            | none => rfl
            | some data =>
              rw [mapLabel_attempt]
              exact congrArg (attempt _ _) (funext fun _ => hsend)
          · exact hsend

lemma assignFromQueueCalls_erase (fuel : ℕ) (order : OrderFields) (excludeList : List String) :
    (assignFromQueueCalls conf env reassign fuel order excludeList).mapLabel AssignCall.erase =
      assignFromQueue conf env reassign' fuel order excludeList := by
  rw [assignFromQueueCalls, assignFromQueue]
  cases order.provisionBucket with
  | none => rfl
  | some bucket =>
    simp only [mapLabel_bind, matchRateCalls_erase hreassign]
    congr 1
    funext r
    cases r with
    | ok | panicked => rfl
    | error e =>
      simp only [mapLabel_bind, matchRateCalls_erase hreassign]
      congr 1
      funext r
      rcases r with _ | (_ | _ | _ | _ | _ | _ | _) | _ <;> rfl

lemma offerToNamedCalls_erase (provider : ProviderProfile) (order : OrderFields) :
    (offerToNamedCalls conf env reassign provider order).mapLabel AssignCall.erase =
      offerToNamed conf env reassign' provider order := by
  rw [offerToNamedCalls, offerToNamed, mapLabel_bind, sendOrderRequestCalls_erase]
  congr 1
  funext r
  cases r with
  | ok | panicked => rfl
  | error e =>
    dsimp only
    split
    · rfl
    · exact hreassign order

end Erase

theorem assignCalls_erase (fuel : ℕ) (order : OrderFields) :
    (assignCalls conf env fuel order).mapLabel AssignCall.erase =
      assignLockPaymentOrder conf env fuel order := by
  induction fuel generalizing order with
  | zero => rfl
  | succ fuel ih =>
    rw [assignCalls, assignLockPaymentOrder, mapLabel_attempt]
    congr 1
    funext s
    have hqueues : ∀ o, (assignFromQueueCalls conf env (assignCalls conf env fuel) fuel o
        (s.excludeList order.id)).mapLabel AssignCall.erase =
          assignFromQueue conf env (assignLockPaymentOrder conf env fuel) fuel o
            (s.excludeList order.id) := fun o =>
      assignFromQueueCalls_erase ih fuel o (s.excludeList order.id)
    dsimp only
    split
    · exact hqueues order
    rw [mapLabel_attempt]
    congr 1
    funext s'
    cases s'.providers.get order.providerId with
    | none => rfl
    | some provider =>
      dsimp only
      split
      · cases order.provisionBucket with
        | none => rfl
        | some bucket =>
          rw [mapLabel_ignore]
          exact congrArg (ignore _) (offerToNamedCalls_erase hqueues provider _)
      · exact offerToNamedCalls_erase hqueues provider order

end Erase

end Stablenode
