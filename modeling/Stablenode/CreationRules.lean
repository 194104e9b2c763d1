import Stablenode.OrderCreation
import Stablenode.ProgramLabels

/-! What the indexing of an `OrderCreated` event does to lock orders. -/
namespace Stablenode

open Proc Run

def LockPaymentOrder.ident (o : LockPaymentOrder) :
    ((String × ℚ × String × ℕ) × (String × String × String × String × ℕ)) × String × Token :=
  (o.index, o.messageHash, o.token)

namespace Store

def idents (s : Store) := s.lockOrders.rows.map LockPaymentOrder.ident

def gateways (s : Store) : List String := s.lockOrders.rows.map LockPaymentOrder.gatewayId

end Store

namespace Creation

variable {I : Indexer} {event : OrderCreatedEvent} {fields : LockPaymentOrderFields} {s : Store}
  {proceed : CreationProgram (Completion String)} {currency : String}

section Accepted

lemma toOption_eq_some_iff {ε α : Type} {x : Except ε α} {a : α} :
    x.toOption = some a ↔ x = .ok a := by
  cases x <;> simp [Except.toOption]

lemma accepted_eq_some_iff : I.accepted event = some fields ↔
    ∃ token recipient institution edge currency bucket,
      I.findToken event.token = .ok token ∧ I.recipient event.messageHash = some (some recipient) ∧
      I.getInstitutionByCode recipient.institution = .ok institution ∧
      institution.loadedCurrency = some edge ∧ I.findCurrency edge.code = .ok currency ∧
      only (I.provisionBuckets.filter fun b =>
        (event.scaled token).amount * (event.scaled token).rate ≤ b.maxAmount ∧
          b.minAmount ≤ (event.scaled token).amount * (event.scaled token).rate ∧
          b.currency = currency.code) = .ok bucket ∧
      fields = (event.scaled token).fields token recipient edge (some bucket) ∧
      I.namedProviderFits fields edge.code = true ∧ fields.create.defaults.check = none := by
  simp only [Indexer.accepted, Option.bind_eq_bind, Option.bind_eq_some_iff,
    toOption_eq_some_iff, Option.join_eq_some_iff, Option.pure_def, Option.some.injEq]
  constructor
  · rintro ⟨token, htoken, recipient, hrecipient, institution, hinstitution, edge, hedge, currency,
      hcurrency, bucket, hbucket, _, hguard, rfl⟩
    obtain ⟨hfits, hcheck⟩ := (Option.guard_eq_some' _).1 hguard
    exact ⟨token, recipient, institution, edge, currency, bucket, htoken, hrecipient, hinstitution,
      hedge, hcurrency, hbucket, rfl, hfits, hcheck⟩
  · rintro ⟨token, recipient, institution, edge, currency, bucket, htoken, hrecipient, hinstitution,
      hedge, hcurrency, hbucket, rfl, hfits, hcheck⟩
    exact ⟨token, htoken, recipient, hrecipient, institution, hinstitution, edge, hedge, currency,
      hcurrency, bucket, hbucket, (), (Option.guard_eq_some' _).2 ⟨hfits, hcheck⟩, rfl⟩

lemma checkNamedProvider_reads (h : I.namedProviderFits fields currency = true) :
    Reads .read (I.checkNamedProvider fields currency proceed) proceed := by
  have hcases : fields.providerId = "" ∨ ∃ offer,
      I.findProviderOrderToken fields.providerId fields.token currency = .ok offer ∧
        (offer.visibilityMode ≠ .privateMode ∨ I.withinLimits fields currency offer = true) := by
    simpa [Indexer.namedProviderFits, Option.any_eq_true, toOption_eq_some_iff] using h
  rw [Indexer.checkNamedProvider]
  rcases hcases with hnone | ⟨offer, hoffer, hmode⟩
  · rw [if_pos hnone]
    exact .refl _
  split_ifs
  · exact .refl _
  refine reads_attempt fun _ => ?_
  simp only [hoffer]
  rcases hmode with hpublic | hlimits
  · rw [if_pos hpublic]
    exact .refl _
  split_ifs
  · exact .refl _
  rw [Indexer.withinLimits] at hlimits
  split at hlimits
  · rename_i amount hamount
    obtain ⟨hmin, hmax⟩ := of_decide_eq_true hlimits
    rw [hamount]
    simp only [if_neg (not_lt.2 hmax), if_neg (not_lt.2 hmin)]
    exact .refl _
  · cases hlimits

theorem checkAndStore_reads (h : I.accepted event = some fields) :
    Reads .read (I.checkAndStore event) (I.storeLockPaymentOrder fields) := by
  obtain ⟨token, recipient, institution, edge, currency, bucket, htoken, hrecipient, hinstitution,
    hedge, hcurrency, hbucket, rfl, hfits, -⟩ := accepted_eq_some_iff.1 h
  rw [Indexer.checkAndStore]
  refine reads_attempt fun _ => ?_
  simp only [htoken, hrecipient]
  refine reads_attempt fun _ => ?_
  simp only [hinstitution, hedge]
  refine reads_attempt fun _ => ?_
  simp only [hcurrency]
  have hfound : Reads .read
      (I.getProvisionBucket ((event.scaled token).amount * (event.scaled token).rate) currency)
      (ret (.ok (some bucket, false))) := by
    refine reads_attempt fun _ => ?_
    rw [hbucket]
    exact .refl _
  refine hfound.bind ?_
  simpa using checkNamedProvider_reads hfits

lemma accepted_fields (h : I.accepted event = some fields) :
    fields.gatewayId = event.orderId ∧ fields.txHash = event.txHash ∧
      fields.messageHash = event.messageHash ∧ fields.token.network = I.network ∧
      fields.create.defaults.check = none := by
  obtain ⟨token, recipient, institution, edge, currency, bucket, htoken, -, -, -, -, -, rfl, -,
    hcheck⟩ := accepted_eq_some_iff.1 h
  have hmem : token ∈ (I.tokens.filter fun t => t.1 = event.token ∧ t.2.network = I.network).map
      Prod.snd := by
    rw [only_eq_ok_iff.1 htoken]
    exact List.mem_singleton_self token
  obtain ⟨t, ht, rfl⟩ := List.mem_map.1 hmem
  have hnetwork : t.2.network = I.network := by simpa using (of_decide_eq_true (List.mem_filter.1 ht).2).2
  exact ⟨rfl, rfl, rfl, hnetwork, hcheck⟩

end Accepted

section Effects

def ident (fields : LockPaymentOrderFields) :=
  (fields.create.defaults.row fields.token 0 0).ident

def Taken (s : Store) (fields : LockPaymentOrderFields) : Prop :=
  (ident fields).1 ∈ s.lockOrders.rows.map LockPaymentOrder.index

instance : Decidable (Taken s fields) := inferInstanceAs (Decidable (LockPaymentOrder.index _ ∈ _))

lemma save_create (hcheck : fields.create.defaults.check = none) (s : Store) :
    fields.create.save s =
      if Taken s fields then .error "duplicate key value violates unique constraint"
      else .ok (fields.create.defaults.row fields.token s.lockOrders.fresh s.now) := by
  have htoken : fields.create.token = some fields.token := rfl
  rw [LockOrderCreate.save, hcheck, htoken]
  rfl

variable {c : LockOrderCreate}

lemma check_ne_none (h : c.amountInUsd = none) : c.check ≠ none := by
  intro hnone
  have hpassed : ∀ t ∈ c.tests, t.1 = false := by
    simpa [LockOrderCreate.check, List.find?_eq_none] using hnone
  have htest : (c.amountInUsd.isNone, LockOrderCreate.missing "amount_in_usd") ∈ c.tests := by
    simp [LockOrderCreate.tests]
  have := hpassed _ htest
  simp [h] at this

lemma save_of_check (h : c.defaults.check ≠ none) (s : Store) :
    ∃ error, c.save s = .error error := by
  obtain ⟨error, herror⟩ := Option.ne_none_iff_exists'.1 h
  exact ⟨error, by rw [LockOrderCreate.save, herror]⟩

lemma save_createCancelled (fields : LockPaymentOrderFields) (reason : String) (s : Store) :
    ∃ error, (fields.createCancelled reason).save s = .error error :=
  save_of_check (check_ne_none rfl) s

lemma exec_createCommit_rows (hcheck : fields.create.defaults.check = none) (network : String)
    (withLog : Bool) (s : Store) :
    ((CreationWrite.createCommit fields.create network withLog).exec s).lockOrders.rows =
      if Taken s fields then s.lockOrders.rows
      else s.lockOrders.rows ++
        [fields.create.defaults.row fields.token s.lockOrders.fresh s.now] := by
  by_cases htaken : Taken s fields
  · simp only [CreationWrite.exec, save_create hcheck, if_pos htaken]
  · simp only [CreationWrite.exec, save_create hcheck, if_neg htaken]
    exact Table.insert_rows (Table.get_fresh s.lockOrders)

lemma exec_createCommit_createdLogs (hcheck : fields.create.defaults.check = none)
    (network : String) (withLog : Bool) (s : Store) (txHash gatewayId : String) :
    ∃ added, ((CreationWrite.createCommit fields.create network withLog).exec s).createdLogs txHash
        gatewayId = s.createdLogs txHash gatewayId ++ added ∧ added.length ≤ 1 ∧
      (added ≠ [] → ¬ Taken s fields ∧ withLog = true ∧ fields.gatewayId = gatewayId) := by
  by_cases htaken : Taken s fields
  · simp only [CreationWrite.exec, save_create hcheck, if_pos htaken]
    exact ⟨[], by simp, by simp, by simp⟩
  simp only [CreationWrite.exec, save_create hcheck, if_neg htaken]
  cases withLog with
  | false => exact ⟨[], by simp [Store.createdLogs], by simp, by simp⟩
  | true =>
    refine ⟨_, Table.select_insert (Table.get_fresh s.transactionLogs) _, ?_, ?_⟩
    · split_ifs <;> simp
    split_ifs with hlog
    · intro _
      exact ⟨htaken, rfl, (of_decide_eq_true hlog).2.2⟩
    · simp

end Effects

section Labels

def Quiet (l : CreationWrite) : Prop :=
  ∀ s, (l.exec s).idents = s.idents ∧ (l.exec s).transactionLogs = s.transactionLogs

variable {w : OrderWrite} {P : CreationWrite → Prop}
  {R : CreationProgram (Completion String) → Prop}

lemma quiet_order (ho : w.writesLockOrder = false) (hl : w.writesLog = false) :
    Quiet (.order w) := by
  intro s
  simp only [CreationWrite.exec, Store.idents, OrderWrite.exec_lockOrders ho,
    OrderWrite.exec_transactionLogs hl, and_self]

lemma quiet_assignment {id : ℕ} (h : AssignmentLabel id w) : Quiet (.order w) := by
  rcases h with ⟨⟨⟩⟩ | _ | _ | _ | _ <;> exact quiet_order rfl rfl

lemma quiet_handleCancellationUpdate (order : ℕ) (reason : String) :
    Quiet (.order (.handleCancellationUpdate order reason)) := by
  intro s
  refine ⟨?_, rfl⟩
  simp only [CreationWrite.exec, OrderWrite.exec, Store.updateLockOrders, Store.idents,
    Table.update, List.map_map]
  refine List.map_congr_left fun o _ => ?_
  simp only [Function.comp_apply]
  split_ifs <;> rfl

lemma quiet_linkPaymentOrder (paymentOrder : ℕ) (event : OrderCreatedEvent) :
    Quiet (.linkPaymentOrder paymentOrder event) := by
  intro s
  simp only [CreationWrite.exec]
  split_ifs <;> exact ⟨rfl, rfl⟩

lemma uses_linkPaymentOrder (hread : P .read) (hlink : ∀ id, P (.linkPaymentOrder id event))
    (hrefetch : ∀ id, P (.refetchPaymentOrder id))
    (hwebhook : ∀ id status, P (.order (.call (.paymentOrderWebhook id status)))) (retries : ℕ) :
    Uses P (event.linkPaymentOrder retries) := by
  induction retries with
  | zero => trivial
  | succ retries ih =>
    rw [OrderCreatedEvent.linkPaymentOrder]
    refine uses_attempt hread ih fun s => ?_
    split
    · exact ih
    refine uses_attempt (hlink _) trivial fun s => ?_
    split_ifs
    · trivial
    refine uses_attempt (hrefetch _) trivial fun s => ?_
    split
    · trivial
    · exact uses_ignore (hwebhook _ _) trivial

lemma linkPaymentOrder_uses (event : OrderCreatedEvent) (retries : ℕ) :
    Uses Quiet (event.linkPaymentOrder retries) :=
  uses_linkPaymentOrder (quiet_order rfl rfl) (fun _ => quiet_linkPaymentOrder _ _)
    (fun _ _ => ⟨rfl, rfl⟩) (fun _ _ => quiet_order rfl rfl) retries

lemma uses_assignCreated (hread : P .read) (hcall : ∀ c, P (.order (.call c)))
    (hcancel : ∀ order reason, P (.order (.handleCancellationUpdate order reason)))
    (hassign : ∀ id w, AssignmentLabel id w → P (.order w)) (fields : LockPaymentOrderFields)
    (order : LockPaymentOrder) : Uses P (I.assignCreated fields order) := by
  rw [Indexer.assignCreated]
  split_ifs
  · have hcancels : Uses (fun w => P (.order w))
        (handleCancellation order "AML compliance check failed") := by
      refine uses_attempt (hcancel _ _) trivial fun _ => ?_
      refine uses_attempt hread trivial fun s => ?_
      split
      · trivial
      · exact uses_ignore (hcall _) trivial
    refine uses_bind (hcancels.mapLabel (f := CreationWrite.order) fun _ h => h) fun r => ?_
    cases r <;> trivial
  · refine uses_bind ((assignLockPaymentOrder_uses I.fuel rfl).mapLabel fun _ h =>
      hassign _ _ h) fun r => ?_
    cases r <;> trivial

lemma assignCreated_uses (fields : LockPaymentOrderFields) (order : LockPaymentOrder) :
    Uses Quiet (I.assignCreated fields order) :=
  uses_assignCreated (quiet_order rfl rfl) (fun _ => quiet_order rfl rfl)
    quiet_handleCancellationUpdate (fun _ _ => quiet_assignment) fields order

inductive RefusalLabel : CreationWrite → Prop where
  | read : RefusalLabel .read
  | call (c : ExternalCall) : RefusalLabel (.order (.call c))
  | createCancelled (fields : LockPaymentOrderFields) (reason : String) :
    RefusalLabel (.createCancelled (fields.createCancelled reason))

lemma handleCancellationOfFields_refusal (fields : LockPaymentOrderFields) (reason : String) :
    Uses RefusalLabel (handleCancellationOfFields fields reason) := by
  refine uses_attempt (.createCancelled _ _) trivial fun s => ?_
  split
  · trivial
  · exact uses_attempt .read trivial fun _ => uses_ignore (.call _) trivial

lemma cancelFields_refusal (fields : LockPaymentOrderFields) (reason heading : String) :
    Uses RefusalLabel (cancelFields fields reason heading) := by
  refine uses_bind (handleCancellationOfFields_refusal fields reason) fun r => ?_
  cases r <;> trivial

lemma createBasic_refusal (created : OrderCreatedEvent) (token : Option Token)
    (recipient : Option PaymentOrderRecipient) (reason : String) :
    Uses RefusalLabel (I.createBasicLockPaymentOrderAndCancel created token recipient reason) := by
  cases token with
  | none => exact uses_ignore (.call _) trivial
  | some token =>
    refine uses_bind ?_ fun usd => cancelFields_refusal _ _ _
    cases recipient with
    | none => trivial
    | some recipient =>
      refine uses_attempt .read trivial fun _ => ?_
      split
      · trivial
      rw [calculatePaymentOrderAmountInUSD]
      split
      · trivial
      · exact uses_attempt .read trivial fun _ => trivial

structure Passes (R : CreationProgram (Completion String) → Prop) : Prop where
  ret (r : Completion String) : R (ret r)
  refuse {p : CreationProgram (Completion String)} : Uses RefusalLabel p → R p
  read {failed : CreationProgram (Completion String)}
    {k : Store → CreationProgram (Completion String)} :
    R failed → (∀ s, R (k s)) → R (attempt .read failed k)
  bind {β : Type} {p : CreationProgram β} {g : β → CreationProgram (Completion String)} :
    Uses (· = .read) p → (∀ b, R (g b)) → R (p.bind g)

lemma Passes.checkNamedProvider (hR : Passes R) (h : R proceed) :
    R (I.checkNamedProvider fields currency proceed) := by
  rw [Indexer.checkNamedProvider]
  split
  · exact h
  refine hR.read (hR.ret _) fun _ => ?_
  split
  · exact hR.refuse (uses_bind (handleCancellationOfFields_refusal _ _) fun r => trivial)
  · exact hR.ret _
  split
  · exact h
  split
  · exact hR.ret _
  · exact hR.ret _
  dsimp only
  split
  · exact hR.refuse (cancelFields_refusal _ _ _)
  · split
    · exact hR.refuse (cancelFields_refusal _ _ _)
    · exact h

lemma storeLockPaymentOrder_of (hret : ∀ r, R (ret r))
    (hread : ∀ {failed k}, R failed → (∀ s, R (k s)) → R (attempt .read failed k))
    (hcommit : ∀ withLog, R (I.commitLockPaymentOrder fields withLog)) :
    R (I.storeLockPaymentOrder fields) := by
  refine hread (hret _) fun _ => ?_
  refine hread (hret _) fun s => ?_
  split
  · exact hret _
  · exact hcommit false
  · exact hread (hret _) fun _ => hcommit true

theorem Passes.checkAndStore (hR : Passes R)
    (hcommit : ∀ token recipient currency bucket, I.findToken event.token = .ok token →
      ∀ withLog, R (I.commitLockPaymentOrder
        ((event.scaled token).fields token recipient currency bucket) withLog)) :
    R (I.checkAndStore event) := by
  have hbasic := fun created token recipient reason =>
    hR.refuse (createBasic_refusal (I := I) created token recipient reason)
  rw [Indexer.checkAndStore]
  refine hR.read (hbasic _ _ _ _) fun _ => ?_
  split
  · exact hbasic _ _ _ _
  rename_i token htoken
  split
  · exact hbasic _ _ _ _
  · exact hR.ret _
  refine hR.read (hbasic _ _ _ _) fun _ => ?_
  split
  · exact hbasic _ _ _ _
  split
  · exact hR.ret _
  refine hR.read (hbasic _ _ _ _) fun _ => ?_
  split
  · exact hbasic _ _ _ _
  refine hR.bind ?_ fun r => ?_
  · refine uses_attempt rfl trivial fun _ => ?_
    split
    · trivial
    · trivial
    refine uses_attempt rfl trivial fun _ => ?_
    split
    · trivial
    · split_ifs <;> trivial
  · rcases r with e | ⟨bucket, isLessThanMin⟩
    · exact hbasic _ _ _ _
    dsimp only
    split
    · exact hR.refuse (cancelFields_refusal _ _ _)
    refine hR.checkNamedProvider ?_
    split
    · exact hR.refuse (cancelFields_refusal _ _ _)
    · exact storeLockPaymentOrder_of hR.ret hR.read (hcommit token _ _ _ htoken)

inductive StoreLabel (I : Indexer) (event : OrderCreatedEvent) : CreationWrite → Prop where
  | read : StoreLabel I event .read
  | call (c : ExternalCall) : StoreLabel I event (.order (.call c))
  | createCancelled (fields : LockPaymentOrderFields) (reason : String) :
    StoreLabel I event (.createCancelled (fields.createCancelled reason))
  | createCommit {token : Token} (htoken : I.findToken event.token = .ok token)
    (recipient : PaymentOrderRecipient) (currency : FiatCurrency) (bucket : Option ProvisionBucket)
    (network : String) (withLog : Bool) :
    StoreLabel I event
      (.createCommit ((event.scaled token).fields token recipient currency bucket).create network
        withLog)
  | handleCancellationUpdate (order : ℕ) (reason : String) :
    StoreLabel I event (.order (.handleCancellationUpdate order reason))
  | assignment {id : ℕ} {w : OrderWrite} (h : AssignmentLabel id w) : StoreLabel I event (.order w)

lemma storeLabel_of_refusal {w : CreationWrite} (h : RefusalLabel w) : StoreLabel I event w := by
  cases h with
  | read => exact .read
  | call c => exact .call c
  | createCancelled fields reason => exact .createCancelled fields reason

theorem checkAndStore_labels (event : OrderCreatedEvent) :
    Uses (StoreLabel I event) (I.checkAndStore event) := by
  have hpasses : Passes (Uses (StoreLabel I event)) :=
    { ret := fun _ => trivial
      refuse := fun h => h.mono fun _ => storeLabel_of_refusal
      read := fun hf hk => uses_attempt .read hf hk
      bind := fun hp hg => uses_bind (hp.mono fun _ h => by rw [h]; exact .read) hg }
  refine hpasses.checkAndStore fun token recipient currency bucket htoken withLog => ?_
  refine uses_attempt (.createCommit htoken _ _ _ _ _) trivial fun s => ?_
  split
  · trivial
  · exact uses_assignCreated .read .call .handleCancellationUpdate (fun _ _ => .assignment) _ _

end Labels

end Creation

/-! An indexer with one token, one institution and one bucket, for concrete runs. -/
namespace Sample

def indexer : Indexer where
  conf := {}
  env := .silent
  fuel := 2
  network := "base"
  production := false
  tokens := [("0xtoken", token)]
  institutions := [⟨"bank", some ⟨"NGN", true, 1⟩⟩]
  fiatCurrencies := [⟨"NGN", true, 1⟩]
  provisionBuckets := [bucket]
  offers := []
  recipient _ := some (some ⟨"bank", "001", "name", "", ""⟩)
  amlCompliance _ := none

def createdEvent (txHash orderId messageHash : String) : OrderCreatedEvent where
  blockNumber := 1
  txHash := txHash
  token := "0xtoken"
  amount := 40000000
  protocolFee := 0
  orderId := orderId
  rate := 1
  messageHash := messageHash
  sender := "0xsender"

end Sample

end Stablenode
