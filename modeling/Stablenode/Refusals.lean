import Stablenode.ProgramLabels
import Stablenode.Sessions

/-! Refusals of an order request: which assignments of the order can still name the provider. -/
namespace Stablenode.Refusals

open Proc

inductive Party where
  | declineOrder (provider : ProviderProfile) (param : Option ℕ)
  | cancelOrder (fuel : ℕ) (provider : ProviderProfile) (reason : String) (param : Option ℕ)
  | reassignCancelledOrder (env : Environment) (fuel : ℕ) (order : LockPaymentOrder)
    (provider : ProviderProfile) (fulfillment : Option ℕ)
  | reassignStaleOrderRequest (param : Option ℕ)
  | assignLockPaymentOrder (env : Environment) (fuel : ℕ) (order : OrderFields)

def Party.program (conf : OrderConfig) : Party → OrderProgram Unit
  | declineOrder provider param => (Stablenode.declineOrder provider param).discard
  | cancelOrder fuel provider reason param =>
    (Stablenode.cancelOrder conf fuel provider reason param).discard
  | reassignCancelledOrder env fuel order provider fulfillment =>
    (Stablenode.reassignCancelledOrder conf env fuel order provider fulfillment).discard
  | reassignStaleOrderRequest param => (Stablenode.reassignStaleOrderRequest param).discard
  | assignLockPaymentOrder env fuel order =>
    (Stablenode.assignLockPaymentOrder conf env fuel order).discard

abbrev PartyTrace := List (Call (ℕ × OrderWrite) Store)

def partyTrace (conf : OrderConfig) (parties : List Party) (schedule : List ℕ) (faults : List Bool)
    (s : Store) : PartyTrace :=
  (interleave schedule (numbered (parties.map (Party.program conf)))).trace
    (execNumbered OrderWrite.exec) faults s

def requests (order : ℕ) (provider : String) : OrderWrite → Bool
  | .setOrderRequest o fields => o = order ∧ ("providerId", provider) ∈ fields
  | _ => false

section Assignment

variable {conf : OrderConfig} {env : Environment} {order : ℕ} {provider : String}

abbrev Spares (order : ℕ) (provider : String) : List (Call OrderWrite Store) → Prop :=
  While (fun x => provider ∈ x.state.excludeList order)
    fun x => requests order provider x.label = false

variable {fields : OrderFields}

lemma sendOrderRequest_requests (hne : fields.providerId ≠ provider) :
    Uses (fun w => requests order provider w = false) (sendOrderRequest conf env fields) := by
  rw [sendOrderRequest]
  split
  · trivial
  refine uses_attempt rfl trivial fun s => ?_
  split
  · trivial
  split
  · trivial
  refine uses_attempt (by simp [requests, orderRequestData, hne.symm]) trivial fun s => ?_
  refine uses_ignore rfl ?_
  split
  · exact uses_attempt rfl trivial fun _ => uses_attempt rfl trivial fun _ => trivial
  · trivial

theorem assignLockPaymentOrder_spares (fuel : ℕ) (hid : fields.id = order) :
    Paths (Spares order provider) (assignLockPaymentOrder conf env fuel fields) := by
  have hmerge : Mergeable (Spares order provider) := mergeable_while _ _
  have hquiet : ∀ {w : OrderWrite}, requests order provider w = false → ∀ s done,
      Spares order provider [⟨w, s, done⟩] := fun hw s done => while_singleton hw
  have hrule : AssignmentRule conf env (fun o => o.id = order) (provider ∈ ·)
      (Paths (Spares order provider)) :=
    { ret := paths_ret hmerge
      bind := paths_bind hmerge
      read := paths_attempt hmerge (hquiet rfl)
      readExclude := fun h hf hk =>
        paths_while_attempt (fun _ _ => rfl) (fun _ _ => hf) fun s hs => hk s (h ▸ hs)
      offer := fun _ h => h
      rotate := fun key hsend => by
        refine paths_attempt hmerge (hquiet rfl) (paths_ret hmerge _) fun s => ?_
        split
        · exact paths_ret hmerge _
        · exact paths_attempt hmerge (hquiet rfl) (paths_ret hmerge _) fun _ => hsend
      exclude := fun _ _ => paths_ignore hmerge (hquiet rfl)
      setRate := fun _ h hk => paths_ignore hmerge (hquiet rfl) (hk h)
      send := fun _ hlisted hnew => paths_of_uses hmerge
        (sendOrderRequest_requests fun h => hnew (h ▸ hlisted)) fun _ hw => hquiet hw }
  exact hrule.assignLockPaymentOrder fuel hid

end Assignment

section Cancel

variable {order : ℕ} {provider : String}

def PushesOnSuccess (order : ℕ) (provider : String) (p : OrderProgram Reply) : Prop :=
  ∀ t message data, Path p t (.response 200 "success" message data) →
    .pushExclude order provider ∈ executed t

lemma pushesOnSuccess_ret {r : Reply}
    (hr : ∀ message data, r ≠ .response 200 "success" message data) :
    PushesOnSuccess order provider (ret r) := by
  intro t message data h
  exact absurd (path_ret_iff.1 h).2.symm (hr message data)

lemma pushesOnSuccess_attempt {l : OrderWrite} {failed : OrderProgram Reply}
    {k : Store → OrderProgram Reply} (hf : PushesOnSuccess order provider failed)
    (hk : l = .pushExclude order provider ∨ ∀ s, PushesOnSuccess order provider (k s)) :
    PushesOnSuccess order provider (attempt l failed k) := by
  intro t m data h
  rcases path_attempt_iff.1 h with ⟨s, u, rfl, hu⟩ | ⟨s, u, rfl, hu⟩
  · rcases hk with rfl | hk
    · exact List.mem_cons_self
    · exact List.mem_cons_of_mem l (hk s u m data hu)
  · exact hf u m data hu

lemma pushesOnSuccess_bind {α : Type} {p : OrderProgram α} {g : α → OrderProgram Reply}
    (hg : ∀ a, PushesOnSuccess order provider (g a)) :
    PushesOnSuccess order provider (p.bind g) := by
  intro t m data h
  obtain ⟨u, v, a, rfl, -, hv⟩ := path_bind h
  rw [executed_append]
  exact List.mem_append_right _ (hg a v m data hv)

lemma cancelWith_pushes (conf : OrderConfig) (provider : ProviderProfile) (o : LockPaymentOrder)
    (count : ℕ) (reason : Option String) :
    PushesOnSuccess o.id provider.id (cancelWith conf provider o count reason) := by
  have hexclude : PushesOnSuccess o.id provider.id (attempt (.pushExclude o.id provider.id)
      (apiError 500 "Failed to decline order request")
        fun _ => apiSuccess 200 "Order cancelled successfully") :=
    pushesOnSuccess_attempt (pushesOnSuccess_ret (by simp)) (Or.inl rfl)
  rw [cancelWith]
  refine pushesOnSuccess_attempt (pushesOnSuccess_ret (by simp)) (Or.inr fun s => ?_)
  split
  · exact pushesOnSuccess_ret (by simp)
  dsimp only
  split
  · exact pushesOnSuccess_ret (by simp)
  refine pushesOnSuccess_bind fun _ => ?_
  split_ifs
  · intro t message data h
    obtain ⟨s, done, u, rfl, hu⟩ := path_ignore_iff.1 h
    exact (executed_append [_] u).symm ▸ List.mem_append_right _ (hexclude u message data hu)
  · exact hexclude

lemma cancelOrder_pushes (conf : OrderConfig) (fuel : ℕ) (provider : ProviderProfile)
    (reason : String) (order : ℕ) :
    PushesOnSuccess order provider.id (cancelOrder conf fuel provider reason (some order)) := by
  have hnot : ∀ code message, PushesOnSuccess order provider.id (apiError code message) :=
    fun code message => pushesOnSuccess_ret (by simp)
  rw [cancelOrder]
  split_ifs
  · exact hnot _ _
  refine pushesOnSuccess_attempt (hnot _ _) (Or.inr fun s => ?_)
  split
  · exact hnot _ _
  next o ho =>
    obtain rfl : o.id = order := Table.get_key ho
    have hcancel := cancelWith_pushes conf provider o
    rw [cancelFound]
    split_ifs
    · exact hnot _ _
    · exact hcancel _ _
    · exact hcancel _ _
    · split
      · exact pushesOnSuccess_ret (by simp)
      · exact pushesOnSuccess_bind fun _ => hcancel _ _

end Cancel

section Runs

variable (conf : OrderConfig) (parties : List Party) (order : ℕ) (provider : String)

def Refused (t : PartyTrace) : Prop :=
  (∃ j, (j, .deleteOrderRequest .declined order provider) ∈ executed t) ∨
    ∃ j fuel profile reason message data,
      parties[j]? = some (.cancelOrder fuel profile reason (some order)) ∧ profile.id = provider ∧
        Path (cancelOrder conf fuel profile reason (some order)) (session j t)
          (.response 200 "success" message data)

def Assigns (i : ℕ) (t : PartyTrace) (v : List (Call OrderWrite Store)) : Prop :=
  v <+: session i t ∧ ∃ env fuel fields r, fields.id = order ∧
    Path (assignLockPaymentOrder conf env fuel fields) v r

def RefusalFinal (t : PartyTrace) : Prop :=
  ∀ t₁ t₂ i v, t = t₁ ++ t₂ → Refused conf parties order provider t₁ →
    Assigns conf order i t₂ v → ∀ x ∈ v, requests order provider x.label = false

def PushedFirst (t : PartyTrace) : Prop :=
  ∀ t₁ x t₂ v, t = t₁ ++ x :: t₂ → v ≠ [] → Assigns conf order x.label.1 (x :: t₂) v →
    (∃ j, (j, .deleteOrderRequest .declined order provider) ∈ executed t₁) →
      ∃ j, (j, .pushExclude order provider) ∈ executed t₁

variable {conf parties order provider} {s : Store} {t₁ t₂ : PartyTrace}

lemma mem_executed {ℓ σ : Type} {t : List (Call ℓ σ)} {l : ℓ} :
    l ∈ executed t ↔ ∃ x ∈ t, x.done = true ∧ x.label = l := by
  simp [executed, and_assoc]

lemma executed_session {j : ℕ} {w : OrderWrite} (h : w ∈ executed (session j t₁)) :
    (j, w) ∈ executed t₁ := by
  obtain ⟨x, hx, hdone, rfl⟩ := mem_executed.1 h
  exact mem_executed.2 ⟨_, mem_session.1 hx, hdone, rfl⟩

lemma listed_of_pushed {j : ℕ} (h : Chained (execNumbered OrderWrite.exec) s (t₁ ++ t₂))
    (hpush : (j, .pushExclude order provider) ∈ executed t₁) :
    ∀ x ∈ t₂, provider ∈ x.state.excludeList order := by
  intro x hx
  obtain ⟨y, hy, hdone, hlabel⟩ := mem_executed.1 hpush
  obtain ⟨pre, mid, rfl⟩ := List.append_of_mem hy
  obtain ⟨mid', post, rfl⟩ := List.append_of_mem hx
  have hsplit : pre ++ y :: mid ++ (mid' ++ x :: post) =
      pre ++ y :: (mid ++ mid') ++ x :: post := by simp
  rw [hsplit] at h
  refine h.later (P := fun s => provider ∈ s.excludeList order) ?_ fun z _ _ hz =>
    z.label.2.mem_excludeList hz
  rw [if_pos hdone, execNumbered, hlabel]
  simp [OrderWrite.exec, Store.excludeList]

lemma exists_first_call {i : ℕ} {y : Call OrderWrite Store} {u : List (Call OrderWrite Store)}
    (h : session i t₂ = y :: u) :
    ∃ c x d, t₂ = c ++ x :: d ∧ x.label.1 = i ∧ session i (x :: d) = y :: u := by
  induction t₂ with
  | nil => cases h
  | cons x d ih =>
    by_cases hx : x.label.1 = i
    · exact ⟨[], x, d, rfl, hx, h⟩
    · have hd : session i d = y :: u := by simpa [session, hx] using h
      obtain ⟨c, x', d', rfl, hi, hu⟩ := ih hd
      exact ⟨x :: c, x', d', rfl, hi, hu⟩

lemma Assigns.label_eq_read {x : Call (ℕ × OrderWrite) Store} {v : List (Call OrderWrite Store)}
    (h : Assigns conf order x.label.1 (x :: t₂) v) (hv : v ≠ []) : x.label.2 = .read := by
  obtain ⟨⟨rest, hv'⟩, env, fuel, fields, r, -, hpath⟩ := h
  rw [session_cons_self] at hv'
  obtain ⟨y, u, rfl⟩ := List.exists_cons_of_ne_nil hv
  have hy : y.label = x.label.2 := congrArg Call.label (List.cons_eq_cons.1 hv').1
  cases fuel with
  | zero => exact absurd (path_ret_iff.1 hpath).1 hv
  | succ fuel =>
    rcases path_attempt_iff.1 hpath with ⟨s, w, hw, -⟩ | ⟨s, w, hw, -⟩
    · exact hy.symm.trans (congrArg Call.label (List.cons_eq_cons.1 hw).1)
    · exact hy.symm.trans (congrArg Call.label (List.cons_eq_cons.1 hw).1)

theorem refusal_final (conf : OrderConfig) (parties : List Party) (schedule : List ℕ)
    (faults : List Bool) (s : Store) (order : ℕ) (provider : String)
    (h : PushedFirst conf order provider (partyTrace conf parties schedule faults s)) :
    RefusalFinal conf parties order provider (partyTrace conf parties schedule faults s) := by
  rintro t₁ t₂ i v ht hrefused ⟨⟨rest, hv⟩, env, fuel, fields, r, hid, hpath⟩ x hx
  obtain ⟨pre, post, hsplit⟩ := List.append_of_mem hx
  cases v with
  | nil => cases hx
  | cons y u =>
    obtain ⟨c, z, d, rfl, rfl, hd⟩ := exists_first_call hv.symm
    rw [← List.append_assoc] at ht
    have hmono : ∀ {l}, l ∈ executed t₁ → l ∈ executed (t₁ ++ c) := fun hl => by
      rw [executed_append]
      exact List.mem_append_left _ hl
    obtain ⟨j, hpush⟩ : ∃ j, (j, .pushExclude order provider) ∈ executed (t₁ ++ c) := by
      rcases hrefused with ⟨j, hj⟩ | ⟨j, cfuel, profile, reason, message, data, -, rfl, hcancel⟩
      · exact h _ z d _ ht (List.cons_ne_nil y u)
          ⟨⟨rest, hd.symm⟩, env, fuel, fields, r, hid, hpath⟩ ⟨j, hmono hj⟩
      · have hpushed := cancelOrder_pushes conf cfuel profile reason order _ _ _ hcancel
        exact ⟨j, hmono (executed_session hpushed)⟩
    have hchained : Chained (execNumbered OrderWrite.exec) s
        (partyTrace conf parties schedule faults s) := chained_trace _ faults s
    rw [ht] at hchained
    have hlisted := listed_of_pushed hchained hpush
    refine assignLockPaymentOrder_spares fuel hid _ _ hpath pre x post hsplit fun w hw => ?_
    have hmem : w ∈ y :: u := hsplit ▸ List.mem_append_left _ hw
    have hfirst : w ∈ session z.label.1 (z :: d) := by
      rw [hd]
      exact List.mem_append_left rest hmem
    exact hlisted _ (mem_session.1 hfirst)

def offeredStore : Store :=
  { Sample.store with
    balances := .single ⟨"p2", "NGN", ⟨100, 0, 100⟩, true, 0⟩
    providerOrderTokens := [⟨"p2", 1, "NGN", "base", "0xp2", 1⟩]
    orderRequests := .single ⟨1, [("providerId", "p2")], none⟩
    queues := .single ⟨⟨Sample.bucket, false⟩, [.offer "p2" "USDC" (some 1) (some 0) (some 1000)]⟩ }

def decliningParties : List Party :=
  [.declineOrder Sample.otherProvider (some 1),
    .reassignCancelledOrder .silent 3 Sample.lockOrder Sample.provider none]

def decliningTrace (schedule : List ℕ) : PartyTrace :=
  partyTrace {} decliningParties schedule [] offeredStore

theorem refusal_final_of_decline_first :
    RefusalFinal {} decliningParties 1 "p2" (decliningTrace [0, 0, 0]) := by
  refine refusal_final {} decliningParties [0, 0, 0] [] offeredStore 1 "p2" ?_
  rintro t₁ x t₂ v ht hv hassigns ⟨j, hj⟩
  have hpushed : ∀ k ≤ 9, (decliningTrace [0, 0, 0])[k]?.any (fun x => x.label.2 = .read) = true ∧
      (∃ l ∈ executed ((decliningTrace [0, 0, 0]).take k),
        l.2 = .deleteOrderRequest .declined 1 "p2") →
        (0, .pushExclude 1 "p2") ∈ executed ((decliningTrace [0, 0, 0]).take k) := by
    decide +kernel
  have hlength : (decliningTrace [0, 0, 0]).length = 9 := by decide +kernel
  rw [← decliningTrace] at ht
  rw [ht] at hpushed hlength
  have hlast := hpushed t₁.length (by simp at hlength; omega)
  rw [List.take_left] at hlast
  exact ⟨0, hlast ⟨by simp [hassigns.label_eq_read hv], _, hj, rfl⟩⟩

theorem declining_provider_requested :
    ¬ RefusalFinal {} decliningParties 1 "p2"
      (decliningTrace (0 :: 0 :: List.replicate 12 1)) := by
  intro h
  let t := decliningTrace (0 :: 0 :: List.replicate 12 1)
  let assign := assignLockPaymentOrder {} .silent 3 Sample.lockOrder.reassignFields
  let s := Run.exec (execNumbered OrderWrite.exec) offeredStore (executed (t.take 4))
  obtain ⟨r, hpath⟩ : ∃ r, Path assign (assign.trace OrderWrite.exec [] s) r := path_trace _ [] s
  have hspared := h (t.take 4) (t.drop 4) 1 (assign.trace OrderWrite.exec [] s)
    (List.take_append_drop 4 t).symm (Or.inl ⟨0, by decide +kernel⟩)
    ⟨⟨[], by decide +kernel⟩, .silent, 3, _, r, rfl, hpath⟩
  revert hspared
  decide +kernel

end Runs

end Stablenode.Refusals
