import Stablenode.PaymentWriters
import Stablenode.Traces

/-! The transactions of `CreateOrder` and the message hashes stored before them, in all runs. -/
namespace Stablenode

open Proc

def PaymentWrite.Ordinary (encrypts : ℕ → Option String) : PaymentWrite → Prop
  | call (.createOrder _ _) => False
  | update order (.messageHash hash) => encrypts order = some hash
  | _ => True

structure SubmissionRule (encrypts : ℕ → Option String)
    (Q : List (Call PaymentWrite Store) → Prop) : Prop where
  merge : Mergeable Q
  ordinary : ∀ w s done, w.Ordinary encrypts → Q [⟨w, s, done⟩]
  send : ∀ order hash s₁ s₂ s₃ done, encrypts order = some hash →
    s₁.refusesUpdate order (.messageHash hash) = false →
      Q [⟨.update order (.messageHash hash), s₁, true⟩,
        ⟨.update order (.status .initiated), s₂, true⟩, ⟨.call (.createOrder order hash), s₃, done⟩]

variable {α : Type} {w : PaymentWrite} {order : ℕ} {x : Call SideWrite Store} {hash : String}
  {conf : PaymentConfig}

section Paths

variable {env : PaymentEnvironment} {encrypts : ℕ → Option String}
  {Q : List (Call PaymentWrite Store) → Prop} {u : PaymentOrderUpdate}

section Ordinary

variable (h : SubmissionRule encrypts Q)
include h

lemma SubmissionRule.ret (a : α) : Paths Q (ret a : PaymentProgram α) := paths_ret h.merge a

lemma SubmissionRule.attempt {failed : PaymentProgram α} {k : Store → PaymentProgram α}
    (hw : w.Ordinary encrypts) (hf : Paths Q failed) (hk : ∀ s, Paths Q (k s)) :
    Paths Q (attempt w failed k) :=
  paths_attempt h.merge (fun s done => h.ordinary w s done hw) hf hk

lemma SubmissionRule.ignore {k : PaymentProgram α} (hw : w.Ordinary encrypts) (hk : Paths Q k) :
    Paths Q (ignore w k) :=
  paths_ignore h.merge (fun s done => h.ordinary w s done hw) hk

lemma updatePaymentOrder_paths (hu : (PaymentWrite.update order u).Ordinary encrypts) (e : String)
    {k : PaymentProgram (Except String α)} (hk : Paths Q k) :
    Paths Q (updatePaymentOrder order u e k) := by
  refine h.attempt hu (h.ret _) fun s => ?_
  split_ifs
  · exact h.ret _
  · exact hk

lemma handleReceiveAddressValidity_paths (now : ℕ) (r : ReceiveAddress) (o : PaymentOrder) :
    Paths Q (handleReceiveAddressValidity conf now r o) := by
  unfold handleReceiveAddressValidity
  split
  · exact h.ret _
  split_ifs
  · exact h.ret _
  · exact h.attempt trivial (h.ret _) fun _ => h.ret _
  · exact h.attempt trivial (h.ret _) fun _ =>
      updatePaymentOrder_paths h (by trivial) _ (h.ignore trivial (h.ret _))
  · exact h.ret _

end Ordinary

lemma path_updatePaymentOrder {e : String} {k : PaymentProgram (Except String α)}
    {t : List (Call PaymentWrite Store)} {a : Except String α}
    (h : Path (updatePaymentOrder order u e k) t a) :
    (∃ s v, t = ⟨.update order u, s, true⟩ :: v ∧ s.refusesUpdate order u = false ∧ Path k v a) ∨
      ∃ s done, t = [⟨.update order u, s, done⟩] := by
  rcases path_attempt_iff.1 h with ⟨s, v, rfl, hv⟩ | ⟨s, v, rfl, hv⟩
  · cases hrefused : s.refusesUpdate order u with
    | true =>
      rw [hrefused, if_pos rfl] at hv
      obtain ⟨rfl, -⟩ := path_ret_iff.1 hv
      exact Or.inr ⟨s, true, rfl⟩
    | false =>
      rw [hrefused, if_neg Bool.false_ne_true] at hv
      exact Or.inl ⟨s, v, rfl, hrefused, hv⟩
  · obtain ⟨rfl, -⟩ := path_ret_iff.1 hv
    exact Or.inr ⟨s, false, rfl⟩

variable (h : SubmissionRule env.encryptOrderRecipient Q)
include h

lemma sendCreateOrder_paths (o : PaymentOrder) : Paths Q (sendCreateOrder env o) := by
  rw [sendCreateOrder]
  split
  · exact h.ret _
  split
  · exact h.ret _
  rename_i hash hencrypt
  intro t a ht
  have hsave : ∀ s done, Q [⟨.update o.id (.messageHash hash), s, done⟩] :=
    fun s done => h.ordinary (.update o.id (.messageHash hash)) s done hencrypt
  have hstatus : ∀ s done, Q [⟨.update o.id (.status .initiated), s, done⟩] :=
    fun s done => h.ordinary (.update o.id (.status .initiated)) s done trivial
  rcases path_updatePaymentOrder ht with ⟨s₁, u, rfl, haccepted, hu⟩ | ⟨s₁, done, rfl⟩
  · rcases path_updatePaymentOrder hu with ⟨s₂, v, rfl, -, hv⟩ | ⟨s₂, done, rfl⟩
    · split at hv
      · have hsend := fun s₃ done => h.send o.id hash s₁ s₂ s₃ done hencrypt haccepted
        rcases path_attempt_iff.1 hv with ⟨s₃, x, rfl, hx⟩ | ⟨s₃, x, rfl, hx⟩
        · exact h.merge.append (hsend s₃ true) (h.ret _ x a hx)
        · exact h.merge.append (hsend s₃ false) (h.ret _ x a hx)
      · exact h.merge.append (hsave s₁ true)
          (h.merge.append (hstatus s₂ true) (h.ret _ v a hv))
    · exact h.merge.append (hsave s₁ true) (hstatus s₂ done)
  · exact hsave s₁ done

lemma createOrder_paths (cause : CreateOrderCause) (order : ℕ) :
    Paths Q (createOrder env cause order) := by
  refine h.attempt trivial (h.ret _) fun s => ?_
  split
  · exact h.ret _
  split_ifs
  · split
    · exact h.ret _
    split
    · exact h.ret _
    split_ifs
    · exact sendCreateOrder_paths h _
    refine updatePaymentOrder_paths h (by trivial) _ (h.attempt trivial (h.ret _) fun s => ?_)
    split
    · exact h.ret _
    · exact sendCreateOrder_paths h _
  · exact sendCreateOrder_paths h _

lemma finishDeposit_paths (now : ℕ) (r : ReceiveAddress) (o : PaymentOrder)
    (event : TokenTransferEvent) (amount : ℚ) :
    Paths Q (finishDeposit conf env now r o event amount) := by
  unfold finishDeposit
  split_ifs
  · refine h.attempt trivial (h.ret _) fun s => ?_
    split_ifs
    · exact h.ret _
    · refine paths_bind h.merge (createOrder_paths h _ _) fun result => ?_
      cases result <;> exact h.ret _
  · refine paths_bind h.merge (handleReceiveAddressValidity_paths h _ _ _) fun result => ?_
    cases result <;> exact h.ret _

lemma deposit_paths (r : ReceiveAddress) (o : PaymentOrder) (event : TokenTransferEvent) :
    Paths Q (deposit conf env r o event) := by
  refine h.attempt trivial (h.ret _) fun s => ?_
  split
  · exact h.ret _
  dsimp only
  split
  · refine h.attempt trivial (h.ret _) fun s => ?_
    split
    · exact h.ret _
    · exact finishDeposit_paths h _ _ _ _ _
  · exact finishDeposit_paths h _ _ _ _ _

lemma updateReceiveAddressStatus_paths (r : ReceiveAddress) (o : PaymentOrder)
    (event : TokenTransferEvent) :
    Paths Q (updateReceiveAddressStatus conf env r o event) := by
  rw [updateReceiveAddressStatus]
  split
  · refine h.attempt trivial (h.ret _) fun s => ?_
    split
    · exact h.ret _
    split
    · exact h.ret _
    refine h.attempt trivial (deposit_paths h _ _ _) fun s => ?_
    split
    · exact h.ret _
    · exact deposit_paths h _ _ _
  · exact h.ret _

lemma retryStaleUserOperations_paths : Paths Q (retryStaleUserOperations env) := by
  refine h.attempt trivial (h.ret _) fun s => paths_forEach h.merge fun o _ => ?_
  rw [retryOrder]
  split_ifs
  · exact h.ignore trivial (h.ignore trivial (paths_discard h.merge (createOrder_paths h _ _)))
  · exact h.ret _

end Paths

def PaymentWriter.encrypts : PaymentWriter → ℕ → Option String
  | deposit env .. | create env .. | retry env => env.encryptOrderRecipient
  | createTron env _ => env.encryptOrderRecipient
  | _ => fun _ => none

structure WriterRule (encrypts : ℕ → Option String) (Q : List (Call SideWrite Store) → Prop) :
    Prop where
  merge : Mergeable Q
  payment : SubmissionRule encrypts fun t => Q (t.map (Call.relabel .payment))
  tron : ∀ w s done, Q [⟨.tron w, s, done⟩]
  creation : ∀ w s done, Q [⟨.creation w, s, done⟩]

section Writers

variable {Q : List (Call SideWrite Store) → Prop}

lemma paymentSide_paths {encrypts : ℕ → Option String} (h : WriterRule encrypts Q)
    {p : PaymentProgram α} (hp : Paths (fun t => Q (t.map (Call.relabel .payment))) p) :
    Paths Q (paymentSide p) :=
  paths_discard h.merge (paths_mapLabel hp)

lemma orderSide_paths {encrypts : ℕ → Option String} (h : WriterRule encrypts Q)
    (p : OrderProgram α) : Paths Q (orderSide p) := by
  refine paths_discard h.merge (paths_mapLabel ?_)
  exact paths_of_forall (h.merge.relabel fun w => .creation (.order w))
    (fun w s done => h.creation (.order w) s done) p

lemma createOrderTron_uses {P : SideWrite → Prop} (hread : P (.payment .read))
    (htron : ∀ w, P (.tron w))
    (hwebhook : ∀ id status, P (.payment (.call (.paymentOrderWebhook id status))))
    (env : TronEnvironment) (order : ℕ) : Uses P (createOrderTron env order) := by
  refine uses_attempt hread trivial fun s => ?_
  split
  · trivial
  · trivial
  split
  · trivial
  rw [submitTron]
  split
  · trivial
  refine uses_attempt (htron _) trivial fun s => ?_
  split
  · trivial
  refine uses_attempt (htron _) trivial fun s => ?_
  split
  · trivial
  refine uses_attempt hread trivial fun s => ?_
  split
  · trivial
  · exact uses_attempt (hwebhook _ _) trivial fun _ => trivial

lemma createOrderTron_paths {encrypts : ℕ → Option String} (h : WriterRule encrypts Q)
    (env : TronEnvironment) (order : ℕ) : Paths Q (createOrderTron env order) := by
  refine paths_of_uses h.merge (P := fun w => ∀ s done, Q [⟨w, s, done⟩])
    (createOrderTron_uses ?_ h.tron ?_ env order) fun _ h => h
  · exact fun s done => h.payment.ordinary .read s done trivial
  · exact fun id status s done =>
      h.payment.ordinary (.call (.paymentOrderWebhook id status)) s done trivial

lemma PaymentWriter.program_paths (w : PaymentWriter) (h : WriterRule w.encrypts Q) :
    Paths Q (w.program conf) := by
  cases w with
  | deposit env r o event =>
    exact paymentSide_paths h (updateReceiveAddressStatus_paths h.payment r o event)
  | create env cause order => exact paymentSide_paths h (createOrder_paths h.payment cause order)
  | createTron env order => exact paths_discard h.merge (createOrderTron_paths h env order)
  | created indexer background event =>
    exact paths_mapLabel (paths_of_forall (h.merge.relabel _)
      (fun w s done => h.creation w s done) _)
  | fulfill payload param => exact orderSide_paths h _
  | retry env => exact paymentSide_paths h (retryStaleUserOperations_paths h.payment)
  | validity now r o =>
    exact paymentSide_paths h (handleReceiveAddressValidity_paths h.payment now r o)
  | settled network event messageHash | refunded network event messageHash =>
    exact orderSide_paths h _

theorem paymentRun_paths {writers : List PaymentWriter} (hQ : Mergeable Q) (schedule : List ℕ)
    (h : ∀ w ∈ writers, WriterRule w.encrypts Q) : Paths Q (paymentRun conf schedule writers) := by
  refine paths_interleave hQ schedule fun p hp => ?_
  obtain ⟨w, hw, rfl⟩ := List.mem_map.1 hp
  exact w.program_paths (h w hw)

end Writers

def SideWrite.submits : SideWrite → Option (ℕ × String)
  | payment (.call (.createOrder order hash)) => some (order, hash)
  | _ => none

def saved (x : Call SideWrite Store) : Option (ℕ × String) :=
  match x.label with
  | .payment (.update order (.messageHash hash)) =>
    if x.done ∧ ¬ x.state.refusesUpdate order (.messageHash hash) then some (order, hash) else none
  | _ => none

lemma saved_eq_some_iff :
    saved x = some (order, hash) ↔
      x.label = .payment (.update order (.messageHash hash)) ∧ x.done = true ∧
        x.state.refusesUpdate order (.messageHash hash) = false := by
  obtain ⟨label, state, done⟩ := x
  rw [saved]
  split
  · rename_i o h heq
    obtain rfl := heq
    split_ifs with hsaved
    · simp only [Option.some.injEq, Prod.mk.injEq, SideWrite.payment.injEq,
        PaymentWrite.update.injEq, PaymentOrderUpdate.messageHash.injEq]
      constructor
      · rintro ⟨rfl, rfl⟩
        exact ⟨⟨rfl, rfl⟩, hsaved.1, by simpa using hsaved.2⟩
      · rintro ⟨h, -, -⟩
        exact h
    · simp only [SideWrite.payment.injEq, PaymentWrite.update.injEq,
        PaymentOrderUpdate.messageHash.injEq, false_iff]
      rintro ⟨⟨rfl, rfl⟩, hdone, haccepted⟩
      exact hsaved ⟨hdone, by simpa using haccepted⟩
  · rename_i hother
    simp only [reduceCtorEq, false_iff]
    rintro ⟨rfl, -, -⟩
    exact hother _ _ rfl

section Submissions

variable {writers : List PaymentWriter} {schedule : List ℕ}

lemma submits_ordinary {encrypts : ℕ → Option String} (h : w.Ordinary encrypts) :
    (SideWrite.payment w).submits = none := by
  cases w with
  | call c =>
    cases c with
    | createOrder => exact h.elim
    | _ => rfl
  | _ => rfl

lemma saved_of_accepted {s : Store} (h : s.refusesUpdate order (.messageHash hash) = false) :
    saved ⟨.payment (.update order (.messageHash hash)), s, true⟩ = some (order, hash) :=
  saved_eq_some_iff.2 ⟨rfl, rfl, h⟩

theorem paymentRun_backed : Paths (Backed (fun x => x.label.submits ≠ none)
    fun x y : Call SideWrite Store => saved y = x.label.submits)
    (paymentRun conf schedule writers) := by
  refine paymentRun_paths (mergeable_backed _ _) schedule fun w _ => ⟨mergeable_backed _ _,
    ⟨(mergeable_backed _ _).relabel _, fun w s done hw => ?_, ?_⟩, fun w s done => ?_,
    fun w s done => ?_⟩
  · exact backed_singleton (by simp [Call.relabel, submits_ordinary hw])
  · intro order hash s₁ s₂ s₃ done _ haccepted
    refine ((backed_singleton ?_).concat (t := [_]) ?_).concat (t := [_, _]) fun _ => ?_
    · simp [Call.relabel, SideWrite.submits]
    · simp [Call.relabel, SideWrite.submits]
    · exact ⟨_, List.mem_cons_self, saved_of_accepted haccepted⟩
  · exact backed_singleton (by simp [SideWrite.submits])
  · exact backed_singleton (by simp [SideWrite.submits])

def FromEncryption (writers : List PaymentWriter) : SideWrite → Prop
  | .payment (.update order (.messageHash hash)) => ∃ w ∈ writers, w.encrypts order = some hash
  | _ => True

theorem paymentRun_fromEncryption : Paths
    (fun t : List (Call SideWrite Store) => ∀ x ∈ t, FromEncryption writers x.label)
    (paymentRun conf schedule writers) := by
  have hmerge : Mergeable fun t : List (Call SideWrite Store) =>
      ∀ x ∈ t, FromEncryption writers x.label := mergeable_forall _
  have hordinary : ∀ v ∈ writers, ∀ w : PaymentWrite, w.Ordinary v.encrypts →
      FromEncryption writers (.payment w) := by
    intro v hv w hw
    cases w with
    | update order u =>
      cases u with
      | messageHash hash => exact ⟨v, hv, hw⟩
      | _ => trivial
    | _ => trivial
  refine paymentRun_paths hmerge schedule fun v hv => ⟨hmerge,
    ⟨hmerge.relabel _, fun w s done hw => ?_, ?_⟩, fun w s done => ?_, fun w s done => ?_⟩
  · simpa [Call.relabel] using hordinary v hv w hw
  · intro order hash s₁ s₂ s₃ done hencrypts _
    have hsave : FromEncryption writers (.payment (.update order (.messageHash hash))) :=
      ⟨v, hv, hencrypts⟩
    simp only [List.map_cons, List.map_nil, List.forall_mem_cons, Call.relabel]
    exact ⟨hsave, trivial, trivial, List.forall_mem_nil _⟩
  · simp [FromEncryption]
  · simp [FromEncryption]

theorem paymentRun_count (order : ℕ) : Paths (fun t : List (Call SideWrite Store) =>
    t.countP (fun x => (x.label.submits.map Prod.fst) = some order) ≤
      t.countP fun x => ((saved x).map Prod.fst) = some order)
    (paymentRun conf schedule writers) := by
  refine paymentRun_paths (mergeable_countP _ _) schedule fun w _ => ⟨mergeable_countP _ _,
    ⟨(mergeable_countP _ _).relabel _, fun w s done hw => ?_, ?_⟩, fun w s done => ?_,
    fun w s done => ?_⟩
  · simp [Call.relabel, submits_ordinary hw]
  · intro order' hash s₁ s₂ s₃ done _ haccepted
    simp [Call.relabel, List.countP_cons, SideWrite.submits, saved_of_accepted haccepted]
  · simp [SideWrite.submits]
  · simp [SideWrite.submits]

end Submissions

section Hashes

def HasHash (order : ℕ) (hash : String) (s : Store) : Prop :=
  ∃ o, s.paymentOrders.get order = some o ∧ o.messageHash = some hash

def FindsUnhashed (x : Call SideWrite Store) : Prop :=
  ∀ order hash, saved x = some (order, hash) →
    ∀ o ∈ x.state.paymentOrders.get order, o.messageHash.getD "" = ""

instance : DecidablePred FindsUnhashed := fun x =>
  decidable_of_iff (∀ k ∈ saved x, ∀ o ∈ x.state.paymentOrders.get k.1, o.messageHash.getD "" = "")
    ⟨fun h order hash hsaved => h (order, hash) hsaved, fun h k hk => h k.1 k.2 hk⟩

lemma change_messageHash (w : SideWrite) (s : Store) (o : PaymentOrder) :
    (w.change s o).messageHash = o.messageHash ∨
      ∃ hash, w = .payment (.update o.id (.messageHash hash)) ∧
        s.refusesUpdate o.id (.messageHash hash) = false ∧
        (w.change s o).messageHash = some hash := by
  unfold SideWrite.change
  split
  case h_2 order u =>
    split_ifs with h
    · obtain ⟨haccepted, rfl⟩ := h
      cases u with
      | messageHash hash => exact Or.inr ⟨hash, rfl, by simpa using haccepted, rfl⟩
      | _ => exact Or.inl rfl
    · exact Or.inl rfl
  case h_8 => exact Or.inl rfl
  all_goals
    split_ifs
    · exact Or.inl rfl
    · exact Or.inl rfl

lemma hasHash_of_saved (h : saved x = some (order, hash)) :
    HasHash order hash (x.label.exec x.state) := by
  obtain ⟨hlabel, -, haccepted⟩ := saved_eq_some_iff.1 h
  have hstored : (x.state.paymentOrders.get order).isSome := by
    have h := haccepted
    simp only [Store.refusesUpdate, decide_eq_false_iff_not, not_or, Option.isNone_iff_eq_none] at h
    exact Option.isSome_iff_ne_none.2 h.1
  obtain ⟨o, ho⟩ := Option.isSome_iff_exists.1 hstored
  refine ⟨x.label.change x.state o, ?_, ?_⟩
  · rw [SideWrite.exec_getPaymentOrder, ho]
    rfl
  · rw [hlabel, SideWrite.change, if_pos ⟨by simpa using haccepted, Table.get_key ho⟩]
    rfl

lemma HasHash.keep (h : HasHash order hash x.state) (hne : hash ≠ "") (hx : FindsUnhashed x)
    (hdone : x.done = true) : HasHash order hash (x.label.exec x.state) := by
  obtain ⟨o, ho, hhash⟩ := h
  refine ⟨x.label.change x.state o, ?_, ?_⟩
  · rw [SideWrite.exec_getPaymentOrder, ho]
    rfl
  rcases change_messageHash x.label x.state o with hsame | ⟨hash', hlabel, haccepted, -⟩
  · exact hsame.trans hhash
  -- the call would have to find no message hash
  have hsaved := saved_eq_some_iff.2 ⟨hlabel, hdone, haccepted⟩
  rw [Table.get_key ho] at hsaved
  have hempty := hx order hash' hsaved o ho
  rw [hhash, Option.getD_some] at hempty
  exact absurd hempty hne

lemma hasHash_of_chained {s : Store} {y : Call SideWrite Store} {u v : List (Call SideWrite Store)}
    (hsaved : saved y = some (order, hash)) (hne : hash ≠ "")
    (ht : Chained SideWrite.exec s (u ++ y :: v)) (hkept : ∀ x ∈ v, FindsUnhashed x) :
    HasHash order hash (Run.exec SideWrite.exec s (executed (u ++ y :: v))) := by
  obtain ⟨-, hstate, hrest⟩ := chained_append_iff.1 ht
  have hdone := (saved_eq_some_iff.1 hsaved).2.1
  rw [executed_append, Run.exec_append, exec_executed_cons]
  simp only [hdone, if_true] at hrest ⊢
  refine hrest.induction ?_ fun x hx hdone hx' => hx'.keep hne (hkept x hx) hdone
  rw [← hstate]
  exact hasHash_of_saved hsaved

end Hashes

namespace Sample

def creation (text : String) : PaymentWriter :=
  .create { PaymentEnvironment.silent with
    encryptOrderRecipient := fun order => if order = 1 then some text else none } (.retry 100) 1

lemma creation_encrypts_iff {text : String} :
    (creation text).encrypts order = some hash ↔ order = 1 ∧ hash = text := by
  simp [creation, PaymentWriter.encrypts, eq_comm]

end Sample

end Stablenode
