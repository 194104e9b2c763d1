import Stablenode.Submissions

/-! How often the transaction of an order is sent. -/
namespace Stablenode.SingleSubmission

open Proc
open Sample (creation creation_encrypts_iff)

def submitsFor (order : ℕ) (w : SideWrite) : Bool := w.submits.map Prod.fst = some order

def sent (order : ℕ) (x : Call SideWrite Store) : Bool := submitsFor order x.label ∧ x.done

def savesFor (order : ℕ) (x : Call SideWrite Store) : Bool := (saved x).map Prod.fst = some order

def Failed (order : ℕ) (t : List (Call SideWrite Store)) : Prop :=
  (∃ x ∈ t, submitsFor order x.label = true ∧ x.done = false) ∧ ∀ x ∈ t, sent order x = false

def Selected (order : ℕ) (s : Store) : Prop := ∃ o ∈ s.staleOrders, o.id = order

def Attempts (env : PaymentEnvironment) (order : ℕ) (s : Store) : Prop :=
  ∃ x ∈ (retryStaleUserOperations env).trace PaymentWrite.exec [] s,
    submitsFor order (.payment x.label) = true

def found (s : Store) (t : List (Call SideWrite Store)) (now : ℕ) : Store :=
  { Run.exec SideWrite.exec s (executed t) with now }

def Retried (env : PaymentEnvironment) (order : ℕ) (s : Store) (t : List (Call SideWrite Store)) :
    Prop :=
  Failed order t → ∀ now, Selected order (found s t now) → Attempts env order (found s t now)

def Unselected (order : ℕ) (s : Store) (t : List (Call SideWrite Store)) : Prop :=
  Failed order t → ∀ now, ¬ Selected order (found s t now)

variable {s : Store} {order : ℕ} {hash : String} {t : List (Call SideWrite Store)}

section Count

lemma not_savesFor_of_hasHash (hs : HasHash order hash s) (hne : hash ≠ "")
    (ht : Chained SideWrite.exec s t) (hkept : ∀ x ∈ t, FindsUnhashed x) :
    ∀ x ∈ t, savesFor order x = false := by
  induction t generalizing s with
  | nil => simp
  | cons x t ih =>
    obtain ⟨rfl, ht⟩ := ht
    have hx := hkept x List.mem_cons_self
    have hkept' := fun y hy => hkept y (List.mem_cons_of_mem x hy)
    rw [List.forall_mem_cons]
    constructor
    · rw [savesFor, decide_eq_false_iff_not]
      intro hsaves
      obtain ⟨⟨order', hash'⟩, hsaved, rfl⟩ := Option.map_eq_some_iff.1 hsaves
      obtain ⟨o, ho, hhash⟩ := hs
      have hempty := hx order' hash' hsaved o ho
      rw [hhash] at hempty
      exact hne hempty
    · cases hdone : x.done with
      | false =>
        rw [hdone] at ht
        exact ih hs ht hkept'
      | true =>
        rw [hdone] at ht
        exact ih (hs.keep hne hx hdone) ht hkept'

lemma countP_savesFor_le_one (ht : Chained SideWrite.exec s t) (hkept : ∀ x ∈ t, FindsUnhashed x)
    (hne : ∀ x ∈ t, ∀ order hash, saved x = some (order, hash) → hash ≠ "") :
    t.countP (savesFor order) ≤ 1 := by
  induction t generalizing s with
  | nil => simp
  | cons x t ih =>
    obtain ⟨rfl, ht⟩ := ht
    have hkept' := fun y hy => hkept y (List.mem_cons_of_mem x hy)
    rw [List.countP_cons]
    cases hsaves : savesFor order x with
    | false => simpa using ih ht hkept' fun y hy => hne y (List.mem_cons_of_mem x hy)
    | true =>
      obtain ⟨⟨order', hash⟩, hsaved, rfl⟩ := Option.map_eq_some_iff.1 (of_decide_eq_true hsaves)
      have hdone := (saved_eq_some_iff.1 hsaved).2.1
      rw [hdone, if_pos rfl] at ht
      have hnone := not_savesFor_of_hasHash (hasHash_of_saved hsaved)
        (hne x List.mem_cons_self order' hash hsaved) ht hkept'
      rw [List.countP_eq_zero.2 fun y hy => by simp [hnone y hy]]
      simp

end Count

section Retry

variable {env : PaymentEnvironment}

def Spares (order : ℕ) : PaymentWrite → Prop
  | .call (.createOrder order' _) => order' ≠ order
  | .update order' (.messageHash _) => order' ≠ order
  | _ => True

lemma HasHash.exec_spares {w : PaymentWrite} (hw : Spares order w) (h : HasHash order hash s) :
    HasHash order hash (w.exec s) := by
  obtain ⟨o, ho, hhash⟩ := h
  refine ⟨(SideWrite.payment w).change s o, ?_, ?_⟩
  · have hget := SideWrite.exec_getPaymentOrder (.payment w) s order
    rw [ho] at hget
    exact hget
  · rcases change_messageHash (.payment w) s o with hsame | ⟨hash', hlabel, -, -⟩
    · exact hsame.trans hhash
    · obtain rfl := SideWrite.payment.inj hlabel
      exact absurd (Table.get_key ho) hw

variable {o : PaymentOrder}

lemma sendCreateOrder_spares (h : o.id = order → o.messageHash.getD "" ≠ "") (s : Store) :
    Safe PaymentWrite.exec (fun w _ => Spares order w) (sendCreateOrder env o) s := by
  by_cases hid : o.id = order
  · rw [sendCreateOrder, if_pos (h hid)]
    trivial
  have huses : Uses (Spares order) (sendCreateOrder env o) := by
    rw [sendCreateOrder]
    split
    · exact uses_ret _
    split
    · exact uses_ret _
    refine uses_attempt hid (uses_ret _) fun s => ?_
    split
    · exact uses_ret _
    refine uses_attempt trivial (uses_ret _) fun s => ?_
    split
    · exact uses_ret _
    · split
      · exact uses_attempt hid (uses_ret _) fun _ => uses_ret _
      · exact uses_ret _
  exact huses.safe (I := fun _ => True) (fun _ _ hw _ => hw) (fun _ _ _ _ => trivial) trivial

lemma messageHash_of_get (h : HasHash order hash s) (hne : hash ≠ "") {id : ℕ}
    (ho : s.paymentOrders.get id = some o) : o.id = order → o.messageHash.getD "" ≠ "" := by
  rintro rfl
  obtain ⟨p, hp, hhash⟩ := h
  rw [Table.get_key ho] at hp
  obtain rfl := Option.some.inj (ho.symm.trans hp)
  rw [hhash]
  exact hne

lemma createOrder_spares (h : HasHash order hash s) (hne : hash ≠ "") (cause : CreateOrderCause)
    (id : ℕ) : Safe PaymentWrite.exec (fun w _ => Spares order w) (createOrder env cause id) s := by
  refine safe_attempt_iff.2 ⟨trivial, ?_, trivial⟩
  split
  · trivial
  rename_i o ho
  split
  · split
    · trivial
    split
    · trivial
    rename_i rate hrate
    split
    · exact sendCreateOrder_spares (messageHash_of_get h hne ho) _
    refine safe_attempt_iff.2 ⟨trivial, ?_, trivial⟩
    split
    · trivial
    refine safe_attempt_iff.2 ⟨trivial, ?_, trivial⟩
    split
    · trivial
    rename_i o' ho'
    have hread : HasHash order hash ((PaymentWrite.createOrder cause id).exec s) := h
    have hupdated := HasHash.exec_spares (w := .update id (.rate rate)) trivial hread
    exact sendCreateOrder_spares (messageHash_of_get hupdated hne ho') _
  · exact sendCreateOrder_spares (messageHash_of_get h hne ho) _

lemma retry_spares (h : HasHash order hash s) (hne : hash ≠ "") :
    Safe PaymentWrite.exec (fun w _ => Spares order w) (retryStaleUserOperations env) s := by
  refine safe_attempt_iff.2 ⟨trivial, ?_, trivial⟩
  refine safe_forEach (I := HasHash order hash) (fun _ _ hw => HasHash.exec_spares hw)
    (fun o _ u hu => ?_) h
  rw [retryOrder]
  split
  · have hstatus : ∀ status (v : Store), HasHash order hash v →
        HasHash order hash ((PaymentWrite.update o.id (.status status)).exec v) :=
      fun status v hv => HasHash.exec_spares trivial hv
    have hcreate : ∀ v, HasHash order hash v → Safe PaymentWrite.exec (fun w _ => Spares order w)
        (createOrder env (.retry (o.amount + o.networkFee + o.senderFee)) o.id).discard v :=
      fun v hv => safe_discard_iff.2 (createOrder_spares hv hne _ _)
    -- either status update may fail
    refine safe_ignore_iff.2 ⟨trivial, ?_, ?_⟩
    · exact safe_ignore_iff.2 ⟨trivial, hcreate _ (hstatus _ _ (hstatus _ _ hu)),
        hcreate _ (hstatus _ _ hu)⟩
    · exact safe_ignore_iff.2 ⟨trivial, hcreate _ (hstatus _ _ hu), hcreate _ hu⟩
  · trivial

lemma not_attempts_of_hasHash (h : HasHash order hash s) (hne : hash ≠ "") :
    ¬ Attempts env order s := by
  rintro ⟨x, hx, hsubmits⟩
  have hsafe : Safe PaymentWrite.exec (fun w _ => Spares order w) (retryStaleUserOperations env) s :=
    retry_spares h hne
  have hspares := hsafe.trace [] x hx
  obtain ⟨⟨order', hash'⟩, hlabel, rfl⟩ := Option.map_eq_some_iff.1 (of_decide_eq_true hsubmits)
  generalize x.label = w at hspares hlabel
  cases w with
  | call c =>
    cases c with
    | createOrder o m =>
      obtain ⟨rfl, -⟩ := Prod.mk.inj (Option.some.inj hlabel)
      exact hspares rfl
    | _ => cases hlabel
  | _ => cases hlabel

end Retry

def Encrypting (writers : List PaymentWriter) : Prop :=
  ∀ w ∈ writers, ∀ order hash, w.encrypts order = some hash → hash ≠ ""

section Runs

variable {writers : List PaymentWriter}

lemma saved_ne_empty (hencrypting : Encrypting writers)
    (hfrom : ∀ x ∈ t, FromEncryption writers x.label) :
    ∀ x ∈ t, ∀ order hash, saved x = some (order, hash) → hash ≠ "" := by
  intro x hx order hash hsaved
  have hcall := hfrom x hx
  rw [(saved_eq_some_iff.1 hsaved).1] at hcall
  obtain ⟨w, hw, hencrypts⟩ := hcall
  exact hencrypting w hw order hash hencrypts

lemma countP_sent_le (order : ℕ) (t : List (Call SideWrite Store)) :
    t.countP (sent order) ≤ t.countP fun x => (x.label.submits.map Prod.fst) = some order := by
  refine List.countP_mono_left fun x _ hx => ?_
  have hsent := of_decide_eq_true hx
  exact hsent.1

lemma hasHash_of_failed (ht : Chained SideWrite.exec s t) (hkept : ∀ x ∈ t, FindsUnhashed x)
    (hne : ∀ x ∈ t, ∀ order hash, saved x = some (order, hash) → hash ≠ "")
    (hbacked : Backed (fun x => x.label.submits ≠ none) (fun x y => saved y = x.label.submits) t)
    (hfailed : Failed order t) :
    ∃ hash, hash ≠ "" ∧ HasHash order hash (Run.exec SideWrite.exec s (executed t)) := by
  obtain ⟨⟨x, hx, hsubmits, -⟩, -⟩ := hfailed
  obtain ⟨⟨order', hash⟩, hlabel, rfl⟩ := Option.map_eq_some_iff.1 (of_decide_eq_true hsubmits)
  obtain ⟨u, v, rfl⟩ := List.append_of_mem hx
  obtain ⟨y, hy, hsaved⟩ := hbacked u x v rfl (by simp [hlabel])
  rw [hlabel] at hsaved
  obtain ⟨u₁, u₂, rfl⟩ := List.append_of_mem hy
  rw [List.append_assoc, List.cons_append] at ht hkept hne ⊢
  have hhash : hash ≠ "" := hne y (by simp) order' hash hsaved
  refine ⟨hash, hhash, hasHash_of_chained hsaved hhash ht fun z hz => hkept z ?_⟩
  exact List.mem_append_right _ (List.mem_cons_of_mem _ hz)

end Runs

theorem sentOnce_retried_iff (conf : PaymentConfig) (schedule : List ℕ)
    (writers : List PaymentWriter) (faults : List Bool) (s : Store)
    (hencrypting : Encrypting writers)
    (hkept : ∀ x ∈ (paymentRun conf schedule writers).trace SideWrite.exec faults s,
      FindsUnhashed x) (env : PaymentEnvironment) (order : ℕ) :
    ((paymentRun conf schedule writers).trace SideWrite.exec faults s).countP (sent order) ≤ 1 ∧
      (Retried env order s ((paymentRun conf schedule writers).trace SideWrite.exec faults s) ↔
        Unselected order s ((paymentRun conf schedule writers).trace SideWrite.exec faults s)) := by
  obtain ⟨a, hpath⟩ : ∃ a, Path (paymentRun conf schedule writers)
      ((paymentRun conf schedule writers).trace SideWrite.exec faults s) a := path_trace _ faults s
  have hchain : Chained SideWrite.exec s
      ((paymentRun conf schedule writers).trace SideWrite.exec faults s) := chained_trace _ faults s
  have hne := saved_ne_empty hencrypting (paymentRun_fromEncryption _ a hpath)
  constructor
  · calc _ ≤ _ := countP_sent_le order _
      _ ≤ _ := paymentRun_count order _ a hpath
      _ ≤ 1 := countP_savesFor_le_one hchain hkept hne
  · refine forall_congr' fun hfailed => forall_congr' fun now => imp_congr_right fun _ => ?_
    obtain ⟨hash, hhash, hstored⟩ :=
      hasHash_of_failed hchain hkept hne (paymentRun_backed _ a hpath) hfailed
    have hfound : HasHash order hash (found s
        ((paymentRun conf schedule writers).trace SideWrite.exec faults s) now) := hstored
    exact iff_false_intro (not_attempts_of_hasHash hfound hhash)

def paidStore : Store :=
  { Store.empty with
    paymentOrders := Table.empty.insert { Sample.paymentOrder 1 with amountPaid := 100 }
    receiveAddresses := Table.empty.insert { Sample.receiveAddress 1 with status := .used } }

def failedCreation : List (Call SideWrite Store) :=
  (paymentRun {} [] [creation "m1"]).trace SideWrite.exec [false, false, false, true] paidStore

theorem sentOnce_single_creation :
    ((paymentRun {} [] [creation "m1"]).trace SideWrite.exec [] paidStore).countP (sent 1) ≤ 1 ∧
      (Retried .silent 1 paidStore
          ((paymentRun {} [] [creation "m1"]).trace SideWrite.exec [] paidStore) ↔
        Unselected 1 paidStore
          ((paymentRun {} [] [creation "m1"]).trace SideWrite.exec [] paidStore)) := by
  have hencrypting : Encrypting [creation "m1"] := by
    intro w hw order hash h
    obtain rfl := List.mem_singleton.1 hw
    rw [(creation_encrypts_iff.1 h).2]
    decide
  exact sentOnce_retried_iff {} [] [creation "m1"] [] paidStore hencrypting (by decide +kernel)
    .silent 1

theorem sent_twice_and_not_retried :
    ((paymentRun {} [0, 1, 0, 0, 1, 0] [creation "m1", creation "m2"]).trace SideWrite.exec []
        paidStore).countP (sent 1) = 2 ∧
      ((∃ x ∈ failedCreation, submitsFor 1 x.label = true ∧ x.done = false) ∧
        ∀ x ∈ failedCreation, sent 1 x = false) ∧
      (∃ o ∈ (found paidStore failedCreation 60).staleOrders, o.id = 1) ∧
      ∀ x ∈ (retryStaleUserOperations .silent).trace PaymentWrite.exec []
          (found paidStore failedCreation 60), submitsFor 1 (.payment x.label) = false := by
  decide +kernel

end Stablenode.SingleSubmission
