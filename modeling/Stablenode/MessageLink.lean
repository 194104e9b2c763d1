import Stablenode.Submissions

/-! The message hash as the link between a payment order and its order on chain. -/
namespace Stablenode.MessageLink

open Proc
open Sample (creation creation_encrypts_iff)

def submission : SideWrite → Option (ℕ × String)
  | .tron (.submit order hash) => some (order, hash)
  | w => w.submits

def Linked (order : ℕ) (hash : String) (s : Store) : Prop :=
  ∃ o, s.paymentOrders.select (fun o => o.messageHash = some hash) = [o] ∧ o.id = order

structure Fresh (writers : List PaymentWriter) (s : Store) : Prop where
  nonempty : ∀ w ∈ writers, ∀ order hash, w.encrypts order = some hash → hash ≠ ""
  distinct : ∀ w ∈ writers, ∀ v ∈ writers, ∀ order order' hash, w.encrypts order = some hash →
    v.encrypts order' = some hash → order = order'
  unused : ∀ w ∈ writers, ∀ order hash, w.encrypts order = some hash →
    ∀ o ∈ s.paymentOrders.rows, o.messageHash ≠ some hash

def submitsTron : SideWrite → Bool
  | .tron (.submit _ _) => true
  | _ => false

def Unshared (x : Call SideWrite Store) : Prop :=
  FindsUnhashed x ∧ submitsTron x.label = false

instance : DecidablePred Unshared := fun _ => inferInstanceAs (Decidable (_ ∧ _))

section

variable {writers : List PaymentWriter} {s : Store} {order : ℕ} {hash : String}

def OnlyOn (order : ℕ) (hash : String) (s : Store) : Prop :=
  ∀ o ∈ s.paymentOrders.rows, o.messageHash = some hash → o.id = order

lemma OnlyOn.exec (h : OnlyOn order hash s) {w : SideWrite}
    (hw : ∀ order', w = .payment (.update order' (.messageHash hash)) → order' = order) :
    OnlyOn order hash (w.exec s) := by
  intro o ho hhash
  have hget := Table.get_of_mem ho
  rw [SideWrite.exec_getPaymentOrder] at hget
  obtain ⟨p, hp, rfl⟩ := Option.map_eq_some_iff.1 hget
  have hid : (w.change s p).id = p.id := (Table.get_key hp).symm
  rw [hid]
  rcases change_messageHash w s p with hsame | ⟨hash', hlabel, -, hchanged⟩
  · exact h p (Table.mem_of_get hp) (hsame.symm.trans hhash)
  · obtain rfl := Option.some.inj (hchanged.symm.trans hhash)
    exact hw p.id hlabel

lemma Linked.of_hasHash (h : HasHash order hash s) (honly : OnlyOn order hash s) :
    Linked order hash s := by
  obtain ⟨o, ho, hhash⟩ := h
  have hid : o.id = order := Table.get_key ho
  refine ⟨o, Table.select_eq_singleton (Table.mem_of_get ho) (by simpa using hhash)
    fun p hp hphash => ?_, hid⟩
  exact (honly p hp (by simpa using hphash)).trans hid.symm

variable {t : List (Call SideWrite Store)}

lemma onlyOn_of_chained (hfresh : Fresh writers s) {w : PaymentWriter} (hw : w ∈ writers)
    (hencrypts : w.encrypts order = some hash) (ht : Chained SideWrite.exec s t)
    (hfrom : ∀ x ∈ t, FromEncryption writers x.label) :
    OnlyOn order hash (Run.exec SideWrite.exec s (executed t)) := by
  refine ht.induction (P := OnlyOn order hash)
    (fun o ho hhash => absurd hhash (hfresh.unused w hw order hash hencrypts o ho))
    fun x hx _ hstate => hstate.exec fun order' hlabel => ?_
  have hcall := hfrom x hx
  rw [hlabel] at hcall
  obtain ⟨v, hv, hcalled⟩ := hcall
  exact hfresh.distinct v hv w hw order' order hash hcalled hencrypts

lemma linked_take (hfresh : Fresh writers s) (ht : Chained SideWrite.exec s t)
    (hfrom : ∀ x ∈ t, FromEncryption writers x.label)
    (hbacked : Backed (fun x => x.label.submits ≠ none) (fun x y => saved y = x.label.submits) t)
    (hkept : ∀ x ∈ t, FindsUnhashed x) {i n : ℕ} {x : Call SideWrite Store} (hx : t[i]? = some x)
    (hsubmit : x.label.submits = some (order, hash)) (hn : i ≤ n) :
    Linked order hash (Run.exec SideWrite.exec s (executed (t.take n))) := by
  obtain ⟨hlt, rfl⟩ := List.getElem?_eq_some_iff.1 hx
  have hsplit : t = t.take i ++ t[i] :: t.drop (i + 1) := by
    rw [List.getElem_cons_drop, List.take_append_drop]
  obtain ⟨y, hy, hsaved⟩ := hbacked (t.take i) t[i] (t.drop (i + 1)) hsplit (by simp [hsubmit])
  rw [hsubmit] at hsaved
  have hymem : y ∈ t := List.mem_of_mem_take hy
  have hcall := hfrom y hymem
  rw [(saved_eq_some_iff.1 hsaved).1] at hcall
  obtain ⟨w, hw, hencrypts⟩ := hcall
  obtain ⟨u, v, huv⟩ := List.append_of_mem hy
  -- the first `n` calls, split at the one that stored the message hash
  have htake : t.take n = u ++ y :: (v ++ (t.take n).drop i) := by
    rw [← List.cons_append, ← List.append_assoc, ← huv,
      show t.take i = (t.take n).take i by rw [List.take_take, min_eq_left hn],
      List.take_append_drop]
  have hchain : Chained SideWrite.exec s (t.take n) := by
    rw [← List.take_append_drop n t] at ht
    exact (chained_append_iff.1 ht).1
  refine Linked.of_hasHash ?_ (onlyOn_of_chained hfresh hw hencrypts hchain fun x hx =>
    hfrom x (List.mem_of_mem_take hx))
  rw [htake] at hchain ⊢
  refine hasHash_of_chained hsaved (hfresh.nonempty w hw order hash hencrypts) hchain fun x hx => ?_
  refine hkept x (List.mem_of_mem_take (i := n) ?_)
  rw [htake]
  exact List.mem_append_right _ (List.mem_cons_of_mem _ hx)

end

theorem linked_from_submission (conf : PaymentConfig) (schedule : List ℕ)
    (writers : List PaymentWriter) (faults : List Bool) (s : Store) (hfresh : Fresh writers s)
    (hunshared : ∀ x ∈ (paymentRun conf schedule writers).trace SideWrite.exec faults s, Unshared x)
    (i : ℕ) (x : Call SideWrite Store)
    (hx : ((paymentRun conf schedule writers).trace SideWrite.exec faults s)[i]? = some x)
    (order : ℕ) (hash : String) (hsubmit : submission x.label = some (order, hash))
    (n : ℕ) (hn : i ≤ n) :
    Linked order hash (Run.exec SideWrite.exec s
      (executed (((paymentRun conf schedule writers).trace SideWrite.exec faults s).take n))) := by
  have hevm : x.label.submits = some (order, hash) := by
    have hlabel := (hunshared x (List.mem_of_getElem? hx)).2
    unfold submission at hsubmit
    split at hsubmit
    · simp_all [submitsTron]
    · exact hsubmit
  obtain ⟨a, hpath⟩ : ∃ a, Path (paymentRun conf schedule writers)
      ((paymentRun conf schedule writers).trace SideWrite.exec faults s) a := path_trace _ faults s
  exact linked_take hfresh (chained_trace _ faults s) (paymentRun_fromEncryption _ a hpath)
    (paymentRun_backed _ a hpath) (fun y hy => (hunshared y hy).1) hx hevm hn

def tronCreation : PaymentWriter :=
  .createTron ⟨fun _ => none, fun _ => some "m", fun _ => "0xtron", fun _ => true⟩ 1

theorem linked_single_creation :
    Linked 1 "m1" (Run.exec SideWrite.exec (Sample.poolStore [1])
      (executed (((paymentRun {} [] [creation "m1"]).trace SideWrite.exec []
        (Sample.poolStore [1])).take 4))) := by
  have hfresh : Fresh [creation "m1"] (Sample.poolStore [1]) := by
    have hencrypts : ∀ w ∈ [creation "m1"], ∀ order hash, w.encrypts order = some hash →
        order = 1 ∧ hash = "m1" := by
      intro w hw order hash h
      obtain rfl := List.mem_singleton.1 hw
      exact creation_encrypts_iff.1 h
    refine ⟨fun w hw order hash h => ?_, fun w hw v hv order order' hash h h' => ?_,
      fun w hw order hash h => ?_⟩
    · rw [(hencrypts w hw order hash h).2]
      decide
    · rw [(hencrypts w hw order hash h).1, (hencrypts v hv order' hash h').1]
    · rw [(hencrypts w hw order hash h).2]
      decide +kernel
  have hunshared : ∀ x ∈ (paymentRun {} [] [creation "m1"]).trace SideWrite.exec []
      (Sample.poolStore [1]), Unshared x := by decide +kernel
  have hsubmit : (((paymentRun {} [] [creation "m1"]).trace SideWrite.exec []
      (Sample.poolStore [1]))[3]?.bind fun x => submission x.label) = some (1, "m1") := by
    decide +kernel
  obtain ⟨x, hx, hlabel⟩ := Option.bind_eq_some_iff.1 hsubmit
  exact linked_from_submission {} [] [creation "m1"] [] (Sample.poolStore [1]) hfresh hunshared 3 x
    hx 1 "m1" hlabel 4 (by decide)

theorem submission_without_link :
    (((paymentRun {} [0, 1, 0, 0, 1, 0] [creation "m1", creation "m2"]).trace SideWrite.exec []
        (Sample.poolStore [1]))[5]?.map fun x => (x.label.submits,
          (x.state.paymentOrders.get 1).bind PaymentOrder.messageHash)) =
        some (some (1, "m1"), some "m2") ∧
      (((paymentRun {} [] [tronCreation]).trace SideWrite.exec [] (Sample.poolStore [1]))[1]?.map
        fun x => (submission x.label, (x.state.paymentOrders.get 1).bind PaymentOrder.messageHash)) =
        some (some (1, "m"), none) := by
  decide +kernel

end Stablenode.MessageLink
