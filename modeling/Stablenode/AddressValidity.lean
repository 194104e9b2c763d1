import Stablenode.PaymentInitiation
import Stablenode.PaymentTasks

/-! The validity of receive addresses: the scheduled check (tasks/tasks.go), the polling of balances
(services/polling_service.go) and the rows of `InitiatePaymentOrder`. -/
namespace Stablenode.AddressValidity

open Proc
open Initiation (NewPaymentOrderPayload isTron)

variable (conf : PaymentConfig)

def orderOf (s : Store) (r : ReceiveAddress) : Option PaymentOrder :=
  r.paymentOrder.bind s.paymentOrders.get

def due (s : Store) : List ReceiveAddress :=
  s.receiveAddresses.select fun r =>
    r.validUntil.any (· ≤ s.now) ∧
      (orderOf s r).any fun o => r.status ≠ .used ∨ o.status = .initiated

def checkAddresses : PaymentProgram Unit :=
  attempt .read (ret ()) fun s =>
  forEach (due s) fun r =>
    match orderOf s r with
    | none => ret ()
    | some o => (handleReceiveAddressValidity conf s.now r o).discard

def runAt (now : ℕ) (s : Store) : Store :=
  (checkAddresses conf).after PaymentWrite.exec { s with now := now }

structure Holds (s : Store) (p : ReceiveAddress × PaymentOrder) : Prop where
  address : s.receiveAddresses.get p.1.id = some p.1
  order : s.paymentOrders.get p.2.id = some p.2
  linked : p.1.paymentOrder = some p.2.id
  alone : ∀ id r, s.receiveAddresses.get id = some r → r.paymentOrder = some p.2.id → id = p.1.id

def checked (now : ℕ) (p : ReceiveAddress × PaymentOrder) : ReceiveAddress × PaymentOrder :=
  match p.1.validUntil with
  | none => p
  | some validUntil =>
    if p.1.status = .used then p
    else if validUntil + 120 < now then
      ({ p.1 with validUntil := some (now + conf.receiveAddressValidity) }, p.2)
    else if validUntil < now ∧ p.1.status ≠ .expired ∧ p.2.status ≠ .expired ∧
        ¬ isPrivateMemo p.2.memo then
      ({ p.1 with status := .expired }, { p.2 with status := .expired, updatedAt := now })
    else p

variable {p : ReceiveAddress × PaymentOrder} {s : Store}

section Frame

def Elsewhere (p : ReceiveAddress × PaymentOrder) : PaymentWrite → Prop
  | .setAddressValidUntil address _ => address ≠ p.1.id
  | .expireAddress address => address ≠ p.1.id
  | .update order _ => order ≠ p.2.id
  | .call _ => True
  | _ => False

lemma Holds.updateReceiveAddress {f : ReceiveAddress → ReceiveAddress} (hf : ∀ r, (f r).id = r.id)
    (hlink : ∀ r, (f r).paymentOrder = r.paymentOrder) {q : ReceiveAddress} (h : Holds s p)
    (address : ℕ) (hq : q = if p.1.id = address then f p.1 else p.1) :
    Holds (s.updateReceiveAddress address f hf) (q, p.2) := by
  have hid : q.id = p.1.id := by subst hq; split_ifs <;> simp [hf]
  refine ⟨?_, h.order, ?_, fun id r hget hr => ?_⟩
  · rw [hid, Store.updateReceiveAddress, Table.get_modify, hq]
    split_ifs with heq
    · rw [← heq, h.address]
      rfl
    · exact h.address
  · subst hq
    split_ifs <;> simp [hlink, h.linked]
  rw [Store.updateReceiveAddress, Table.get_modify] at hget
  rw [hid]
  split_ifs at hget with heq
  · obtain ⟨r', hr', rfl⟩ := Option.map_eq_some_iff.1 hget
    exact heq ▸ h.alone _ r' hr' (hlink r' ▸ hr)
  · exact h.alone id r hget hr

lemma Holds.update (h : Holds s p) {order : ℕ} {u : PaymentOrderUpdate} {q : PaymentOrder}
    (haccepted : s.refusesUpdate order u = false)
    (hq : q = if p.2.id = order then { u.apply p.2 with updatedAt := s.now } else p.2) :
    Holds ((PaymentWrite.update order u).exec s) (p.1, q) ∧
      ((PaymentWrite.update order u).exec s).now = s.now := by
  have hid : q.id = p.2.id := by subst hq; split_ifs <;> simp [u.apply_id]
  have hrows : ((PaymentWrite.update order u).exec s).receiveAddresses = s.receiveAddresses := by
    simp [PaymentWrite.exec, haccepted]
  refine ⟨⟨hrows ▸ h.address, ?_, hid ▸ h.linked, hrows ▸ hid ▸ h.alone⟩,
    by simp [PaymentWrite.exec, haccepted]⟩
  dsimp only
  rw [hid, PaymentWrite.exec_update_get haccepted, hq]
  split_ifs with heq
  · rw [← heq, h.order]
    rfl
  · exact h.order

lemma Holds.elsewhere (h : Holds s p) {l : PaymentWrite} (hl : Elsewhere p l) :
    Holds (l.exec s) p ∧ (l.exec s).now = s.now := by
  cases l with
  | setAddressValidUntil address time =>
    refine ⟨h.updateReceiveAddress (f := fun r => { r with validUntil := some time })
      (fun _ => rfl) (fun _ => rfl) address ?_, rfl⟩
    rw [if_neg (Ne.symm hl)]
  | expireAddress address =>
    refine ⟨h.updateReceiveAddress (f := fun r => { r with status := .expired })
      (fun _ => rfl) (fun _ => rfl) address ?_, rfl⟩
    rw [if_neg (Ne.symm hl)]
  | update order u =>
    cases hrefused : s.refusesUpdate order u with
    | true => simpa [PaymentWrite.exec, hrefused] using h
    | false => exact h.update hrefused (if_neg (Ne.symm hl)).symm
  | call c => exact ⟨⟨h.address, h.order, h.linked, h.alone⟩, rfl⟩
  | read | depositCommit | markAddressUsed | createOrder => exact hl.elim

lemma Holds.other (h : Holds s p) (now : ℕ) {r : ReceiveAddress} {o : PaymentOrder}
    (hr : r.id ≠ p.1.id) (ho : o.id ≠ p.2.id) :
    Holds ((handleReceiveAddressValidity conf now r o).after PaymentWrite.exec s) p ∧
      ((handleReceiveAddressValidity conf now r o).after PaymentWrite.exec s).now = s.now := by
  have huses : Uses (Elsewhere p) (handleReceiveAddressValidity conf now r o) := by
    unfold handleReceiveAddressValidity
    split
    · exact uses_ret _
    split_ifs
    · exact uses_ret _
    · exact uses_attempt hr (uses_ret _) fun _ => uses_ret _
    · refine uses_attempt hr (uses_ret _) fun _ => uses_attempt ho (uses_ret _) fun t => ?_
      split
      · exact uses_ret _
      · exact uses_ignore trivial (uses_ret _)
    · exact uses_ret _
  refine huses.ends (I := fun t => Holds t p ∧ t.now = s.now) (fun l t hl ht => ?_) ⟨h, rfl⟩
    (ends_outcome _ [] s)
  exact ⟨(ht.1.elsewhere hl).1, (ht.1.elsewhere hl).2.trans ht.2⟩

lemma Holds.own (h : Holds s p) :
    Holds ((handleReceiveAddressValidity conf s.now p.1 p.2).after PaymentWrite.exec s)
        (checked conf s.now p) ∧
      ((handleReceiveAddressValidity conf s.now p.1 p.2).after PaymentWrite.exec s).now = s.now := by
  rcases hvalid : p.1.validUntil with _ | validUntil
  · simpa only [handleReceiveAddressValidity, checked, hvalid, after_ret, and_true] using h
  simp only [handleReceiveAddressValidity, checked, hvalid]
  split_ifs with hused hgone hlapsed
  · exact ⟨h, rfl⟩
  · simp only [after_attempt, after_ret]
    exact ⟨h.updateReceiveAddress (f := fun r =>
      { r with validUntil := some (s.now + conf.receiveAddressValidity) })
      (fun _ => rfl) (fun _ => rfl) p.1.id (if_pos rfl).symm, rfl⟩
  · have hexpired : Holds ((PaymentWrite.expireAddress p.1.id).exec s)
        ({ p.1 with status := .expired }, p.2) :=
      h.updateReceiveAddress (f := fun r => { r with status := .expired })
        (fun _ => rfl) (fun _ => rfl) p.1.id (if_pos rfl).symm
    have haccepted : ((PaymentWrite.expireAddress p.1.id).exec s).refusesUpdate p.2.id
        (.status .expired) = false := by
      simp only [Store.refusesUpdate, hexpired.order, Option.isNone_some, Bool.false_eq_true,
        false_or, decide_eq_false_iff_not, Store.paymentUpdateRaises, List.any_eq_true, not_exists,
        not_and]
      intro o ho hraises
      obtain ⟨hmem, hid⟩ := List.mem_filter.1 ho
      have hget := Table.get_of_mem hmem
      rw [of_decide_eq_true hid, hexpired.order, Option.some.injEq] at hget
      subst hget
      exact hlapsed.2.2.1 (of_decide_eq_true hraises).2.1
    simp only [after_attempt, updatePaymentOrder, haccepted, Bool.false_eq_true, if_false,
      after_ignore, after_ret]
    obtain ⟨hfinal, hnow⟩ := hexpired.update haccepted (if_pos rfl).symm
    rw [← hvalid]
    exact ⟨⟨hfinal.address, hfinal.order, hfinal.linked, hfinal.alone⟩, hnow⟩
  · exact ⟨h, rfl⟩

end Frame

variable {v : ℕ} {ts : List ℕ}

section Runs

lemma checked_of_not_due {now : ℕ} (h : ¬ (p.1.validUntil.any (· ≤ now) = true ∧
    (p.1.status ≠ .used ∨ p.2.status = .initiated))) : checked conf now p = p := by
  unfold checked
  split
  · rfl
  · next validUntil hvalid =>
    simp only [hvalid, Option.any_some, decide_eq_true_eq, not_and_or] at h
    split_ifs <;> first | rfl | (exfalso; simp_all; omega)

lemma id_checked (now : ℕ) : (checked conf now p).1.id = p.1.id ∧
    (checked conf now p).2.id = p.2.id := by
  unfold checked
  split
  · exact ⟨rfl, rfl⟩
  · split_ifs <;> exact ⟨rfl, rfl⟩

lemma Holds.forEach {snapshot : Store} (hsnapshot : Holds snapshot p) {now : ℕ}
    (rs : List ReceiveAddress) (hrs : ∀ r ∈ rs, r ∈ snapshot.receiveAddresses.rows)
    (hnodup : (rs.map ReceiveAddress.id).Nodup) (hnow : s.now = now)
    {q : ReceiveAddress × PaymentOrder} (hq : if p.1 ∈ rs then q = p else True)
    (hid : q.1.id = p.1.id ∧ q.2.id = p.2.id) (h : Holds s q) :
    Holds ((Proc.forEach rs fun r => match orderOf snapshot r with
        | none => ret ()
        | some o => (handleReceiveAddressValidity conf now r o).discard).after PaymentWrite.exec s)
      (if p.1 ∈ rs then checked conf now p else q) := by
  induction rs generalizing s q with
  | nil => simpa [Proc.forEach] using h
  | cons r rs ih =>
    have hget := Table.get_of_mem (hrs r List.mem_cons_self)
    have htail := fun r hr => hrs r (List.mem_cons_of_mem _ hr)
    obtain ⟨hfresh, hrest⟩ := List.nodup_cons.1 hnodup
    rw [Proc.forEach, after_bind]
    by_cases hr : r = p.1
    · have hp : p.1 ∉ rs := fun hmem => hfresh (hr ▸ List.mem_map_of_mem hmem)
      rw [if_pos (hr ▸ List.mem_cons_self)] at hq ⊢
      have horder : orderOf snapshot r = some p.2 := by
        rw [orderOf, hr, hsnapshot.linked, Option.bind_some, hsnapshot.order]
      subst hq hr
      simp only [horder, after_discard]
      obtain ⟨hown, hclock⟩ := h.own conf
      rw [hnow] at hown hclock
      have := ih htail hrest hclock (q := checked conf now q) (by simp [hp]) (id_checked conf now)
        hown
      simpa [hp] using this
    · have hne : r.id ≠ p.1.id := fun heq => hr (by
        rw [heq, hsnapshot.address] at hget
        exact (Option.some.inj hget).symm)
      have hmem : p.1 ∈ r :: rs ↔ p.1 ∈ rs := by simp [Ne.symm hr]
      simp only [hmem] at hq ⊢
      cases horder : orderOf snapshot r with
      | none => exact ih htail hrest hnow hq hid h
      | some o =>
        obtain ⟨id, hlink, ho⟩ := Option.bind_eq_some_iff.1 horder
        have hother : o.id ≠ p.2.id := by
          rintro heq
          have hkey := Table.get_key ho
          exact hne (hsnapshot.alone r.id r hget (by rw [hlink, ← hkey, heq]))
        obtain ⟨hframe, hclock⟩ := h.other conf now (hid.1 ▸ hne) (hid.2 ▸ hother)
        simp only [after_discard]
        exact ih htail hrest (hclock.trans hnow) hq hid hframe

theorem Holds.runAt (h : Holds s p) (now : ℕ) : Holds (runAt conf now s) (checked conf now p) := by
  have hsnapshot : Holds { s with now := now } p := ⟨h.address, h.order, h.linked, h.alone⟩
  have hloop := hsnapshot.forEach conf (s := { s with now := now })
    (due { s with now := now }) (fun r hr => (List.mem_filter.1 hr).1)
    (s.receiveAddresses.nodup_keys.sublist (List.filter_sublist.map _)) rfl (q := p) (by simp)
    ⟨rfl, rfl⟩ hsnapshot
  have hrun : AddressValidity.runAt conf now s = (Proc.forEach (due { s with now := now }) fun r =>
      match orderOf { s with now := now } r with
      | none => ret ()
      | some o => (handleReceiveAddressValidity conf now r o).discard).after PaymentWrite.exec
        { s with now := now } := by
    rw [AddressValidity.runAt, checkAddresses, after_attempt]
    rfl
  rw [hrun]
  split_ifs at hloop with hdue
  · exact hloop
  rw [checked_of_not_due conf]
  · exact hloop
  rintro ⟨hlapsed, hopen⟩
  have horder : orderOf { s with now := now } p.1 = some p.2 := by
    rw [orderOf, h.linked, Option.bind_some]
    exact h.order
  refine hdue (List.mem_filter.2 ⟨Table.mem_of_get h.address, ?_⟩)
  simpa [horder, hopen] using hlapsed

lemma Holds.exec (h : Holds s p) (ts : List ℕ) :
    Holds (Run.exec (AddressValidity.runAt conf) s ts) (Run.exec (checked conf) p ts) := by
  induction ts generalizing s p with
  | nil => exact h
  | cons t ts ih => exact ih (h.runAt conf t)

variable {now : ℕ}

lemma checked_of_le (hv : p.1.validUntil = some v) (h : now ≤ v) : checked conf now p = p := by
  simp [checked, hv, Nat.not_lt.2 h, Nat.not_lt.2 (h.trans (Nat.le_add_right v 120))]

lemma checked_of_expired (hv : p.1.validUntil = some v) (hexpired : p.1.status = .expired)
    (h : now ≤ v + 120) : checked conf now p = p := by
  simp [checked, hv, hexpired, Nat.not_lt.2 h]

lemma exec_checked_of_le (hv : p.1.validUntil = some v) (h : ∀ t ∈ ts, t ≤ v) :
    Run.exec (checked conf) p ts = p := by
  induction ts with
  | nil => rfl
  | cons t ts ih =>
    rw [Run.exec_cons, checked_of_le conf hv (h t List.mem_cons_self)]
    exact ih fun u hu => h u (List.mem_cons_of_mem _ hu)

variable (hv : p.1.validUntil = some v ∧ p.1.status ≠ .used)
include hv

lemma checked_keeps (h : now ≤ v + 120) :
    (checked conf now p).1.validUntil = some v ∧ (checked conf now p).1.status ≠ .used := by
  simp only [checked, hv.1, hv.2, if_false, Nat.not_lt.2 h]
  split_ifs
  · exact ⟨rfl, nofun⟩
  · exact hv

lemma checked_renews (h : v + 120 < now) :
    (checked conf now p).1.validUntil = some (now + conf.receiveAddressValidity) := by
  simp [checked, hv.1, hv.2, h]

lemma checked_expires (hfresh : p.1.status ≠ .expired)
    (horder : p.2.status = .initiated) (hmemo : ¬ isPrivateMemo p.2.memo) (hlapsed : v < now) (h : now ≤ v + 120) :
    (checked conf now p).1.status = .expired ∧ (checked conf now p).2.status = .expired := by
  simp [checked, hv.1, hv.2, Nat.not_lt.2 h, hlapsed, hfresh, horder, hmemo]

lemma exec_checked_keeps (h : ∀ t ∈ ts, t ≤ v + 120) :
    (Run.exec (checked conf) p ts).1.validUntil = some v ∧
      (Run.exec (checked conf) p ts).1.status ≠ .used := by
  induction ts generalizing p with
  | nil => exact hv
  | cons t ts ih =>
    exact ih (checked_keeps conf hv (h t List.mem_cons_self)) fun u hu => h u (List.mem_cons_of_mem _ hu)

end Runs

def ExpiresFirst (s : Store) (r : ReceiveAddress) (o : PaymentOrder) (v : ℕ) (ts : List ℕ) : Prop :=
  ∀ before t rest, ts = before ++ t :: rest → (∀ u ∈ before, u ≤ v) → v < t →
    ((Run.exec (runAt conf) s (before ++ [t])).receiveAddresses.get r.id).map (·.status) =
        some .expired ∧
      ((Run.exec (runAt conf) s (before ++ [t])).paymentOrders.get o.id).map (·.status) =
        some .expired

def validityEnd (s : Store) (address : ℕ) : Option ℕ :=
  (s.receiveAddresses.get address).bind (·.validUntil)

def NeverLater (s : Store) (r : ReceiveAddress) (ts : List ℕ) : Prop :=
  ∀ before t rest, ts = before ++ t :: rest → ∀ e e',
    validityEnd (Run.exec (runAt conf) s before) r.id = some e →
    validityEnd (Run.exec (runAt conf) s (before ++ [t])) r.id = some e' → e' ≤ e

section Expiry

lemma id_exec (ts : List ℕ) : p.1.id = (Run.exec (checked conf) p ts).1.id ∧
    p.2.id = (Run.exec (checked conf) p ts).2.id := by
  induction ts generalizing p with
  | nil => exact ⟨rfl, rfl⟩
  | cons t ts ih =>
    obtain ⟨hr, ho⟩ := id_checked conf (p := p) t
    exact ⟨hr.symm.trans ih.1, ho.symm.trans ih.2⟩

lemma Holds.shows_exec (h : Holds s p) (ts : List ℕ) :
    ((Run.exec (AddressValidity.runAt conf) s ts).receiveAddresses.get p.1.id).map (·.status) =
        some (Run.exec (checked conf) p ts).1.status ∧
      ((Run.exec (AddressValidity.runAt conf) s ts).paymentOrders.get p.2.id).map (·.status) =
        some (Run.exec (checked conf) p ts).2.status ∧
      validityEnd (Run.exec (AddressValidity.runAt conf) s ts) p.1.id =
        (Run.exec (checked conf) p ts).1.validUntil := by
  obtain ⟨hr, ho⟩ := id_exec conf (p := p) ts
  have hfinal := h.exec conf ts
  rw [validityEnd, hr, ho, hfinal.address, hfinal.order]
  exact ⟨rfl, rfl, rfl⟩

lemma exec_concat (before : List ℕ) (t : ℕ) :
    Run.exec (checked conf) p (before ++ [t]) = checked conf t (Run.exec (checked conf) p before) :=
  Run.exec_append _ _ _ _

theorem unpaid_address_expires_iff (conf : PaymentConfig) (s : Store) (r : ReceiveAddress)
    (o : PaymentOrder) (v : ℕ) (ts : List ℕ) (h : Holds s (r, o)) (hused : r.status ≠ .used)
    (hv : r.validUntil = some v) (horder : o.status = .initiated) (hmemo : ¬ isPrivateMemo o.memo) :
    (ExpiresFirst conf s r o v ts ∧ NeverLater conf s r ts) ↔
      (∀ t ∈ ts, t ≤ v + 120) ∧ (r.status = .expired → ∀ t ∈ ts, t ≤ v) := by
  have hstart : (r, o).1.validUntil = some v ∧ (r, o).1.status ≠ .used := ⟨hv, hused⟩
  -- the first run of a kind, and the runs before it
  have hfirst : ∀ bound, (∃ t ∈ ts, bound < t) → ∃ before t rest, ts = before ++ t :: rest ∧
      (∀ u ∈ before, u ≤ bound) ∧ bound < t := by
    rintro bound ⟨t, ht, hlate⟩
    cases hfind : ts.find? fun t => decide (bound < t) with
    | none => exact absurd hlate (by simpa using List.find?_eq_none.1 hfind t ht)
    | some u =>
      obtain ⟨hu, before, rest, rfl, hbefore⟩ := List.find?_eq_some_iff_append.1 hfind
      exact ⟨before, u, rest, rfl, fun w hw => by simpa using hbefore w hw, by simpa using hu⟩
  constructor
  · rintro ⟨hexpires, hlater⟩
    have htimely : ∀ t ∈ ts, t ≤ v + 120 := by
      by_contra! hlate
      obtain ⟨before, t, rest, hsplit, hbefore, ht⟩ := hfirst (v + 120) hlate
      have hkept := exec_checked_keeps conf hstart hbefore
      have hmoved := checked_renews conf hkept ht
      rw [← exec_concat] at hmoved
      have := hlater before t rest hsplit v _ ((h.shows_exec conf before).2.2.trans hkept.1)
        ((h.shows_exec conf (before ++ [t])).2.2.trans hmoved)
      omega
    refine ⟨htimely, fun hexpired => ?_⟩
    by_contra! hlate
    obtain ⟨before, t, rest, hsplit, hbefore, ht⟩ := hfirst v hlate
    have hstill := (h.shows_exec conf (before ++ [t])).2.1
    rw [exec_concat, exec_checked_of_le conf (p := (r, o)) hv hbefore,
      checked_of_expired conf (p := (r, o)) hv hexpired (htimely t (by simp [hsplit]))] at hstill
    have hset := (hexpires before t rest hsplit hbefore ht).2
    rw [hstill, horder] at hset
    cases hset
  · rintro ⟨htimely, hfresh⟩
    constructor
    · intro before t rest hsplit hbefore ht
      have hmem : t ∈ ts := by simp [hsplit]
      obtain ⟨haddress, hstatus, -⟩ := h.shows_exec conf (before ++ [t])
      rw [exec_concat, exec_checked_of_le conf (p := (r, o)) hv hbefore] at haddress hstatus
      have hunexpired : r.status ≠ .expired := fun hexpired =>
        absurd ht (Nat.not_lt.2 (hfresh hexpired t hmem))
      obtain ⟨hr, ho⟩ := checked_expires conf hstart hunexpired horder hmemo ht
        (htimely t hmem)
      exact ⟨haddress.trans (congrArg some hr), hstatus.trans (congrArg some ho)⟩
    · intro before t rest hsplit e e' he he'
      have hall : ∀ u ∈ before ++ [t], u ≤ v + 120 := fun u hu => htimely u (by
        rw [hsplit]
        simp only [List.mem_append, List.mem_cons, List.not_mem_nil, or_false] at hu ⊢
        tauto)
      have hkept := (exec_checked_keeps conf hstart
        fun u hu => hall u (List.mem_append_left _ hu)).1
      rw [(h.shows_exec conf before).2.2, hkept] at he
      rw [(h.shows_exec conf _).2.2, (exec_checked_keeps conf hstart hall).1] at he'
      exact (Option.some.inj (he'.symm.trans he)).le

end Expiry

def waitingStore : Store :=
  { Store.empty with
    paymentOrders := .single (Sample.paymentOrder 2)
    receiveAddresses := .single { Sample.receiveAddress 2 with validUntil := some 50 } }

lemma waitingStore_holds : Holds waitingStore
    ({ Sample.receiveAddress 2 with validUntil := some 50 }, Sample.paymentOrder 2) := by
  refine ⟨rfl, rfl, rfl, fun id r hr _ => ?_⟩
  rw [← Table.get_key hr, List.mem_singleton.1 (Table.mem_of_get hr)]

theorem waiting_address_expires :
    ExpiresFirst {} waitingStore { Sample.receiveAddress 2 with validUntil := some 50 }
        (Sample.paymentOrder 2) 50 [40, 110] ∧
      NeverLater {} waitingStore { Sample.receiveAddress 2 with validUntil := some 50 } [40, 110] :=
  (unpaid_address_expires_iff {} waitingStore { Sample.receiveAddress 2 with validUntil := some 50 }
    (Sample.paymentOrder 2) 50 [40, 110] waitingStore_holds (by decide) rfl rfl
    (by decide +kernel)).2 (by decide)

theorem late_check_renews :
    validityEnd waitingStore 2 = some 50 ∧ validityEnd (runAt {} 230 waitingStore) 2 = some 2030 ∧
      ((runAt {} 230 waitingStore).paymentOrders.get 2).map (·.status) = some .initiated := by
  decide +kernel

section Agreement

def Polls (s : Store) (r : ReceiveAddress) (o : PaymentOrder) : Prop :=
  ∃ env : PaymentEnvironment,
    PaymentWrite.update o.id (.amountPaid (env.tokenBalance r.address o.token.id)) ∈
      (checkOrderPayment env o r).history PaymentWrite.exec [] s

def Expires (s : Store) (r : ReceiveAddress) (o : PaymentOrder) : Prop :=
  PaymentWrite.expireAddress r.id ∈
    (handleReceiveAddressValidity conf s.now r o).history PaymentWrite.exec [] s

def initiatedAddress (p : NewPaymentOrderPayload) (now id : ℕ) (address : String) :
    ReceiveAddress where
  id := id
  address := address
  status := if isTron p.network then .unused else .poolAssigned
  txHash := ""
  validUntil := some (now + conf.receiveAddressValidity)
  lastUsed := none
  lastIndexedBlock := 0
  paymentOrder := none

def initiatedEntity (p : NewPaymentOrderPayload) (r : ReceiveAddress) : ReceiveAddress :=
  if isPrivateMemo p.recipient.memo then { r with validUntil := none } else r

def linkedRow (row entity : ReceiveAddress) (order : ℕ) : ReceiveAddress :=
  if row.id = entity.id then { row with paymentOrder := some order } else row

def storedAddress (p : NewPaymentOrderPayload) (now id : ℕ) (address : String) (order : ℕ) :
    ReceiveAddress :=
  let row := initiatedAddress conf p now id address
  linkedRow row (initiatedEntity p row) order

def Unlapsed (s : Store) (r : ReceiveAddress) (o : PaymentOrder) : Prop :=
  Polls s r o ∧ (handleReceiveAddressValidity conf s.now r o).history PaymentWrite.exec [] s = []

variable {r : ReceiveAddress} {o : PaymentOrder}

lemma validUntil_storedAddress (p : NewPaymentOrderPayload) (now id : ℕ) (address : String)
    (order : ℕ) : (storedAddress conf p now id address order).validUntil =
      some (now + conf.receiveAddressValidity) := by
  simp only [storedAddress, linkedRow]
  split_ifs <;> rfl

lemma polls_iff : Polls s r o ↔ ∃ v, r.validUntil = some v ∧ s.now ≤ v := by
  constructor
  · rintro ⟨env, h⟩
    by_contra! hlapsed
    have hall : r.validUntil.all (· < s.now) = true := by
      rcases hv : r.validUntil with _ | v
      · rfl
      · simpa using hlapsed v hv
    rw [checkOrderPayment, history_attempt, if_pos hall, history_ret, List.mem_singleton] at h
    cases h
  · rintro ⟨v, hv, hnow⟩
    refine ⟨⟨fun _ => none, fun _ => none, fun _ _ _ => none, fun _ _ _ => none, fun _ => none,
      fun _ => false, fun _ _ => o.amountPaid + 1⟩, ?_⟩
    simp [checkOrderPayment, hv, Nat.not_lt.2 hnow]

lemma expires_iff : Expires conf s r o ↔
    ∃ v, r.validUntil = some v ∧ v < s.now ∧ s.now ≤ v + 120 ∧ r.status ≠ .used ∧
      r.status ≠ .expired ∧ o.status ≠ .expired ∧ ¬ isPrivateMemo o.memo := by
  rw [Expires, handleReceiveAddressValidity]
  rcases hv : r.validUntil with _ | v
  · simp
  by_cases hused : r.status = .used
  · simp [hused]
  by_cases hgone : v + 120 < s.now
  · simp [hused, hgone]
  simp only [hused, hgone, if_false]
  split_ifs with hlapsed
  · simp [updatePaymentOrder, hlapsed, hused, Nat.not_lt.1 hgone]
  refine iff_of_false (by simp) ?_
  rintro ⟨w, hw, hlt, -, -, hrest⟩
  obtain rfl := Option.some.inj hw
  exact hlapsed ⟨hlt, hrest⟩

lemma unlapsed_private_iff (hprivate : isPrivateMemo o.memo) {v : ℕ} (hv : r.validUntil = some v) :
    Unlapsed conf s r o ↔ s.now ≤ v := by
  rw [Unlapsed, polls_iff, hv]
  constructor
  · rintro ⟨⟨w, hw, hle⟩, -⟩
    exact (Option.some.inj hw).symm ▸ hle
  intro hle
  refine ⟨⟨v, rfl, hle⟩, ?_⟩
  have hgone : ¬ v + 120 < s.now := by omega
  simp [handleReceiveAddressValidity, hv, hgone, hprivate]

theorem one_validity_iff (conf : PaymentConfig) (s : Store) (r : ReceiveAddress) (o : PaymentOrder)
    (p : NewPaymentOrderPayload) (start id : ℕ) (address : String) (ho : o.status = .initiated)
    (hmemo : o.memo = p.recipient.memo) :
    ((Polls s r o ↔ ¬ Expires conf s r o) ∧
        (isPrivateMemo p.recipient.memo →
          Unlapsed conf s (storedAddress conf p start id address o.id) o)) ↔
      (∃ v, r.validUntil = some v ∧ (s.now ≤ v ∨ s.now ≤ v + 120 ∧ r.status ≠ .used ∧
          r.status ≠ .expired ∧ ¬ isPrivateMemo o.memo)) ∧
        (isPrivateMemo p.recipient.memo → s.now ≤ start + conf.receiveAddressValidity) := by
  refine and_congr ?_ (forall_congr' fun hprivate =>
    unlapsed_private_iff conf (hmemo ▸ hprivate) (validUntil_storedAddress ..))
  rw [polls_iff, expires_iff, ho]
  rcases r.validUntil with _ | v
  · simp
  simp only [Option.some.injEq, exists_eq_left']
  have hinitiated : PaymentOrderStatus.initiated ≠ .expired := nofun
  by_cases hle : s.now ≤ v
  · exact iff_of_true (iff_of_true hle fun h => absurd h.1 (Nat.not_lt.2 hle)) (.inl hle)
  · simp only [hle, false_or, Nat.not_le.1 hle, true_and, false_iff, not_not, hinitiated,
      ne_eq, not_false_eq_true]

open Initiation.Sample in
theorem one_validity_waiting :
    (Polls waitingStore { Sample.receiveAddress 2 with validUntil := some 50 }
          { Sample.paymentOrder 2 with memo := "rent" } ↔
        ¬ Expires {} waitingStore { Sample.receiveAddress 2 with validUntil := some 50 }
          { Sample.paymentOrder 2 with memo := "rent" }) ∧
      (isPrivateMemo "rent" → Unlapsed {} waitingStore (storedAddress {} payment 0 2 "0xpool" 2)
        { Sample.paymentOrder 2 with memo := "rent" }) :=
  (one_validity_iff {} waitingStore { Sample.receiveAddress 2 with validUntil := some 50 }
    { Sample.paymentOrder 2 with memo := "rent" } payment 0 2 "0xpool" rfl rfl).2
    ⟨⟨50, rfl, .inl (by decide)⟩, fun _ => by decide⟩

open Initiation.Sample in
theorem private_address_lapses :
    (¬ Polls waitingStore (Sample.receiveAddress 2) (Sample.paymentOrder 2) ∧
        ¬ Expires {} waitingStore (Sample.receiveAddress 2) (Sample.paymentOrder 2)) ∧
      isPrivateMemo "P#P" ∧
      ¬ Unlapsed {} { waitingStore with now := 1801 } (storedAddress {}
          { payment with recipient := { payment.recipient with memo := "P#P" } } 0 2 "0xpool" 2)
        { Sample.paymentOrder 2 with memo := "P#P" } := by
  have hprivate : isPrivateMemo "P#P" := by decide +kernel
  refine ⟨⟨fun h => ?_, fun h => ?_⟩, hprivate, fun h => ?_⟩
  · obtain ⟨v, hv, -⟩ := polls_iff.1 h
    cases hv
  · obtain ⟨v, hv, -⟩ := (expires_iff {}).1 h
    cases hv
  · exact absurd ((unlapsed_private_iff {} hprivate (validUntil_storedAddress ..)).1 h)
      (by decide)

end Agreement

end Stablenode.AddressValidity
