import Stablenode.CreationRules

/-! One lock order for each gateway order, over all deliveries and interleavings. -/
namespace Stablenode.OneLockOrder

open Proc Run Creation

variable {I : Indexer} {fields : LockPaymentOrderFields} {s : Store} {a : OrderCreatedEvent}
  {e : OrderCreatedEvent} {x : Store × Unit}

section Invariant

variable (I) (es : List OrderCreatedEvent)

structure Indexed (x : Store × Unit) : Prop where
  from_events : ∀ o ∈ x.1.lockOrders.rows, ∃ e ∈ es, ∃ fields,
    I.accepted e = some fields ∧ o.ident = ident fields
  nodup : x.1.gateways.Nodup
  logs : ∀ e ∈ es, (x.1.createdLogs e.txHash e.orderId).length ≤ 1

def Later (x y : Store × Unit) : Prop :=
  x.1.gateways ⊆ y.1.gateways ∧
    ∀ e ∈ es, e.orderId ∉ y.1.gateways →
      y.1.createdLogs e.txHash e.orderId = x.1.createdLogs e.txHash e.orderId

def Allowed (l : CreationWrite) (x : Store × Unit) : Prop :=
  Quiet l ∨ ∃ e ∈ es, ∃ fields withLog, I.accepted e = some fields ∧
    l = .createCommit fields.create I.network withLog ∧
    (withLog = true → e.orderId ∉ x.1.gateways → x.1.createdLogs e.txHash e.orderId = [])

variable {I es}

lemma gatewayId_of_ident {o : LockPaymentOrder} (h : o.ident = ident fields) :
    o.gatewayId = fields.gatewayId := congrArg (fun k => k.1.1.1) h

lemma gateways_of_idents {t : Store} (h : t.idents = s.idents) : t.gateways = s.gateways := by
  have hmap : ∀ u : Store, u.gateways = u.idents.map fun k => k.1.1.1 := by
    intro u
    rw [Store.idents, List.map_map]
    rfl
  rw [hmap, hmap, h]

lemma gateways_createCommit (hcheck : fields.create.defaults.check = none) (network : String)
    (withLog : Bool) (s : Store) :
    ((CreationWrite.createCommit fields.create network withLog).exec s).gateways =
      if Taken s fields then s.gateways else s.gateways ++ [fields.gatewayId] := by
  rw [Store.gateways, exec_createCommit_rows hcheck]
  split_ifs with h
  · rfl
  · rw [List.map_append]
    rfl

variable (hids : ∀ a ∈ es, ∀ b ∈ es, a.orderId = b.orderId → a = b)

include hids in
lemma taken_of_mem (hx : Indexed I es x) (he : e ∈ es) (hf : I.accepted e = some fields)
    (hmem : e.orderId ∈ x.1.gateways) : Taken x.1 fields := by
  obtain ⟨o, ho, hid⟩ := List.mem_map.1 hmem
  obtain ⟨e', he', fields', hf', hident⟩ := hx.from_events o ho
  have hgateway : e'.orderId = e.orderId := by
    rw [← (accepted_fields hf').1, ← gatewayId_of_ident hident, hid]
  obtain rfl := hids e' he' e he hgateway
  obtain rfl := Option.some.inj (hf.symm.trans hf')
  exact List.mem_map.2 ⟨o, ho, congrArg Prod.fst hident⟩

lemma createdLogs_createCommit (hf : I.accepted e = some fields) (withLog : Bool)
    (h : e.orderId = a.orderId → withLog = true → Taken x.1 fields) :
    ((CreationWrite.createCommit fields.create I.network withLog).exec x.1).createdLogs a.txHash
      a.orderId = x.1.createdLogs a.txHash a.orderId := by
  obtain ⟨hgateway, -, -, -, hcheck⟩ := accepted_fields hf
  obtain ⟨added, hlogs, -, hadded⟩ :=
    exec_createCommit_createdLogs hcheck I.network withLog x.1 a.txHash a.orderId
  have hnone : added = [] := by
    by_contra hne
    obtain ⟨hfree, hlog, hid⟩ := hadded hne
    exact hfree (h (hgateway ▸ hid) hlog)
  rw [hlogs, hnone, List.append_nil]

abbrev noGhost : CreationWrite → Store → Unit → Unit := fun _ _ g => g

lemma later_step (l : CreationWrite) (x : Store × Unit) (hl : Allowed I es l x) :
    Later es x (watch CreationWrite.exec noGhost l x) := by
  rcases hl with hquiet | ⟨e, -, fields, withLog, hf, rfl, -⟩
  · obtain ⟨hidents, hlogs⟩ := hquiet x.1
    refine ⟨fun g hg => ?_, fun a _ _ => ?_⟩
    · rwa [watch, gateways_of_idents hidents]
    · simp only [watch, Store.createdLogs, hlogs]
  obtain ⟨hgateway, -, -, -, hcheck⟩ := accepted_fields hf
  have hgateways := gateways_createCommit hcheck I.network withLog x.1
  refine ⟨?_, fun a _ ha => createdLogs_createCommit hf withLog fun hid _ => ?_⟩
  · simp only [watch, hgateways]
    split_ifs
    · exact List.Subset.refl _
    · exact List.subset_append_left _ _
  · -- the order of an event whose log changes has been stored
    by_contra hfree
    simp only [watch, hgateways, if_neg hfree, hgateway, hid] at ha
    exact ha (by simp)

include hids in
lemma indexed_step (l : CreationWrite) (x : Store × Unit) (hx : Indexed I es x)
    (hl : Allowed I es l x) : Indexed I es (watch CreationWrite.exec noGhost l x) := by
  rcases hl with hquiet | ⟨e, he, fields, withLog, hf, rfl, hlog⟩
  · obtain ⟨hidents, hlogs⟩ := hquiet x.1
    refine ⟨fun o ho => ?_, ?_, fun a ha => ?_⟩
    · have hmem : o.ident ∈ x.1.idents := hidents ▸ List.mem_map_of_mem ho
      obtain ⟨o', ho', hsame⟩ := List.mem_map.1 hmem
      exact hsame ▸ hx.from_events o' ho'
    · rw [watch, gateways_of_idents hidents]
      exact hx.nodup
    · simpa only [watch, Store.createdLogs, hlogs] using hx.logs a ha
  obtain ⟨hgateway, -, -, -, hcheck⟩ := accepted_fields hf
  by_cases htaken : Taken x.1 fields
  · have hrows := exec_createCommit_rows hcheck I.network withLog x.1
    rw [if_pos htaken] at hrows
    refine ⟨fun o ho => hx.from_events o (hrows ▸ ho), ?_, fun a ha => ?_⟩
    · rw [watch, Store.gateways, hrows]
      exact hx.nodup
    · rw [watch, createdLogs_createCommit hf withLog fun _ _ => htaken]
      exact hx.logs a ha
  have hnew : e.orderId ∉ x.1.gateways := fun hmem => htaken (taken_of_mem hids hx he hf hmem)
  refine ⟨fun o ho => ?_, ?_, fun a ha => ?_⟩
  · rw [watch, exec_createCommit_rows hcheck, if_neg htaken, List.mem_append,
      List.mem_singleton] at ho
    rcases ho with ho | rfl
    · exact hx.from_events o ho
    · exact ⟨e, he, fields, hf, rfl⟩
  · rw [watch, gateways_createCommit hcheck, if_neg htaken, hgateway]
    refine List.nodup_append.2 ⟨hx.nodup, by simp, fun g hg g' hg' hsame => hnew ?_⟩
    rwa [← List.mem_singleton.1 hg', ← hsame]
  by_cases hid : e.orderId = a.orderId ∧ withLog = true
  · obtain rfl := hids e he a ha hid.1
    obtain ⟨added, hadded, hone, -⟩ :=
      exec_createCommit_createdLogs hcheck I.network withLog x.1 e.txHash e.orderId
    rw [watch, hadded, hlog hid.2 hnew]
    exact hone
  · rw [watch, createdLogs_createCommit hf withLog fun h hw => absurd ⟨h, hw⟩ hid]
    exact hx.logs a ha

include hids in
theorem rely :
    Rely CreationWrite.exec noGhost (Later es) (Indexed I es) (Allowed I es) where
  refl _ := ⟨List.Subset.refl _, fun _ _ _ => rfl⟩
  trans hxy hyz :=
    ⟨List.Subset.trans hxy.1 hyz.1, fun e he h =>
      (hyz.2 e he h).trans (hxy.2 e he fun hmem => h (hyz.1 hmem))⟩
  step l x _ hl := later_step l x hl
  inv l x hx hl := indexed_step hids l x hx hl

end Invariant

section Programs

lemma quiet_read : Quiet .read := quiet_order rfl rfl

lemma watch_read (y : Store × Unit) : watch CreationWrite.exec noGhost .read y = y := rfl

lemma watched_eq_after (p : CreationProgram Unit) :
    p.watched CreationWrite.exec noGhost (s, ()) = (p.after CreationWrite.exec s, ()) :=
  Prod.ext (watched_fst _ _) rfl

variable {es : List OrderCreatedEvent} (hids : ∀ a ∈ es, ∀ b ∈ es, a.orderId = b.orderId → a = b)

lemma quiet_sound {α : Type} {p : CreationProgram α} (h : Uses Quiet p) :
    ∀ y, Sound CreationWrite.exec noGhost (Later es) (Indexed I es) (Allowed I es) False p y :=
  h.sound fun _ _ hl _ => Or.inl hl

include hids

lemma commitLockPaymentOrder_leads (he : e ∈ es) (hf : I.accepted e = some fields) {withLog : Bool}
    (hlogs : withLog = true → e.orderId ∉ x.1.gateways → x.1.createdLogs e.txHash e.orderId = []) :
    Leads CreationWrite.exec noGhost (Later es) (Indexed I es) (Allowed I es)
      (fun _ y => e.orderId ∈ y.1.gateways) (I.commitLockPaymentOrder fields withLog) x := by
  obtain ⟨hgateway, -, -, -, hcheck⟩ := accepted_fields hf
  have hallowed : ∀ y, Later es x y → Indexed I es y →
      Allowed I es (.createCommit fields.create I.network withLog) y := by
    intro y hxy _
    refine .inr ⟨e, he, fields, withLog, hf, rfl, fun hw hmem => ?_⟩
    rw [hxy.2 e he hmem, hlogs hw fun h => hmem (hxy.1 h)]
  refine leads_attempt hallowed fun y hxy hy => ?_
  have hthere : e.orderId ∈ (watch CreationWrite.exec noGhost
      (.createCommit fields.create I.network withLog) y).1.gateways := by
    rw [watch, gateways_createCommit hcheck]
    split_ifs with htaken
    · obtain ⟨o, ho, hindex⟩ := List.mem_map.1 htaken
      refine List.mem_map.2 ⟨o, ho, ?_⟩
      rw [← hgateway]
      exact congrArg (fun k => k.1.1) hindex
    · simp [hgateway]
  have hstays : ∀ z, Later es _ z → Indexed I es z → e.orderId ∈ z.1.gateways :=
    fun z hz _ => hz.1 hthere
  split
  · exact hstays
  rename_i order _
  exact (quiet_sound (assignCreated_uses fields order) _).leads (rely hids) fun _ => hstays

lemma storeLockPaymentOrder_leads (he : e ∈ es) (hf : I.accepted e = some fields) :
    Leads CreationWrite.exec noGhost (Later es) (Indexed I es) (Allowed I es)
      (fun _ y => e.orderId ∈ y.1.gateways) (I.storeLockPaymentOrder fields) x := by
  obtain ⟨hgateway, htx, -, -, -⟩ := accepted_fields hf
  rw [Indexer.storeLockPaymentOrder]
  refine leads_attempt (fun _ _ _ => .inl quiet_read) fun y _ _ => ?_
  refine leads_attempt (fun _ _ _ => .inl quiet_read) fun y _ hy => ?_
  split
  · rename_i hmany
    rw [htx, hgateway] at hmany
    exact absurd hmany (only_ne_notSingular (hy.logs e he))
  · exact commitLockPaymentOrder_leads hids he hf nofun
  rename_i hnone
  rw [htx, hgateway, only_eq_notFound_iff] at hnone
  refine leads_attempt (fun _ _ _ => .inl quiet_read) fun z hyz _ => ?_
  exact commitLockPaymentOrder_leads hids he hf fun _ hmem => (hyz.2 e he hmem).trans hnone

variable (htxs : ∀ a ∈ es, ∀ b ∈ es, a.txHash = b.txHash → a = b)
  (hhashes : ∀ a ∈ es, ∀ b ∈ es, a.messageHash = b.messageHash → a = b)

include htxs hhashes

omit hids in
lemma mem_gateways_of_isIndexed (hx : Indexed I es x) (he : e ∈ es)
    (h : x.1.isIndexed I.network e = true) : e.orderId ∈ x.1.gateways := by
  obtain ⟨o, ho, hmatch⟩ := List.any_eq_true.1 h
  obtain ⟨a, ha, fields, hf, hident⟩ := hx.from_events o ho
  obtain ⟨hgateway, htx, hhash, -, -⟩ := accepted_fields hf
  have hotx : o.txHash = a.txHash := htx ▸ congrArg (fun k => k.1.1.2.2.1) hident
  have hohash : o.messageHash = a.messageHash := hhash ▸ congrArg (fun k => k.2.1) hident
  have hoid : o.gatewayId = a.orderId := hgateway ▸ gatewayId_of_ident hident
  have hmem : a.orderId ∈ x.1.gateways := hoid ▸ List.mem_map_of_mem ho
  rcases (of_decide_eq_true hmatch).1 with hsame | hsame | hsame
  · rwa [← htxs a ha e he (hotx ▸ hsame)]
  · rwa [← hhashes a ha e he (hohash ▸ hsame)]
  · rwa [← hsame, hoid]

theorem createLockPaymentOrder_leads (he : e ∈ es) (hvalid : (I.accepted e).isSome)
    (background : List ℕ) :
    Leads CreationWrite.exec noGhost (Later es) (Indexed I es) (Allowed I es)
      (fun _ y => e.orderId ∈ y.1.gateways) (I.createLockPaymentOrder background e) x := by
  obtain ⟨fields, hf⟩ := Option.isSome_iff_exists.1 hvalid
  have hR := rely (I := I) hids
  refine leads_attempt (fun _ _ _ => .inl quiet_read) fun y _ hy => ?_
  rw [watch_read]
  split_ifs with hindexed
  · exact fun z hz _ => hz.1 (mem_gateways_of_isIndexed htxs hhashes hy he hindexed)
  have hstore := (checkAndStore_reads hf).leads hR watch_read (fun _ _ => Or.inl quiet_read) hy
    fun z _ _ => storeLockPaymentOrder_leads hids he hf
  refine (leads_interleave (P := fun i z => i = 0 → e.orderId ∈ z.1.gateways) hR background hy
    fun i p hp => ?_).imp fun _ z h => h 0 (by simp) rfl
  match i, hp with
  | 0, hp =>
    obtain rfl := Option.some.inj hp
    exact (hstore.discard hR hy).imp fun _ _ h _ => h
  | 1, hp =>
    obtain rfl := Option.some.inj hp
    exact (quiet_sound (linkPaymentOrder_uses e 30) y).leads hR
      fun _ _ _ _ h => absurd h one_ne_zero

end Programs

section Deliveries

structure Batch where
  events : Table OrderCreatedEvent.orderId
  schedule : List ℕ
  background : String → List ℕ

def Batch.process (I : Indexer) (b : Batch) : CreationProgram Unit :=
  I.processCreatedOrders b.schedule b.background (b.events.rows.map OrderCreatedEvent.orderId)
    b.events.get

def deliver (I : Indexer) (schedule : List ℕ) (batches : List Batch) : CreationProgram Unit :=
  interleave schedule (batches.map (Batch.process I))

def Covers (es : List OrderCreatedEvent) (batches : List Batch) : Prop :=
  ∀ e, e ∈ es ↔ ∃ b ∈ batches, e ∈ b.events.rows

def OneEach (es : List OrderCreatedEvent) (s : Store) : Prop :=
  (∀ e ∈ es, (s.lockOrders.select fun o => o.gatewayId = e.orderId).length = 1) ∧
    ∀ g ∈ s.gateways, g ∈ es.map OrderCreatedEvent.orderId

lemma Batch.process_eq (b : Batch) : b.process I =
    interleave b.schedule
      (b.events.rows.map fun e => I.createLockPaymentOrder (b.background e.orderId) e) := by
  have hevents : (b.events.rows.map OrderCreatedEvent.orderId).filterMap b.events.get =
      b.events.rows := by
    have hget : ∀ e ∈ b.events.rows, (b.events.get ∘ OrderCreatedEvent.orderId) e = some e :=
      fun e he => Table.get_of_mem he
    rw [List.filterMap_map, List.filterMap_congr hget, List.filterMap_some]
  rw [Batch.process, Indexer.processCreatedOrders, hevents]

structure Fresh (es : List OrderCreatedEvent) (s : Store) : Prop where
  lockOrders : s.lockOrders.rows = []
  logs : ∀ e ∈ es, (s.createdLogs e.txHash e.orderId).length ≤ 1

variable {es : List OrderCreatedEvent}

lemma Fresh.indexed (h : Fresh es s) : Indexed I es (s, ()) where
  from_events o ho := by simp [h.lockOrders] at ho
  nodup := by simp [Store.gateways, h.lockOrders]
  logs := h.logs

variable (hids : ∀ a ∈ es, ∀ b ∈ es, a.orderId = b.orderId → a = b)
  (htxs : ∀ a ∈ es, ∀ b ∈ es, a.txHash = b.txHash → a = b)
  (hhashes : ∀ a ∈ es, ∀ b ∈ es, a.messageHash = b.messageHash → a = b)
  (hvalid : ∀ e ∈ es, (I.accepted e).isSome) (batches : List Batch)
  (hbatches : ∀ b ∈ batches, ∀ e ∈ b.events.rows, e ∈ es) (schedule : List ℕ)

include hids htxs hhashes hvalid hbatches

lemma deliver_leads (hx : Indexed I es x) :
    Leads CreationWrite.exec noGhost (Later es) (Indexed I es) (Allowed I es)
      (fun _ y => ∀ b ∈ batches, ∀ e ∈ b.events.rows, e.orderId ∈ y.1.gateways)
      (deliver I schedule batches) x := by
  have hR := rely (I := I) hids
  refine leads_interleave_map hR schedule hx fun b hb => ?_
  rw [Batch.process_eq]
  refine leads_interleave_map hR b.schedule hx fun e he => ?_
  have hmem := hbatches b hb e he
  exact createLockPaymentOrder_leads hids htxs hhashes hmem (hvalid e hmem) _

theorem deliver_after (hs : Fresh es s) :
    Indexed I es ((deliver I schedule batches).after CreationWrite.exec s, ()) ∧
      ∀ b ∈ batches, ∀ e ∈ b.events.rows,
        e.orderId ∈ ((deliver I schedule batches).after CreationWrite.exec s).gateways := by
  obtain ⟨hinv, hall⟩ :=
    (deliver_leads hids htxs hhashes hvalid batches hbatches schedule hs.indexed).watched (rely hids)
      hs.indexed
  rw [watched_eq_after] at hinv hall
  exact ⟨hinv, hall⟩

end Deliveries

section Dropped

def Dropped (I : Indexer) (e : OrderCreatedEvent) (x : Store × Unit) : Prop :=
  x.1.isIndexed I.network e = true ∧ e.orderId ∉ x.1.gateways

def Elsewhere (e : OrderCreatedEvent) (l : CreationWrite) (_ : Store × Unit) : Prop :=
  Quiet l ∨ ∃ (fields : LockPaymentOrderFields) (network : String) (withLog : Bool),
    fields.create.defaults.check = none ∧ fields.gatewayId ≠ e.orderId ∧
      l = .createCommit fields.create network withLog

lemma isIndexed_of_idents {t : Store} (h : t.idents = s.idents) (network : String) :
    t.isIndexed network e = s.isIndexed network e := by
  have hmap : ∀ u : Store, u.isIndexed network e = u.idents.any fun k =>
      (k.1.1.2.2.1 = e.txHash ∨ k.2.1 = e.messageHash ∨ k.1.1.1 = e.orderId) ∧
        k.2.2.network = network := by
    intro u
    rw [Store.idents, List.any_map]
    rfl
  rw [hmap, hmap, h]

lemma dropped_rely (I : Indexer) (e : OrderCreatedEvent) :
    Rely CreationWrite.exec noGhost (fun _ _ => True) (Dropped I e) (Elsewhere e) where
  refl _ := trivial
  trans _ _ := trivial
  step _ _ _ _ := trivial
  inv l x hx hl := by
    rcases hl with hquiet | ⟨fields, network, withLog, hcheck, hother, rfl⟩
    · obtain ⟨hidents, -⟩ := hquiet x.1
      rw [Dropped, watch, isIndexed_of_idents hidents, gateways_of_idents hidents]
      exact hx
    have hrows := exec_createCommit_rows hcheck network withLog x.1
    have hgateways := gateways_createCommit hcheck network withLog x.1
    rw [Dropped, watch, Store.isIndexed, hrows, hgateways]
    split_ifs
    · exact hx
    refine ⟨?_, ?_⟩
    · rw [List.any_append, Bool.or_eq_true]
      exact .inl hx.1
    · rw [List.mem_append, List.mem_singleton, not_or]
      exact ⟨hx.2, hother.symm⟩

lemma storeLockPaymentOrder_uses (fields : LockPaymentOrderFields) :
    Uses (fun l => Quiet l ∨ ∃ withLog, l = .createCommit fields.create I.network withLog)
      (I.storeLockPaymentOrder fields) := by
  refine storeLockPaymentOrder_of (fun _ => trivial) (uses_attempt (.inl quiet_read))
    fun withLog => ?_
  refine uses_attempt (.inr ⟨withLog, rfl⟩) trivial fun s => ?_
  split
  · trivial
  · exact (assignCreated_uses _ _).mono fun _ => Or.inl

lemma createLockPaymentOrder_dropped (ha : (I.accepted a).isSome)
    (hother : a = e ∨ a.orderId ≠ e.orderId) (background : List ℕ) :
    Leads CreationWrite.exec noGhost (fun _ _ => True) (Dropped I e) (Elsewhere e)
      (fun _ _ => True) (I.createLockPaymentOrder background a) x := by
  have hR := dropped_rely I e
  refine leads_attempt (fun _ _ _ => .inl quiet_read) fun y _ hy => ?_
  rw [watch_read]
  split_ifs with hindexed
  · exact fun _ _ _ => trivial
  obtain ⟨fields, hf⟩ := Option.isSome_iff_exists.1 ha
  obtain ⟨hgateway, -, -, -, hcheck⟩ := accepted_fields hf
  have hne : a.orderId ≠ e.orderId := hother.resolve_left fun h => hindexed (h ▸ hy.1)
  have hstore : ∀ z, Sound CreationWrite.exec noGhost (fun _ _ => True) (Dropped I e)
      (Elsewhere e) False (I.storeLockPaymentOrder fields) z := by
    refine (storeLockPaymentOrder_uses fields).sound fun l _ hl _ => ?_
    rcases hl with hquiet | ⟨withLog, rfl⟩
    · exact .inl hquiet
    · exact .inr ⟨fields, _, withLog, hcheck, hgateway ▸ hne, rfl⟩
  have hlink : ∀ z, Sound CreationWrite.exec noGhost (fun _ _ => True) (Dropped I e)
      (Elsewhere e) False (a.linkPaymentOrder 30) z :=
    (linkPaymentOrder_uses a 30).sound fun _ _ hl _ => Or.inl hl
  refine (leads_interleave (P := fun _ _ => True) hR background hy fun i p hp => ?_).imp
    fun _ _ _ => trivial
  match i, hp with
  | 0, hp =>
    obtain rfl := Option.some.inj hp
    refine Leads.discard hR hy ?_
    exact (checkAndStore_reads hf).leads hR watch_read (fun _ _ => .inl quiet_read) hy
      fun z _ _ => (hstore z).leads hR fun _ _ _ _ => trivial
  | 1, hp =>
    obtain rfl := Option.some.inj hp
    exact (hlink y).leads hR fun _ _ _ _ => trivial

end Dropped

section Main

variable {es : List OrderCreatedEvent}

lemma oneEach_of_indexed (hs : Indexed I es (s, ())) (hall : ∀ e ∈ es, e.orderId ∈ s.gateways) :
    OneEach es s := by
  refine ⟨fun e he => ?_, fun g hg => ?_⟩
  · have hcount : (s.lockOrders.select fun o => o.gatewayId = e.orderId).length =
        s.gateways.count e.orderId := by
      rw [Table.select, ← List.countP_eq_length_filter, Store.gateways, List.count, List.countP_map]
      rfl
    rw [hcount]
    exact List.count_eq_one_of_mem hs.nodup (hall e he)
  · obtain ⟨o, ho, rfl⟩ := List.mem_map.1 hg
    obtain ⟨e, he, fields, hf, hident⟩ := hs.from_events o ho
    rw [gatewayId_of_ident hident, (accepted_fields hf).1]
    exact List.mem_map_of_mem he

variable {b : OrderCreatedEvent}

lemma OneEach.mem_gateways (h : OneEach es s) (he : e ∈ es) : e.orderId ∈ s.gateways := by
  obtain ⟨o, ho⟩ := List.length_pos_iff_exists_mem.1 ((h.1 e he).symm ▸ one_pos)
  obtain ⟨hmem, hid⟩ := List.mem_filter.1 ho
  exact of_decide_eq_true hid ▸ List.mem_map_of_mem hmem

lemma deliver_dropped (hvalid : ∀ e ∈ es, (I.accepted e).isSome) (he : e ∈ es)
    (hids : ∀ a ∈ es, ∀ b ∈ es, a.orderId = b.orderId → a = b) (schedule : List ℕ)
    (batches : List Batch) (hbatches : ∀ b ∈ batches, ∀ e ∈ b.events.rows, e ∈ es)
    (hs : Dropped I e (s, ())) :
    Dropped I e ((deliver I schedule batches).after CreationWrite.exec s, ()) := by
  have hR := dropped_rely I e
  have hrun : Leads CreationWrite.exec noGhost (fun _ _ => True) (Dropped I e) (Elsewhere e)
      (fun _ _ => ∀ b ∈ batches, ∀ a ∈ b.events.rows, True) (deliver I schedule batches)
      (s, ()) := by
    refine leads_interleave_map hR schedule hs fun b hb => ?_
    rw [Batch.process_eq]
    refine leads_interleave_map hR b.schedule hs fun a ha => ?_
    have hmem := hbatches b hb a ha
    exact createLockPaymentOrder_dropped (hvalid a hmem)
      (or_iff_not_imp_left.2 fun hne h => hne (hids a hmem e he h)) _
  rw [← watched_eq_after]
  exact (hrun.watched hR hs).1

def Batch.single (e : OrderCreatedEvent) : Batch where
  events := ⟨[e], List.nodup_singleton _⟩
  schedule := []
  background _ := []

lemma deliver_nil_after (b : Batch) (bs : List Batch) (s : Store) :
    (deliver I [] (b :: bs)).after CreationWrite.exec s =
      (deliver I [] bs).after CreationWrite.exec ((b.process I).after CreationWrite.exec s) := by
  simp only [deliver, interleave, List.map_cons, forEach, after_bind, id]

lemma dropped_of_shared (hab : a.orderId ≠ b.orderId) (htx : a.txHash = b.txHash)
    (hvalid : (I.accepted a).isSome) (hs : Fresh [a] s) :
    Dropped I b (((Batch.single a).process I).after CreationWrite.exec s, ()) := by
  have hrun : (deliver I [] [.single a]).after CreationWrite.exec s =
      ((Batch.single a).process I).after CreationWrite.exec s := by
    rw [deliver_nil_after]
    exact after_ret _ _
  obtain ⟨hinv, hall⟩ := deliver_after (by simp) (by simp) (by simp) (by simpa using hvalid)
    [.single a] (by simp [Batch.single]) [] hs
  rw [hrun] at hinv hall
  have hmem := hall (.single a) (by simp) a (by simp [Batch.single])
  constructor
  · obtain ⟨o, ho, -⟩ := List.mem_map.1 hmem
    obtain ⟨e, he, fields, hf, hident⟩ := hinv.from_events o ho
    obtain rfl := List.mem_singleton.1 he
    obtain ⟨-, hftx, -, hnetwork, -⟩ := accepted_fields hf
    have hotx : o.txHash = b.txHash :=
      (congrArg (fun k => k.1.1.2.2.1) hident).trans (hftx.trans htx)
    have honetwork : o.token.network = I.network :=
      (congrArg (fun k => k.2.2.network) hident).trans hnetwork
    exact List.any_eq_true.2 ⟨o, ho, by simp [hotx, honetwork]⟩
  · intro hb
    obtain ⟨o, ho, hid⟩ := List.mem_map.1 hb
    obtain ⟨e, he, fields, hf, hident⟩ := hinv.from_events o ho
    obtain rfl := List.mem_singleton.1 he
    exact hab ((accepted_fields hf).1 ▸ (gatewayId_of_ident hident).symm.trans hid)

lemma not_oneEach_of_shared (ha : a ∈ es) (hb : b ∈ es)
    (hids : ∀ a ∈ es, ∀ b ∈ es, a.orderId = b.orderId → a = b) (hab : a ≠ b)
    (htx : a.txHash = b.txHash) (hvalid : ∀ e ∈ es, (I.accepted e).isSome) (hs : Fresh es s) :
    ¬ OneEach es ((deliver I [] (.single a :: es.map .single)).after CreationWrite.exec s) := by
  intro hone
  rw [deliver_nil_after] at hone
  have hstart := dropped_of_shared (I := I) (fun h => hab (hids a ha b hb h)) htx (hvalid a ha)
    ⟨hs.lockOrders, by simpa using hs.logs a ha⟩
  have hend := (deliver_dropped (fun e he => hvalid e he) hb hids [] (es.map .single)
    (fun c hc e he => ?_) hstart).2
  · exact hend (hone.mem_gateways hb)
  · obtain ⟨e', he', rfl⟩ := List.mem_map.1 hc
    rwa [List.mem_singleton.1 he]

theorem oneEach_iff_distinct_transactions (I : Indexer) (es : List OrderCreatedEvent) (s : Store)
    (hvalid : ∀ e ∈ es, (I.accepted e).isSome) (hids : (es.map OrderCreatedEvent.orderId).Nodup)
    (hhashes : (es.map OrderCreatedEvent.messageHash).Nodup) (hs : Fresh es s) :
    (∀ schedule batches, Covers es batches →
      OneEach es ((deliver I schedule batches).after CreationWrite.exec s)) ↔
      (es.map OrderCreatedEvent.txHash).Nodup := by
  have hnodup : es.Nodup := List.Nodup.of_map _ hids
  rw [List.nodup_map_iff_inj_on hnodup] at hids hhashes ⊢
  constructor
  · intro h a ha b hb htx
    by_contra hab
    refine not_oneEach_of_shared ha hb hids hab htx hvalid hs (h [] _ fun e => ?_)
    constructor
    · exact fun he =>
        ⟨.single e, List.mem_cons_of_mem _ (List.mem_map_of_mem he), List.mem_singleton_self e⟩
    rintro ⟨c, hc, he⟩
    rcases List.mem_cons.1 hc with rfl | hc
    · rwa [List.mem_singleton.1 he]
    · obtain ⟨e', he', rfl⟩ := List.mem_map.1 hc
      rwa [List.mem_singleton.1 he]
  · intro htxs schedule batches hcovers
    obtain ⟨hinv, hall⟩ := deliver_after hids htxs hhashes hvalid batches
      (fun b hb e he => (hcovers e).2 ⟨b, hb, he⟩) schedule hs
    refine oneEach_of_indexed hinv fun e he => ?_
    obtain ⟨b, hb, hmem⟩ := (hcovers e).1 he
    exact hall b hb e hmem

def oneTransaction : Batch where
  events := ⟨[Sample.createdEvent "0x1" "g1" "m1", Sample.createdEvent "0x1" "g2" "m2"], by decide⟩
  schedule := []
  background _ := []

theorem second_created_event_dropped :
    (∀ e ∈ oneTransaction.events.rows, (Sample.indexer.accepted e).isSome) ∧
      (oneTransaction.events.rows.map OrderCreatedEvent.messageHash).Nodup ∧
      ¬ OneEach oneTransaction.events.rows
        ((deliver Sample.indexer [] [oneTransaction]).after CreationWrite.exec .empty) := by
  have hvalid : ∀ e ∈ oneTransaction.events.rows, (Sample.indexer.accepted e).isSome := by decide +kernel
  have hgateways : ((deliver Sample.indexer [] [oneTransaction]).after CreationWrite.exec .empty).gateways =
      ["g1"] := by decide +kernel
  refine ⟨hvalid, by decide, fun h => ?_⟩
  have hmem := h.mem_gateways (e := Sample.createdEvent "0x1" "g2" "m2") (by decide)
  rw [hgateways] at hmem
  revert hmem
  decide

theorem oneEach_two_transactions :
    OneEach [Sample.createdEvent "0x1" "g1" "m1", Sample.createdEvent "0x2" "g2" "m2"]
      ((deliver Sample.indexer [0, 1, 1, 0]
        [.single (Sample.createdEvent "0x1" "g1" "m1"), .single (Sample.createdEvent "0x2" "g2" "m2"),
          .single (Sample.createdEvent "0x1" "g1" "m1"), .single (Sample.createdEvent "0x2" "g2" "m2")]).after
        CreationWrite.exec .empty) := by
  have hvalid : ∀ e ∈ [Sample.createdEvent "0x1" "g1" "m1", Sample.createdEvent "0x2" "g2" "m2"],
      (Sample.indexer.accepted e).isSome := by decide +kernel
  refine (oneEach_iff_distinct_transactions Sample.indexer _ .empty hvalid (by decide) (by decide)
    ⟨rfl, by decide⟩).2 (by decide) _ _ fun e => ?_
  simp only [Batch.single, List.mem_cons, List.not_mem_nil, or_false, exists_eq_or_imp,
    exists_eq_left]
  tauto

end Main

end Stablenode.OneLockOrder
