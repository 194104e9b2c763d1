import Stablenode.GatewayCalls

/-! Settlement and refund when database calls fail: which rows an error leaves as they were. -/
namespace Stablenode.GatewayCalls

open BalanceManagement Proc

section Statements

variable (st : TxStatement) (s : Store) (d : Session)

lemma TxStatement.exec_setBalance (provider currency : String) (b : Balance) :
    st.exec (s.setBalance provider currency b) = (st.exec s).setBalance provider currency b := by
  cases st with
  | updateLog entry => rfl
  | createLog entry => rfl
  | updateLockOrders event log =>
    rcases hsel : s.lockOrders.select event.selects with _ | ⟨o, _ | ⟨o', os⟩⟩ <;>
      simp only [exec, Store.linkLog, Store.setBalance, hsel] <;> rfl
  | updatePaymentOrders c log =>
    rcases hsel : s.paymentOrders.select c.selects with _ | ⟨o, _ | ⟨o', os⟩⟩ <;>
      simp only [exec, linkPaymentLog, Store.setBalance, hsel] <;> rfl

lemma Session.view_setBalance (provider currency : String) (b : Balance) :
    Session.view { d with store := d.store.setBalance provider currency b } =
      d.view.setBalance provider currency b := by
  obtain ⟨s, tx⟩ := d
  simp only [view]
  induction tx generalizing s with
  | nil => rfl
  | cons st tx ih => rw [List.foldl_cons, st.exec_setBalance, ih, List.foldl_cons]

end Statements

variable {provider currency : String} {amount : ℚ}

namespace StatusUpdate

variable (U : StatusUpdate) (fails : CallName → Bool) (s : Store)

def outcome : Except GatewayFailure Unit × Session :=
  U.run.outcomeIf GatewayCall.exec (fun call => fails call.name) ⟨s, []⟩

def found : Option PaymentOrder := (s.paymentOrderOf U.messageHash U.entry.network).toOption

def isNew : Bool := ¬ s.transactionLogs.rows.any U.entry.isLog

def logStatements : List TxStatement :=
  if U.isNew s then [.updateLog U.entry, .createLog U.entry] else [.updateLog U.entry]

def newLog : Option ℕ :=
  if U.isNew s then some ((TxStatement.updateLog U.entry).exec s).transactionLogs.fresh else none

def HaltsEarly : Prop :=
  (fails .fetchOrder = true ∨
    s.paymentOrderOf U.messageHash U.entry.network = .error .notSingular ∨ fails .begin = true) ∨
  (fails .updateLog = true ∨ U.isNew s = true ∧ fails .createLog = true) ∨
  (fails .updateLockOrder = true ∨ ∀ event, U.event = some event →
    U.isNew s = true ∧ 1 < (s.lockOrders.select event.selects).length)

def CommitFails : Prop :=
  (∃ c, (U.found s).bind U.change = some c ∧
    (fails .updatePaymentOrder = true ∨
      (U.isNew s = true ∧ 1 < (s.paymentOrders.select c.selects).length) ∨
      s.paymentUpdateRaises c.selects c.apply = true)) ∨
  fails .commit = true

def lockOrdersAfter (event : GatewayEvent) (s : Store) : Table LockPaymentOrder.id :=
  (s.updateLockOrders event.selects
    (fun o =>
      { o with
        status := event.lockOrderStatus
        blockNumber := event.blockNumber
        txHash := event.txHash })
    event.updated_id).lockOrders

structure BalanceEffect where
  writes : Balance → ℚ → Bool
  newRow : Balance → ℚ → Balance

def BalanceEffect.apply (E : BalanceEffect) (s : Store) (provider currency : String)
    (amount : ℚ) : Store :=
  match s.balance provider currency with
  | none => s
  | some b => if E.writes b amount then s.setBalance provider currency (E.newRow b amount) else s

variable {E : BalanceEffect} {event : GatewayEvent}

lemma BalanceEffect.apply_of_skipped {s : Store}
    (h : ∀ b, s.balance provider currency = some b → E.writes b amount = false) :
    E.apply s provider currency amount = s := by
  rw [apply]
  cases hb : s.balance provider currency with
  | none => rfl
  | some b => exact if_neg (by simp [h b hb])

lemma BalanceEffect.apply_of_writes {s : Store} {b : Balance}
    (hb : s.balance provider currency = some b) (h : E.writes b amount = true) :
    E.apply s provider currency amount = s.setBalance provider currency (E.newRow b amount) := by
  rw [apply, hb]
  exact if_pos h

def HasEffect (E : BalanceEffect) : Prop :=
  ∀ provider currency amount d,
    ((U.balanceStep provider currency amount).outcomeIf GatewayCall.exec
      (fun call => fails call.name) d).2 =
        { d with store := E.apply d.store provider currency amount }

def balanced (E : BalanceEffect) (event : GatewayEvent) (s : Store) : Store :=
  if fails .queryLockOrder then s
  else
    match s.balanceEdges event.selects with
    | none => s
    | some (provider, currency, amount) => E.apply s provider currency amount

def Stopped (out : Except GatewayFailure Unit × Session) : Prop :=
  ∃ e, e ≠ .webhook ∧ out.1 = .error e ∧ out.2.store = s

def pastCommit : Except GatewayFailure Unit → Bool
  | .ok _ | .error .webhook => true
  | _ => false

def notified (paymentOrder : Option PaymentOrder) (t : Store) : Store :=
  match paymentOrder.filter U.notifies with
  | none => t
  | some o =>
    let entity := o.entity (U.change o)
    if fails .webhook then t
    else (OrderWrite.call (.paymentOrderWebhook entity.1 entity.2)).exec t

lemma notified_frame (paymentOrder : Option PaymentOrder) (t : Store) :
    ∃ calls, U.notified fails paymentOrder t = { t with calls := calls } := by
  rw [notified]
  split
  · exact ⟨_, rfl⟩
  · split_ifs <;> exact ⟨_, rfl⟩

def Committed (paymentOrder : Option PaymentOrder) (t : Store)
    (out : Except GatewayFailure Unit × Session) : Prop :=
  pastCommit out.1 = true ∧ out.2.store = U.notified fails paymentOrder t

section Stages

variable {U fails s}

lemma outcome_of_fetch_fails (h : fails .fetchOrder = true ∨
    s.paymentOrderOf U.messageHash U.entry.network = .error .notSingular ∨ fails .begin = true) :
    Stopped s (U.outcome fails s) := by
  rw [outcome, run, outcomeIf_attempt]
  split_ifs with hfetch
  · exact ⟨.fetchOrder, nofun, rfl, rfl⟩
  have hrest := h.resolve_left hfetch
  split
  · exact ⟨.fetchOrder, nofun, rfl, rfl⟩
  next hfound =>
  have hbegin := hrest.resolve_left hfound
  rw [outcomeIf_attempt]
  simp only [GatewayCall.name, hbegin, if_true]
  exact ⟨.transaction, nofun, rfl, rfl⟩

lemma outcome_of_fetched (h : ¬ (fails .fetchOrder = true ∨
    s.paymentOrderOf U.messageHash U.entry.network = .error .notSingular ∨ fails .begin = true)) :
    U.outcome fails s = (U.updateLogs (U.found s)).outcomeIf GatewayCall.exec
      (fails ·.name) ⟨s, []⟩ := by
  obtain ⟨hfetch, hfound, hbegin⟩ : fails .fetchOrder ≠ true ∧ _ ∧ fails .begin ≠ true := by
    simpa only [not_or] using h
  rw [outcome, run, outcomeIf_attempt, if_neg (by exact hfetch)]
  split
  · contradiction
  · rw [outcomeIf_attempt, if_neg (by exact hbegin)]
    rfl

variable {paymentOrder : Option PaymentOrder} {d : Session}

lemma updateLogs_of_fails (h : fails .updateLog = true ∨ U.isNew s = true ∧ fails .createLog = true)
    :
    Stopped s ((U.updateLogs paymentOrder).outcomeIf GatewayCall.exec (fails ·.name) ⟨s, []⟩) := by
  rw [updateLogs, outcomeIf_attempt]
  split_ifs with hupdate hlog
  · exact ⟨.update, nofun, rfl, rfl⟩
  · obtain ⟨hnew, -⟩ := h.resolve_left hupdate
    exact absurd hlog (by simpa [isNew, Session.view] using hnew)
  · obtain ⟨-, hcreate⟩ := h.resolve_left hupdate
    rw [outcomeIf_attempt, if_pos (by exact hcreate)]
    exact ⟨.create, nofun, rfl, rfl⟩

lemma updateLogs_of_succeeds
    (h : ¬ (fails .updateLog = true ∨ U.isNew s = true ∧ fails .createLog = true)) :
    (U.updateLogs paymentOrder).outcomeIf GatewayCall.exec (fails ·.name) ⟨s, []⟩ =
      (U.updateAggregator paymentOrder (U.newLog s)).outcomeIf GatewayCall.exec
        (fails ·.name) ⟨s, U.logStatements s⟩ := by
  rw [not_or, not_and] at h
  obtain ⟨hupdate, hcreate⟩ := h
  rw [updateLogs, outcomeIf_attempt, if_neg (by exact hupdate), newLog, logStatements]
  cases hnew : U.isNew s with
  | false =>
    have hlog : s.transactionLogs.rows.any U.entry.isLog = true := by simpa [isNew] using hnew
    rw [if_pos (by exact hlog)]
    rfl
  | true =>
    have hlog : ¬ s.transactionLogs.rows.any U.entry.isLog = true := by simpa [isNew] using hnew
    rw [if_neg (by exact hlog), outcomeIf_attempt, if_neg (by exact hcreate hnew)]
    rfl

lemma exists_view (U : StatusUpdate) (s : Store) (event : GatewayEvent) (log : Option ℕ) :
    ∃ logs, Session.view ⟨s, U.logStatements s ++ [.updateLockOrders event log]⟩ =
      { s with
        transactionLogs := logs
        lockOrders := lockOrdersAfter event s } := by
  obtain ⟨logs, hlogs⟩ : ∃ logs, Session.view ⟨s, U.logStatements s⟩ =
      { s with transactionLogs := logs } := by
    rw [logStatements]
    split_ifs <;> exact ⟨_, rfl⟩
  rw [Session.view] at hlogs ⊢
  obtain ⟨logs', hlogs'⟩ :=
    Store.linkLog_frame { s with transactionLogs := logs } log event.selects
  rw [List.foldl_append, hlogs, List.foldl_cons, TxStatement.exec, hlogs']
  exact ⟨logs', rfl⟩

lemma newLog_isSome (U : StatusUpdate) (s : Store) : (U.newLog s).isSome = U.isNew s := by
  rw [newLog]
  cases U.isNew s <;> rfl

lemma updateLockOrders_refused_iff (U : StatusUpdate) (s : Store) (event : GatewayEvent) :
    (TxStatement.updateLockOrders event (U.newLog s)).refused
        (Session.view ⟨s, U.logStatements s⟩) = true ↔
      U.isNew s = true ∧ 1 < (s.lockOrders.select event.selects).length := by
  have hview : (Session.view ⟨s, U.logStatements s⟩).lockOrders = s.lockOrders := by
    rw [logStatements]
    split_ifs <;> rfl
  rw [TxStatement.refused, hview, newLog_isSome, decide_eq_true_eq]

lemma updateAggregator_of_fails (h : fails .updateLockOrder = true ∨ ∀ event, U.event = some event →
      U.isNew s = true ∧ 1 < (s.lockOrders.select event.selects).length) :
    Stopped s ((U.updateAggregator paymentOrder (U.newLog s)).outcomeIf GatewayCall.exec
      (fails ·.name) ⟨s, U.logStatements s⟩) := by
  rw [updateAggregator]
  cases hevent : U.event with
  | none => exact ⟨.splitOrderId, nofun, rfl, rfl⟩
  | some event =>
    rw [outcomeIf_attempt]
    by_cases hupdate : fails .updateLockOrder = true
    · rw [if_pos (by exact hupdate)]
      exact ⟨.aggregator, nofun, rfl, rfl⟩
    obtain ⟨hnew, hmany⟩ := h.resolve_left hupdate event hevent
    have hrefused := (updateLockOrders_refused_iff U s event).2 ⟨hnew, hmany⟩
    rw [if_neg (by exact hupdate)]
    simp only [if_pos hrefused, GatewayCall.exec]
    exact ⟨.aggregator, nofun, rfl, rfl⟩

lemma balanceEdges_after (event : GatewayEvent) (s : Store) (logs : Table TransactionLog.id) :
    Store.balanceEdges { s with
        transactionLogs := logs
        lockOrders := lockOrdersAfter event s } event.selects =
      s.balanceEdges event.selects := by
  let record (o : LockPaymentOrder) : LockPaymentOrder :=
    { o with
      status := event.lockOrderStatus
      blockNumber := event.blockNumber
      txHash := event.txHash
      updatedAt := s.now }
  have hselects : ∀ o, event.selects (record o) = event.selects o := by
    intro o
    cases event <;> rfl
  have hselect : (lockOrdersAfter event s).select event.selects =
      (s.lockOrders.select event.selects).map record :=
    s.lockOrders.select_update_self event.selects record (fun _ => rfl) hselects
  rw [Store.balanceEdges, Store.balanceEdges, hselect]
  rcases s.lockOrders.select event.selects with _ | ⟨o, _ | ⟨o', os⟩⟩ <;> rfl

lemma updateAggregator_of_succeeds (hE : U.HasEffect fails E) (hevent : U.event = some event)
    (hupdate : ¬ fails .updateLockOrder = true)
    (hlink : ¬ (U.isNew s = true ∧ 1 < (s.lockOrders.select event.selects).length))
    (paymentOrder : Option PaymentOrder) :
    (U.updateAggregator paymentOrder (U.newLog s)).outcomeIf GatewayCall.exec
        (fails ·.name) ⟨s, U.logStatements s⟩ =
      (U.updateSender paymentOrder (U.newLog s)).outcomeIf GatewayCall.exec (fails ·.name)
        ⟨balanced fails E event s,
          U.logStatements s ++ [.updateLockOrders event (U.newLog s)]⟩ := by
  have haccepted := mt (updateLockOrders_refused_iff U s event).1 hlink
  obtain ⟨logs, hview⟩ := exists_view U s event (U.newLog s)
  rw [updateAggregator, hevent]
  dsimp only
  rw [outcomeIf_attempt, if_neg (by exact hupdate), if_neg haccepted, GatewayCall.exec,
    if_neg haccepted, outcomeIf_attempt, balanced]
  by_cases hquery : fails .queryLockOrder = true
  · rw [if_pos (by exact hquery), if_pos hquery]
  rw [if_neg (by exact hquery), if_neg hquery, hview, balanceEdges_after]
  cases s.balanceEdges event.selects with
  | none => rfl
  | some e =>
    rw [outcomeIf_bind, hE]
    rfl

lemma finish_of_fails (h : fails .commit = true) (paymentOrder : Option PaymentOrder)
    (d : Session) :
    Stopped d.store ((U.finish paymentOrder).outcomeIf GatewayCall.exec (fails ·.name) d) := by
  rw [finish, outcomeIf_attempt, if_pos (by exact h)]
  exact ⟨.commit, nofun, rfl, rfl⟩

lemma finish_of_succeeds (h : ¬ fails .commit = true) (paymentOrder : Option PaymentOrder)
    (d : Session) :
    U.Committed fails paymentOrder d.view ((U.finish paymentOrder).outcomeIf GatewayCall.exec
      (fails ·.name) d) := by
  rw [finish, outcomeIf_attempt, if_neg (by exact h), Committed, notified]
  cases paymentOrder.filter U.notifies with
  | none => exact ⟨rfl, rfl⟩
  | some o =>
    dsimp only
    rw [outcomeIf_attempt]
    split_ifs with hwebhook hwebhook' hwebhook'
    · exact ⟨rfl, rfl⟩
    · exact absurd hwebhook hwebhook'
    · exact absurd hwebhook' hwebhook
    · exact ⟨rfl, rfl⟩

lemma updatePaymentOrders_refused_iff (hd : d.view.paymentOrders = s.paymentOrders)
    (c : PaymentOrderChange) :
    (TxStatement.updatePaymentOrders c (U.newLog s)).refused d.view = true ↔
      (U.isNew s = true ∧ 1 < (s.paymentOrders.select c.selects).length) ∨
        s.paymentUpdateRaises c.selects c.apply = true := by
  rw [TxStatement.refused, Store.paymentUpdateRaises, hd, newLog_isSome, decide_eq_true_eq,
    Store.paymentUpdateRaises]

lemma updateSender_of_fails (hd : d.view.paymentOrders = s.paymentOrders)
    (h : U.CommitFails fails s) :
    Stopped d.store ((U.updateSender (U.found s) (U.newLog s)).outcomeIf GatewayCall.exec
      (fails ·.name) d) := by
  rw [updateSender]
  cases hc : (U.found s).bind U.change with
  | none =>
    have hcommit : fails .commit = true := h.resolve_left (by simp [hc])
    exact finish_of_fails hcommit _ d
  | some c =>
    dsimp only
    rw [outcomeIf_attempt]
    split_ifs with hupdate hrefused
    · exact ⟨.sender, nofun, rfl, rfl⟩
    · rw [GatewayCall.exec, if_pos hrefused]
      exact ⟨.sender, nofun, rfl, rfl⟩
    all_goals
      have hcommit : fails .commit = true := by
        refine h.resolve_left ?_
        rintro ⟨c', hc', hfails⟩
        obtain rfl := Option.some.inj (hc.symm.trans hc')
        rcases hfails with hfails | hfails
        · exact hupdate hfails
        · exact hrefused ((updatePaymentOrders_refused_iff hd c).2 hfails)
      rw [GatewayCall.exec, if_neg hrefused]
    · simp only [outcomeIf_ignore, GatewayCall.exec, ite_self]
      exact finish_of_fails hcommit _ { d with tx := _ }
    · exact finish_of_fails hcommit _ { d with tx := _ }

lemma updateSender_of_succeeds (hd : d.view.paymentOrders = s.paymentOrders)
    (h : ¬ U.CommitFails fails s) :
    U.Committed fails (U.found s)
      (Session.view { d with
        tx := d.tx ++ (((U.found s).bind U.change).map fun c =>
          TxStatement.updatePaymentOrders c (U.newLog s)).toList })
      ((U.updateSender (U.found s) (U.newLog s)).outcomeIf GatewayCall.exec (fails ·.name) d) := by
  rw [CommitFails, not_or] at h
  obtain ⟨hsender, hcommit⟩ := h
  rw [updateSender]
  cases hc : (U.found s).bind U.change with
  | none => simpa using finish_of_succeeds hcommit (U.found s) d
  | some c =>
    have hupdate : ¬ fails .updatePaymentOrder = true := fun hf => hsender ⟨c, hc, .inl hf⟩
    have haccepted := mt (updatePaymentOrders_refused_iff hd c).1 fun hf =>
      hsender ⟨c, hc, .inr hf⟩
    dsimp only
    rw [outcomeIf_attempt, if_neg (by exact hupdate), if_neg haccepted, GatewayCall.exec,
      if_neg haccepted]
    split_ifs
    · simp only [outcomeIf_ignore, GatewayCall.exec, ite_self]
      exact finish_of_succeeds hcommit _ { d with tx := _ }
    · exact finish_of_succeeds hcommit _ { d with tx := _ }

lemma exists_final (U : StatusUpdate) (s : Store) (event : GatewayEvent) (log : Option ℕ)
    (change : Option PaymentOrderChange) :
    ∃ logs, Session.view ⟨s, U.logStatements s ++ [.updateLockOrders event log] ++
        (change.map fun c => TxStatement.updatePaymentOrders c log).toList⟩ =
      { s with
        transactionLogs := logs
        lockOrders := lockOrdersAfter event s
        paymentOrders := (s.changePaymentOrders change).paymentOrders } := by
  obtain ⟨logs, hview⟩ := exists_view U s event log
  rw [Session.view] at hview ⊢
  rw [List.foldl_append, hview]
  cases change with
  | none => exact ⟨logs, rfl⟩
  | some c =>
    simp only [Option.map_some, Option.toList_some, List.foldl_cons, List.foldl_nil,
      TxStatement.exec, linkPaymentLog]
    split <;> exact ⟨_, rfl⟩

lemma balanced_eq (fails : CallName → Bool) (E : BalanceEffect) (event : GatewayEvent) (s : Store) :
    balanced fails E event s = s ∨
      ∃ provider currency b, balanced fails E event s = s.setBalance provider currency b := by
  rw [balanced]
  split
  · exact .inl rfl
  split
  · exact .inl rfl
  rw [BalanceEffect.apply]
  split
  · exact .inl rfl
  · split
    · exact .inr ⟨_, _, _, rfl⟩
    · exact .inl rfl

lemma view_balanced (fails : CallName → Bool) (E : BalanceEffect) (event : GatewayEvent)
    {tx : List TxStatement} {t : Store}
    (h : Session.view ⟨s, tx⟩ = t) (ht : t.balances = s.balances) (hnow : t.now = s.now) :
    Session.view ⟨balanced fails E event s, tx⟩ =
      { t with balances := (balanced fails E event s).balances } := by
  rcases balanced_eq fails E event s with hs | ⟨provider, currency, b, hs⟩
  · rw [hs, h, ← ht]
  · rw [hs, Session.view_setBalance ⟨s, tx⟩, h]
    simp only [Store.setBalance, ht, hnow]

def statements (U : StatusUpdate) (s : Store) (event : GatewayEvent) : List TxStatement :=
  U.logStatements s ++ [.updateLockOrders event (U.newLog s)] ++
    (((U.found s).bind U.change).map fun c =>
      TxStatement.updatePaymentOrders c (U.newLog s)).toList

lemma outcome_of_late (hE : U.HasEffect fails E) (h : ¬ U.HaltsEarly fails s) :
    ∃ event, U.event = some event ∧
      ¬ (U.isNew s = true ∧ 1 < (s.lockOrders.select event.selects).length) ∧
      (U.CommitFails fails s → Stopped (balanced fails E event s) (U.outcome fails s)) ∧
      (¬ U.CommitFails fails s → U.Committed fails (U.found s)
        (Session.view ⟨balanced fails E event s, U.statements s event⟩) (U.outcome fails s)) := by
  obtain ⟨hfetched, hrest⟩ := not_or.1 h
  obtain ⟨hlogs, haggregator⟩ := not_or.1 hrest
  obtain ⟨hupdate, hevent⟩ := not_or.1 haggregator
  obtain ⟨event, hlink⟩ := not_forall.1 hevent
  obtain ⟨hevent, hlink⟩ := Classical.not_imp.1 hlink
  obtain ⟨logs, hview⟩ := exists_view U s event (U.newLog s)
  have hpayments : (Session.view ⟨balanced fails E event s,
      U.logStatements s ++ [.updateLockOrders event (U.newLog s)]⟩).paymentOrders =
        s.paymentOrders := by
    rw [view_balanced fails E event hview rfl rfl]
  rw [outcome_of_fetched hfetched, updateLogs_of_succeeds hlogs,
    updateAggregator_of_succeeds hE hevent hupdate hlink]
  exact ⟨event, hevent, hlink, updateSender_of_fails hpayments, updateSender_of_succeeds hpayments⟩

lemma outcome_of_early (h : U.HaltsEarly fails s) : Stopped s (U.outcome fails s) := by
  by_cases hfetch : fails .fetchOrder = true ∨
      s.paymentOrderOf U.messageHash U.entry.network = .error .notSingular ∨ fails .begin = true
  · exact outcome_of_fetch_fails hfetch
  rw [outcome_of_fetched hfetch]
  by_cases hlogs : fails .updateLog = true ∨ U.isNew s = true ∧ fails .createLog = true
  · exact updateLogs_of_fails hlogs
  · rw [updateLogs_of_succeeds hlogs]
    exact updateAggregator_of_fails ((h.resolve_left hfetch).resolve_left hlogs)

end Stages

structure Unchanged (s t : Store) : Prop where
  lockOrders : t.lockOrders = s.lockOrders
  paymentOrders : t.paymentOrders = s.paymentOrders
  transactionLogs : t.transactionLogs = s.transactionLogs
  balances : t.balances = s.balances

structure Applied (newRow : Balance → ℚ → Balance) (s t : Store) : Prop where
  lockOrders : ∃ event, U.event = some event ∧ t.lockOrders = lockOrdersAfter event s
  paymentOrders :
    t.paymentOrders = (s.changePaymentOrders ((U.found s).bind U.change)).paymentOrders
  balances : ∀ event provider currency amount, U.event = some event →
    s.balanceEdges event.selects = some (provider, currency, amount) →
    t.balance provider currency = (s.balance provider currency).map (newRow · amount)

def Atomic (newRow : Balance → ℚ → Balance) (s : Store)
    (out : Except GatewayFailure Unit × Session) : Prop :=
  if pastCommit out.1 then U.Applied newRow s out.2.store else Unchanged s out.2.store

variable {U fails s}

lemma Stopped.pastCommit {t : Store} {out : Except GatewayFailure Unit × Session}
    (h : Stopped t out) : pastCommit out.1 = false := by
  obtain ⟨e, he, hout, -⟩ := h
  rw [hout]
  cases e <;> first | rfl | exact absurd rfl he

section Rows

variable {b : Balance}

lemma forall_row_iff (hedges : s.balanceEdges event.selects = some (provider, currency, amount))
    (hb : s.balance provider currency = some b) (Q : String → String → ℚ → Balance → Prop) :
    (∀ p c a b', s.balanceEdges event.selects = some (p, c, a) → s.balance p c = some b' →
      Q p c a b') ↔ Q provider currency amount b := by
  refine ⟨fun h => h _ _ _ _ hedges hb, ?_⟩
  rintro h p c a b' hedges' hb'
  obtain ⟨rfl, rfl, rfl⟩ : provider = p ∧ currency = c ∧ amount = a := by
    simpa using hedges.symm.trans hedges'
  obtain rfl := Option.some.inj (hb.symm.trans hb')
  exact h

lemma balanced_of_row (hedges : s.balanceEdges event.selects = some (provider, currency, amount))
    (hb : s.balance provider currency = some b) :
    balanced fails E event s =
      if fails .queryLockOrder = true ∨ E.writes b amount = false then s
      else s.setBalance provider currency (E.newRow b amount) := by
  rw [balanced, hedges]
  dsimp only
  rw [BalanceEffect.apply, hb]
  cases fails .queryLockOrder <;> cases hwrites : E.writes b amount <;> simp [hwrites]

lemma balanced_of_no_row (h : ∀ p c a b, s.balanceEdges event.selects = some (p, c, a) →
    s.balance p c ≠ some b) : balanced fails E event s = s := by
  rw [balanced]
  split_ifs
  · rfl
  cases hedges : s.balanceEdges event.selects with
  | none => rfl
  | some e =>
    have hnone : s.balance e.1 e.2.1 = none := Option.eq_none_iff_forall_ne_some.2 fun b =>
      h _ _ _ b hedges
    simp only [BalanceEffect.apply, hnone]

lemma unchanged_balanced_iff :
    Unchanged s (balanced fails E event s) ↔
      ∀ p c a b, s.balanceEdges event.selects = some (p, c, a) → s.balance p c = some b →
        (fails .queryLockOrder = true ∨ E.writes b a = false) ∨
          (s.setBalance p c (E.newRow b a)).balances = s.balances := by
  by_cases hrow : ∃ p c a b, s.balanceEdges event.selects = some (p, c, a) ∧ s.balance p c = some b
  · obtain ⟨p, c, a, b, hedges, hb⟩ := hrow
    rw [forall_row_iff hedges hb, balanced_of_row hedges hb]
    split_ifs with hskip
    · exact iff_of_true ⟨rfl, rfl, rfl, rfl⟩ (.inl hskip)
    · exact ⟨fun h => .inr h.balances, fun h => ⟨rfl, rfl, rfl, h.resolve_left hskip⟩⟩
  · simp only [not_exists, not_and] at hrow
    rw [balanced_of_no_row hrow]
    exact iff_of_true ⟨rfl, rfl, rfl, rfl⟩ fun p c a b hedges hb => absurd hb (hrow p c a b hedges)

lemma applied_balanced_iff :
    (∀ p c a, s.balanceEdges event.selects = some (p, c, a) →
      (balanced fails E event s).balance p c = (s.balance p c).map (E.newRow · a)) ↔
      ∀ p c a b, s.balanceEdges event.selects = some (p, c, a) → s.balance p c = some b →
        (fails .queryLockOrder = true ∨ E.writes b a = false) → E.newRow b a = b := by
  by_cases hrow : ∃ p c a b, s.balanceEdges event.selects = some (p, c, a) ∧ s.balance p c = some b
  · obtain ⟨p, c, a, b, hedges, hb⟩ := hrow
    have hone : (∀ p' c' a', s.balanceEdges event.selects = some (p', c', a') →
        (balanced fails E event s).balance p' c' = (s.balance p' c').map (E.newRow · a')) ↔
          (balanced fails E event s).balance p c = some (E.newRow b a) := by
      simp only [hedges, Option.some.injEq, Prod.mk.injEq]
      refine ⟨fun h => (h p c a ⟨rfl, rfl, rfl⟩).trans (by rw [hb]; rfl), ?_⟩
      rintro h _ _ _ ⟨rfl, rfl, rfl⟩
      rw [h, hb]
      rfl
    rw [forall_row_iff hedges hb, hone, balanced_of_row hedges hb]
    split_ifs with hskip
    · rw [hb, Option.some.injEq]
      exact ⟨fun h _ => h.symm, fun h => (h hskip).symm⟩
    · refine iff_of_true ?_ fun h => absurd h hskip
      rw [Store.balance_setBalance, if_pos rfl, hb]
      rfl
  · simp only [not_exists, not_and] at hrow
    rw [balanced_of_no_row hrow]
    refine iff_of_true (fun p c a hedges => ?_) fun p c a b hedges hb =>
      absurd hb (hrow p c a b hedges)
    rw [Option.eq_none_iff_forall_ne_some.2 fun b => hrow p c a b hedges]
    rfl

end Rows

def BalanceFollows (U : StatusUpdate) (fails : CallName → Bool) (s : Store)
    (newRow : Balance → ℚ → Balance) (skipped : Balance → ℚ → Prop) : Prop :=
  ∀ event, U.event = some event → ∀ p c a b,
    s.balanceEdges event.selects = some (p, c, a) → s.balance p c = some b →
      (U.CommitFails fails s → (fails .queryLockOrder = true ∨ skipped b a) ∨
        (s.setBalance p c (newRow b a)).balances = s.balances) ∧
      (¬ U.CommitFails fails s → (fails .queryLockOrder = true ∨ skipped b a) → newRow b a = b)

lemma balanceFollows_iff (hevent : U.event = some event) :
    U.BalanceFollows fails s E.newRow (fun b a => E.writes b a = false) ↔
      (U.CommitFails fails s → Unchanged s (balanced fails E event s)) ∧
      (¬ U.CommitFails fails s → ∀ p c a, s.balanceEdges event.selects = some (p, c, a) →
        (balanced fails E event s).balance p c = (s.balance p c).map (E.newRow · a)) := by
  rw [unchanged_balanced_iff, applied_balanced_iff, BalanceFollows]
  constructor
  · intro h
    exact ⟨fun hc p c a b hedges hb => (h event hevent p c a b hedges hb).1 hc,
      fun hc p c a b hedges hb => (h event hevent p c a b hedges hb).2 hc⟩
  · rintro ⟨hfails, hcommits⟩ event' hevent' p c a b hedges hb
    obtain rfl := Option.some.inj (hevent.symm.trans hevent')
    exact ⟨fun hc => hfails hc p c a b hedges hb, fun hc => hcommits hc p c a b hedges hb⟩

lemma atomic_iff (hE : U.HasEffect fails E) :
    U.Atomic E.newRow s (U.outcome fails s) ↔ U.HaltsEarly fails s ∨
      U.BalanceFollows fails s E.newRow fun b a => E.writes b a = false := by
  by_cases hearly : U.HaltsEarly fails s
  · have hstopped := outcome_of_early hearly
    obtain ⟨-, -, -, hstore⟩ := id hstopped
    refine iff_of_true ?_ (.inl hearly)
    rw [Atomic, hstopped.pastCommit, hstore]
    exact ⟨rfl, rfl, rfl, rfl⟩
  obtain ⟨event, hevent, -, hfails, hcommits⟩ := outcome_of_late hE hearly
  rw [or_iff_right hearly, balanceFollows_iff hevent, Atomic]
  by_cases hc : U.CommitFails fails s
  · have hstopped := hfails hc
    obtain ⟨-, -, -, hstore⟩ := id hstopped
    rw [hstopped.pastCommit, hstore, if_neg Bool.false_ne_true]
    exact ⟨fun h => ⟨fun _ => h, fun hn => absurd hc hn⟩, fun h => h.1 hc⟩
  obtain ⟨hpast, hstore⟩ := hcommits hc
  obtain ⟨logs, hfinal⟩ := exists_final U s event (U.newLog s) ((U.found s).bind U.change)
  rw [statements, view_balanced fails E event hfinal rfl rfl] at hstore
  obtain ⟨calls, hcalls⟩ := U.notified_frame fails (U.found s) _
  rw [hpast, hstore, hcalls, if_pos rfl]
  refine ⟨fun h => ⟨fun hn => absurd hn hc, fun _ p c a => h.balances event p c a hevent⟩,
    fun h => ⟨⟨event, hevent, rfl⟩, rfl, ?_⟩⟩
  intro event' p c a hevent'
  obtain rfl := Option.some.inj (hevent.symm.trans hevent')
  exact h.2 hc p c a

end StatusUpdate

section Steps

variable (fails : CallName → Bool)

def SettleSkipped (fails : CallName → Bool) : Prop :=
  fails .getBalance = true ∨ fails .findBalance = true ∨ fails .updateBalance = true

def ReleaseSkipped (fails : CallName → Bool) (b : Balance) (amount : ℚ) : Prop :=
  fails .beginValidation = true ∨ fails .queryValidation = true ∨ ¬ Consistent b ∨
    fails .commitValidation = true ∨ fails .beginRelease = true ∨ fails .queryRelease = true ∨
    ¬ AcceptsRelease b amount ∨ fails .updateRelease = true ∨ fails .commitRelease = true

instance : Decidable (SettleSkipped fails) := by
  unfold SettleSkipped
  infer_instance

instance (b : Balance) (amount : ℚ) : Decidable (ReleaseSkipped fails b amount) := by
  unfold ReleaseSkipped
  infer_instance

def settleEffect : StatusUpdate.BalanceEffect where
  writes _ _ := ¬ SettleSkipped fails
  newRow := settle

def releaseEffect : StatusUpdate.BalanceEffect where
  writes b amount := ¬ ReleaseSkipped fails b amount
  newRow := afterRelease

lemma hasEffect_settled (network : String) (event : OrderSettledEvent) (messageHash : String) :
    (settledUpdate network event messageHash).HasEffect fails (settleEffect fails) := by
  intro provider currency amount d
  change ((settleStep provider currency amount).outcomeIf _ _ d).2 = _
  by_cases hskip : SettleSkipped fails
  · rw [StatusUpdate.BalanceEffect.apply_of_skipped fun b _ => by simp [settleEffect, hskip],
      settleStep, outcomeIf_attempt]
    split_ifs with hget
    · rfl
    cases hb : d.store.balance provider currency with
    | none => rfl
    | some b =>
      dsimp only
      rw [outcomeIf_attempt]
      split_ifs with hfind hrow
      · rfl
      · have hupdate : fails .updateBalance = true :=
          (hskip.resolve_left hget).resolve_left hfind
        rw [outcomeIf_ignore, if_pos (by exact hupdate)]
        rfl
      · rfl
  · obtain ⟨hget, hfind, hupdate⟩ : ¬ fails .getBalance = true ∧ ¬ fails .findBalance = true ∧
        ¬ fails .updateBalance = true := by simpa only [SettleSkipped, not_or] using hskip
    rw [settleStep, outcomeIf_attempt, if_neg (by exact hget)]
    cases hb : d.store.balance provider currency with
    | none =>
      rw [StatusUpdate.BalanceEffect.apply_of_skipped fun b hb' => by rw [hb] at hb'; cases hb']
      rfl
    | some b =>
      have hrow : (d.store.balance provider currency).isSome = true := by rw [hb]; rfl
      rw [StatusUpdate.BalanceEffect.apply_of_writes hb (by simp [settleEffect, hskip])]
      dsimp only
      rw [outcomeIf_attempt, if_neg (by exact hfind), if_pos (by exact hrow), outcomeIf_ignore,
        if_neg (by exact hupdate)]
      rfl

lemma releaseStep_of_skipped {d : Session}
    (h : ∀ b, d.store.balance provider currency = some b → ReleaseSkipped fails b amount) :
    ((releaseStep provider currency amount).outcomeIf GatewayCall.exec (fails ·.name) d).2 = d := by
  rw [releaseStep, outcomeIf_attempt]
  split_ifs with hbegin
  · rfl
  rw [outcomeIf_attempt]
  split_ifs with hquery
  · rfl
  cases hb : d.store.balance provider currency with
  | none => simp [hb, GatewayCall.exec]
  | some b =>
    have hrest := ((h b hb).resolve_left hbegin).resolve_left hquery
    simp only [GatewayCall.exec, hb]
    by_cases hconsistent : Consistent b
    · rw [validateAndFixBalances_consistent hconsistent]
      have hrest := hrest.resolve_left (not_not.2 hconsistent)
      dsimp only
      rw [outcomeIf_attempt]
      split_ifs with hcommit
      · rfl
      rw [outcomeIf_attempt]
      split_ifs with hbegin'
      · rfl
      rw [outcomeIf_attempt]
      split_ifs with hquery'
      · rfl
      simp only [GatewayCall.exec, hb, releaseInTx_eq]
      have hrest := ((hrest.resolve_left hcommit).resolve_left hbegin').resolve_left hquery'
      split_ifs with haccepts
      · have hrest := hrest.resolve_left (not_not.2 haccepts)
        dsimp only
        rw [outcomeIf_attempt]
        split_ifs with hupdate
        · rfl
        · rw [outcomeIf_ignore, if_pos (by exact hrest.resolve_left hupdate)]
          rfl
      · rfl
    · obtain ⟨e, he⟩ := validateAndFixBalances_inconsistent hconsistent
      simp only [he, outcomeIf_ignore, GatewayCall.exec, ite_self]
      rfl

lemma releaseStep_of_succeeds {b : Balance} {d : Session}
    (hb : d.store.balance provider currency = some b) (h : ¬ ReleaseSkipped fails b amount) :
    ((releaseStep provider currency amount).outcomeIf GatewayCall.exec (fails ·.name) d).2 =
        { d with store := d.store.setBalance provider currency (afterRelease b amount) } := by
  simp only [ReleaseSkipped, not_or, not_not] at h
  obtain ⟨hbegin, hquery, hconsistent, hcommit, hbegin', hquery', haccepts, hupdate, hwrite⟩ := h
  rw [releaseStep, outcomeIf_attempt, if_neg (by exact hbegin), outcomeIf_attempt,
    if_neg (by exact hquery)]
  simp only [GatewayCall.exec, hb, validateAndFixBalances_consistent hconsistent]
  rw [outcomeIf_attempt, if_neg (by exact hcommit), outcomeIf_attempt, if_neg (by exact hbegin'),
    outcomeIf_attempt, if_neg (by exact hquery')]
  simp only [GatewayCall.exec, hb, releaseInTx_eq, if_pos haccepts]
  rw [outcomeIf_attempt, if_neg (by exact hupdate), outcomeIf_ignore, if_neg (by exact hwrite)]
  have hrow : d.store.setFunds provider currency (afterRelease b amount) =
      d.store.setBalance provider currency (afterRelease b amount) :=
    Store.setFunds_eq_setBalance hb rfl
  simp only [outcomeIf_ret, GatewayCall.exec, OrderWrite.exec, hrow]

lemma hasEffect_refunded (network : String) (event : OrderRefundedEvent) (messageHash : String) :
    (refundedUpdate network event messageHash).HasEffect fails (releaseEffect fails) := by
  intro provider currency amount d
  change ((releaseStep provider currency amount).outcomeIf _ _ d).2 = _
  by_cases hskip : ∀ b, d.store.balance provider currency = some b → ReleaseSkipped fails b amount
  · rw [releaseStep_of_skipped fails hskip, StatusUpdate.BalanceEffect.apply_of_skipped fun b hb =>
      by simp [releaseEffect, hskip b hb]]
  obtain ⟨b, hb, hskip⟩ : ∃ b, d.store.balance provider currency = some b ∧
      ¬ ReleaseSkipped fails b amount := by simpa using hskip
  rw [releaseStep_of_succeeds fails hb hskip,
    StatusUpdate.BalanceEffect.apply_of_writes hb (by simp [releaseEffect, hskip])]
  rfl

end Steps

theorem atomic_iff_balance_follows_commit (fails : CallName → Bool) (network messageHash : String)
    (s : Store) :
    (∀ event : OrderSettledEvent,
      (settledUpdate network event messageHash).Atomic settle s
          ((updateOrderStatusSettled network event messageHash).outcomeIf GatewayCall.exec
            (fun call => fails call.name) ⟨s, []⟩) ↔
        (settledUpdate network event messageHash).HaltsEarly fails s ∨
        (settledUpdate network event messageHash).BalanceFollows fails s settle
          fun _ _ => SettleSkipped fails) ∧
    ∀ event : OrderRefundedEvent,
      (refundedUpdate network event messageHash).Atomic afterRelease s
          ((updateOrderStatusRefunded network event messageHash).outcomeIf GatewayCall.exec
            (fun call => fails call.name) ⟨s, []⟩) ↔
        (refundedUpdate network event messageHash).HaltsEarly fails s ∨
        (refundedUpdate network event messageHash).BalanceFollows fails s afterRelease
          (ReleaseSkipped fails) := by
  constructor
  · intro event
    have h := StatusUpdate.atomic_iff (s := s) (hasEffect_settled fails network event messageHash)
    simp only [settleEffect, decide_eq_false_iff_not, not_not] at h
    exact h
  · intro event
    have h := StatusUpdate.atomic_iff (s := s) (hasEffect_refunded fails network event messageHash)
    simp only [releaseEffect, decide_eq_false_iff_not, not_not] at h
    exact h

def reservedStore : Store :=
  { Sample.store with balances := .single ⟨"p1", "NGN", ⟨60, 40, 100⟩, true, 0⟩ }

theorem balance_apart_from_status :
    ¬ (refundedUpdate "base" ⟨2, "0x2", "g1"⟩ "m1").Atomic afterRelease reservedStore
        ((updateOrderStatusRefunded "base" ⟨2, "0x2", "g1"⟩ "m1").outcomeIf GatewayCall.exec
          (fun call => call.name = .commit) ⟨reservedStore, []⟩) ∧
      ¬ (settledUpdate "base" ⟨2, "0x2", some 1, "g1", 100000⟩ "m1").Atomic settle reservedStore
        ((updateOrderStatusSettled "base" ⟨2, "0x2", some 1, "g1", 100000⟩ "m1").outcomeIf
          GatewayCall.exec (fun call => call.name = .updateBalance) ⟨reservedStore, []⟩) := by
  constructor
  · intro h
    rw [StatusUpdate.Atomic, if_neg (by decide +kernel)] at h
    exact absurd h.balances (by decide +kernel)
  · intro h
    rw [StatusUpdate.Atomic, if_pos (by decide +kernel)] at h
    exact absurd (h.balances (.settled 1 "g1" "base" "0x2" 2) "p1" "NGN" 40 rfl
      (by decide +kernel)) (by decide +kernel)

end Stablenode.GatewayCalls
