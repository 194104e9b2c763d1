import Stablenode.TransactionScopes

/-! Which exits leave a database transaction open, for every choice of failing calls and of the
states that calls meet. Deferred rollbacks read an error variable that inner scopes shadow. -/
namespace Stablenode.TransactionScopes

open BalanceManagement GatewayCalls Proc

variable (script : TxCall TxName Step → Option Store)

def rowRead (tx : TxName) (provider currency : String) : Option Balance :=
  (script (.step (.query (.balance tx)))).bind fun s => s.balance provider currency

def rowIn (tx : TxName) (provider currency : String) : Option Balance :=
  (script (.begin tx)).bind fun _ => rowRead script tx provider currency

def ValidationCloses (provider currency : String) : Prop :=
  ∀ b, rowIn script .validation provider currency = some b → Consistent b

def Validates (provider currency : String) : Prop :=
  (∃ b, rowIn script .validation provider currency = some b ∧ Consistent b) ∧
    Succeeds script (.commit .validation)

def ReserveCloses (provider currency : String) (amount : ℚ) : Prop :=
  ValidationCloses script provider currency ∧
    (Validates script provider currency → Succeeds script (.begin .balance) →
      ∃ b b', rowRead script .balance provider currency = some b ∧ reserveInTx b amount = .ok b' ∧
        Succeeds script (.step (.updateBalance .balance b')))

def ReleaseCloses (provider currency : String) (amount : ℚ) : Prop :=
  ValidationCloses script provider currency ∧
    (Validates script provider currency →
      ∀ b, rowIn script .balance provider currency = some b → AcceptsRelease b amount)

def OfferCloses (conf : OrderConfig) (order : OrderFields) (bucket : ProvisionBucket) : Prop :=
  ∃ s, script (.step (.order
      (.setOrderRequest order.id (orderRequestData order bucket.currency)))) = some s ∧
    (Succeeds script (.step (.order (.call (.newOrder order.providerId order.id)))) ∨
      ¬ Succeeds script (.step (.order
        (.expireOrderRequestAt order.id (s.now + conf.orderRequestValidity)))))

def SendCloses (conf : OrderConfig) (order : OrderFields) : Prop :=
  ∀ bucket b b', order.provisionBucket = some bucket →
    rowIn script .caller order.providerId bucket.currency = some b →
    reserveInTx b order.fiat = .ok b' → Succeeds script (.step (.updateBalance .caller b')) →
    OfferCloses script conf order bucket

def DepositOpens (receiveAddress : ReceiveAddress) (paymentOrder : PaymentOrder)
    (event : TokenTransferEvent) : Prop :=
  equalFold event.toAddress receiveAddress.address = true ∧
    (∃ s, script (.step (.query .countAddresses)) = some s ∧
      s.addressTaken receiveAddress event = false) ∧
    paymentOrder.txHash ≠ event.txHash ∧
    ∀ s, script (.step (.query .findLog)) = some s → s.isLogged event = false

def DepositCloses (env : PaymentEnvironment) (receiveAddress : ReceiveAddress)
    (paymentOrder : PaymentOrder) (event : TokenTransferEvent) : Prop :=
  DepositOpens script receiveAddress paymentOrder event → ∀ s, script (.begin .caller) = some s →
    (transferMatches paymentOrder event.value = false → refreshesRate s.now paymentOrder = true →
      Succeeds script (.step (.query .senderProvider)) ∧
      Succeeds script (.step (.query .institution)) ∧
      Succeeds script (.step (.query .providerRate))) ∧
    (paymentOrder.txHash = "" ∧ paymentOrder.status = .initiated) ∧
    ∃ u, depositUpdate env s.now paymentOrder event = some u ∧
      Succeeds script (.step (.depositLog u.network event)) ∧
      Succeeds script (.step (.depositUpdate paymentOrder.id event u))

def StatementsSucceed (U : StatusUpdate) (paymentOrder : Option PaymentOrder) : Prop :=
  (∃ s, script (.step (.updateLog U.entry)) = some s ∧
    (s.transactionLogs.rows.any U.entry.isLog = false →
      Succeeds script (.step (.createLog U.entry)))) ∧
  (∃ event, U.event = some event ∧ Succeeds script (.step (.updateLockOrders event))) ∧
  ∀ change, paymentOrder.bind U.change = some change →
    Succeeds script (.step (.updatePaymentOrders change))

def BalanceStepCloses (U : StatusUpdate) (closes : String → String → ℚ → Prop) : Prop :=
  ∀ event s provider currency amount, U.event = some event →
    script (.step (.query .lockOrder)) = some s →
    s.balanceEdges event.selects = some (provider, currency, amount) →
    closes provider currency amount

def UpdateCloses (U : StatusUpdate) (closes : String → String → ℚ → Prop) : Prop :=
  ∀ s, script (.step (.query .fetchOrder)) = some s →
    s.paymentOrderOf U.messageHash U.entry.network ≠ .error .notSingular →
    Succeeds script (.begin .caller) →
    StatementsSucceed script U (s.paymentOrderOf U.messageHash U.entry.network).toOption ∧
      BalanceStepCloses script U closes

def Loads (payload : FulfillLockOrderPayload) (orderID : ℕ) (f : LockOrderFulfillment)
    (order : LockPaymentOrder) (edges : Option (String × ProvisionBucket)) : Prop :=
  ∃ s, script (.step (.query .fulfillment)) = some s ∧
    ((byTxId s payload.txId = .ok f ∧ s.lockOrders.get f.order = some order ∧ edges = order.edges) ∨
      (byTxId s payload.txId = .error .notFound ∧
        Succeeds script (.step (.order (.createFulfillment orderID payload.txId payload.psp .pending "")))
        ∧ ∃ s', script (.step (.query .createdFulfillment)) = some s' ∧
          byTxId s' payload.txId = .ok f ∧ s'.lockOrders.get f.order = some order ∧ edges = none))

def FulfilmentCloses (payload : FulfillLockOrderPayload) (orderID : ℕ) (f : LockOrderFulfillment)
    (order : LockPaymentOrder) (edges : Option (String × ProvisionBucket)) : Prop :=
  (payload.validationStatus = .success → order.status ≠ .validated →
    Succeeds script (.begin .caller) →
    Succeeds script (.step (.order (.setFulfillment f.id .success none))) →
    Succeeds script (.step (.order (.createLog .orderValidated order.token.network))) →
    Succeeds script (.step (.validateOrder orderID)) → edges ≠ none) ∧
  (payload.validationStatus = .failed →
    Succeeds script (.step (.order (.setFulfillment f.id .failed (some payload.validationError)))) →
    Succeeds script (.step (.order (.fulfillUpdate orderID none))) →
    ∀ provider bucket, edges = some (provider, bucket) →
      ReleaseCloses script provider bucket.currency order.fiat)

def FulfillCloses (payload : FulfillLockOrderPayload) (param : Option ℕ) : Prop :=
  ∀ orderID f order edges, ¬ (payload.psp = "" ∨ payload.txId = "") → param = some orderID →
    Loads script payload orderID f order edges →
    FulfilmentCloses script payload orderID f order edges

variable {script} {closes : Prop} {provider currency : String} {amount : ℚ} {txs : List TxName}

section Balance

variable {b b' : Balance} {tx : TxName}

variable (script) in
lemma commitTx_scripted (tx : TxName) (txs : List TxName) :
    ∃ r, (commitTx tx).scripted script txs = (⟨r, false⟩, txs.filter (· ≠ tx)) ∧
      (r = .ok () ↔ Succeeds script (.commit tx)) := by
  cases h : script (.commit tx) with
  | none =>
    refine ⟨.error .commit, ?_, by simp [Succeeds, h]⟩
    rw [commitTx, scripted_attempt_none h]
    rfl
  | some s =>
    refine ⟨.ok (), ?_, by simp [Succeeds, h]⟩
    rw [commitTx, scripted_attempt_some h]
    rfl

variable (script) in
lemma rollbackOnErr_commitTx (h : tx ∉ txs) :
    ∃ r, (rollbackOnErr tx (commitTx tx)).scripted script (tx :: txs) = (r, txs) ∧
      (r = .ok () ↔ Succeeds script (.commit tx)) := by
  obtain ⟨r, hcommit, hr⟩ := commitTx_scripted script tx (tx :: txs)
  refine ⟨r, ?_, hr⟩
  rw [scripted_rollbackOnErr, hcommit]
  exact congrArg _ (filter_cons_self h)

lemma rowIn_of_begin (h : Succeeds script (.begin tx)) :
    rowIn script tx provider currency = rowRead script tx provider currency := by
  obtain ⟨s, hs⟩ := Option.isSome_iff_exists.1 h
  rw [rowIn, hs, Option.bind_some]

lemma validate_without_row (hrow : rowIn script .validation provider currency = none)
    (h : .validation ∉ txs) :
    ∃ e, (validateAndFixBalances provider currency).scripted script txs = (.error e, txs) := by
  rw [validateAndFixBalances]
  cases hbegin : script (.begin .validation) with
  | none =>
    rw [scripted_attempt_none hbegin]
    exact ⟨_, rfl⟩
  | some s =>
    rw [rowIn_of_begin (by simp [Succeeds, hbegin]), rowRead] at hrow
    rw [scripted_attempt_some hbegin, scripted_rollbackOnErr]
    refine ⟨.getProviderBalance, ?_⟩
    cases hquery : script (.step (.query (.balance .validation))) with
    | none =>
      rw [scripted_attempt_none hquery]
      exact congrArg _ (filter_cons_self h)
    | some s =>
      rw [hquery, Option.bind_some] at hrow
      rw [scripted_attempt_some hquery, hrow]
      exact congrArg _ (filter_cons_self h)

lemma validate_consistent (hrow : rowIn script .validation provider currency = some b)
    (hb : Consistent b) (h : .validation ∉ txs) :
    ∃ r, (validateAndFixBalances provider currency).scripted script txs = (r, txs) ∧
      (r = .ok () ↔ Succeeds script (.commit .validation)) := by
  obtain ⟨s, hbegin, hrow⟩ := Option.bind_eq_some_iff.1 hrow
  obtain ⟨s, hquery, hrow⟩ := Option.bind_eq_some_iff.1 hrow
  obtain ⟨r, hcommit, hr⟩ := rollbackOnErr_commitTx script h
  refine ⟨r, ?_, hr⟩
  rw [← hcommit, validateAndFixBalances, scripted_attempt_some hbegin, scripted_rollbackOnErr,
    scripted_attempt_some hquery, hrow, scripted_rollbackOnErr]
  simp only [(validateBalanceConsistencyInternal_ok_iff b).2 hb]
  rfl

lemma validate_inconsistent (hrow : rowIn script .validation provider currency = some b)
    (hb : ¬ Consistent b) :
    ∃ e, (validateAndFixBalances provider currency).scripted script txs =
      (.error e, .validation :: txs) := by
  obtain ⟨s, hbegin, hrow⟩ := Option.bind_eq_some_iff.1 hrow
  obtain ⟨s, hquery, hrow⟩ := Option.bind_eq_some_iff.1 hrow
  obtain ⟨e, he⟩ : ∃ e, validateBalanceConsistencyInternal b = .error e := by
    cases hv : validateBalanceConsistencyInternal b with
    | ok u => exact absurd ((validateBalanceConsistencyInternal_ok_iff b).1 hv) hb
    | error e => exact ⟨e, rfl⟩
  rw [validateAndFixBalances, scripted_attempt_some hbegin, scripted_rollbackOnErr,
    scripted_attempt_some hquery, hrow]
  simp only [he]
  cases hfix : script (.step (.updateBalance .validation (fixBalanceInconsistenciesInternal b))) with
  | none =>
    rw [scripted_attempt_none hfix]
    exact ⟨_, rfl⟩
  | some s =>
    rw [scripted_attempt_some hfix]
    exact ⟨_, rfl⟩

variable (script) in
lemma validated_cases (provider currency : String) :
    (¬ ValidationCloses script provider currency ∧ ∀ txs, ∃ e,
      (validateAndFixBalances provider currency).scripted script txs =
        (.error e, .validation :: txs)) ∨
    (ValidationCloses script provider currency ∧ ¬ Validates script provider currency ∧
      ∀ txs, .validation ∉ txs → ∃ e,
        (validateAndFixBalances provider currency).scripted script txs = (.error e, txs)) ∨
    (ValidationCloses script provider currency ∧ Validates script provider currency ∧
      ∀ txs, .validation ∉ txs →
        (validateAndFixBalances provider currency).scripted script txs = (.ok (), txs)) := by
  cases hrow : rowIn script .validation provider currency with
  | none =>
    refine .inr (.inl ⟨by simp [ValidationCloses, hrow], by simp [Validates, hrow], ?_⟩)
    exact fun txs h => validate_without_row hrow h
  | some b =>
    by_cases hb : Consistent b
    · have hcloses : ValidationCloses script provider currency := by
        simpa [ValidationCloses, hrow] using hb
      have hvalidates : Validates script provider currency ↔
          Succeeds script (.commit .validation) := by simp [Validates, hrow, hb]
      by_cases hcommit : Succeeds script (.commit .validation)
      · refine .inr (.inr ⟨hcloses, hvalidates.2 hcommit, fun txs h => ?_⟩)
        obtain ⟨r, hr, hok⟩ := validate_consistent hrow hb h
        rw [hr, hok.2 hcommit]
      · refine .inr (.inl ⟨hcloses, fun hv => hcommit (hvalidates.1 hv), fun txs h => ?_⟩)
        obtain ⟨r, hr, hok⟩ := validate_consistent hrow hb h
        cases r with
        | ok u => exact absurd (hok.1 rfl) hcommit
        | error e => exact ⟨e, hr⟩
    · refine .inl ⟨fun h => hb (h b hrow), fun txs => validate_inconsistent hrow hb⟩

variable (script) in
theorem validateAndFixBalances_closesIff (provider currency : String) :
    ClosesIff script [.validation] (ValidationCloses script provider currency)
      (validateAndFixBalances provider currency) := by
  obtain ⟨hleak, h⟩ | ⟨hcloses, -, h⟩ | ⟨hcloses, -, h⟩ := validated_cases script provider currency
  · refine .of_leaks (List.mem_singleton_self _) hleak fun txs _ => ?_
    obtain ⟨e, he⟩ := h txs
    rw [he]
  · refine .of_closes hcloses fun txs hown => ?_
    obtain ⟨e, he⟩ := h txs (hown _ (by simp))
    rw [he]
  · exact .of_closes hcloses fun txs hown => by rw [h txs (hown _ (by simp))]

lemma closesIff_validated {next : TxProgram (Except ServiceFailure Unit)}
    (hnext : ClosesIff script [.balance] closes next) :
    ClosesIff script [.validation, .balance]
      (ValidationCloses script provider currency ∧ (Validates script provider currency → closes))
      ((validateAndFixBalances provider currency).bind fun
        | .error e => ret (.error (.validation e))
        | .ok _ => next) := by
  obtain ⟨hleak, h⟩ | ⟨hcloses, hnot, h⟩ | ⟨hcloses, hvalid, h⟩ :=
    validated_cases script provider currency
  · refine .of_leaks List.mem_cons_self (fun hc => hleak hc.1) fun txs _ => ?_
    obtain ⟨e, he⟩ := h txs
    rw [scripted_bind, he]
    rfl
  · refine .of_closes ⟨hcloses, fun hv => absurd hv hnot⟩ fun txs hown => ?_
    obtain ⟨e, he⟩ := h txs (hown _ List.mem_cons_self)
    rw [scripted_bind, he]
    rfl
  · intro txs hown
    obtain ⟨leaked, hmem, hopen, hiff⟩ := hnext txs fun tx htx => hown tx (List.mem_cons_of_mem _ htx)
    refine ⟨leaked, fun tx htx => List.mem_cons_of_mem _ (hmem tx htx), ?_, ?_⟩
    · rw [scripted_bind, h txs (hown _ List.mem_cons_self)]
      exact hopen
    · simp only [hiff, hcloses, hvalid, true_and, forall_const]

variable (script) in
lemma reserveWithin_scripted (provider currency : String) (amount : ℚ) (tx : TxName) :
    ∃ r, (∀ txs, (reserveWithin provider currency amount tx).scripted script txs = (r, txs)) ∧
      (r = .ok () ↔ ∃ b b', rowRead script tx provider currency = some b ∧
        reserveInTx b amount = .ok b' ∧ Succeeds script (.step (.updateBalance tx b'))) := by
  simp only [reserveWithin]
  cases hquery : script (.step (.query (.balance tx))) with
  | none =>
    simp only [scripted_attempt_none hquery]
    exact ⟨_, fun _ => rfl, by simp [rowRead, hquery]⟩
  | some s =>
    simp only [scripted_attempt_some hquery]
    cases hrow : s.balance provider currency with
    | none => exact ⟨_, fun _ => rfl, by simp [rowRead, hquery, hrow]⟩
    | some b =>
      cases hreserve : reserveInTx b amount with
      | error e =>
        simp only [hreserve]
        exact ⟨_, fun _ => rfl, by simp [rowRead, hquery, hrow, hreserve]⟩
      | ok b' =>
        simp only [hreserve]
        cases hupdate : script (.step (.updateBalance tx b')) with
        | none =>
          simp only [scripted_attempt_none hupdate]
          exact ⟨_, fun _ => rfl, by simp [rowRead, hquery, hrow, hreserve, Succeeds, hupdate]⟩
        | some s =>
          simp only [scripted_attempt_some hupdate]
          exact ⟨_, fun _ => rfl, by simp [rowRead, hquery, hrow, hreserve, Succeeds, hupdate]⟩

variable (script) in
theorem reserveBalance_closesIff (provider currency : String) (amount : ℚ) :
    ClosesIff script [.validation, .balance] (ReserveCloses script provider currency amount)
      (reserveBalance provider currency amount) := by
  obtain ⟨r, hscripted, hr⟩ := reserveWithin_scripted script provider currency amount .balance
  refine closesIff_validated ((closesIff_begin (uses_ret _) fun _ _ => EndsIff.withinIff <|
    (?_ : EndsIff script .balance (r = .ok ()) _)).congr ?_)
  · rw [rollbackOnErr_bind]
    refine endsIff_bind_of_result hscripted ?_
    cases r with
    | error e => exact (endsIff_rollbackOnErr_ret _).congr (by simp)
    | ok u => exact endsIff_rollbackOnErr_commit.congr (by simp)
  · rw [← hr]
    exact forall_succeeds

variable (script) in
lemma releaseWithin_scripted (provider currency : String) (amount : ℚ) (tx : TxName) :
    ∃ e, (∀ txs, (releaseWithin provider currency amount tx).scripted script txs = (e, txs)) ∧
      (e.err = true ∨ e.result = .ok () ↔
        ∀ b, rowRead script tx provider currency = some b → AcceptsRelease b amount) := by
  simp only [releaseWithin]
  cases hquery : script (.step (.query (.balance tx))) with
  | none =>
    simp only [scripted_attempt_none hquery]
    exact ⟨_, fun _ => rfl, by simp [rowRead, hquery]⟩
  | some s =>
    simp only [scripted_attempt_some hquery]
    cases hrow : s.balance provider currency with
    | none => exact ⟨_, fun _ => rfl, by simp [rowRead, hquery, hrow]⟩
    | some b =>
      simp only [releaseInTx_eq]
      by_cases ha : AcceptsRelease b amount
      · simp only [if_pos ha]
        cases hupdate : script (.step (.updateBalance tx (afterRelease b amount))) with
        | none =>
          simp only [scripted_attempt_none hupdate]
          exact ⟨_, fun _ => rfl, by simp [rowRead, hquery, hrow, ha]⟩
        | some s =>
          simp only [scripted_attempt_some hupdate]
          exact ⟨_, fun _ => rfl, by simp [rowRead, hquery, hrow, ha]⟩
      · simp only [if_neg ha]
        exact ⟨_, fun _ => rfl, by simp [rowRead, hquery, hrow, ha]⟩

variable (script) in
theorem releaseReservedBalance_closesIff (provider currency : String) (amount : ℚ) :
    ClosesIff script [.validation, .balance] (ReleaseCloses script provider currency amount)
      (releaseReservedBalance provider currency amount) := by
  obtain ⟨e, hscripted, he⟩ := releaseWithin_scripted script provider currency amount .balance
  refine closesIff_validated ((closesIff_begin (uses_ret _) fun _ _ => EndsIff.withinIff <|
    (?_ : EndsIff script .balance (e.err = true ∨ e.result = .ok ()) _)).congr ?_)
  · rw [rollbackOnErr_bind]
    refine endsIff_bind_of_result hscripted ?_
    obtain ⟨r, err⟩ := e
    cases r with
    | error e => exact (endsIff_rollbackOnErr_ret _).congr (by simp)
    | ok u => exact endsIff_rollbackOnErr_commit.congr (by simp)
  · rw [he]
    constructor
    · intro h b hrow
      obtain ⟨s, hs, hrow⟩ := Option.bind_eq_some_iff.1 hrow
      exact h s hs b hrow
    · exact fun h s hs b hrow => h b (Option.bind_eq_some_iff.2 ⟨s, hs, hrow⟩)

variable (script) in
theorem releaseAlways_closesIff (provider currency : String) (skips : Balance → Bool)
    (newRow : Balance → Balance) :
    ClosesIff script [.balance] True (releaseAlways provider currency skips newRow) := by
  refine (closesIff_begin (uses_ret _) fun _ _ => EndsIff.withinIff <|
    (?_ : EndsIff script .balance True _)).congr (by simp)
  rw [rollbackOnErr_attempt]
  refine (endsIff_attempt (endsIff_rollbackOnErr_ret _) fun s _ =>
    (?_ : EndsIff script .balance True _)).congr (by simp [Branch])
  split
  · exact (endsIff_rollbackOnErr_ret _).congr (by simp)
  split_ifs
  · exact endsIff_rollbackOnErr_commit
  · rw [rollbackOnErr_attempt]
    exact (endsIff_attempt (endsIff_rollbackOnErr_ret _) fun _ _ =>
      endsIff_rollbackOnErr_commit).congr (by simp [Branch])

end Balance

section Send

variable {conf : OrderConfig} {order : OrderFields} {expireFailed : Bool}

lemma notifyAndCommit_endsIff :
    EndsIff script .caller
      (Succeeds script (.step (.order (.call (.newOrder order.providerId order.id)))) ∨
        expireFailed = true)
      (rollbackOnErr .caller (notifyAndCommit order expireFailed)) := by
  rw [notifyAndCommit, rollbackOnErr_attempt]
  refine (endsIff_attempt (endsIff_rollbackOnErr_ret _) fun _ _ =>
    endsIff_rollbackOnErr_commit).congr ?_
  cases h : script (.step (.order (.call (.newOrder order.providerId order.id)))) <;>
    simp [Branch, Succeeds, h]

lemma offer_endsIff (bucket : ProvisionBucket) :
    EndsIff script .caller (OfferCloses script conf order bucket)
      (rollbackOnErr .caller (offer conf order bucket)) := by
  rw [offer, rollbackOnErr_attempt]
  simp only [rollbackOnErr_attempt]
  refine (endsIff_attempt (endsIff_rollbackOnErr_ret _) fun s _ =>
    endsIff_attempt notifyAndCommit_endsIff fun _ _ => notifyAndCommit_endsIff).congr ?_
  simp only [Bool.false_eq_true, branch_false_iff, or_true, or_false, branch_true_const, OfferCloses]
  refine exists_congr fun s => and_congr_right fun _ => ?_
  rw [or_comm, ← imp_iff_not_or]

variable (script) in
theorem sendOrderRequest_closesIff (conf : OrderConfig) (order : OrderFields) :
    ClosesIff script [.caller] (SendCloses script conf order) (sendOrderRequest conf order) := by
  rw [sendOrderRequest]
  cases hbucket : order.provisionBucket with
  | none => exact (closesIff_ret _).congr (by simp [SendCloses, hbucket])
  | some bucket =>
    obtain ⟨r, hscripted, hr⟩ :=
      reserveWithin_scripted script order.providerId bucket.currency order.fiat .caller
    refine (closesIff_begin (uses_ret _) fun _ _ => EndsIff.withinIff <|
      (?_ : EndsIff script .caller (r = .ok () → OfferCloses script conf order bucket) _)).congr ?_
    · rw [rollbackOnErr_bind]
      refine endsIff_bind_of_result hscripted ?_
      cases r with
      | error e => exact (endsIff_rollbackOnErr_ret _).congr (by simp)
      | ok u => exact (offer_endsIff bucket).congr (by simp)
    simp only [hr, SendCloses, rowIn]
    constructor
    · intro h bucket' b b' hbucket' hrow hreserve hupdate
      obtain rfl : bucket = bucket' := Option.some.inj (hbucket.symm.trans hbucket')
      obtain ⟨s, hs, hrow⟩ := Option.bind_eq_some_iff.1 hrow
      exact h s hs ⟨b, b', hrow, hreserve, hupdate⟩
    · rintro h s hs ⟨b, b', hrow, hreserve, hupdate⟩
      exact h bucket b b' hbucket (Option.bind_eq_some_iff.2 ⟨s, hs, hrow⟩) hreserve hupdate

end Send

section Deposit

variable {env : PaymentEnvironment} {receiveAddress : ReceiveAddress} {paymentOrder : PaymentOrder}
  {event : TokenTransferEvent}

lemma finishDeposit_steps :
    Uses TxCall.IsStep (finishDeposit receiveAddress paymentOrder event) := by
  rw [finishDeposit]
  split_ifs
  · exact uses_attempt trivial (uses_ret _) fun _ => uses_attempt trivial (uses_ret _) fun _ => uses_ret _
  · exact uses_attempt trivial (uses_ret _) fun _ => uses_ret _

lemma saveDeposit_endsIff (hhash : paymentOrder.txHash ≠ event.txHash) (u : DepositUpdate) :
    EndsIff script .caller
      ((paymentOrder.txHash = "" ∧ paymentOrder.status = .initiated) ∧
        Succeeds script (.step (.depositLog u.network event)) ∧
        Succeeds script (.step (.depositUpdate paymentOrder.id event u)))
      (saveDeposit receiveAddress paymentOrder event u) := by
  rw [saveDeposit]
  by_cases hpaid : paymentOrder.txHash = "" ∧ paymentOrder.status = .initiated
  · rw [if_pos ⟨.inl hpaid.1, hpaid.2⟩]
    refine (endsIff_attempt (endsIff_ret _) fun _ _ =>
      endsIff_attempt (endsIff_ret _) fun _ _ =>
        endsIff_commit (uses_ret _) fun _ => finishDeposit_steps).congr ?_
    simp only [branch_false_const, and_true, hpaid, and_self, true_and]
  · have hskips : ¬ ((paymentOrder.txHash = "" ∨ paymentOrder.txHash = event.txHash) ∧
        paymentOrder.status = .initiated) := fun h => hpaid ⟨h.1.resolve_right hhash, h.2⟩
    rw [if_neg hskips]
    exact (endsIff_steps finishDeposit_steps).congr (by simp only [hpaid, false_and])

lemma lookUpRate_endsIff {now : ℕ} {k : TxProgram (Except String Bool)}
    (hk : EndsIff script .caller closes k) :
    EndsIff script .caller
      ((transferMatches paymentOrder event.value = false → refreshesRate now paymentOrder = true →
        Succeeds script (.step (.query .senderProvider)) ∧
        Succeeds script (.step (.query .institution)) ∧
        Succeeds script (.step (.query .providerRate))) ∧ closes)
      (lookUpRate paymentOrder event now k) := by
  rw [lookUpRate]
  split_ifs with hrate
  · refine (endsIff_attempt (endsIff_ret _) fun _ _ =>
      endsIff_attempt (endsIff_ret _) fun _ _ =>
        endsIff_attempt (endsIff_ret _) fun _ _ => hk).congr ?_
    simp only [branch_false_const, Bool.not_eq_true] at hrate ⊢
    simp only [hrate, forall_const, and_assoc]
  · refine hk.congr (and_iff_right fun hmatch hrefresh => absurd ⟨?_, hrefresh⟩ hrate).symm
    simp [hmatch]

lemma deposit_closesIff (hhash : paymentOrder.txHash ≠ event.txHash) :
    ClosesIff script [.caller]
      (∀ s, script (.begin .caller) = some s →
        (transferMatches paymentOrder event.value = false →
          refreshesRate s.now paymentOrder = true →
          Succeeds script (.step (.query .senderProvider)) ∧
          Succeeds script (.step (.query .institution)) ∧
          Succeeds script (.step (.query .providerRate))) ∧
        (paymentOrder.txHash = "" ∧ paymentOrder.status = .initiated) ∧
        ∃ u, depositUpdate env s.now paymentOrder event = some u ∧
          Succeeds script (.step (.depositLog u.network event)) ∧
          Succeeds script (.step (.depositUpdate paymentOrder.id event u)))
      (deposit env receiveAddress paymentOrder event) := by
  refine closesIff_begin (uses_ret _) fun s _ => EndsIff.withinIff (lookUpRate_endsIff ?_)
  cases hu : depositUpdate env s.now paymentOrder event with
  | none => exact (endsIff_ret _).congr (by simp)
  | some u => exact (saveDeposit_endsIff hhash u).congr (by simp)

variable (script) in
theorem updateReceiveAddressStatus_closesIff (env : PaymentEnvironment)
    (receiveAddress : ReceiveAddress) (paymentOrder : PaymentOrder) (event : TokenTransferEvent) :
    ClosesIff script [.caller] (DepositCloses script env receiveAddress paymentOrder event)
      (updateReceiveAddressStatus env receiveAddress paymentOrder event) := by
  rw [updateReceiveAddressStatus]
  by_cases hhash : paymentOrder.txHash = event.txHash
  · -- the deposit is never reached
    have hsteps : ClosesIff script [.caller] True
        (updateReceiveAddressStatus env receiveAddress paymentOrder event) := by
      refine closesIff_steps ?_
      rw [updateReceiveAddressStatus]
      split_ifs
      · refine uses_attempt trivial (uses_ret _) fun s => ?_
        split_ifs <;> exact uses_ret _
      · exact uses_ret _
    exact hsteps.congr (by simp [DepositCloses, DepositOpens, hhash])
  · simp only [if_neg hhash]
    refine (closesIff_ite (fun _ => closesIff_attempt (closesIff_ret _) fun s _ =>
      closesIff_ite (fun _ => closesIff_ret _) fun _ =>
        closesIff_attempt (deposit_closesIff hhash) fun s _ =>
          closesIff_ite (fun _ => closesIff_ret _) fun _ => deposit_closesIff hhash)
      fun _ => closesIff_ret _).congr ?_
    rw [DepositCloses]
    constructor
    · rintro ⟨h, -⟩ ⟨ha, ⟨s, hs, htaken⟩, -, hlog⟩
      have hrest := ((h ha).2 s hs).2 (by simp [htaken])
      cases hfind : script (.step (.query .findLog)) with
      | none => exact hrest.1 hfind
      | some s' => exact (hrest.2 s' hfind).2 (by simp [hlog s' hfind])
    intro h
    refine ⟨fun ha => ⟨fun _ => trivial, fun s hs => ⟨fun _ => trivial, fun htaken => ?_⟩⟩,
      fun _ => trivial⟩
    have hopens : (∀ s', script (.step (.query .findLog)) = some s' → s'.isLogged event = false) →
        DepositOpens script receiveAddress paymentOrder event :=
      fun hlog => ⟨ha, ⟨s, hs, by simpa using htaken⟩, hhash, hlog⟩
    refine ⟨fun hnone => h (hopens fun s' hs' => ?_), fun s' hs' => ⟨fun _ => trivial, fun hlog => ?_⟩⟩
    · exact nomatch hnone.symm.trans hs'
    · refine h (hopens fun s'' hs'' => ?_)
      obtain rfl : s' = s'' := Option.some.inj (hs'.symm.trans hs'')
      simpa using hlog

end Deposit

section StatusUpdate

variable {U : StatusUpdate} {paymentOrder : Option PaymentOrder}
  {balanceStep : String → String → ℚ → TxProgram Unit} {closes : String → String → ℚ → Prop}

lemma finishUpdate_endsIff : EndsIff script .caller True (finishUpdate U paymentOrder) := by
  refine endsIff_commit (uses_ret _) fun s => ?_
  split
  · exact uses_ret _
  · exact uses_attempt trivial (uses_ret _) fun _ => uses_ret _

lemma updateSender_endsIff :
    EndsIff script .caller
      (∀ change, paymentOrder.bind U.change = some change →
        Succeeds script (.step (.updatePaymentOrders change)))
      (updateSender U paymentOrder) := by
  rw [updateSender]
  cases hchange : paymentOrder.bind U.change with
  | none => exact finishUpdate_endsIff.congr (by simp)
  | some change =>
    refine (endsIff_attempt (endsIff_ret _) fun s _ => (?_ : EndsIff script .caller True _)).congr ?_
    · split_ifs
      · exact finishUpdate_endsIff
      · exact finishUpdate_endsIff
    · simp [branch_false_const]

variable (hstep : ∀ provider currency amount,
    ClosesIff script [.validation, .balance] (closes provider currency amount)
      (balanceStep provider currency amount))
include hstep

lemma updateAggregator_withinIff :
    WithinIff script .caller [.validation, .balance]
      ((∃ event, U.event = some event ∧ Succeeds script (.step (.updateLockOrders event))) ∧
        (∀ change, paymentOrder.bind U.change = some change →
          Succeeds script (.step (.updatePaymentOrders change))) ∧
        BalanceStepCloses script U closes)
      (updateAggregator U balanceStep paymentOrder) := by
  rw [updateAggregator]
  cases hevent : U.event with
  | none => exact (endsIff_ret _).withinIff.congr (by simp)
  | some event =>
    refine (withinIff_attempt (endsIff_ret _).withinIff fun _ _ =>
      withinIff_attempt updateSender_endsIff.withinIff fun s _ =>
        (?hbalance : WithinIff script .caller [.validation, .balance]
          ((∀ change, paymentOrder.bind U.change = some change →
            Succeeds script (.step (.updatePaymentOrders change))) ∧
            ∀ provider currency amount, s.balanceEdges event.selects = some (provider, currency, amount) →
              closes provider currency amount) _)).congr ?_
    case hbalance =>
      cases hedges : s.balanceEdges event.selects with
      | none => exact updateSender_endsIff.withinIff.congr (by simp)
      | some e =>
        obtain ⟨provider, currency, amount⟩ := e
        refine (withinIff_bind (by decide) (hstep provider currency amount) fun _ =>
          updateSender_endsIff).congr (and_congr_right fun _ => ⟨?_, fun h => h _ _ _ rfl⟩)
        rintro h _ _ _ heq
        obtain ⟨rfl, rfl, rfl⟩ : provider = _ ∧ currency = _ ∧ amount = _ := by simpa using heq
        exact h
    rw [branch_false_const]
    refine and_congr (by simp) ?_
    rw [BalanceStepCloses, hevent]
    constructor
    · rintro ⟨hnone, hsome⟩
      cases hquery : script (.step (.query .lockOrder)) with
      | none => exact ⟨hnone hquery, by simp⟩
      | some s =>
        refine ⟨(hsome s hquery).1, fun event' s' provider currency amount hevent' hs' => ?_⟩
        obtain rfl := Option.some.inj hevent'
        obtain rfl := Option.some.inj hs'
        exact (hsome s hquery).2 provider currency amount
    · rintro ⟨hsender, hstep⟩
      exact ⟨fun _ => hsender, fun s hs => ⟨hsender, fun provider currency amount =>
        hstep event s provider currency amount rfl hs⟩⟩

lemma updateLogs_withinIff :
    WithinIff script .caller [.validation, .balance]
      (StatementsSucceed script U paymentOrder ∧ BalanceStepCloses script U closes)
      (updateLogs U balanceStep paymentOrder) := by
  refine (withinIff_attempt (endsIff_ret _).withinIff fun s _ =>
    withinIff_ite (fun _ => updateAggregator_withinIff hstep) fun _ =>
      withinIff_attempt (endsIff_ret _).withinIff fun _ _ =>
        updateAggregator_withinIff hstep).congr ?_
  rw [branch_false_iff, StatementsSucceed]
  constructor
  · rintro ⟨s, hs, hlogged, hnew⟩
    rw [branch_false_const] at hnew
    cases hlog : s.transactionLogs.rows.any U.entry.isLog with
    | true =>
      obtain ⟨hevent, hchange, hbalance⟩ := hlogged hlog
      exact ⟨⟨⟨s, hs, by simp [hlog]⟩, hevent, hchange⟩, hbalance⟩
    | false =>
      obtain ⟨hcreate, hevent, hchange, hbalance⟩ := hnew (by simp [hlog])
      exact ⟨⟨⟨s, hs, fun _ => hcreate⟩, hevent, hchange⟩, hbalance⟩
  · rintro ⟨⟨⟨s, hs, hcreate⟩, hevent, hchange⟩, hbalance⟩
    refine ⟨s, hs, fun _ => ⟨hevent, hchange, hbalance⟩, fun hlog => ?_⟩
    rw [branch_false_const]
    exact ⟨hcreate (by simpa using hlog), hevent, hchange, hbalance⟩

theorem updateOrderStatus_closesIff :
    ClosesIff script [.caller, .validation, .balance] (UpdateCloses script U closes)
      (updateOrderStatus U balanceStep) := by
  have hbegin : ∀ paymentOrder : Option PaymentOrder,
      ClosesIff script [.caller, .validation, .balance]
        (Succeeds script (.begin .caller) →
          StatementsSucceed script U paymentOrder ∧ BalanceStepCloses script U closes)
        (attempt (.begin .caller) (ret (.error .transaction)) fun _ =>
          updateLogs U balanceStep paymentOrder) := by
    intro paymentOrder
    refine (closesIff_begin (uses_ret _) fun _ _ => updateLogs_withinIff hstep).congr ?_
    cases hb : script (.begin .caller) <;> simp [Succeeds, hb]
  refine (closesIff_attempt (closesIff_ret _) fun s _ =>
    (?_ : ClosesIff script _ (s.paymentOrderOf U.messageHash U.entry.network ≠ .error .notSingular →
      Succeeds script (.begin .caller) →
      StatementsSucceed script U (s.paymentOrderOf U.messageHash U.entry.network).toOption ∧
        BalanceStepCloses script U closes) _)).congr branch_true_iff
  cases hfound : s.paymentOrderOf U.messageHash U.entry.network with
  | ok o => exact (hbegin _).congr (by simp)
  | error e =>
    cases e with
    | notFound => exact (hbegin _).congr (by simp)
    | notSingular => exact (closesIff_ret _).congr (by simp)

end StatusUpdate

section Fulfill

variable {orderID : ℕ} {payload : FulfillLockOrderPayload} {f : LockOrderFulfillment}
  {order : LockPaymentOrder} {edges : Option (String × ProvisionBucket)}

lemma markPaymentOrderValidated_steps {messageHash : String} {k : TxProgram Reply}
    (hk : Uses TxCall.IsStep k) : Uses TxCall.IsStep (markPaymentOrderValidated messageHash k) := by
  refine uses_attempt trivial hk fun s => ?_
  split
  · exact hk
  · exact uses_ignore trivial (uses_ignore trivial hk)

lemma releaseWithin_steps {tx : TxName} :
    Uses TxCall.IsStep (releaseWithin provider currency amount tx) := by
  refine uses_attempt trivial (uses_ret _) fun s => ?_
  split
  · exact uses_ret _
  · split
    · exact uses_ret _
    · exact uses_attempt trivial (uses_ret _) fun _ => uses_ret _

lemma releaseAndCommit_endsIff :
    EndsIff script .caller True (releaseAndCommit orderID order provider currency) := by
  refine endsIff_bind releaseWithin_steps fun e => ?_
  split
  · exact endsIff_rollback (uses_ret _)
  · exact endsIff_commit (uses_ret _) fun _ =>
      markPaymentOrderValidated_steps (uses_ignore trivial (uses_ret _))

lemma validateWithin_closesIff :
    ClosesIff script [.caller]
      (Succeeds script (.begin .caller) →
        Succeeds script (.step (.order (.setFulfillment f.id .success none))) →
        Succeeds script (.step (.order (.createLog .orderValidated order.token.network))) →
        Succeeds script (.step (.validateOrder orderID)) → edges ≠ none)
      (validateWithin orderID f order edges) := by
  have hrolledBack : EndsIff script .caller True (ignore (.rollback .caller) failedUpdate) :=
    endsIff_rollback (uses_ret _)
  refine (closesIff_begin (uses_ret _) fun _ _ => EndsIff.withinIff <|
    endsIff_attempt hrolledBack fun _ _ => endsIff_attempt hrolledBack fun _ _ =>
      endsIff_attempt hrolledBack fun _ _ => (?hrelease : EndsIff script _ (edges ≠ none) _)).congr ?_
  case hrelease =>
    cases edges with
    | none => exact (endsIff_ret _).congr (by simp)
    | some e => exact releaseAndCommit_endsIff.congr (by simp)
  simp only [branch_true_const]
  cases hb : script (.begin .caller) <;> simp [Succeeds, hb]

lemma fulfillWith_closesIff :
    ClosesIff script [.caller, .validation, .balance]
      (FulfilmentCloses script payload orderID f order edges)
      (fulfillWith orderID payload f order edges) := by
  simp only [fulfillWith, FulfilmentCloses]
  cases hstatus : payload.validationStatus with
  | success =>
    refine (closesIff_ite (fun _ => closesIff_ret _) fun _ =>
      validateWithin_closesIff.mono (by simp)).congr ?_
    simp
  | failed =>
    refine (closesIff_attempt (closesIff_ret _) fun _ _ => closesIff_attempt (closesIff_ret _) fun _ _ =>
      (?hrelease : ClosesIff script [.caller, .validation, .balance]
        (∀ provider bucket, edges = some (provider, bucket) →
          ReleaseCloses script provider bucket.currency order.fiat) _)).congr ?_
    case hrelease =>
      cases edges with
      | none => exact (closesIff_ret _).congr (by simp)
      | some e =>
        refine (((releaseReservedBalance_closesIff script e.1 e.2.currency order.fiat).mono
          (by simp)).bind fun _ => uses_ret _).congr ⟨?_, fun h => h e.1 e.2 rfl⟩
        rintro h _ _ heq
        obtain rfl := Option.some.inj heq
        exact h
    simp [branch_true_const]
  | pending =>
    refine (closesIff_steps ?_).congr (by simp)
    exact uses_attempt trivial (uses_ret _) fun _ => uses_attempt trivial (uses_ret _) fun _ => uses_ret _

lemma fulfillLoaded_closesIff {s : Store}
    {edges : LockPaymentOrder → Option (String × ProvisionBucket)} :
    ClosesIff script [.caller, .validation, .balance]
      (∀ order, s.lockOrders.get f.order = some order →
        FulfilmentCloses script payload orderID f order (edges order))
      (fulfillLoaded orderID payload s f edges) := by
  rw [fulfillLoaded]
  cases s.lockOrders.get f.order with
  | none => exact (closesIff_ret _).congr (by simp)
  | some order => exact fulfillWith_closesIff.congr (by simp)

lemma fulfillCreated_closesIff :
    ClosesIff script [.caller, .validation, .balance]
      (Succeeds script
          (.step (.order (.createFulfillment orderID payload.txId payload.psp .pending ""))) →
        ∀ s, script (.step (.query .createdFulfillment)) = some s →
          ∀ f, byTxId s payload.txId = .ok f → ∀ order, s.lockOrders.get f.order = some order →
            FulfilmentCloses script payload orderID f order none)
      (fulfillCreated orderID payload) := by
  refine (closesIff_attempt (closesIff_ret _) fun _ _ =>
    closesIff_attempt (closesIff_ret _) fun s _ =>
      (?_ : ClosesIff script _ (∀ f, byTxId s payload.txId = .ok f → ∀ order,
        s.lockOrders.get f.order = some order →
          FulfilmentCloses script payload orderID f order none) _)).congr ?_
  · cases byTxId s payload.txId with
    | error e => exact (closesIff_ret _).congr (by simp)
    | ok f => exact fulfillLoaded_closesIff.congr (by simp)
  · rw [branch_true_const, branch_true_iff]

lemma loads_iff {s : Store} (hs : script (.step (.query .fulfillment)) = some s) :
    Loads script payload orderID f order edges ↔
      (byTxId s payload.txId = .ok f ∧ s.lockOrders.get f.order = some order ∧ edges = order.edges) ∨
      (byTxId s payload.txId = .error .notFound ∧
        Succeeds script (.step (.order (.createFulfillment orderID payload.txId payload.psp .pending "")))
        ∧ ∃ s', script (.step (.query .createdFulfillment)) = some s' ∧
          byTxId s' payload.txId = .ok f ∧ s'.lockOrders.get f.order = some order ∧ edges = none) := by
  simp only [Loads, hs, Option.some.injEq, exists_eq_left']

variable (script) in
theorem fulfillOrder_closesIff (payload : FulfillLockOrderPayload) (param : Option ℕ) :
    ClosesIff script [.caller, .validation, .balance] (FulfillCloses script payload param)
      (fulfillOrder payload param) := by
  unfold fulfillOrder
  split_ifs with hblank
  · exact (closesIff_ret _).congr (by simp [FulfillCloses, hblank])
  cases param with
  | none => exact (closesIff_ret _).congr (by simp [FulfillCloses])
  | some orderID =>
    refine (closesIff_attempt (closesIff_ret _) fun s hs =>
      (?_ : ClosesIff script _ (∀ f order edges, Loads script payload orderID f order edges →
        FulfilmentCloses script payload orderID f order edges) _)).congr ?_
    · simp only [loads_iff hs]
      cases hfound : byTxId s payload.txId with
      | ok f =>
        refine fulfillLoaded_closesIff.congr ⟨?_, fun h order horder => h f order _ (by simp [horder])⟩
        rintro h f' order edges (⟨⟨⟩, horder, rfl⟩ | ⟨⟨⟩, -⟩)
        exact h order horder
      | error e =>
        cases e with
        | notFound =>
          refine fulfillCreated_closesIff.congr ⟨?_, fun h hcreate t ht f hf order horder => ?_⟩
          · rintro h f order edges (⟨⟨⟩, -⟩ | ⟨-, hcreate, t, ht, hf, horder, rfl⟩)
            exact h hcreate t ht f hf order horder
          · exact h f order none (.inr ⟨rfl, hcreate, t, ht, hf, horder, rfl⟩)
        | notSingular => exact (closesIff_ret _).congr (by simp)
    · rw [branch_true_iff]
      constructor
      · rintro h _ f order edges - ⟨⟩ hloads
        obtain ⟨s, hs, -⟩ := id hloads
        exact h s hs f order edges hloads
      · exact fun h s hs f order edges => h orderID f order edges hblank rfl

end Fulfill

inductive Operation where
  | reserveBalance (provider currency : String) (amount : ℚ)
  | releaseReservedBalance (provider currency : String) (amount : ℚ)
  | handleOrderTimeout (provider currency : String) (amount : ℚ)
  | cancelOrderAndReleaseBalance (provider currency : String) (amount : ℚ)
  | validateAndFixBalances (provider currency : String)
  | sendOrderRequest (order : OrderFields)
  | updateReceiveAddressStatus (receiveAddress : ReceiveAddress) (paymentOrder : PaymentOrder)
      (event : TokenTransferEvent)
  | updateOrderStatusSettled (network : String) (event : OrderSettledEvent) (messageHash : String)
  | updateOrderStatusRefunded (network : String) (event : OrderRefundedEvent) (messageHash : String)
  | fulfillOrder (payload : FulfillLockOrderPayload) (param : Option ℕ)

namespace Operation

def program (conf : OrderConfig) (env : PaymentEnvironment) : Operation → TxProgram Unit
  | reserveBalance provider currency amount =>
    (TransactionScopes.reserveBalance provider currency amount).discard
  | releaseReservedBalance provider currency amount =>
    (TransactionScopes.releaseReservedBalance provider currency amount).discard
  | handleOrderTimeout provider currency amount =>
    (TransactionScopes.handleOrderTimeout provider currency amount).discard
  | cancelOrderAndReleaseBalance provider currency amount =>
    (TransactionScopes.cancelOrderAndReleaseBalance provider currency amount).discard
  | validateAndFixBalances provider currency =>
    (TransactionScopes.validateAndFixBalances provider currency).discard
  | sendOrderRequest order => (TransactionScopes.sendOrderRequest conf order).discard
  | updateReceiveAddressStatus receiveAddress paymentOrder event =>
    (TransactionScopes.updateReceiveAddressStatus env receiveAddress paymentOrder event).discard
  | updateOrderStatusSettled network event messageHash =>
    (TransactionScopes.updateOrderStatusSettled network event messageHash).discard
  | updateOrderStatusRefunded network event messageHash =>
    (TransactionScopes.updateOrderStatusRefunded network event messageHash).discard
  | fulfillOrder payload param => (TransactionScopes.fulfillOrder payload param).discard

def Closes (script : TxCall TxName Step → Option Store) (conf : OrderConfig)
    (env : PaymentEnvironment) : Operation → Prop
  | reserveBalance provider currency amount => ReserveCloses script provider currency amount
  | releaseReservedBalance provider currency amount => ReleaseCloses script provider currency amount
  | handleOrderTimeout .. => True
  | cancelOrderAndReleaseBalance .. => True
  | validateAndFixBalances provider currency => ValidationCloses script provider currency
  | sendOrderRequest order => SendCloses script conf order
  | updateReceiveAddressStatus receiveAddress paymentOrder event =>
    DepositCloses script env receiveAddress paymentOrder event
  | updateOrderStatusSettled network event messageHash =>
    UpdateCloses script (settledUpdate network event messageHash) fun _ _ _ => True
  | updateOrderStatusRefunded network event messageHash =>
    UpdateCloses script (refundedUpdate network event messageHash) (ReleaseCloses script)
  | fulfillOrder payload param => FulfillCloses script payload param

end Operation

lemma settleStep_steps : Uses TxCall.IsStep (settleStep provider currency amount) := by
  refine uses_attempt trivial (uses_ret _) fun s => ?_
  split
  · exact uses_ret _
  · exact uses_attempt trivial (uses_ret _) fun _ => uses_ignore trivial (uses_ret _)

theorem leavesNoTx_iff_closes (script : TxCall TxName Step → Option Store) (conf : OrderConfig)
    (env : PaymentEnvironment) (op : Operation) :
    LeavesNoTx script (op.program conf env) ↔ op.Closes script conf env := by
  cases op with
  | reserveBalance provider currency amount =>
    exact (reserveBalance_closesIff script provider currency amount).leavesNoTx_discard_iff
  | releaseReservedBalance provider currency amount =>
    exact (releaseReservedBalance_closesIff script provider currency amount).leavesNoTx_discard_iff
  | handleOrderTimeout provider currency amount
  | cancelOrderAndReleaseBalance provider currency amount =>
    exact (releaseAlways_closesIff script provider currency _ _).leavesNoTx_discard_iff
  | validateAndFixBalances provider currency =>
    exact (validateAndFixBalances_closesIff script provider currency).leavesNoTx_discard_iff
  | sendOrderRequest order =>
    exact (sendOrderRequest_closesIff script conf order).leavesNoTx_discard_iff
  | updateReceiveAddressStatus receiveAddress paymentOrder event =>
    exact (updateReceiveAddressStatus_closesIff script env receiveAddress paymentOrder
      event).leavesNoTx_discard_iff
  | updateOrderStatusSettled network event messageHash =>
    exact (updateOrderStatus_closesIff fun _ _ _ =>
      closesIff_steps settleStep_steps).leavesNoTx_discard_iff
  | updateOrderStatusRefunded network event messageHash =>
    exact (updateOrderStatus_closesIff fun provider currency amount =>
      (releaseReservedBalance_closesIff script provider currency amount).bind fun _ =>
        uses_ret _).leavesNoTx_discard_iff
  | fulfillOrder payload param =>
    exact (fulfillOrder_closesIff script payload param).leavesNoTx_discard_iff

def sentOrder : OrderFields where
  id := 1
  token := Sample.token
  amount := 40
  rate := 1
  institution := "bank"
  providerId := "p1"
  provisionBucket := some Sample.bucket
  updatedAt := 0

def redisDown : TxCall TxName Step → Option Store
  | .step (.order (.setOrderRequest ..)) => none
  | _ => some Sample.store

theorem refused_reservation_leaks :
    ¬ LeavesNoTx (fun _ => some Sample.store)
        ((Operation.reserveBalance "p1" "NGN" 200).program {} .silent) ∧
      ¬ LeavesNoTx redisDown ((Operation.sendOrderRequest sentOrder).program {} .silent) := by
  constructor
  · rw [LeavesNoTx]
    decide +kernel
  · rw [LeavesNoTx]
    decide +kernel

end Stablenode.TransactionScopes
