import Stablenode.OrderEffects

/-! Offering an order to providers (services/priority_queue.go, services/balance_management.go). -/
namespace Stablenode

open BalanceManagement Proc

inductive Completion (ε : Type) where
  | ok
  | error (e : ε)
  | panicked
  deriving DecidableEq

inductive ServiceError where
  | getProviderBalance
  | balance (e : BalanceError)
  | commit
  deriving DecidableEq

def releaseReservedBalance (provider currency : String) (amount : ℚ) :
    OrderProgram (Except ServiceError Unit) :=
  attempt .read (ret (.error .getProviderBalance)) fun s =>
  match s.balance provider currency with
  | none => ret (.error .getProviderBalance)
  | some b =>
    match validateAndFixBalances b with
    | .error e => ret (.error (.balance (.validationFailed e)))
    | .ok _ =>
      -- the release reads the row again, in a transaction of its own
      attempt .read (ret (.error .getProviderBalance)) fun s =>
      match s.balance provider currency with
      | none => ret (.error .getProviderBalance)
      | some b =>
        match releaseInTx b amount with
        | .error e => ret (.error (.balance e))
        | .ok b' =>
          attempt (.releaseCommit provider currency b') (ret (.error .commit)) fun _ => ret (.ok ())

def Store.release (s : Store) (provider currency : String) (amount : ℚ) : Store :=
  match s.balance provider currency with
  | none => s
  | some b =>
    if Consistent b ∧ AcceptsRelease b amount then
      s.setBalance provider currency (afterRelease b amount)
    else s

lemma Store.release_frame (s : Store) (provider currency : String) (amount : ℚ) :
    ∃ balances, s.release provider currency amount = { s with balances := balances } := by
  rw [Store.release]
  split
  · exact ⟨s.balances, rfl⟩
  · split <;> exact ⟨_, rfl⟩

theorem releaseReservedBalance_history (provider currency : String) (amount : ℚ) (s : Store) :
    (releaseReservedBalance provider currency amount).history OrderWrite.exec [] s =
      match s.balance provider currency with
      | none => [.read]
      | some b =>
        if Consistent b then
          if AcceptsRelease b amount then
            [.read, .read, .releaseCommit provider currency (afterRelease b amount)]
          else [.read, .read]
        else [.read] := by
  rw [releaseReservedBalance, history_attempt, OrderWrite.exec_read]
  cases hb : s.balance provider currency with
  | none => simp
  | some b =>
    by_cases hc : Consistent b
    · simp only [validateAndFixBalances_consistent hc, history_attempt, OrderWrite.exec_read, hb,
        releaseInTx_eq, if_pos hc]
      by_cases ha : AcceptsRelease b amount <;> simp [ha]
    · obtain ⟨e, he⟩ := validateAndFixBalances_inconsistent hc
      simp [he, hc]

@[simp] lemma releaseReservedBalance_after (provider currency : String) (amount : ℚ) (s : Store) :
    (releaseReservedBalance provider currency amount).after OrderWrite.exec s =
      s.release provider currency amount := by
  rw [after, releaseReservedBalance_history, Store.release]
  cases hb : s.balance provider currency with
  | none => rfl
  | some b =>
    by_cases hc : Consistent b
    · by_cases ha : AcceptsRelease b amount
      · simp only [hc, ha, and_self, if_true]
        exact Store.setFunds_eq_setBalance hb rfl
      · simp only [hc, ha, and_false, if_true, if_false]
        rfl
    · simp only [hc, false_and, if_false]
      rfl

structure OrderFields where
  id : ℕ
  token : Token
  amount : ℚ
  rate : ℚ
  institution : String
  providerId : String
  provisionBucket : Option ProvisionBucket
  updatedAt : ℕ
  deriving DecidableEq

def OrderFields.fiat (order : OrderFields) : ℚ := fiatAmount order.amount order.rate

inductive TxStatusReply where
  | noSecret
  | sendError (is400 : Bool)
  | unparsable
  | malformed
  | status (status psp txId error : String)
  deriving DecidableEq

structure Environment where
  newOrder : String → ℕ → Bool
  /-- The answer to `/tx_status` for an order and, if it has one, a fulfilment. -/
  txStatus : ℕ → Option ℕ → TxStatusReply
  providerRate : String → String → String → Option ℚ
  usdtRate : ℚ → String → Option ℚ

def Environment.silent : Environment where
  newOrder _ _ := true
  txStatus _ _ := .sendError false
  providerRate _ _ _ := none
  usdtRate _ _ := none

inductive AssignError where
  | redis
  | redisNil
  | database
  | reserve (e : ServiceError)
  | notify
  | commit
  | outOfFuel
  deriving DecidableEq

def orderRequestData (order : OrderFields) (currency : String) : List (String × String) :=
  [("amount", Decimal.toString order.fiat), ("institution", order.institution),
    ("currency", currency), ("providerId", order.providerId)]

lemma orderRequestData_nodup (order : OrderFields) (currency : String) :
    ((orderRequestData order currency).map Prod.fst).Nodup := by
  simp [orderRequestData]

def writtenRequest (order : OrderFields) (currency : String) (old : Option OrderRequest) :
    OrderRequest :=
  old.elim ⟨order.id, orderRequestData order currency, none⟩ fun r =>
    { r with fields := Fields.setFields r.fields (orderRequestData order currency) }

lemma writtenRequest_holds (order : OrderFields) (currency : String) (old : Option OrderRequest)
    {f : String × String} (hf : f ∈ orderRequestData order currency) :
    Fields.Holds (writtenRequest order currency old).fields f := by
  have hnodup := orderRequestData_nodup order currency
  cases old with
  | none =>
    exact ⟨hf, fun g hg hkey => List.inj_on_of_nodup_map hnodup hg hf hkey⟩
  | some r => exact Fields.holds_setFields r.fields hnodup hf

lemma writtenRequest_provider (order : OrderFields) (currency : String)
    (old : Option OrderRequest) :
    (writtenRequest order currency old).field "providerId" = order.providerId := by
  have h := writtenRequest_holds order currency old (f := ("providerId", order.providerId))
    (by simp [orderRequestData])
  rw [OrderRequest.field, h.find?]
  rfl

variable (conf : OrderConfig) (env : Environment)

def sendOrderRequest (order : OrderFields) : OrderProgram (Completion AssignError) :=
  match order.provisionBucket with
  | none => ret .panicked
  | some bucket =>
    let currency := bucket.currency
    let amount := order.fiat
    attempt .read (ret (.error (.reserve .getProviderBalance))) fun s =>
    match s.balance order.providerId currency with
    | none => ret (.error (.reserve .getProviderBalance))
    | some b =>
      match reserveInTx b amount with
      | .error e => ret (.error (.reserve (.balance e)))
      | .ok b' =>
        attempt (.setOrderRequest order.id (orderRequestData order currency)) (ret (.error .redis))
          fun s =>
        ignore (.expireOrderRequestAt order.id (s.now + conf.orderRequestValidity)) <|
        -- an error of the notification leaves the hash behind and the transaction uncommitted
        if env.newOrder order.providerId order.id then
          attempt (.call (.newOrder order.providerId order.id)) (ret (.error .notify)) fun _ =>
          attempt (.reserveCommit order.id order.providerId currency amount b')
            (ret (.error .commit)) fun _ => ret .ok
        else ret (.error .notify)

def normalizedAmount (order : OrderFields) (currency : String) : Completion Unit × ℚ :=
  if order.token.baseCurrency.toLower = currency.toLower ∧ order.token.baseCurrency ≠ "USD" then
    match env.usdtRate order.amount currency with
    | none => (.error (), 0)
    | some r => if r = 0 then (.panicked, 0) else (.ok, Decimal.div order.amount r)
  else (.ok, order.amount)

def offerTest (order : OrderFields) (currency : String) (excludeList : List String) :
    QueueEntry → Completion Unit
  | .offer provider token rate (some minAmount) (some maxAmount) =>
    if provider ∈ excludeList ∨ token ≠ order.token.symbol then .error ()
    else
      match normalizedAmount env order currency with
      | (.ok, amount) =>
        if amount < minAmount ∨ maxAmount < amount ∨ rate = none then .error () else .ok
      | (r, _) => r
  | _ => .error ()

def providerFits (s : Store) (order : OrderFields) (currency provider : String) (rate : ℚ) : Bool :=
  match s.providerOrderTokens.find? fun t =>
      t.network = order.token.network ∧ t.provider = provider ∧ t.token = order.token.id ∧
        t.currency = currency ∧ t.address ≠ "" with
  | none => false
  | some t =>
    (s.balances.get (provider, currency)).any (·.isAvailable) ∧
      |rate - order.rate| ≤ order.rate * Decimal.div t.rateSlippage 100 ∧
      (s.balance provider currency).any fun b => order.fiat ≤ b.available

def matchRate (reassign : OrderFields → OrderProgram (Completion AssignError))
    (key : QueueKey) (excludeList : List String) :
    ℕ → ℕ → OrderFields → OrderProgram (Completion AssignError)
  | 0, _, _ => ret (.error .outOfFuel)
  | fuel + 1, index, order =>
    attempt .read (ret (.error .redis)) fun s =>
    match (s.queue key)[index]? with
    | none => ret (.error .redisNil)
    | some (.malformed _) => matchRate reassign key excludeList fuel (index + 1) order
    | some (.offer provider token rate minAmount maxAmount) =>
      let order := { order with providerId := provider }
      let next := matchRate reassign key excludeList fuel (index + 1) order
      match offerTest env order key.bucket.currency excludeList
        (.offer provider token rate minAmount maxAmount) with
      | .panicked => ret .panicked
      | .error _ => next
      | .ok =>
        attempt .read next fun s =>
        if ¬ providerFits s order key.bucket.currency provider (rate.getD 0) then next
        else
          let send := (sendOrderRequest conf env order).bind fun
            | .error _ => ignore (.pushExclude order.id provider) (reassign order)
            | r => ret r
          if index = 0 then
            -- a match at the head of the queue goes to its end
            attempt (.popQueue key) (ret (.error .redis)) fun s =>
            match (s.queue key).head? with
            | none => ret (.error .redisNil)
            | some data => attempt (.pushQueue key data) (ret (.error .redis)) fun _ => send
          else send

def assignFromQueue (reassign : OrderFields → OrderProgram (Completion AssignError)) (fuel : ℕ)
    (order : OrderFields) (excludeList : List String) : OrderProgram (Completion AssignError) :=
  match order.provisionBucket with
  | none => ret .panicked
  | some bucket =>
    (matchRate conf env reassign ⟨bucket, false⟩ excludeList fuel 0 order).bind fun
      | .error _ =>
        (matchRate conf env reassign ⟨bucket, true⟩ excludeList fuel 0 order).bind fun
          | .error .redisNil => ret .ok
          | r => ret r
      | r => ret r

def offerToNamed (queues : OrderFields → OrderProgram (Completion AssignError))
    (provider : ProviderProfile) (order : OrderFields) : OrderProgram (Completion AssignError) :=
  (sendOrderRequest conf env order).bind fun
    | .error _ => if provider.visibilityMode = .privateMode then ret .ok else queues order
    | r => ret r

def assignLockPaymentOrder : ℕ → OrderFields → OrderProgram (Completion AssignError)
  | 0, _ => ret (.error .outOfFuel)
  | fuel + 1, order =>
    attempt .read (ret (.error .redis)) fun s =>
    let excludeList := s.excludeList order.id
    let queues (order : OrderFields) :=
      assignFromQueue conf env (assignLockPaymentOrder fuel) fuel order excludeList
    if order.providerId = "" ∨ order.providerId ∈ excludeList then queues order
    else
      attempt .read (ret .panicked) fun s =>
      match s.providers.get order.providerId with
      | none => ret .panicked
      | some provider =>
        if order.updatedAt + 600 < s.now then
          match order.provisionBucket with
          | none => ret .panicked
          | some bucket =>
            -- a failed rate lookup leaves the zero rate
            let rate := (env.providerRate provider.id order.token.symbol bucket.currency).getD 0
            ignore (.setPaymentOrderRate order.id rate)
              (offerToNamed conf env queues provider { order with rate })
        else offerToNamed conf env queues provider order

end Stablenode
