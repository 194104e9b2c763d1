import Stablenode.Run

/-! The balance cache of the polling service (services/polling_service.go). -/
namespace Stablenode.PollingCache

structure CachedBalance where
  amount : ℚ
  timestamp : ℕ

structure Order where
  chainId : ℤ
  contractAddress : String
  address : String
  validUntil : ℕ
  amountPaid : ℚ

def Order.cacheKey (o : Order) : String :=
  toString o.chainId ++ ":" ++ o.contractAddress ++ ":" ++ o.address

structure Payment where
  order : Order
  amount : ℚ
  time : ℕ

structure Poller where
  now : ℕ
  balances : String → Option CachedBalance
  payments : List Payment

/-- `check` polls one order; `answer` is what the node says when it is asked. -/
inductive Event where
  | wait (duration : ℕ)
  | check (order : Order) (answer : Option ℚ)

variable (ttl : ℕ) {F : String → ℚ → ℕ → Prop} {s : Poller} {order : Order} {balance : ℚ}

def Poller.get (s : Poller) (key : String) : Option ℚ :=
  match s.balances key with
  | none => none
  | some cached => if ttl < s.now - cached.timestamp then none else some cached.amount

def Poller.set (s : Poller) (key : String) (amount : ℚ) : Poller :=
  { s with balances := Function.update s.balances key (some ⟨amount, s.now⟩) }

def processBalance (s : Poller) (order : Order) (balance : ℚ) : Poller :=
  if order.amountPaid < balance then { s with payments := ⟨order, balance, s.now⟩ :: s.payments }
  else s

def checkOrderPayment (s : Poller) (order : Order) (answer : Option ℚ) : Poller :=
  if order.validUntil < s.now then s
  else
    match s.get ttl order.cacheKey with
    | some cached => processBalance s order cached
    | none =>
      match answer with
      | none => s
      | some balance => processBalance (s.set order.cacheKey balance) order balance

def step : Event → Poller → Poller
  | .wait duration, s => { s with now := s.now + duration }
  | .check order answer, s => checkOrderPayment ttl s order answer

def start : Poller := ⟨0, fun _ => none, []⟩

def Fetched (es : List Event) (key : String) (amount : ℚ) (time : ℕ) : Prop :=
  ∃ pre order post, es = pre ++ .check order (some amount) :: post ∧ order.cacheKey = key ∧
    (Run.exec (step ttl) start pre).now = time

structure Recent (F : String → ℚ → ℕ → Prop) (s : Poller) : Prop where
  cached : ∀ key c, s.balances key = some c → F key c.amount c.timestamp ∧ c.timestamp ≤ s.now
  paid : ∀ u ∈ s.payments, u.order.amountPaid < u.amount ∧
    ∃ time, F u.order.cacheKey u.amount time ∧ time ≤ u.time ∧ u.time ≤ time + ttl

variable {ttl}

lemma Recent.processBalance (h : Recent ttl F s) {time : ℕ}
    (hF : F order.cacheKey balance time) (hle : time ≤ s.now) (hnow : s.now ≤ time + ttl) :
    Recent ttl F (processBalance s order balance) := by
  rw [PollingCache.processBalance]
  split_ifs with hpaid
  · exact ⟨h.cached, List.forall_mem_cons.2 ⟨⟨hpaid, time, hF, hle, hnow⟩, h.paid⟩⟩
  · exact h

lemma Recent.set (h : Recent ttl F s) (hF : F order.cacheKey balance s.now) :
    Recent ttl F (s.set order.cacheKey balance) := by
  refine ⟨fun key c hc => ?_, h.paid⟩
  simp only [Poller.set, Function.update_apply] at hc
  split_ifs at hc with hkey
  · obtain rfl := Option.some.inj hc
    exact ⟨hkey ▸ hF, le_rfl⟩
  · exact h.cached key c hc

lemma Recent.checkOrderPayment (h : Recent ttl F s) {answer : Option ℚ}
    (hF : ∀ balance, answer = some balance → F order.cacheKey balance s.now) :
    Recent ttl F (checkOrderPayment ttl s order answer) := by
  fun_cases PollingCache.checkOrderPayment with
  | case1 | case3 => exact h
  | case2 _ _ balance hget =>
    obtain ⟨c, hc, hnow, rfl⟩ : ∃ c, s.balances order.cacheKey = some c ∧
        s.now ≤ c.timestamp + ttl ∧ c.amount = balance := by
      grind [Poller.get]
    obtain ⟨hfetched, hle⟩ := h.cached _ c hc
    exact h.processBalance hfetched hle hnow
  | case4 => exact (h.set (hF _ rfl)).processBalance (hF _ rfl) le_rfl (Nat.le_add_right ..)

/-- Every payment the poller records is what the node answered for the same key at most `ttl`
before. -/
theorem payments_recent (es : List Event) :
    Recent ttl (Fetched ttl es) (Run.exec (step ttl) start es) := by
  refine (Run.always_of_splits ⟨nofun, nofun⟩ fun pre e post hes h => ?_).last
  cases e with
  | wait n => exact ⟨fun key c hc => (h.cached key c hc).imp_right Nat.le_add_right_of_le, h.paid⟩
  | check order answer =>
    exact h.checkOrderPayment fun _ hb => ⟨pre, order, post, hb ▸ hes, rfl, rfl⟩

example : (Run.exec (step 30) start [.check ⟨1, "t", "a", 99, 0⟩ (some 5), .wait 9,
    .check ⟨1, "t", "a", 99, 2⟩ (some 9)]).payments.map (·.amount) = [5, 5] := by
  decide +kernel

end Stablenode.PollingCache
