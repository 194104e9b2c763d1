import Stablenode.Run

/-! The circuit breaker and the back-off of an Etherscan worker (services/etherscan.go). Times are
nanoseconds. -/
namespace Stablenode.EtherscanBreaker

inductive ErrorType where
  | network
  | rateLimit
  | dailyLimit
  | api
  | unknown
  deriving DecidableEq

def toLower : Char → Char
  | 'K' => 'k'
  | 'İ' => 'i'
  | c => c.toLower

def contains (text pattern : String) : Bool :=
  text.toList.tails.any (pattern.toList.isPrefixOf ·)

def classifyError (message : String) : ErrorType :=
  let text := String.ofList (message.toList.map toLower)
  if contains text "max daily limit reached" then .dailyLimit
  else if contains text "max rate limit reached" then .rateLimit
  else if contains text "max calls per sec" then .rateLimit
  else if contains text "rate limit" then .rateLimit
  else if contains text "notok" then .api
  else if contains text "timeout" then .network
  else if contains text "connection" then .network
  else if contains text "too many invalid api key attempts" then .api
  else if contains text "invalid api key" then .api
  else if contains text "missing required parameter" then .api
  else if contains text "invalid module name" then .api
  else .unknown

structure EtherscanWorker where
  processed : ℕ := 0
  errors : ℕ := 0
  consecutiveErrors : ℕ := 0
  circuitOpen : Bool := false
  lastFailure : ℕ := 0
  exhaustedUntil : ℕ := 0
  backoffInterval : ℕ := 0
  blocked : Bool := false
  deriving DecidableEq

def second : ℕ := 10 ^ 9

def circuitBreakerThreshold : ℕ := 5

def circuitBreakerTimeout : ℕ := 30 * second

inductive Processing where
  | noRequests
  | malformed (error : String)
  | tooOld
  | answered (error : Option String)

structure Tick where
  now : ℕ
  processing : Processing

namespace EtherscanWorker

variable (w : EtherscanWorker)

def markExhausted (now : ℕ) : EtherscanWorker :=
  { w with exhaustedUntil := (now / (86400 * second) + 1) * (86400 * second) }

def increaseBackoff : EtherscanWorker :=
  if w.backoffInterval = 0 then { w with backoffInterval := second / 2 }
  else { w with backoffInterval := min (w.backoffInterval * 3 / 2) (5 * second) }

def recordError (now : ℕ) : EtherscanWorker :=
  { w with
    errors := w.errors + 1
    consecutiveErrors := w.consecutiveErrors + 1
    lastFailure := now
    circuitOpen := w.circuitOpen || decide (circuitBreakerThreshold ≤ w.consecutiveErrors + 1) }

def recordSuccess : EtherscanWorker :=
  { w with processed := w.processed + 1, consecutiveErrors := 0, backoffInterval := 0 }

def isExhausted (now : ℕ) : Bool := now < w.exhaustedUntil

def isCircuitOpen (now : ℕ) : Option Bool :=
  if w.circuitOpen && decide (now - w.lastFailure < circuitBreakerTimeout) then some true
  else if w.circuitOpen && decide (circuitBreakerTimeout ≤ now - w.lastFailure) then none
  else some false

def Processes (now : ℕ) : Prop :=
  w.blocked = false ∧ w.isExhausted now = false ∧ w.isCircuitOpen now = some false

instance (now : ℕ) : Decidable (w.Processes now) := inferInstanceAs (Decidable (_ ∧ _ ∧ _))

def processNextRequest (now : ℕ) : Processing → EtherscanWorker × Option String
  | .noRequests => (w, some "no requests in queue")
  | .malformed error => (w, some ("failed to unmarshal request: " ++ error))
  | .tooOld | .answered none => (w, none)
  | .answered (some message) =>
    match classifyError message with
    | .dailyLimit => (w.markExhausted now, none)
    | .rateLimit => (w.increaseBackoff, none)
    | _ => (w, none)

def tick (t : Tick) : EtherscanWorker :=
  if w.blocked || w.isExhausted t.now then w
  else
    match w.isCircuitOpen t.now with
    | none => { w with blocked := true }
    | some true => w
    | some false =>
      match w.processNextRequest t.now t.processing with
      | (w, some error) => if error ≠ "no requests in queue" then w.recordError t.now else w
      | (w, none) => w.recordSuccess

end EtherscanWorker

structure Watched where
  worker : EtherscanWorker := {}
  failedInRow : ℕ := 0
  limited : Bool := false

namespace Watched

def apiCall (s : Watched) (t : Tick) : Option (Option String) :=
  match t.processing with
  | .answered error => if s.worker.Processes t.now then some error else none
  | _ => none

def step (t : Tick) (s : Watched) : Watched where
  worker := s.worker.tick t
  failedInRow :=
    match s.apiCall t with
    | some (some _) => s.failedInRow + 1
    | some none => 0
    | none => s.failedInRow
  limited :=
    match s.apiCall t with
    | some (some message) => s.limited || decide (classifyError message = .rateLimit)
    | some none => false
    | none => s.limited

structure Sound (t : Tick) (s : Watched) : Prop where
  opens : ∀ message, s.apiCall t = some (some message) → 5 ≤ (step t s).failedInRow →
    (step t s).worker.circuitOpen = true
  counts : ∀ message, s.apiCall t = some (some message) →
    (step t s).worker.errors = s.worker.errors + 1
  backoff : (step t s).limited = true → 0 < (step t s).worker.backoffInterval
  unblocked : (step t s).worker.blocked = false

def Harmless (t : Tick) (s : Watched) : Prop :=
  (∀ message, s.apiCall t ≠ some (some message)) ∧
    (s.worker.isExhausted t.now = false → s.worker.isCircuitOpen t.now ≠ none)

variable {s : Watched} {t : Tick}

lemma worker_step_of_processes (h : s.worker.Processes t.now) :
    (step t s).worker =
      match s.worker.processNextRequest t.now t.processing with
      | (w, some error) => if error ≠ "no requests in queue" then w.recordError t.now else w
      | (w, none) => w.recordSuccess := by
  obtain ⟨hblocked, hexhausted, hclosed⟩ := h
  simp [step, EtherscanWorker.tick, hblocked, hexhausted, hclosed]

lemma errors_step_of_failed {message : String} (h : s.apiCall t = some (some message)) :
    (step t s).worker.errors = s.worker.errors := by
  rw [apiCall] at h
  split at h
  next error hprocessing =>
    split_ifs at h with hprocesses
    obtain rfl : error = some message := by simpa using h
    rw [worker_step_of_processes hprocesses, hprocessing]
    simp only [EtherscanWorker.processNextRequest]
    cases classifyError message with
    | rateLimit =>
      simp only [EtherscanWorker.recordSuccess, EtherscanWorker.increaseBackoff]
      split_ifs <;> rfl
    | _ => rfl
  · cases h

def Quiet (s : Watched) : Prop := s.worker.blocked = false ∧ s.limited = false

lemma blocked_step_of_processes (h : s.worker.Processes t.now) :
    (step t s).worker.blocked = false := by
  have hblocked := h.1
  rw [worker_step_of_processes h]
  cases hp : t.processing with
  | noRequests => simpa [EtherscanWorker.processNextRequest] using hblocked
  | malformed error =>
    simp only [EtherscanWorker.processNextRequest]
    split_ifs
    · exact hblocked
    · exact hblocked
  | tooOld => exact hblocked
  | answered error =>
    cases error with
    | none => exact hblocked
    | some message =>
      simp only [EtherscanWorker.processNextRequest]
      cases classifyError message with
      | rateLimit =>
        simp only [EtherscanWorker.recordSuccess, EtherscanWorker.increaseBackoff]
        split_ifs <;> exact hblocked
      | _ => exact hblocked

lemma limited_step (h : s.limited = false) (hcall : ∀ message, s.apiCall t ≠ some (some message)) :
    (step t s).limited = false := by
  simp only [step]
  split
  next message hm => exact absurd hm (hcall message)
  · rfl
  · exact h

lemma blocked_step_iff (h : s.worker.blocked = false) :
    (step t s).worker.blocked = false ↔
      (s.worker.isExhausted t.now = false → s.worker.isCircuitOpen t.now ≠ none) := by
  cases hexhausted : s.worker.isExhausted t.now with
  | true => simp [step, EtherscanWorker.tick, hexhausted, h]
  | false =>
    cases hcircuit : s.worker.isCircuitOpen t.now with
    | none => simp [step, EtherscanWorker.tick, hexhausted, h, hcircuit]
    | some isOpen =>
      cases isOpen with
      | true => simp [step, EtherscanWorker.tick, hexhausted, h, hcircuit]
      | false => simpa using blocked_step_of_processes ⟨h, hexhausted, hcircuit⟩

lemma sound_iff_harmless (h : s.Quiet) : s.Sound t ↔ s.Harmless t := by
  constructor
  · intro hs
    refine ⟨fun message hcall => ?_, (blocked_step_iff h.1).1 hs.unblocked⟩
    have hcount := hs.counts message hcall
    rw [errors_step_of_failed hcall] at hcount
    omega
  · rintro ⟨hcall, hcircuit⟩
    exact ⟨fun message hm => absurd hm (hcall message), fun message hm => absurd hm (hcall message),
      fun hlimited => by simp [limited_step h.2 hcall] at hlimited, (blocked_step_iff h.1).2 hcircuit⟩

end Watched

open Watched

theorem breaker_sound_iff (ts : List Tick) :
    Run.Admitted step (fun t s => s.Sound t) {} ts ↔
      Run.Admitted step (fun t s => s.Harmless t) {} ts := by
  refine Run.admitted_congr (p := Quiet) (fun t s hs => sound_iff_harmless hs) ?_ ⟨rfl, rfl⟩ ts
  exact fun t s hs hharmless =>
    ⟨(blocked_step_iff hs.1).2 hharmless.2, limited_step hs.2 hharmless.1⟩

namespace Sample

def limitedCalls : List Tick :=
  (List.range 5).map fun i => ⟨i * second, .answered (some "Max rate limit reached")⟩

def malformedEntries : List Tick :=
  (List.range 5).map (fun i => ⟨i * second, .malformed "unexpected end of JSON input"⟩) ++
    [⟨34 * second, .noRequests⟩]

end Sample

open Sample in
theorem failures_uncounted_and_worker_blocked :
    (Run.exec step {} limitedCalls).failedInRow = 5 ∧
      (Run.exec step {} limitedCalls).limited = true ∧
      (Run.exec step {} limitedCalls).worker = { processed := 5 } ∧
      (Run.exec step {} malformedEntries).worker.blocked = true := by
  decide +kernel

end Stablenode.EtherscanBreaker
