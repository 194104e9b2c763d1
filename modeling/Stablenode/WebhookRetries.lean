import Stablenode.JsonText
import Stablenode.Table

/-! `RetryFailedWebhookNotifications` (tasks/tasks.go). Times are nanoseconds, and a delay is a
signed number of 64 bits. -/
namespace Stablenode.WebhookRetries

inductive RetryStatus where
  | success | failed | expired
  deriving DecidableEq

structure WebhookRetryAttempt where
  id : ℕ
  attemptNumber : ℤ
  nextRetryTime : ℤ
  payload : List (String × JsonValue)
  signature : String
  webhookUrl : String
  status : RetryStatus
  createdAt : ℤ

structure User where
  email : String
  firstName : String
  deriving DecidableEq

def baseDelay : ℤ := 2 * 60 * 10 ^ 9

def maxCumulativeTime : ℤ := 24 * 60 * 60 * 10 ^ 9

def powerOfTwo (n : ℤ) : ℤ :=
  if n < 0 then 0 else if n < 63 then 2 ^ n.toNat else -2 ^ 63

def delay (attemptNumber : ℤ) : ℤ :=
  Int.bmod (baseDelay * powerOfTwo (attemptNumber - 1)) (2 ^ 64)

def senderId (payload : List (String × JsonValue)) : Option String :=
  match payload.lookup "data" with
  | some (.object data) =>
    match data.lookup "senderId" with
    | some (.string text) => some text
    | _ => none
  | _ => none

structure RetryEnvironment where
  deliver : WebhookRetryAttempt → Option ℕ
  clock : WebhookRetryAttempt → ℤ
  parseUuid : String → Option ℕ
  /-- The sender profile with an id and its user edge; none if the query fails or finds none. -/
  senderProfile : ℕ → Option (Option User)
  sendWebhookFailureEmail : User → Bool

inductive Ending where
  | finished
  | returned (message : String)
  | panicked
  deriving DecidableEq

abbrev Attempts := Table WebhookRetryAttempt.id

def due (t : Attempts) (now : ℤ) : List WebhookRetryAttempt :=
  t.select fun a => a.status = .failed ∧ a.nextRetryTime ≤ now

namespace RetryEnvironment

variable (E : RetryEnvironment) (a : WebhookRetryAttempt)

def Delivered : Prop := ∃ code < 205, E.deliver a = some code

instance : Decidable (E.Delivered a) :=
  match h : E.deliver a with
  | none => isFalse (by rintro ⟨_, _, h'⟩; exact nomatch h.symm.trans h')
  | some code =>
    if hlt : code < 205 then isTrue ⟨code, hlt, h⟩
    else isFalse (by
      rintro ⟨code', hlt', h'⟩
      obtain rfl := Option.some.inj (h.symm.trans h')
      exact hlt hlt')

def nextRetryTime : ℤ := E.clock a + delay (a.attemptNumber + 1)

def Expires : Prop := maxCumulativeTime < E.nextRetryTime a - (a.createdAt - baseDelay)

instance : Decidable (E.Expires a) := inferInstanceAs (Decidable (_ < _))

def notifySender : Except Ending Unit :=
  match senderId a.payload with
  | none => .error .panicked
  | some text =>
    match E.parseUuid text with
    | none => .error (.returned "RetryFailedWebhookNotifications.FailedExtraction")
    | some uid =>
      match E.senderProfile uid with
      | none => .error (.returned "RetryFailedWebhookNotifications.CouldNotFetchProfile")
      | some none => .error .panicked
      | some (some user) =>
        if E.sendWebhookFailureEmail user then .ok ()
        else .error (.returned "RetryFailedWebhookNotifications.SendWebhookFailureEmail")

def attemptUpdate : Except Ending WebhookRetryAttempt :=
  if E.Delivered a then .ok { a with status := .success }
  else
    let retried : WebhookRetryAttempt :=
      { a with attemptNumber := a.attemptNumber + 1, nextRetryTime := E.nextRetryTime a }
    if E.Expires a then (E.notifySender a).map fun _ => { retried with status := .expired }
    else .ok retried

def save (t : Attempts) (updated : WebhookRetryAttempt) : Attempts :=
  t.modify updated.id
    (fun row => { row with
      attemptNumber := updated.attemptNumber, nextRetryTime := updated.nextRetryTime,
      status := updated.status })
    fun _ => rfl

def retryAttempts : List WebhookRetryAttempt → Attempts → Attempts × Ending
  | [], t => (t, .finished)
  | a :: attempts, t =>
    match E.attemptUpdate a with
    | .error ending => (t, ending)
    | .ok updated => retryAttempts attempts (save t updated)

def retryFailedWebhookNotifications (now : ℤ) (t : Attempts) : Attempts × Ending :=
  E.retryAttempts (due t now) t

def advanced : WebhookRetryAttempt :=
  if E.Delivered a then { a with status := .success }
  else
    { a with
      attemptNumber := a.attemptNumber + 1
      nextRetryTime := E.nextRetryTime a
      status := if E.Expires a then .expired else a.status }

def NotifiesSender : Prop :=
  ∃ text uid user, senderId a.payload = some text ∧ E.parseUuid text = some uid ∧
    E.senderProfile uid = some (some user) ∧ E.sendWebhookFailureEmail user = true

variable {E a}

lemma notifySender_eq_ok_iff : E.notifySender a = .ok () ↔ E.NotifiesSender a := by
  rw [notifySender, NotifiesSender]
  rcases senderId a.payload with _ | text
  · simp
  rcases hparse : E.parseUuid text with _ | uid
  · simp [hparse]
  rcases hprofile : E.senderProfile uid with _ | _ | user
  · simp [hparse, hprofile]
  · simp [hparse, hprofile]
  · cases hmail : E.sendWebhookFailureEmail user <;> simp [hparse, hprofile, hmail]

lemma attemptUpdate_eq_ok_iff {updated : WebhookRetryAttempt} :
    E.attemptUpdate a = .ok updated ↔
      updated = E.advanced a ∧ (E.Delivered a ∨ ¬ E.Expires a ∨ E.NotifiesSender a) := by
  rw [attemptUpdate, advanced, ← notifySender_eq_ok_iff]
  by_cases hdelivered : E.Delivered a
  · simp [hdelivered, eq_comm]
  by_cases hexpires : E.Expires a
  · rcases E.notifySender a with ending | ⟨⟩ <;>
      simp [hdelivered, hexpires, Except.map, eq_comm]
  · simp [hdelivered, hexpires, eq_comm]

@[simp] lemma advanced_id : (E.advanced a).id = a.id := by
  rw [advanced]
  split_ifs <;> rfl

lemma advanced_ne (hfailed : a.status = .failed) : E.advanced a ≠ a := by
  intro h
  rw [advanced] at h
  split_ifs at h
  · have hstatus := congrArg WebhookRetryAttempt.status h
    simp [hfailed] at hstatus
  all_goals
    have hnumber := congrArg WebhookRetryAttempt.attemptNumber h
    simp at hnumber

variable {t : Attempts} {attempts : List WebhookRetryAttempt}

lemma get_save_advanced (ha : t.get a.id = some a) :
    (save t (E.advanced a)).get a.id = some (E.advanced a) := by
  rw [save, advanced_id, Table.get_modify_self, ha, advanced]
  split_ifs <;> rfl

lemma get_save_of_ne {k : ℕ} (hk : k ≠ a.id) : (save t a).get k = t.get k :=
  Table.get_modify_of_ne t _ _ hk

lemma get_retryAttempts_of_notMem {k : ℕ} (hk : k ∉ attempts.map WebhookRetryAttempt.id)
    (t : Attempts) : (E.retryAttempts attempts t).1.get k = t.get k := by
  induction attempts generalizing t with
  | nil => rfl
  | cons a attempts ih =>
    rw [List.map_cons, List.mem_cons, not_or] at hk
    rw [retryAttempts]
    split
    next => rfl
    next updated hupdated =>
      obtain ⟨rfl, -⟩ := attemptUpdate_eq_ok_iff.1 hupdated
      rw [ih hk.2, get_save_of_ne (by rw [advanced_id]; exact hk.1)]

lemma retryAttempts_advance_iff (hnodup : (attempts.map WebhookRetryAttempt.id).Nodup)
    (hrows : ∀ a ∈ attempts, t.get a.id = some a ∧ a.status = .failed) :
    (∀ a ∈ attempts, (E.retryAttempts attempts t).1.get a.id = some (E.advanced a)) ↔
      ∀ a ∈ attempts, E.Delivered a ∨ ¬ E.Expires a ∨ E.NotifiesSender a := by
  induction attempts generalizing t with
  | nil => simp
  | cons a attempts ih =>
    rw [List.map_cons, List.nodup_cons] at hnodup
    obtain ⟨ha, hrows⟩ := List.forall_mem_cons.1 hrows
    rw [List.forall_mem_cons, List.forall_mem_cons, retryAttempts]
    rcases hupdated : E.attemptUpdate a with ending | updated
    · have hstops : ¬ (E.Delivered a ∨ ¬ E.Expires a ∨ E.NotifiesSender a) := by
        intro h
        have hok := attemptUpdate_eq_ok_iff.2 ⟨rfl, h⟩
        rw [hupdated] at hok
        cases hok
      refine iff_of_false (fun h => ?_) fun h => hstops h.1
      exact advanced_ne ha.2 (Option.some.inj (h.1.symm.trans ha.1))
    · obtain ⟨rfl, hpasses⟩ := attemptUpdate_eq_ok_iff.1 hupdated
      have hself : (E.retryAttempts attempts (save t (E.advanced a))).1.get a.id
          = some (E.advanced a) := by
        rw [get_retryAttempts_of_notMem hnodup.1, get_save_advanced ha.1]
      rw [ih hnodup.2]
      · exact ⟨fun h => ⟨hpasses, h.2⟩, fun h => ⟨hself, h.2⟩⟩
      intro b hb
      have hne : b.id ≠ a.id := fun h => hnodup.1 (h ▸ List.mem_map_of_mem hb)
      rw [get_save_of_ne (by rw [advanced_id]; exact hne)]
      exact hrows b hb

lemma due_rows {now : ℤ} (h : a ∈ due t now) : t.get a.id = some a ∧ a.status = .failed := by
  rw [due, Table.select, List.mem_filter, decide_eq_true_eq] at h
  exact ⟨Table.get_of_mem h.1, h.2.1⟩

theorem retries_advance_iff (E : RetryEnvironment) (now : ℤ) (t : Attempts) :
    (∀ a ∈ due t now,
      (E.retryFailedWebhookNotifications now t).1.get a.id = some (E.advanced a)) ↔
      ∀ a ∈ due t now, E.Delivered a ∨ ¬ E.Expires a ∨ E.NotifiesSender a := by
  refine retryAttempts_advance_iff ?_ fun a ha => due_rows ha
  exact t.nodup_keys.sublist (List.filter_sublist.map _)

section Passes

def retryPasses (passes : List (RetryEnvironment × ℤ)) (t : Attempts) : Attempts :=
  passes.foldl (fun t pass => (pass.1.retryFailedWebhookNotifications pass.2 t).1) t

def InRange (a : WebhookRetryAttempt) : Prop :=
  1 ≤ a.attemptNumber ∧ a.attemptNumber ≤ 11 ∧ (a.status = .failed → a.attemptNumber ≤ 10)

lemma advanced_inRange (ha : InRange a) (hfailed : a.status = .failed)
    (hclock : a.createdAt ≤ E.clock a) : InRange (E.advanced a) := by
  obtain ⟨hpos, hle, hten⟩ := ha
  have hnumber := hten hfailed
  rw [advanced]
  split_ifs with hdelivered hexpires
  · exact ⟨hpos, hle, by simp⟩
  · exact ⟨by dsimp only; omega, by dsimp only; omega, by simp⟩
  refine ⟨by dsimp only; omega, by dsimp only; omega, fun _ => ?_⟩
  by_contra hlast
  -- the eleventh delay alone is longer than a day
  have hdelay : delay (a.attemptNumber + 1) = 122880 * 10 ^ 9 := by
    rw [show a.attemptNumber = 10 by dsimp only at hlast; omega]
    rfl
  apply hexpires
  rw [Expires, nextRetryTime, hdelay, maxCumulativeTime, baseDelay]
  omega

lemma save_inRange (ht : ∀ b ∈ t.rows, InRange b) (ha : InRange a) :
    ∀ b ∈ (save t a).rows, InRange b := by
  intro b hb
  have hget := Table.get_of_mem hb
  rw [save, Table.get_modify] at hget
  split_ifs at hget
  · obtain ⟨c, -, rfl⟩ := Option.map_eq_some_iff.1 hget
    exact ha
  · exact ht b (Table.mem_of_get hget)

lemma retryAttempts_inRange (hclock : ∀ a, a.createdAt ≤ E.clock a) (ht : ∀ b ∈ t.rows, InRange b)
    (h : ∀ a ∈ attempts, InRange a ∧ a.status = .failed) :
    ∀ b ∈ (E.retryAttempts attempts t).1.rows, InRange b := by
  induction attempts generalizing t with
  | nil => exact ht
  | cons a attempts ih =>
    obtain ⟨⟨ha, hfailed⟩, h⟩ := List.forall_mem_cons.1 h
    rw [retryAttempts]
    split
    next => exact ht
    next updated hupdated =>
      obtain ⟨rfl, -⟩ := attemptUpdate_eq_ok_iff.1 hupdated
      exact ih (save_inRange ht (advanced_inRange ha hfailed (hclock a))) h

theorem retryPasses_doubles (passes : List (RetryEnvironment × ℤ))
    (hclock : ∀ pass ∈ passes, ∀ a, a.createdAt ≤ pass.1.clock a) (ht : ∀ a ∈ t.rows, InRange a) :
    ∀ a ∈ (retryPasses passes t).rows, InRange a ∧ (a.status = .failed →
      delay (a.attemptNumber + 1) = baseDelay * 2 ^ a.attemptNumber.toNat) := by
  induction passes generalizing t with
  | nil =>
    intro a ha
    refine ⟨ht a ha, fun hfailed => ?_⟩
    obtain ⟨hpos, -, hten⟩ := ht a ha
    have hnumber := hten hfailed
    generalize a.attemptNumber = n at *
    interval_cases n <;> rfl
  | cons pass passes ih =>
    obtain ⟨hpass, hclock⟩ := List.forall_mem_cons.1 hclock
    exact ih hclock (retryAttempts_inRange hpass ht fun a ha =>
      ⟨ht a (Table.mem_of_get (due_rows ha).1), (due_rows ha).2⟩)

end Passes

end RetryEnvironment

namespace Sample

def orphaned : WebhookRetryAttempt where
  id := 1
  attemptNumber := 9
  nextRetryTime := 0
  payload := [("data", .object [("senderId", .string "s1")])]
  signature := "5f1c"
  webhookUrl := "one"
  status := .failed
  createdAt := -(1020 * 60 * 10 ^ 9)

def deliverable : WebhookRetryAttempt where
  id := 2
  attemptNumber := 1
  nextRetryTime := 0
  payload := [("data", .object [("senderId", .string "s2")])]
  signature := "77ab"
  webhookUrl := "two"
  status := .failed
  createdAt := 0

def attempts : Attempts := ⟨[orphaned, deliverable], by decide⟩

def deliveries : RetryEnvironment where
  deliver a := if a.id = 2 then some 200 else none
  clock _ := 0
  parseUuid _ := some 7
  senderProfile _ := none
  sendWebhookFailureEmail _ := true

end Sample

open WebhookRetries.Sample in
theorem orphaned_attempt_ends_run :
    due attempts 0 = [orphaned, deliverable] ∧ deliveries.Delivered deliverable ∧
      (deliveries.advanced deliverable).status = .success ∧
      deliveries.retryFailedWebhookNotifications 0 attempts =
        (attempts, .returned "RetryFailedWebhookNotifications.CouldNotFetchProfile") := by
  refine ⟨rfl, by decide, by decide, rfl⟩

open WebhookRetries.Sample RetryEnvironment in
theorem undelivered_attempt_doubles :
    let passes := [({ deliveries with deliver := fun _ => none, clock := fun a => a.createdAt }, 0)]
    ((retryPasses passes (.single deliverable)).get 2).map WebhookRetryAttempt.attemptNumber = some 2 ∧
      ∀ a ∈ (retryPasses passes (.single deliverable)).rows, InRange a ∧ (a.status = .failed →
        delay (a.attemptNumber + 1) = baseDelay * 2 ^ a.attemptNumber.toNat) := by
  refine ⟨by decide, retryPasses_doubles _ ?_ ?_⟩
  · rintro pass hpass a
    rw [List.mem_singleton.1 hpass]
  · rintro a ha
    rw [List.mem_singleton.1 ha]
    exact ⟨by decide, by decide, by decide⟩

end Stablenode.WebhookRetries
