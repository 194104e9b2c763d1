import Stablenode.Faults
import Stablenode.Tasks
import Stablenode.Text

/-! The listener of `ReassignStaleOrderRequest` (tasks/tasks.go) over key events of Redis. -/
namespace Stablenode

open Proc Run

namespace ReassignListener

def orderIdOf (parse : String → Option ℕ) (payload : String) : Option ℕ :=
  parse ((splitText '_' payload).getLast?.getD "")

def listen (parse : String → Option ℕ) : List String → OrderProgram (Completion AssignError)
  | [] => ret .ok
  | payload :: payloads =>
    (reassignStaleOrderRequest (orderIdOf parse payload)).bind fun
      | .panicked => ret .panicked
      | _ => listen parse payloads

def staleFields (token : Token) (o : LockPaymentOrder) : OrderFields where
  id := o.id
  token := token
  amount := o.amount
  rate := o.rate
  institution := o.institution
  providerId := ""
  provisionBucket := none
  updatedAt := 0

lemma assign_staleFields (conf : OrderConfig) (env : Environment) (fuel : ℕ) (token : Token)
    (o : LockPaymentOrder) :
    assignLockPaymentOrder conf env (fuel + 1) (staleFields token o) =
      attempt .read (ret (.error .redis)) fun _ => ret .panicked := by
  rw [assignLockPaymentOrder]
  rfl

lemma reassignStaleOrderRequest_eq (conf : OrderConfig) (env : Environment) (fuel order : ℕ)
    (token : Token) :
    reassignStaleOrderRequest (some order) =
      attempt .read (ret .panicked) fun s =>
        match s.lockOrders.get order with
        | none => ret .panicked
        | some o => assignLockPaymentOrder conf env (fuel + 1) (staleFields token o) := by
  simp only [assign_staleFields]
  rfl

def Spared (parse : String → Option ℕ) (s : Store) : List Bool → List String → Prop
  | _, [] => True
  | faults, payload :: payloads =>
    match orderIdOf parse payload with
    | none => Spared parse s faults payloads
    | some order =>
      (¬ failsAt faults 0 ∧ s.hasLockOrder order = true ∧ failsAt faults 1) ∧
        Spared parse s (faults.drop 2) payloads

theorem listen_handles_iff (parse : String → Option ℕ) (s : Store) (faults : List Bool)
    (payloads : List String) :
    (listen parse payloads).result OrderWrite.exec faults s = .ok ↔
      Spared parse s faults payloads := by
  induction payloads generalizing faults with
  | nil => simp [listen, Spared]
  | cons payload payloads ih =>
    rw [listen, Spared]
    cases orderIdOf parse payload with
    | none => exact ih faults
    | some order =>
      rw [reassignStaleOrderRequest, bind_attempt, result_attempt_faults]
      by_cases hquery : failsAt faults 0
      · simp [hquery]
      cases hget : s.lockOrders.get order with
      | none => simp [hquery, hget, Store.hasLockOrder]
      | some o =>
        have htail : faults.tail.tail = faults.drop 2 := by
          rw [← List.drop_one, ← List.drop_one, List.drop_drop]
        simp only [hquery, if_false, OrderWrite.exec_read, bind_attempt, bind_ret,
          result_attempt_faults, failsAt_tail, zero_add]
        by_cases hexclude : failsAt faults 1
        · simp only [hexclude, if_true]
          rw [ih, htail]
          simp [Store.hasLockOrder, hget]
        · simp [hexclude]

theorem key_event_stops_listener :
    let parse (text : String) : Option ℕ := if text = "1" then some 1 else if text = "2" then some 2
      else none
    (listen parse ["order_request_2", "order_request_1"]).result OrderWrite.exec [] Sample.store =
        .panicked ∧
      (listen parse ["order_request_1"]).result OrderWrite.exec [] Sample.store = .panicked ∧
      (listen parse ["order_request_x", ""]).result OrderWrite.exec [] Sample.store = .ok := by
  decide +kernel

end ReassignListener

end Stablenode
