import Stablenode.ProgramLabels

/-! What the writes do to the queues of the buckets. -/
namespace Stablenode

open Proc

def QueueEntry.provider? : QueueEntry → Option String
  | .offer provider _ _ _ _ => some provider
  | .malformed _ => none

lemma Store.queue_updateQueue (s : Store) (key : QueueKey) (f : List QueueEntry → List QueueEntry)
    (key' : QueueKey) :
    (s.updateQueue key f).queue key' = if key' = key then f (s.queue key) else s.queue key' := by
  rw [updateQueue]
  split
  next hsome =>
    simp only [queue, Table.get_modify]
    split
    · cases hget : s.queues.get key with
      | none => simp [hget] at hsome
      | some q => rfl
    · rfl
  next hnone =>
    rw [Option.not_isSome_iff_eq_none] at hnone
    by_cases hkey : key' = key
    · subst hkey
      rw [if_pos rfl, queue, queue, hnone]
      exact congrArg (fun q => (q.map Queue.entries).getD [])
        (Table.get_insert_self (a := ⟨key', f []⟩) hnone)
    · rw [if_neg hkey, queue, queue]
      exact congrArg (fun q => (q.map Queue.entries).getD [])
        (Table.get_insert_of_ne (t := s.queues) (a := ⟨key, f []⟩) hkey)

variable {w : OrderWrite}

namespace OrderWrite

def writesQueue : OrderWrite → Bool
  | popQueue _ | pushQueue _ _ | setQueueFromEnd _ _ _ | removeFromQueue _ _ => true
  | _ => false

lemma exec_queues (h : w.writesQueue = false) (s : Store) : (w.exec s).queues = s.queues := by
  cases w with
  | popQueue | pushQueue | setQueueFromEnd | removeFromQueue => cases h
  | fulfillUpdate order log | syncStatus order status log =>
    simp only [exec]
    obtain ⟨logs, hl⟩ := s.linkLog_frame log _
    rw [hl]
    rfl
  | gatewayCommit event payment =>
    obtain ⟨logs, orders, he⟩ := exec_gatewayCommit event payment s
    rw [he]
    split <;> rfl
  | _ =>
    simp only [exec]
    repeat' split
    all_goals rfl

lemma exec_queue (h : w.writesQueue = false) (s : Store) (key : QueueKey) :
    (w.exec s).queue key = s.queue key := by
  rw [Store.queue, exec_queues h, Store.queue]

end OrderWrite

lemma SendWrite.exec_frame {id : ℕ} (h : SendWrite id w) (s : Store) :
    (w.exec s).queues = s.queues ∧ (w.exec s).excludeLists = s.excludeLists := by
  cases h with
  | read | setOrderRequest | expireOrderRequestAt | newOrder | reserveCommit =>
    refine ⟨OrderWrite.exec_queues rfl s, ?_⟩
    simp only [OrderWrite.exec]
    repeat' split
    all_goals rfl

end Stablenode
