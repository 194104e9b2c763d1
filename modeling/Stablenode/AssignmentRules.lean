import Stablenode.ProgramLabels

/-! The invariant rule of the assignment. -/
namespace Stablenode

open Proc

section

variable {γ : Type} {ghost : OrderWrite → Store → γ → γ} {I : Store × γ → Prop}
  {c : OrderWrite → Store × γ → Prop} {conf : OrderConfig} {env : Environment} {id : ℕ}
  {good : List String → Prop}

structure AssignmentInvariant (ghost : OrderWrite → Store → γ → γ) (I : Store × γ → Prop)
    (c : OrderWrite → Store × γ → Prop) (conf : OrderConfig) (env : Environment) (id : ℕ)
    (good : List String → Prop) : Prop where
  write : ∀ w, AssignmentWrite w → ∀ x, I x → c w x → I (watch OrderWrite.exec ghost w x)
  excludeList : ∀ x, I x → good (x.1.excludeList id)
  send : ∀ (order : OrderFields) (excluded : List String), order.id = id → good excluded →
    order.providerId ∉ excluded →
      Keeps OrderWrite.exec ghost I c (sendOrderRequest conf env order)

theorem assignLockPaymentOrder_keeps (hI : AssignmentInvariant ghost I c conf env id good)
    (fuel : ℕ) {order : OrderFields} (hid : order.id = id) :
    Keeps OrderWrite.exec ghost I c (assignLockPaymentOrder conf env fuel order) := by
  have hrule : AssignmentRule conf env (fun o => o.id = id) good
      (Keeps OrderWrite.exec ghost I c) :=
    { ret := keeps_ret
      bind := keeps_bind
      read := fun _ => keeps_attempt (hI.write _ .read)
      readExclude := fun h _ hk => keeps_attempt_of_inv (hI.write _ .read) fun x hx =>
        hk x.1 (h ▸ hI.excludeList x hx)
      offer := fun _ h => h
      rotate := fun key hsend => by
        refine keeps_attempt (hI.write _ (.popQueue _)) fun s => ?_
        split
        · exact keeps_ret _
        · exact keeps_attempt (hI.write _ (.pushQueue _ _)) fun _ => hsend
      exclude := fun _ _ => keeps_ignore (hI.write _ (.pushExclude _ _))
      setRate := fun _ h hk => keeps_ignore (hI.write _ (.setPaymentOrderRate _ _)) (hk h)
      send := hI.send _ _ }
  exact hrule.assignLockPaymentOrder fuel hid

end

end Stablenode
