import Stablenode.Faults

/-! Processes that open database transactions. A script answers every call; what is open at the end
leaks. -/
namespace Stablenode.Proc

variable {τ ℓ σ α β : Type}

inductive TxCall (τ ℓ : Type) where
  | begin (tx : τ)
  | commit (tx : τ)
  | rollback (tx : τ)
  | step (l : ℓ)
  deriving DecidableEq

def TxCall.IsStep : TxCall τ ℓ → Prop
  | step _ => True
  | _ => False

structure Exit (α : Type) where
  result : α
  err : Bool

def rollbackOnErr (tx : τ) (body : Proc (TxCall τ ℓ) σ (Exit α)) : Proc (TxCall τ ℓ) σ α :=
  body.bind fun e => if e.err then ignore (.rollback tx) (ret e.result) else ret e.result

def Succeeds (script : TxCall τ ℓ → Option σ) (c : TxCall τ ℓ) : Prop := (script c).isSome = true

instance (script : TxCall τ ℓ → Option σ) (c : TxCall τ ℓ) : Decidable (Succeeds script c) :=
  inferInstanceAs (Decidable (_ = true))

def Branch (script : TxCall τ ℓ → Option σ) (c : TxCall τ ℓ) (onFailure : Prop)
    (onSuccess : σ → Prop) : Prop :=
  (script c = none → onFailure) ∧ ∀ s, script c = some s → onSuccess s

variable {script : TxCall τ ℓ → Option σ} {c : TxCall τ ℓ} {l : ℓ} {tx : τ} {txs own : List τ} {s : σ}
  {failed p : Proc (TxCall τ ℓ) σ α} {q : Proc (TxCall τ ℓ) σ β} {k : σ → Proc (TxCall τ ℓ) σ α}
  {g : β → Proc (TxCall τ ℓ) σ α} {closes closes' onFailure : Prop} {onSuccess : σ → Prop}

lemma branch_none (h : script c = none) : Branch script c onFailure onSuccess ↔ onFailure := by
  simp [Branch, h]

lemma branch_some (h : script c = some s) : Branch script c onFailure onSuccess ↔ onSuccess s := by
  simp [Branch, h]

lemma branch_false_iff :
    Branch script c False onSuccess ↔ ∃ s, script c = some s ∧ onSuccess s := by
  cases h : script c with
  | none | some s => simp [Branch, h]

lemma branch_false_const :
    Branch script c False (fun _ => closes) ↔ Succeeds script c ∧ closes := by
  cases h : script c with
  | none | some s => simp [Branch, Succeeds, h]

lemma branch_true_iff : Branch script c True onSuccess ↔ ∀ s, script c = some s → onSuccess s := by
  simp [Branch]

lemma branch_true_const :
    Branch script c True (fun _ => closes) ↔ (Succeeds script c → closes) := by
  cases h : script c with
  | none | some s => simp [Branch, Succeeds, h]

lemma forall_succeeds : (∀ s, script c = some s → closes) ↔ (Succeeds script c → closes) := by
  rw [← branch_true_iff, branch_true_const]

lemma rollbackOnErr_attempt {failed : Proc (TxCall τ ℓ) σ (Exit α)}
    {k : σ → Proc (TxCall τ ℓ) σ (Exit α)} :
    rollbackOnErr tx (attempt c failed k) =
      attempt c (rollbackOnErr tx failed) fun s => rollbackOnErr tx (k s) :=
  bind_attempt _ _ _ _

lemma rollbackOnErr_bind {q : Proc (TxCall τ ℓ) σ β} {g : β → Proc (TxCall τ ℓ) σ (Exit α)} :
    rollbackOnErr tx (q.bind g) = q.bind fun b => rollbackOnErr tx (g b) := by
  induction q with
  | ret b => rfl
  | act c k ih => exact congrArg (act c) (funext ih)

variable [DecidableEq τ]

def TxCall.openAfter (succeeds : Bool) : TxCall τ ℓ → List τ → List τ
  | begin tx, txs => if succeeds then tx :: txs else txs
  | commit tx, txs => txs.filter (· ≠ tx)
  | rollback tx, txs => txs.filter (· ≠ tx)
  | step _, txs => txs

def scripted (script : TxCall τ ℓ → Option σ) : Proc (TxCall τ ℓ) σ α → List τ → α × List τ
  | ret a, txs => (a, txs)
  | act c k, txs => (k (script c)).scripted script (c.openAfter (script c).isSome txs)

@[simp] lemma scripted_ret (a : α) :
    (ret a : Proc (TxCall τ ℓ) σ α).scripted script txs = (a, txs) := rfl

lemma scripted_bind (p : Proc (TxCall τ ℓ) σ α) (g : α → Proc (TxCall τ ℓ) σ β) (txs : List τ) :
    (p.bind g).scripted script txs =
      (g (p.scripted script txs).1).scripted script (p.scripted script txs).2 := by
  induction p generalizing txs with
  | ret a => rfl
  | act c k ih => exact ih _ _

lemma scripted_attempt_none (h : script c = none) :
    (attempt c failed k).scripted script txs = failed.scripted script (c.openAfter false txs) := by
  simp only [attempt, scripted, h, Option.isSome_none]

lemma scripted_attempt_some (h : script c = some s) :
    (attempt c failed k).scripted script txs = (k s).scripted script (c.openAfter true txs) := by
  simp only [attempt, scripted, h, Option.isSome_some]

@[simp] lemma scripted_ignore_step :
    (ignore (.step l) p).scripted script txs = p.scripted script txs := rfl

@[simp] lemma scripted_ignore_rollback :
    (ignore (.rollback tx) p).scripted script txs = p.scripted script (txs.filter (· ≠ tx)) := rfl

@[simp] lemma scripted_ignore_commit :
    (ignore (.commit tx) p).scripted script txs = p.scripted script (txs.filter (· ≠ tx)) := rfl

lemma scripted_open_of_steps (h : Uses TxCall.IsStep p) : (p.scripted script txs).2 = txs := by
  induction p generalizing txs with
  | ret a => rfl
  | act c k ih =>
    cases c with
    | step l => exact ih _ (h.2 _)
    | begin tx | commit tx | rollback tx => exact h.1.elim

lemma scripted_rollbackOnErr (tx : τ) (body : Proc (TxCall τ ℓ) σ (Exit α)) (txs : List τ) :
    (rollbackOnErr tx body).scripted script txs =
      ((body.scripted script txs).1.result,
        if (body.scripted script txs).1.err then (body.scripted script txs).2.filter (· ≠ tx)
        else (body.scripted script txs).2) := by
  rw [rollbackOnErr, scripted_bind]
  split_ifs <;> rfl

lemma filter_of_not_mem (h : tx ∉ txs) : txs.filter (· ≠ tx) = txs :=
  List.filter_eq_self.2 fun _ ht => decide_eq_true fun heq => h (heq ▸ ht)

lemma filter_cons_self (h : tx ∉ txs) : (tx :: txs).filter (· ≠ tx) = txs := by
  rw [List.filter_cons_of_neg (by simp), filter_of_not_mem h]

def ClosesIff (script : TxCall τ ℓ → Option σ) (own : List τ) (closes : Prop)
    (p : Proc (TxCall τ ℓ) σ α) : Prop :=
  ∀ txs, (∀ tx ∈ own, tx ∉ txs) → ∃ leaked, (∀ tx ∈ leaked, tx ∈ own) ∧
    (p.scripted script txs).2 = leaked ++ txs ∧ (leaked = [] ↔ closes)

def LeavesNoTx (script : TxCall τ ℓ → Option σ) (p : Proc (TxCall τ ℓ) σ α) : Prop :=
  (p.scripted script []).2 = []

lemma ClosesIff.leavesNoTx_iff (h : ClosesIff script own closes p) :
    LeavesNoTx script p ↔ closes := by
  obtain ⟨leaked, -, hopen, hcloses⟩ := h [] (by simp)
  rw [LeavesNoTx, hopen, List.append_nil, hcloses]

lemma ClosesIff.of_closes (hcloses : closes)
    (h : ∀ txs, (∀ tx ∈ own, tx ∉ txs) → (p.scripted script txs).2 = txs) :
    ClosesIff script own closes p :=
  fun txs hown => ⟨[], by simp, by simpa using h txs hown, by simpa using hcloses⟩

lemma ClosesIff.of_leaks (htx : tx ∈ own) (hcloses : ¬ closes)
    (h : ∀ txs, (∀ tx ∈ own, tx ∉ txs) → (p.scripted script txs).2 = tx :: txs) :
    ClosesIff script own closes p :=
  fun txs hown => ⟨[tx], by simpa using htx, by simpa using h txs hown, by simpa using hcloses⟩

lemma ClosesIff.congr (h : ClosesIff script own closes p) (hiff : closes ↔ closes') :
    ClosesIff script own closes' p := by
  rwa [← propext hiff]

lemma ClosesIff.mono {own own' : List τ} (h : ClosesIff script own closes p)
    (hsub : ∀ tx ∈ own, tx ∈ own') : ClosesIff script own' closes p := by
  intro txs hown
  obtain ⟨leaked, hmem, hopen, hiff⟩ := h txs fun tx htx => hown tx (hsub tx htx)
  exact ⟨leaked, fun tx htx => hsub tx (hmem tx htx), hopen, hiff⟩

lemma closesIff_steps (h : Uses TxCall.IsStep p) : ClosesIff script own True p :=
  .of_closes trivial fun _ _ => scripted_open_of_steps h

lemma closesIff_ret (a : α) : ClosesIff script own True (ret a) := closesIff_steps (uses_ret a)

lemma ClosesIff.bind {g : α → Proc (TxCall τ ℓ) σ β} (h : ClosesIff script own closes p)
    (hg : ∀ a, Uses TxCall.IsStep (g a)) : ClosesIff script own closes (p.bind g) := by
  intro txs hown
  obtain ⟨leaked, hmem, hopen, hiff⟩ := h txs hown
  refine ⟨leaked, hmem, ?_, hiff⟩
  rw [scripted_bind, scripted_open_of_steps (hg _), hopen]

lemma ClosesIff.leavesNoTx_discard_iff (h : ClosesIff script own closes p) :
    LeavesNoTx script p.discard ↔ closes :=
  (h.bind fun _ => uses_ret _).leavesNoTx_iff

lemma closesIff_ite {b : Prop} [Decidable b] {q : Proc (TxCall τ ℓ) σ α}
    (hp : b → ClosesIff script own closes p) (hq : ¬ b → ClosesIff script own closes' q) :
    ClosesIff script own ((b → closes) ∧ (¬ b → closes')) (if b then p else q) := by
  by_cases h : b
  · rw [if_pos h]
    exact (hp h).congr (by simp [h])
  · rw [if_neg h]
    exact (hq h).congr (by simp [h])

lemma closesIff_attempt (hf : ClosesIff script own onFailure failed)
    (hk : ∀ s, script (.step l) = some s → ClosesIff script own (onSuccess s) (k s)) :
    ClosesIff script own (Branch script (.step l) onFailure onSuccess)
      (attempt (.step l) failed k) := by
  intro txs hown
  cases h : script (.step l) with
  | none =>
    rw [scripted_attempt_none h, branch_none h]
    exact hf txs hown
  | some s =>
    rw [scripted_attempt_some h, branch_some h]
    exact hk s h txs hown

def EndsIff (script : TxCall τ ℓ → Option σ) (tx : τ) (closes : Prop)
    (p : Proc (TxCall τ ℓ) σ α) : Prop :=
  ∀ txs, (closes → (p.scripted script txs).2 = txs.filter (· ≠ tx)) ∧
    (¬ closes → (p.scripted script txs).2 = txs)

lemma endsIff_steps (h : Uses TxCall.IsStep p) : EndsIff script tx False p :=
  fun _ => ⟨False.elim, fun _ => scripted_open_of_steps h⟩

lemma endsIff_ret (a : α) : EndsIff script tx False (ret a) := endsIff_steps (uses_ret a)

lemma endsIff_attempt (hf : EndsIff script tx onFailure failed)
    (hk : ∀ s, script (.step l) = some s → EndsIff script tx (onSuccess s) (k s)) :
    EndsIff script tx (Branch script (.step l) onFailure onSuccess)
      (attempt (.step l) failed k) := by
  intro txs
  cases h : script (.step l) with
  | none =>
    rw [scripted_attempt_none h, branch_none h]
    exact hf txs
  | some s =>
    rw [scripted_attempt_some h, branch_some h]
    exact hk s h txs

lemma endsIff_commit (hf : Uses TxCall.IsStep failed) (hk : ∀ s, Uses TxCall.IsStep (k s)) :
    EndsIff script tx True (attempt (.commit tx) failed k) := by
  refine fun txs => ⟨fun _ => ?_, fun h => absurd trivial h⟩
  cases h : script (.commit tx) with
  | none =>
    rw [scripted_attempt_none h]
    exact scripted_open_of_steps hf
  | some s =>
    rw [scripted_attempt_some h]
    exact scripted_open_of_steps (hk s)

lemma endsIff_rollback (h : Uses TxCall.IsStep p) :
    EndsIff script tx True (ignore (.rollback tx) p) :=
  fun _ => ⟨fun _ => scripted_open_of_steps h, fun hn => absurd trivial hn⟩

lemma endsIff_bind (hq : Uses TxCall.IsStep q) (hg : ∀ b, EndsIff script tx closes (g b)) :
    EndsIff script tx closes (q.bind g) := by
  intro txs
  rw [scripted_bind, scripted_open_of_steps hq]
  exact hg _ txs

lemma endsIff_bind_of_result {b : β} (hq : ∀ txs, q.scripted script txs = (b, txs))
    (hg : EndsIff script tx closes (g b)) : EndsIff script tx closes (q.bind g) := by
  intro txs
  rw [scripted_bind, hq]
  exact hg txs

lemma endsIff_rollbackOnErr_ret (e : Exit α) :
    EndsIff script tx (e.err = true) (rollbackOnErr tx (ret e) : Proc (TxCall τ ℓ) σ α) := by
  cases h : e.err with
  | true => exact fun txs => ⟨fun _ => by simp [scripted_rollbackOnErr, h], by simp⟩
  | false => exact fun txs => ⟨by simp, fun _ => by simp [scripted_rollbackOnErr, h]⟩

lemma endsIff_rollbackOnErr_commit {e : Exit α} {e' : σ → Exit α} :
    EndsIff script tx True
      (rollbackOnErr tx (attempt (.commit tx) (ret e) fun s => ret (e' s))) := by
  refine fun txs => ⟨fun _ => ?_, fun h => absurd trivial h⟩
  have htwice : (txs.filter (· ≠ tx)).filter (· ≠ tx) = txs.filter (· ≠ tx) := by
    rw [List.filter_filter]
    simp
  rw [scripted_rollbackOnErr]
  cases h : script (.commit tx) with
  | none =>
    rw [scripted_attempt_none h]
    simp only [scripted_ret, TxCall.openAfter, htwice, ite_self]
  | some s =>
    rw [scripted_attempt_some h]
    simp only [scripted_ret, TxCall.openAfter, htwice, ite_self]

lemma EndsIff.congr (h : EndsIff script tx closes p) (hiff : closes ↔ closes') :
    EndsIff script tx closes' p := by
  rwa [← propext hiff]

def WithinIff (script : TxCall τ ℓ → Option σ) (tx : τ) (own : List τ) (closes : Prop)
    (p : Proc (TxCall τ ℓ) σ α) : Prop :=
  ∀ txs, tx ∉ txs → (∀ t ∈ own, t ∉ txs) → ∃ leaked, (∀ t ∈ leaked, t ∈ tx :: own) ∧
    (p.scripted script (tx :: txs)).2 = leaked ++ txs ∧ (leaked = [] ↔ closes)

lemma EndsIff.withinIff (h : EndsIff script tx closes p) : WithinIff script tx own closes p := by
  intro txs htx _
  by_cases hcloses : closes
  · refine ⟨[], by simp, ?_, by simpa using hcloses⟩
    rw [(h _).1 hcloses, filter_cons_self htx, List.nil_append]
  · exact ⟨[tx], by simp, (h _).2 hcloses, by simpa using hcloses⟩

lemma WithinIff.congr (h : WithinIff script tx own closes p) (hiff : closes ↔ closes') :
    WithinIff script tx own closes' p := by
  rwa [← propext hiff]

lemma withinIff_attempt (hf : WithinIff script tx own onFailure failed)
    (hk : ∀ s, script (.step l) = some s → WithinIff script tx own (onSuccess s) (k s)) :
    WithinIff script tx own (Branch script (.step l) onFailure onSuccess)
      (attempt (.step l) failed k) := by
  intro txs htx hown
  cases h : script (.step l) with
  | none =>
    rw [scripted_attempt_none h, branch_none h]
    exact hf txs htx hown
  | some s =>
    rw [scripted_attempt_some h, branch_some h]
    exact hk s h txs htx hown

lemma withinIff_ite {b : Prop} [Decidable b] {q : Proc (TxCall τ ℓ) σ α}
    (hp : b → WithinIff script tx own closes p) (hq : ¬ b → WithinIff script tx own closes' q) :
    WithinIff script tx own ((b → closes) ∧ (¬ b → closes')) (if b then p else q) := by
  by_cases h : b
  · rw [if_pos h]
    exact (hp h).congr (by simp [h])
  · rw [if_neg h]
    exact (hq h).congr (by simp [h])

lemma withinIff_bind {inner outer : Prop} (htx : tx ∉ own)
    (hq : ClosesIff script own inner q) (hg : ∀ b, EndsIff script tx outer (g b)) :
    WithinIff script tx own (outer ∧ inner) (q.bind g) := by
  intro txs hfresh hown
  obtain ⟨leaked, hmem, hopen, hiff⟩ := hq (tx :: txs) (by
    intro t ht hin
    rcases List.mem_cons.1 hin with rfl | hin
    · exact htx ht
    · exact hown t ht hin)
  have hnot : tx ∉ leaked := fun h => htx (hmem tx h)
  rw [scripted_bind, hopen]
  by_cases houter : outer
  · refine ⟨leaked, fun t ht => List.mem_cons_of_mem _ (hmem t ht), ?_, ?_⟩
    · rw [(hg _ _).1 houter, List.filter_append, filter_of_not_mem hnot, filter_cons_self hfresh]
    · rw [hiff, and_iff_right houter]
  · refine ⟨leaked ++ [tx], ?_, ?_, by simp [houter]⟩
    · intro t ht
      rcases List.mem_append.1 ht with ht | ht
      · exact List.mem_cons_of_mem _ (hmem t ht)
      · exact List.mem_singleton.1 ht ▸ List.mem_cons_self
    · rw [(hg _ _).2 houter, List.append_assoc, List.singleton_append]

lemma closesIff_begin (hf : Uses TxCall.IsStep failed)
    (hk : ∀ s, script (.begin tx) = some s → WithinIff script tx own (onSuccess s) (k s)) :
    ClosesIff script (tx :: own) (∀ s, script (.begin tx) = some s → onSuccess s)
      (attempt (.begin tx) failed k) := by
  intro txs hown
  cases h : script (.begin tx) with
  | none =>
    refine ⟨[], by simp, ?_, by simp⟩
    rw [scripted_attempt_none h]
    exact scripted_open_of_steps hf
  | some s =>
    rw [scripted_attempt_some h]
    obtain ⟨leaked, hmem, hopen, hiff⟩ := hk s h txs (hown _ List.mem_cons_self)
      fun t ht => hown t (List.mem_cons_of_mem _ ht)
    exact ⟨leaked, hmem, hopen, by simpa using hiff⟩

end Stablenode.Proc
