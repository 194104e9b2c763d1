import Stablenode.CallPaths
import Stablenode.Store

/-! Batches of transactions of a smart account (services/alchemy.go): the choice of the account, its
row and the operations of a batch. -/
namespace Stablenode.AccountBatches

open Hex CallPaths

structure AccountRow where
  address : String
  salt : List UInt8
  isDeployed : Bool
  status : ReceiveAddressStatus
  deriving DecidableEq

def rowsOf (rows : List AccountRow) (address : String) : List AccountRow :=
  rows.filter fun r => r.address = address ∨ r.address = address.toLower

def AccountRow.isSmartAccount (r : AccountRow) : Bool := r.isDeployed ∨ r.salt ≠ []

def routesToUserOperation (rows : List AccountRow) (isAccountDeployed : Option Bool)
    (address : String) : Bool :=
  match only (rowsOf rows address) with
  | .ok r => r.isSmartAccount
  | .error _ => isAccountDeployed.getD false

def findAccount (rows : List AccountRow) (address : String) : Option AccountRow :=
  let found := (rowsOf rows address).filter fun r => r.status = .poolReady ∨ r.isDeployed
  (found.filter (·.isDeployed) ++ found.filter (!·.isDeployed)).head?

structure AccountEnvironment where
  decryptPlain : List UInt8 → Option (List UInt8)
  ownerAddress : String
  smartAccountInitCode : String → List UInt8 → String
  sponsored : UserOp → UserOp
  signature : UserOp → String
  sponsored_nonce : ∀ op, (sponsored op).nonce = op.nonce
  sponsored_initCode : ∀ op, (sponsored op).initCode = op.initCode

def AccountEnvironment.initCode (E : AccountEnvironment) (rows : List AccountRow)
    (address : String) : Except String (Option String) :=
  match findAccount rows address with
  | none => .error "failed to get receive address from database"
  | some r =>
    if r.isDeployed then .ok none
    else if r.salt ≠ [] then
      match E.decryptPlain r.salt with
      | none => .error "failed to decrypt salt"
      | some salt =>
        if E.ownerAddress = "" then .error "SMART_ACCOUNT_OWNER_ADDRESS not configured"
        else .ok (some (E.smartAccountInitCode E.ownerAddress salt))
    else .error ("no salt found for smart account " ++ address ++ " - cannot generate initCode")

section Routing

variable {rows : List AccountRow} {address : String}

def RoutedByRow (rows : List AccountRow) (address : String) : Prop :=
  ∃ r, only (rowsOf rows address) = .ok r ∧ r.isSmartAccount

def Usable (rows : List AccountRow) (address : String) : Prop :=
  ∃ r, findAccount rows address = some r ∧ (r.isDeployed ∨ r.salt ≠ [])

theorem routed_usable_iff (rows : List AccountRow) (address : String) :
    (RoutedByRow rows address → Usable rows address) ↔
      ∀ r, rowsOf rows address = [r] → r.salt ≠ [] → r.isDeployed ∨ r.status = .poolReady := by
  have hfind : ∀ r, rowsOf rows address = [r] →
      findAccount rows address = if r.status = .poolReady ∨ r.isDeployed then some r else none := by
    intro r hr
    rw [findAccount, hr]
    cases hd : r.isDeployed <;> by_cases hs : r.status = .poolReady <;> simp [hd, hs]
  constructor
  · intro h r hr hsalt
    obtain ⟨found, hfound, -⟩ := h ⟨r, only_eq_ok_iff.2 hr, by simp [AccountRow.isSmartAccount, hsalt]⟩
    rw [hfind r hr] at hfound
    split_ifs at hfound with hrow
    exact hrow.symm
  rintro h ⟨r, hr, hsmart⟩
  have hrow := only_eq_ok_iff.1 hr
  rw [AccountRow.isSmartAccount, decide_eq_true_eq] at hsmart
  refine ⟨r, ?_, hsmart⟩
  rw [hfind r hrow, if_pos]
  rcases hsmart with hdeployed | hsalt
  · exact .inr hdeployed
  · exact (h r hrow hsalt).symm

theorem salted_account_unusable :
    RoutedByRow [⟨"0xaa", [1], false, .unused⟩] "0xaa" ∧
      ¬ Usable [⟨"0xaa", [1], false, .unused⟩] "0xaa" :=
  ⟨⟨⟨"0xaa", [1], false, .unused⟩, by decide +kernel, rfl⟩, by
    rintro ⟨r, hr, -⟩
    have hnone : findAccount [⟨"0xaa", [1], false, .unused⟩] "0xaa" = none := by decide +kernel
    rw [hnone] at hr
    cases hr⟩

end Routing

structure ChainAccount where
  nonce : ℕ
  deployed : Bool
  deriving DecidableEq

def ChainAccount.included (a : ChainAccount) : ChainAccount := ⟨a.nonce + 1, true⟩

structure OpFaults where
  nonceFails : Bool
  sendFails : Bool
  deriving DecidableEq

def hexNonce (n : ℕ) : String := "0x" ++ String.ofList (padHex 1 n)

def userOp (address : String) (initCode : Option String) (nonce : String) (tx : TxPayload) :
    UserOp where
  sender := address
  nonce := nonce
  callData := (encodeExecuteCallData tx.target (tx.value.getD "0") tx.data).getD ""
  callGasLimit := "0x186a0"
  verificationGasLimit := if initCode.isSome then "0x493e0" else "0x30d40"
  preVerificationGas := "0x10000"
  maxFeePerGas := "0x59682f00"
  maxPriorityFeePerGas := "0x59682f00"
  signature := "0x"
  initCode := initCode
  factory := none
  factoryData := none
  paymaster := none
  paymasterVerificationGasLimit := none
  paymasterPostOpGasLimit := none
  paymasterData := none
  paymasterAndData := some "0x"

def nonceOf (initCode : Option String) (account : ChainAccount) (faults : OpFaults) : String :=
  if initCode.isSome ∨ faults.nonceFails then "0x0" else hexNonce account.nonce

namespace AccountEnvironment

variable (E : AccountEnvironment) (rows : List AccountRow) (address : String)

def sendOne (account : ChainAccount) (x : TxPayload × OpFaults) : Except String UserOp :=
  match E.initCode rows address with
  | .error e => .error e
  | .ok initCode =>
    let op := E.sponsored (userOp address initCode (nonceOf initCode account x.2) x.1)
    if x.2.sendFails then .error "failed to send batch transaction"
    else .ok { op with signature := E.signature op }

def sendLoop (total : ℕ) : ℕ → ChainAccount → List (TxPayload × OpFaults) →
    List (ChainAccount × UserOp) × Except String Unit
  | _, _, [] => ([], .ok ())
  | i, account, x :: xs =>
    match sendOne E rows address account x with
    | .error e =>
      ([], .error ("failed to send transaction " ++ i.repr ++ "/" ++ total.repr ++ ": " ++ e))
    | .ok op =>
      let rest := sendLoop total (i + 1) account.included xs
      ((account, op) :: rest.1, rest.2)

def sendUserOperationBatch (account : ChainAccount) (batch : List (TxPayload × OpFaults)) :
    List (ChainAccount × UserOp) × Except String Unit :=
  match batch with
  | [] => ([], .error "runtime error: index out of range [0] with length 0")
  | [x] =>
    match sendOne E rows address account x with
    | .error e => ([], .error e)
    | .ok op => ([(account, op)], .ok ())
  | batch => sendLoop E rows address batch.length 1 account batch

end AccountEnvironment

def Separate (sent : List (ChainAccount × UserOp)) : Prop :=
  (sent.map (·.2.nonce)).Nodup ∧ ∀ x ∈ sent, x.2.initCode.isSome → x.1.deployed = false

def queryFailures (batch : List (TxPayload × OpFaults)) : List Bool :=
  (batch.takeWhile fun x => !x.2.sendFails).map fun x => x.2.nonceFails

section Nonces

def nonces : ℕ → List Bool → List ℕ
  | _, [] => []
  | n, failed :: rest => (if failed then 0 else n) :: nonces (n + 1) rest

variable {failures : List Bool} {n : ℕ}

lemma le_of_mem_nonces {m : ℕ} (h : m ∈ nonces n failures) : m = 0 ∨ n ≤ m := by
  induction failures generalizing n with
  | nil => cases h
  | cons failed rest ih =>
    rcases List.mem_cons.1 h with rfl | h
    · cases failed <;> simp
    · exact (ih h).imp_right (Nat.le_succ n).trans

lemma zero_mem_nonces (hn : 0 < n) : 0 ∈ nonces n failures ↔ true ∈ failures := by
  induction failures generalizing n with
  | nil => simp [nonces]
  | cons failed rest ih => cases failed <;> simp [nonces, ih n.succ_pos, hn.ne]

lemma nodup_nonces_of_pos (hn : 0 < n) : (nonces n failures).Nodup ↔ failures.count true ≤ 1 := by
  induction failures generalizing n with
  | nil => simp [nonces]
  | cons failed rest ih =>
    rw [nonces, List.nodup_cons, ih n.succ_pos]
    cases failed with
    | true =>
      rw [if_pos rfl, zero_mem_nonces n.succ_pos, List.count_cons_self, ← List.count_eq_zero]
      omega
    | false =>
      have hnot : n ∉ nonces (n + 1) rest := fun h => by
        have := le_of_mem_nonces h
        omega
      simp [hnot]

lemma nodup_nonces_zero : (nonces 0 failures).Nodup ↔ true ∉ failures.tail := by
  rcases failures with _ | ⟨failed, rest⟩
  · simp [nonces]
  · rw [nonces, ite_self, List.nodup_cons, zero_add, zero_mem_nonces one_pos,
      nodup_nonces_of_pos one_pos, List.tail_cons, ← List.count_eq_zero]
    omega

lemma reading_reverse (base : ℕ) (digits : List ℕ) :
    reading base digits.reverse = Nat.ofDigits base digits := by
  induction digits with
  | nil => rfl
  | cons d digits ih =>
    rw [List.reverse_cons, reading, List.foldl_append, ← reading, ih, Nat.ofDigits_cons]
    simp [add_comm]

lemma number_padHex (n : ℕ) : number (padHex 1 n) = some n := by
  rcases Nat.eq_zero_or_pos n with rfl | hpos
  · decide
  have hne : Nat.digits 16 n ≠ [] := Nat.digits_ne_nil_iff_ne_zero.2 hpos.ne'
  have hlength := List.length_pos_iff.2 hne
  have hdigits : padHex 1 n = ((Nat.digits 16 n).reverse).map hexDigit := by
    simp only [padHex, List.length_reverse, List.length_map, List.map_reverse]
    rw [Nat.sub_eq_zero_of_le hlength, List.replicate_zero, List.nil_append]
  rw [hdigits, ← digitsIn_sixteen, digitsIn_map le_rfl (by simpa using hne), reading_reverse,
    Nat.ofDigits_digits]
  intro x hx
  exact Nat.digits_lt_base (by norm_num) (List.mem_reverse.1 hx)

lemma hexNonce_injective : Function.Injective hexNonce := by
  intro m n h
  have hdigits := String.ofList_injective (String.append_right_inj "0x" |>.1 h)
  exact Option.some.inj ((number_padHex m).symm.trans ((congrArg number hdigits).trans (number_padHex n)))

end Nonces

section Batches

variable {E : AccountEnvironment} {rows : List AccountRow} {address : String}
  {account : ChainAccount} {batch : List (TxPayload × OpFaults)}

def shown (code : Option String) : ChainAccount → List Bool → List (Bool × String × Option String)
  | _, [] => []
  | account, failed :: rest =>
    (account.deployed, nonceOf code account ⟨failed, false⟩, code) ::
      shown code account.included rest

def views (sent : List (ChainAccount × UserOp)) : List (Bool × String × Option String) :=
  sent.map fun x => (x.1.deployed, x.2.nonce, x.2.initCode)

lemma separate_iff_views {sent : List (ChainAccount × UserOp)} :
    Separate sent ↔ ((views sent).map fun v => v.2.1).Nodup ∧
      ∀ v ∈ views sent, v.2.2.isSome → v.1 = false := by
  rw [Separate, views, List.map_map, List.forall_mem_map]
  rfl

variable {code : Option String}

lemma views_sendLoop (hcode : E.initCode rows address = .ok code) (total i : ℕ) :
    views (E.sendLoop rows address total i account batch).1 =
      shown code account (queryFailures batch) := by
  induction batch generalizing i account with
  | nil => rfl
  | cons x xs ih =>
    cases hsend : x.2.sendFails with
    | true =>
      simp [AccountEnvironment.sendLoop, AccountEnvironment.sendOne, hcode, hsend, queryFailures,
        views, shown]
    | false =>
      have hrest := @ih account.included (i + 1)
      simp only [queryFailures, List.takeWhile_cons, hsend, Bool.not_false, if_true, List.map_cons,
        shown]
      rw [← queryFailures, ← hrest]
      simp [AccountEnvironment.sendLoop, AccountEnvironment.sendOne, hcode, hsend, views, userOp,
        E.sponsored_nonce, E.sponsored_initCode, nonceOf]

lemma views_sendUserOperationBatch (hcode : E.initCode rows address = .ok code) :
    views (E.sendUserOperationBatch rows address account batch).1 =
      shown code account (queryFailures batch) := by
  rw [← views_sendLoop hcode batch.length 1]
  rcases batch with _ | ⟨x, _ | ⟨y, ys⟩⟩
  · rfl
  · simp only [AccountEnvironment.sendUserOperationBatch, AccountEnvironment.sendLoop]
    split <;> rfl
  · rfl

lemma shown_none (account : ChainAccount) (failures : List Bool) :
    (shown none account failures).map (fun v => v.2.1) =
        (nonces account.nonce failures).map hexNonce ∧
      ∀ v ∈ shown none account failures, v.2.2 = none := by
  induction failures generalizing account with
  | nil => simp [shown, nonces]
  | cons failed rest ih =>
    obtain ⟨hnonces, hcode⟩ := ih account.included
    refine ⟨?_, ?_⟩
    · rw [shown, List.map_cons, hnonces, nonces, List.map_cons]
      cases failed <;> rfl
    · simpa [shown] using hcode

lemma shown_some (code : String) (account : ChainAccount) (failures : List Bool) :
    (shown (some code) account failures).map (fun v => v.2.1) =
        List.replicate failures.length "0x0" ∧
      ((∀ v ∈ shown (some code) account failures, v.2.2.isSome → v.1 = false) ↔
        failures = [] ∨ (failures.length = 1 ∧ account.deployed = false)) := by
  induction failures generalizing account with
  | nil => simp [shown]
  | cons failed rest ih =>
    obtain ⟨hnonces, hcode⟩ := ih account.included
    refine ⟨?_, ?_⟩
    · rw [shown, List.map_cons, hnonces, List.length_cons, List.replicate_succ]
      simp [nonceOf]
    · rw [shown, List.forall_mem_cons, hcode]
      simp [ChainAccount.included]
      tauto

lemma separate_of_error {e : String} (hcode : E.initCode rows address = .error e) :
    Separate (E.sendUserOperationBatch rows address account batch).1 := by
  have hnothing : (E.sendUserOperationBatch rows address account batch).1 = [] := by
    rcases batch with _ | ⟨x, _ | ⟨y, ys⟩⟩ <;>
      simp [AccountEnvironment.sendUserOperationBatch, AccountEnvironment.sendLoop,
        AccountEnvironment.sendOne, hcode]
  simp [hnothing, Separate]

lemma separate_iff_of_deployed (hcode : E.initCode rows address = .ok none) :
    Separate (E.sendUserOperationBatch rows address account batch).1 ↔
      (queryFailures batch).count true ≤ 1 ∧
        (account.nonce = 0 → true ∉ (queryFailures batch).tail) := by
  obtain ⟨hnonces, hnone⟩ := shown_none account (queryFailures batch)
  have hfree : ∀ v ∈ shown none account (queryFailures batch), v.2.2.isSome → v.1 = false :=
    fun v hv hsome => by simp [hnone v hv] at hsome
  rw [separate_iff_views, views_sendUserOperationBatch hcode, hnonces,
    List.nodup_map_iff hexNonce_injective, and_iff_left hfree]
  rcases Nat.eq_zero_or_pos account.nonce with hzero | hpos
  · rw [hzero, nodup_nonces_zero]
    rcases queryFailures batch with _ | ⟨failed, rest⟩
    · simp
    · have hcount : true ∉ rest → rest.count true = 0 := List.count_eq_zero.2
      cases failed <;> simp +contextual [hcount]
  · simp [nodup_nonces_of_pos hpos, hpos.ne']

lemma separate_iff_of_initCode {code : String} (hcode : E.initCode rows address = .ok (some code)) :
    Separate (E.sendUserOperationBatch rows address account batch).1 ↔
      queryFailures batch = [] ∨ ((queryFailures batch).length = 1 ∧ account.deployed = false) := by
  obtain ⟨hnonces, hfresh⟩ := shown_some code account (queryFailures batch)
  rw [separate_iff_views, views_sendUserOperationBatch hcode, hnonces, hfresh, List.nodup_replicate]
  refine and_iff_right_of_imp ?_
  rintro (h | h)
  · simp [h]
  · exact h.1.le

def AccountEnvironment.CanDeploy (E : AccountEnvironment) (r : AccountRow) : Prop :=
  r.salt ≠ [] ∧ (E.decryptPlain r.salt).isSome ∧ E.ownerAddress ≠ ""

theorem batch_separate_iff (E : AccountEnvironment) (rows : List AccountRow) (address : String)
    (account : ChainAccount) (batch : List (TxPayload × OpFaults)) :
    Separate (E.sendUserOperationBatch rows address account batch).1 ↔
      ∀ r, findAccount rows address = some r →
        (r.isDeployed = true → (queryFailures batch).count true ≤ 1 ∧
          (account.nonce = 0 → true ∉ (queryFailures batch).tail)) ∧
        (r.isDeployed = false → E.CanDeploy r → queryFailures batch = [] ∨
          ((queryFailures batch).length = 1 ∧ account.deployed = false)) := by
  rcases hfind : findAccount rows address with _ | r
  · have hcode : E.initCode rows address =
        .error "failed to get receive address from database" := by
      simp [AccountEnvironment.initCode, hfind]
    simp [separate_of_error hcode]
  simp only [Option.some.injEq, forall_eq']
  cases hdeployed : r.isDeployed with
  | true =>
    rw [separate_iff_of_deployed (by simp [AccountEnvironment.initCode, hfind, hdeployed])]
    simp
  | false =>
    by_cases hcan : E.CanDeploy r
    · obtain ⟨hsalt, hdecrypt, howner⟩ := id hcan
      obtain ⟨salt, hsome⟩ := Option.isSome_iff_exists.1 hdecrypt
      have hcode : E.initCode rows address =
          .ok (some (E.smartAccountInitCode E.ownerAddress salt)) := by
        simp [AccountEnvironment.initCode, hfind, hdeployed, hsalt, hsome, howner]
      rw [separate_iff_of_initCode hcode]
      simp [hcan]
    · refine iff_of_true ?_ ⟨nofun, fun _ h => absurd h hcan⟩
      cases hcode : E.initCode rows address with
      | error e => exact separate_of_error hcode
      | ok code =>
        exfalso
        simp only [AccountEnvironment.initCode, hfind, hdeployed, Bool.false_eq_true, if_false]
          at hcode
        split_ifs at hcode with hsalt howner
        · split at hcode <;> cases hcode
        · split at hcode
          · cases hcode
          · next salt hsome => exact hcan ⟨hsalt, by simp [hsome], howner⟩

def sampleEnvironment : AccountEnvironment :=
  ⟨some, "0xowner", fun _ _ => "0x00", id, fun _ => "0x", fun _ => rfl, fun _ => rfl⟩

theorem batch_deploys_twice :
    ((sampleEnvironment.sendUserOperationBatch [⟨"0xaa", [1], false, .poolReady⟩] "0xaa"
        ⟨0, false⟩ [(payment "0", ⟨false, false⟩), (payment "0", ⟨false, false⟩)]).1.map
      fun x => (x.1.deployed, x.2.nonce, x.2.initCode)) =
      [(false, "0x0", some "0x00"), (true, "0x0", some "0x00")] ∧
    ¬ Separate (sampleEnvironment.sendUserOperationBatch [⟨"0xaa", [1], false, .poolReady⟩] "0xaa"
        ⟨0, false⟩ [(payment "0", ⟨false, false⟩), (payment "0", ⟨false, false⟩)]).1 := by
  have hcode : sampleEnvironment.initCode [⟨"0xaa", [1], false, .poolReady⟩] "0xaa" =
      .ok (some "0x00") := by decide +kernel
  have hviews := @views_sendUserOperationBatch _ _ _ ⟨0, false⟩
    [(payment "0", ⟨false, false⟩), (payment "0", ⟨false, false⟩)] _ hcode
  refine ⟨hviews, fun h => ?_⟩
  rw [separate_iff_views, hviews] at h
  exact absurd h.1 (by decide)

end Batches

end Stablenode.AccountBatches
