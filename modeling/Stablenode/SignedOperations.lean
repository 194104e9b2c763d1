import Stablenode.UserOperation

/-! The operation that is signed is the one that is sent, unless the paymaster is given in one
piece. -/
namespace Stablenode.SignedOperations

open BigEndian Hex UserOp

variable {digits : List Char} {bytes : List UInt8} {text : String}

section Texts

lemma dataOf_eq_some_iff : dataOf text = some bytes ↔
    ∃ digits, text.toList = '0' :: 'x' :: digits ∧ decodeString digits = some bytes := by
  unfold dataOf
  split
  · rename_i digits h
    simp [h]
  · rename_i h
    simp only [reduceCtorEq, false_iff, not_exists, not_and]
    exact fun digits hdigits => absurd hdigits (h digits)

lemma trimMarker_of_toList (h : text.toList = '0' :: 'x' :: digits) : trimMarker text = digits := by
  simp only [trimMarker, h]

lemma decodeString_trimMarker (h : dataOf text = some bytes) :
    decodeString (trimMarker text) = some bytes := by
  obtain ⟨digits, hdigits, hbytes⟩ := dataOf_eq_some_iff.1 h
  rwa [trimMarker_of_toList hdigits]

lemma bigNumber_of_numberOf {n : ℕ} (h : numberOf text = some n) : bigNumber text = some n := by
  unfold numberOf at h
  split at h
  · rename_i digits hdigits
    rwa [bigNumber, trimMarker_of_toList hdigits]
  · cases h

lemma numberOf_of_wordOf {bits : ℕ} {w : Fin (2 ^ bits)} (h : wordOf bits text = some w) :
    numberOf text = some w.val := by
  obtain ⟨n, hn, hw⟩ := Option.bind_eq_some_iff.1 h
  split_ifs at hw with hlt
  obtain rfl := Option.some.inj hw
  exact hn

lemma addressOf_eq_some_iff : addressOf text = some bytes ↔
    dataOf text = some bytes ∧ bytes.length = 20 := by
  simp [addressOf, Option.filter_eq_some_iff]

lemma leftPadBytes_hexToAddress (h : addressOf text = some bytes) :
    leftPadBytes (hexToAddress text) 32 = List.replicate 12 0 ++ bytes := by
  obtain ⟨hdata, hlength⟩ := addressOf_eq_some_iff.1 h
  obtain ⟨digits, hdigits, hbytes⟩ := dataOf_eq_some_iff.1 hdata
  have hfrom : fromHex text = bytes := by
    have heven := length_of_decodeString hbytes
    simp only [fromHex, hdigits]
    rw [if_neg (by omega), hex2Bytes_of_decodeString hbytes]
  simp [hexToAddress, hfrom, hlength, leftPadBytes]

end Texts

variable {op : UserOp} {sent : RpcUserOp}

section InitCode

lemma decodeString_split (n : ℕ) (h : decodeString digits = some bytes) :
    decodeString (digits.take (2 * n)) = some (bytes.take n) ∧
      decodeString (digits.drop (2 * n)) = some (bytes.drop n) := by
  induction n generalizing digits bytes with
  | zero => exact ⟨rfl, h⟩
  | succ n ih =>
    match digits with
    | [] =>
      obtain rfl := Option.some.inj h
      exact ⟨rfl, rfl⟩
    | [_] => cases h
    | high :: low :: rest =>
      simp only [decodeString, Option.bind_eq_bind, Option.bind_eq_some_iff, Option.pure_def,
        Option.some.injEq] at h
      obtain ⟨x, hx, y, hy, tail, htail, rfl⟩ := h
      obtain ⟨htake, hdrop⟩ := ih htail
      exact ⟨by simp [mul_add, decodeString, hx, hy, htake], by simpa [mul_add] using hdrop⟩

lemma dataOf_ofList : dataOf ("0x" ++ String.ofList digits) = decodeString digits := by
  simp [dataOf]

def hashedInitCode (op : UserOp) : List UInt8 :=
  (op.initCode.map fun text => hex2Bytes (trimMarker text)).getD []

def HasFactory (op : UserOp) : Prop :=
  ∀ text ∈ op.initCode, ∀ bytes ∈ dataOf text, bytes = [] ∨ 20 ≤ bytes.length

lemma splitInitCode_of_dataOf (h : dataOf text = some bytes) :
    splitInitCode (some text) =
      if bytes = [] then some none
      else if 20 ≤ bytes.length then
        some (some ("0x" ++ String.ofList ((trimMarker text).take 40),
          "0x" ++ String.ofList ((trimMarker text).drop 40)))
      else none := by
  obtain ⟨digits, hdigits, hbytes⟩ := dataOf_eq_some_iff.1 h
  have heven := length_of_decodeString hbytes
  have hlength : text.length = digits.length + 2 := by
    rw [← String.length_toList, hdigits, List.length_cons, List.length_cons]
  rw [trimMarker_of_toList hdigits, splitInitCode]
  by_cases hempty : bytes = []
  · rw [if_neg (by simp [hlength, heven, hempty]), if_pos hempty]
  have hpos : 0 < bytes.length := List.length_pos_iff.2 hempty
  have hne : ∀ short : String, short.length ≤ 2 → text ≠ short := by
    rintro short hshort rfl
    omega
  rw [if_pos ⟨hne _ (by decide), hne _ (by decide), by omega⟩, if_neg hempty]
  by_cases hfactory : 20 ≤ bytes.length
  · rw [if_pos (by omega), if_pos hfactory, hdigits]
    rfl
  · rw [if_neg (by omega), if_neg hfactory]

lemma pack_isSome_iff (hvalid : op.Valid) : (packUserOperationV07 op).isSome ↔ HasFactory op := by
  rw [packUserOperationV07, Option.isSome_map, HasFactory]
  cases hinit : op.initCode with
  | none => simp [splitInitCode]
  | some text =>
    obtain ⟨bytes, hbytes⟩ := Option.isSome_iff_exists.1 (hvalid.initCode text hinit)
    rw [splitInitCode_of_dataOf hbytes]
    by_cases hempty : bytes = []
    · simp [hbytes, hempty]
    · by_cases hfactory : 20 ≤ bytes.length
      · simp [hbytes, hempty, hfactory]
      · simp [hbytes, hempty, hfactory]

lemma addressOf_take (h : dataOf text = some bytes) (hfactory : 20 ≤ bytes.length) :
    addressOf ("0x" ++ String.ofList ((trimMarker text).take 40)) = some (bytes.take 20) ∧
      dataOf ("0x" ++ String.ofList ((trimMarker text).drop 40)) = some (bytes.drop 20) := by
  obtain ⟨htake, hdrop⟩ := decodeString_split 20 (decodeString_trimMarker h)
  rw [addressOf_eq_some_iff, dataOf_ofList, dataOf_ofList]
  exact ⟨⟨htake, by simp [hfactory]⟩, hdrop⟩

lemma rebuildInitCode_of_pack (hvalid : op.Valid) (hpack : packUserOperationV07 op = some sent) :
    sent.rebuildInitCode = some (hashedInitCode op) := by
  obtain ⟨factory, hsplit, rfl⟩ := Option.map_eq_some_iff.1 hpack
  rw [RpcUserOp.rebuildInitCode, hashedInitCode]
  cases hinit : op.initCode with
  | none =>
    rw [hinit] at hsplit
    obtain rfl := Option.some.inj hsplit
    rfl
  | some text =>
    obtain ⟨bytes, hbytes⟩ := Option.isSome_iff_exists.1 (hvalid.initCode text hinit)
    rw [hinit, splitInitCode_of_dataOf hbytes] at hsplit
    have hhashed := hex2Bytes_of_decodeString (decodeString_trimMarker hbytes)
    split_ifs at hsplit with hempty hfactory
    · obtain rfl := Option.some.inj hsplit
      simp [hhashed, hempty]
    · obtain rfl := Option.some.inj hsplit
      obtain ⟨haddress, hdata⟩ := addressOf_take hbytes hfactory
      simp [haddress, hdata, hhashed]

end InitCode

section Paymaster

lemma gasLimitHex_of_wordOf {limit : Option String} {w : Fin (2 ^ 128)}
    (h : wordOf 128 (limit.getD "0x0") = some w) :
    gasLimitHex limit = some (encode (toBytes 16 w)) := by
  have hlt : w.val < 256 ^ 16 := w.isLt.trans_eq (by norm_num)
  have hnumber := numberOf_of_wordOf h
  cases limit with
  | none =>
    have hzero : numberOf "0x0" = some 0 := by decide
    obtain hw : 0 = w.val := Option.some.inj (hzero.symm.trans hnumber)
    rw [gasLimitHex, ← hw]
    decide
  | some text =>
    rw [Option.getD_some] at hnumber
    rw [gasLimitHex, bigNumber_of_numberOf hnumber, Option.map_some, ← padHex_eq_encode hlt]

lemma hashedPaymaster_of_rebuild {paymaster : String} (hpaymaster : op.paymaster = some paymaster)
    (hpack : packUserOperationV07 op = some sent) (h : sent.rebuildPaymaster = some bytes) :
    op.hashedPaymaster = some bytes := by
  obtain ⟨factory, -, rfl⟩ := Option.map_eq_some_iff.1 hpack
  simp only [RpcUserOp.rebuildPaymaster, hpaymaster, Option.bind_some, Option.bind_eq_bind,
    Option.bind_eq_some_iff, Option.pure_def, Option.some.injEq] at h
  obtain ⟨address, haddress, pvgl, hpvgl, ppogl, hppogl, data, hdata, rfl⟩ := h
  have hjoined : decodeString ((op.paymasterData.map trimMarker).getD []) = some data := by
    cases hd : op.paymasterData with
    | none =>
      rw [hd] at hdata
      exact hdata
    | some text =>
      rw [hd] at hdata
      exact decodeString_trimMarker hdata
  have hpm := decodeString_trimMarker (addressOf_eq_some_iff.1 haddress).1
  simp only [hashedPaymaster, hpaymaster, gasLimitHex_of_wordOf hpvgl, gasLimitHex_of_wordOf hppogl,
    Option.bind_eq_bind, Option.bind_some, Option.pure_def, List.append_assoc]
  rw [hex2Bytes_append hpm, hex2Bytes_append (decodeString_encode _),
    hex2Bytes_append (decodeString_encode _), hex2Bytes_of_decodeString hjoined]

lemma hashedPaymaster_of_none (hpaymaster : op.paymaster = none) : op.hashedPaymaster =
    some ((op.paymasterAndData.map fun text => hex2Bytes (trimMarker text)).getD []) := by
  rw [hashedPaymaster, hpaymaster]

lemma rebuildPaymaster_of_none (hpaymaster : op.paymaster = none)
    (hpack : packUserOperationV07 op = some sent) : sent.rebuildPaymaster = some [] := by
  obtain ⟨factory, -, rfl⟩ := Option.map_eq_some_iff.1 hpack
  rw [RpcUserOp.rebuildPaymaster]
  simp only [hpaymaster]

end Paymaster

variable {H : Type} {packed : PackedUserOperation} {chainID : ℕ}

section Hashes

variable {keccak : List (UInt8 ⊕ H) → H}

lemma textHash_injective (hinj : Function.Injective keccak) :
    Function.Injective (textHash keccak) := by
  intro h h' heq
  have hlast := (List.append_inj' (hinj heq) rfl).2
  simpa using hlast

lemma keccakBytes_injective (hinj : Function.Injective keccak) :
    Function.Injective (keccakBytes keccak) := by
  intro bytes bytes' heq
  exact List.map_injective_iff.2 Sum.inl_injective (hinj heq)

variable {pm : List UInt8}

lemma eq_of_userOpHash_eq (hinj : Function.Injective keccak) {pm' : List UInt8}
    (h : ({ packed with paymasterAndData := pm } : PackedUserOperation).userOpHash keccak chainID =
      ({ packed with paymasterAndData := pm' } : PackedUserOperation).userOpHash keccak chainID) :
    pm = pm' := by
  have hhash := Sum.inr_injective (List.cons.inj (hinj h)).1
  have hlast := (List.append_inj' (hinj hhash) rfl).2
  exact keccakBytes_injective hinj (Sum.inr_injective (List.cons.inj hlast).1)

lemma packGas_fin (high low : Fin (2 ^ 128)) :
    packGas high low = toBytes 16 high ++ toBytes 16 low := by
  have hword : ∀ w : Fin (2 ^ 128), (leftPadBytes (bytesOf w) 16).take 16 = toBytes 16 w := by
    intro w
    rw [leftPadBytes_bytesOf (w.isLt.trans_eq (by norm_num)), List.take_of_length_le]
    exact (length_toBytes 16 w).le
  rw [packGas, hword, hword]

lemma sign_of_rebuild (hvalid : op.Valid) (hchain : chainID < 2 ^ 63)
    (hpack : packUserOperationV07 op = some sent) (hrebuild : sent.rebuild = some packed)
    (hpm : op.hashedPaymaster = some pm) :
    signUserOperation keccak chainID op = some (textHash keccak
      (({ packed with paymasterAndData := pm } : PackedUserOperation).userOpHash keccak chainID)) := by
  have hinit := rebuildInitCode_of_pack hvalid hpack
  obtain ⟨hsender, hnonce, hcode, hcall, hverification, hcallGas, hpre, hpriority, hfee, -⟩ :=
    RpcUserOp.rebuild_eq_some_iff.1 hrebuild
  have hhashed : hashedInitCode op = packed.initCode := Option.some.inj (hinit.symm.trans hcode)
  obtain ⟨factory, -, rfl⟩ := Option.map_eq_some_iff.1 hpack
  have hbig : ∀ {bits : ℕ} {text : String} {w : Fin (2 ^ bits)}, wordOf bits text = some w →
      bigNumber text = some w.val := fun h => bigNumber_of_numberOf (numberOf_of_wordOf h)
  have hword : ∀ w : Fin (2 ^ 256), leftPadBytes (bytesOf w) 32 = toBytes 32 w :=
    fun w => leftPadBytes_bytesOf (w.isLt.trans_eq (by norm_num))
  have hchainBytes : leftPadBytes (bytesOf chainID) 32 = toBytes 32 chainID :=
    leftPadBytes_bytesOf (hchain.trans (by norm_num))
  simp only [signUserOperation, hbig hnonce, hbig hcallGas, hbig hverification, hbig hpre,
    hbig hpriority, hbig hfee, hpm, Option.bind_eq_bind, Option.bind_some, Option.pure_def,
    hword, hchainBytes, packGas_fin, leftPadBytes_hexToAddress hsender,
    hex2Bytes_of_decodeString (decodeString_trimMarker hcall)]
  rw [← hashedInitCode, hhashed]
  rfl

end Hashes

structure FitsWords (op : UserOp) : Prop where
  nonce : (wordOf 256 op.nonce).isSome
  callGasLimit : (wordOf 128 op.callGasLimit).isSome
  verificationGasLimit : (wordOf 128 op.verificationGasLimit).isSome
  preVerificationGas : (wordOf 256 op.preVerificationGas).isSome
  maxFeePerGas : (wordOf 128 op.maxFeePerGas).isSome
  maxPriorityFeePerGas : (wordOf 128 op.maxPriorityFeePerGas).isSome
  paymasterVerificationGasLimit : op.paymaster.isSome →
    (wordOf 128 (op.paymasterVerificationGasLimit.getD "0x0")).isSome
  paymasterPostOpGasLimit : op.paymaster.isSome →
    (wordOf 128 (op.paymasterPostOpGasLimit.getD "0x0")).isSome

def SeparatePaymaster (op : UserOp) : Prop :=
  op.paymaster = none → ∀ text ∈ op.paymasterAndData, dataOf text = some []

def SignsSent {H : Type} (keccak : List (UInt8 ⊕ H) → H) (chainID : ℕ) (op : UserOp) : Prop :=
  ∃ sent packed, packUserOperationV07 op = some sent ∧ sent.rebuild = some packed ∧
    signUserOperation keccak chainID op =
      some (textHash keccak (packed.userOpHash keccak chainID))

section Agreement

variable {keccak : List (UInt8 ⊕ H) → H}

lemma FitsWords.of_rebuild (hpack : packUserOperationV07 op = some sent)
    (hrebuild : sent.rebuild = some packed) : FitsWords op := by
  obtain ⟨-, hnonce, -, -, hverification, hcallGas, hpre, hpriority, hfee, hpaymaster⟩ :=
    RpcUserOp.rebuild_eq_some_iff.1 hrebuild
  obtain ⟨factory, -, rfl⟩ := Option.map_eq_some_iff.1 hpack
  have hlimits : op.paymaster.isSome →
      (wordOf 128 (op.paymasterVerificationGasLimit.getD "0x0")).isSome ∧
        (wordOf 128 (op.paymasterPostOpGasLimit.getD "0x0")).isSome := by
    intro h
    obtain ⟨paymaster, hp⟩ := Option.isSome_iff_exists.1 h
    simp only [RpcUserOp.rebuildPaymaster, hp, Option.bind_some, Option.bind_eq_bind,
      Option.bind_eq_some_iff] at hpaymaster
    obtain ⟨-, -, pvgl, hpvgl, ppogl, hppogl, -⟩ := hpaymaster
    exact ⟨Option.isSome_of_eq_some hpvgl, Option.isSome_of_eq_some hppogl⟩
  exact ⟨Option.isSome_of_eq_some hnonce, Option.isSome_of_eq_some hcallGas,
    Option.isSome_of_eq_some hverification, Option.isSome_of_eq_some hpre,
    Option.isSome_of_eq_some hfee, Option.isSome_of_eq_some hpriority,
    fun h => (hlimits h).1, fun h => (hlimits h).2⟩

lemma rebuildPaymaster_isSome (hvalid : op.Valid) (hfits : FitsWords op)
    (hpack : packUserOperationV07 op = some sent) : sent.rebuildPaymaster.isSome := by
  cases hpaymaster : op.paymaster with
  | none => simp [rebuildPaymaster_of_none hpaymaster hpack]
  | some paymaster =>
    obtain ⟨factory, -, rfl⟩ := Option.map_eq_some_iff.1 hpack
    have hsome : op.paymaster.isSome := Option.isSome_of_eq_some hpaymaster
    obtain ⟨address, haddress⟩ :=
      Option.isSome_iff_exists.1 (hvalid.paymaster paymaster hpaymaster)
    obtain ⟨pvgl, hpvgl⟩ := Option.isSome_iff_exists.1 (hfits.paymasterVerificationGasLimit hsome)
    obtain ⟨ppogl, hppogl⟩ := Option.isSome_iff_exists.1 (hfits.paymasterPostOpGasLimit hsome)
    have hdata : (dataOf (op.paymasterData.getD "0x")).isSome := by
      cases hd : op.paymasterData with
      | none => rfl
      | some text => exact hvalid.paymasterData text hd
    obtain ⟨data, hdata⟩ := Option.isSome_iff_exists.1 hdata
    simp [RpcUserOp.rebuildPaymaster, hpaymaster, haddress, hpvgl, hppogl, hdata]

lemma rebuild_isSome (hvalid : op.Valid) (hfits : FitsWords op)
    (hpack : packUserOperationV07 op = some sent) : sent.rebuild.isSome := by
  have hinit := rebuildInitCode_of_pack hvalid hpack
  obtain ⟨pm, hpm⟩ := Option.isSome_iff_exists.1 (rebuildPaymaster_isSome hvalid hfits hpack)
  obtain ⟨factory, -, rfl⟩ := Option.map_eq_some_iff.1 hpack
  obtain ⟨sender, hsender⟩ := Option.isSome_iff_exists.1 hvalid.sender
  obtain ⟨callData, hcallData⟩ := Option.isSome_iff_exists.1 hvalid.callData
  obtain ⟨nonce, hnonce⟩ := Option.isSome_iff_exists.1 hfits.nonce
  obtain ⟨callGas, hcallGas⟩ := Option.isSome_iff_exists.1 hfits.callGasLimit
  obtain ⟨verification, hverification⟩ := Option.isSome_iff_exists.1 hfits.verificationGasLimit
  obtain ⟨pre, hpre⟩ := Option.isSome_iff_exists.1 hfits.preVerificationGas
  obtain ⟨fee, hfee⟩ := Option.isSome_iff_exists.1 hfits.maxFeePerGas
  obtain ⟨priority, hpriority⟩ := Option.isSome_iff_exists.1 hfits.maxPriorityFeePerGas
  let packed : PackedUserOperation := ⟨sender, nonce, hashedInitCode op, callData, verification,
    callGas, pre, priority, fee, pm⟩
  have hrebuild : RpcUserOp.rebuild _ = some packed := RpcUserOp.rebuild_eq_some_iff.2
    ⟨hsender, hnonce, hinit, hcallData, hverification, hcallGas, hpre, hpriority, hfee, hpm⟩
  exact Option.isSome_of_eq_some hrebuild

lemma hashedPaymaster_eq_iff (hvalid : op.Valid) (hpack : packUserOperationV07 op = some sent)
    (h : sent.rebuildPaymaster = some bytes) :
    ∃ pm, op.hashedPaymaster = some pm ∧ (pm = bytes ↔ SeparatePaymaster op) := by
  cases hpaymaster : op.paymaster with
  | some paymaster =>
    exact ⟨bytes, hashedPaymaster_of_rebuild hpaymaster hpack h,
      iff_of_true rfl fun hnone => by simp [hpaymaster] at hnone⟩
  | none =>
    obtain rfl := Option.some.inj ((rebuildPaymaster_of_none hpaymaster hpack).symm.trans h)
    refine ⟨_, hashedPaymaster_of_none hpaymaster, ?_⟩
    rw [SeparatePaymaster]
    cases hpiece : op.paymasterAndData with
    | none => simp
    | some text =>
      obtain ⟨piece, hdata⟩ := Option.isSome_iff_exists.1 (hvalid.paymasterAndData text hpiece)
      simp [hpaymaster, hdata, hex2Bytes_of_decodeString (decodeString_trimMarker hdata)]

lemma signed_eq_iff (hinj : Function.Injective keccak) (hvalid : op.Valid)
    (hchain : chainID < 2 ^ 63) (hpack : packUserOperationV07 op = some sent)
    (hrebuild : sent.rebuild = some packed) :
    signUserOperation keccak chainID op =
        some (textHash keccak (packed.userOpHash keccak chainID)) ↔ SeparatePaymaster op := by
  obtain ⟨-, -, -, -, -, -, -, -, -, hjoined⟩ := RpcUserOp.rebuild_eq_some_iff.1 hrebuild
  obtain ⟨pm, hpm, hiff⟩ := hashedPaymaster_eq_iff hvalid hpack hjoined
  rw [sign_of_rebuild hvalid hchain hpack hrebuild hpm, ← hiff]
  constructor
  · intro h
    exact eq_of_userOpHash_eq hinj (textHash_injective hinj (Option.some.inj h))
  · rintro rfl
    rfl

end Agreement

theorem signsSent_iff {H : Type} (keccak : List (UInt8 ⊕ H) → H) (hinj : Function.Injective keccak)
    (chainID : ℕ) (hchain : chainID < 2 ^ 63) (op : UserOp) (hvalid : op.Valid) :
    SignsSent keccak chainID op ↔ HasFactory op ∧ FitsWords op ∧ SeparatePaymaster op := by
  constructor
  · rintro ⟨sent, packed, hpack, hrebuild, hsigned⟩
    exact ⟨(pack_isSome_iff hvalid).1 (Option.isSome_of_eq_some hpack),
      FitsWords.of_rebuild hpack hrebuild,
      (signed_eq_iff hinj hvalid hchain hpack hrebuild).1 hsigned⟩
  · rintro ⟨hfactory, hfits, hseparate⟩
    obtain ⟨sent, hpack⟩ := Option.isSome_iff_exists.1 ((pack_isSome_iff hvalid).2 hfactory)
    obtain ⟨packed, hrebuild⟩ := Option.isSome_iff_exists.1 (rebuild_isSome hvalid hfits hpack)
    exact ⟨sent, packed, hpack, hrebuild,
      (signed_eq_iff hinj hvalid hchain hpack hrebuild).2 hseparate⟩

/-! The deployment of an account, with a paymaster in the one form or the other. -/

def sampleKeccak (message : List (UInt8 ⊕ ℕ)) : ℕ :=
  Encodable.encode (message.map (Sum.map UInt8.toNat id))

lemma sampleKeccak_injective : Function.Injective sampleKeccak := by
  have hsum : Function.Injective (Sum.map UInt8.toNat (id : ℕ → ℕ)) :=
    Function.Injective.sumMap (fun _ _ => UInt8.toNat_inj.1) Function.injective_id
  exact Encodable.encode_injective.comp (List.map_injective_iff.2 hsum)

def deployment : UserOp where
  sender := "0x00000000000000000000000000000000000000A1"
  nonce := "0x0"
  callData := "0x"
  callGasLimit := "0x7530"
  verificationGasLimit := "0x493e0"
  preVerificationGas := "0x10000"
  maxFeePerGas := "0x59682f00"
  maxPriorityFeePerGas := "0x59682f00"
  signature := "0x"
  initCode := some "0x00000000000000000000000000000000000000f5aabb"
  factory := none
  factoryData := none
  paymaster := none
  paymasterVerificationGasLimit := none
  paymasterPostOpGasLimit := none
  paymasterData := none
  paymasterAndData := some "0x"

def sponsored : UserOp :=
  { deployment with paymasterAndData := some "0x00000000000000000000000000000000000000c301" }

def sponsoredSeparately : UserOp :=
  { deployment with
    paymaster := some "0x00000000000000000000000000000000000000c3"
    paymasterVerificationGasLimit := some "0x7530"
    paymasterData := some "0x01" }

theorem signsSent_separate_sponsor : SignsSent sampleKeccak 8453 sponsoredSeparately := by
  have hvalid : sponsoredSeparately.Valid := by
    constructor <;> decide +kernel
  refine (signsSent_iff sampleKeccak sampleKeccak_injective 8453 (by decide) sponsoredSeparately
    hvalid).2 ⟨?_, ?_, nofun⟩
  · exact (pack_isSome_iff hvalid).1 (by decide +kernel)
  · constructor <;> decide +kernel

theorem sponsor_signed_not_sent : ¬ SignsSent sampleKeccak 8453 sponsored := by
  rintro ⟨sent, packed, hpack, hrebuild, hsigned⟩
  have hvalid : sponsored.Valid := by
    constructor <;> decide +kernel
  have hseparate := (signed_eq_iff sampleKeccak_injective hvalid (by decide) hpack hrebuild).1
    hsigned rfl _ rfl
  exact absurd hseparate (by decide +kernel)

end Stablenode.SignedOperations
