import Stablenode.GatewayLog

/-! The way of a settlement through the chain: `settle` (services/order/evm.go), the `OrderSettled`
log, its decoder (utils/rpc_events.go), the event of the indexer and its split order id. -/
namespace Stablenode

open BigEndian Hex

def bytesOfText (text : String) : List UInt8 := text.toList.map fun c => UInt8.ofNat c.toNat

def stringToByte32 (text : String) : List UInt8 :=
  let inputBytes := (bytesOfText text).take 32
  inputBytes ++ List.replicate (32 - inputBytes.length) 0

def uuidString (id : ℕ) : String :=
  let digits := encode (toBytes 16 id)
  String.ofList (digits.take 8 ++ '-' :: ((digits.drop 8).take 4 ++ '-' ::
    ((digits.drop 12).take 4 ++ '-' :: ((digits.drop 16).take 4 ++ '-' :: digits.drop 20))))

def removeDashes (text : String) : String := String.ofList (text.toList.filter (· ≠ '-'))

def parseHyphenated (text : List Char) : Option (List UInt8) :=
  if text[8]? = some '-' ∧ text[13]? = some '-' ∧ text[18]? = some '-' ∧ text[23]? = some '-' then
    [0, 2, 4, 6, 9, 11, 14, 16, 19, 21, 24, 26, 28, 30, 32, 34].mapM fun i => do
      let high ← text[i]?.bind hexValue
      let low ← text[i + 1]?.bind hexValue
      return UInt8.ofNat (16 * high + low)
  else none

def parseUuid (text : String) : Option ℕ :=
  let digits := text.toList
  let bytes :=
    if digits.length = 36 then parseHyphenated digits
    else if digits.length = 45 then
      if (digits.take 9).map Char.toLower = "urn:uuid:".toList then parseHyphenated (digits.drop 9)
      else none
    else if digits.length = 38 then parseHyphenated (digits.drop 1)
    else if digits.length = 32 then decodeString digits
    else none
  bytes.map ofBytes

def uint64 (x : ℚ) : Option ℕ :=
  if 0 ≤ bigInt x ∧ bigInt x < 2 ^ 64 then some (bigInt x).toNat else none

structure SettlementSources where
  institutionCurrency : String → Except QueryError (Option String)
  providerAddress : String → Token → String → Except QueryError String

structure SettleCallData where
  splitOrderId : List UInt8
  orderId : List UInt8
  liquidityProvider : List UInt8
  settlePercent : List UInt8
  deriving DecidableEq

def settleCallData (codec : AddressCodec) (sources : SettlementSources) (order : LockPaymentOrder)
    (orderPercent : ℚ) : Except DecodeError SettleCallData :=
  match sources.institutionCurrency order.institution with
  | .error _ => .error (.invalid "failed to get institution")
  | .ok none => .error .panicked
  | .ok (some currency) =>
    match order.provider with
    | none => .error .panicked
    | some provider =>
      match sources.providerAddress provider order.token currency with
      | .error _ => .error (.invalid "failed to fetch provider order token")
      | .ok address =>
        match order.gatewayId.toList with
        | _ :: _ :: digits =>
          match decodeString digits with
          | none => .error (.invalid "failed to decode orderID")
          | some orderID =>
            -- the percentage in thousandths, by way of a double
            match uint64 (Decimal.float64 (orderPercent * 1000)) with
            | none => .error .panicked
            | some percent => .ok
              { splitOrderId := stringToByte32 (removeDashes (uuidString order.id))
                orderId := stringToByte32 (textOfBytes orderID)
                liquidityProvider := packWord (codec.hexToAddress address)
                settlePercent := packWord percent }
        | _ => .error .panicked

def SettleCallData.orderSettledLog (call : SettleCallData) (eventSignature : List UInt8) :
    ChainLog where
  topics := [eventSignature, call.orderId, call.liquidityProvider]
  data := call.splitOrderId ++ call.settlePercent

structure OrderSettledParams where
  orderId : String
  liquidityProvider : String
  splitOrderId : String
  settlePercent : ℕ
  deriving DecidableEq

def decodeOrderSettledEvent (codec : AddressCodec) (log : ChainLog) :
    Except DecodeError OrderSettledParams :=
  match log.topics with
  | [_, orderId, liquidityProvider] =>
    if log.data.length < 44 then .error (.invalid "invalid OrderSettled event data: too short")
    else
      match slice log.data 0 32, slice log.data 32 64 with
      | some splitOrderId, some settlePercent => .ok
        { orderId := hashHex orderId
          liquidityProvider := codec.hex (topicAddress liquidityProvider)
          splitOrderId := hashHex splitOrderId
          settlePercent := ofBytes settlePercent }
      | _, _ => .error .panicked
  | topics =>
    .error (.invalid ("invalid OrderSettled event: expected 3 topics, got " ++
      Nat.repr topics.length))

def parseSplitOrderId (splitOrderId : String) : Option ℕ :=
  parseUuid (textOfBytes (fromHex splitOrderId))

def OrderSettledParams.event (params : OrderSettledParams) (blockNumber : ℕ) (txHash : String) :
    Option OrderSettledEvent :=
  if params.splitOrderId = "" ∨ params.orderId = "" ∨ params.liquidityProvider = "" then none
  else some
    { blockNumber := blockNumber
      txHash := txHash
      splitOrderId := parseSplitOrderId params.splitOrderId
      orderId := params.orderId
      settlePercent := params.settlePercent }

def ChainLog.settledEvent (log : ChainLog) (codec : AddressCodec) (blockNumber : ℕ)
    (txHash : String) : Option OrderSettledEvent :=
  (decodeOrderSettledEvent codec log).toOption.bind fun params => params.event blockNumber txHash

namespace SettlementLog

variable {bytes : List UInt8}

section Texts

lemma toNat_ofNat_byte (b : UInt8) : (Char.ofNat b.toNat).toNat = b.toNat := by
  have hvalid : b.toNat.isValidChar := Or.inl (b.toNat_lt.trans (by norm_num))
  simp [Char.ofNat, hvalid, Char.ofNatAux, Char.toNat]

@[simp] lemma bytesOfText_textOfBytes (bytes : List UInt8) :
    bytesOfText (textOfBytes bytes) = bytes := by
  simp [bytesOfText, textOfBytes, Function.comp_def, toNat_ofNat_byte]

variable {text : String}

lemma textOfBytes_bytesOfText (h : ∀ c ∈ text.toList, c.toNat < 256) :
    textOfBytes (bytesOfText text) = text := by
  have hchars : text.toList.map (fun c => Char.ofNat (UInt8.ofNat c.toNat).toNat) = text.toList := by
    rw [List.map_congr_left (g := id), List.map_id]
    intro c hc
    rw [UInt8.toNat_ofNat', Nat.mod_eq_of_lt (h c hc), Char.ofNat_toNat, id]
  rw [textOfBytes, bytesOfText, List.map_map]
  exact (congrArg String.ofList hchars).trans String.ofList_toList

lemma stringToByte32_of_length (h : text.toList.length = 32) :
    stringToByte32 text = bytesOfText text := by
  have hlength : (bytesOfText text).length = 32 := by rw [bytesOfText, List.length_map, h]
  rw [stringToByte32, List.take_of_length_le hlength.le]
  simp [hlength]

lemma hexDigit_range {n : ℕ} (h : n < 16) : (hexDigit n).toNat < 256 ∧ hexDigit n ≠ '-' := by
  interval_cases n <;> decide

lemma encode_range {c : Char} (h : c ∈ encode bytes) : c.toNat < 256 ∧ c ≠ '-' := by
  obtain ⟨b, -, hc⟩ := List.mem_flatMap.1 h
  simp only [List.mem_cons, List.not_mem_nil, or_false] at hc
  rcases hc with rfl | rfl
  · exact hexDigit_range (Nat.div_lt_of_lt_mul b.toNat_lt)
  · exact hexDigit_range (Nat.mod_lt _ (by decide))

lemma removeDashes_uuidString (id : ℕ) :
    removeDashes (uuidString id) = String.ofList (encode (toBytes 16 id)) := by
  have hkept : ∀ c ∈ encode (toBytes 16 id), decide (c ≠ '-') = true :=
    fun c hc => decide_eq_true (encode_range hc).2
  rw [removeDashes, uuidString, String.toList_ofList]
  generalize encode (toBytes 16 id) = digits at hkept ⊢
  congr 1
  have hgroups : digits = digits.take 8 ++ ((digits.drop 8).take 4 ++ ((digits.drop 12).take 4 ++
      ((digits.drop 16).take 4 ++ digits.drop 20))) := by
    have h12 := List.take_append_drop 4 (digits.drop 8)
    have h16 := List.take_append_drop 4 (digits.drop 12)
    have h20 := List.take_append_drop 4 (digits.drop 16)
    rw [List.drop_drop] at h12 h16 h20
    rw [h20, h16, h12, List.take_append_drop]
  conv_rhs => rw [← List.filter_eq_self.2 hkept, hgroups]
  simp only [List.filter_append, List.filter_cons, ne_eq, not_true_eq_false, decide_false,
    Bool.false_eq_true, if_false]

end Texts

section RoundTrip

variable {call : SettleCallData}

theorem parseSplitOrderId_uuidString {id : ℕ} (hid : id < 2 ^ 128) :
    parseSplitOrderId (hashHex (stringToByte32 (removeDashes (uuidString id)))) = some id := by
  have htext := removeDashes_uuidString id
  have hlength : (encode (toBytes 16 id)).length = 32 := by rw [length_encode, length_toBytes]
  have hdigits : (String.ofList (encode (toBytes 16 id))).toList = encode (toBytes 16 id) :=
    String.toList_ofList
  have hbytes : stringToByte32 (String.ofList (encode (toBytes 16 id))) =
      bytesOfText (String.ofList (encode (toBytes 16 id))) :=
    stringToByte32_of_length (by rw [hdigits, hlength])
  have hback : textOfBytes (bytesOfText (String.ofList (encode (toBytes 16 id)))) =
      String.ofList (encode (toBytes 16 id)) :=
    textOfBytes_bytesOfText fun c hc => (encode_range (hdigits ▸ hc)).1
  have hparse : parseUuid (String.ofList (encode (toBytes 16 id))) =
      some (ofBytes (toBytes 16 id)) := by
    simp [parseUuid, hlength]
  have hnumber : ofBytes (toBytes 16 id) = id := by
    rw [ofBytes_toBytes, Nat.mod_eq_of_lt (hid.trans_eq (by norm_num))]
  rw [parseSplitOrderId, hashHex, htext, hbytes, ← encode, fromHex_encode, hback, hparse, hnumber]

lemma uint64_thousandths {k : ℕ} (hk : k ≤ 100000) : uint64 (Decimal.float64 k) = some k := by
  have hint : bigInt (k : ℚ) = k := by simp [bigInt]
  rw [Decimal.float64_natCast (by omega), uint64, hint, if_pos (by omega), Int.toNat_natCast]

lemma stringToByte32_textOfBytes (h : bytes.length = 32) :
    stringToByte32 (textOfBytes bytes) = bytes := by
  rw [stringToByte32_of_length (by simp [textOfBytes, h]), bytesOfText_textOfBytes]

lemma decodeOrderSettledEvent_log (hsplit : call.splitOrderId.length = 32)
    (hpercent : call.settlePercent.length = 32) (codec : AddressCodec)
    (eventSignature : List UInt8) :
    decodeOrderSettledEvent codec (call.orderSettledLog eventSignature) = .ok
      { orderId := hashHex call.orderId
        liquidityProvider := codec.hex (topicAddress call.liquidityProvider)
        splitOrderId := hashHex call.splitOrderId
        settlePercent := ofBytes call.settlePercent } := by
  have hlong : ¬ (call.orderSettledLog eventSignature).data.length < 44 := by
    simp [SettleCallData.orderSettledLog, hsplit, hpercent]
  have hfirst : slice (call.orderSettledLog eventSignature).data 0 32 = some call.splitOrderId :=
    slice_append [] call.splitOrderId call.settlePercent rfl (by simp [hsplit])
  have hsecond : slice (call.orderSettledLog eventSignature).data 32 64 =
      some call.settlePercent := by
    rw [SettleCallData.orderSettledLog, ← List.append_nil (_ ++ _)]
    exact slice_append _ _ _ (by simp [hsplit]) (by simp [hsplit, hpercent])
  have htopics : (call.orderSettledLog eventSignature).topics =
      [eventSignature, call.orderId, call.liquidityProvider] := rfl
  simp only [decodeOrderSettledEvent, htopics, if_neg hlong, hfirst, hsecond]

lemma hashHex_ne_empty (bytes : List UInt8) : hashHex bytes ≠ "" := by
  intro h
  have hchars := congrArg String.toList h
  simp [hashHex] at hchars

lemma settledEvent_log (hsplit : call.splitOrderId.length = 32)
    (hpercent : call.settlePercent.length = 32) (codec : AddressCodec)
    (eventSignature : List UInt8) (blockNumber : ℕ) (txHash : String) :
    (call.orderSettledLog eventSignature).settledEvent codec blockNumber txHash = some
      { blockNumber := blockNumber
        txHash := txHash
        splitOrderId := parseSplitOrderId (hashHex call.splitOrderId)
        orderId := hashHex call.orderId
        settlePercent := ofBytes call.settlePercent } := by
  rw [ChainLog.settledEvent, decodeOrderSettledEvent_log hsplit hpercent codec eventSignature,
    Except.toOption, Option.bind_some, OrderSettledParams.event, if_neg]
  rintro (h | h | h)
  · exact hashHex_ne_empty _ h
  · exact hashHex_ne_empty _ h
  · exact codec.hex_ne_empty _ h

end RoundTrip

theorem settledEvent_settleCallData (codec : AddressCodec) (sources : SettlementSources)
    (order : LockPaymentOrder) (orderPercent : ℚ) (hid : order.id < 2 ^ 128)
    (gatewayId : List UInt8) (hgateway : gatewayId.length = 32)
    (hhex : order.gatewayId = hashHex gatewayId)
    (hplaces : Decimal.round orderPercent 3 = orderPercent) (hlow : 0 ≤ orderPercent)
    (hhigh : orderPercent ≤ 100) (provider currency address : String)
    (hprovider : order.provider = some provider)
    (hcurrency : sources.institutionCurrency order.institution = .ok (some currency))
    (haddress : sources.providerAddress provider order.token currency = .ok address)
    (eventSignature : List UInt8) (blockNumber : ℕ) (txHash : String) :
    ∃ call event, settleCallData codec sources order orderPercent = .ok call ∧
      (call.orderSettledLog eventSignature).settledEvent codec blockNumber txHash = some event ∧
      event.splitOrderId = some order.id ∧ event.orderId = order.gatewayId ∧
      Decimal.div event.settlePercent 1000 = orderPercent := by
  obtain ⟨z, hz⟩ := Decimal.round_eq_self_iff.1 hplaces
  norm_num at hz
  obtain ⟨k, rfl⟩ : ∃ k : ℕ, z = k := by
    refine Int.eq_ofNat_of_zero_le ?_
    have hnonneg : (0 : ℚ) ≤ z := by rw [← hz]; positivity
    exact_mod_cast hnonneg
  have hk : k ≤ 100000 := by
    have hbound : ((k : ℤ) : ℚ) ≤ 100000 := by rw [← hz]; linarith
    exact_mod_cast hbound
  have hthousandths : orderPercent * 1000 = (k : ℚ) := by exact_mod_cast hz
  have hdigits : order.gatewayId.toList = '0' :: 'x' :: encode gatewayId := by
    rw [hhex, hashHex, ← encode]
    simp
  obtain ⟨call, hcall, hsplit, horder, hpercent⟩ : ∃ call, settleCallData codec sources order
      orderPercent = .ok call ∧
      call.splitOrderId = stringToByte32 (removeDashes (uuidString order.id)) ∧
      call.orderId = gatewayId ∧ call.settlePercent = packWord k := by
    refine ⟨⟨stringToByte32 (removeDashes (uuidString order.id)), gatewayId,
      packWord (codec.hexToAddress address), packWord k⟩, ?_, rfl, rfl, rfl⟩
    simp only [settleCallData, hcurrency, hprovider, haddress, hdigits, decodeString_encode,
      hthousandths, uint64_thousandths hk, stringToByte32_textOfBytes hgateway]
  have hlength : call.splitOrderId.length = 32 := by
    rw [hsplit]
    simp [stringToByte32]
  have hevent := settledEvent_log hlength (hpercent ▸ length_packWord k) codec eventSignature
    blockNumber txHash
  have hnumber : ofBytes (packWord k) = k := by
    rw [ofBytes_packWord, Nat.mod_eq_of_lt (by omega)]
  have hdiv : Decimal.div k 1000 = orderPercent := by
    have hexact := (Decimal.div_pow_eq_iff k 3).2 (dvd_mul_of_dvd_right (by norm_num) k)
    norm_num at hexact
    rw [hexact, ← hthousandths]
    ring
  rw [hsplit, horder, hpercent, hnumber, parseSplitOrderId_uuidString hid, ← hhex] at hevent
  exact ⟨call, _, hcall, hevent, rfl, rfl, hdiv⟩

theorem settledEvent_half_settlement :
    ∃ call event, settleCallData Sample.unaryCodec
        ⟨fun _ => .ok (some "NGN"), fun _ _ _ => .ok "0xprovider"⟩
        { Sample.lockOrder with id := 2 ^ 128 - 1, gatewayId := hashHex (toBytes 32 7) }
        (101 / 2) = .ok call ∧
      (call.orderSettledLog (toBytes 32 0)).settledEvent Sample.unaryCodec 5 "0x1" = some event ∧
      event.splitOrderId = some (2 ^ 128 - 1) ∧ event.orderId = hashHex (toBytes 32 7) ∧
      Decimal.div event.settlePercent 1000 = 101 / 2 :=
  settledEvent_settleCallData Sample.unaryCodec _
    { Sample.lockOrder with id := 2 ^ 128 - 1, gatewayId := hashHex (toBytes 32 7) } (101 / 2)
    (by decide) (toBytes 32 7) (length_toBytes 32 7) rfl (by decide +kernel) (by norm_num)
    (by norm_num) "p1" "NGN" "0xprovider" rfl rfl rfl (toBytes 32 0) 5 "0x1"

end SettlementLog

end Stablenode
