import Stablenode.CreationWrites
import Stablenode.Hex

/-! The way of an order through the chain: `createOrder` (services/order/evm.go), the `OrderCreated`
log, its decoder (utils/rpc_events.go) and the event of the indexer. -/
namespace Stablenode

open BigEndian

structure AddressCodec where
  hexToAddress : String → ℕ
  hex : ℕ → String
  hexToAddress_lt : ∀ text, hexToAddress text < 256 ^ 20
  hex_ne_empty : ∀ a, hex a ≠ ""
  hexToAddress_hex : ∀ a < 256 ^ 20, hexToAddress (hex a) = a

def packWord (v : ℤ) : List UInt8 := toBytes 32 (v % 2 ^ 256).toNat

def toSubunit (amount : ℚ) (decimals : ℕ) : Option ℤ :=
  if (amount * 10 ^ decimals).den = 1 then some (amount * 10 ^ decimals).num else none

def bigInt (x : ℚ) : ℤ := x.num.tdiv x.den

structure CreateOrderCallData where
  token : List UInt8
  amount : List UInt8
  rate : List UInt8
  senderFeeRecipient : List UInt8
  senderFee : List UInt8
  refundAddress : List UInt8
  messageHash : List UInt8
  deriving DecidableEq

def createOrderCallData (codec : AddressCodec) (order : PaymentOrder)
    (contractAddress feeAddress : String) (encryptedOrderRecipient : List UInt8) :
    Option CreateOrderCallData := do
  let amount ← toSubunit order.amount order.token.decimals
  let senderFee ← toSubunit order.senderFee order.token.decimals
  return {
    token := packWord (codec.hexToAddress contractAddress)
    amount := packWord amount
    rate := packWord (bigInt (order.rate * 100))
    senderFeeRecipient := packWord (codec.hexToAddress feeAddress)
    senderFee := packWord senderFee
    refundAddress := packWord (codec.hexToAddress order.returnAddress)
    messageHash := encryptedOrderRecipient }

structure ChainLog where
  topics : List (List UInt8)
  data : List UInt8
  deriving DecidableEq

def CreateOrderCallData.orderCreatedLog (call : CreateOrderCallData)
    (eventSignature sender protocolFee orderId : List UInt8) : ChainLog where
  topics := [eventSignature, sender, call.token, call.amount]
  data := protocolFee ++ orderId ++ call.rate ++ packWord 128 ++
    packWord call.messageHash.length ++ call.messageHash ++
    List.replicate ((32 - call.messageHash.length % 32) % 32) 0

inductive DecodeError where
  | invalid (message : String)
  | panicked
  deriving DecidableEq

structure OrderCreatedParams where
  sender : String
  token : String
  amount : ℕ
  protocolFee : ℕ
  orderId : String
  rate : ℕ
  messageHash : String
  deriving DecidableEq

def topicAddress (topic : List UInt8) : ℕ := ofBytes topic % 256 ^ 20

def int64 (x : ℤ) : ℤ := x.bmod (2 ^ 64)

def hashHex (bytes : List UInt8) : String :=
  "0x" ++ String.ofList
    (bytes.flatMap fun b => [hexDigit (b.toNat / 16), hexDigit (b.toNat % 16)])

def textOfBytes (bytes : List UInt8) : String :=
  String.ofList (bytes.map fun b => Char.ofNat b.toNat)

def decodeMessageHash (data : List UInt8) : Except DecodeError String :=
  if data.length < 128 then .ok ""
  else
    match slice data 96 128 with
    | none => .error .panicked
    | some offsetBytes =>
      let offset := int64 (ofBytes offsetBytes)
      let body := int64 (offset + 32)
      if body ≤ data.length then
        match slice data offset body with
        | none => .error .panicked
        | some lengthBytes =>
          let last := int64 (body + int64 (ofBytes lengthBytes))
          if last ≤ data.length then
            match slice data body last with
            | none => .error .panicked
            | some bytes => .ok (textOfBytes bytes)
          else .ok ""
      else .ok ""

def decodeOrderCreatedEvent (codec : AddressCodec) (log : ChainLog) :
    Except DecodeError OrderCreatedParams :=
  match log.topics with
  | [_, sender, token, amount] =>
    if log.data.length < 96 then .error (.invalid "invalid OrderCreated event data: too short")
    else do
      let messageHash ← decodeMessageHash log.data
      return {
        sender := codec.hex (topicAddress sender)
        token := codec.hex (topicAddress token)
        amount := ofBytes amount
        protocolFee := ofBytes (log.data.take 32)
        orderId := hashHex ((log.data.drop 32).take 32)
        rate := ofBytes ((log.data.drop 64).take 32)
        messageHash := messageHash }
  | topics =>
    .error (.invalid ("invalid OrderCreated event: expected 4 topics, got " ++
      Nat.repr topics.length))

def OrderCreatedParams.event (codec : AddressCodec) (params : OrderCreatedParams)
    (blockNumber : ℕ) (txHash : String) : Option OrderCreatedEvent :=
  if params.token = "" ∨ params.orderId = "" ∨ params.messageHash = "" ∨ params.sender = "" then
    none
  else some
    { blockNumber := blockNumber
      txHash := txHash
      token := codec.hex (codec.hexToAddress params.token)
      amount := params.amount
      protocolFee := params.protocolFee
      orderId := params.orderId
      rate := Decimal.div params.rate 100
      messageHash := params.messageHash
      sender := codec.hex (codec.hexToAddress params.sender) }

def ChainLog.event (log : ChainLog) (codec : AddressCodec) (blockNumber : ℕ) (txHash : String) :
    Option OrderCreatedEvent :=
  (decodeOrderCreatedEvent codec log).toOption.bind fun params =>
    params.event codec blockNumber txHash

section RoundTrip

@[simp] lemma length_packWord (v : ℤ) : (packWord v).length = 32 := length_toBytes 32 _

lemma ofBytes_packWord (n : ℕ) : ofBytes (packWord n) = n % 2 ^ 256 := by
  have hpow : (256 : ℕ) ^ 32 = 2 ^ 256 := by norm_num
  have hmod : ((n : ℤ) % 2 ^ 256).toNat = n % 2 ^ 256 := by
    have hcast : ((n : ℤ) % 2 ^ 256) = ((n % 2 ^ 256 : ℕ) : ℤ) := by push_cast; rfl
    rw [hcast, Int.toNat_natCast]
  rw [packWord, ofBytes_toBytes, hpow, hmod, Nat.mod_mod]

lemma topicAddress_packWord {a : ℕ} (ha : a < 256 ^ 20) : topicAddress (packWord a) = a := by
  have hlt : a < 2 ^ 256 := ha.trans (by norm_num)
  rw [topicAddress, ofBytes_packWord, Nat.mod_eq_of_lt hlt, Nat.mod_eq_of_lt ha]

lemma int64_natCast {n : ℕ} (h : n < 2 ^ 63) : int64 n = n := by
  rw [int64, Int.bmod_def]
  omega

variable {call : CreateOrderCallData} {eventSignature sender protocolFee orderId : List UInt8}
  {message : List UInt8}

lemma decodeMessageHash_of_slices {data offset length : List UInt8} {start stop last : ℤ}
    (hdata : 128 ≤ data.length) (hoffset : slice data 96 128 = some offset)
    (hstart : int64 (ofBytes offset) = start) (hstop : int64 (start + 32) = stop)
    (hlengthFits : stop ≤ data.length) (hlength : slice data start stop = some length)
    (hlast : int64 (stop + int64 (ofBytes length)) = last) (hmessageFits : last ≤ data.length)
    (hmessage : slice data stop last = some message) :
    decodeMessageHash data = .ok (textOfBytes message) := by
  simp only [decodeMessageHash, if_neg (not_lt.2 hdata), hoffset, hstart, hstop,
    if_pos hlengthFits, hlength, hlast, if_pos hmessageFits, hmessage]

theorem decodeMessageHash_of_layout {front padding : List UInt8} (hfront : front.length = 96)
    (hshort : message.length + 160 < 2 ^ 63) :
    decodeMessageHash (front ++ packWord 128 ++ packWord message.length ++ message ++ padding) =
      .ok (textOfBytes message) := by
  have hstart : int64 (ofBytes (packWord 128)) = 128 := by
    have hbytes := ofBytes_packWord 128
    norm_num at hbytes
    rw [hbytes]
    norm_num [int64, Int.bmod_def]
  have hstop : int64 (128 + 32) = 160 := by norm_num [int64, Int.bmod_def]
  have hlast : int64 (160 + int64 (ofBytes (packWord message.length))) = 160 + message.length := by
    have hlen : int64 (message.length : ℤ) = message.length :=
      int64_natCast (by omega)
    have hsum := int64_natCast (n := 160 + message.length) (by omega)
    rw [ofBytes_packWord, Nat.mod_eq_of_lt (by omega), hlen]
    exact_mod_cast hsum
  have hoffset := length_packWord 128
  have hlength := length_packWord message.length
  generalize packWord 128 = offset at *
  generalize packWord message.length = length at *
  have hdata : (front ++ offset ++ length ++ message ++ padding).length =
      160 + message.length + padding.length := by
    simp only [List.length_append, hfront, hoffset, hlength]
  refine decodeMessageHash_of_slices (by omega) ?_ hstart hstop (by omega) ?_ hlast (by omega) ?_
  · rw [List.append_assoc, List.append_assoc]
    exact slice_append _ _ _ (by simp [hfront]) (by simp [hfront, hoffset])
  · rw [List.append_assoc]
    exact slice_append _ _ _ (by simp [hfront, hoffset]) (by simp [hfront, hoffset, hlength])
  · exact slice_append _ _ _ (by simp [hfront, hoffset, hlength])
      (by simp [hfront, hoffset, hlength])

theorem decodeOrderCreatedEvent_log {codec : AddressCodec} (hfee : protocolFee.length = 32)
    (hid : orderId.length = 32) (hrate : call.rate.length = 32)
    (hshort : call.messageHash.length + 160 < 2 ^ 63) :
    decodeOrderCreatedEvent codec (call.orderCreatedLog eventSignature sender protocolFee orderId) =
      .ok {
        sender := codec.hex (topicAddress sender)
        token := codec.hex (topicAddress call.token)
        amount := ofBytes call.amount
        protocolFee := ofBytes protocolFee
        orderId := hashHex orderId
        rate := ofBytes call.rate
        messageHash := textOfBytes call.messageHash } := by
  have hfront : (protocolFee ++ orderId ++ call.rate).length = 96 := by simp [hfee, hid, hrate]
  set log := call.orderCreatedLog eventSignature sender protocolFee orderId with hlog
  obtain ⟨rest, hrest⟩ : ∃ rest, log.data = protocolFee ++ (orderId ++ (call.rate ++ rest)) := by
    simp only [hlog, CreateOrderCallData.orderCreatedLog, List.append_assoc]
    exact ⟨_, rfl⟩
  have hlong : ¬ log.data.length < 96 := by
    simp only [hrest, List.length_append, hfee, hid, hrate]
    omega
  have hmessage : decodeMessageHash log.data = .ok (textOfBytes call.messageHash) :=
    decodeMessageHash_of_layout hfront hshort
  have hfeeBytes : log.data.take 32 = protocolFee := by simp [hrest, hfee]
  have hidBytes : (log.data.drop 32).take 32 = orderId := by simp [hrest, ← hfee, hid]
  have hrateBytes : (log.data.drop 64).take 32 = call.rate := by
    have hsplit : log.data = (protocolFee ++ orderId) ++ (call.rate ++ rest) := by simp [hrest]
    have h64 : (protocolFee ++ orderId).length = 64 := by simp [hfee, hid]
    rw [hsplit, ← h64, List.drop_left, ← hrate, List.take_left]
  have htopics : log.topics = [eventSignature, sender, call.token, call.amount] := rfl
  simp only [decodeOrderCreatedEvent, htopics, if_neg hlong, hmessage, hfeeBytes, hidBytes,
    hrateBytes, bind, Except.bind, pure, Except.pure]

end RoundTrip

namespace Sample

def unaryCodec : AddressCodec where
  hexToAddress text := (text.length - 2) % 256 ^ 20
  hex a := "0x" ++ String.ofList (List.replicate a '0')
  hexToAddress_lt text := Nat.mod_lt _ (by norm_num)
  hex_ne_empty a h := by
    have := congrArg String.toList h
    simp at this
  hexToAddress_hex a ha := by
    have hdigits : (String.ofList (List.replicate a '0')).length = a := by
      rw [String.length_ofList, List.length_replicate]
    rw [String.length_append, hdigits, show "0x".length = 2 from rfl, Nat.add_sub_cancel_left,
      Nat.mod_eq_of_lt ha]

end Sample

end Stablenode
