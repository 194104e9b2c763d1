import Stablenode.Abi
import Stablenode.EventDelivery
import Stablenode.Interleaving
import Stablenode.LastByKey
import Stablenode.SettlementLog

/-! The events of the gateway contract on Tron (services/indexer/tron.go). -/
namespace Stablenode

open Proc Abi BigEndian Hex

structure TronLog where
  topics : List String
  data : String
  deriving DecidableEq

structure TronTransaction where
  hash : List UInt8
  blockNumber : ℕ
  logs : List TronLog
  deriving DecidableEq

def TronTransaction.id (tx : TronTransaction) : String := String.ofList (encode tx.hash)

structure TronCodec where
  address : ℕ → String
  newFromFloat : ℚ → ℚ

def bigFloat (bits : ℕ) (x : ℚ) : ℚ :=
  let ulp : ℚ := 2 ^ (Int.log 2 |x| - (bits - 1))
  Decimal.roundBank (x / ulp) 0 * ulp

def TronCodec.fromSubunit (codec : TronCodec) (amountInSubunit decimals : ℕ) : ℚ :=
  codec.newFromFloat
    (Decimal.float64 (bigFloat 236 (bigFloat 236 amountInSubunit / 10 ^ decimals)))

def TronCodec.parseTopicToTronAddress (codec : TronCodec) (topic : String) : String :=
  match decodeString topic.toList with
  | none => ""
  | some bytes => codec.address (ofBytes bytes % 256 ^ 20)

def parseTopicToBigInt (topic : String) : Option ℕ := (decodeString topic.toList).map ofBytes

def parseTopicToByte32 (topic : String) : Option (List UInt8) :=
  match decodeString topic.toList with
  | none => some (List.replicate 32 0)
  | some bytes => if bytes.length < 32 then none else some (bytes.take 32)

def orderIdText (bytes : List UInt8) : String := "0x" ++ String.ofList (encode bytes)

def unpackEventData (types : List AbiType) (data : String) : Option (List AbiValue) :=
  (decodeString data.toList).bind (unpackValues types)

def orPanic {α : Type} : Option α → Except DecodeError α
  | some a => .ok a
  | none => .error .panicked

variable {types : List AbiType} {codec : TronCodec} {tx : TronTransaction} {log : TronLog}

namespace TronEvents

def orderCreatedTypes : List AbiType := [.uint, .bytes32, .uint, .string]

def orderSettledTypes : List AbiType := [.bytes32, .uint]

def orderRefundedTypes : List AbiType := [.uint]

def orderCreatedSignature : String :=
  "40ccd1ceb111a3c186ef9911e1b876dc1f789ed331b86097b3b8851055b6a137"

def orderSettledSignature : String :=
  "98ece21e01a01cbe1d1c0dad3b053c8fbd368f99be78be958fcf1d1d13fd249a"

def orderRefundedSignature : String :=
  "0736fe428e1747ca8d387c2e6fa1a31a0cde62d3a167c40a46ade59a3cdc828e"

def unpackFailed {α : Type} (event : String) : Except DecodeError α :=
  .error (.invalid ("Failed to unpack " ++ event ++ " event data"))

def createdEventOfTransaction (codec : TronCodec) (tx : TronTransaction) (log : TronLog) :
    Except DecodeError OrderCreatedEvent :=
  match unpackEventData orderCreatedTypes log.data with
  | none => unpackFailed "OrderCreated"
  | some values => do
    let orderAmount ← orPanic (log.topics[3]?.bind parseTopicToBigInt)
    let protocolFee ← orPanic (values[0]?.bind AbiValue.asBigInt)
    let rate ← orPanic (values[1]?.bind AbiValue.asBigInt)
    let orderId ← orPanic (values[2]?.bind AbiValue.asText)
    let messageHash ← orPanic (values[3]?.bind AbiValue.asText)
    let token ← orPanic log.topics[2]?
    let sender ← orPanic log.topics[1]?
    return {
      blockNumber := tx.blockNumber
      txHash := tx.id
      token := codec.parseTopicToTronAddress token
      amount := codec.fromSubunit orderAmount 0
      protocolFee := codec.fromSubunit protocolFee 0
      orderId := textOfBytes orderId
      rate := codec.fromSubunit rate 0
      messageHash := textOfBytes messageHash
      sender := codec.parseTopicToTronAddress sender }

def createdEventOfBlockRange (codec : TronCodec) (tx : TronTransaction) (log : TronLog) :
    Except DecodeError OrderCreatedEvent :=
  match unpackEventData orderCreatedTypes log.data with
  | none => unpackFailed "OrderCreated"
  | some values => do
    let eventOrderId ← orPanic (values[1]?.bind AbiValue.asBytes32)
    let token ← orPanic log.topics[2]?
    let orderAmount ← orPanic (log.topics[3]?.bind parseTopicToBigInt)
    let protocolFee ← orPanic (values[0]?.bind AbiValue.asBigInt)
    let rate ← orPanic (values[2]?.bind AbiValue.asBigInt)
    let messageHash ← orPanic (values[3]?.bind AbiValue.asText)
    let sender ← orPanic log.topics[1]?
    return {
      blockNumber := tx.blockNumber
      txHash := tx.id
      token := codec.parseTopicToTronAddress token
      amount := codec.fromSubunit orderAmount 0
      protocolFee := codec.fromSubunit protocolFee 0
      orderId := orderIdText eventOrderId
      rate := codec.fromSubunit rate 2
      messageHash := textOfBytes messageHash
      sender := codec.parseTopicToTronAddress sender }

section Created

variable {values : List AbiValue}

lemma unpackEventData_types {data : String} (h : unpackEventData types data = some values) :
    values.map AbiValue.type = types := by
  obtain ⟨bytes, -, hvalues⟩ := Option.bind_eq_some_iff.1 h
  exact unpackValues_types hvalues

variable (h : unpackEventData orderCreatedTypes log.data = some values)
include h

lemma orderCreated_values :
    ∃ protocolFee orderId rate messageHash,
      values = [.bigInt protocolFee, .bytes32 orderId, .bigInt rate, .text messageHash] := by
  have htypes := unpackEventData_types h
  simp only [orderCreatedTypes, List.map_eq_cons_iff, List.map_eq_nil_iff] at htypes
  obtain ⟨a, _, rfl, ha, b, _, rfl, hb, c, _, rfl, hc, d, _, rfl, hd, rfl⟩ := htypes
  obtain ⟨protocolFee, rfl⟩ := AbiValue.exists_bigInt ha
  obtain ⟨orderId, rfl⟩ := AbiValue.exists_bytes32 hb
  obtain ⟨rate, rfl⟩ := AbiValue.exists_bigInt hc
  obtain ⟨messageHash, rfl⟩ := AbiValue.exists_text hd
  exact ⟨protocolFee, orderId, rate, messageHash, rfl⟩

lemma createdEventOfTransaction_panics :
    createdEventOfTransaction codec tx log = .error .panicked := by
  obtain ⟨protocolFee, orderId, rate, messageHash, rfl⟩ := orderCreated_values h
  rw [createdEventOfTransaction, h]
  cases log.topics[3]?.bind parseTopicToBigInt <;> rfl

theorem createdEventOfBlockRange_ok {signature sender token amount : String}
    (htopics : log.topics = [signature, sender, token, amount]) {orderAmount : ℕ}
    (hamount : parseTopicToBigInt amount = some orderAmount) :
    ∃ protocolFee orderId rate messageHash,
      values = [.bigInt protocolFee, .bytes32 orderId, .bigInt rate, .text messageHash] ∧
      createdEventOfBlockRange codec tx log = .ok
        { blockNumber := tx.blockNumber
          txHash := tx.id
          token := codec.parseTopicToTronAddress token
          amount := codec.fromSubunit orderAmount 0
          protocolFee := codec.fromSubunit protocolFee 0
          orderId := orderIdText orderId
          rate := codec.fromSubunit rate 2
          messageHash := textOfBytes messageHash
          sender := codec.parseTopicToTronAddress sender } := by
  obtain ⟨protocolFee, orderId, rate, messageHash, rfl⟩ := orderCreated_values h
  refine ⟨protocolFee, orderId, rate, messageHash, rfl, ?_⟩
  have hthird : ([signature, sender, token, amount][3]?).bind parseTopicToBigInt =
      some orderAmount := hamount
  rw [createdEventOfBlockRange, h, htopics]
  simp only [hthird]
  rfl

omit h

def compared (event : OrderCreatedEvent) : (String × ℚ × ℚ) × (ℚ × String × String) :=
  ((event.orderId, event.amount, event.rate), (event.protocolFee, event.messageHash, event.sender))

structure SameEvent (codec : TronCodec) (tx : TronTransaction) (log : TronLog) : Prop where
  transaction : createdEventOfTransaction codec tx log ≠ .error .panicked
  blockRange : createdEventOfBlockRange codec tx log ≠ .error .panicked
  event : (createdEventOfTransaction codec tx log).toOption.map compared =
    (createdEventOfBlockRange codec tx log).toOption.map compared

theorem sameEvent_iff_not_unpacked (codec : TronCodec) (tx : TronTransaction) (log : TronLog) :
    SameEvent codec tx log ↔ unpackEventData orderCreatedTypes log.data = none := by
  constructor
  · intro h
    cases hdata : unpackEventData orderCreatedTypes log.data with
    | none => rfl
    | some values => exact absurd (createdEventOfTransaction_panics hdata) h.transaction
  · intro h
    refine ⟨?_, ?_, ?_⟩
    · simp [createdEventOfTransaction, h, unpackFailed]
    · simp [createdEventOfBlockRange, h, unpackFailed]
    · simp [createdEventOfTransaction, createdEventOfBlockRange, h, unpackFailed]

end Created

end TronEvents

namespace Sample

def tronCodec : TronCodec where
  address a := Nat.repr a
  newFromFloat x := x

def tronWord (n : ℕ) : String := String.ofList (encode (toBytes 32 n))

def tronCreatedLog : TronLog where
  topics := [TronEvents.orderCreatedSignature, tronWord 3, tronWord 4, tronWord 7]
  data := tronWord 1 ++ tronWord 5 ++ tronWord 150 ++ tronWord 128 ++ tronWord 1 ++
    String.ofList (encode (109 :: List.replicate 31 0))

end Sample

namespace TronEvents

theorem well_formed_log_panics :
    let tx : TronTransaction := ⟨toBytes 32 9, 6, [Sample.tronCreatedLog]⟩
    unpackEventData orderCreatedTypes Sample.tronCreatedLog.data =
        some [.bigInt 1, .bytes32 (toBytes 32 5), .bigInt 150, .text [109]] ∧
      (createdEventOfBlockRange Sample.tronCodec tx Sample.tronCreatedLog).toOption.map compared =
        some ((orderIdText (toBytes 32 5), 7, 3 / 2), (1, "m", "3")) ∧
      createdEventOfTransaction Sample.tronCodec tx Sample.tronCreatedLog = .error .panicked ∧
      ¬ SameEvent Sample.tronCodec tx Sample.tronCreatedLog := by
  have hdata : Sample.tronCreatedLog.data.toList =
      encode (toBytes 32 1 ++ toBytes 32 5 ++ toBytes 32 150 ++ toBytes 32 128 ++ toBytes 32 1 ++
        109 :: List.replicate 31 0) := by
    simp only [Sample.tronCreatedLog, Sample.tronWord, String.toList_append, String.toList_ofList,
      encode_append]
  have hunpack : unpackEventData orderCreatedTypes Sample.tronCreatedLog.data =
      some [.bigInt 1, .bytes32 (toBytes 32 5), .bigInt 150, .text [109]] := by
    rw [unpackEventData, hdata, decodeString_encode]
    decide +kernel
  refine ⟨hunpack, ?_, createdEventOfTransaction_panics hunpack,
    fun h => h.transaction (createdEventOfTransaction_panics hunpack)⟩
  obtain ⟨_, _, _, _, hvalues, hevent⟩ :=
    @createdEventOfBlockRange_ok Sample.tronCodec ⟨toBytes 32 9, 6, [Sample.tronCreatedLog]⟩ _ _
      hunpack _ _ _ _ rfl 7 (by decide +kernel)
  cases hvalues
  rw [hevent]
  decide +kernel

section BlockRange

variable {ε : Type} {s : Store}

def settledEventOfBlockRange (codec : TronCodec) (tx : TronTransaction) (log : TronLog) :
    Except DecodeError OrderSettledEvent :=
  match unpackEventData orderSettledTypes log.data with
  | none => unpackFailed "OrderSettled"
  | some values => do
    let splitOrderId ← orPanic (values[0]?.bind AbiValue.asText)
    let settlePercent ← orPanic (values[1]?.bind AbiValue.asBigInt)
    let eventOrderId ← orPanic (log.topics[1]?.bind parseTopicToByte32)
    let _ ← orPanic log.topics[2]?
    return {
      blockNumber := tx.blockNumber
      txHash := tx.id
      splitOrderId := parseSplitOrderId (textOfBytes splitOrderId)
      orderId := orderIdText eventOrderId
      settlePercent := codec.fromSubunit settlePercent 0 }

def refundedEventOfBlockRange (tx : TronTransaction) (log : TronLog) :
    Except DecodeError OrderRefundedEvent :=
  match unpackEventData orderRefundedTypes log.data with
  | none => unpackFailed "OrderRefunded"
  | some values => do
    let _ ← orPanic (values[0]?.bind AbiValue.asBigInt)
    let eventOrderId ← orPanic (log.topics[1]?.bind parseTopicToByte32)
    return {
      blockNumber := tx.blockNumber
      txHash := tx.id
      orderId := orderIdText eventOrderId }

def firstEvent (signature : String) (event : TronLog → Except DecodeError ε) :
    List TronLog → Except DecodeError (Option ε)
  | [] => .ok none
  | log :: logs =>
    match log.topics with
    | [] => .error .panicked
    | topic :: _ =>
      if topic = signature then
        match event log with
        | .ok e => .ok (some e)
        | .error .panicked => .error .panicked
        | .error (.invalid _) => firstEvent signature event logs
      else firstEvent signature event logs

def eventsOfRange (name signature : String)
    (event : TronTransaction → TronLog → Except DecodeError ε) :
    List (String × TronTransaction) → Except DecodeError (List ε)
  | [] => .ok []
  | (eventName, tx) :: answer =>
    if eventName = name then do
      let e ← firstEvent signature (event tx) tx.logs
      let es ← eventsOfRange name signature event answer
      return e.toList ++ es
    else eventsOfRange name signature event answer

def settledEvents (codec : TronCodec) (answer : List (String × TronTransaction)) :
    Except DecodeError (List OrderSettledEvent) :=
  eventsOfRange "OrderSettled" orderSettledSignature (settledEventOfBlockRange codec) answer

def refundedEvents (answer : List (String × TronTransaction)) :
    Except DecodeError (List OrderRefundedEvent) :=
  eventsOfRange "OrderRefunded" orderRefundedSignature refundedEventOfBlockRange answer

def handOffs (keep : LockPaymentOrder → Option PaymentOrder → Bool) (txHash : ε → String)
    (events : Except DecodeError (List ε)) (s : Store) : List (LockPaymentOrder × ε) :=
  let events := events.toOption.getD []
  (s.lockOrdersWhere (events.map txHash) keep).filterMap fun o =>
    (lastByKey txHash events o.gatewayId).map fun e => (o, e)

def orderIdOf (signature : String) (types : List AbiType) (log : TronLog) : Option String :=
  match log.topics with
  | topic :: orderId :: _ =>
    if topic = signature ∧ (unpackEventData types log.data).isSome then
      (parseTopicToByte32 orderId).map orderIdText
    else none
  | _ => none

structure ReachesOrders (codec : TronCodec) (range : List TronTransaction)
    (answer : List (String × TronTransaction)) (s₁ s₂ : Store) : Prop where
  settled : ∀ tx ∈ range, ∀ log ∈ tx.logs, ∀ o ∈ s₁.lockOrders.rows,
    orderIdOf orderSettledSignature orderSettledTypes log = some o.gatewayId →
    o.status = .validated →
    ∃ e, (o, e) ∈ handOffs awaitsSettlement OrderSettledEvent.txHash (settledEvents codec answer)
        s₁ ∧ e.orderId = o.gatewayId ∧ e.txHash = tx.id
  refunded : ∀ tx ∈ range, ∀ log ∈ tx.logs, ∀ o ∈ s₂.lockOrders.rows,
    orderIdOf orderRefundedSignature orderRefundedTypes log = some o.gatewayId →
    (o.status = .pending ∨ o.status = .cancelled) →
    ∃ e, (o, e) ∈ handOffs awaitsRefund OrderRefundedEvent.txHash (refundedEvents answer) s₂ ∧
        e.orderId = o.gatewayId ∧ e.txHash = tx.id

def NoneWaits (range : List TronTransaction) (s₁ s₂ : Store) : Prop :=
  ∀ tx ∈ range, ∀ log ∈ tx.logs,
    (∀ o ∈ s₁.lockOrders.rows,
      orderIdOf orderSettledSignature orderSettledTypes log = some o.gatewayId →
        o.status ≠ .validated) ∧
    ∀ o ∈ s₂.lockOrders.rows,
      orderIdOf orderRefundedSignature orderRefundedTypes log = some o.gatewayId →
        o.status ≠ .pending ∧ o.status ≠ .cancelled

lemma exists_of_firstEvent {signature : String} {event : TronLog → Except DecodeError ε}
    {logs : List TronLog} {e : ε} (h : firstEvent signature event logs = .ok (some e)) :
    ∃ log, event log = .ok e := by
  induction logs with
  | nil => cases h
  | cons log logs ih =>
    rw [firstEvent] at h
    split at h
    · cases h
    split at h
    · split at h
      · rename_i e' he'
        cases h
        exact ⟨log, he'⟩
      · cases h
      · exact ih h
    · exact ih h

lemma exists_of_mem_eventsOfRange {name signature : String}
    {event : TronTransaction → TronLog → Except DecodeError ε}
    {answer : List (String × TronTransaction)} {es : List ε} {e : ε}
    (h : eventsOfRange name signature event answer = .ok es) (he : e ∈ es) :
    ∃ tx log, event tx log = .ok e := by
  induction answer generalizing es with
  | nil =>
    cases h
    cases he
  | cons entry answer ih =>
    obtain ⟨eventName, tx⟩ := entry
    rw [eventsOfRange] at h
    split at h
    · cases hfirst : firstEvent signature (event tx) tx.logs with
      | error error =>
        rw [hfirst] at h
        cases h
      | ok found =>
        cases hrest : eventsOfRange name signature event answer with
        | error error =>
          rw [hfirst, hrest] at h
          cases h
        | ok rest =>
          rw [hfirst, hrest] at h
          obtain rfl : found.toList ++ rest = es := Except.ok.inj h
          rcases List.mem_append.1 he with hfound | hmem
          · rw [Option.mem_toList] at hfound
            obtain ⟨log, hlog⟩ := exists_of_firstEvent (hfirst.trans (congrArg _ hfound))
            exact ⟨tx, log, hlog⟩
          · exact ih hrest hmem
    · exact ih h he

lemma settledEventOfBlockRange_ne_ok (e : OrderSettledEvent) :
    settledEventOfBlockRange codec tx log ≠ .ok e := by
  intro h
  rw [settledEventOfBlockRange] at h
  split at h
  · cases h
  rename_i values hvalues
  have htypes := unpackEventData_types hvalues
  simp only [orderSettledTypes, List.map_eq_cons_iff, List.map_eq_nil_iff] at htypes
  obtain ⟨a, _, rfl, ha, b, _, rfl, -, rfl⟩ := htypes
  obtain ⟨bytes, rfl⟩ := AbiValue.exists_bytes32 ha
  cases h

lemma handOffs_settled (answer : List (String × TronTransaction)) :
    handOffs awaitsSettlement OrderSettledEvent.txHash (settledEvents codec answer) s = [] := by
  have hnil : (settledEvents codec answer).toOption.getD [] = [] := by
    cases hevents : settledEvents codec answer with
    | error error => rfl
    | ok events =>
      refine List.eq_nil_iff_forall_not_mem.2 fun e he => ?_
      obtain ⟨tx, log, hlog⟩ := exists_of_mem_eventsOfRange hevents he
      exact settledEventOfBlockRange_ne_ok e hlog
  simp [handOffs, hnil]

lemma ne_x_of_mem_encode {bytes : List UInt8} {c : Char} (h : c ∈ encode bytes) : c ≠ 'x' := by
  have hdigit : ∀ n < 16, hexDigit n ≠ 'x' := by decide
  obtain ⟨b, -, hc⟩ := List.mem_flatMap.1 h
  have hb := b.toNat_lt
  simp only [List.mem_cons, List.not_mem_nil, or_false] at hc
  rcases hc with rfl | rfl
  · exact hdigit _ (by omega)
  · exact hdigit _ (Nat.mod_lt _ (by norm_num))

lemma id_ne_orderIdText (tx : TronTransaction) (bytes : List UInt8) :
    tx.id ≠ orderIdText bytes := by
  intro h
  have hchars := congrArg String.toList h
  rw [TronTransaction.id, orderIdText, String.toList_append, String.toList_ofList] at hchars
  have hx : 'x' ∈ encode tx.hash := by
    rw [hchars]
    simp
  exact ne_x_of_mem_encode hx rfl

lemma exists_of_orderIdOf {signature : String} {orderId : String}
    (h : orderIdOf signature types log = some orderId) : ∃ bytes, orderId = orderIdText bytes := by
  rw [orderIdOf] at h
  split at h
  · split_ifs at h
    obtain ⟨bytes, -, rfl⟩ := Option.map_eq_some_iff.1 h
    exact ⟨bytes, rfl⟩
  · cases h

theorem reachesOrders_iff_noneWaits (codec : TronCodec) (range : List TronTransaction)
    (answer : List (String × TronTransaction)) (s₁ s₂ : Store) :
    ReachesOrders codec range answer s₁ s₂ ↔ NoneWaits range s₁ s₂ := by
  constructor
  · intro h tx htx log hlog
    constructor
    · intro o ho hid hstatus
      obtain ⟨e, he, -⟩ := h.settled tx htx log hlog o ho hid hstatus
      rw [handOffs_settled] at he
      cases he
    intro o ho hid
    obtain ⟨bytes, hbytes⟩ := exists_of_orderIdOf hid
    have hnot : ¬ (o.status = .pending ∨ o.status = .cancelled) := by
      intro hstatus
      obtain ⟨e, he, -, hhash⟩ := h.refunded tx htx log hlog o ho hid hstatus
      obtain ⟨o', -, hfound⟩ := List.mem_filterMap.1 he
      obtain ⟨e', he', hpair⟩ := Option.map_eq_some_iff.1 hfound
      obtain ⟨rfl, rfl⟩ := Prod.mk.inj hpair
      have hkey := (mem_of_lastByKey he').2
      exact id_ne_orderIdText tx bytes (by rw [← hhash, hkey, hbytes])
    exact not_or.1 hnot
  · intro h
    refine ⟨fun tx htx log hlog o ho hid hstatus => ?_,
      fun tx htx log hlog o ho hid hstatus => ?_⟩
    · exact absurd hstatus ((h tx htx log hlog).1 o ho hid)
    · obtain ⟨hpending, hcancelled⟩ := (h tx htx log hlog).2 o ho hid
      exact absurd hstatus (not_or.2 ⟨hpending, hcancelled⟩)

def refundTransaction : TronTransaction where
  hash := toBytes 32 9
  blockNumber := 6
  logs := [⟨[orderRefundedSignature, Sample.tronWord 5], Sample.tronWord 1⟩]

def settleTransaction : TronTransaction where
  hash := toBytes 32 10
  blockNumber := 6
  logs := [⟨[orderSettledSignature, Sample.tronWord 5, Sample.tronWord 3],
    Sample.tronWord 1 ++ Sample.tronWord 100000⟩]

theorem events_miss_their_orders : let cancelled := { Sample.lockOrder with
      gatewayId := orderIdText (toBytes 32 5), status := .cancelled }
    let validated := { Sample.lockOrder with
      gatewayId := orderIdText (toBytes 32 5), status := .validated }
    let s₁ := { Store.empty with lockOrders := .single validated }
    let s₂ := { Store.empty with lockOrders := .single cancelled }
    handOffs awaitsRefund OrderRefundedEvent.txHash
        (refundedEvents [("OrderRefunded", refundTransaction)]) s₂ = [] ∧
      settledEvents Sample.tronCodec [("OrderSettled", settleTransaction)] = .error .panicked ∧
      ¬ ReachesOrders Sample.tronCodec [refundTransaction] [("OrderRefunded", refundTransaction)]
        s₁ s₂ ∧
      ¬ ReachesOrders Sample.tronCodec [settleTransaction] [("OrderSettled", settleTransaction)]
        s₁ s₂ := by
  have hhanded : handOffs awaitsRefund OrderRefundedEvent.txHash
      (refundedEvents [("OrderRefunded", refundTransaction)])
      { Store.empty with lockOrders := .single { Sample.lockOrder with
        gatewayId := orderIdText (toBytes 32 5), status := .cancelled } } = [] := by
    decide +kernel
  refine ⟨hhanded, by decide +kernel, fun h => ?_, fun h => ?_⟩
  · obtain ⟨e, he, -⟩ := h.refunded refundTransaction (List.mem_singleton_self _) _
      (List.mem_singleton_self _) _ (List.mem_singleton_self _) (by decide +kernel) (Or.inr rfl)
    rw [hhanded] at he
    cases he
  · obtain ⟨e, he, -⟩ := h.settled settleTransaction (List.mem_singleton_self _) _
      (List.mem_singleton_self _) _ (List.mem_singleton_self _) (by decide +kernel) rfl
    rw [handOffs_settled] at he
    cases he

end BlockRange

end TronEvents

end Stablenode
