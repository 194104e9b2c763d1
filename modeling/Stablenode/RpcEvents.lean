import Stablenode.EventDecoders

/-! The event maps of a node's logs, their decoding in place (utils/rpc_events.go) and the
events of a transaction (services/alchemy.go). -/
namespace Stablenode.RpcEvents

open BigEndian Hex

def transferEventSignature : String :=
  "0xddf252ad1be2c89b69c2b068fc378daa952ba7f163c4a11628f55a4df523b3ef"

def orderCreatedEventSignature : String :=
  "0x40ccd1ceb111a3c186ef9911e1b876dc1f789ed331b86097b3b8851055b6a137"

def orderSettledEventSignature : String :=
  "0x98ece21e01a01cbe1d1c0dad3b053c8fbd368f99be78be958fcf1d1d13fd249a"

def orderRefundedEventSignature : String :=
  "0x0736fe428e1747ca8d387c2e6fa1a31a0cde62d3a167c40a46ade59a3cdc828e"

inductive Decoded where
  | transfer (params : TransferParams)
  | orderCreated (params : OrderCreatedParams)
  | orderSettled (params : OrderSettledParams)
  | orderRefunded (params : OrderRefundedParams)
  deriving DecidableEq

def decode (codec : AddressCodec) (eventSignature : String) (log : ChainLog) :
    Option (Except DecodeError Decoded) :=
  if eventSignature = transferEventSignature then
    some ((decodeTransferEvent codec log).map .transfer)
  else if eventSignature = orderCreatedEventSignature then
    some ((decodeOrderCreatedEvent codec log).map .orderCreated)
  else if eventSignature = orderSettledEventSignature then
    some ((decodeOrderSettledEvent codec log).map .orderSettled)
  else if eventSignature = orderRefundedEventSignature then
    some ((decodeOrderRefundedEvent log).map .orderRefunded)
  else none

inductive Topics where
  | hashes (topics : List (List UInt8))
  | texts (topics : List String)
  deriving DecidableEq

def Topics.toTexts : Topics → List String
  | .hashes topics => topics.map hashHex
  | .texts topics => topics

structure Event where
  blockNumber : ℚ
  transactionHash : String
  logIndex : ℚ
  address : String
  topics : Topics
  data : List UInt8
  decoded : Option Decoded
  deriving DecidableEq

def hexToHash (text : String) : List UInt8 :=
  let bytes := fromHex text
  List.replicate (32 - bytes.length) 0 ++ bytes.drop (bytes.length - 32)

def DecodeError.wrap (context : String) : DecodeError → DecodeError
  | .invalid message => .invalid (context ++ message)
  | .panicked => .panicked

def processEvent (codec : AddressCodec) (signature : String → String) (event : Event) :
    Event × Option DecodeError :=
  let converted := { event with topics := .texts event.topics.toTexts }
  match event.topics.toTexts with
  | [] => (converted, none)
  | topic :: topics =>
    match decode codec (signature topic) ⟨(topic :: topics).map hexToHash, event.data⟩ with
    | none => (converted, none)
    | some (.error e) => (converted, some (DecodeError.wrap "failed to decode event: " e))
    | some (.ok decoded) => ({ converted with decoded := some decoded }, none)

def processEvents (codec : AddressCodec) (signature : String → String) :
    List Event → List Event × Option DecodeError
  | [] => ([], none)
  | event :: events =>
    match processEvent codec signature event with
    | (processed, some e) => (processed :: events, some e)
    | (processed, none) =>
      let rest := processEvents codec signature events
      (processed :: rest.1, rest.2)

def processRPCEvents (codec : AddressCodec) (events : List Event) (eventSignature : String) :
    List Event × Option DecodeError :=
  processEvents codec (fun _ => eventSignature) events

def processRPCEventsBySignature (codec : AddressCodec) (events : List Event) :
    List Event × Option DecodeError :=
  processEvents codec id events

structure ReceiptLog extends ChainLog where
  address : ℕ
  blockNumber : ℕ
  txHash : List UInt8
  index : ℕ
  length_topic : ∀ topic ∈ topics, topic.length = 32

def ReceiptLog.event (log : ReceiptLog) (codec : AddressCodec) : Event where
  blockNumber := Decimal.float64 log.blockNumber
  transactionHash := hashHex log.txHash
  logIndex := Decimal.float64 log.index
  address := codec.hex log.address
  topics := .hashes log.topics
  data := log.data
  decoded := none

def eventSignatures (topics : List String) : List String :=
  if topics.head? = some transferEventSignature then [transferEventSignature]
  else [orderCreatedEventSignature, orderSettledEventSignature, orderRefundedEventSignature]

def ReceiptLog.signature (log : ReceiptLog) : Option String := log.topics.head?.map hashHex

def ReceiptLog.Requested (log : ReceiptLog) (codec : AddressCodec) (contractAddress : String)
    (topics : List String) : Prop :=
  log.address = codec.hexToAddress contractAddress ∧
    ∃ signature ∈ eventSignatures topics, log.signature = some signature

instance (log : ReceiptLog) (codec : AddressCodec) (contractAddress : String)
    (topics : List String) : Decidable (log.Requested codec contractAddress topics) :=
  inferInstanceAs (Decidable (_ ∧ _))

def getContractEventsRPC (codec : AddressCodec) (contractAddress : String) (topics : List String)
    (receipt : List ReceiptLog) : Except DecodeError (List Event) :=
  let logs := receipt.filter fun log => log.Requested codec contractAddress topics
  match processRPCEventsBySignature codec (logs.map (ReceiptLog.event · codec)) with
  | (_, some e) => .error (DecodeError.wrap "failed to process RPC events: " e)
  | (events, none) => .ok events

def ReceiptLog.WellFormed (log : ReceiptLog) : Prop :=
  (log.signature = some transferEventSignature ∧ log.topics.length = 3) ∨
  (log.signature = some orderCreatedEventSignature ∧ log.topics.length = 4 ∧
    96 ≤ log.data.length ∧ OffsetsInRange log.data) ∨
  (log.signature = some orderSettledEventSignature ∧ log.topics.length = 3 ∧
    64 ≤ log.data.length) ∨
  (log.signature = some orderRefundedEventSignature ∧ log.topics.length = 2)

def ReceiptLog.shown (log : ReceiptLog) (codec : AddressCodec) (decoded : Option Decoded) :
    Event :=
  { log.event codec with topics := .texts (log.topics.map hashHex), decoded := decoded }

variable {codec : AddressCodec}

section Loop

variable {signature : String → String} {events : List Event} {event : Event}

lemma processEvents_snd_eq_none_iff :
    (processEvents codec signature events).2 = none ↔
      ∀ event ∈ events, (processEvent codec signature event).2 = none := by
  induction events with
  | nil => simp [processEvents]
  | cons event events ih =>
    rcases hstep : processEvent codec signature event with ⟨processed, _ | e⟩ <;>
      simp [processEvents, hstep, ih]

lemma processEvents_fst (h : (processEvents codec signature events).2 = none) :
    (processEvents codec signature events).1 =
      events.map fun event => (processEvent codec signature event).1 := by
  induction events with
  | nil => rfl
  | cons event events ih =>
    rcases hstep : processEvent codec signature event with ⟨processed, _ | e⟩
    · simp only [processEvents, hstep] at h ⊢
      simp [hstep, ih h]
    · simp [processEvents, hstep] at h

lemma processEvents_congr {other : String → String}
    (h : ∀ event ∈ events, processEvent codec signature event = processEvent codec other event) :
    processEvents codec signature events = processEvents codec other events := by
  induction events with
  | nil => rfl
  | cons event events ih =>
    obtain ⟨hevent, hrest⟩ := List.forall_mem_cons.1 h
    rw [processEvents, processEvents, hevent, ih hrest]

lemma processEvent_processed (h : (processEvent codec signature event).2 = none) :
    processEvent codec signature (processEvent codec signature event).1 =
      ((processEvent codec signature event).1, none) := by
  rcases htopics : event.topics.toTexts with _ | ⟨topic, topics⟩
  · have hfirst : processEvent codec signature event = ({ event with topics := .texts [] }, none) := by
      simp only [processEvent, htopics]
    rw [hfirst]
    rfl
  obtain ⟨decoded, hfirst, hsecond⟩ : ∃ decoded, processEvent codec signature event =
      ({ event with topics := .texts (topic :: topics), decoded := decoded }, none) ∧
      processEvent codec signature
        { event with topics := .texts (topic :: topics), decoded := decoded } =
      ({ event with topics := .texts (topic :: topics), decoded := decoded }, none) := by
    rcases hdecode : decode codec (signature topic) ⟨(topic :: topics).map hexToHash, event.data⟩
      with _ | e | decoded
    · exact ⟨event.decoded, by simp only [processEvent, htopics, hdecode],
        by simp only [processEvent, Topics.toTexts, hdecode]⟩
    · simp only [processEvent, htopics, hdecode] at h
      cases h
    · exact ⟨decoded, by simp only [processEvent, htopics, hdecode],
        by simp only [processEvent, Topics.toTexts, hdecode]⟩
  rw [hfirst, hsecond]

lemma processEvents_processed (h : (processEvents codec signature events).2 = none) :
    processEvents codec signature (processEvents codec signature events).1 =
      ((processEvents codec signature events).1, none) := by
  have hall := processEvents_snd_eq_none_iff.1 h
  rw [processEvents_fst h]
  have hsecond : (processEvents codec signature
      (events.map fun event => (processEvent codec signature event).1)).2 = none := by
    rw [processEvents_snd_eq_none_iff, List.forall_mem_map]
    exact fun event hevent => congrArg Prod.snd (processEvent_processed (hall event hevent))
  refine Prod.ext ?_ hsecond
  rw [processEvents_fst hsecond, List.map_map]
  refine List.map_congr_left fun event hevent => ?_
  rw [Function.comp_apply, processEvent_processed (hall event hevent)]

end Loop

theorem processRPCEvents_eq_bySignature (codec : AddressCodec) (s : String) (events : List Event)
    (htopics : ∀ event ∈ events, event.topics.toTexts.head? = some s) :
    processRPCEvents codec events s = processRPCEventsBySignature codec events ∧
      ((processRPCEventsBySignature codec events).2 = none →
        processRPCEventsBySignature codec (processRPCEventsBySignature codec events).1 =
          ((processRPCEventsBySignature codec events).1, none)) := by
  refine ⟨processEvents_congr fun event hevent => ?_, processEvents_processed⟩
  obtain ⟨rest, hrest⟩ := List.head?_eq_some_iff.1 (htopics event hevent)
  simp only [processEvent, hrest, id]

variable {topics : List String}

section Logs

variable {log : ReceiptLog}

lemma hexToHash_hashHex {hash : List UInt8} (h : hash.length = 32) :
    hexToHash (hashHex hash) = hash := by
  rw [hexToHash, hashHex, ← encode, fromHex_encode]
  simp [h]

lemma map_hexToHash (log : ReceiptLog) : (log.topics.map hashHex).map hexToHash = log.topics := by
  rw [List.map_map, List.map_congr_left (g := id), List.map_id]
  exact fun topic h => hexToHash_hashHex (log.length_topic topic h)

variable {s : String}

lemma processEvent_event (hsignature : log.signature = some s) :
    processEvent codec id (log.event codec) =
      match decode codec s log.toChainLog with
      | none => (log.shown codec none, none)
      | some (.error e) => (log.shown codec none, some (DecodeError.wrap "failed to decode event: " e))
      | some (.ok decoded) => (log.shown codec (some decoded), none) := by
  have htexts : (log.event codec).topics.toTexts = log.topics.map hashHex := rfl
  have hlog : (⟨(log.topics.map hashHex).map hexToHash, (log.event codec).data⟩ : ChainLog) =
      log.toChainLog := by rw [map_hexToHash]; rfl
  rw [ReceiptLog.signature, ← List.head?_map] at hsignature
  obtain ⟨rest, hrest⟩ := List.head?_eq_some_iff.1 hsignature
  rw [hrest] at hlog
  simp only [processEvent, htexts, hrest, hlog, id]
  rcases decode codec s log.toChainLog with _ | _ | _ <;>
    simp only [ReceiptLog.shown, ← hrest] <;> rfl

lemma decode_ok_iff (codec : AddressCodec) (hsignature : log.signature = some s) :
    (∃ decoded, decode codec s log.toChainLog = some (.ok decoded)) ↔ log.WellFormed := by
  have hmap : ∀ {α : Type} (outcome : Except DecodeError α) (f : α → Decoded),
      (∃ decoded, some (outcome.map f) = some (.ok decoded)) ↔ ∃ params, outcome = .ok params := by
    intro α outcome f
    cases outcome <;> simp [Except.map]
  rw [ReceiptLog.WellFormed, hsignature]
  unfold decode
  split_ifs with htransfer hcreated hsettled hrefunded
  on_goal 5 => simp [htransfer, hcreated, hsettled, hrefunded]
  on_goal 1 => rw [hmap, (decodeTransferEvent_outcome codec log.toChainLog).1, htransfer]
  on_goal 2 => rw [hmap, (decodeOrderCreatedEvent_outcome codec log.toChainLog).1, hcreated]
  on_goal 3 => rw [hmap, (decodeOrderSettledEvent_outcome codec log.toChainLog).1, hsettled]
  on_goal 4 => rw [hmap, (decodeOrderRefundedEvent_outcome log.toChainLog).1, hrefunded]
  all_goals
    simp [transferEventSignature, orderCreatedEventSignature, orderSettledEventSignature,
      orderRefundedEventSignature]

lemma decode_ne_none (h : s ∈ eventSignatures topics) : decode codec s log.toChainLog ≠ none := by
  unfold eventSignatures at h
  unfold decode
  split_ifs at h ⊢ <;> simp_all

lemma processEvent_snd_eq_none_iff {contractAddress : String}
    (h : log.Requested codec contractAddress topics) :
    (processEvent codec id (log.event codec)).2 = none ↔ log.WellFormed := by
  obtain ⟨-, s, hs, hsignature⟩ := h
  rw [processEvent_event hsignature, ← decode_ok_iff codec hsignature]
  rcases hdecode : decode codec s log.toChainLog with _ | _ | _
  · exact absurd hdecode (decode_ne_none hs)
  all_goals simp

end Logs

section Receipts

variable {contractAddress : String} {receipt : List ReceiptLog}

lemma getContractEventsRPC_eq_ok_iff {events : List Event} :
    getContractEventsRPC codec contractAddress topics receipt = .ok events ↔
      (∀ log ∈ receipt, log.Requested codec contractAddress topics → log.WellFormed) ∧
        events = (receipt.filter fun log => log.Requested codec contractAddress topics).map
          fun log => (processEvent codec id (log.event codec)).1 := by
  have hnone : (processRPCEventsBySignature codec ((receipt.filter fun log =>
      log.Requested codec contractAddress topics).map (ReceiptLog.event · codec))).2 = none ↔
      ∀ log ∈ receipt, log.Requested codec contractAddress topics → log.WellFormed := by
    rw [processRPCEventsBySignature, processEvents_snd_eq_none_iff, List.forall_mem_map]
    simp only [List.mem_filter, decide_eq_true_eq, and_imp]
    exact forall₃_congr fun log _ h => processEvent_snd_eq_none_iff h
  rw [← hnone, getContractEventsRPC]
  rcases hloop : processRPCEventsBySignature codec ((receipt.filter fun log =>
      log.Requested codec contractAddress topics).map (ReceiptLog.event · codec))
    with ⟨processed, _ | e⟩
  · have hfst := processEvents_fst (congrArg Prod.snd hloop)
    rw [← processRPCEventsBySignature, hloop, List.map_map] at hfst
    dsimp only at hfst
    simp only [hloop, hfst, Except.ok.injEq, true_and, Function.comp_def]
    exact eq_comm
  · simp [hloop]

end Receipts

theorem well_formed_log_shown_iff (codec : AddressCodec) (contractAddress : String)
    (topics : List String) (receipt : List ReceiptLog) (log : ReceiptLog) (hlog : log ∈ receipt)
    (hrequested : log.Requested codec contractAddress topics) (hform : log.WellFormed) :
    (∃ events s decoded, getContractEventsRPC codec contractAddress topics receipt = .ok events ∧
        log.signature = some s ∧ decode codec s log.toChainLog = some (.ok decoded) ∧
        log.shown codec (some decoded) ∈ events) ↔
      ∀ other ∈ receipt, other.Requested codec contractAddress topics → other.WellFormed := by
  constructor
  · rintro ⟨events, -, -, hevents, -⟩
    exact (getContractEventsRPC_eq_ok_iff.1 hevents).1
  intro hall
  obtain ⟨-, s, -, hsignature⟩ := id hrequested
  obtain ⟨decoded, hdecoded⟩ := (decode_ok_iff codec hsignature).2 hform
  refine ⟨_, s, decoded, getContractEventsRPC_eq_ok_iff.2 ⟨hall, rfl⟩, hsignature, hdecoded, ?_⟩
  refine List.mem_map.2 ⟨log, List.mem_filter.2 ⟨hlog, decide_eq_true hrequested⟩, ?_⟩
  rw [processEvent_event hsignature, hdecoded]

namespace Sample

lemma length_hexToHash (text : String) : (hexToHash text).length = 32 := by
  simp only [hexToHash, List.length_append, List.length_replicate, List.length_drop]
  omega

def refund (n : ℕ) : ReceiptLog where
  topics := hexToHash orderRefundedEventSignature :: List.replicate n (toBytes 32 7)
  data := [5]
  address := Sample.unaryCodec.hexToAddress "gateway"
  blockNumber := 9
  txHash := toBytes 32 1
  index := n
  length_topic := by
    intro topic h
    rcases List.mem_cons.1 h with rfl | h
    · exact length_hexToHash _
    · rw [List.eq_of_mem_replicate h, length_toBytes]

lemma signature_refund (n : ℕ) : (refund n).signature = some orderRefundedEventSignature :=
  congrArg some (by decide +kernel)

lemma refund_requested (n : ℕ) : (refund n).Requested Sample.unaryCodec "gateway" [] :=
  ⟨rfl, _, by simp [eventSignatures], signature_refund n⟩

lemma refund_wellFormed : (refund 1).WellFormed := .inr (.inr (.inr ⟨signature_refund 1, rfl⟩))

end Sample

open Stablenode.RpcEvents.Sample in
theorem lone_refund_shown :
    ∃ events s decoded,
      getContractEventsRPC Sample.unaryCodec "gateway" [] [refund 1] = .ok events ∧
        (refund 1).signature = some s ∧
        decode Sample.unaryCodec s (refund 1).toChainLog = some (.ok decoded) ∧
        (refund 1).shown Sample.unaryCodec (some decoded) ∈ events :=
  (well_formed_log_shown_iff Sample.unaryCodec "gateway" [] [refund 1] (refund 1)
    List.mem_cons_self (refund_requested 1) refund_wellFormed).2
    fun _ hother _ => (List.mem_singleton.1 hother) ▸ refund_wellFormed

open Stablenode.RpcEvents.Sample in
theorem refund_hidden :
    (refund 1).WellFormed ∧ (refund 1).Requested Sample.unaryCodec "gateway" [] ∧
      ∀ events, getContractEventsRPC Sample.unaryCodec "gateway" []
        [refund 1, refund 0] ≠ .ok events := by
  refine ⟨refund_wellFormed, refund_requested 1, fun events h => ?_⟩
  have hform := (getContractEventsRPC_eq_ok_iff.1 h).1 (refund 0) (by simp) (refund_requested 0)
  rw [ReceiptLog.WellFormed, signature_refund] at hform
  simp [refund, transferEventSignature, orderCreatedEventSignature, orderSettledEventSignature,
    orderRefundedEventSignature] at hform

open Stablenode.RpcEvents.Sample in
theorem refunds_processed_alike :
    processRPCEvents Sample.unaryCodec
        [(refund 1).event Sample.unaryCodec, (refund 0).event Sample.unaryCodec]
        orderRefundedEventSignature =
      processRPCEventsBySignature Sample.unaryCodec
        [(refund 1).event Sample.unaryCodec, (refund 0).event Sample.unaryCodec] :=
  (processRPCEvents_eq_bySignature Sample.unaryCodec _ _ (by
    rw [List.forall_mem_cons, List.forall_mem_singleton]
    exact ⟨signature_refund 1, signature_refund 0⟩)).1

end Stablenode.RpcEvents
