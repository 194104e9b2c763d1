import Stablenode.Abi
import Stablenode.SettlementLog

/-! The decoders of the four logs that the indexer reads (utils/rpc_events.go), and the data
on which they stay within their slices. -/
namespace Stablenode.RpcEvents

open BigEndian Abi

structure TransferParams where
  fromAddress : String
  toAddress : String
  value : ℕ
  deriving DecidableEq

def decodeTransferEvent (codec : AddressCodec) (log : ChainLog) :
    Except DecodeError TransferParams :=
  match log.topics with
  | [_, sender, recipient] => .ok
    { fromAddress := codec.hex (topicAddress sender)
      toAddress := codec.hex (topicAddress recipient)
      value := ofBytes log.data }
  | topics =>
    .error (.invalid ("invalid Transfer event: expected 3 topics, got " ++
      Nat.repr topics.length))

structure OrderRefundedParams where
  orderId : String
  fee : ℕ
  deriving DecidableEq

def decodeOrderRefundedEvent (log : ChainLog) : Except DecodeError OrderRefundedParams :=
  match log.topics with
  | [_, orderId] => .ok ⟨hashHex orderId, ofBytes log.data⟩
  | topics =>
    .error (.invalid ("invalid OrderRefunded event: expected 2 topics, got " ++
      Nat.repr topics.length))

def wordAt (data : List UInt8) (i : ℕ) : ℤ := int64 (ofBytes ((data.drop i).take 32))

def OffsetsInRange (data : List UInt8) : Prop :=
  128 ≤ data.length →
    0 ≤ wordAt data 96 ∧ wordAt data 96 + 32 < 2 ^ 63 ∧
      (wordAt data 96 + 32 ≤ data.length →
        0 ≤ wordAt data (wordAt data 96).toNat ∧
          wordAt data 96 + 32 + wordAt data (wordAt data 96).toNat < 2 ^ 63)

section Words

variable {x : ℤ}

lemma int64_bounds (x : ℤ) : -2 ^ 63 ≤ int64 x ∧ int64 x < 2 ^ 63 := by
  rw [int64, Int.bmod_def]
  split <;> omega

lemma int64_of_lt (hlow : -2 ^ 63 ≤ x) (hhigh : x < 2 ^ 63) : int64 x = x := by
  rw [int64, Int.bmod_def]
  split <;> omega

lemma int64_of_le (hlow : 2 ^ 63 ≤ x) (hhigh : x < 2 ^ 64) : int64 x = x - 2 ^ 64 := by
  rw [int64, Int.bmod_def]
  split <;> omega

variable {data : List UInt8}

lemma slice_word (hlow : 0 ≤ x) (hhigh : x + 32 ≤ data.length) :
    slice data x (x + 32) = some ((data.drop x.toNat).take 32) := by
  have hwidth : (x + 32 - x).toNat = 32 := by omega
  rw [slice, if_pos ⟨hlow, by omega, hhigh⟩, hwidth]

lemma slice_eq_none {low high : ℤ} (h : low < 0 ∨ high < low) : slice data low high = none := by
  rw [slice, if_neg (by omega)]

end Words

lemma decodeMessageHash_cases (data : List UInt8) :
    (OffsetsInRange data ∧ ∃ message, decodeMessageHash data = .ok message) ∨
      (¬ OffsetsInRange data ∧ decodeMessageHash data = .error .panicked) := by
  by_cases hlength : 128 ≤ data.length
  case neg => simp [decodeMessageHash, OffsetsInRange, hlength, Nat.not_le.1 hlength]
  have hword : slice data 96 128 = some ((data.drop 96).take 32) := by
    simpa using @slice_word 96 data (by omega) (by omega)
  have hoffset := int64_bounds (ofBytes ((data.drop 96).take 32))
  unfold decodeMessageHash
  rw [if_neg (Nat.not_lt.2 hlength), hword]
  -- the bounds stay abstract: a `let` that is unfolded here is evaluated by the kernel
  dsimp -zeta only
  extract_lets x body
  have hx : wordAt data 96 = x := rfl
  have hbody : body = int64 (x + 32) := rfl
  change -2 ^ 63 ≤ x ∧ x < 2 ^ 63 at hoffset
  clear_value x body
  rw [OffsetsInRange, hx]
  by_cases hneg : x < 0
  · rw [int64_of_lt (by omega) (by omega)] at hbody
    rw [if_pos (by omega), slice_eq_none (.inl hneg)]
    exact .inr ⟨by omega, rfl⟩
  by_cases hwrap : 2 ^ 63 ≤ x + 32
  · rw [int64_of_le hwrap (by omega)] at hbody
    rw [if_pos (by omega), slice_eq_none (.inr (by omega))]
    exact .inr ⟨by omega, rfl⟩
  rw [int64_of_lt (by omega) (by omega)] at hbody
  by_cases hinside : x + 32 ≤ data.length
  case neg =>
    rw [if_neg (hbody ▸ hinside)]
    exact .inl ⟨by omega, _, rfl⟩
  have hmessage := int64_bounds (ofBytes ((data.drop x.toNat).take 32))
  rw [hbody, if_pos hinside, slice_word (by omega) hinside]
  dsimp -zeta only
  extract_lets last
  have hlast : last = int64 (x + 32 + wordAt data x.toNat) := rfl
  change -2 ^ 63 ≤ wordAt data x.toNat ∧ wordAt data x.toNat < 2 ^ 63 at hmessage
  clear_value last
  generalize wordAt data x.toNat = y at hmessage hlast ⊢
  by_cases hback : y < 0
  · rw [int64_of_lt (by omega) (by omega)] at hlast
    rw [if_pos (by omega), slice_eq_none (.inr (by omega))]
    exact .inr ⟨by omega, rfl⟩
  by_cases hover : 2 ^ 63 ≤ x + 32 + y
  · rw [int64_of_le hover (by omega)] at hlast
    rw [if_pos (by omega), slice_eq_none (.inr (by omega))]
    exact .inr ⟨by omega, rfl⟩
  rw [int64_of_lt (by omega) (by omega)] at hlast
  refine .inl ⟨by omega, ?_⟩
  by_cases hend : last ≤ data.length
  · rw [if_pos hend, slice, if_pos ⟨by omega, by omega, hend⟩]
    exact ⟨_, rfl⟩
  · rw [if_neg hend]
    exact ⟨_, rfl⟩

section Outcomes

variable (codec : AddressCodec) (log : ChainLog)

lemma decodeTransferEvent_outcome :
    ((∃ params, decodeTransferEvent codec log = .ok params) ↔ log.topics.length = 3) ∧
      decodeTransferEvent codec log ≠ .error .panicked := by
  obtain ⟨topics, data⟩ := log
  rcases topics with _ | ⟨_, _ | ⟨_, _ | ⟨_, _ | _⟩⟩⟩ <;> simp [decodeTransferEvent]

lemma decodeOrderRefundedEvent_outcome :
    ((∃ params, decodeOrderRefundedEvent log = .ok params) ↔ log.topics.length = 2) ∧
      decodeOrderRefundedEvent log ≠ .error .panicked := by
  obtain ⟨topics, data⟩ := log
  rcases topics with _ | ⟨_, _ | ⟨_, _ | _⟩⟩ <;> simp [decodeOrderRefundedEvent]

lemma decodeOrderSettledEvent_outcome :
    ((∃ params, decodeOrderSettledEvent codec log = .ok params) ↔
        log.topics.length = 3 ∧ 64 ≤ log.data.length) ∧
      (decodeOrderSettledEvent codec log = .error .panicked ↔
        log.topics.length = 3 ∧ 44 ≤ log.data.length ∧ log.data.length < 64) := by
  obtain ⟨topics, data⟩ := log
  rcases topics with _ | ⟨_, _ | ⟨_, _ | ⟨_, _ | _⟩⟩⟩
  case cons.cons.cons.nil =>
    simp only [decodeOrderSettledEvent, List.length_cons, List.length_nil, true_and]
    by_cases hshort : data.length < 44
    · simp [hshort]
      omega
    rw [if_neg hshort, slice, slice, if_pos (by omega)]
    by_cases hlong : 64 ≤ data.length
    · rw [if_pos (by omega)]
      simp [hlong]
    · rw [if_neg (by omega)]
      simp
      omega
  all_goals simp [decodeOrderSettledEvent]

lemma decodeOrderCreatedEvent_outcome :
    ((∃ params, decodeOrderCreatedEvent codec log = .ok params) ↔
        log.topics.length = 4 ∧ 96 ≤ log.data.length ∧ OffsetsInRange log.data) ∧
      (decodeOrderCreatedEvent codec log = .error .panicked ↔
        log.topics.length = 4 ∧ ¬ OffsetsInRange log.data) := by
  obtain ⟨topics, data⟩ := log
  rcases topics with _ | ⟨_, _ | ⟨_, _ | ⟨_, _ | ⟨_, _ | _⟩⟩⟩⟩
  case cons.cons.cons.cons.nil =>
    simp only [decodeOrderCreatedEvent, List.length_cons, List.length_nil, true_and]
    by_cases hshort : data.length < 96
    · have hrange : OffsetsInRange data := fun h => absurd h (by omega)
      simp [hshort, hrange]
    rw [if_neg hshort]
    rcases decodeMessageHash_cases data with ⟨hrange, message, h⟩ | ⟨hrange, h⟩ <;>
      simp [h, hrange, Nat.not_lt.1 hshort, bind, Except.bind, pure, Except.pure]
  all_goals simp [decodeOrderCreatedEvent]

end Outcomes

structure OrderCreatedArguments where
  sender : Fin (256 ^ 20)
  token : Fin (256 ^ 20)
  amount : Fin (2 ^ 256)
  protocolFee : Fin (2 ^ 256)
  orderId : List UInt8
  length_orderId : orderId.length = 32
  rate : Fin (2 ^ 256)
  messageHash : List UInt8

def OrderCreatedArguments.log (args : OrderCreatedArguments) (eventSignature : List UInt8) :
    ChainLog where
  topics := [eventSignature, toBytes 32 args.sender, toBytes 32 args.token, toBytes 32 args.amount]
  data := packValues
    [.bigInt args.protocolFee, .bytes32 args.orderId, .bigInt args.rate, .text args.messageHash]

lemma packWord_natCast {n : ℕ} (h : n < 2 ^ 256) : packWord n = toBytes 32 n := by
  have hmod : (n : ℤ) % 2 ^ 256 = n := Int.emod_eq_of_lt (by omega) (by exact_mod_cast h)
  rw [packWord, hmod, Int.toNat_natCast]

lemma OrderCreatedArguments.data_eq (args : OrderCreatedArguments) (eventSignature : List UInt8) :
    (args.log eventSignature).data = toBytes 32 args.protocolFee ++ args.orderId ++
      toBytes 32 args.rate ++ toBytes 32 128 ++ toBytes 32 args.messageHash.length ++
      args.messageHash ++ List.replicate ((32 - args.messageHash.length % 32) % 32) 0 := by
  simp only [OrderCreatedArguments.log, packValues, heads, AbiValue.head, AbiValue.tail,
    List.flatMap_cons, List.flatMap_nil, List.length_cons, List.length_nil, List.append_assoc,
    List.nil_append, List.append_nil]

theorem decodeOrderCreatedEvent_arguments (codec : AddressCodec) (args : OrderCreatedArguments)
    (eventSignature : List UInt8) (hdata : (args.log eventSignature).data.length < 2 ^ 63) :
    decodeOrderCreatedEvent codec (args.log eventSignature) = .ok
      { sender := codec.hex args.sender
        token := codec.hex args.token
        amount := args.amount
        protocolFee := args.protocolFee
        orderId := hashHex args.orderId
        rate := args.rate
        messageHash := textOfBytes args.messageHash } := by
  have hlength : args.messageHash.length + 160 < 2 ^ 63 := by
    rw [args.data_eq] at hdata
    simp only [List.length_append, length_toBytes, args.length_orderId] at hdata
    omega
  let call : CreateOrderCallData := ⟨toBytes 32 args.token, toBytes 32 args.amount,
    toBytes 32 args.rate, [], [], [], args.messageHash⟩
  have hlog : args.log eventSignature = call.orderCreatedLog eventSignature
      (toBytes 32 args.sender) (toBytes 32 args.protocolFee) args.orderId := by
    have hoffset : packWord 128 = toBytes 32 128 := packWord_natCast (by norm_num)
    have hsize : packWord call.messageHash.length = toBytes 32 call.messageHash.length :=
      packWord_natCast (show args.messageHash.length < 2 ^ 256 by omega)
    rw [CreateOrderCallData.orderCreatedLog, hoffset, hsize]
    exact congrArg (ChainLog.mk _) (args.data_eq eventSignature)
  have hdecoded := @decodeOrderCreatedEvent_log call eventSignature (toBytes 32 args.sender)
    (toBytes 32 args.protocolFee) args.orderId codec (length_toBytes 32 _) args.length_orderId
    (length_toBytes 32 _) hlength
  have hword : ∀ n : Fin (2 ^ 256), ofBytes (toBytes 32 n) = n := fun n => by
    rw [ofBytes_toBytes, Nat.mod_eq_of_lt (n.isLt.trans_eq (by norm_num))]
  have haddress : ∀ a : Fin (256 ^ 20), topicAddress (toBytes 32 a) = a := fun a => by
    rw [topicAddress, ofBytes_toBytes, Nat.mod_mod_of_dvd _ (pow_dvd_pow 256 (by norm_num)),
      Nat.mod_eq_of_lt a.isLt]
  rw [hlog, hdecoded, haddress, haddress, hword, hword, hword]

theorem created_greeting_decoded :
    decodeOrderCreatedEvent Sample.unaryCodec (OrderCreatedArguments.log
        ⟨1, 2, 3, 4, toBytes 32 5, length_toBytes 32 5, 6, [104, 105]⟩ (toBytes 32 0)) =
      .ok ⟨"0x0", "0x00", 3, 4, hashHex (toBytes 32 5), 6, "hi"⟩ :=
  decodeOrderCreatedEvent_arguments Sample.unaryCodec _ _ (by decide +kernel)

def Safe (codec : AddressCodec) (log : ChainLog) : Prop :=
  decodeTransferEvent codec log ≠ .error .panicked ∧
    decodeOrderCreatedEvent codec log ≠ .error .panicked ∧
    decodeOrderSettledEvent codec log ≠ .error .panicked ∧
    decodeOrderRefundedEvent log ≠ .error .panicked

theorem decoders_safe_iff (codec : AddressCodec) (log : ChainLog) :
    Safe codec log ↔
      (log.topics.length = 4 → OffsetsInRange log.data) ∧
        (log.topics.length = 3 → log.data.length < 44 ∨ 64 ≤ log.data.length) := by
  have htransfer := (decodeTransferEvent_outcome codec log).2
  have hcreated := (decodeOrderCreatedEvent_outcome codec log).2
  have hsettled := (decodeOrderSettledEvent_outcome codec log).2
  have hrefunded := (decodeOrderRefundedEvent_outcome log).2
  rw [Safe, ne_eq (decodeOrderCreatedEvent codec log), hcreated,
    ne_eq (decodeOrderSettledEvent codec log), hsettled]
  constructor
  · rintro ⟨-, hcreated, hsettled, -⟩
    exact ⟨fun h => by_contra fun hrange => hcreated ⟨h, hrange⟩, fun h => by omega⟩
  · rintro ⟨hcreated, hsettled⟩
    exact ⟨htransfer, fun h => h.2 (hcreated h.1), fun h => by omega, hrefunded⟩

theorem short_settlement_panicked :
    decodeOrderSettledEvent Sample.unaryCodec
        ⟨List.replicate 3 (toBytes 32 0), List.replicate 44 0⟩ = .error .panicked ∧
      ¬ Safe Sample.unaryCodec ⟨List.replicate 3 (toBytes 32 0), List.replicate 44 0⟩ := by
  have hpanic := (decodeOrderSettledEvent_outcome Sample.unaryCodec
    ⟨List.replicate 3 (toBytes 32 0), List.replicate 44 0⟩).2.2 (by simp)
  exact ⟨hpanic, fun h => h.2.2.1 hpanic⟩

end Stablenode.RpcEvents
