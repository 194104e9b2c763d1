import Stablenode.Deposits
import Stablenode.GatewayLog
import Stablenode.RejectedOrders

/-! Amount and rate of a payment order from the call data to the lock order. -/
namespace Stablenode.ValuePreservation

open BigEndian Creation RejectedOrders

section Numbers

variable {decimals : ℕ} {amount : ℚ}

lemma toSubunit_eq_some {v : ℤ} (h : toSubunit amount decimals = some v) :
    (v : ℚ) = amount * 10 ^ decimals := by
  rw [toSubunit] at h
  split_ifs at h with hden
  rw [← Option.some.inj h]
  exact Rat.coe_int_num_of_den_eq_one hden

lemma bigInt_of_nonneg {x : ℚ} (hx : 0 ≤ x) : bigInt x = ⌊x⌋ := by
  rw [bigInt, Int.tdiv_eq_ediv_of_nonneg (Rat.num_nonneg.2 hx), Rat.floor_def']

lemma div_word_eq_iff {v : ℕ} (hd : decimals ≤ 18) :
    Decimal.div ((v % 2 ^ 256 : ℕ) : ℚ) (10 ^ decimals) = v / 10 ^ decimals ↔
      v < 2 ^ 256 ∧ 10 ^ decimals ∣ v * 10 ^ 16 := by
  by_cases hv : v < 2 ^ 256
  · rw [Nat.mod_eq_of_lt hv, Decimal.div_pow_eq_iff]
    exact (and_iff_right hv).symm
  refine iff_of_false (fun h => ?_) fun h => hv h.1
  -- the word is too small by more than the rounding can make up for
  have hpow : (0 : ℚ) < 10 ^ decimals := by positivity
  have hle : (10 : ℚ) ^ decimals ≤ 10 ^ 18 := pow_le_pow_right₀ (by norm_num) hd
  have hword : ((v % 2 ^ 256 : ℕ) : ℚ) + 2 ^ 256 ≤ v := by
    have hnat : v % 2 ^ 256 + 2 ^ 256 ≤ v := by
      have := Nat.mod_add_div v (2 ^ 256)
      have hquot : 1 ≤ v / 2 ^ 256 := (Nat.one_le_div_iff (by norm_num)).2 (not_lt.1 hv)
      nlinarith
    exact_mod_cast hnat
  have hround : (Decimal.div ((v % 2 ^ 256 : ℕ) : ℚ) (10 ^ decimals)) ≤
      (v % 2 ^ 256 : ℕ) / 10 ^ decimals + 1 / 2 / 10 ^ 16 := by
    have herror := abs_le.1 (Decimal.abs_round_sub_le ((v % 2 ^ 256 : ℕ) / 10 ^ decimals) 16)
    rw [Decimal.div]
    linarith
  rw [h, div_add' _ _ _ hpow.ne', div_le_div_iff_of_pos_right hpow] at hround
  have hsmall : (1 / 2 / 10 ^ 16 * 10 ^ decimals : ℚ) ≤ 50 := by linarith
  have hlarge : (50 : ℚ) < 2 ^ 256 := by norm_num
  generalize ((v % 2 ^ 256 : ℕ) : ℚ) = word at hword hround
  linarith

lemma div_hundred (n : ℕ) : Decimal.div n 100 = n / 100 := by
  have h := (Decimal.div_pow_eq_iff n 2).2 (dvd_mul_of_dvd_right (by norm_num) n)
  norm_num at h ⊢
  exact h

lemma toSubunit_of_intCast {z : ℤ} (h : amount * 10 ^ decimals = z) :
    toSubunit amount decimals = some z := by
  simp [toSubunit, h]

theorem toSubunit_div (decimals : ℕ) :
    Monotone (fun raw : ℕ => Decimal.div raw (10 ^ decimals)) ∧
      ∀ raw : ℕ, ∃ z : ℤ, toSubunit (Decimal.div raw (10 ^ decimals)) decimals = some z ∧
        (decimals ≤ 16 → z = raw) ∧
        (16 < decimals → |(z : ℚ) - raw| ≤ 10 ^ (decimals - 16) / 2) := by
  refine ⟨fun x y h => Decimal.div_mono (by positivity) (by exact_mod_cast h), fun raw => ?_⟩
  have hpow : (0 : ℚ) < 10 ^ decimals := by positivity
  rcases le_or_gt decimals 16 with hle | hlt
  · have hexact := (Decimal.div_pow_eq_iff raw decimals).2 ((pow_dvd_pow 10 hle).mul_left raw)
    refine ⟨raw, toSubunit_of_intCast ?_, fun _ => rfl, fun hlt => absurd hle hlt.not_ge⟩
    rw [hexact, div_mul_cancel₀ _ hpow.ne', Int.cast_natCast]
  -- beyond 16 decimals the rounded quotient is still a whole number of subunits
  have hsplit : (10 : ℚ) ^ decimals = 10 ^ 16 * 10 ^ (decimals - 16) := by
    rw [← pow_add, Nat.add_sub_cancel' hlt.le]
  have hwhole : Decimal.div raw (10 ^ decimals) * 10 ^ decimals =
      (Decimal.roundInt (raw / 10 ^ decimals * 10 ^ 16) * 10 ^ (decimals - 16) : ℤ) := by
    nth_rewrite 2 [hsplit]
    rw [← mul_assoc, Decimal.div, Decimal.round, div_mul_cancel₀ _ (by positivity)]
    push_cast
    rfl
  refine ⟨_, toSubunit_of_intCast hwhole, fun hle => absurd hle hlt.not_ge, fun _ => ?_⟩
  rw [← hwhole]
  calc |Decimal.div raw (10 ^ decimals) * 10 ^ decimals - raw|
      = |Decimal.div raw (10 ^ decimals) - raw / 10 ^ decimals| * 10 ^ decimals := by
        rw [← abs_of_pos hpow, ← abs_mul, abs_of_pos hpow, sub_mul, div_mul_cancel₀ _ hpow.ne']
    _ ≤ 1 / 2 / 10 ^ 16 * 10 ^ decimals :=
        mul_le_mul_of_nonneg_right (Decimal.abs_round_sub_le _ 16) hpow.le
    _ = 10 ^ (decimals - 16) / 2 := by
        rw [hsplit]
        ring

end Numbers

structure Ready (I : Indexer) (e : OrderCreatedEvent) (s : Store) : Prop where
  not_indexed : s.isIndexed I.network e = false
  accepted : ∃ fields, I.accepted e = some fields ∧ ¬ Taken s fields ∧
    (s.createdLogs e.txHash e.orderId).length ≤ 1

variable {e : OrderCreatedEvent} {token : Token}

lemma exists_lockOrder {I : Indexer} {s : Store} (htoken : I.findToken e.token = .ok token)
    (h : Ready I e s) (background : List ℕ) :
    ∃ o, ordersOf I e ((I.createLockPaymentOrder background e).after CreationWrite.exec s) = [o] ∧
      o.amount = Decimal.div e.amount (10 ^ token.decimals) ∧ o.rate = e.rate := by
  obtain ⟨fields, hf, hfree, hlogs⟩ := h.accepted
  obtain ⟨hgateway, htx, -⟩ := accepted_fields hf
  rw [← hgateway, ← htx] at hlogs
  have hended : Ended I fields s _ := createLockPaymentOrder_after background h.not_indexed
    (checkAndStore_ended hf hfree hlogs)
  obtain ⟨hident, hamount, -⟩ := finalRow_columns I fields s
  have hrate : (finalRow I fields s).rate = fields.rate := congrArg (fun k => k.1.1.2.1) hident
  refine ⟨_, ordersOf_of_ended hf h.not_indexed hended, ?_⟩
  obtain ⟨token', _, _, _, _, _, htoken', -, -, -, -, -, rfl, -⟩ := accepted_eq_some_iff.1 hf
  obtain rfl : token' = token := by
    rw [htoken] at htoken'
    exact (Except.ok.inj htoken').symm
  exact ⟨hamount, hrate⟩

structure Passage where
  codec : AddressCodec
  order : PaymentOrder
  amount_pos : 0 < order.amount
  rate_pos : 0 < order.rate
  decimals_le : order.token.decimals ≤ 18
  contractAddress : String
  feeAddress : String
  message : List UInt8
  message_ne_nil : message ≠ []
  message_length_lt : message.length < 2 ^ 62
  call : CreateOrderCallData
  encoded : createOrderCallData codec order contractAddress feeAddress message = some call
  eventSignature : List UInt8
  sender : List UInt8
  protocolFee : List UInt8
  protocolFee_length : protocolFee.length = 32
  orderId : List UInt8
  orderId_length : orderId.length = 32
  blockNumber : ℕ
  txHash : String

namespace Passage

variable (P : Passage)

def log : ChainLog :=
  P.call.orderCreatedLog P.eventSignature P.sender P.protocolFee P.orderId

def event : OrderCreatedEvent where
  blockNumber := P.blockNumber
  txHash := P.txHash
  token := P.codec.hex (P.codec.hexToAddress P.contractAddress)
  amount := ofBytes P.call.amount
  protocolFee := ofBytes P.protocolFee
  orderId := hashHex P.orderId
  rate := Decimal.div (ofBytes P.call.rate) 100
  messageHash := textOfBytes P.message
  sender := P.codec.hex (P.codec.hexToAddress (P.codec.hex (topicAddress P.sender)))

lemma exists_subunits : ∃ v : ℕ, (v : ℚ) = P.order.amount * 10 ^ P.order.token.decimals ∧
    P.call.amount = packWord v ∧
    P.call.rate = packWord (⌊P.order.rate * 100⌋.toNat : ℕ) ∧
    P.call.token = packWord (P.codec.hexToAddress P.contractAddress) ∧
    P.call.messageHash = P.message := by
  have hencoded := P.encoded
  simp only [createOrderCallData, Option.bind_eq_bind, Option.bind_eq_some_iff, Option.pure_def,
    Option.some.injEq] at hencoded
  obtain ⟨v, hv, fee, -, hcall⟩ := hencoded
  have hamount := toSubunit_eq_some hv
  have hpos := P.amount_pos
  have hvpos : 0 ≤ v := by
    have : (0 : ℚ) ≤ v := by rw [hamount]; positivity
    exact_mod_cast this
  have hrate : (⌊P.order.rate * 100⌋.toNat : ℤ) = ⌊P.order.rate * 100⌋ := by
    have := P.rate_pos
    exact Int.toNat_of_nonneg (Int.floor_nonneg.2 (by positivity))
  refine ⟨v.toNat, ?_, ?_, ?_, ?_, ?_⟩
  · rw [← hamount]
    exact_mod_cast Int.toNat_of_nonneg hvpos
  · rw [← hcall, Int.toNat_of_nonneg hvpos]
  · have := P.rate_pos
    rw [← hcall, hrate, bigInt_of_nonneg (by positivity)]
  · rw [← hcall]
  · rw [← hcall]

theorem log_event : P.log.event P.codec P.blockNumber P.txHash = some P.event := by
  obtain ⟨v, -, -, hrate, htoken, hmessage⟩ := P.exists_subunits
  have hratelen : P.call.rate.length = 32 := by rw [hrate, length_packWord]
  have hdecoded : decodeOrderCreatedEvent P.codec P.log = .ok _ :=
    decodeOrderCreatedEvent_log P.protocolFee_length P.orderId_length hratelen
      (by have := P.message_length_lt; rw [hmessage]; omega)
  have haddress : topicAddress P.call.token = P.codec.hexToAddress P.contractAddress := by
    rw [htoken, topicAddress_packWord (P.codec.hexToAddress_lt _)]
  have hid : hashHex P.orderId ≠ "" := by
    intro h
    have := congrArg String.toList h
    simp [hashHex] at this
  have htext : textOfBytes P.message ≠ "" := by
    intro h
    have := congrArg String.toList h
    exact P.message_ne_nil (by simpa [textOfBytes] using this)
  rw [ChainLog.event, hdecoded, haddress, hmessage]
  simp only [Except.toOption, Option.bind_some, OrderCreatedParams.event]
  rw [if_neg (by simp [P.codec.hex_ne_empty, hid, htext]),
    P.codec.hexToAddress_hex _ (P.codec.hexToAddress_lt _)]
  rfl

def Preserved (I : Indexer) (s : Store) : Prop :=
  ∃ e, P.log.event P.codec P.blockNumber P.txHash = some e ∧ ∀ background, ∃ o,
    ordersOf I e ((I.createLockPaymentOrder background e).after CreationWrite.exec s) = [o] ∧
      o.amount = P.order.amount ∧ o.rate = P.order.rate

lemma amount_iff : Decimal.div P.event.amount (10 ^ P.order.token.decimals) = P.order.amount ↔
    P.order.amount * 10 ^ P.order.token.decimals < 2 ^ 256 ∧
      ∃ z : ℤ, P.order.amount * 10 ^ 16 = z := by
  obtain ⟨v, hv, hword, -⟩ := P.exists_subunits
  have hpow : (10 : ℚ) ^ P.order.token.decimals ≠ 0 := by positivity
  have hamount : P.order.amount = v / 10 ^ P.order.token.decimals := by
    rw [hv, mul_div_cancel_right₀ _ hpow]
  have hevent : P.event.amount = ((v % 2 ^ 256 : ℕ) : ℚ) := by
    rw [event, hword, ofBytes_packWord]
  have hfits : (v : ℚ) < 2 ^ 256 ↔ v < 2 ^ 256 := by exact_mod_cast Iff.rfl
  have hplaces : (∃ z : ℤ, P.order.amount * 10 ^ 16 = z) ↔
      10 ^ P.order.token.decimals ∣ v * 10 ^ 16 := by
    rw [← Decimal.div_pow_eq_iff, Decimal.div, Decimal.round_eq_self_iff, hamount]
  rw [hevent, hplaces, ← hv, hfits, hamount]
  exact div_word_eq_iff P.decimals_le

lemma rate_iff : P.event.rate = P.order.rate ↔
    P.order.rate * 100 < 2 ^ 256 ∧ ∃ z : ℤ, P.order.rate * 100 = z := by
  obtain ⟨-, -, -, hword, -⟩ := P.exists_subunits
  have hpos := P.rate_pos
  obtain ⟨n, hn⟩ : ∃ n : ℕ, ⌊P.order.rate * 100⌋ = n :=
    Int.eq_ofNat_of_zero_le (Int.floor_nonneg.2 (by positivity))
  have hevent : P.event.rate = ((n % 2 ^ 256 : ℕ) : ℚ) / 100 := by
    rw [event, hword, ofBytes_packWord, hn, Int.toNat_natCast, div_hundred]
  rw [hevent, div_eq_iff (by norm_num)]
  constructor
  · intro h
    refine ⟨?_, ((n % 2 ^ 256 : ℕ) : ℤ), by rw [← h]; rfl⟩
    rw [← h]
    exact_mod_cast Nat.mod_lt n (by norm_num)
  · rintro ⟨hlt, z, hz⟩
    have hzn : z = n := by
      rw [hz, Int.floor_intCast] at hn
      exact hn
    have hexact : P.order.rate * 100 = (n : ℚ) := by rw [hz, hzn]; rfl
    rw [hexact] at hlt ⊢
    rw [Nat.mod_eq_of_lt (by exact_mod_cast hlt)]

lemma preserved_iff_values {I : Indexer} {s : Store}
    (htoken : I.findToken P.event.token = .ok P.order.token) (hready : Ready I P.event s) :
    P.Preserved I s ↔
      Decimal.div P.event.amount (10 ^ P.order.token.decimals) = P.order.amount ∧
        P.event.rate = P.order.rate := by
  have hlockOrder := exists_lockOrder htoken hready
  constructor
  · rintro ⟨e, he, h⟩
    obtain rfl : e = P.event := Option.some.inj (he.symm.trans P.log_event)
    obtain ⟨o, ho, hamount, hrate⟩ := hlockOrder []
    obtain ⟨o', ho', hamount', hrate'⟩ := h []
    obtain rfl : o = o' := List.singleton_inj.1 (ho.symm.trans ho')
    exact ⟨hamount.symm.trans hamount', hrate.symm.trans hrate'⟩
  · rintro ⟨hamount, hrate⟩
    refine ⟨P.event, P.log_event, fun background => ?_⟩
    obtain ⟨o, ho, hamount', hrate'⟩ := hlockOrder background
    exact ⟨o, ho, hamount'.trans hamount, hrate'.trans hrate⟩

theorem preserved_iff (I : Indexer) (s : Store)
    (htoken : I.findToken (P.codec.hex (P.codec.hexToAddress P.contractAddress)) =
      .ok P.order.token)
    (hready : ∀ e, P.log.event P.codec P.blockNumber P.txHash = some e → Ready I e s) :
    P.Preserved I s ↔
      P.order.amount * 10 ^ P.order.token.decimals < 2 ^ 256 ∧
      (∃ z : ℤ, P.order.amount * 10 ^ 16 = z) ∧
      P.order.rate * 100 < 2 ^ 256 ∧ ∃ z : ℤ, P.order.rate * 100 = z := by
  rw [P.preserved_iff_values htoken (hready _ P.log_event), P.amount_iff, P.rate_iff, and_assoc]

end Passage

/-! Orders through a gateway with sample addresses. -/

def passage (token : Token) (amount rate : ℚ) (hdecimals : token.decimals ≤ 18)
    (hamount : 0 < amount) (hrate : 0 < rate) (hsubunits : (amount * 10 ^ token.decimals).den = 1) :
    Passage where
  codec := Sample.unaryCodec
  order := { Sample.paymentOrder 1 with token := token, amount := amount, rate := rate }
  amount_pos := hamount
  rate_pos := hrate
  decimals_le := hdecimals
  contractAddress := "0x0"
  feeAddress := "0x"
  message := [109, 49]
  message_ne_nil := by decide
  message_length_lt := by decide
  call := {
    token := packWord (Sample.unaryCodec.hexToAddress "0x0")
    amount := packWord (amount * 10 ^ token.decimals).num
    rate := packWord (bigInt (rate * 100))
    senderFeeRecipient := packWord (Sample.unaryCodec.hexToAddress "0x")
    senderFee := packWord 0
    refundAddress := packWord (Sample.unaryCodec.hexToAddress "")
    messageHash := [109, 49] }
  encoded := by
    simp [createOrderCallData, toSubunit, hsubunits, Sample.paymentOrder]
  eventSignature := toBytes 32 0
  sender := toBytes 32 1
  protocolFee := toBytes 32 0
  protocolFee_length := length_toBytes _ _
  orderId := toBytes 32 7
  orderId_length := length_toBytes _ _
  blockNumber := 1
  txHash := "0x1"

def gatewayIndexer (token : Token) : Indexer :=
  { Sample.indexer with tokens := [("0x0", token)] }

def longToken : Token := { Sample.token with decimals := 18 }

lemma ready_of_accepted (h : ((gatewayIndexer token).accepted e).isSome = true) :
    Ready (gatewayIndexer token) e .empty := by
  obtain ⟨fields, hf⟩ := Option.isSome_iff_exists.1 h
  exact ⟨rfl, fields, hf, List.not_mem_nil, by simp [Store.createdLogs, Store.empty, Table.select,
    Table.empty]⟩

def shortRate : Passage :=
  passage Sample.token 40 (3 / 2) (by decide) (by norm_num) (by norm_num) (by decide +kernel)

theorem preserved_short_rate : shortRate.Preserved (gatewayIndexer Sample.token) .empty := by
  refine (shortRate.preserved_iff _ _ (by decide +kernel) fun e he => ?_).2
    ⟨by decide +kernel, ⟨400000000000000000, by decide +kernel⟩, by decide +kernel,
      ⟨150, by decide +kernel⟩⟩
  obtain rfl := Option.some.inj (shortRate.log_event.symm.trans he)
  exact ready_of_accepted (by decide +kernel)

def longRate : Passage :=
  passage Sample.token 40 (301 / 200) (by decide) (by norm_num) (by norm_num) (by decide +kernel)

def longAmount : Passage :=
  passage longToken (40 + 1 / 10 ^ 18) 1 (by decide) (by norm_num) (by norm_num) (by decide +kernel)

theorem long_rate_and_amount_changed :
    ¬ longRate.Preserved (gatewayIndexer Sample.token) .empty ∧
      ¬ longAmount.Preserved (gatewayIndexer longToken) .empty := by
  constructor
  · rw [longRate.preserved_iff_values (I := gatewayIndexer Sample.token) (by decide +kernel)
      (ready_of_accepted (by decide +kernel))]
    decide +kernel
  · rw [longAmount.preserved_iff_values (I := gatewayIndexer longToken) (by decide +kernel)
      (ready_of_accepted (by decide +kernel))]
    decide +kernel

end Stablenode.ValuePreservation
