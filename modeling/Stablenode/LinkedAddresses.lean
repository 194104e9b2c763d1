import Stablenode.Deposits
import Stablenode.Interleaving

/-! Transfers to linked addresses (services/common/indexer.go) and the checks of the payment order
schema (ent/schema/paymentorder.go, ent/paymentorder_create.go). -/
namespace Stablenode

open Proc

structure PaymentOrderCreate where
  amount : Option ℚ := none
  amountPaid : Option ℚ := none
  amountReturned : Option ℚ := none
  percentSettled : Option ℚ := none
  senderFee : Option ℚ := none
  networkFee : Option ℚ := none
  protocolFee : Option ℚ := none
  rate : Option ℚ := none
  txHash : Option String := none
  blockNumber : ℕ := 0
  fromAddress : Option String := none
  returnAddress : Option String := none
  receiveAddressText : Option String := none
  feePercent : Option ℚ := none
  feeAddress : Option String := none
  gatewayId : Option String := none
  messageHash : Option String := none
  reference : Option String := none
  status : PaymentOrderStatus := .initiated
  amountInUsd : Option ℚ := none
  token : Option Token := none
  linkedAddress : Option ℕ := none
  deriving DecidableEq

namespace PaymentOrderCreate

def required {α : Type} (kind name : String) (value : Option α) : Option String :=
  if value.isSome then none
  else some ("ent: missing required " ++ kind ++ " \"PaymentOrder." ++ name ++ "\"")

def maxLen (name : String) (limit : ℕ) (value : Option String) : Option String :=
  value.bind fun text =>
    if text.utf8ByteSize ≤ limit then none
    else some ("ent: validator failed for field \"PaymentOrder." ++ name ++ "\"")

def check (c : PaymentOrderCreate) : Option String :=
  [required "field" "amount" c.amount, required "field" "amount_paid" c.amountPaid,
    required "field" "amount_returned" c.amountReturned,
    required "field" "percent_settled" c.percentSettled,
    required "field" "sender_fee" c.senderFee, required "field" "network_fee" c.networkFee,
    required "field" "protocol_fee" c.protocolFee, required "field" "rate" c.rate,
    maxLen "tx_hash" 70 c.txHash, maxLen "from_address" 60 c.fromAddress,
    maxLen "return_address" 60 c.returnAddress,
    required "field" "receive_address_text" c.receiveAddressText,
    maxLen "receive_address_text" 60 c.receiveAddressText,
    required "field" "fee_percent" c.feePercent, maxLen "fee_address" 60 c.feeAddress,
    maxLen "gateway_id" 70 c.gatewayId, maxLen "message_hash" 400 c.messageHash,
    maxLen "reference" 70 c.reference, required "field" "amount_in_usd" c.amountInUsd,
    required "edge" "token" c.token].findSome? id

end PaymentOrderCreate

structure LinkedAddress where
  id : ℕ
  address : String
  institution : String
  accountIdentifier : String
  accountName : String
  lastIndexedBlock : Option ℕ
  txHash : String
  deriving DecidableEq

structure LinkedOrder where
  id : ℕ
  columns : PaymentOrderCreate
  recipient : Option String
  deriving DecidableEq

structure LinkedStore where
  linkedAddresses : List LinkedAddress
  orders : List LinkedOrder
  deriving DecidableEq

namespace LinkedStore

def addressOf (s : LinkedStore) (o : LinkedOrder) : Option LinkedAddress :=
  s.linkedAddresses.find? fun a => o.columns.linkedAddress = some a.id

def ordersOf (s : LinkedStore) (address : String) : List LinkedOrder :=
  s.orders.filter fun o => (s.addressOf o).any fun a => a.address = address

def recorded (s : LinkedStore) (address : String) (event : TokenTransferEvent) :
    Except QueryError LinkedOrder :=
  only (s.orders.filter fun o =>
    o.columns.fromAddress = some event.fromAddress ∧ o.columns.amount = some event.value ∧
      (s.addressOf o).any fun a =>
        a.address = address ∧ a.lastIndexedBlock = some event.blockNumber)

end LinkedStore

inductive LinkedWrite where
  | read
  | beginTx
  | savePaymentOrder (order : LinkedOrder)
  | saveRecipient (order : ℕ)
  | updateLinkedAddress (linkedAddress : ℕ)
  | commit (order : ℕ) (linkedAddress : LinkedAddress) (event : TokenTransferEvent)
  | createOrder (order : ℕ)
  deriving DecidableEq

def LinkedWrite.exec : LinkedWrite → LinkedStore → LinkedStore
  | savePaymentOrder order, s => { s with orders := s.orders ++ [order] }
  | commit order a event, s =>
    { linkedAddresses := s.linkedAddresses.map fun b =>
        if b.id = a.id then
          { b with txHash := event.txHash, lastIndexedBlock := some event.blockNumber }
        else b
      orders := s.orders.map fun o =>
        if o.id = order then { o with recipient := some a.institution } else o }
  | _, s => s

abbrev LinkedProgram := Proc LinkedWrite LinkedStore

structure LinkedSources where
  institutionCurrency : String → Except QueryError (Option String)
  tokenRateFromQueue : String → ℚ → String → Option ℚ
  networkFee : ℚ
  newId : LinkedStore → ℕ

section Program

variable (sources : LinkedSources) (token : Token)

def linkedOrderCreate (a : LinkedAddress) (event : TokenTransferEvent) (rate : ℚ) :
    PaymentOrderCreate :=
  { amount := some event.value
    amountPaid := some event.value
    amountReturned := some 0
    percentSettled := some 0
    networkFee := some sources.networkFee
    senderFee := some 0
    token := some token
    rate := some rate
    txHash := some event.txHash
    blockNumber := event.blockNumber
    fromAddress := some event.fromAddress
    linkedAddress := some a.id
    receiveAddressText := some a.address
    feePercent := some 0
    returnAddress := some a.address }

def linkedRate (currency : String) (amount : ℚ) : Option ℚ :=
  if equalFold token.baseCurrency currency then some 1
  else if equalFold token.baseCurrency "USD" then
    sources.tokenRateFromQueue token.symbol amount currency
  else none

def createLinkedOrder (a : LinkedAddress) (event : TokenTransferEvent) (rate : ℚ) :
    LinkedProgram Unit :=
  attempt .beginTx (ret ()) fun s =>
  let create := linkedOrderCreate sources token a event rate
  match create.check with
  | some _ => ret ()
  | none =>
    let order := sources.newId s
    attempt (.savePaymentOrder ⟨order, create, none⟩) (ret ()) fun _ =>
    attempt (.saveRecipient order) (ret ()) fun _ =>
    attempt (.updateLinkedAddress a.id) (ret ()) fun _ =>
    attempt (.commit order a event) (ret ()) fun _ =>
    ignore (.createOrder order) (ret ())

def processLinkedAddress (addressToEvent : List TokenTransferEvent) (a : LinkedAddress) :
    LinkedProgram Unit :=
  match addressToEvent.find? fun event => event.toAddress = a.address with
  | none => ret ()
  | some event =>
    attempt .read (ret ()) fun s =>
    match s.recorded a.address event with
    | .ok _ => ret ()
    | .error .notSingular => ret ()
    | .error .notFound =>
      attempt .read (ret ()) fun _ =>
      match sources.institutionCurrency a.institution with
      | .error _ => ret ()
      | .ok none => ret ()
      | .ok (some currency) =>
        match linkedRate sources token currency event.value with
        | none => ret ()
        | some rate => createLinkedOrder sources token a event rate

def processLinkedTransfers (schedule : List ℕ) (unknownAddresses : List String)
    (addressToEvent : List TokenTransferEvent) : LinkedProgram Unit :=
  attempt .read (ret ()) fun s =>
  interleave schedule ((s.linkedAddresses.filter fun a => a.address ∈ unknownAddresses).map
    (processLinkedAddress sources token addressToEvent))

end Program

structure LinkedDelivery where
  schedule : List ℕ
  unknownAddresses : List String
  addressToEvent : List TokenTransferEvent
  token : Token
  deriving DecidableEq

def linkedRun (sources : LinkedSources) (schedule : List ℕ) (deliveries : List LinkedDelivery) :
    LinkedProgram Unit :=
  interleave schedule (deliveries.map fun d =>
    processLinkedTransfers sources d.token d.schedule d.unknownAddresses d.addressToEvent)

namespace LinkedAddresses

def RecordsEach (transfers : List TokenTransferEvent) (before after : List LinkedOrder) : Prop :=
  ∃ new, after = before ++ new ∧
    (new.map fun o => o.columns.amount).Perm (transfers.map fun event => some event.value)

def Idle (w : LinkedWrite) : Prop := w = .read ∨ w = .beginTx

variable {sources : LinkedSources} {token : Token}

lemma check_linkedOrderCreate (a : LinkedAddress) (event : TokenTransferEvent) (rate : ℚ) :
    (linkedOrderCreate sources token a event rate).check =
      some "ent: missing required field \"PaymentOrder.protocol_fee\"" := rfl

lemma createLinkedOrder_idle (a : LinkedAddress) (event : TokenTransferEvent) (rate : ℚ) :
    Uses Idle (createLinkedOrder sources token a event rate) := by
  refine uses_attempt (Or.inr rfl) (uses_ret _) fun s => ?_
  simp only [check_linkedOrderCreate]
  exact uses_ret _

lemma processLinkedAddress_idle (addressToEvent : List TokenTransferEvent) (a : LinkedAddress) :
    Uses Idle (processLinkedAddress sources token addressToEvent a) := by
  rw [processLinkedAddress]
  split
  · exact uses_ret _
  refine uses_attempt (Or.inl rfl) (uses_ret _) fun s => ?_
  split
  · exact uses_ret _
  · exact uses_ret _
  refine uses_attempt (Or.inl rfl) (uses_ret _) fun _ => ?_
  split
  · exact uses_ret _
  · exact uses_ret _
  · split
    · exact uses_ret _
    · exact createLinkedOrder_idle _ _ _

theorem linkedRun_idle (schedule : List ℕ) (deliveries : List LinkedDelivery) :
    Uses Idle (linkedRun sources schedule deliveries) := by
  refine uses_interleave schedule fun p hp => ?_
  obtain ⟨d, -, rfl⟩ := List.mem_map.1 hp
  refine uses_attempt (Or.inl rfl) (uses_ret _) fun s => uses_interleave d.schedule fun p hp => ?_
  obtain ⟨a, -, rfl⟩ := List.mem_map.1 hp
  exact processLinkedAddress_idle d.addressToEvent a

lemma linkedRun_keeps (schedule : List ℕ) (deliveries : List LinkedDelivery) (faults : List Bool)
    (s : LinkedStore) :
    Run.exec LinkedWrite.exec s
      ((linkedRun sources schedule deliveries).history LinkedWrite.exec faults s) = s := by
  have hkeeps : ∀ w u, Idle w → u = s → LinkedWrite.exec w u = s := by
    rintro w u (rfl | rfl) hu
    · exact hu
    · exact hu
  have hpost : Post LinkedWrite.exec (fun _ t => t = s) (linkedRun sources schedule deliveries) s :=
    (linkedRun_idle schedule deliveries).post hkeeps rfl fun _ _ _ ht => ht
  exact post_iff_forall_faults.1 hpost faults

theorem recordsEach_iff (sources : LinkedSources) (schedule : List ℕ)
    (deliveries : List LinkedDelivery) (faults : List Bool) (s : LinkedStore) (address : String)
    (transfers : List TokenTransferEvent) :
    RecordsEach transfers (s.ordersOf address) ((Run.exec LinkedWrite.exec s
        ((linkedRun sources schedule deliveries).history LinkedWrite.exec faults s)).ordersOf
          address) ↔
      transfers = [] := by
  rw [linkedRun_keeps]
  constructor
  · rintro ⟨new, hnew, hperm⟩
    obtain rfl : new = [] := List.self_eq_append_right.1 hnew
    exact List.map_eq_nil_iff.1 hperm.symm.eq_nil
  · rintro rfl
    exact ⟨[], by simp, by simp⟩

/-! A transfer of 100 to the one linked address, with every lookup going through. -/

def sampleSources : LinkedSources where
  institutionCurrency _ := .ok (some "NGN")
  tokenRateFromQueue _ _ _ := some 1500
  networkFee := 0
  newId s := s.orders.length

def sampleStore : LinkedStore := ⟨[⟨1, "0xlinked", "bank", "001", "name", none, ""⟩], []⟩

def sampleTransfer : TokenTransferEvent := ⟨7, "0x1", "0xsender", "0xlinked", 100⟩

theorem transfer_without_order :
    let run := linkedRun sampleSources [] [⟨[], ["0xlinked"], [sampleTransfer], Sample.token⟩]
    run.history LinkedWrite.exec [] sampleStore = [.read, .read, .read, .beginTx] ∧
      (Run.exec LinkedWrite.exec sampleStore
        (run.history LinkedWrite.exec [] sampleStore)).ordersOf "0xlinked" = [] ∧
      ¬ RecordsEach [sampleTransfer] [] [] := by
  refine ⟨by decide +kernel, by decide +kernel, ?_⟩
  rintro ⟨new, hnew, hperm⟩
  obtain rfl : new = [] := List.self_eq_append_right.1 hnew
  exact List.cons_ne_nil _ _ hperm.symm.eq_nil

end LinkedAddresses

end Stablenode
