import Stablenode.Hex

/-! User operations of smart accounts (services/alchemy.go): the operation that is sent to the
bundler and the hash that is signed, next to the hash that the entry point computes for the
operation that the bundler rebuilds. -/
namespace Stablenode

open BigEndian Hex

structure UserOp where
  sender : String
  nonce : String
  callData : String
  callGasLimit : String
  verificationGasLimit : String
  preVerificationGas : String
  maxFeePerGas : String
  maxPriorityFeePerGas : String
  signature : String
  initCode : Option String
  factory : Option String
  factoryData : Option String
  paymaster : Option String
  paymasterVerificationGasLimit : Option String
  paymasterPostOpGasLimit : Option String
  paymasterData : Option String
  paymasterAndData : Option String
  deriving DecidableEq

structure RpcUserOp where
  sender : String
  nonce : String
  callData : String
  callGasLimit : String
  verificationGasLimit : String
  preVerificationGas : String
  maxFeePerGas : String
  maxPriorityFeePerGas : String
  signature : String
  factory : Option String
  factoryData : Option String
  paymaster : Option String
  paymasterVerificationGasLimit : Option String
  paymasterPostOpGasLimit : Option String
  paymasterData : Option String
  deriving DecidableEq

namespace UserOp

def splitInitCode : Option String → Option (Option (String × String))
  | none => some none
  | some initCode =>
    if initCode ≠ "" ∧ initCode ≠ "0x" ∧ 2 < initCode.length then
      if 42 ≤ initCode.length then
        let digits := initCode.toList.drop 2
        some (some ("0x" ++ String.ofList (digits.take 40), "0x" ++ String.ofList (digits.drop 40)))
      else none
    else some none

def packUserOperationV07 (op : UserOp) : Option RpcUserOp :=
  (splitInitCode op.initCode).map fun factory =>
    { sender := op.sender
      nonce := op.nonce
      callData := op.callData
      callGasLimit := op.callGasLimit
      verificationGasLimit := op.verificationGasLimit
      preVerificationGas := op.preVerificationGas
      maxFeePerGas := op.maxFeePerGas
      maxPriorityFeePerGas := op.maxPriorityFeePerGas
      signature := op.signature
      factory := factory.map Prod.fst
      factoryData := factory.map Prod.snd
      paymaster := op.paymaster
      paymasterVerificationGasLimit := op.paymaster.bind fun _ => op.paymasterVerificationGasLimit
      paymasterPostOpGasLimit := op.paymaster.bind fun _ => op.paymasterPostOpGasLimit
      paymasterData := op.paymaster.bind fun _ => op.paymasterData }

end UserOp

def trimMarker (text : String) : List Char :=
  match text.toList with
  | '0' :: 'x' :: rest => rest
  | chars => chars

def hexToAddress (text : String) : List UInt8 :=
  let bytes := fromHex text
  leftPadBytes (bytes.drop (bytes.length - 20)) 20

def bigNumber (text : String) : Option ℕ := number (trimMarker text)

def entryPoint : List UInt8 := toBytes 20 0x0000000071727De22E5E9d8baF0edAc6f37da032

section Hashing

/-! The preimages of hashes are rows of bytes in which a digest stands for its 32 bytes, so that
`keccak` can be any injective function. -/

variable {H : Type} (keccak : List (UInt8 ⊕ H) → H)

def keccakBytes (bytes : List UInt8) : H := keccak (bytes.map .inl)

def textHash (h : H) : H :=
  keccak ((0x19 :: "Ethereum Signed Message:\n32".toUTF8.data.toList).map .inl ++ [.inr h])

def hashFields (chainID sender nonce : List UInt8) (initCode callData : List UInt8)
    (accountGasLimits preVerificationGas gasFees paymasterAndData : List UInt8) : H :=
  let userOpHash := keccak (
    (sender ++ nonce).map .inl ++
    [.inr (keccakBytes keccak initCode), .inr (keccakBytes keccak callData)] ++
    (accountGasLimits ++ preVerificationGas ++ gasFees).map .inl ++
    [.inr (keccakBytes keccak paymasterAndData)])
  keccak (.inr userOpHash :: (leftPadBytes entryPoint 32 ++ chainID).map .inl)

def packGas (high low : ℕ) : List UInt8 :=
  (leftPadBytes (bytesOf high) 16).take 16 ++ (leftPadBytes (bytesOf low) 16).take 16

namespace UserOp

def gasLimitHex : Option String → Option (List Char)
  | none => some "00000000000000000000000000000000".toList
  | some text => (bigNumber text).map (padHex 32)

def hashedPaymaster (op : UserOp) : Option (List UInt8) :=
  match op.paymaster with
  | some paymaster => do
    let pvglHex ← gasLimitHex op.paymasterVerificationGasLimit
    let ppoglHex ← gasLimitHex op.paymasterPostOpGasLimit
    let pmDataHex := (op.paymasterData.map trimMarker).getD []
    return hex2Bytes (trimMarker paymaster ++ pvglHex ++ ppoglHex ++ pmDataHex)
  | none => some ((op.paymasterAndData.map fun text => hex2Bytes (trimMarker text)).getD [])

def signUserOperation (chainID : ℕ) (op : UserOp) : Option H := do
  let nonce ← bigNumber op.nonce
  let initCode := (op.initCode.map fun text => hex2Bytes (trimMarker text)).getD []
  let callData := hex2Bytes (trimMarker op.callData)
  let callGasLimit ← bigNumber op.callGasLimit
  let verificationGasLimit ← bigNumber op.verificationGasLimit
  let preVerificationGas ← bigNumber op.preVerificationGas
  let maxFeePerGas ← bigNumber op.maxFeePerGas
  let maxPriorityFeePerGas ← bigNumber op.maxPriorityFeePerGas
  let paymasterAndData ← op.hashedPaymaster
  let finalHash := hashFields keccak (leftPadBytes (bytesOf chainID) 32)
    (leftPadBytes (hexToAddress op.sender) 32) (leftPadBytes (bytesOf nonce) 32) initCode callData
    (packGas verificationGasLimit callGasLimit) (leftPadBytes (bytesOf preVerificationGas) 32)
    (packGas maxPriorityFeePerGas maxFeePerGas) paymasterAndData
  return textHash keccak finalHash

end UserOp

/-! What the bundler and the entry point do. -/

structure PackedUserOperation where
  sender : List UInt8
  nonce : Fin (2 ^ 256)
  initCode : List UInt8
  callData : List UInt8
  verificationGasLimit : Fin (2 ^ 128)
  callGasLimit : Fin (2 ^ 128)
  preVerificationGas : Fin (2 ^ 256)
  maxPriorityFeePerGas : Fin (2 ^ 128)
  maxFeePerGas : Fin (2 ^ 128)
  paymasterAndData : List UInt8
  deriving DecidableEq

def PackedUserOperation.userOpHash (chainID : ℕ) (op : PackedUserOperation) : H :=
  hashFields keccak (toBytes 32 chainID) (List.replicate 12 0 ++ op.sender) (toBytes 32 op.nonce)
    op.initCode op.callData (toBytes 16 op.verificationGasLimit ++ toBytes 16 op.callGasLimit)
    (toBytes 32 op.preVerificationGas)
    (toBytes 16 op.maxPriorityFeePerGas ++ toBytes 16 op.maxFeePerGas) op.paymasterAndData

end Hashing

def dataOf (text : String) : Option (List UInt8) :=
  match text.toList with
  | '0' :: 'x' :: digits => decodeString digits
  | _ => none

def addressOf (text : String) : Option (List UInt8) :=
  (dataOf text).filter fun bytes => bytes.length = 20

def numberOf (text : String) : Option ℕ :=
  match text.toList with
  | '0' :: 'x' :: digits => number digits
  | _ => none

def wordOf (bits : ℕ) (text : String) : Option (Fin (2 ^ bits)) :=
  (numberOf text).bind fun n => if h : n < 2 ^ bits then some ⟨n, h⟩ else none

namespace RpcUserOp

def rebuildInitCode (op : RpcUserOp) : Option (List UInt8) :=
  match op.factory with
  | none => some []
  | some factory => do
    let address ← addressOf factory
    let factoryData ← dataOf (op.factoryData.getD "0x")
    return address ++ factoryData

def rebuildPaymaster (op : RpcUserOp) : Option (List UInt8) :=
  match op.paymaster with
  | none => some []
  | some paymaster => do
    let address ← addressOf paymaster
    let pvgl ← wordOf 128 (op.paymasterVerificationGasLimit.getD "0x0")
    let ppogl ← wordOf 128 (op.paymasterPostOpGasLimit.getD "0x0")
    let paymasterData ← dataOf (op.paymasterData.getD "0x")
    return address ++ (toBytes 16 pvgl ++ (toBytes 16 ppogl ++ paymasterData))

def rebuild (op : RpcUserOp) : Option PackedUserOperation := do
  let sender ← addressOf op.sender
  let nonce ← wordOf 256 op.nonce
  let initCode ← op.rebuildInitCode
  let callData ← dataOf op.callData
  let verificationGasLimit ← wordOf 128 op.verificationGasLimit
  let callGasLimit ← wordOf 128 op.callGasLimit
  let preVerificationGas ← wordOf 256 op.preVerificationGas
  let maxPriorityFeePerGas ← wordOf 128 op.maxPriorityFeePerGas
  let maxFeePerGas ← wordOf 128 op.maxFeePerGas
  let paymasterAndData ← op.rebuildPaymaster
  return {
    sender, nonce, initCode, callData, verificationGasLimit, callGasLimit, preVerificationGas,
    maxPriorityFeePerGas, maxFeePerGas, paymasterAndData }

lemma rebuild_eq_some_iff {op : RpcUserOp} {packed : PackedUserOperation} :
    op.rebuild = some packed ↔
      addressOf op.sender = some packed.sender ∧ wordOf 256 op.nonce = some packed.nonce ∧
      op.rebuildInitCode = some packed.initCode ∧ dataOf op.callData = some packed.callData ∧
      wordOf 128 op.verificationGasLimit = some packed.verificationGasLimit ∧
      wordOf 128 op.callGasLimit = some packed.callGasLimit ∧
      wordOf 256 op.preVerificationGas = some packed.preVerificationGas ∧
      wordOf 128 op.maxPriorityFeePerGas = some packed.maxPriorityFeePerGas ∧
      wordOf 128 op.maxFeePerGas = some packed.maxFeePerGas ∧
      op.rebuildPaymaster = some packed.paymasterAndData := by
  simp only [rebuild, Option.bind_eq_bind, Option.bind_eq_some_iff, Option.pure_def,
    Option.some.injEq]
  constructor
  · rintro ⟨_, h₁, _, h₂, _, h₃, _, h₄, _, h₅, _, h₆, _, h₇, _, h₈, _, h₉, _, h₁₀, rfl⟩
    exact ⟨h₁, h₂, h₃, h₄, h₅, h₆, h₇, h₈, h₉, h₁₀⟩
  · rintro ⟨h₁, h₂, h₃, h₄, h₅, h₆, h₇, h₈, h₉, h₁₀⟩
    exact ⟨_, h₁, _, h₂, _, h₃, _, h₄, _, h₅, _, h₆, _, h₇, _, h₈, _, h₉, _, h₁₀, rfl⟩

end RpcUserOp

structure UserOp.Valid (op : UserOp) : Prop where
  sender : (addressOf op.sender).isSome
  nonce : (numberOf op.nonce).isSome
  callData : (dataOf op.callData).isSome
  callGasLimit : (numberOf op.callGasLimit).isSome
  verificationGasLimit : (numberOf op.verificationGasLimit).isSome
  preVerificationGas : (numberOf op.preVerificationGas).isSome
  maxFeePerGas : (numberOf op.maxFeePerGas).isSome
  maxPriorityFeePerGas : (numberOf op.maxPriorityFeePerGas).isSome
  initCode : ∀ text ∈ op.initCode, (dataOf text).isSome
  paymaster : ∀ text ∈ op.paymaster, (addressOf text).isSome
  paymasterVerificationGasLimit :
    ∀ text ∈ op.paymasterVerificationGasLimit, (numberOf text).isSome
  paymasterPostOpGasLimit : ∀ text ∈ op.paymasterPostOpGasLimit, (numberOf text).isSome
  paymasterData : ∀ text ∈ op.paymasterData, (dataOf text).isSome
  paymasterAndData : ∀ text ∈ op.paymasterAndData, (dataOf text).isSome

end Stablenode
