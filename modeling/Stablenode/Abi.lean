import Stablenode.BigEndian

/-! Packing and unpacking of values of the contract ABI; the word of a text is the offset of its length. -/
namespace Stablenode.Abi

open BigEndian

inductive AbiType where
  | uint
  | bytes32
  | string
  deriving DecidableEq

inductive AbiValue where
  | bigInt (n : ℕ)
  | bytes32 (bytes : List UInt8)
  | text (bytes : List UInt8)
  deriving DecidableEq

variable {v : AbiValue} {data : List UInt8} {values : List AbiValue} {types : List AbiType}

namespace AbiValue

def type : AbiValue → AbiType
  | bigInt _ => .uint
  | bytes32 _ => .bytes32
  | text _ => .string

/-! Type assertions; without a value they panic. -/

def asBigInt : AbiValue → Option ℕ
  | bigInt n => some n
  | _ => none

def asBytes32 : AbiValue → Option (List UInt8)
  | bytes32 bytes => some bytes
  | _ => none

def asText : AbiValue → Option (List UInt8)
  | text bytes => some bytes
  | _ => none

def tail : AbiValue → List UInt8
  | text bytes => toBytes 32 bytes.length ++ bytes ++
      List.replicate ((32 - bytes.length % 32) % 32) 0
  | _ => []

def head (offset : ℕ) : AbiValue → List UInt8
  | bigInt n => toBytes 32 n
  | bytes32 bytes => bytes
  | text _ => toBytes 32 offset

lemma exists_bigInt (h : v.type = .uint) : ∃ n, v = bigInt n := by
  cases v with
  | bigInt n => exact ⟨n, rfl⟩
  | bytes32 bytes => cases h
  | text bytes => cases h

lemma exists_bytes32 (h : v.type = .bytes32) : ∃ bytes, v = bytes32 bytes := by
  cases v with
  | bigInt n => cases h
  | bytes32 bytes => exact ⟨bytes, rfl⟩
  | text bytes => cases h

lemma exists_text (h : v.type = .string) : ∃ bytes, v = text bytes := by
  cases v with
  | bigInt n => cases h
  | bytes32 bytes => cases h
  | text bytes => exact ⟨bytes, rfl⟩

end AbiValue

def textAt (data word : List UInt8) : Option (List UInt8) :=
  let start := ofBytes word + 32
  if data.length < start ∨ 2 ^ 63 ≤ start then none
  else
    let length := ofBytes ((data.drop (start - 32)).take 32)
    if 2 ^ 63 ≤ start + length ∨ data.length < start + length then none
    else some ((data.drop start).take length)

def toGoType (data : List UInt8) (index : ℕ) (t : AbiType) : Option AbiValue :=
  if data.length < index + 32 then none
  else
    let word := (data.drop index).take 32
    match t with
    | .uint => some (.bigInt (ofBytes word))
    | .bytes32 => some (.bytes32 word)
    | .string => (textAt data word).map .text

def unpackFrom (data : List UInt8) : ℕ → List AbiType → Option (List AbiValue)
  | _, [] => some []
  | position, t :: ts => do
    let v ← toGoType data (32 * position) t
    let vs ← unpackFrom data (position + 1) ts
    return v :: vs

def unpackValues (types : List AbiType) (data : List UInt8) : Option (List AbiValue) :=
  if data = [] ∧ types ≠ [] then none else unpackFrom data 0 types

def heads : ℕ → List AbiValue → List UInt8
  | _, [] => []
  | offset, v :: vs => v.head offset ++ heads (offset + v.tail.length) vs

def packValues (values : List AbiValue) : List UInt8 :=
  heads (32 * values.length) values ++ values.flatMap AbiValue.tail

lemma toGoType_type {index : ℕ} {t : AbiType} (h : toGoType data index t = some v) :
    v.type = t := by
  rw [toGoType] at h
  split_ifs at h
  cases t with
  | uint | bytes32 =>
    obtain rfl := Option.some.inj h
    rfl
  | string =>
    obtain ⟨bytes, -, rfl⟩ := Option.map_eq_some_iff.1 h
    rfl

lemma unpackFrom_types {position : ℕ} (h : unpackFrom data position types = some values) :
    values.map AbiValue.type = types := by
  induction types generalizing position values with
  | nil =>
    obtain rfl := Option.some.inj h
    rfl
  | cons t ts ih =>
    simp only [unpackFrom, Option.bind_eq_bind, Option.bind_eq_some_iff, Option.pure_def,
      Option.some.injEq] at h
    obtain ⟨v, hv, vs, hvs, rfl⟩ := h
    rw [List.map_cons, toGoType_type hv, ih hvs]

theorem unpackValues_types (h : unpackValues types data = some values) :
    values.map AbiValue.type = types := by
  rw [unpackValues] at h
  split_ifs at h
  exact unpackFrom_types h

end Stablenode.Abi
