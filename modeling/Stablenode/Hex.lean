import Stablenode.BigEndian

/-! Hexadecimal texts: the digits of byte strings and of numbers, and their decoders. -/
namespace Stablenode

def hexDigit (n : ℕ) : Char := "0123456789abcdef".toList.getD n '0'

def hexValue (c : Char) : Option ℕ :=
  if '0' ≤ c ∧ c ≤ '9' then some (c.toNat - 48)
  else if 'a' ≤ c ∧ c ≤ 'f' then some (c.toNat - 87)
  else if 'A' ≤ c ∧ c ≤ 'F' then some (c.toNat - 55)
  else none

lemma hexValue_hexDigit {n : ℕ} (h : n < 16) : hexValue (hexDigit n) = some n := by
  interval_cases n <;> decide

namespace Hex

open BigEndian

def encode (bytes : List UInt8) : List Char :=
  bytes.flatMap fun b => [hexDigit (b.toNat / 16), hexDigit (b.toNat % 16)]

def decodeString : List Char → Option (List UInt8)
  | [] => some []
  | [_] => none
  | high :: low :: rest => do
    let x ← hexValue high
    let y ← hexValue low
    let bytes ← decodeString rest
    return UInt8.ofNat (16 * x + y) :: bytes

def hex2Bytes : List Char → List UInt8
  | high :: low :: rest =>
    match hexValue high, hexValue low with
    | some x, some y => UInt8.ofNat (16 * x + y) :: hex2Bytes rest
    | _, _ => []
  | _ => []

def padHex (width n : ℕ) : List Char :=
  let digits := ((Nat.digits 16 n).map hexDigit).reverse
  List.replicate (width - digits.length) '0' ++ digits

def number (digits : List Char) : Option ℕ :=
  if digits = [] then none
  else digits.foldlM (fun n c => (hexValue c).map fun x => 16 * n + x) 0

def fromHex (text : String) : List UInt8 :=
  let digits := match text.toList with
    | '0' :: 'x' :: rest => rest
    | '0' :: 'X' :: rest => rest
    | digits => digits
  hex2Bytes (if digits.length % 2 = 1 then '0' :: digits else digits)

lemma length_encode (bytes : List UInt8) : (encode bytes).length = 2 * bytes.length := by
  simp [encode, mul_comm]

lemma encode_append (xs ys : List UInt8) : encode (xs ++ ys) = encode xs ++ encode ys :=
  List.flatMap_append

lemma byte_eq_digits (b : UInt8) : UInt8.ofNat (16 * (b.toNat / 16) + b.toNat % 16) = b := by
  rw [Nat.div_add_mod, UInt8.ofNat_toNat]

@[simp] theorem decodeString_encode (bytes : List UInt8) :
    decodeString (encode bytes) = some bytes := by
  induction bytes with
  | nil => rfl
  | cons b bytes ih =>
    have hhigh : b.toNat / 16 < 16 := Nat.div_lt_of_lt_mul b.toNat_lt
    have hlow : b.toNat % 16 < 16 := Nat.mod_lt _ (by decide)
    change decodeString (_ :: _ :: encode bytes) = _
    simp only [decodeString, hexValue_hexDigit hhigh, hexValue_hexDigit hlow, ih,
      Option.bind_eq_bind, Option.bind_some, byte_eq_digits, Option.pure_def]

variable {bytes : List UInt8} {text : List Char}

lemma hex2Bytes_append {front : List Char} (h : decodeString front = some bytes) (back : List Char)
    :
    hex2Bytes (front ++ back) = bytes ++ hex2Bytes back := by
  induction front using decodeString.induct generalizing bytes with
  | case1 =>
    obtain rfl := Option.some.inj h
    rfl
  | case2 => cases h
  | case3 high low rest ih =>
    simp only [decodeString, Option.bind_eq_bind, Option.bind_eq_some_iff, Option.pure_def,
      Option.some.injEq] at h
    obtain ⟨x, hx, y, hy, tail, htail, rfl⟩ := h
    simp only [List.cons_append, hex2Bytes, hx, hy, ih htail]

lemma hex2Bytes_of_decodeString (h : decodeString text = some bytes) : hex2Bytes text = bytes := by
  simpa [hex2Bytes] using hex2Bytes_append h []

@[simp] lemma hex2Bytes_encode (bytes : List UInt8) : hex2Bytes (encode bytes) = bytes :=
  hex2Bytes_of_decodeString (decodeString_encode bytes)

lemma length_of_decodeString (h : decodeString text = some bytes) :
    text.length = 2 * bytes.length := by
  induction text using decodeString.induct generalizing bytes with
  | case1 =>
    obtain rfl := Option.some.inj h
    rfl
  | case2 => cases h
  | case3 high low rest ih =>
    simp only [decodeString, Option.bind_eq_bind, Option.bind_eq_some_iff, Option.pure_def,
      Option.some.injEq] at h
    obtain ⟨-, -, -, -, tail, htail, rfl⟩ := h
    simp only [List.length_cons, ih htail]
    omega

lemma padHex_succ (width n : ℕ) :
    padHex (width + 1) n = padHex width (n / 16) ++ [hexDigit (n % 16)] := by
  rcases Nat.eq_zero_or_pos n with rfl | hpos
  · simp [padHex, List.replicate_succ', hexDigit]
  · simp [padHex, Nat.digits_def' (by norm_num : 1 < 16) hpos]

lemma padHex_eq_encode {width n : ℕ} (h : n < 256 ^ width) :
    padHex (2 * width) n = encode (toBytes width n) := by
  induction width generalizing n with
  | zero =>
    obtain rfl : n = 0 := by simpa using h
    rfl
  | succ width ih =>
    have hbyte : (UInt8.ofNat n).toNat = n % 256 := UInt8.toNat_ofNat'
    have hhigh : n % 256 / 16 = n / 16 % 16 := by omega
    have hlow : n % 256 % 16 = n % 16 := by omega
    rw [toBytes, encode_append, ← ih (Nat.div_lt_of_lt_mul (by rwa [pow_succ'] at h)), mul_add,
      mul_one, padHex_succ, padHex_succ, Nat.div_div_eq_div_mul]
    simp [encode, hbyte, hhigh, hlow]

lemma fromHex_encode (bytes : List UInt8) :
    fromHex ("0x" ++ String.ofList (encode bytes)) = bytes := by
  have hdigits : ("0x" ++ String.ofList (encode bytes)).toList = '0' :: 'x' :: encode bytes := by
    simp
  simp [fromHex, hdigits, length_encode]

end Hex

end Stablenode
