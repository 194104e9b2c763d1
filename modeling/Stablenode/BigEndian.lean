import Mathlib

/-! Big-endian byte strings: natural numbers as words of a fixed width, and slices. -/
namespace Stablenode.BigEndian

def ofBytes (bytes : List UInt8) : ℕ := bytes.foldl (fun n b => n * 256 + b.toNat) 0

def toBytes : ℕ → ℕ → List UInt8
  | 0, _ => []
  | width + 1, n => toBytes width (n / 256) ++ [UInt8.ofNat n]

@[simp] lemma length_toBytes (width n : ℕ) : (toBytes width n).length = width := by
  induction width generalizing n with
  | zero => rfl
  | succ width ih => simp [toBytes, ih]

lemma ofBytes_append_singleton (bytes : List UInt8) (b : UInt8) :
    ofBytes (bytes ++ [b]) = ofBytes bytes * 256 + b.toNat := by
  simp [ofBytes]

@[simp] theorem ofBytes_toBytes (width n : ℕ) : ofBytes (toBytes width n) = n % 256 ^ width := by
  induction width generalizing n with
  | zero => simp [toBytes, ofBytes, Nat.mod_one]
  | succ width ih =>
    rw [toBytes, ofBytes_append_singleton, ih, pow_succ', Nat.mod_mul, UInt8.toNat_ofNat']
    omega

def bytesOf (n : ℕ) : List UInt8 := ((Nat.digits 256 n).map UInt8.ofNat).reverse

def leftPadBytes (bytes : List UInt8) (width : ℕ) : List UInt8 :=
  List.replicate (width - bytes.length) 0 ++ bytes

lemma leftPadBytes_bytesOf_succ (width n : ℕ) :
    leftPadBytes (bytesOf n) (width + 1) =
      leftPadBytes (bytesOf (n / 256)) width ++ [UInt8.ofNat n] := by
  rcases Nat.eq_zero_or_pos n with rfl | hpos
  · simp [leftPadBytes, bytesOf, List.replicate_succ']
  · have hlast : UInt8.ofNat (n % 256) = UInt8.ofNat n := UInt8.ofNat_mod_size
    simp [leftPadBytes, bytesOf, Nat.digits_def' (by norm_num : 1 < 256) hpos, hlast]

lemma leftPadBytes_bytesOf {width n : ℕ} (h : n < 256 ^ width) :
    leftPadBytes (bytesOf n) width = toBytes width n := by
  induction width generalizing n with
  | zero =>
    obtain rfl : n = 0 := by simpa using h
    rfl
  | succ width ih =>
    rw [leftPadBytes_bytesOf_succ, ih (Nat.div_lt_of_lt_mul (by rwa [pow_succ'] at h)), toBytes]

def slice (bytes : List UInt8) (low high : ℤ) : Option (List UInt8) :=
  if 0 ≤ low ∧ low ≤ high ∧ high ≤ bytes.length then
    some ((bytes.drop low.toNat).take (high - low).toNat)
  else none

lemma slice_append (front middle back : List UInt8) {low high : ℤ} (hlow : low = front.length)
    (hhigh : high = front.length + middle.length) :
    slice (front ++ middle ++ back) low high = some middle := by
  subst hlow hhigh
  have hbounds : 0 ≤ (front.length : ℤ) ∧ (front.length : ℤ) ≤ front.length + middle.length ∧
      (front.length + middle.length : ℤ) ≤ (front ++ middle ++ back).length := by
    simp only [List.length_append]
    omega
  rw [slice, if_pos hbounds]
  simp

end Stablenode.BigEndian
