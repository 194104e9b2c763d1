import Mathlib.Tactic

/-! Base64 with the standard alphabet and padding, over lists of characters. -/
namespace Stablenode.Base64

def alphabet : List Char :=
  "ABCDEFGHIJKLMNOPQRSTUVWXYZabcdefghijklmnopqrstuvwxyz0123456789+/".toList

def digit (n : ℕ) : Char := alphabet.getD n 'A'

def value (c : Char) : Option ℕ := alphabet.idxOf? c

variable {n : ℕ}

lemma value_digit (h : n < 64) : value (digit n) = some n :=
  (by decide +kernel : ∀ n < 64, value (digit n) = some n) n h

lemma digit_mem (h : n < 64) : digit n ∈ alphabet :=
  (by decide +kernel : ∀ n < 64, digit n ∈ alphabet) n h

lemma pad_notMem : '=' ∉ alphabet := by decide +kernel

lemma digit_ne_pad (h : n < 64) : digit n ≠ '=' :=
  fun he => pad_notMem (he ▸ digit_mem h)

def encode : List UInt8 → List Char
  | [] => []
  | [a] => [digit (a.toNat / 4), digit (a.toNat % 4 * 16), '=', '=']
  | [a, b] =>
    [digit (a.toNat / 4), digit (a.toNat % 4 * 16 + b.toNat / 16), digit (b.toNat % 16 * 4), '=']
  | a :: b :: c :: rest =>
    digit (a.toNat / 4) :: digit (a.toNat % 4 * 16 + b.toNat / 16) ::
      digit (b.toNat % 16 * 4 + c.toNat / 64) :: digit (c.toNat % 64) :: encode rest

def decodeQuanta : List Char → Option (List UInt8)
  | [] => some []
  | w :: x :: y :: z :: rest => do
    let p ← value w
    let q ← value x
    let first := UInt8.ofNat (p * 4 + q / 16)
    if z = '=' then
      if rest ≠ [] then none
      else if y = '=' then some [first]
      else
        let r ← value y
        some [first, UInt8.ofNat (q % 16 * 16 + r / 4)]
    else
      let r ← value y
      let s ← value z
      let bytes ← decodeQuanta rest
      some (first :: UInt8.ofNat (q % 16 * 16 + r / 4) :: UInt8.ofNat (r % 4 * 64 + s) :: bytes)
  | _ => none

def decode (text : List Char) : Option (List UInt8) :=
  decodeQuanta (text.filter fun c => c ≠ '\n' ∧ c ≠ '\r')

private lemma ofNat_eq {b : UInt8} (h : n = b.toNat) : UInt8.ofNat n = b := by
  rw [h, UInt8.ofNat_toNat]

theorem decodeQuanta_encode (bytes : List UInt8) : decodeQuanta (encode bytes) = some bytes := by
  induction bytes using encode.induct with
  | case1 => rfl
  | case2 a =>
    have ha := a.toNat_lt
    have h : UInt8.ofNat (a.toNat / 4 * 4 + a.toNat % 4 * 16 / 16) = a := ofNat_eq (by omega)
    simp only [encode, decodeQuanta, value_digit (show a.toNat / 4 < 64 by omega),
      value_digit (show a.toNat % 4 * 16 < 64 by omega), Option.bind_eq_bind, Option.bind_some,
      ne_eq, not_true, if_true, if_false, h]
  | case3 a b =>
    have ha := a.toNat_lt
    have hb := b.toNat_lt
    have hp : a.toNat / 4 < 64 := by omega
    have hq : a.toNat % 4 * 16 + b.toNat / 16 < 64 := by omega
    have hr : b.toNat % 16 * 4 < 64 := by omega
    have h₁ : UInt8.ofNat (a.toNat / 4 * 4 + (a.toNat % 4 * 16 + b.toNat / 16) / 16) = a :=
      ofNat_eq (by omega)
    have h₂ : UInt8.ofNat ((a.toNat % 4 * 16 + b.toNat / 16) % 16 * 16 + b.toNat % 16 * 4 / 4) = b :=
      ofNat_eq (by omega)
    simp only [encode, decodeQuanta, value_digit hp, value_digit hq, value_digit hr,
      digit_ne_pad hr, Option.bind_eq_bind, Option.bind_some, ne_eq, not_true, if_true, if_false,
      h₁, h₂]
  | case4 a b c rest ih =>
    have ha := a.toNat_lt
    have hb := b.toNat_lt
    have hc := c.toNat_lt
    have hp : a.toNat / 4 < 64 := by omega
    have hq : a.toNat % 4 * 16 + b.toNat / 16 < 64 := by omega
    have hr : b.toNat % 16 * 4 + c.toNat / 64 < 64 := by omega
    have hs : c.toNat % 64 < 64 := by omega
    have h₁ : UInt8.ofNat (a.toNat / 4 * 4 + (a.toNat % 4 * 16 + b.toNat / 16) / 16) = a :=
      ofNat_eq (by omega)
    have h₂ : UInt8.ofNat ((a.toNat % 4 * 16 + b.toNat / 16) % 16 * 16 +
        (b.toNat % 16 * 4 + c.toNat / 64) / 4) = b := ofNat_eq (by omega)
    have h₃ : UInt8.ofNat ((b.toNat % 16 * 4 + c.toNat / 64) % 4 * 64 + c.toNat % 64) = c :=
      ofNat_eq (by omega)
    simp only [encode, decodeQuanta, value_digit hp, value_digit hq, value_digit hr, value_digit hs,
      digit_ne_pad hs, Option.bind_eq_bind, Option.bind_some, if_false, h₁, h₂, h₃, ih]

lemma mem_encode {c : Char} {bytes : List UInt8} (h : c ∈ encode bytes) : c ∈ '=' :: alphabet := by
  have hdigit : ∀ n, n < 64 → digit n ∈ '=' :: alphabet :=
    fun n hn => List.mem_cons_of_mem _ (digit_mem hn)
  induction bytes using encode.induct with
  | case1 => cases h
  | case2 a =>
    have ha := a.toNat_lt
    simp only [encode, List.mem_cons, List.not_mem_nil, or_false] at h
    obtain rfl | rfl | rfl | rfl := h
    · exact hdigit _ (by omega)
    · exact hdigit _ (by omega)
    · exact List.mem_cons_self
    · exact List.mem_cons_self
  | case3 a b =>
    have ha := a.toNat_lt
    have hb := b.toNat_lt
    simp only [encode, List.mem_cons, List.not_mem_nil, or_false] at h
    obtain rfl | rfl | rfl | rfl := h
    · exact hdigit _ (by omega)
    · exact hdigit _ (by omega)
    · exact hdigit _ (by omega)
    · exact List.mem_cons_self
  | case4 a b c rest ih =>
    have ha := a.toNat_lt
    have hb := b.toNat_lt
    have hc := c.toNat_lt
    simp only [encode, List.mem_cons] at h
    obtain rfl | rfl | rfl | rfl | h := h
    · exact hdigit _ (by omega)
    · exact hdigit _ (by omega)
    · exact hdigit _ (by omega)
    · exact hdigit _ (by omega)
    · exact ih h

theorem decode_encode (bytes : List UInt8) : decode (encode bytes) = some bytes := by
  have hkeep : ('=' :: alphabet).all (fun c => c ≠ '\n' ∧ c ≠ '\r') = true := by decide +kernel
  have hfilter : (encode bytes).filter (fun c => c ≠ '\n' ∧ c ≠ '\r') = encode bytes :=
    List.filter_eq_self.2 fun c hc => List.all_eq_true.1 hkeep c (mem_encode hc)
  rw [decode, hfilter, decodeQuanta_encode]

lemma length_encode (bytes : List UInt8) :
    (encode bytes).length = 4 * ((bytes.length + 2) / 3) := by
  induction bytes using encode.induct with
  | case1 => rfl
  | case2 a => simp [encode]
  | case3 a b => simp [encode]
  | case4 a b c rest ih =>
    simp only [encode, List.length_cons, ih]
    omega

end Stablenode.Base64
