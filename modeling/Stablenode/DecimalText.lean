import Stablenode.Decimal
import Stablenode.Text

/-! Reading back the printed form of a decimal. -/
namespace Stablenode

lemma splitText_append (separator : Char) (a b : String) :
    splitText separator (a ++ String.singleton separator ++ b) =
      splitText separator a ++ splitText separator b := by
  simp [splitText, List.splitOn_append_cons_self]

lemma splitText_eq_singleton {separator : Char} {a : String} (h : separator ∉ a.toList) :
    splitText separator a = [a] := by
  simp [splitText, List.splitOn_eq_singleton h]

namespace Decimal

def readDigits (digits : List Char) : Option ℕ :=
  if digits ≠ [] ∧ ∀ c ∈ digits, c.isDigit then some (Nat.ofDigitChars 10 digits 0) else none

def readUnsigned (text : List Char) : Option ℚ :=
  match text.splitOn '.' with
  | [whole] => (readDigits whole).map fun n : ℕ => (n : ℚ)
  | [whole, fraction] =>
    (readDigits (whole ++ fraction)).map fun n : ℕ => (n : ℚ) / 10 ^ fraction.length
  | _ => none

def ofString (text : String) : Option ℚ :=
  if text.toList.head? = some '-' then (readUnsigned text.toList.tail).map fun x => -x
  else readUnsigned text.toList

def paddedDigits (places m : ℕ) : List Char := (Nat.toDigits 10 (10 ^ places + m)).drop 1

lemma paddedDigits_succ (places m : ℕ) :
    paddedDigits (places + 1) m = paddedDigits places (m / 10) ++ [Nat.digitChar (m % 10)] := by
  have hsplit : 10 ^ (places + 1) + m = 10 * (10 ^ places + m / 10) + m % 10 := by
    rw [pow_succ]
    omega
  have hlast : m % 10 < 10 := Nat.mod_lt _ (by decide)
  rw [paddedDigits, hsplit, ← Nat.toDigits_append_toDigits (by decide) (by positivity) hlast,
    List.drop_append_of_le_length Nat.length_toDigits_pos, Nat.toDigits_of_lt_base hlast]
  rfl

variable {m : ℕ} {c : Char}

lemma length_paddedDigits {places : ℕ} (h : m < 10 ^ places) :
    (paddedDigits places m).length = places := by
  induction places generalizing m with
  | zero =>
    obtain rfl : m = 0 := by simpa using h
    rfl
  | succ places ih =>
    rw [paddedDigits_succ, List.length_append, ih (by rw [pow_succ] at h; omega)]
    rfl

lemma ofDigitChars_paddedDigits {places : ℕ} (h : m < 10 ^ places) :
    Nat.ofDigitChars 10 (paddedDigits places m) 0 = m := by
  induction places generalizing m with
  | zero =>
    obtain rfl : m = 0 := by simpa using h
    rfl
  | succ places ih =>
    have hlast : m % 10 < 10 := Nat.mod_lt _ (by decide)
    rw [paddedDigits_succ, Nat.ofDigitChars_append, ih (by rw [pow_succ] at h; omega),
      Nat.ofDigitChars_cons_digitChar_of_lt_ten hlast, Nat.ofDigitChars_nil]
    omega

lemma isDigit_of_mem_paddedDigits {places : ℕ} (h : c ∈ paddedDigits places m) : c.isDigit :=
  Nat.isDigit_of_mem_toDigits (by decide) (by decide) (List.mem_of_mem_drop h)

lemma toList_toString (x : ℚ) : (toString x).toList =
    (if x < 0 then ['-'] else []) ++
      (Nat.toDigits 10 ((x * 10 ^ places x).num.natAbs / 10 ^ places x) ++
        if places x = 0 then []
        else '.' :: paddedDigits (places x) ((x * 10 ^ places x).num.natAbs % 10 ^ places x)) := by
  simp only [toString, paddedDigits, String.toList_append]
  split_ifs <;> simp

lemma not_mem_of_forall_isDigit {digits : List Char} (hdigits : ∀ d ∈ digits, d.isDigit)
    (hc : c.isDigit = false) : c ∉ digits := fun h => by
  rw [hdigits c h] at hc
  cases hc

lemma isDigit_of_mem_toDigits {n : ℕ} : ∀ c ∈ Nat.toDigits 10 n, c.isDigit := fun _ =>
  Nat.isDigit_of_mem_toDigits (by decide) (by decide)

lemma readUnsigned_digits (n k : ℕ) :
    readUnsigned (Nat.toDigits 10 (n / 10 ^ k) ++
      if k = 0 then [] else '.' :: paddedDigits k (n % 10 ^ k)) = some ((n : ℚ) / 10 ^ k) := by
  have hwhole : '.' ∉ Nat.toDigits 10 (n / 10 ^ k) :=
    not_mem_of_forall_isDigit isDigit_of_mem_toDigits (by decide)
  split
  next hk =>
    subst hk
    rw [pow_zero, Nat.div_one] at hwhole
    have hread : readDigits (Nat.toDigits 10 n) = some n := by
      rw [readDigits, if_pos ⟨Nat.toDigits_ne_nil, isDigit_of_mem_toDigits⟩,
        Nat.ofDigitChars_ten_toDigits]
    simp only [List.append_nil, readUnsigned, pow_zero, Nat.div_one, div_one,
      List.splitOn_eq_singleton hwhole, hread, Option.map_some]
  next =>
    have hlt : n % 10 ^ k < 10 ^ k := Nat.mod_lt _ (by positivity)
    have hfraction : '.' ∉ paddedDigits k (n % 10 ^ k) :=
      not_mem_of_forall_isDigit (fun _ => isDigit_of_mem_paddedDigits) (by decide)
    have hread : readDigits (Nat.toDigits 10 (n / 10 ^ k) ++ paddedDigits k (n % 10 ^ k)) =
        some n := by
      rw [readDigits, if_pos, Nat.ofDigitChars_append, Nat.ofDigitChars_ten_toDigits,
        Nat.ofDigitChars_eq_ofDigitChars_zero, length_paddedDigits hlt,
        ofDigitChars_paddedDigits hlt, Nat.div_add_mod]
      refine ⟨by simp [Nat.toDigits_ne_nil], fun c hc => ?_⟩
      rcases List.mem_append.1 hc with hc | hc
      · exact isDigit_of_mem_toDigits c hc
      · exact isDigit_of_mem_paddedDigits hc
    rw [readUnsigned, List.splitOn_append_cons_self_of_not_mem hwhole,
      List.splitOn_eq_singleton hfraction]
    simp [hread, length_paddedDigits hlt]

theorem ofString_toString {x : ℚ} (h : Terminates x) : ofString (toString x) = some x := by
  obtain ⟨z, hz⟩ := h.exists_int
  have hpow : (0 : ℚ) < 10 ^ places x := by positivity
  have hnum : (x * 10 ^ places x).num = z := by rw [hz, Rat.num_intCast]
  have hread := readUnsigned_digits z.natAbs (places x)
  rw [ofString, toList_toString, hnum]
  by_cases hneg : x < 0
  · have hzneg : z < 0 := by
      have : (z : ℚ) < 0 := hz ▸ mul_neg_of_neg_of_pos hneg hpow
      exact_mod_cast this
    have habs : ((z.natAbs : ℕ) : ℚ) = -(x * 10 ^ places x) := by
      rw [hz, Nat.cast_natAbs, abs_of_neg hzneg]
      push_cast
      rfl
    rw [if_pos hneg, List.singleton_append, if_pos (List.head?_cons ..), List.tail_cons, hread,
      habs, Option.map_some, neg_div, neg_neg, mul_div_cancel_right₀ _ hpow.ne']
  · have hznonneg : 0 ≤ z := by
      have : (0 : ℚ) ≤ z := hz ▸ mul_nonneg (not_lt.1 hneg) hpow.le
      exact_mod_cast this
    have habs : ((z.natAbs : ℕ) : ℚ) = x * 10 ^ places x := by
      rw [hz, Nat.cast_natAbs, abs_of_nonneg hznonneg]
    rw [if_neg hneg, List.nil_append, if_neg, hread, habs, mul_div_cancel_right₀ _ hpow.ne']
    -- the first character is a digit
    obtain ⟨c, cs, hdigits⟩ := List.exists_cons_of_ne_nil
      (Nat.toDigits_ne_nil (n := z.natAbs / 10 ^ places x) (b := 10))
    have hc : c.isDigit := isDigit_of_mem_toDigits c (hdigits ▸ List.mem_cons_self)
    rw [hdigits, List.cons_append, List.head?_cons]
    rintro ⟨⟩
    exact absurd hc (by decide)

lemma not_mem_toString (hdigit : c.isDigit = false) (hsign : c ≠ '-') (hpoint : c ≠ '.') (x : ℚ) :
    c ∉ (toString x).toList := by
  have hwhole : ∀ n, c ∉ Nat.toDigits 10 n := fun _ =>
    not_mem_of_forall_isDigit isDigit_of_mem_toDigits hdigit
  have hfraction : ∀ k m, c ∉ paddedDigits k m := fun _ _ =>
    not_mem_of_forall_isDigit (fun _ => isDigit_of_mem_paddedDigits) hdigit
  rw [toList_toString]
  split_ifs <;> simp [hwhole, hfraction, hsign, hpoint]

end Decimal

end Stablenode
