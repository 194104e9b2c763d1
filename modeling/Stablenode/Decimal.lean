import Mathlib

/-! Exact decimal arithmetic over the rationals: rounding, division and the printed form. -/
namespace Stablenode.Decimal

def roundInt (x : ℚ) : ℤ :=
  if x < 0 then -⌊-x + 1 / 2⌋ else ⌊x + 1 / 2⌋

def round (x : ℚ) (places : ℕ) : ℚ :=
  roundInt (x * 10 ^ places) / 10 ^ places

def roundBank (x : ℚ) (places : ℕ) : ℚ :=
  let r := roundInt (x * 10 ^ places)
  if |x * 10 ^ places - r| = 1 / 2 ∧ r % 2 ≠ 0 then
    ((if r < 0 then r + 1 else r - 1 : ℤ) : ℚ) / 10 ^ places
  else
    r / 10 ^ places

def div (x y : ℚ) : ℚ :=
  round (x / y) 16

def float64 (x : ℚ) : ℚ :=
  let ulp : ℚ := 2 ^ max (Int.log 2 |x| - 52) (-1074)
  roundBank (x / ulp) 0 * ulp

private def placesFrom (den : ℕ) : ℕ → ℕ → ℕ
  | 0, k => k
  | fuel + 1, k => if 10 ^ k % den = 0 then k else placesFrom den fuel (k + 1)

def places (x : ℚ) : ℕ :=
  placesFrom x.den x.den 0

def toString (x : ℚ) : String :=
  let k := places x
  let digits := (x * 10 ^ k).num.natAbs
  let fraction := (Nat.repr (10 ^ k + digits % 10 ^ k)).drop 1
  (if x < 0 then "-" else "") ++ Nat.repr (digits / 10 ^ k) ++
    (if k = 0 then "" else "." ++ fraction)

lemma roundInt_intCast (z : ℤ) : roundInt z = z := by
  rw [roundInt]
  split_ifs
  · have hfloor : ⌊-(z : ℚ) + 1 / 2⌋ = -z := by
      rw [Int.floor_eq_iff]
      constructor <;> push_cast <;> linarith
    omega
  · rw [Int.floor_eq_iff]
    constructor <;> linarith

variable {x y : ℚ}

lemma roundInt_mono (h : x ≤ y) : roundInt x ≤ roundInt y := by
  unfold roundInt
  split_ifs with hx hy hy
  · exact neg_le_neg (Int.floor_le_floor (by linarith))
  · have hleft : 0 ≤ ⌊-x + 1 / 2⌋ := Int.floor_nonneg.2 (by linarith)
    have hright : 0 ≤ ⌊y + 1 / 2⌋ := Int.floor_nonneg.2 (by linarith)
    omega
  · linarith
  · exact Int.floor_le_floor (by linarith)

lemma abs_roundInt_sub_le (x : ℚ) : |roundInt x - x| ≤ 1 / 2 := by
  have hneg := Int.floor_le (-x + 1 / 2)
  have hneg' := Int.lt_floor_add_one (-x + 1 / 2)
  have hpos := Int.floor_le (x + 1 / 2)
  have hpos' := Int.lt_floor_add_one (x + 1 / 2)
  rw [roundInt, abs_le]
  split_ifs <;> push_cast <;> constructor <;> linarith

lemma round_mono (places : ℕ) (h : x ≤ y) : round x places ≤ round y places := by
  have hscaled : roundInt (x * 10 ^ places) ≤ roundInt (y * 10 ^ places) :=
    roundInt_mono (mul_le_mul_of_nonneg_right h (by positivity))
  exact div_le_div_of_nonneg_right (by exact_mod_cast hscaled) (by positivity)

lemma abs_round_sub_le (x : ℚ) (places : ℕ) : |round x places - x| ≤ 1 / 2 / 10 ^ places := by
  have hpow : (0 : ℚ) < 10 ^ places := by positivity
  have hscaled := abs_roundInt_sub_le (x * 10 ^ places)
  rwa [le_div_iff₀ hpow, ← abs_of_pos hpow, ← abs_mul, sub_mul, round,
    div_mul_cancel₀ _ hpow.ne']

lemma div_mono {z : ℚ} (hz : 0 ≤ z) (h : x ≤ y) : div x z ≤ div y z :=
  round_mono 16 (div_le_div_of_nonneg_right h hz)

private lemma dvd_pow_placesFrom {den : ℕ} :
    ∀ fuel k : ℕ, den ∣ 10 ^ (k + fuel) → den ∣ 10 ^ placesFrom den fuel k
  | 0, _, h => h
  | fuel + 1, k, h => by
    rw [placesFrom]
    split
    next hmod => exact Nat.dvd_of_mod_eq_zero hmod
    · exact dvd_pow_placesFrom fuel (k + 1) (by rwa [Nat.add_right_comm, Nat.add_assoc])

private lemma dvd_pow_self {n k : ℕ} (h : n ∣ 10 ^ k) : n ∣ 10 ^ n := by
  have hn : n ≠ 0 := ne_zero_of_dvd_ne_zero (by positivity) h
  rw [← Nat.factorization_prime_le_iff_dvd hn (by positivity)]
  intro p hp
  rw [Nat.factorization_pow, Finsupp.smul_apply, smul_eq_mul]
  by_cases hdvd : p ∣ n
  · have hten : 0 < Nat.factorization 10 p :=
      hp.factorization_pos_of_dvd (by decide) (hp.dvd_of_dvd_pow (hdvd.trans h))
    exact (Nat.factorization_lt p hn).le.trans (Nat.le_mul_of_pos_right n hten)
  · rw [Nat.factorization_eq_zero_of_not_dvd hdvd]
    exact Nat.zero_le _

def Terminates (x : ℚ) : Prop := ∃ k : ℕ, ∃ z : ℤ, x * 10 ^ k = z

lemma Terminates.exists_int (h : Terminates x) : ∃ z : ℤ, x * 10 ^ places x = z := by
  obtain ⟨k, z, hz⟩ := h
  have hpow : (10 : ℚ) ^ k ≠ 0 := by positivity
  have hden : x.den ∣ 10 ^ k := by
    have hx : x = Rat.divInt z ((10 ^ k : ℕ) : ℤ) := by
      rw [Rat.divInt_eq_div, eq_div_iff (by exact_mod_cast hpow), ← hz]
      push_cast
      rfl
    have hdvd := Rat.den_dvd z ((10 ^ k : ℕ) : ℤ)
    rw [← hx] at hdvd
    exact_mod_cast hdvd
  obtain ⟨m, hm⟩ : x.den ∣ 10 ^ places x :=
    dvd_pow_placesFrom x.den 0 (by simpa using dvd_pow_self hden)
  refine ⟨x.num * m, ?_⟩
  have hcast : (10 : ℚ) ^ places x = x.den * m := by exact_mod_cast hm
  rw [hcast, ← mul_assoc, Rat.mul_den_eq_num]
  push_cast
  rfl

lemma terminates_roundBank (x : ℚ) (places : ℕ) : Terminates (roundBank x places) := by
  have hpow : (10 : ℚ) ^ places ≠ 0 := by positivity
  refine ⟨places, ?_⟩
  simp only [roundBank]
  split_ifs <;> exact ⟨_, div_mul_cancel₀ _ hpow⟩

lemma roundBank_eq_self_iff {places : ℕ} :
    roundBank x places = x ↔ ∃ z : ℤ, x * 10 ^ places = z := by
  have hpow : (10 : ℚ) ^ places ≠ 0 := by positivity
  constructor
  · intro h
    simp only [roundBank] at h
    split_ifs at h <;> exact ⟨_, ((div_eq_iff hpow).1 h).symm⟩
  · rintro ⟨z, hz⟩
    have hround : roundInt (x * 10 ^ places) = z := by rw [hz, roundInt_intCast]
    rw [roundBank, hround, hz, sub_self, abs_zero, if_neg (by norm_num), ← hz,
      mul_div_cancel_right₀ _ hpow]

lemma round_eq_self_iff {places : ℕ} : round x places = x ↔ ∃ z : ℤ, x * 10 ^ places = z := by
  have hpow : (10 : ℚ) ^ places ≠ 0 := by positivity
  constructor
  · intro h
    refine ⟨roundInt (x * 10 ^ places), ?_⟩
    rw [round, div_eq_iff hpow] at h
    exact h.symm
  · rintro ⟨z, hz⟩
    rw [round, hz, roundInt_intCast, ← hz, mul_div_cancel_right₀ _ hpow]

lemma div_pow_eq_iff (v decimals : ℕ) :
    div v (10 ^ decimals) = v / 10 ^ decimals ↔ 10 ^ decimals ∣ v * 10 ^ 16 := by
  have hpow : (10 : ℚ) ^ decimals ≠ 0 := by positivity
  rw [div, round_eq_self_iff]
  constructor
  · rintro ⟨z, hz⟩
    rw [div_mul_eq_mul_div, div_eq_iff hpow] at hz
    have hint : ((v * 10 ^ 16 : ℕ) : ℤ) = z * (10 ^ decimals : ℕ) := by
      exact_mod_cast hz
    rw [← Int.natCast_dvd_natCast]
    exact ⟨z, by rw [hint, mul_comm]⟩
  · rintro ⟨k, hk⟩
    refine ⟨k, ?_⟩
    rw [div_mul_eq_mul_div, div_eq_iff hpow]
    have hcast : ((v * 10 ^ 16 : ℕ) : ℚ) = ((10 ^ decimals * k : ℕ) : ℚ) := by rw [hk]
    push_cast at hcast ⊢
    linarith

lemma roundBank_intCast (z : ℤ) : roundBank z 0 = z := by
  simp [roundBank, roundInt_intCast]

lemma float64_natCast {n : ℕ} (h : n < 2 ^ 53) : float64 n = n := by
  have hlog : Nat.log 2 n ≤ 52 := by
    rcases Nat.eq_zero_or_pos n with rfl | hpos
    · simp
    · exact Nat.lt_succ_iff.1 (Nat.log_lt_of_lt_pow hpos.ne' h)
  have hexp : max (Int.log 2 |(n : ℚ)| - 52) (-1074) = -((52 - Nat.log 2 n : ℕ) : ℤ) := by
    rw [Nat.abs_cast, Int.log_natCast, max_eq_left (by omega)]
    omega
  have hint : (n : ℚ) / 2 ^ (-((52 - Nat.log 2 n : ℕ) : ℤ)) =
      ((n * 2 ^ (52 - Nat.log 2 n) : ℕ) : ℤ) := by
    rw [zpow_neg, zpow_natCast, div_inv_eq_mul]
    push_cast
    rfl
  have hpow : (2 : ℚ) ^ (-((52 - Nat.log 2 n : ℕ) : ℤ)) ≠ 0 := by positivity
  simp only [float64, hexp]
  rw [hint, roundBank_intCast, ← hint, div_mul_cancel₀ _ hpow]

end Stablenode.Decimal
