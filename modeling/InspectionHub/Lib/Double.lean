import Mathlib

/-!
# Double precision

The numbers of the language: an exact result is rounded to the nearest double,
a tie to the even one. Results that overflow are not represented.

Rounding keeps the order and leaves integers alone.
-/

namespace InspectionHub.Double

/-! ## To integers -/

/-- The nearest integer, of two the even one. -/
def roundEven (q : ℚ) : ℤ :=
  if 1 / 2 < q - ⌊q⌋ ∨ (q - ⌊q⌋ = 1 / 2 ∧ ⌊q⌋ % 2 = 1) then ⌊q⌋ + 1 else ⌊q⌋

theorem roundEven_le (q : ℚ) : roundEven q ≤ ⌊q⌋ + 1 := by
  unfold roundEven
  split <;> omega

theorem floor_le_roundEven (q : ℚ) : ⌊q⌋ ≤ roundEven q := by
  unfold roundEven
  split <;> omega

variable {q r : ℚ}

theorem roundEven_mono (h : q ≤ r) : roundEven q ≤ roundEven r := by
  rcases (Int.floor_mono h).lt_or_eq with hlt | heq
  · have hq := roundEven_le q
    have hr := floor_le_roundEven r
    omega
  · unfold roundEven
    rw [heq]
    by_cases hr : 1 / 2 < r - ⌊r⌋ ∨ (r - ⌊r⌋ = 1 / 2 ∧ ⌊r⌋ % 2 = 1)
    · rw [if_pos hr]
      split <;> omega
    · rw [if_neg hr, if_neg]
      rintro (hq | ⟨hq, hodd⟩)
      · exact hr (.inl (by linarith))
      · rcases h.lt_or_eq with hlt | rfl
        · exact hr (.inl (by linarith))
        · exact hr (.inr ⟨hq, hodd⟩)

theorem roundEven_intCast (n : ℤ) : roundEven n = n := by
  unfold roundEven
  rw [Int.floor_intCast, if_neg]
  rintro (h | ⟨h, -⟩) <;> norm_num at h

/-! ## To doubles -/

/-- The exponent of the unit in the last place of a positive number. -/
def unitExponent (q : ℚ) : ℤ := max (Int.log 2 q - 52) (-1074)

/-- The nearest multiple of a power of two. -/
def roundAt (e : ℤ) (q : ℚ) : ℚ := roundEven (q / 2 ^ e) * 2 ^ e

/-- The nearest double. -/
def double (q : ℚ) : ℚ :=
  if q < 0 then -roundAt (unitExponent (-q)) (-q) else roundAt (unitExponent q) q

theorem unit_pos (e : ℤ) : (0 : ℚ) < 2 ^ e := zpow_pos (by norm_num) e

theorem roundAt_mono (e : ℤ) (h : q ≤ r) : roundAt e q ≤ roundAt e r := by
  have hunit := unit_pos e
  unfold roundAt
  have hrounded : roundEven (q / 2 ^ e) ≤ roundEven (r / 2 ^ e) :=
    roundEven_mono (by gcongr)
  gcongr

/-- A multiple of the unit stays. -/
theorem roundAt_multiple {e n : ℤ} {q : ℚ} (h : q = n * 2 ^ e) : roundAt e q = q := by
  unfold roundAt
  rw [h, mul_div_cancel_right₀ _ (unit_pos e).ne', roundEven_intCast]

theorem roundAt_zero (e : ℤ) : roundAt e 0 = 0 :=
  roundAt_multiple (by rw [Int.cast_zero, zero_mul] : (0 : ℚ) = ((0 : ℤ) : ℚ) * 2 ^ e)

theorem roundAt_zpow {e k : ℤ} (h : e ≤ k) : roundAt e (2 ^ k) = 2 ^ k := by
  have hsplit : (2 : ℚ) ^ k = ((2 ^ (k - e).toNat : ℤ) : ℚ) * 2 ^ e := by
    have hpow : (2 : ℚ) ^ (k - e).toNat = 2 ^ (k - e) := by
      rw [← zpow_natCast, Int.toNat_of_nonneg (by omega)]
    push_cast
    rw [hpow, ← zpow_add₀ (by norm_num), sub_add_cancel]
  exact roundAt_multiple hsplit

/-- The unit of a number does not exceed that of a greater one. -/
theorem unitExponent_mono (hq : 0 < q) (h : q ≤ r) : unitExponent q ≤ unitExponent r :=
  max_le_max_right _ (Int.sub_le_sub_right (Int.log_mono_right hq h) 52)

/-- Between numbers of different units lies a power of two, which is a double. -/
theorem exists_between (hq : 0 < q) (hr : 0 < r) (h : unitExponent q < unitExponent r) :
    ∃ k : ℤ, q ≤ 2 ^ k ∧ (2 : ℚ) ^ k ≤ r ∧ unitExponent q ≤ k ∧ unitExponent r ≤ k := by
  refine ⟨Int.log 2 r, ?_, Int.zpow_log_le_self (by norm_num) hr, ?_, ?_⟩
  · have hlog : Int.log 2 q + 1 ≤ Int.log 2 r := by
      unfold unitExponent at h
      omega
    calc q ≤ 2 ^ (Int.log 2 q + 1) := (Int.lt_zpow_succ_log_self (by norm_num) q).le
      _ ≤ 2 ^ Int.log 2 r := zpow_le_zpow_right₀ (by norm_num) hlog
  · unfold unitExponent at h ⊢
    omega
  · unfold unitExponent at h ⊢
    omega

theorem roundPos_nonneg {q : ℚ} (h : 0 ≤ q) : 0 ≤ roundAt (unitExponent q) q := by
  calc 0 = roundAt (unitExponent q) 0 := (roundAt_zero _).symm
    _ ≤ roundAt (unitExponent q) q := roundAt_mono _ h

theorem roundPos_mono (hq : 0 ≤ q) (h : q ≤ r) :
    roundAt (unitExponent q) q ≤ roundAt (unitExponent r) r := by
  rcases hq.eq_or_lt with rfl | hq
  · rw [roundAt_zero]
    exact roundPos_nonneg h
  · rcases (unitExponent_mono hq h).lt_or_eq with hlt | heq
    · obtain ⟨k, hqk, hkr, hunit, hunit'⟩ := exists_between hq (hq.trans_le h) hlt
      calc roundAt (unitExponent q) q ≤ roundAt (unitExponent q) (2 ^ k) := roundAt_mono _ hqk
        _ = roundAt (unitExponent r) (2 ^ k) := by rw [roundAt_zpow hunit, roundAt_zpow hunit']
        _ ≤ roundAt (unitExponent r) r := roundAt_mono _ hkr
    · rw [heq]
      exact roundAt_mono _ h

/-- **Order.** Rounding keeps it. -/
theorem double_mono (h : q ≤ r) : double q ≤ double r := by
  unfold double
  by_cases hq : q < 0
  · rw [if_pos hq]
    by_cases hr : r < 0
    · rw [if_pos hr]
      exact neg_le_neg (roundPos_mono (by linarith) (neg_le_neg h))
    · rw [if_neg hr]
      have hnegative := roundPos_nonneg (neg_nonneg.mpr hq.le)
      have hpositive := roundPos_nonneg (not_lt.mp hr)
      linarith
  · rw [if_neg hq, if_neg (by linarith)]
    exact roundPos_mono (not_lt.mp hq) h

theorem double_of_nonneg {q : ℚ} (h : 0 ≤ q) : double q = roundAt (unitExponent q) q :=
  if_neg (not_lt.mpr h)

/-- **Integers.** Below 2^53 they are doubles. -/
theorem double_natCast {n : ℕ} (h : n < 2 ^ 53) : double n = n := by
  rw [double_of_nonneg (Nat.cast_nonneg n)]
  -- the unit is at most 1
  have hunit : unitExponent (n : ℚ) ≤ 0 := by
    have hlog : Int.log 2 (n : ℚ) < 53 := by
      rw [Int.log_natCast]
      have hnat : Nat.log 2 n < 53 := Nat.log_lt_of_lt_pow' (by norm_num) h
      exact_mod_cast hnat
    unfold unitExponent
    omega
  have hsplit : (n : ℚ) = ((n * 2 ^ (-unitExponent (n : ℚ)).toNat : ℤ) : ℚ) *
      2 ^ unitExponent (n : ℚ) := by
    have hpow : (2 : ℚ) ^ (-unitExponent (n : ℚ)).toNat = 2 ^ (-unitExponent (n : ℚ)) := by
      rw [← zpow_natCast, Int.toNat_of_nonneg (by omega)]
    push_cast
    rw [hpow, mul_assoc, ← zpow_add₀ (by norm_num), neg_add_cancel, zpow_zero, mul_one]
  exact roundAt_multiple hsplit

end InspectionHub.Double
