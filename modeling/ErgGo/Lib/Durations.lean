import ErgGo.Lib.Float64

/-!
# Durations in seconds

A duration counts nanoseconds. As a number of seconds it is the rounded sum of two floats; below a
minute the sum does not reach the next second, so cutting it off counts the whole seconds.
-/
namespace Go

lemma abs_roundHalfEven_sub_le (q : ℚ) : |(roundHalfEven q : ℚ) - q| ≤ 1 / 2 := by
  have hfloor := Int.floor_le q
  have hceil := Int.lt_floor_add_one q
  unfold roundHalfEven
  dsimp only
  rw [abs_le]
  split_ifs <;> push_cast <;> constructor <;> linarith

/-- Rounding moves a value by half a spacing at most. -/
lemma abs_roundFloat64_sub_le (q : ℚ) : |roundFloat64 q - q| ≤ ulp q / 2 := by
  have hulp := ulp_pos q
  have hsub : roundFloat64 q - q = ((roundHalfEven (q / ulp q) : ℚ) - q / ulp q) * ulp q := by
    rw [roundFloat64, sub_mul, div_mul_cancel₀ q hulp.ne']
  rw [hsub, abs_mul, abs_of_pos hulp]
  have hhalf := mul_le_mul_of_nonneg_right (abs_roundHalfEven_sub_le (q / ulp q)) hulp.le
  linarith

lemma ulp_le {q : ℚ} {k : ℕ} (hk : 0 < k) (hq : |q| < 2 ^ k) : ulp q ≤ 2 ^ ((k : ℤ) - 53) := by
  have hlog : Int.log 2 |q| ≤ k - 1 := by
    by_cases hzero : q = 0
    · rw [hzero, abs_zero, Int.log_zero_right]
      omega
    · have hlt := (Int.lt_zpow_iff_log_lt (b := 2) (by norm_num) (abs_pos.mpr hzero) (x := k)).mp (by exact_mod_cast hq)
      omega
  unfold ulp
  exact zpow_le_zpow_right₀ (by norm_num) (by omega)

def second : ℕ := 1000000000

/-- `time.Duration.Seconds`. -/
def durationSeconds (d : ℕ) : Float64 := .ofLen (d / second) + .ofLen (d % second) / .ofLen second

/-- `int` of a duration in seconds, which cuts off towards zero. -/
def wholeSeconds (d : ℕ) : ℤ := ⌊(durationSeconds d).val⌋

lemma ulp_le_of_small {q : ℚ} (hq : |q| < 2 ^ 6) : ulp q ≤ 2 ^ (-47 : ℤ) := by
  have h := ulp_le (k := 6) (by decide) (by exact_mod_cast hq)
  exact h

/-- Up to a minute the two roundings are too small to carry into the seconds. -/
lemma wholeSeconds_eq {d : ℕ} (hd : d ≤ 60 * second) : wholeSeconds d = (d / second : ℕ) := by
  have hsec : d / second ≤ 60 := Nat.div_le_of_le_mul (by rwa [Nat.mul_comm])
  have hnsec : d % second < second := Nat.mod_lt d (by decide)
  unfold wholeSeconds
  generalize hs : d / second = sec at hsec ⊢
  generalize hns : d % second = nsec at hnsec
  have hquotient : (durationSeconds d).val = roundFloat64 (sec + roundFloat64 (nsec / 1000000000)) := by
    unfold durationSeconds
    rw [hs, hns]
    change roundFloat64 ((Float64.ofLen sec).val +
      roundFloat64 ((Float64.ofLen nsec).val / (Float64.ofLen second).val)) = _
    have hparts : nsec < 2 ^ 53 := hnsec.trans (by decide)
    rw [Float64.val_ofLen (by omega), Float64.val_ofLen hparts, Float64.val_ofLen (by decide)]
    norm_num [second]
  rw [hquotient]
  have hsec' : (sec : ℚ) ≤ 60 := by exact_mod_cast hsec
  have hsec0 : (0 : ℚ) ≤ sec := Nat.cast_nonneg _
  obtain rfl | hpos := Nat.eq_zero_or_pos nsec
  · rw [Nat.cast_zero, zero_div, roundFloat64_zero, add_zero, roundFloat64_natCast (by omega), Int.floor_natCast]
  have hlow : (1 : ℚ) / 1000000000 ≤ nsec / 1000000000 := by
    have h : (1 : ℚ) ≤ nsec := by exact_mod_cast hpos
    linarith
  have hhigh : (nsec : ℚ) / 1000000000 ≤ 1 - 1 / 1000000000 := by
    have h : (nsec : ℚ) ≤ 999999999 := by
      unfold second at hnsec
      exact_mod_cast Nat.le_of_lt_succ hnsec
    linarith
  generalize (nsec : ℚ) / 1000000000 = part at hlow hhigh
  have hpart := abs_le.mp ((abs_roundFloat64_sub_le part).trans
    (div_le_div_of_nonneg_right (ulp_le_of_small (abs_lt.mpr ⟨by linarith, by linarith⟩)) (by norm_num)))
  generalize roundFloat64 part = fraction at hpart
  have htiny : (2 : ℚ) ^ (-47 : ℤ) / 2 < 1 / 4000000000 := by norm_num
  have hsum := abs_le.mp ((abs_roundFloat64_sub_le (sec + fraction)).trans
    (div_le_div_of_nonneg_right (ulp_le_of_small (abs_lt.mpr ⟨by linarith, by linarith⟩)) (by norm_num)))
  rw [Int.floor_eq_iff, Int.cast_natCast]
  constructor <;> linarith

end Go
