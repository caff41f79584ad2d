import Mathlib.Data.Int.Log
import Mathlib.Data.Rat.Floor
import Mathlib.Tactic.Linarith
import Mathlib.Tactic.Positivity

/-!
# Binary64 arithmetic on the finite range

A value is its exact rational. Each operation rounds the exact result to 53 significant
bits, ties to even, as IEEE 754 prescribes; overflow to infinity is outside this model.
-/

namespace Go

/-- The nearest integer, ties to the even one. -/
def roundHalfEven (q : ℚ) : ℤ :=
  let r := q - ⌊q⌋
  if r < 1 / 2 then ⌊q⌋
  else if 1 / 2 < r then ⌊q⌋ + 1
  else if ⌊q⌋ % 2 = 0 then ⌊q⌋ else ⌊q⌋ + 1

/-- The spacing of binary64 values around `q`. -/
def ulp (q : ℚ) : ℚ := 2 ^ max (Int.log 2 |q| - 52) (-1074)

def roundFloat64 (q : ℚ) : ℚ := roundHalfEven (q / ulp q) * ulp q

/-- A finite `float64`. -/
structure Float64 where
  val : ℚ
  deriving DecidableEq

namespace Float64

/-- The conversion `float64(n)` of a length. -/
def ofLen (n : ℕ) : Float64 := ⟨roundFloat64 n⟩

instance : Zero Float64 := ⟨⟨0⟩⟩
instance (n : ℕ) : OfNat Float64 (n + 2) := ⟨ofLen (n + 2)⟩
instance : Add Float64 := ⟨fun a b => ⟨roundFloat64 (a.val + b.val)⟩⟩
instance : Div Float64 := ⟨fun a b => ⟨roundFloat64 (a.val / b.val)⟩⟩
instance : Mul Float64 := ⟨fun a b => ⟨roundFloat64 (a.val * b.val)⟩⟩
instance : LT Float64 := ⟨fun a b => a.val < b.val⟩
instance : LE Float64 := ⟨fun a b => a.val ≤ b.val⟩
instance (a b : Float64) : Decidable (a < b) := inferInstanceAs (Decidable (a.val < b.val))
instance (a b : Float64) : Decidable (a ≤ b) := inferInstanceAs (Decidable (a.val ≤ b.val))

end Float64

lemma floor_le_roundHalfEven (q : ℚ) : ⌊q⌋ ≤ roundHalfEven q := by
  unfold roundHalfEven
  dsimp only
  split_ifs <;> omega

lemma roundHalfEven_zero : roundHalfEven 0 = 0 := by
  simp [roundHalfEven]

lemma ulp_pos (q : ℚ) : 0 < ulp q := zpow_pos (by norm_num) _

@[simp] lemma roundFloat64_zero : roundFloat64 0 = 0 := by
  simp [roundFloat64, roundHalfEven_zero]

/-- Rounding keeps a value of at least one positive. -/
lemma roundFloat64_pos {q : ℚ} (hq : 1 ≤ q) : 0 < roundFloat64 q := by
  have hpos : 0 < q := by linarith
  have habs : |q| = q := abs_of_pos hpos
  have hlog : 0 ≤ Int.log 2 q := by
    rw [Int.log_of_one_le_right 2 hq]
    positivity
  have hulp : ulp q = 2 ^ (Int.log 2 q - 52) := by
    unfold ulp
    rw [habs, max_eq_left (by omega)]
  have hle : (1 : ℚ) ≤ q / ulp q := by
    rw [le_div_iff₀ (ulp_pos q), one_mul, hulp]
    calc (2 : ℚ) ^ (Int.log 2 q - 52) ≤ 2 ^ Int.log 2 q :=
          zpow_le_zpow_right₀ (by norm_num) (by omega)
      _ ≤ q := by exact_mod_cast Int.zpow_log_le_self (b := 2) (by norm_num) hpos
  have hfloor : 1 ≤ ⌊q / ulp q⌋ := Int.le_floor.mpr (by exact_mod_cast hle)
  have hround : 0 < roundHalfEven (q / ulp q) := by
    have := floor_le_roundHalfEven (q / ulp q)
    omega
  exact mul_pos (by exact_mod_cast hround) (ulp_pos q)

lemma roundHalfEven_intCast (z : ℤ) : roundHalfEven z = z := by
  simp [roundHalfEven]

/-- Numbers of up to 53 bits are exact. -/
lemma roundFloat64_natCast {n : ℕ} (hn : n < 2 ^ 53) : roundFloat64 n = n := by
  obtain rfl | hpos := Nat.eq_zero_or_pos n
  · simp
  · have hlog : Nat.log 2 n ≤ 52 := Nat.lt_succ_iff.mp (Nat.log_lt_of_lt_pow hpos.ne' hn)
    have hulp : ulp n = ((2 : ℚ) ^ (52 - Nat.log 2 n))⁻¹ := by
      unfold ulp
      rw [Nat.abs_cast, Int.log_natCast, max_eq_left (by omega), ← zpow_natCast, ← zpow_neg]
      congr 1
      omega
    have hscaled : (n : ℚ) / ulp n = ((n * 2 ^ (52 - Nat.log 2 n) : ℕ) : ℤ) := by
      rw [hulp, div_inv_eq_mul]
      push_cast
      rfl
    unfold roundFloat64
    rw [hscaled, roundHalfEven_intCast, ← hscaled, div_mul_cancel₀ _ (ulp_pos _).ne']

namespace Float64

@[simp] lemma ofLen_zero : ofLen 0 = 0 := by
  show (⟨roundFloat64 ((0 : ℕ) : ℚ)⟩ : Float64) = ⟨0⟩
  simp

@[simp] lemma zero_div (a : Float64) : 0 / a = 0 := by
  show (⟨roundFloat64 (0 / a.val)⟩ : Float64) = ⟨0⟩
  simp

@[simp] lemma zero_mul (a : Float64) : 0 * a = 0 := by
  show (⟨roundFloat64 (0 * a.val)⟩ : Float64) = ⟨0⟩
  simp

lemma val_ofLen {n : ℕ} (hn : n < 2 ^ 53) : (ofLen n).val = n := roundFloat64_natCast hn

lemma ofLen_pos {n : ℕ} (hn : 0 < n) : 0 < ofLen n :=
  roundFloat64_pos (by exact_mod_cast hn)

end Float64

end Go
