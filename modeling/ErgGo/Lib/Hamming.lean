import Mathlib.Data.Nat.Bits
import Mathlib.Data.Nat.Bitwise
import Mathlib.InformationTheory.Hamming

/-!
# Counting the bits of a machine word

Clearing the lowest set bit of a word until none is left takes as many steps as the word has
set bits. On the exclusive or of two words that is their Hamming distance.
-/

namespace Hamming

/-- Subtracting one flips the lowest set bit and the bits below it. -/
lemma exists_lowest_bit {x : ℕ} (hx : x ≠ 0) :
    ∃ i, x.testBit i = true ∧ ∀ j, (x &&& (x - 1)).testBit j = (x.testBit j && decide (j ≠ i)) := by
  induction x using Nat.strongRecOn with
  | ind x ih =>
    rcases Nat.even_or_odd' x with ⟨m, rfl | rfl⟩
    · have hm : m ≠ 0 := by omega
      obtain ⟨i, hi, hcleared⟩ := ih m (by omega) hm
      refine ⟨i + 1, ?_, fun j => ?_⟩
      · rwa [Nat.testBit_succ, Nat.mul_div_cancel_left m two_pos]
      · rcases j with - | j
        · simp
        · have hhalf : (2 * m - 1) / 2 = m - 1 := by omega
          have := hcleared j
          rw [Nat.testBit_and] at this ⊢
          rw [Nat.testBit_succ, Nat.testBit_succ, Nat.mul_div_cancel_left m two_pos, hhalf, this]
          simp
    · refine ⟨0, by simp, fun j => ?_⟩
      rcases j with - | j
      · simp
      · rw [Nat.testBit_and, Nat.testBit_succ, Nat.testBit_succ]
        have hodd : (2 * m + 1) / 2 = m := by omega
        have heven : (2 * m + 1 - 1) / 2 = m := by omega
        rw [hodd, heven]
        simp

def bits (x : UInt64) (i : Fin 64) : Bool := x.toNat.testBit i

def setBits (x : UInt64) : Finset (Fin 64) := Finset.univ.filter (fun i => bits x i = true)

lemma mem_setBits {x : UInt64} {i : Fin 64} : i ∈ setBits x ↔ x.toNat.testBit i = true := by
  rw [setBits, Finset.mem_filter, bits]
  exact and_iff_right (Finset.mem_univ i)

lemma testBit_of_le {x : UInt64} {i : ℕ} (hi : 64 ≤ i) : x.toNat.testBit i = false :=
  Nat.testBit_lt_two_pow (x.toNat_lt.trans_le (Nat.pow_le_pow_right two_pos hi))

lemma bits_injective : Function.Injective bits := by
  intro a b h
  refine UInt64.toNat_inj.mp (Nat.eq_of_testBit_eq fun i => ?_)
  by_cases hi : i < 64
  · exact congrFun h ⟨i, hi⟩
  · rw [testBit_of_le (not_lt.mp hi), testBit_of_le (not_lt.mp hi)]

lemma toNat_sub_one {x : UInt64} (hx : x ≠ 0) : (x - 1).toNat = x.toNat - 1 := by
  have hone : (1 : UInt64) ≤ x := by
    rw [UInt64.le_iff_toNat_le]
    have : x.toNat ≠ 0 := fun h => hx (UInt64.toNat_inj.mp h)
    change 1 ≤ x.toNat
    omega
  exact UInt64.toNat_sub_of_le _ _ hone

lemma setBits_zero : setBits 0 = ∅ := by
  ext i
  simp [mem_setBits]

/-- One step of the count. -/
lemma card_setBits_clear {x : UInt64} (hx : x ≠ 0) : (setBits (x &&& (x - 1))).card + 1 = (setBits x).card := by
  have hx' : x.toNat ≠ 0 := fun h => hx (UInt64.toNat_inj.mp h)
  obtain ⟨i, hi, hcleared⟩ := exists_lowest_bit hx'
  have hlt : i < 64 := by
    by_contra hge
    rw [testBit_of_le (by omega)] at hi
    exact absurd hi (by simp)
  have herase : setBits (x &&& (x - 1)) = (setBits x).erase ⟨i, hlt⟩ := by
    ext j
    rw [Finset.mem_erase, mem_setBits, mem_setBits, UInt64.toNat_and, toNat_sub_one hx, hcleared, Bool.and_eq_true,
      decide_eq_true_eq, ne_eq, ne_eq, Fin.ext_iff, and_comm]
  rw [herase]
  exact Finset.card_erase_add_one (mem_setBits.mpr hi)

lemma toNat_clear_lt {x : UInt64} (hx : x ≠ 0) : (x &&& (x - 1)).toNat < x.toNat := by
  have hx' : x.toNat ≠ 0 := fun h => hx (UInt64.toNat_inj.mp h)
  have hle : x.toNat &&& (x.toNat - 1) ≤ x.toNat - 1 := Nat.and_le_right
  rw [UInt64.toNat_and, toNat_sub_one hx]
  omega

lemma card_setBits_xor (a b : UInt64) : (setBits (a ^^^ b)).card = hammingDist (bits a) (bits b) := by
  unfold hammingDist
  congr 1
  ext i
  rw [mem_setBits, UInt64.toNat_xor, Nat.testBit_xor, Finset.mem_filter, bits, bits, Bool.xor_iff_ne]
  exact (and_iff_right (Finset.mem_univ i)).symm

end Hamming
