import Mathlib.Data.List.Basic
import Mathlib.Order.Lattice

/-!
# A scan for the highest rank

The loop that keeps the first value of the highest rank so far, and what its result depends
on when the ranks tell values apart.
-/

namespace Scan

variable {α β : Type} [LinearOrder β] (rank : α → β)

/-- `for x in xs { if rank(x) > rank(best) { best = x } }`. -/
def highest (best : α) (xs : List α) : α :=
  xs.foldl (fun best x => if rank x > rank best then x else best) best

lemma highest_cons (best x : α) (xs : List α) :
    highest rank best (x :: xs) = highest rank (if rank x > rank best then x else best) xs := rfl

lemma rank_le_highest (best : α) (xs : List α) :
    rank best ≤ rank (highest rank best xs) ∧ ∀ x ∈ xs, rank x ≤ rank (highest rank best xs) := by
  induction xs generalizing best with
  | nil => exact ⟨le_rfl, by simp⟩
  | cons x xs ih =>
    rw [highest_cons]
    obtain ⟨hfirst, hrest⟩ := ih (if rank x > rank best then x else best)
    have hboth : rank best ≤ rank (if rank x > rank best then x else best) ∧
        rank x ≤ rank (if rank x > rank best then x else best) := by
      split
      · next hgreater => exact ⟨hgreater.le, le_rfl⟩
      · next hgreater => exact ⟨le_rfl, not_lt.mp hgreater⟩
    refine ⟨hboth.1.trans hfirst, fun y hy => ?_⟩
    obtain rfl | hy := List.mem_cons.mp hy
    · exact hboth.2.trans hfirst
    · exact hrest y hy

/-- The result is the start or one of the values, of a higher rank. -/
lemma highest_mem (best : α) (xs : List α) :
    highest rank best xs = best ∨
      (highest rank best xs ∈ xs ∧ rank best < rank (highest rank best xs)) := by
  induction xs generalizing best with
  | nil => exact .inl rfl
  | cons x xs ih =>
    rw [highest_cons]
    split
    · next hgreater =>
      right
      obtain hsame | ⟨hmem, hrank⟩ := ih x
      · rw [hsame]
        exact ⟨by simp, hgreater⟩
      · exact ⟨by simp [hmem], lt_trans hgreater hrank⟩
    · obtain hsame | ⟨hmem, hrank⟩ := ih best
      · exact .inl hsame
      · exact .inr ⟨by simp [hmem], hrank⟩

lemma rank_highest_mono {best : α} {xs ys : List α} (h : xs ⊆ ys) :
    rank (highest rank best xs) ≤ rank (highest rank best ys) := by
  obtain hsame | ⟨hmem, -⟩ := highest_mem rank best xs
  · rw [hsame]
    exact (rank_le_highest rank best ys).1
  · exact (rank_le_highest rank best ys).2 _ (h hmem)

/-- Where ranks above the start tell values apart, the result depends only on which values
occur. -/
theorem highest_congr {rank : α → β} {best : α}
    (hrank : ∀ a b, rank best < rank a → rank a = rank b → a = b) {xs ys : List α}
    (h : ∀ x, x ∈ xs ↔ x ∈ ys) : highest rank best xs = highest rank best ys := by
  have heq : rank (highest rank best xs) = rank (highest rank best ys) :=
    le_antisymm (rank_highest_mono rank fun x => (h x).mp) (rank_highest_mono rank fun x => (h x).mpr)
  obtain hxs | ⟨-, hxs⟩ := highest_mem rank best xs
  · obtain hys | ⟨-, hys⟩ := highest_mem rank best ys
    · rw [hxs, hys]
    · exact (hrank _ _ hys heq.symm).symm
  · exact hrank _ _ hxs heq

end Scan
