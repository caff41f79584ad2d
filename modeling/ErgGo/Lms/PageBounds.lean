import ErgGo.Hoclieu.ResourceListing
import ErgGo.Lms.Roster

/-!
# Pages far behind the end

A page starts at the product of two numbers of the request. The limit is clamped on both sides, the
page number only from below, so the product can wrap around.
-/

namespace ErgGo.Lms
open Go Documents

def pageCenters (items : List Center) (page limit : ℤ) : Except LmsError (List Center × ℤ) :=
  pageItems .memory items page limit

def pageClasses (items : List Class) (page limit : ℤ) : Except LmsError (List Class × ℤ) :=
  pageItems .memory items page limit

def clampedPage (page : ℤ) : ℤ := max page 1

def clampedLimit (limit : ℤ) : ℤ := if 1 ≤ limit ∧ limit ≤ 100 then limit else 20

/-- The product of a page number and a limit leaves a bit for the sign, after whole turns of 64 bits. -/
def StartFits (page limit : ℤ) : Prop := (clampedPage page - 1) * clampedLimit limit % 2 ^ 64 < 2 ^ 63

/-- Neither the database nor a slice gets a start out of range, however many items the memory holds. -/
structure StartsWithinBounds [Library] (page limit : ℤ) : Prop where
  skip_nonneg : 0 ≤ (paged page limit).1
  limit_pos : 0 < (paged page limit).2
  limit_le : (paged page limit).2 ≤ 100
  centers : ∀ items, pageCenters items page limit ≠ .error .runtimePanic
  classes : ∀ items, pageClasses items page limit ≠ .error .runtimePanic
  resources : ∀ resources (params : Hoclieu.ListResourceParams), params.page = page → params.limit = limit →
    resources.length + 100 < 2 ^ 63 → Hoclieu.listFromMemory resources params ≠ none

lemma bmod_nonneg_iff (x : ℤ) : 0 ≤ Int.bmod x (2 ^ 64) ↔ x % 2 ^ 64 < 2 ^ 63 := by
  unfold Int.bmod
  dsimp only
  have hpos := Int.emod_nonneg x (show (2 : ℤ) ^ 64 ≠ 0 by decide)
  have hlt := Int.emod_lt_of_pos x (show (0 : ℤ) < 2 ^ 64 by decide)
  split <;> omega

lemma paged_eq (page limit : ℤ) :
    paged page limit = (wrapInt64 ((clampedPage page - 1) * clampedLimit limit), clampedLimit limit) := by
  have hpage : (if page < 1 then 1 else page) = clampedPage page := by
    unfold clampedPage
    split <;> omega
  have hlimit : (if limit ≤ 0 ∨ limit > 100 then 20 else limit) = clampedLimit limit := by
    unfold clampedLimit
    split <;> split <;> omega
  unfold paged
  rw [hpage, hlimit]

lemma clampedLimit_bounds (limit : ℤ) : 0 < clampedLimit limit ∧ clampedLimit limit ≤ 100 := by
  unfold clampedLimit
  split <;> omega

lemma skip_nonneg_iff (page limit : ℤ) : 0 ≤ (paged page limit).1 ↔ StartFits page limit := by
  rw [paged_eq]
  exact bmod_nonneg_iff _

/-- The service of the learning material starts where a repository does. -/
lemma start_eq_skip (params : Hoclieu.ListResourceParams) : params.start = (paged params.page params.limit).1 := by
  have hpage : params.pageNumber = clampedPage params.page := by
    unfold Hoclieu.ListResourceParams.pageNumber clampedPage
    split <;> omega
  have hlimit : (params.pageSize : ℤ) = clampedLimit params.limit := by
    unfold Hoclieu.ListResourceParams.pageSize clampedLimit
    split <;> split <;> omega
  unfold Hoclieu.ListResourceParams.start
  rw [paged_eq, hpage, hlimit]
  rfl

/-- Cutting out a page panics exactly where it starts before the first item. -/
lemma pageItems_panics_iff {α : Type} (items : List α) (page limit : ℤ) :
    pageItems .memory items page limit = .error .runtimePanic ↔ (paged page limit).1 < 0 := by
  unfold pageItems
  obtain ⟨offset, limit⟩ := paged page limit
  dsimp only
  split
  · simp
    omega
  · split <;> simp_all

lemma cutPage_eq_none_iff {α : Type} {params : Hoclieu.ListResourceParams} {items : List α}
    (hlen : items.length + 100 < 2 ^ 63) : Hoclieu.cutPage params items = none ↔ params.start < 0 := by
  constructor
  · intro hnone
    by_contra hstart
    rw [Hoclieu.cutPage_eq (not_lt.mp hstart) hlen] at hnone
    cases hnone
  · exact Hoclieu.cutPage_of_neg

lemma listFromMemory_eq_none_iff [Library] {resources : List Hoclieu.ResourceDetail}
    {params : Hoclieu.ListResourceParams} (hlen : resources.length + 100 < 2 ^ 63) :
    Hoclieu.listFromMemory resources params = none ↔ params.start < 0 := by
  unfold Hoclieu.listFromMemory
  rw [Option.map_eq_none_iff]
  refine cutPage_eq_none_iff ?_
  rw [Hoclieu.newestFirst_perm.length_eq, List.length_map]
  exact Nat.lt_of_le_of_lt (Nat.add_le_add_right (List.length_filter_le _ _) 100) hlen

/-- Every page starts within bounds exactly if the product fits. -/
theorem startsWithinBounds_iff [Library] (page limit : ℤ) : StartsWithinBounds page limit ↔ StartFits page limit := by
  rw [← skip_nonneg_iff]
  constructor
  · exact StartsWithinBounds.skip_nonneg
  · intro hskip
    obtain ⟨hpos, hle⟩ := clampedLimit_bounds limit
    refine ⟨hskip, ?_, ?_, fun items hpanic => ?_, fun items hpanic => ?_, ?_⟩
    · rw [paged_eq]
      exact hpos
    · rw [paged_eq]
      exact hle
    · exact hskip.not_gt ((pageItems_panics_iff items page limit).mp hpanic)
    · exact hskip.not_gt ((pageItems_panics_iff items page limit).mp hpanic)
    · rintro resources params rfl rfl hlen hnone
      rw [listFromMemory_eq_none_iff hlen, start_eq_skip] at hnone
      exact hskip.not_gt hnone

/-- The first page whose start wraps around, at the limit that is the default. -/
def farPage : ℤ := 461168601842738792

section Sample

attribute [local instance] asciiLibrary

/-- The page number and the limit fit into 64 bits, but nothing can be cut out of any list. -/
theorem farPage_out_of_bounds : farPage < 2 ^ 63 ∧ (paged farPage 20).1 = -9223372036854775796 ∧
    (∀ items, pageCenters items farPage 20 = .error .runtimePanic) ∧
    (∀ items, pageClasses items farPage 20 = .error .runtimePanic) ∧
    Hoclieu.listFromMemory [] { page := farPage, limit := 20 } = none ∧ ¬StartsWithinBounds farPage 20 := by
  have hskip : (paged farPage 20).1 = -9223372036854775796 := by decide
  have hneg : (paged farPage 20).1 < 0 := by
    rw [hskip]
    decide
  refine ⟨by decide, hskip, ?_, ?_, ?_, ?_⟩
  · exact fun items => (pageItems_panics_iff items farPage 20).mpr hneg
  · exact fun items => (pageItems_panics_iff items farPage 20).mpr hneg
  · refine (listFromMemory_eq_none_iff (by decide)).mpr ?_
    rw [start_eq_skip]
    exact hneg
  · exact fun h => h.skip_nonneg.not_gt hneg

end Sample

end ErgGo.Lms
