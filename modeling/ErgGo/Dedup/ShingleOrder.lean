import ErgGo.Dedup.SimHash
import ErgGo.Lib.Fnv
import Mathlib.Algebra.BigOperators.Group.List.Basic
import Mathlib.Algebra.Order.BigOperators.Group.List
import Mathlib.Dynamics.PeriodicPts.Defs

/-!
# The order of the shingles

A SimHash weighs the bits of the hashes of the shingles, so it cannot tell in which order they
stand. The fingerprint hashes them one after another instead.
-/

namespace ErgGo.Dedup
open Go Hamming

/-! ## Weights -/

/-- How the hash of a shingle votes on a bit. -/
def vote (hash : List UInt8 → UInt64) (i : Fin 64) (shingle : List UInt8) : ℤ := if bits (hash shingle) i then 1 else -1

def weight (hash : List UInt8 → UInt64) (i : Fin 64) (shingles : List (List UInt8)) : ℤ :=
  (shingles.map (vote hash i)).sum

/-- A word that has the bits that the shingles vote for, and any bits where the votes are even. -/
def Weighed (hash : List UInt8 → UInt64) (shingles : List (List UInt8)) (word : UInt64) : Prop :=
  ∀ i, (0 < weight hash i shingles → bits word i = true) ∧ (weight hash i shingles < 0 → bits word i = false)

lemma abs_vote_sub_le (hash : List UInt8 → UInt64) (i : Fin 64) (s t : List UInt8) :
    |vote hash i s - vote hash i t| ≤ 2 := by
  unfold vote
  split <;> split <;> decide

/-- Another shingle in one place. -/
lemma abs_weight_set_le (hash : List UInt8 → UInt64) (i : Fin 64) (shingles : List (List UInt8)) (k : ℕ)
    (t : List UInt8) : |weight hash i (shingles.set k t) - weight hash i shingles| ≤ 2 := by
  unfold weight
  induction shingles generalizing k with
  | nil => simp
  | cons s shingles ih =>
    cases k with
    | zero =>
      rw [List.set_cons_zero, List.map_cons, List.map_cons, List.sum_cons, List.sum_cons, add_sub_add_right_eq_sub]
      exact abs_vote_sub_le hash i t s
    | succ k =>
      rw [List.set_cons_succ, List.map_cons, List.map_cons, List.sum_cons, List.sum_cons, add_sub_add_left_eq_sub]
      exact ih k

/-- The hash of a shingle that stands alone. -/
def ownHash (shingle : List UInt8) : UInt64 := fnvWrite fnvOffset64 shingle

/-- No other hash of the shingles weighs each of them alone. -/
lemma eq_ownHash_of_weighed [Sha256] {hash : List UInt8 → UInt64}
    (h : ∀ s text, Weighed hash [s] (computeFingerprint [s] text).simHash) : hash = ownHash := by
  funext s
  refine bits_injective (funext fun i => ?_)
  have hvote := h s [] i
  have hown : (computeFingerprint [s] []).simHash = ownHash s := rfl
  have hweight : weight hash i [s] = vote hash i s := List.sum_singleton
  rw [hown, hweight, vote] at hvote
  cases hbit : bits (hash s) i with
  | true => exact (hvote.1 (by simp [hbit])).symm
  | false => exact (hvote.2 (by simp [hbit])).symm

/-- The fingerprint of the shingles does not depend on their order, each of them votes with the hash that
it has alone, and a change of one of them moves no weight by more than two. -/
structure WeighsShingles [Sha256] (shingles : List (List UInt8)) (text : List UInt8) : Prop where
  permuted : ∀ shingles', shingles'.Perm shingles →
    (computeFingerprint shingles' text).simHash = (computeFingerprint shingles text).simHash
  weighed : ∀ shingles', shingles'.Perm shingles →
    Weighed ownHash shingles' (computeFingerprint shingles' text).simHash
  moved : ∀ i k t, |weight ownHash i (shingles.set k t) - weight ownHash i shingles| ≤ 2

/-! ## The hash of the shingles -/

lemma fnvWrite_eq (h : UInt64) (data : List UInt8) : fnvWrite h data = Fnv.write h data := rfl

/-- Two shingles can be told from their hash in one order and in the other. -/
lemma eq_of_fnvWrite_swap {h : UInt64} {s t : List UInt8} (hs : s.length = 3) (ht : t.length = 3)
    (heq : fnvWrite (fnvWrite h s) t = fnvWrite (fnvWrite h t) s) : s = t := by
  simp only [fnvWrite_eq, ← Fnv.write_append] at heq
  have happend := Fnv.write_six_injective (by rw [List.length_append, hs, ht]) (by rw [List.length_append, hs, ht]) heq
  exact (List.append_inj happend (hs.trans ht.symm)).1

lemma foldl_fnvWrite_injective (shingles : List (List UInt8)) :
    Function.Injective fun h => shingles.foldl fnvWrite h := by
  induction shingles with
  | nil => exact fun _ _ h => h
  | cons s shingles ih => exact ih.comp (Fnv.write_injective s)

lemma length_of_mem_generateTrigrams {tokens : List (List UInt8)} {s : List UInt8} (hs : s ∈ generateTrigrams tokens) :
    s.length = 3 := by
  obtain ⟨token, -, hs⟩ := List.mem_flatMap.mp hs
  split at hs
  · cases hs
  · rename_i hlong
    obtain ⟨i, hi, rfl⟩ := List.mem_map.mp hs
    rw [List.mem_range] at hi
    rw [List.length_take, List.length_drop]
    omega

lemma weight_replicate (hash : List UInt8 → UInt64) (i : Fin 64) (n : ℕ) (s : List UInt8) :
    weight hash i (List.replicate n s) = n * (if bits (hash s) i then 1 else -1) := by
  rw [weight, List.map_replicate, List.sum_replicate, nsmul_eq_mul, vote]

/-- Equal shingles vote for the bits of their hash. -/
lemma weighed_replicate_iff {hash : List UInt8 → UInt64} {n : ℕ} {s : List UInt8} {word : UInt64} :
    Weighed hash (List.replicate (n + 1) s) word ↔ word = hash s := by
  constructor
  · intro h
    refine bits_injective (funext fun i => ?_)
    have hvote := h i
    rw [weight_replicate] at hvote
    cases hbit : bits (hash s) i with
    | true => exact hvote.1 (by simp [hbit])
    | false =>
      refine hvote.2 ?_
      rw [hbit]
      push_cast
      simp
      omega
  · rintro rfl i
    rw [weight_replicate]
    cases bits (hash s) i with
    | true => exact ⟨fun _ => rfl, fun h => absurd h (by simp; omega)⟩
    | false => exact ⟨fun h => absurd h (by simp), fun _ => rfl⟩

/-- The hash of equal shingles is that of one of them if the others are a cycle. -/
lemma foldl_replicate_eq_ownHash_iff {n : ℕ} {s : List UInt8} :
    (List.replicate (n + 1) s).foldl fnvWrite fnvOffset64 = ownHash s ↔
      Function.IsPeriodicPt (fnvWrite · s) n fnvOffset64 := by
  have hfold : ∀ m h, (List.replicate m s).foldl fnvWrite h = (fnvWrite · s)^[m] h := by
    intro m
    induction m with
    | zero => exact fun _ => rfl
    | succ m ih =>
      intro h
      rw [List.replicate_succ, List.foldl_cons, ih, Function.iterate_succ_apply]
  rw [hfold, Function.iterate_succ_apply']
  exact (Fnv.write_injective s).eq_iff

section Texts

variable [Library] [Sha256]

omit [Library] in
/-- Two different shingles next to each other give another hash in the other order. -/
lemma eq_of_permuted {shingles : List (List UInt8)} {text : List UInt8} (hthree : ∀ s ∈ shingles, s.length = 3)
    (hpermuted : ∀ shingles', shingles'.Perm shingles →
      (computeFingerprint shingles' text).simHash = (computeFingerprint shingles text).simHash)
    {s t : List UInt8} (hs : s ∈ shingles) (ht : t ∈ shingles) : s = t := by
  by_contra hne
  have hfirst := List.perm_cons_erase hs
  have hsecond := List.perm_cons_erase ((List.mem_erase_of_ne (Ne.symm hne)).mpr ht)
  have hst : (s :: t :: (shingles.erase s).erase t).Perm shingles := (hfirst.trans (hsecond.cons s)).symm
  have hts : (t :: s :: (shingles.erase s).erase t).Perm shingles := (List.Perm.swap s t _).trans hst
  have hsame := (hpermuted _ hst).trans (hpermuted _ hts).symm
  exact hne (eq_of_fnvWrite_swap (hthree s hs) (hthree t ht) (foldl_fnvWrite_injective _ hsame))

/-- The fingerprint of a text weighs its shingles exactly if it has none, or equal ones of which all but the
first bring the hash back to where it began. -/
theorem weighsShingles_iff (text : List UInt8) : WeighsShingles (generateTrigrams (tokenize text)) text ↔
    generateTrigrams (tokenize text) = [] ∨
      ∃ s n, generateTrigrams (tokenize text) = List.replicate (n + 1) s ∧
        Function.IsPeriodicPt (fnvWrite · s) n fnvOffset64 := by
  have hthree : ∀ s ∈ generateTrigrams (tokenize text), s.length = 3 := fun _ => length_of_mem_generateTrigrams
  generalize generateTrigrams (tokenize text) = shingles at hthree ⊢
  constructor
  · intro h
    cases shingles with
    | nil => exact .inl rfl
    | cons s rest =>
      have hequal : s :: rest = List.replicate (rest.length + 1) s :=
        List.eq_replicate_of_mem fun t ht => eq_of_permuted hthree h.permuted ht List.mem_cons_self
      have hweighed := h.weighed _ (List.Perm.refl _)
      rw [hequal] at hweighed
      exact .inr ⟨s, rest.length, hequal, foldl_replicate_eq_ownHash_iff.mp (weighed_replicate_iff.mp hweighed)⟩
  · rintro (rfl | ⟨s, n, rfl, hperiod⟩)
    · refine ⟨fun _ hperm => by rw [hperm.eq_nil], fun _ hperm i => ?_, fun i k t => abs_weight_set_le _ i _ k t⟩
      rw [hperm.eq_nil]
      exact ⟨fun h => absurd h (lt_irrefl 0), fun h => absurd h (lt_irrefl 0)⟩
    · refine ⟨fun _ hperm => ?_, fun _ hperm => ?_, fun i k t => abs_weight_set_le _ i _ k t⟩
      · rw [List.perm_replicate.mp hperm]
      · rw [List.perm_replicate.mp hperm]
        exact weighed_replicate_iff.mpr (foldl_replicate_eq_ownHash_iff.mpr hperiod)

end Texts

section Sample

attribute [local instance] asciiLibrary

/-- No hash at all, which the order of shingles does not need. -/
@[reducible] def Sample.noSum : Sha256 := ⟨id⟩

attribute [local instance] Sample.noSum

/-- The text `one two`. -/
def Sample.oneTwo : List UInt8 := [111, 110, 101, 32, 116, 119, 111]

/-- The shingles of `one two` and of `two one` are the same, but the fingerprints are not. -/
theorem oneTwo_order : generateTrigrams (tokenize Sample.oneTwo) = [[111, 110, 101], [116, 119, 111]] ∧
    (computeFingerprint [[116, 119, 111], [111, 110, 101]] Sample.oneTwo).simHash ≠
      (computeFingerprint [[111, 110, 101], [116, 119, 111]] Sample.oneTwo).simHash ∧
    ¬WeighsShingles (generateTrigrams (tokenize Sample.oneTwo)) Sample.oneTwo := by
  have hshingles : generateTrigrams (tokenize Sample.oneTwo) = [[111, 110, 101], [116, 119, 111]] := by decide
  have hdiffer : (computeFingerprint [[116, 119, 111], [111, 110, 101]] Sample.oneTwo).simHash ≠
      (computeFingerprint [[111, 110, 101], [116, 119, 111]] Sample.oneTwo).simHash := by decide
  refine ⟨hshingles, hdiffer, fun h => hdiffer ?_⟩
  rw [hshingles] at h
  exact h.permuted _ (List.Perm.swap _ _ _)

end Sample

end ErgGo.Dedup
