import ErgGo.Lib.Encodings

/-!
# Numerals

The numbers that decimal digits denote, however many they are, and those of them that an integer
of 64 bits can hold.
-/

namespace Go
open Bytes

namespace Decimal

def IsDigit (c : UInt8) : Prop := 0x30 ≤ c ∧ c ≤ 0x39

/-- A text of digits and the number that it denotes. -/
structure Reads (s : Bytes) (n : ℕ) : Prop where
  nonempty : s ≠ []
  digits : ∀ c ∈ s, IsDigit c
  value : s.foldl (fun n c => 10 * n + (c.toNat - 0x30)) 0 = n

lemma mapM_digit {s : Bytes} (h : ∀ c ∈ s, IsDigit c) : s.mapM digit = some (s.map fun c => c.toNat - 0x30) := by
  induction s with
  | nil => rfl
  | cons c s ih =>
    have hc : digit c = some (c.toNat - 0x30) := if_pos (h c List.mem_cons_self)
    rw [List.mapM_cons, hc, ih fun c hc => h c (List.mem_cons_of_mem _ hc)]
    rfl

lemma digits_of_mapM {s : Bytes} {ds : List ℕ} (h : s.mapM digit = some ds) : ∀ c ∈ s, IsDigit c := by
  induction s generalizing ds with
  | nil => exact fun _ hc => absurd hc List.not_mem_nil
  | cons c s ih =>
    rw [List.mapM_cons] at h
    obtain ⟨d, hd, h⟩ := Option.bind_eq_some_iff.mp h
    obtain ⟨rest, hrest, -⟩ := Option.bind_eq_some_iff.mp h
    rintro c' hc'
    obtain rfl | hc' := List.mem_cons.mp hc'
    · by_contra hdigit
      have hnone : digit c' = none := if_neg hdigit
      rw [hnone] at hd
      cases hd
    · exact ih hrest c' hc'

/-- `strconv.ParseUint` reads the digits that denote a number of so many bits. -/
theorem parse_eq_some_iff {bits : ℕ} {s : Bytes} {n : ℕ} : parse bits s = some n ↔ Reads s n ∧ n < 2 ^ bits := by
  constructor
  · intro h
    unfold parse at h
    split at h
    · cases h
    · rename_i hne
      obtain ⟨ds, hds, h⟩ := Option.bind_eq_some_iff.mp h
      have hdigits := digits_of_mapM hds
      rw [mapM_digit hdigits] at hds
      obtain rfl := Option.some.inj hds
      rw [List.foldl_map] at h
      dsimp only at h
      split at h
      · rename_i hlt
        obtain rfl := Option.some.inj h
        exact ⟨⟨hne, hdigits, rfl⟩, hlt⟩
      · cases h
  · rintro ⟨⟨hne, hdigits, rfl⟩, hlt⟩
    rw [parse, if_neg hne, mapM_digit hdigits, Option.bind_some, List.foldl_map]
    exact if_pos hlt

lemma Reads.notMem {s : Bytes} {n : ℕ} (h : Reads s n) {c : UInt8} (hc : ¬IsDigit c) : c ∉ s :=
  fun hmem => hc (h.digits c hmem)

end Decimal

open Decimal

/-- `strconv.ParseInt` in base ten, of 64 bits. -/
def parseInt (s : Bytes) : Option ℤ :=
  match s with
  | 0x2B :: digits => (parse 63 digits).map Nat.cast
  | 0x2D :: digits => (parse 64 digits).bind fun n => if n ≤ 2 ^ 63 then some (-n) else none
  | digits => (parse 63 digits).map Nat.cast

/-- A number that stands behind a sign. -/
def Signed (s : Bytes) : Prop := ∃ sign ∈ [0x2B, 0x2D], ∃ digits n, s = sign :: digits ∧ Reads digits n

/-- Without a sign the digits are read, if their number is below `2 ^ 63`. -/
theorem parseInt_eq_some_iff {s : Bytes} (h : ¬Signed s) {v : ℤ} :
    parseInt s = some v ↔ ∃ n : ℕ, Reads s n ∧ n < 2 ^ 63 ∧ v = n := by
  have hnoSign {c : UInt8} {digits : Bytes} {n : ℕ} (hc : ¬IsDigit c) : ¬Reads (c :: digits) n :=
    fun hreads => hc (hreads.digits c List.mem_cons_self)
  unfold parseInt
  split
  · rename_i digits
    constructor
    · intro hv
      obtain ⟨n, hn, -⟩ := Option.map_eq_some_iff.mp hv
      exact absurd ⟨0x2B, by simp, digits, n, rfl, (parse_eq_some_iff.mp hn).1⟩ h
    · rintro ⟨n, hn, -⟩
      exact absurd hn (hnoSign (by unfold IsDigit; decide))
  · rename_i digits
    constructor
    · intro hv
      obtain ⟨n, hn, -⟩ := Option.bind_eq_some_iff.mp hv
      exact absurd ⟨0x2D, by simp, digits, n, rfl, (parse_eq_some_iff.mp hn).1⟩ h
    · rintro ⟨n, hn, -⟩
      exact absurd hn (hnoSign (by unfold IsDigit; decide))
  · rw [Option.map_eq_some_iff]
    constructor
    · rintro ⟨n, hn, rfl⟩
      exact ⟨n, (parse_eq_some_iff.mp hn).1, (parse_eq_some_iff.mp hn).2, rfl⟩
    · rintro ⟨n, hn, hlt, rfl⟩
      exact ⟨n, parse_eq_some_iff.mpr ⟨hn, hlt⟩, rfl⟩

end Go
