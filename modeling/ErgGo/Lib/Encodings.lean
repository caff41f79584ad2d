import ErgGo.Lib.Bytes
import Mathlib.Data.Nat.Digits.Lemmas

/-!
# Bytes as text

Hexadecimal, unpadded base64 and decimal numbers, as `encoding/hex`, `encoding/base64` and
`strconv` write and read them.
-/

namespace Go

namespace Hex

def digit (n : ℕ) : UInt8 := UInt8.ofNat (if n < 10 then 0x30 + n else 0x57 + n)

/-- `hex.EncodeToString`. -/
def encode (s : Bytes) : Bytes := s.flatMap (fun b => [digit (b.toNat / 16), digit (b.toNat % 16)])

lemma length_encode (s : Bytes) : (encode s).length = 2 * s.length := by
  induction s with
  | nil => rfl
  | cons b s ih =>
    change (encode s).length + 2 = 2 * (s.length + 1)
    omega

lemma graphic_of_mem_encode {s : Bytes} {c : UInt8} (h : c ∈ encode s) : graphic c ∧ c ≠ 0x24 := by
  obtain ⟨b, -, hc⟩ := List.mem_flatMap.mp h
  have hdigit : ∀ n < 16, graphic (digit n) ∧ digit n ≠ 0x24 := by decide
  have hbyte := b.toNat_lt
  simp only [List.mem_cons, List.not_mem_nil, or_false] at hc
  obtain rfl | rfl := hc
  · exact hdigit _ (by omega)
  · exact hdigit _ (by omega)

end Hex

namespace Base64

def alphabet : Bytes := bytes "ABCDEFGHIJKLMNOPQRSTUVWXYZabcdefghijklmnopqrstuvwxyz0123456789+/"

def digit (n : ℕ) : UInt8 := alphabet.getD n 0

def value (c : UInt8) : Option ℕ := alphabet.idxOf? c

/-- Three bytes are four groups of six bits; of the last group the missing bits are zero. -/
def sextets : Bytes → List ℕ
  | a :: b :: c :: rest =>
    (a.toNat / 4) :: (a.toNat % 4 * 16 + b.toNat / 16) :: (b.toNat % 16 * 4 + c.toNat / 64) :: (c.toNat % 64) ::
      sextets rest
  | [a, b] => [a.toNat / 4, a.toNat % 4 * 16 + b.toNat / 16, b.toNat % 16 * 4]
  | [a] => [a.toNat / 4, a.toNat % 4 * 16]
  | [] => []

/-- One group alone is no byte; the bits that are left over are ignored. -/
def assemble : List ℕ → Option Bytes
  | a :: b :: c :: d :: rest =>
    (assemble rest).map (fun s =>
      UInt8.ofNat (a * 4 + b / 16) :: UInt8.ofNat (b % 16 * 16 + c / 4) :: UInt8.ofNat (c % 4 * 64 + d) :: s)
  | [a, b, c] => some [UInt8.ofNat (a * 4 + b / 16), UInt8.ofNat (b % 16 * 16 + c / 4)]
  | [a, b] => some [UInt8.ofNat (a * 4 + b / 16)]
  | [_] => none
  | [] => some []

/-- `base64.RawStdEncoding.EncodeToString`. -/
def encode (s : Bytes) : Bytes := (sextets s).map digit

/-- `base64.RawStdEncoding.DecodeString`, which skips line breaks. -/
def decode (s : Bytes) : Option Bytes :=
  ((s.filter (fun c => c ≠ 0x0A && c ≠ 0x0D)).mapM value).bind assemble

lemma lt_of_mem_sextets {s : Bytes} {n : ℕ} (h : n ∈ sextets s) : n < 64 := by
  induction s using sextets.induct with
  | case1 a b c rest ih =>
    have ha := a.toNat_lt
    have hb := b.toNat_lt
    have hc := c.toNat_lt
    simp only [sextets, List.mem_cons] at h
    obtain rfl | rfl | rfl | rfl | h := h
    · omega
    · omega
    · omega
    · omega
    · exact ih h
  | case2 a b =>
    have ha := a.toNat_lt
    have hb := b.toNat_lt
    simp only [sextets, List.mem_cons, List.not_mem_nil, or_false] at h
    omega
  | case3 a =>
    have ha := a.toNat_lt
    simp only [sextets, List.mem_cons, List.not_mem_nil, or_false] at h
    omega
  | case4 => exact absurd h List.not_mem_nil

lemma byte_eq {a : UInt8} {n : ℕ} (h : n = a.toNat) : UInt8.ofNat n = a := by
  rw [h, UInt8.ofNat_toNat]

lemma assemble_sextets (s : Bytes) : assemble (sextets s) = some s := by
  induction s using sextets.induct with
  | case1 a b c rest ih =>
    have ha := a.toNat_lt
    have hb := b.toNat_lt
    have hc := c.toNat_lt
    rw [sextets, assemble, ih, Option.map_some, byte_eq (a := a) (by omega), byte_eq (a := b) (by omega),
      byte_eq (a := c) (by omega)]
  | case2 a b =>
    have ha := a.toNat_lt
    have hb := b.toNat_lt
    rw [sextets, assemble, byte_eq (a := a) (by omega), byte_eq (a := b) (by omega)]
  | case3 a =>
    have ha := a.toNat_lt
    rw [sextets, assemble, byte_eq (a := a) (by omega)]
  | case4 => rfl

/-- The alphabet has 64 different characters, all printed and none the dollar sign. -/
lemma alphabet_chars : alphabet.length = 64 ∧ alphabet.Nodup ∧ ∀ c ∈ alphabet, graphic c ∧ c ≠ 0x24 := by
  decide

lemma digit_eq_getElem {n : ℕ} (hn : n < alphabet.length) : digit n = alphabet[n] := by
  rw [digit, List.getD_eq_getElem?_getD, List.getElem?_eq_getElem hn, Option.getD_some]

lemma value_digit {n : ℕ} (hn : n < 64) : value (digit n) = some n := by
  obtain ⟨hlength, hnodup, -⟩ := alphabet_chars
  rw [← hlength] at hn
  rw [value, digit_eq_getElem hn, List.idxOf?_eq_some_iff]
  refine ⟨hn, rfl, fun j hj heq => ?_⟩
  exact hj.ne (hnodup.getElem_inj_iff.mp heq)

lemma graphic_of_mem_encode {s : Bytes} {c : UInt8} (h : c ∈ encode s) : graphic c ∧ c ≠ 0x24 := by
  obtain ⟨n, hn, rfl⟩ := List.mem_map.mp h
  obtain ⟨hlength, -, hgraphic⟩ := alphabet_chars
  have hlt : n < alphabet.length := hlength ▸ lt_of_mem_sextets hn
  rw [digit_eq_getElem hlt]
  exact hgraphic _ (List.getElem_mem hlt)

/-- What was encoded is decoded. -/
theorem decode_encode (s : Bytes) : decode (encode s) = some s := by
  have hfilter : (encode s).filter (fun c => c ≠ 0x0A && c ≠ 0x0D) = encode s := by
    refine List.filter_eq_self.mpr fun c hc => ?_
    have hgraphic := (graphic_of_mem_encode hc).1
    have hbreaks : ¬graphic 0x0A ∧ ¬graphic 0x0D := by decide
    rw [Bool.and_eq_true, decide_eq_true_eq, decide_eq_true_eq]
    exact ⟨fun h => hbreaks.1 (h ▸ hgraphic), fun h => hbreaks.2 (h ▸ hgraphic)⟩
  have hmap : ∀ l : List ℕ, (∀ n ∈ l, n < 64) → (l.map digit).mapM value = some l := by
    intro l
    induction l with
    | nil => exact fun _ => rfl
    | cons n l ih =>
      intro hl
      rw [List.map_cons, List.mapM_cons, value_digit (hl n List.mem_cons_self),
        ih fun m hm => hl m (List.mem_cons_of_mem n hm)]
      rfl
  unfold decode
  rw [hfilter, encode, hmap _ fun n hn => lt_of_mem_sextets hn]
  exact assemble_sextets s

end Base64

namespace Decimal

/-- `%d` of a number that is not negative. -/
def format (n : ℕ) : Bytes := (if n = 0 then [0] else (Nat.digits 10 n).reverse).map (fun d => UInt8.ofNat (0x30 + d))

def digit (c : UInt8) : Option ℕ := if 0x30 ≤ c ∧ c ≤ 0x39 then some (c.toNat - 0x30) else none

/-- `strconv.ParseUint` in base ten. -/
def parse (bits : ℕ) (s : Bytes) : Option ℕ :=
  if s = [] then none
  else (s.mapM digit).bind (fun ds =>
    let n := ds.foldl (fun n d => 10 * n + d) 0
    if n < 2 ^ bits then some n else none)

lemma digit_of_mem_format {n : ℕ} {c : UInt8} (h : c ∈ format n) : 0x30 ≤ c ∧ c ≤ 0x39 := by
  obtain ⟨d, hd, rfl⟩ := List.mem_map.mp h
  have hdigit : ∀ d < 10, (0x30 : UInt8) ≤ UInt8.ofNat (0x30 + d) ∧ UInt8.ofNat (0x30 + d) ≤ 0x39 := by decide
  refine hdigit d ?_
  by_cases hn : n = 0
  · rw [if_pos hn, List.mem_singleton] at hd
    omega
  · rw [if_neg hn, List.mem_reverse] at hd
    exact Nat.digits_lt_base (by omega) hd

lemma graphic_of_mem_format {n : ℕ} {c : UInt8} (h : c ∈ format n) : graphic c := by
  obtain ⟨hlow, hhigh⟩ := digit_of_mem_format h
  unfold graphic
  rw [Bool.and_eq_true, decide_eq_true_eq, decide_eq_true_eq]
  exact ⟨UInt8.le_trans (by decide) hlow, UInt8.le_trans hhigh (by decide)⟩

/-- What was written is read. -/
theorem parse_format {bits n : ℕ} (hn : n < 2 ^ bits) : parse bits (format n) = some n := by
  have hdigit : ∀ d < 10, digit (UInt8.ofNat (0x30 + d)) = some d := by decide
  have hmap : ∀ l : List ℕ, (∀ d ∈ l, d < 10) → (l.map (fun d => UInt8.ofNat (0x30 + d))).mapM digit = some l := by
    intro l
    induction l with
    | nil => exact fun _ => rfl
    | cons d l ih =>
      intro hl
      rw [List.map_cons, List.mapM_cons, hdigit d (hl d List.mem_cons_self),
        ih fun m hm => hl m (List.mem_cons_of_mem d hm)]
      rfl
  unfold parse format
  by_cases hzero : n = 0
  · subst hzero
    rw [if_pos rfl, if_neg (by simp), hmap [0] (by simp)]
    exact if_pos hn
  · have hdigits : ∀ d ∈ (Nat.digits 10 n).reverse, d < 10 := by
      intro d hd
      exact Nat.digits_lt_base (by omega) (List.mem_reverse.mp hd)
    have hfold : (Nat.digits 10 n).reverse.foldl (fun n d => 10 * n + d) 0 = n := by
      rw [List.foldl_reverse]
      have hof := Nat.ofDigits_digits 10 n
      rw [Nat.ofDigits_eq_foldr] at hof
      simpa [add_comm] using hof
    rw [if_neg hzero, if_neg (by simpa [Nat.digits_eq_nil_iff_eq_zero] using hzero), hmap _ hdigits, Option.bind_some]
    dsimp only
    rw [hfold, if_pos hn]

end Decimal
end Go
