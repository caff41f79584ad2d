import ErgGo.Lib.Url

/-!
# Data URLs

`url.QueryEscape`, which is the encoding of a form, and the data of a `data:` URL, where only
percent escapes are decoded.
-/

namespace Go.Url
open Bytes

def space : UInt8 := 0x20

def plus : UInt8 := 0x2B

def comma : UInt8 := 0x2C

/-- Letters, digits, `-`, `_`, `.` and `~`. -/
def unreserved (b : UInt8) : Bool :=
  letter b || (0x30 ≤ b && b ≤ 0x39) || b = 0x2D || b = 0x5F || b = 0x2E || b = 0x7E

def upperhex (n : ℕ) : UInt8 := UInt8.ofNat (if n < 10 then 0x30 + n else 0x37 + n)

def escapeByte (b : UInt8) : Bytes :=
  if unreserved b then [b]
  else if b = space then [plus]
  else [percent, upperhex (b.toNat / 16), upperhex (b.toNat % 16)]

/-- `url.QueryEscape`. -/
def queryEscape (s : Bytes) : Bytes := s.flatMap escapeByte

/-- What is left of a space once only percent escapes are decoded. -/
def spaceAsPlus (b : UInt8) : UInt8 := if b = space then plus else b

lemma unhex_upperhex {n : ℕ} (h : n < 16) : unhex (upperhex n) = some (UInt8.ofNat n) := by
  have hall : ∀ n < 16, unhex (upperhex n) = some (UInt8.ofNat n) := by decide
  exact hall n h

lemma unescape_escapeByte (b : UInt8) (s : Bytes) :
    unescape (escapeByte b ++ s) = (unescape s).map (spaceAsPlus b :: ·) := by
  unfold escapeByte
  split
  · rename_i hunreserved
    have hpercent : b ≠ percent := by
      rintro rfl
      exact absurd hunreserved (by decide)
    have hspace : b ≠ space := by
      rintro rfl
      exact absurd hunreserved (by decide)
    rw [spaceAsPlus, if_neg hspace]
    exact unescape_cons hpercent s
  · split
    · rename_i hspace
      rw [spaceAsPlus, if_pos hspace]
      exact unescape_cons (by decide) s
    · rename_i hspace
      have hb := b.toNat_lt
      have hbyte : 16 * UInt8.ofNat (b.toNat / 16) + UInt8.ofNat (b.toNat % 16) = b := by
        apply UInt8.toNat_inj.mp
        simp only [UInt8.toNat_add, UInt8.toNat_mul, UInt8.toNat_ofNat', UInt8.reduceToNat]
        omega
      rw [spaceAsPlus, if_neg hspace]
      refine (unescape_escape _ _ s).trans ?_
      rw [unhex_upperhex (by omega), unhex_upperhex (by omega), Option.bind_some, Option.bind_some, hbyte]

/-- Every byte comes back but the space. -/
theorem unescape_queryEscape (s : Bytes) : unescape (queryEscape s) = some (s.map spaceAsPlus) := by
  induction s with
  | nil => rfl
  | cons b s ih =>
    rw [queryEscape, List.flatMap_cons, unescape_escapeByte]
    rw [queryEscape] at ih
    rw [ih]
    rfl

lemma map_spaceAsPlus_eq_self {s : Bytes} : s.map spaceAsPlus = s ↔ space ∉ s := by
  have hbyte : ∀ b, spaceAsPlus b = b ↔ b ≠ space := by
    intro b
    unfold spaceAsPlus
    split
    · rename_i hspace
      subst hspace
      decide
    · rename_i hspace
      simp [hspace]
  nth_rewrite 2 [← List.map_id s]
  rw [List.map_inj_left]
  constructor
  · exact fun h hspace => (hbyte space).mp (h space hspace) rfl
  · exact fun h b hb => (hbyte b).mpr fun heq => h (heq ▸ hb)

/-! ## The data -/

def dataScheme : Bytes := bytes "data:"

/-- The data behind the media type, which may not ask for base64. -/
def dataOf (url : Bytes) : Option Bytes :=
  if dataScheme <+: url then
    (cut comma (url.drop dataScheme.length)).bind fun (mediatype, data) =>
      if bytes ";base64" <:+ mediatype then none else unescape data
  else none

end Go.Url
