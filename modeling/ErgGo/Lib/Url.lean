import ErgGo.Lib.Filepath

/-!
# URLs

`url.Parse`, as far as the scheme, the host and the path of a URL. How an authority names its
host is the library's.
-/

namespace Go

class UrlLibrary where
  /-- The host that `parseAuthority` finds for a scheme; none for what is no authority. -/
  parseAuthority : (scheme authority : Bytes) → Option Bytes

structure Url where
  scheme : Bytes
  host : Bytes
  path : Bytes
  deriving DecidableEq

namespace Url
open Bytes

def colon : UInt8 := 0x3A

def percent : UInt8 := 0x25

def numberSign : UInt8 := 0x23

def questionMark : UInt8 := 0x3F

def letter (b : UInt8) : Bool := (0x61 ≤ b && b ≤ 0x7A) || (0x41 ≤ b && b ≤ 0x5A)

/-- Letters, digits, `+`, `-` and `.`. -/
def schemeByte (b : UInt8) : Bool := letter b || (0x30 ≤ b && b ≤ 0x39) || b = 0x2B || b = 0x2D || b = 0x2E

def control (b : UInt8) : Bool := b < 0x20 || b = 0x7F

def unhex (c : UInt8) : Option UInt8 :=
  if 0x30 ≤ c && c ≤ 0x39 then some (c - 0x30)
  else if 0x61 ≤ c && c ≤ 0x66 then some (c - 0x61 + 10)
  else if 0x41 ≤ c && c ≤ 0x46 then some (c - 0x41 + 10)
  else none

/-- `unescape` for a path or a fragment. -/
def unescape : Bytes → Option Bytes
  | [] => some []
  | b :: s =>
    if b = percent then
      match s with
      | high :: low :: s =>
        (unhex high).bind fun high => (unhex low).bind fun low => (unescape s).map ((16 * high + low) :: ·)
      | _ => none
    else (unescape s).map (b :: ·)

/-- The scheme and what follows; none where a scheme is missing before its colon. -/
def getScheme (rawURL : Bytes) : Option (Bytes × Bytes) :=
  let scheme := rawURL.takeWhile schemeByte
  match rawURL.dropWhile schemeByte with
  | [] => some ([], rawURL)
  | b :: rest =>
    if b ≠ colon then some ([], rawURL)
    else scheme.head?.elim none fun first => some (if letter first then (scheme, rest) else ([], rawURL))

/-- `strings.ToLower` of a scheme. -/
def lowerScheme (scheme : Bytes) : Bytes := scheme.map fun b => if 0x41 ≤ b && b ≤ 0x5A then b + 0x20 else b

/-- `parse`, of a URL without fragment. -/
def parseReference [UrlLibrary] (rawURL : Bytes) : Option Url :=
  if rawURL.any control then none
  else if rawURL = bytes "*" then some ⟨[], [], bytes "*"⟩
  else
    (getScheme rawURL).bind fun (scheme, rest) =>
      let scheme := lowerScheme scheme
      let rest := rest.takeWhile (· ≠ questionMark)
      if ¬[slash] <+: rest ∧ scheme ≠ [] then some ⟨scheme, [], []⟩
      else if ¬[slash] <+: rest ∧ colon ∈ rest.takeWhile (· ≠ slash) then none
      else if (scheme ≠ [] ∨ ¬[slash, slash, slash] <+: rest) ∧ [slash, slash] <+: rest then
        let authority := rest.drop 2
        (UrlLibrary.parseAuthority scheme (authority.takeWhile (· ≠ slash))).bind fun host =>
          (unescape (authority.dropWhile (· ≠ slash))).map fun path => ⟨scheme, host, path⟩
      else (unescape rest).map fun path => ⟨scheme, [], path⟩

/-- `url.Parse`. -/
def parse [UrlLibrary] (rawURL : Bytes) : Option Url :=
  let fragment := (rawURL.dropWhile (· ≠ numberSign)).tail
  (parseReference (rawURL.takeWhile (· ≠ numberSign))).bind fun url => (unescape fragment).map fun _ => url

lemma unescape_cons {b : UInt8} (hb : b ≠ percent) (s : Bytes) :
    unescape (b :: s) = (unescape s).map (b :: ·) := by
  rcases s with - | ⟨c, - | ⟨d, s⟩⟩
  all_goals exact if_neg hb

lemma unescape_escape (high low : UInt8) (s : Bytes) : unescape (percent :: high :: low :: s) =
    (unhex high).bind fun high => (unhex low).bind fun low => (unescape s).map ((16 * high + low) :: ·) :=
  if_pos rfl

lemma unescape_eq_self {s : Bytes} (h : percent ∉ s) : unescape s = some s := by
  induction s with
  | nil => rfl
  | cons b s ih =>
    have hb : b ≠ percent := fun hb => h (hb ▸ List.mem_cons_self)
    rw [unescape_cons hb, ih fun hs => h (List.mem_cons_of_mem b hs)]
    rfl

/-- No escape goes across a slash. -/
lemma unescape_append_slash (s rest : Bytes) : unescape (s ++ slash :: rest) =
    (unescape s).bind fun s => (unescape rest).map fun rest => s ++ slash :: rest := by
  have hslash : unhex slash = none := by decide
  fun_induction unescape s with
  | case1 => exact unescape_cons (by decide) rest
  | case2 high low s ih =>
    change unescape (percent :: high :: low :: (s ++ slash :: rest)) = _
    rw [unescape_escape, ih]
    cases unhex high <;> cases unhex low <;> cases unescape s <;> cases unescape rest <;> rfl
  | case3 s hshort =>
    -- the slash would be a digit of the escape
    obtain - | ⟨high, - | ⟨low, s⟩⟩ := s
    · cases rest with
      | nil => rfl
      | cons low rest => exact (unescape_escape slash low rest).trans (by rw [hslash]; rfl)
    · refine (unescape_escape high slash rest).trans ?_
      rw [hslash]
      cases unhex high <;> rfl
    · exact (hshort high low s rfl).elim
  | case4 b s hb ih =>
    rw [List.cons_append, unescape_cons hb, ih]
    cases unescape s <;> cases unescape rest <;> rfl

/-- What stands in a URL before its query. -/
def plain (b : UInt8) : Bool := !control b && b ≠ numberSign && b ≠ questionMark

structure IsScheme (scheme : Bytes) : Prop where
  head : ∃ b ∈ scheme.head?, letter b
  chars : ∀ b ∈ scheme, schemeByte b

lemma getScheme_append {scheme : Bytes} (h : IsScheme scheme) (rest : Bytes) :
    getScheme (scheme ++ colon :: rest) = some (scheme, rest) := by
  obtain ⟨first, hfirst, hletter⟩ := h.head
  have hcolon : ¬schemeByte colon := by decide
  unfold getScheme
  simp only [List.takeWhile_append_of_pos h.chars, List.dropWhile_append_of_pos h.chars,
    List.takeWhile_cons_of_neg hcolon, List.dropWhile_cons_of_neg hcolon, List.append_nil, Option.mem_def.mp hfirst,
    ne_eq, not_true_eq_false, if_false, Option.elim_some, if_pos hletter]

lemma plain_of_schemeByte {b : UInt8} (h : schemeByte b) : plain b := by
  simp only [schemeByte, letter, plain, control, numberSign, questionMark, Bool.or_eq_true, Bool.and_eq_true,
    Bool.not_eq_true', Bool.or_eq_false_iff, decide_eq_true_eq, decide_eq_false_iff_not, ne_eq,
    UInt8.le_iff_toNat_le, UInt8.lt_iff_toNat_lt, ← UInt8.toNat_inj, UInt8.reduceToNat] at h ⊢
  omega

lemma takeWhile_of_plain {s : Bytes} (h : ∀ b ∈ s, plain b) {c : UInt8} (hc : plain c = false) :
    s.takeWhile (· ≠ c) = s ∧ s.dropWhile (· ≠ c) = [] := by
  have hne : ∀ b ∈ s, decide (b ≠ c) = true := by
    refine fun b hb => decide_eq_true fun hbc => ?_
    rw [← hbc, h b hb] at hc
    cases hc
  exact ⟨List.takeWhile_eq_self_iff.mpr hne, List.dropWhile_eq_nil_iff.mpr hne⟩

/-- A URL without query and fragment is read part by part. -/
theorem parse_append [UrlLibrary] {scheme authority path : Bytes} (hscheme : IsScheme scheme)
    (hauthority : ∀ b ∈ authority, plain b ∧ b ≠ slash) (hpath : ∀ b ∈ path, plain b)
    (hroot : path = [] ∨ [slash] <+: path) :
    parse (scheme ++ colon :: slash :: slash :: (authority ++ path)) =
      (UrlLibrary.parseAuthority (lowerScheme scheme) authority).bind fun host =>
        (unescape path).map fun path => ⟨lowerScheme scheme, host, path⟩ := by
  obtain ⟨first, hfirst, -⟩ := hscheme.head
  have hlower : lowerScheme scheme ≠ [] := by
    intro h
    rw [List.map_eq_nil_iff.mp h] at hfirst
    cases hfirst
  have htail : ∀ b ∈ slash :: slash :: (authority ++ path), plain b := by
    simp only [List.mem_cons, List.mem_append]
    rintro b (rfl | rfl | hb | hb)
    · decide
    · decide
    · exact (hauthority b hb).1
    · exact hpath b hb
  have hplain : ∀ b ∈ scheme ++ colon :: slash :: slash :: (authority ++ path), plain b := by
    intro b hb
    rcases List.mem_append.mp hb with hb | hb
    · exact plain_of_schemeByte (hscheme.chars b hb)
    · rcases List.mem_cons.mp hb with rfl | hb
      · decide
      · exact htail b hb
  have hhash := takeWhile_of_plain hplain (c := numberSign) (by decide)
  have hquestion := takeWhile_of_plain htail (c := questionMark) (by decide)
  have hcontrol : (scheme ++ colon :: slash :: slash :: (authority ++ path)).any control = false := by
    refine List.any_eq_false.mpr fun b hb hcontrol => ?_
    have hb := hplain b hb
    simp [plain, hcontrol] at hb
  have hstar : scheme ++ colon :: slash :: slash :: (authority ++ path) ≠ bytes "*" := by
    intro h
    have hmem : colon ∈ bytes "*" := h ▸ by simp
    exact absurd hmem (by decide)
  have hslash : ∀ b ∈ authority, decide (b ≠ slash) = true := fun b hb => decide_eq_true (hauthority b hb).2
  have hsplit : (authority ++ path).takeWhile (· ≠ slash) = authority ∧
      (authority ++ path).dropWhile (· ≠ slash) = path := by
    rw [List.takeWhile_append_of_pos hslash, List.dropWhile_append_of_pos hslash]
    rcases hroot with rfl | ⟨path, rfl⟩
    · simp
    · simp
  have hreference : parseReference (scheme ++ colon :: slash :: slash :: (authority ++ path)) =
      (UrlLibrary.parseAuthority (lowerScheme scheme) authority).bind fun host =>
        (unescape path).map fun path => ⟨lowerScheme scheme, host, path⟩ := by
    have hone : [slash] <+: slash :: slash :: (authority ++ path) := ⟨_, rfl⟩
    have htwo : [slash, slash] <+: slash :: slash :: (authority ++ path) := ⟨_, rfl⟩
    unfold parseReference
    rw [if_neg (by simp [hcontrol]), if_neg hstar, getScheme_append hscheme]
    simp only [Option.bind_some, hquestion.1]
    rw [if_neg fun h => h.1 hone, if_neg fun h => h.1 hone, if_pos ⟨.inl hlower, htwo⟩]
    simp only [List.drop_succ_cons, List.drop_zero, hsplit]
  rw [parse, hhash.1, hhash.2, hreference]
  exact Option.bind_fun_some _

end Url
end Go
