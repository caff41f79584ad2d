import ErgGo.Lib.Bytes

/-!
# File names

`filepath.Base` and `filepath.Ext` on Unix, and the functions of `strings` and `regexp` that
names are cleaned with.
-/

namespace Go.Bytes

def slash : UInt8 := 0x2F

def backslash : UInt8 := 0x5C

def dot : UInt8 := 0x2E

def dash : UInt8 := 0x2D

def underscore : UInt8 := 0x5F

/-- `filepath.Base`. -/
def base (path : Bytes) : Bytes :=
  if path = [] then bytes "."
  else
    let last := (path.rdropWhile (· = slash)).rtakeWhile (· ≠ slash)
    if last = [] then bytes "/" else last

/-- `filepath.Ext`: from the last dot of the last element on. -/
def ext (path : Bytes) : Bytes :=
  let last := path.rtakeWhile (· ≠ slash)
  if dot ∈ last then dot :: last.rtakeWhile (· ≠ dot) else []

/-- `strings.TrimSuffix`. -/
def trimSuffix (final s : Bytes) : Bytes := if final <:+ s then s.take (s.length - final.length) else s

/-- `strings.ReplaceAll`, of a byte by a byte. -/
def replaceAll (old new : UInt8) (s : Bytes) : Bytes := s.map fun b => if b = old then new else b

/-- `ReplaceAllString` of the expression for runs of bytes that are not kept. -/
def replaceRuns (keep : UInt8 → Bool) (new : UInt8) : Bytes → Bytes
  | [] => []
  | b :: s =>
    if keep b then b :: replaceRuns keep new s
    else if s.head?.all keep then new :: replaceRuns keep new s
    else replaceRuns keep new s

/-- `strings.ToLower`. -/
def lower [Library] (s : Bytes) : Bytes := encodeRunes (lowerRunes s)

/-- Neither end is in the cutset. -/
structure Trimmed (cutset s : Bytes) : Prop where
  head : ∀ b ∈ s.head?, b ∉ cutset
  last : ∀ b ∈ s.getLast?, b ∉ cutset

lemma base_eq_self {s : Bytes} (hne : s ≠ []) (h : slash ∉ s) : base s = s := by
  have hall : ∀ b ∈ s, b ≠ slash := fun b hb hslash => h (hslash ▸ hb)
  have hdrop : s.rdropWhile (· = slash) = s := by
    refine List.rdropWhile_eq_self_iff.mpr fun hl => ?_
    simpa using hall _ (List.getLast_mem hl)
  have htake : s.rtakeWhile (· ≠ slash) = s := List.rtakeWhile_eq_self_iff.mpr (by simpa using hall)
  unfold base
  simp only [if_neg hne, hdrop, htake]

lemma ext_eq_nil {s : Bytes} (h : dot ∉ s) : ext s = [] :=
  if_neg fun hdot => h ((List.rtakeWhile_suffix _ _).subset hdot)

lemma rtakeWhile_append_cons {p : UInt8 → Bool} {tail : Bytes} (htail : ∀ b ∈ tail, p b) {a : UInt8} (ha : ¬p a)
    (stem : Bytes) : (stem ++ a :: tail).rtakeWhile p = tail := by
  have hreverse : (stem ++ a :: tail).reverse = tail.reverse ++ a :: stem.reverse := by simp
  have hall : ∀ b ∈ tail.reverse, p b := fun b hb => htail b (List.mem_reverse.mp hb)
  rw [List.rtakeWhile, hreverse, List.takeWhile_append_of_pos hall, List.takeWhile_cons_of_neg ha, List.append_nil,
    List.reverse_reverse]

/-- The extension begins with the last dot. -/
lemma ext_append {stem tail : Bytes} (hstem : slash ∉ stem) (htail : slash ∉ tail) (hdot : dot ∉ tail) :
    ext (stem ++ dot :: tail) = dot :: tail := by
  have hlast : (stem ++ dot :: tail).rtakeWhile (· ≠ slash) = stem ++ dot :: tail := by
    refine List.rtakeWhile_eq_self_iff.mpr fun b hb => decide_eq_true fun hslash => ?_
    rw [hslash] at hb
    rcases List.mem_append.mp hb with hb | hb
    · exact hstem hb
    · rcases List.mem_cons.mp hb with hb | hb
      · cases hb
      · exact htail hb
  have hne : ∀ b ∈ tail, decide (b ≠ dot) = true := fun b hb => decide_eq_true fun h => hdot (h ▸ hb)
  unfold ext
  simp only [hlast]
  rw [if_pos (by simp), rtakeWhile_append_cons hne (by simp)]

lemma exists_last_dot {s : Bytes} (h : dot ∈ s) : ∃ stem tail, s = stem ++ dot :: tail ∧ dot ∉ tail := by
  obtain ⟨tail, stem, hs, htail⟩ := List.eq_append_cons_of_mem (List.mem_reverse.mpr h)
  refine ⟨stem.reverse, tail.reverse, ?_, mt List.mem_reverse.mp htail⟩
  rw [← List.reverse_reverse s, hs]
  simp

lemma trimSuffix_append (s final : Bytes) : trimSuffix final (s ++ final) = s := by
  unfold trimSuffix
  rw [if_pos (List.suffix_append s final)]
  simp

lemma trimSuffix_singleton (c : UInt8) (s : Bytes) :
    trimSuffix [c] s = if s.getLast? = some c then s.dropLast else s := by
  have hiff : [c] <:+ s ↔ s.getLast? = some c := by
    constructor
    · rintro ⟨rest, rfl⟩
      simp
    · intro hlast
      obtain ⟨rest, rfl⟩ := List.getLast?_eq_some_iff.mp hlast
      exact List.suffix_append rest [c]
  simp only [trimSuffix, hiff, List.length_singleton, List.dropLast_eq_take]

/-- Only the last part is trimmed, unless it is empty. -/
lemma trimSuffix_append_right {c : UInt8} {s : Bytes} (hs : s.getLast? ≠ some c) (rest : Bytes) :
    trimSuffix [c] (s ++ rest) = s ++ trimSuffix [c] rest := by
  simp only [trimSuffix_singleton]
  obtain rfl | hne := eq_or_ne rest []
  · simp [hs]
  · rw [List.getLast?_append, List.getLast?_eq_some_getLast hne, Option.some_or, List.dropLast_append_of_ne_nil hne]
    split <;> rfl

lemma replaceAll_eq_self {old new : UInt8} {s : Bytes} (h : old ∉ s) : replaceAll old new s = s := by
  refine (List.map_congr_left fun b hb => ?_).trans (List.map_id s)
  have hne : b ≠ old := fun hold => h (hold ▸ hb)
  exact if_neg hne

lemma mem_intercalate {sep b : UInt8} {parts : List Bytes} (h : b ∈ [sep].intercalate parts) :
    b = sep ∨ ∃ part ∈ parts, b ∈ part := by
  induction parts with
  | nil => cases h
  | cons part parts ih =>
    by_cases hparts : parts = []
    · subst hparts
      exact .inr ⟨part, List.mem_cons_self, by simpa using h⟩
    · rw [List.intercalate_cons_of_ne_nil hparts] at h
      rcases List.mem_append.mp h with h | h
      · rcases List.mem_append.mp h with h | h
        · exact .inr ⟨part, List.mem_cons_self, h⟩
        · exact .inl (List.mem_singleton.mp h)
      · exact (ih h).imp_right fun ⟨rest, hrest, hb⟩ => ⟨rest, List.mem_cons_of_mem _ hrest, hb⟩

lemma mem_replaceRuns {keep : UInt8 → Bool} {new : UInt8} (hnew : keep new) {s : Bytes} :
    ∀ b ∈ replaceRuns keep new s, keep b := by
  induction s with
  | nil => simp [replaceRuns]
  | cons a s ih =>
    intro b hb
    unfold replaceRuns at hb
    split at hb
    · next hkeep =>
      rcases List.mem_cons.mp hb with rfl | hb
      · exact hkeep
      · exact ih b hb
    · split at hb
      · rcases List.mem_cons.mp hb with rfl | hb
        · exact hnew
        · exact ih b hb
      · exact ih b hb

lemma replaceRuns_eq_self {keep : UInt8 → Bool} {new : UInt8} {s : Bytes} (h : ∀ b ∈ s, keep b) :
    replaceRuns keep new s = s := by
  induction s with
  | nil => rfl
  | cons b s ih =>
    have hs := ih fun a ha => h a (List.mem_cons_of_mem b ha)
    rw [replaceRuns, if_pos (h b List.mem_cons_self), hs]

lemma trim_inside (cutset s : Bytes) : trim cutset s <:+: s :=
  (List.rdropWhile_prefix _ _).isInfix.trans (List.dropWhile_suffix _).isInfix

lemma trimmed_trim (cutset s : Bytes) : Trimmed cutset (trim cutset s) := by
  constructor
  · intro b hb
    obtain ⟨rest, hrest⟩ : trim cutset s <+: s.dropWhile (· ∈ cutset) := List.rdropWhile_prefix _ _
    have hhead : (s.dropWhile (· ∈ cutset)).head? = some b := by
      rw [← hrest, List.head?_append, Option.mem_def.mp hb, Option.some_or]
    have hnot := List.head?_dropWhile_not (fun b => decide (b ∈ cutset)) s
    rw [hhead] at hnot
    exact of_decide_eq_false hnot
  · intro b hb
    obtain ⟨hne, rfl⟩ := List.mem_getLast?_eq_getLast hb
    have hnot := List.rdropWhile_last_not (fun b => decide (b ∈ cutset)) (s.dropWhile (· ∈ cutset)) hne
    exact fun hmem => hnot (decide_eq_true hmem)

lemma trim_eq_self {cutset s : Bytes} (h : Trimmed cutset s) : trim cutset s = s := by
  have hleft : s.dropWhile (· ∈ cutset) = s := by
    refine List.dropWhile_eq_self_iff.mpr fun hl hmem => ?_
    refine h.head _ ?_ (of_decide_eq_true hmem)
    rw [Option.mem_def, List.head?_eq_getElem?, List.getElem?_eq_getElem hl]
  rw [trim, hleft]
  refine List.rdropWhile_eq_self_iff.mpr fun hl hmem => ?_
  exact h.last _ (List.getLast?_eq_some_getLast hl) (of_decide_eq_true hmem)

end Go.Bytes
