import ErgGo.Lib.Runes
import Mathlib.Data.List.DropRight

/-!
# Byte strings

The functions of `strings` on the bytes of a Go string, which need not be UTF-8. A white space
rune is looked for by the bytes that encode it: at either end of a string these bytes are read
as that rune, whatever stands beside them.
-/

namespace Go

abbrev Bytes := List UInt8

/-- A property of the bytes of a string is decided by looking at these bytes only. -/
instance (priority := 2000) decidableForallBytes (p : UInt8 → Prop) [DecidablePred p] (s : Bytes) :
    Decidable (∀ b ∈ s, p b) := List.decidableBAll p s

/-- `[]byte(s)`. -/
def bytes (s : String) : Bytes := encodeRunes s.toList

/-- The encodings of the white space runes. -/
def spaces : List Bytes :=
  [[0x09], [0x0A], [0x0B], [0x0C], [0x0D], [0x20], [0xC2, 0x85], [0xC2, 0xA0], [0xE1, 0x9A, 0x80],
    [0xE2, 0x80, 0x80], [0xE2, 0x80, 0x81], [0xE2, 0x80, 0x82], [0xE2, 0x80, 0x83], [0xE2, 0x80, 0x84],
    [0xE2, 0x80, 0x85], [0xE2, 0x80, 0x86], [0xE2, 0x80, 0x87], [0xE2, 0x80, 0x88], [0xE2, 0x80, 0x89],
    [0xE2, 0x80, 0x8A], [0xE2, 0x80, 0xA8], [0xE2, 0x80, 0xA9], [0xE2, 0x80, 0xAF], [0xE2, 0x81, 0x9F],
    [0xE3, 0x80, 0x80]]

/-- The characters `!` to `~`. -/
def graphic (b : UInt8) : Bool := 0x21 ≤ b && b ≤ 0x7E

namespace Bytes

/-- Leaves out these words from the beginning, as many as the fuel. -/
def stripWithin (words : List Bytes) : ℕ → Bytes → Bytes
  | 0, s => s
  | n + 1, s => (words.find? (·.isPrefixOf s)).elim s (fun word => stripWithin words n (s.drop word.length))

def strip (words : List Bytes) (s : Bytes) : Bytes := stripWithin words s.length s

/-- `strings.TrimSpace`. -/
def trimSpace (s : Bytes) : Bytes := (strip (spaces.map List.reverse) (strip spaces s).reverse).reverse

/-- `strings.Trim`, for a cutset of ASCII characters. -/
def trim (cutset s : Bytes) : Bytes := (s.dropWhile (· ∈ cutset)).rdropWhile (· ∈ cutset)

/-- `strings.TrimPrefix`. -/
def trimPrefix (initial s : Bytes) : Bytes := if initial <+: s then s.drop initial.length else s

/-- `strings.Contains`. -/
def contains (s substr : Bytes) : Bool := substr <:+: s

/-- `strings.Cut`, at a byte. -/
def cut (sep : UInt8) (s : Bytes) : Option (Bytes × Bytes) :=
  if sep ∈ s then some (s.takeWhile (· ≠ sep), (s.dropWhile (· ≠ sep)).tail) else none

lemma stripWithin_eq_self {words : List Bytes} {s : Bytes} (h : ∀ word ∈ words, ¬word <+: s) (n : ℕ) :
    stripWithin words n s = s := by
  cases n with
  | zero => rfl
  | succ n =>
    have hnone : words.find? (·.isPrefixOf s) = none := by
      refine List.find?_eq_none.mpr fun word hword hstarts => h word hword ?_
      exact List.isPrefixOf_iff_prefix.mp hstarts
    rw [stripWithin, hnone, Option.elim_none]

lemma stripWithin_suffix (words : List Bytes) (n : ℕ) (s : Bytes) : stripWithin words n s <:+ s := by
  induction n generalizing s with
  | zero => exact List.suffix_rfl
  | succ n ih =>
    rw [stripWithin]
    cases words.find? (·.isPrefixOf s) with
    | none => exact List.suffix_rfl
    | some word => exact (ih (s.drop word.length)).trans (List.drop_suffix word.length s)

/-- Stripping leaves out something exactly where a word stands at the beginning. -/
lemma strip_eq_self_iff {words : List Bytes} (hwords : [] ∉ words) {s : Bytes} :
    strip words s = s ↔ ∀ word ∈ words, ¬word <+: s := by
  constructor
  · intro hself word hword hstarts
    have hfound : (words.find? (·.isPrefixOf s)).isSome :=
      List.find?_isSome.mpr ⟨word, hword, List.isPrefixOf_iff_prefix.mpr hstarts⟩
    obtain ⟨first, hfirst⟩ := Option.isSome_iff_exists.mp hfound
    have hlength : 0 < first.length := by
      refine List.length_pos_iff.mpr fun hempty => hwords ?_
      rw [← hempty]
      exact List.mem_of_find?_eq_some hfirst
    have hmatch := List.find?_some (p := fun word : Bytes => word.isPrefixOf s) hfirst
    have hstarts : first <+: s := List.isPrefixOf_iff_prefix.mp hmatch
    have hle := hstarts.length_le
    have hstripped : (strip words s).length ≤ (s.drop first.length).length := by
      obtain ⟨n, hn⟩ : ∃ n, s.length = n + 1 := ⟨s.length - 1, by omega⟩
      rw [strip, hn, stripWithin, hfirst, Option.elim_some]
      exact (stripWithin_suffix words n (s.drop first.length)).length_le
    rw [hself, List.length_drop] at hstripped
    omega
  · exact fun h => stripWithin_eq_self h _

lemma nil_notMem_spaces : ([] : Bytes) ∉ spaces ∧ [] ∉ spaces.map List.reverse := by decide

/-- What has no white space at either end, and only that, is not trimmed. -/
theorem trimSpace_eq_self_iff {s : Bytes} :
    trimSpace s = s ↔ (∀ word ∈ spaces, ¬word <+: s) ∧ ∀ word ∈ spaces, ¬word <:+ s := by
  have hright : ∀ t : Bytes, strip (spaces.map List.reverse) t.reverse = t.reverse ↔ ∀ word ∈ spaces, ¬word <:+ t := by
    intro t
    rw [strip_eq_self_iff nil_notMem_spaces.2]
    simp only [List.mem_map, forall_exists_index, and_imp, forall_apply_eq_imp_iff₂, List.reverse_prefix]
  have hlength : (trimSpace s).length ≤ (strip spaces s).length := by
    rw [trimSpace, List.length_reverse]
    exact (stripWithin_suffix _ _ _).length_le.trans_eq List.length_reverse
  constructor
  · intro hself
    have hleft : strip spaces s = s := by
      rw [hself] at hlength
      exact (stripWithin_suffix spaces s.length s).eq_of_length_le hlength
    refine ⟨strip_eq_self_iff nil_notMem_spaces.1 |>.mp hleft, (hright s).mp ?_⟩
    rw [trimSpace, hleft] at hself
    rw [← List.reverse_inj, List.reverse_reverse]
    exact hself
  · rintro ⟨hleft, hsuffix⟩
    rw [trimSpace, (strip_eq_self_iff nil_notMem_spaces.1).mpr hleft, (hright s).mpr hsuffix, List.reverse_reverse]

/-- What does not begin with white space is trimmed at the end only. -/
lemma trimSpace_prefix {s : Bytes} (h : ∀ word ∈ spaces, ¬word <+: s) : trimSpace s <+: s := by
  rw [trimSpace, (strip_eq_self_iff nil_notMem_spaces.1).mpr h]
  refine List.reverse_suffix.mp ?_
  rw [List.reverse_reverse]
  exact stripWithin_suffix _ _ _

lemma not_prefix_of_graphic {s : Bytes} (h : ∀ b ∈ s.head?, graphic b) {word : Bytes} (hword : word ∈ spaces) :
    ¬word <+: s := by
  have hfirst : ∀ word ∈ spaces, ∃ b ∈ word.head?, ¬graphic b := by decide
  obtain ⟨b, hb, hspace⟩ := hfirst word hword
  rintro ⟨rest, rfl⟩
  refine hspace (h b ?_)
  rw [Option.mem_def] at hb ⊢
  rw [List.head?_append, hb]
  rfl

lemma prefix_of_prefix_append {word s rest : Bytes} {c : UInt8} (h : word <+: s ++ c :: rest) (hc : c ∉ word) :
    word <+: s := by
  by_cases hlength : word.length ≤ s.length
  · exact List.prefix_of_prefix_length_le h (List.prefix_append s _) hlength
  · have hlonger : s ++ [c] <+: word := by
      refine List.prefix_of_prefix_length_le ⟨rest, by simp⟩ h ?_
      rw [List.length_append, List.length_singleton]
      omega
    exact absurd (hlonger.subset (by simp)) hc

lemma not_suffix_of_graphic {s : Bytes} (h : ∀ b ∈ s.getLast?, graphic b) {word : Bytes} (hword : word ∈ spaces) :
    ¬word <:+ s := by
  have hlast : ∀ word ∈ spaces, ∃ b ∈ word.getLast?, ¬graphic b := by decide
  obtain ⟨b, hb, hspace⟩ := hlast word hword
  rintro ⟨rest, rfl⟩
  refine hspace (h b ?_)
  rw [Option.mem_def] at hb ⊢
  rw [List.getLast?_append, hb]
  rfl

lemma cut_append {sep : UInt8} {key : Bytes} (hkey : sep ∉ key) (value : Bytes) :
    cut sep (key ++ sep :: value) = some (key, value) := by
  have hne : ∀ b ∈ key, b ≠ sep := fun b hb h => hkey (h ▸ hb)
  unfold cut
  rw [if_pos (by simp), List.takeWhile_append_of_pos (by simpa using hne),
    List.dropWhile_append_of_pos (by simpa using hne)]
  simp

lemma cut_eq_some {sep : UInt8} {s key value : Bytes} (h : cut sep s = some (key, value)) :
    s = key ++ sep :: value ∧ sep ∉ key := by
  unfold cut at h
  split at h
  · rename_i hmem
    obtain ⟨rfl, rfl⟩ := Prod.mk.inj (Option.some.inj h)
    have hrest : s.dropWhile (· ≠ sep) ≠ [] := by simpa [List.dropWhile_eq_nil_iff] using hmem
    have hsep : (s.dropWhile (· ≠ sep)).head hrest = sep := by
      simpa using List.head_dropWhile_not (· ≠ sep) hrest
    refine ⟨?_, fun hin => by simpa using List.mem_takeWhile_imp hin⟩
    conv_lhs => rw [← List.takeWhile_append_dropWhile (p := (· ≠ sep)) (l := s), ← List.cons_head_tail hrest, hsep]
  · cases h

lemma contains_singleton {s : Bytes} {c : UInt8} : contains s [c] = true ↔ c ∈ s := by
  rw [contains, decide_eq_true_eq, List.singleton_infix_iff]

lemma length_le_trimPrefix (initial s : Bytes) : s.length ≤ (trimPrefix initial s).length + initial.length := by
  unfold trimPrefix
  split
  · rw [List.length_drop]
    omega
  · omega

lemma trimPrefix_append (initial s : Bytes) : trimPrefix initial (initial ++ s) = s := by
  rw [trimPrefix, if_pos (List.prefix_append initial s), List.drop_left]

/-- Words of graphic characters have no white space. -/
lemma trimSpace_of_graphic {s : Bytes} (h : ∀ b ∈ s, graphic b) : trimSpace s = s := by
  have hspaces : ∀ word ∈ spaces, ∃ b ∈ word, ¬graphic b := by decide
  refine trimSpace_eq_self_iff.mpr ⟨fun word hword => ?_, fun word hword hends => ?_⟩
  · exact not_prefix_of_graphic (fun b hb => h b (List.mem_of_head? hb)) hword
  · obtain ⟨b, hb, hspace⟩ := hspaces word hword
    exact hspace (h b (hends.subset hb))

end Bytes
end Go
