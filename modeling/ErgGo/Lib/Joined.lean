import ErgGo.Lib.Runes
import Mathlib.Data.List.Infix

/-!
# Words with separators

A text of words with one separator between two of them: it is not empty, begins and ends within
a word and has no two separators beside each other. Cutting such a text leaves one, or one with a
separator behind it, which trimming takes away.
-/

namespace Go

/-- Elements that satisfy `p`, in words divided by single separators. -/
inductive Joined {α : Type*} (p : α → Prop) (sep : α) : List α → Prop
  | single {a : α} (ha : p a) : Joined p sep [a]
  | cons {a : α} {l : List α} (ha : p a) (hl : Joined p sep l) : Joined p sep (a :: l)
  | next {a : α} {l : List α} (ha : p a) (hl : Joined p sep l) : Joined p sep (a :: sep :: l)

namespace Joined

variable {α : Type*} {p q : α → Prop} {sep : α} {l : List α}

lemma of_forall (hne : l ≠ []) (h : ∀ a ∈ l, p a) : Joined p sep l := by
  induction l with
  | nil => exact absurd rfl hne
  | cons a l ih =>
    have ha := h a List.mem_cons_self
    by_cases hl : l = []
    · subst hl
      exact .single ha
    · exact .cons ha (ih hl fun a ha => h a (List.mem_cons_of_mem _ ha))

lemma mem (h : Joined p sep l) {a : α} (ha : a ∈ l) : p a ∨ a = sep := by
  induction h with
  | single hp => exact .inl (List.mem_singleton.mp ha ▸ hp)
  | cons hp _ ih =>
    obtain rfl | ha := List.mem_cons.mp ha
    · exact .inl hp
    · exact ih ha
  | next hp _ ih =>
    obtain rfl | ha := List.mem_cons.mp ha
    · exact .inl hp
    · obtain rfl | ha := List.mem_cons.mp ha
      · exact .inr rfl
      · exact ih ha

lemma imp (h : Joined p sep l) (hpq : ∀ a ∈ l, p a → q a) : Joined q sep l := by
  induction h with
  | single hp => exact .single (hpq _ List.mem_cons_self hp)
  | cons hp _ ih => exact .cons (hpq _ List.mem_cons_self hp) (ih fun a ha => hpq a (List.mem_cons_of_mem _ ha))
  | next hp _ ih =>
    exact .next (hpq _ List.mem_cons_self hp)
      (ih fun a ha => hpq a (List.mem_cons_of_mem _ (List.mem_cons_of_mem _ ha)))

lemma head (h : Joined p sep l) : ∃ a rest, l = a :: rest ∧ p a := by
  cases h with
  | single hp => exact ⟨_, _, rfl, hp⟩
  | cons hp _ => exact ⟨_, _, rfl, hp⟩
  | next hp _ => exact ⟨_, _, rfl, hp⟩

lemma last (h : Joined p sep l) : ∃ init a, l = init ++ [a] ∧ p a := by
  induction h with
  | single hp => exact ⟨[], _, rfl, hp⟩
  | cons _ _ ih =>
    obtain ⟨init, a, rfl, ha⟩ := ih
    exact ⟨_ :: init, a, rfl, ha⟩
  | next _ _ ih =>
    obtain ⟨init, a, rfl, ha⟩ := ih
    exact ⟨_ :: sep :: init, a, rfl, ha⟩

lemma append (h : Joined p sep l) {l' : List α} (h' : Joined p sep l') : Joined p sep (l ++ sep :: l') := by
  induction h with
  | single hp => exact .next hp h'
  | cons hp _ ih => exact .cons hp ih
  | next hp _ ih => exact .next hp ih

lemma not_twice (h : Joined p sep l) (hsep : ¬p sep) : ¬[sep, sep] <:+: l := by
  induction h with
  | single _ => exact fun hinner => absurd hinner.length_le (by simp)
  | cons hp hl ih =>
    intro hinner
    obtain hstart | hrest := List.infix_cons_iff.mp hinner
    · exact hsep ((List.cons_prefix_cons.mp hstart).1 ▸ hp)
    · exact ih hrest
  | next hp hl ih =>
    intro hinner
    obtain hstart | hrest := List.infix_cons_iff.mp hinner
    · exact hsep ((List.cons_prefix_cons.mp hstart).1 ▸ hp)
    · obtain hstart | hrest := List.infix_cons_iff.mp hrest
      · obtain ⟨a, rest, rfl, ha⟩ := hl.head
        exact hsep ((List.cons_prefix_cons.mp (List.cons_prefix_cons.mp hstart).2).1 ▸ ha)
      · exact ih hrest

/-- A beginning may end behind a separator. -/
lemma of_prefix (h : Joined p sep l) {t : List α} (ht : t <+: l) (hne : t ≠ []) :
    Joined p sep t ∨ ∃ init, Joined p sep init ∧ t = init ++ [sep] := by
  induction h generalizing t with
  | single hp =>
    obtain ⟨b, t, rfl⟩ := List.exists_cons_of_ne_nil hne
    obtain ⟨rfl, hrest⟩ := List.cons_prefix_cons.mp ht
    rw [List.prefix_nil.mp hrest]
    exact .inl (.single hp)
  | cons hp _ ih =>
    obtain ⟨b, t, rfl⟩ := List.exists_cons_of_ne_nil hne
    obtain ⟨rfl, hrest⟩ := List.cons_prefix_cons.mp ht
    by_cases hnil : t = []
    · subst hnil
      exact .inl (.single hp)
    · obtain hwhole | ⟨init, hinit, rfl⟩ := ih hrest hnil
      · exact .inl (.cons hp hwhole)
      · exact .inr ⟨b :: init, .cons hp hinit, rfl⟩
  | next hp _ ih =>
    obtain ⟨b, t, rfl⟩ := List.exists_cons_of_ne_nil hne
    obtain ⟨rfl, hsecond⟩ := List.cons_prefix_cons.mp ht
    obtain - | ⟨c, t⟩ := t
    · exact .inl (.single hp)
    · obtain ⟨rfl, hrest⟩ := List.cons_prefix_cons.mp hsecond
      by_cases hnil : t = []
      · subst hnil
        exact .inr ⟨[b], .single hp, rfl⟩
      · obtain hwhole | ⟨init, hinit, rfl⟩ := ih hrest hnil
        · exact .inl (.next hp hwhole)
        · exact .inr ⟨b :: c :: init, .next hp hinit, rfl⟩

end Joined

/-! ## Trimming and cutting -/

/-- What is trimmed away on either side does not matter. -/
lemma Joined.trim {p : Char → Prop} {sep : Char} {l : List Char} (h : Joined p sep l) {cutset : List Char}
    (hp : ∀ c, p c → c ∉ cutset) (lead tail : List Char) (hlead : ∀ c ∈ lead, c ∈ cutset)
    (htail : ∀ c ∈ tail, c ∈ cutset) : Go.trim (lead ++ (l ++ tail)) cutset = l := by
  obtain ⟨first, rest, hfirst, hpfirst⟩ := h.head
  obtain ⟨init, final, hfinal, hpfinal⟩ := h.last
  have hstart : (lead ++ (l ++ tail)).dropWhile (· ∈ cutset) = l ++ tail := by
    rw [List.dropWhile_append_of_pos (by simpa using hlead), hfirst, List.cons_append,
      List.dropWhile_cons_of_neg (by simpa using hp first hpfirst)]
  have hend : (tail.reverse ++ l.reverse).dropWhile (· ∈ cutset) = l.reverse := by
    rw [List.dropWhile_append_of_pos (by simpa using htail), hfinal, List.reverse_concat,
      List.dropWhile_cons_of_neg (by simpa using hp final hpfinal)]
  rw [Go.trim, hstart, List.reverse_append, hend, List.reverse_reverse]

lemma utf8ByteSize_ofList (l : List Char) : (String.ofList l).utf8ByteSize = (l.map Char.utf8Size).sum := by
  induction l with
  | nil => rfl
  | cons c l ih =>
    rw [List.map_cons, List.sum_cons, ← ih]
    change (c :: l).utf8Encode.size = _ + l.utf8Encode.size
    rw [List.utf8Encode_cons, ByteArray.size_append, List.utf8Encode_singleton, List.size_toByteArray,
      String.length_utf8EncodeChar]

lemma length_le_sizes (l : List Char) : l.length ≤ (l.map Char.utf8Size).sum := by
  induction l with
  | nil => exact le_rfl
  | cons c l ih =>
    rw [List.length_cons, List.map_cons, List.sum_cons]
    have hpos := c.utf8Size_pos
    omega

lemma takeBytes_eq_self {l : List Char} {n : ℕ} (h : (l.map Char.utf8Size).sum ≤ n) : takeBytes n l = l := by
  induction l generalizing n with
  | nil => rw [takeBytes]
  | cons c l ih =>
    rw [List.map_cons, List.sum_cons] at h
    rw [takeBytes, if_pos (by omega), ih (by omega)]

/-- Where no character is cut, a beginning is left. -/
lemma takeBytes_prefix_of_whole {l : List Char} {n : ℕ} (h : runeError ∉ takeBytes n l) : takeBytes n l <+: l := by
  induction l generalizing n with
  | nil => simp [takeBytes]
  | cons c l ih =>
    rw [takeBytes] at h ⊢
    split at h
    · rename_i hc
      rw [if_pos hc]
      exact List.cons_prefix_cons.mpr ⟨rfl, ih fun hmem => h (List.mem_cons_of_mem c hmem)⟩
    · rename_i hc
      rw [if_neg hc]
      split at h
      · rename_i hn
        rw [if_pos hn]
        exact List.nil_prefix
      · exact absurd (List.mem_singleton_self _) h

lemma sum_takeBytes {l : List Char} {n : ℕ} (h : runeError ∉ takeBytes n l) (hn : n ≤ (l.map Char.utf8Size).sum) :
    ((takeBytes n l).map Char.utf8Size).sum = n := by
  induction l generalizing n with
  | nil =>
    rw [List.map_nil, List.sum_nil] at hn
    rw [takeBytes, List.map_nil, List.sum_nil, Nat.le_zero.mp hn]
  | cons c l ih =>
    rw [List.map_cons, List.sum_cons] at hn
    rw [takeBytes] at h ⊢
    split at h
    · rename_i hc
      rw [if_pos hc, List.map_cons, List.sum_cons, ih (fun hmem => h (List.mem_cons_of_mem c hmem)) (by omega)]
      omega
    · rename_i hc
      rw [if_neg hc]
      split at h
      · rename_i hzero
        rw [if_pos hzero, hzero]
        rfl
      · exact absurd (List.mem_singleton_self _) h

/-- Every character that is left is of the text, or stands for one that was cut. -/
lemma mem_takeBytes {l : List Char} {n : ℕ} {c : Char} (h : c ∈ takeBytes n l) : c ∈ l ∨ c = runeError := by
  induction l generalizing n with
  | nil => simp [takeBytes] at h
  | cons d l ih =>
    rw [takeBytes] at h
    split at h
    · obtain rfl | h := List.mem_cons.mp h
      · exact .inl List.mem_cons_self
      · exact (ih h).imp_left (List.mem_cons_of_mem d)
    · split at h
      · cases h
      · exact .inr (List.mem_singleton.mp h)

/-- No character of one byte is cut. -/
lemma mem_takeBytes_of_sizes {l : List Char} {n : ℕ} (hl : ∀ c ∈ l, c.utf8Size = 1) {c : Char}
    (h : c ∈ takeBytes n l) : c ∈ l := by
  induction l generalizing n with
  | nil => simp [takeBytes] at h
  | cons d l ih =>
    have hd := hl d List.mem_cons_self
    rw [takeBytes] at h
    split at h
    · obtain rfl | h := List.mem_cons.mp h
      · exact List.mem_cons_self
      · exact List.mem_cons_of_mem d (ih (fun c hc => hl c (List.mem_cons_of_mem d hc)) h)
    · split at h
      · cases h
      · omega

lemma trim_subset {l cutset : List Char} : trim l cutset ⊆ l := by
  intro c hc
  have hright := (List.dropWhile_sublist _).subset (List.mem_reverse.mp hc)
  exact (List.dropWhile_sublist _).subset (List.mem_reverse.mp hright)

end Go
