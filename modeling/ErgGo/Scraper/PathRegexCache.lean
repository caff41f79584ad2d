import ErgGo.Lib.GoRuntime
import Mathlib.Data.List.Nodup

/-!
# The cache of path patterns

Compiled patterns are kept in a list, the last used one first, and a map leads from a pattern to its
element of the list. A call looks its pattern up under the mutex, compiles it without the mutex
where it is missing and adds it under the mutex again, so that several calls may add one pattern.
-/

namespace ErgGo.Scraper
open Go

/-! ## Patterns -/

/-- `regexp.QuoteMeta`. -/
def quoteMeta (s : List Char) : List Char :=
  s.flatMap fun c => if c ∈ "\\.+*?()|[]\x7b\x7d^$".toList then ['\\', c] else [c]

/-- `strings.ReplaceAll` of a quoted star. -/
def replaceStars : List Char → List Char
  | '\\' :: '*' :: s => '.' :: '*' :: replaceStars s
  | c :: s => c :: replaceStars s
  | [] => []

/-- The regular expression that `getPathRegex` compiles. -/
def regexPattern (pattern : String) : String :=
  let quoted := replaceStars (quoteMeta pattern.toList)
  if pattern.toList.getLast? = some '$' then
    String.ofList ((if quoted.getLast? = some '$' then quoted.dropLast else quoted) ++ ['$'])
  else String.ofList (quoted ++ ['.', '*'])

/-! ## The cache -/

structure PathRegexEntry (Regexp : Type) where
  pattern : String
  regex : Regexp

/-- An element of `container/list`, which is the same one while it is moved. -/
structure Element (Regexp : Type) where
  id : ℕ
  value : PathRegexEntry Regexp

structure PathRegexCache (Regexp : Type) where
  maxEntries : ℤ
  order : List (Element Regexp) := []
  entries : GoMap ℕ := ∅
  /-- The element that is allocated next. -/
  nextID : ℕ := 0

def maxPathRegexEntries : ℤ := 256

def newPathRegexCache (Regexp : Type) (maxEntries : ℤ) : PathRegexCache Regexp := { maxEntries := maxEntries }

variable {Regexp : Type}

def moveToFront (id : ℕ) (order : List (Element Regexp)) : List (Element Regexp) :=
  order.filter (·.id = id) ++ order.filter (·.id ≠ id)

def setRegex (id : ℕ) (re : Regexp) (order : List (Element Regexp)) : List (Element Regexp) :=
  order.map fun e => if e.id = id then { e with value := { e.value with regex := re } } else e

namespace PathRegexCache

def get (c : PathRegexCache Regexp) (pattern : String) : Option Regexp × PathRegexCache Regexp :=
  match c.entries.lookup pattern with
  | some id => ((c.order.find? (·.id = id)).map (·.value.regex), { c with order := moveToFront id c.order })
  | none => (none, c)

/-- `order.Remove` of the last element and `delete` of its pattern. -/
def evict (c : PathRegexCache Regexp) : PathRegexCache Regexp :=
  match c.order.getLast? with
  | some last =>
    { c with order := c.order.filter (·.id ≠ last.id), entries := c.entries.erase last.value.pattern }
  | none => c

def add (c : PathRegexCache Regexp) (pattern : String) (re : Regexp) : PathRegexCache Regexp :=
  match c.entries.lookup pattern with
  | some id => { c with order := moveToFront id (setRegex id re c.order) }
  | none =>
    let c : PathRegexCache Regexp :=
      { c with
        order := ⟨c.nextID, ⟨pattern, re⟩⟩ :: c.order
        entries := c.entries.insert pattern c.nextID
        nextID := c.nextID + 1 }
    if c.maxEntries > 0 ∧ (c.order.length : ℤ) > c.maxEntries then c.evict else c

end PathRegexCache

/-! ## Calls -/

/-- The cache, the patterns that calls are compiling, and the patterns that have been used so far. -/
structure State (Regexp : Type) where
  cache : PathRegexCache Regexp := newPathRegexCache Regexp maxPathRegexEntries
  compiling : List String := []
  uses : List String := []

/-- The two sections of a call of `getPathRegex` under the mutex. -/
inductive Section where
  | lookup (pattern : String)
  | insert (pattern : String)

variable (compile : String → Option Regexp)

/-- A call takes its next step; what does not compile panics between the sections. -/
def step (s : State Regexp) : Section → Option (State Regexp)
  | .lookup pattern =>
    match s.cache.get pattern with
    | (some _, cache) => some { s with cache := cache, uses := s.uses ++ [pattern] }
    | (none, _) => some { s with compiling := pattern :: s.compiling }
  | .insert pattern =>
    if pattern ∈ s.compiling then
      match compile (regexPattern pattern) with
      | some re =>
        some { cache := s.cache.add pattern re, compiling := s.compiling.erase pattern, uses := s.uses ++ [pattern] }
      | none => some { s with compiling := s.compiling.erase pattern }
    else none

inductive Reachable : State Regexp → Prop
  | start : Reachable {}
  | step {s s' : State Regexp} (turn : Section) (hs : Reachable s) (hstep : step compile s turn = some s') :
    Reachable s'

/-! ## What has been used before what -/

/-- The last use of `p` was before the last use of `q`. -/
def UsedBefore (uses : List String) (p q : String) : Prop :=
  ∃ older newer, uses = older ++ newer ∧ p ∈ older ∧ p ∉ newer ∧ q ∈ newer

lemma usedBefore_of_mem {uses : List String} {p q : String} (hp : p ∈ uses) (hne : p ≠ q) :
    UsedBefore (uses ++ [q]) p q :=
  ⟨uses, [q], rfl, hp, fun hmem => hne (List.mem_singleton.mp hmem), List.mem_cons_self⟩

lemma UsedBefore.append {uses : List String} {p q r : String} (h : UsedBefore uses p q) (hne : p ≠ r) :
    UsedBefore (uses ++ [r]) p q := by
  obtain ⟨older, newer, rfl, hp, hnew, hq⟩ := h
  refine ⟨older, newer ++ [r], List.append_assoc .., hp, fun hmem => ?_, List.mem_append_left _ hq⟩
  obtain hmem | hmem := List.mem_append.mp hmem
  · exact hnew hmem
  · exact hne (List.mem_singleton.mp hmem)

/-! ## The representation -/

/-- The map leads to the elements of the list, each of which holds a compiled pattern and was used
after the next one. -/
structure Represents (c : PathRegexCache Regexp) (uses : List String) : Prop where
  keyed : ∀ pattern id, c.entries.lookup pattern = some id ↔ ∃ e ∈ c.order, e.id = id ∧ e.value.pattern = pattern
  ids : (c.order.map (·.id)).Nodup
  patterns : (c.order.map (·.value.pattern)).Nodup
  allocated : ∀ e ∈ c.order, e.id < c.nextID
  compiled : ∀ e ∈ c.order, compile (regexPattern e.value.pattern) = some e.value.regex
  used : ∀ e ∈ c.order, e.value.pattern ∈ uses
  recency : c.order.Pairwise fun e e' => UsedBefore uses e'.value.pattern e.value.pattern

variable {compile : String → Option Regexp} {c : PathRegexCache Regexp} {uses : List String}

namespace Represents

lemma eq_of_id (h : Represents compile c uses) {e e' : Element Regexp} (he : e ∈ c.order) (he' : e' ∈ c.order)
    (hid : e.id = e'.id) : e = e' := List.inj_on_of_nodup_map h.ids he he' hid

lemma eq_of_pattern (h : Represents compile c uses) {e e' : Element Regexp} (he : e ∈ c.order) (he' : e' ∈ c.order)
    (hpattern : e.value.pattern = e'.value.pattern) : e = e' := List.inj_on_of_nodup_map h.patterns he he' hpattern

/-- The element of a pattern in the map. -/
lemma element (h : Represents compile c uses) {pattern : String} {id : ℕ}
    (hid : c.entries.lookup pattern = some id) : ∃ e ∈ c.order, e.id = id ∧ e.value.pattern = pattern :=
  (h.keyed pattern id).mp hid

lemma lookup (h : Represents compile c uses) {e : Element Regexp} (he : e ∈ c.order) :
    c.entries.lookup e.value.pattern = some e.id := (h.keyed _ _).mpr ⟨e, he, rfl, rfl⟩

/-- The map has the patterns of the list and no others. -/
lemma keys_perm (h : Represents compile c uses) : c.entries.keys.Perm (c.order.map (·.value.pattern)) := by
  refine (List.perm_ext_iff_of_nodup c.entries.nodupKeys h.patterns).mpr fun pattern => ?_
  change pattern ∈ c.entries.keys ↔ _
  rw [← AList.mem_keys, ← AList.lookup_isSome, Option.isSome_iff_exists, List.mem_map]
  constructor
  · rintro ⟨id, hid⟩
    obtain ⟨e, he, -, hpattern⟩ := h.element hid
    exact ⟨e, he, hpattern⟩
  · rintro ⟨e, he, rfl⟩
    exact ⟨e.id, h.lookup he⟩

/-- An element is used: it is the first one afterwards. -/
lemma touch (h : Represents compile c uses) {e : Element Regexp} (he : e ∈ c.order) {re : Regexp}
    (hre : compile (regexPattern e.value.pattern) = some re) :
    Represents compile { c with order := ⟨e.id, ⟨e.value.pattern, re⟩⟩ :: c.order.filter (·.id ≠ e.id) }
      (uses ++ [e.value.pattern]) := by
  have hothers : ∀ e' ∈ c.order.filter (·.id ≠ e.id), e' ∈ c.order ∧ e'.id ≠ e.id ∧
      e'.value.pattern ≠ e.value.pattern := by
    intro e' he'
    obtain ⟨hmem, hid⟩ := List.mem_filter.mp he'
    replace hid := of_decide_eq_true hid
    exact ⟨hmem, hid, fun hpattern => hid (congrArg Element.id (h.eq_of_pattern hmem he hpattern))⟩
  have hsub : (c.order.filter (·.id ≠ e.id)).Sublist c.order := List.filter_sublist
  refine ⟨fun pattern id => ?_, ?_, ?_, ?_, ?_, ?_, ?_⟩
  · rw [h.keyed]
    simp only [List.exists_mem_cons_iff]
    constructor
    · rintro ⟨e', he', rfl, rfl⟩
      by_cases hid : e'.id = e.id
      · exact .inl ⟨hid.symm, by rw [h.eq_of_id he' he hid]⟩
      · exact .inr ⟨e', List.mem_filter.mpr ⟨he', decide_eq_true hid⟩, rfl, rfl⟩
    · rintro (⟨rfl, rfl⟩ | ⟨e', he', hid, hpattern⟩)
      · exact ⟨e, he, rfl, rfl⟩
      · exact ⟨e', (hothers e' he').1, hid, hpattern⟩
  · refine List.nodup_cons.mpr ⟨?_, (hsub.map _).nodup h.ids⟩
    rw [List.mem_map]
    rintro ⟨e', he', hid⟩
    exact (hothers e' he').2.1 hid
  · refine List.nodup_cons.mpr ⟨?_, (hsub.map _).nodup h.patterns⟩
    rw [List.mem_map]
    rintro ⟨e', he', hpattern⟩
    exact (hothers e' he').2.2 hpattern
  · intro e' he'
    obtain rfl | he' := List.mem_cons.mp he'
    · exact h.allocated e he
    · exact h.allocated e' (hothers e' he').1
  · intro e' he'
    obtain rfl | he' := List.mem_cons.mp he'
    · exact hre
    · exact h.compiled e' (hothers e' he').1
  · intro e' he'
    obtain rfl | he' := List.mem_cons.mp he'
    · exact List.mem_append_right _ List.mem_cons_self
    · exact List.mem_append_left _ (h.used e' (hothers e' he').1)
  · refine List.pairwise_cons.mpr ⟨fun e' he' => ?_, ?_⟩
    · obtain ⟨hmem, -, hpattern⟩ := hothers e' he'
      exact usedBefore_of_mem (h.used e' hmem) hpattern
    · refine (h.recency.sublist hsub).imp_of_mem fun he₁ he₂ hbefore => ?_
      exact hbefore.append (hothers _ he₂).2.2

/-- A pattern that is not in the map gets a new element. -/
lemma push (h : Represents compile c uses) {pattern : String} (hnew : c.entries.lookup pattern = none) {re : Regexp}
    (hre : compile (regexPattern pattern) = some re) :
    Represents compile { c with
      order := ⟨c.nextID, ⟨pattern, re⟩⟩ :: c.order
      entries := c.entries.insert pattern c.nextID
      nextID := c.nextID + 1 } (uses ++ [pattern]) := by
  have hothers : ∀ e ∈ c.order, e.id ≠ c.nextID ∧ e.value.pattern ≠ pattern := by
    intro e he
    refine ⟨(h.allocated e he).ne, ?_⟩
    rintro rfl
    rw [h.lookup he] at hnew
    cases hnew
  refine ⟨fun pattern' id => ?_, ?_, ?_, ?_, ?_, ?_, ?_⟩
  · simp only [List.exists_mem_cons_iff]
    by_cases hpattern : pattern' = pattern
    · subst hpattern
      rw [AList.lookup_insert, Option.some.injEq]
      constructor
      · rintro rfl
        exact .inl ⟨rfl, rfl⟩
      · rintro (⟨hid, -⟩ | ⟨e, he, -, hpattern⟩)
        · exact hid
        · exact absurd hpattern (hothers e he).2
    · rw [AList.lookup_insert_ne hpattern, h.keyed]
      exact ⟨.inr, fun hor => hor.resolve_left fun hfirst => hpattern hfirst.2.symm⟩
  · refine List.nodup_cons.mpr ⟨?_, h.ids⟩
    rw [List.mem_map]
    rintro ⟨e, he, hid⟩
    exact (hothers e he).1 hid
  · refine List.nodup_cons.mpr ⟨?_, h.patterns⟩
    rw [List.mem_map]
    rintro ⟨e, he, hpattern⟩
    exact (hothers e he).2 hpattern
  · intro e he
    obtain rfl | he := List.mem_cons.mp he
    · exact Nat.lt_succ_self c.nextID
    · exact (h.allocated e he).trans (Nat.lt_succ_self c.nextID)
  · intro e he
    obtain rfl | he := List.mem_cons.mp he
    · exact hre
    · exact h.compiled e he
  · intro e he
    obtain rfl | he := List.mem_cons.mp he
    · exact List.mem_append_right _ List.mem_cons_self
    · exact List.mem_append_left _ (h.used e he)
  · refine List.pairwise_cons.mpr ⟨fun e he => usedBefore_of_mem (h.used e he) (hothers e he).2, ?_⟩
    exact h.recency.imp_of_mem fun _ he hbefore => hbefore.append (hothers _ he).2

/-- The last element leaves both the list and the map. -/
lemma evict_order (h : Represents compile c uses) {init : List (Element Regexp)} {last : Element Regexp}
    (horder : c.order = init ++ [last]) :
    c.evict = { c with order := init, entries := c.entries.erase last.value.pattern } := by
  have hids := h.ids
  rw [horder, List.map_append, List.map_singleton] at hids
  have hkept : init.filter (·.id ≠ last.id) = init := by
    refine List.filter_eq_self.mpr fun e he => decide_eq_true fun hid => ?_
    exact (List.nodup_append.mp hids).2.2 _ (List.mem_map_of_mem he) _ List.mem_cons_self hid
  have hdropped : [last].filter (·.id ≠ last.id) = [] := by simp
  unfold PathRegexCache.evict
  rw [horder, List.getLast?_concat]
  dsimp only
  rw [List.filter_append, hkept, hdropped, List.append_nil]

lemma evict (h : Represents compile c uses) {init : List (Element Regexp)} {last : Element Regexp}
    (horder : c.order = init ++ [last]) : Represents compile c.evict uses := by
  rw [h.evict_order horder]
  have hsub : init.Sublist c.order := horder ▸ List.sublist_append_left init [last]
  have hlast : last ∈ c.order := horder ▸ List.mem_append_right init List.mem_cons_self
  have hpatterns := h.patterns
  rw [horder, List.map_append, List.map_singleton] at hpatterns
  have hother : ∀ e ∈ init, e.value.pattern ≠ last.value.pattern := fun e he =>
    (List.nodup_append.mp hpatterns).2.2 _ (List.mem_map_of_mem he) _ List.mem_cons_self
  refine ⟨fun pattern id => ?_, (hsub.map _).nodup h.ids, (hsub.map _).nodup h.patterns,
    fun e he => h.allocated e (hsub.subset he), fun e he => h.compiled e (hsub.subset he),
    fun e he => h.used e (hsub.subset he), h.recency.sublist hsub⟩
  by_cases hpattern : pattern = last.value.pattern
  · subst hpattern
    rw [AList.lookup_erase]
    constructor
    · intro hnone
      cases hnone
    · rintro ⟨e, he, -, hsame⟩
      exact absurd hsame (hother e he)
  · rw [AList.lookup_erase_ne hpattern, h.keyed, horder]
    constructor
    · rintro ⟨e, he, hid, hsame⟩
      obtain he | he := List.mem_append.mp he
      · exact ⟨e, he, hid, hsame⟩
      · rw [List.mem_singleton.mp he] at hsame
        exact absurd hsame.symm hpattern
    · rintro ⟨e, he, hid, hsame⟩
      exact ⟨e, List.mem_append_left _ he, hid, hsame⟩

end Represents

/-! ## Calls keep it -/

lemma filter_id_eq (h : Represents compile c uses) {e : Element Regexp} (he : e ∈ c.order) :
    c.order.filter (·.id = e.id) = [e] := by
  obtain ⟨before, after, horder⟩ := List.append_of_mem he
  have hids := h.ids
  rw [horder, List.map_append, List.map_cons] at hids
  obtain ⟨-, hafter, hbefore⟩ := List.nodup_append.mp hids
  have hnone : ∀ e' ∈ before, e'.id ≠ e.id :=
    fun e' he' => hbefore _ (List.mem_map_of_mem he') _ List.mem_cons_self
  have hnone' : ∀ e' ∈ after, e'.id ≠ e.id := fun e' he' hid =>
    (List.nodup_cons.mp hafter).1 (List.mem_map.mpr ⟨e', he', hid⟩)
  rw [horder, List.filter_append, List.filter_cons_of_pos (by simp),
    List.filter_eq_nil_iff.mpr fun e' he' => by simpa using hnone e' he',
    List.filter_eq_nil_iff.mpr fun e' he' => by simpa using hnone' e' he', List.nil_append]

lemma moveToFront_eq (h : Represents compile c uses) {e : Element Regexp} (he : e ∈ c.order) :
    moveToFront e.id c.order = e :: c.order.filter (·.id ≠ e.id) := by
  rw [moveToFront, filter_id_eq h he, List.singleton_append]

lemma moveToFront_setRegex (h : Represents compile c uses) {e : Element Regexp} (he : e ∈ c.order) (re : Regexp) :
    moveToFront e.id (setRegex e.id re c.order) =
      ⟨e.id, ⟨e.value.pattern, re⟩⟩ :: c.order.filter (·.id ≠ e.id) := by
  have hset : ∀ e' : Element Regexp,
      (if e'.id = e.id then { e' with value := { e'.value with regex := re } } else e').id = e'.id := by
    intro e'
    split <;> rfl
  unfold moveToFront setRegex
  rw [List.filter_map, List.filter_map]
  simp only [Function.comp_def, hset]
  rw [filter_id_eq h he, List.map_singleton, if_pos rfl, List.singleton_append]
  refine congrArg _ ((List.map_congr_left fun e' he' => ?_).trans (List.map_id _))
  exact if_neg (of_decide_eq_true (List.mem_filter.mp he').2)

/-- A lookup finds an element and uses it, or leaves the cache alone. -/
lemma get_cases (h : Represents compile c uses) (pattern : String) :
    (∃ e ∈ c.order, e.value.pattern = pattern ∧ c.get pattern =
      (some e.value.regex, { c with order := e :: c.order.filter (·.id ≠ e.id) })) ∨
    c.entries.lookup pattern = none ∧ c.get pattern = (none, c) := by
  cases hlookup : c.entries.lookup pattern with
  | none =>
    refine .inr ⟨rfl, ?_⟩
    rw [PathRegexCache.get, hlookup]
  | some id =>
    obtain ⟨e, he, rfl, hpattern⟩ := h.element hlookup
    refine .inl ⟨e, he, hpattern, ?_⟩
    rw [PathRegexCache.get, hlookup]
    dsimp only
    rw [moveToFront_eq h he, ← List.head?_filter, filter_id_eq h he]
    rfl

/-- The cache with a new element, before an old one is dropped. -/
def PathRegexCache.push (c : PathRegexCache Regexp) (pattern : String) (re : Regexp) : PathRegexCache Regexp :=
  { c with
    order := ⟨c.nextID, ⟨pattern, re⟩⟩ :: c.order
    entries := c.entries.insert pattern c.nextID
    nextID := c.nextID + 1 }

/-- An addition uses an element that is there, or makes a new one and drops the last one of too many. -/
lemma add_cases (h : Represents compile c uses) (pattern : String) (re : Regexp) :
    (∃ e ∈ c.order, e.value.pattern = pattern ∧ c.add pattern re =
      { c with order := ⟨e.id, ⟨e.value.pattern, re⟩⟩ :: c.order.filter (·.id ≠ e.id) }) ∨
    c.entries.lookup pattern = none ∧ c.add pattern re =
      if c.maxEntries > 0 ∧ ((c.order.length + 1 : ℕ) : ℤ) > c.maxEntries then (c.push pattern re).evict
      else c.push pattern re := by
  cases hlookup : c.entries.lookup pattern with
  | none =>
    refine .inr ⟨rfl, ?_⟩
    rw [PathRegexCache.add, hlookup]
    rfl
  | some id =>
    obtain ⟨e, he, rfl, hpattern⟩ := h.element hlookup
    refine .inl ⟨e, he, hpattern, ?_⟩
    rw [PathRegexCache.add, hlookup]
    dsimp only
    rw [moveToFront_setRegex h he]

lemma length_filter_id (h : Represents compile c uses) {e : Element Regexp} (he : e ∈ c.order) :
    (c.order.filter (·.id ≠ e.id)).length + 1 = c.order.length := by
  have hsplit := List.length_eq_length_filter_add (l := c.order) (·.id = e.id)
  rw [filter_id_eq h he, List.length_singleton] at hsplit
  rw [hsplit, Nat.add_comm]
  simp

/-- What the cache keeps in every state: the list and the map represent each other, and there are no
more elements than allowed. -/
structure Invariant (compile : String → Option Regexp) (s : State Regexp) : Prop where
  represents : Represents compile s.cache s.uses
  positive : 0 < s.cache.maxEntries
  capacity : (s.cache.order.length : ℤ) ≤ s.cache.maxEntries

/-- A pattern that a step drops was used before all that are in the cache before or after the step. -/
def DropsLeastRecent (s s' : State Regexp) : Prop :=
  ∀ p ∈ s.cache.entries, p ∉ s'.cache.entries → (s.cache.order.length : ℤ) = s.cache.maxEntries ∧
    ∀ q, q ∈ s.cache.entries ∨ q ∈ s'.cache.entries → q ≠ p → UsedBefore s'.uses p q

lemma invariant_start : Invariant compile ({} : State Regexp) := by
  have hmax : (0 : ℤ) < maxPathRegexEntries := by decide
  refine ⟨⟨fun pattern id => ?_, .nil, .nil, ?_, ?_, ?_, .nil⟩, hmax, hmax.le⟩
  · constructor
    · intro hlookup
      cases hlookup
    · rintro ⟨_, he, -⟩
      cases he
  all_goals exact fun _ he => nomatch he

lemma mem_entries_iff (h : Represents compile c uses) {pattern : String} :
    pattern ∈ c.entries ↔ ∃ e ∈ c.order, e.value.pattern = pattern := by
  rw [AList.mem_keys, h.keys_perm.mem_iff, List.mem_map]

/-- Nothing is dropped where an element is used. -/
lemma dropsLeastRecent_of_entries {s s' : State Regexp} (hsub : ∀ p ∈ s.cache.entries, p ∈ s'.cache.entries) :
    DropsLeastRecent s s' := fun p hp hdropped => absurd (hsub p hp) hdropped

/-- The addition of a compiled pattern. -/
lemma add_invariant {s : State Regexp} (h : Invariant compile s) {pattern : String} {re : Regexp}
    (hre : compile (regexPattern pattern) = some re) (compiling : List String) :
    Invariant compile ⟨s.cache.add pattern re, compiling, s.uses ++ [pattern]⟩ ∧
      DropsLeastRecent s ⟨s.cache.add pattern re, compiling, s.uses ++ [pattern]⟩ := by
  obtain ⟨hrep, hpos, hcapacity⟩ := h
  obtain ⟨e, he, rfl, hadd⟩ | ⟨hnew, hadd⟩ := add_cases hrep pattern re
  · rw [hadd]
    refine ⟨⟨hrep.touch he hre, hpos, ?_⟩, dropsLeastRecent_of_entries fun p hp => hp⟩
    have hlength := length_filter_id hrep he
    rw [← hlength] at hcapacity
    exact hcapacity
  · have hpush : Represents compile (s.cache.push pattern re) (s.uses ++ [pattern]) := hrep.push hnew hre
    have hlength : (s.cache.push pattern re).order.length = s.cache.order.length + 1 := rfl
    have hkept : ∀ p ∈ s.cache.entries, p ∈ (s.cache.push pattern re).entries :=
      fun p hp => (AList.mem_insert _).mpr (.inr hp)
    split at hadd
    · rename_i hfull
      obtain ⟨init, last, horder⟩ : ∃ init last, (s.cache.push pattern re).order = init ++ [last] :=
        ⟨_, _, (List.dropLast_append_getLast (List.cons_ne_nil _ _)).symm⟩
      have hevict := hpush.evict_order horder
      rw [hadd]
      refine ⟨⟨hpush.evict horder, ?_, ?_⟩, ?_⟩
      · rw [hevict]
        exact hpos
      · rw [hevict]
        rw [horder, List.length_append, List.length_singleton] at hlength
        dsimp only
        rw [Nat.succ.inj hlength]
        exact hcapacity
      · intro p hp hdropped
        have hlast : p = last.value.pattern := by
          by_contra hne
          refine hdropped ?_
          rw [hevict]
          exact AList.mem_erase.mpr ⟨hne, hkept p hp⟩
        refine ⟨by omega, fun q hq hne => ?_⟩
        have hmem : q ∈ (s.cache.push pattern re).entries := by
          obtain hq | hq := hq
          · exact hkept q hq
          · rw [hevict] at hq
            exact (AList.mem_erase.mp hq).2
        obtain ⟨e, he, rfl⟩ := (mem_entries_iff hpush).mp hmem
        have hrecency := hpush.recency
        rw [horder] at he hrecency
        obtain he | he := List.mem_append.mp he
        · rw [hlast]
          exact (List.pairwise_append.mp hrecency).2.2 e he last List.mem_cons_self
        · rw [List.mem_singleton.mp he] at hne
          exact absurd hlast.symm hne
    · rename_i hfits
      rw [hadd]
      refine ⟨⟨hpush, hpos, ?_⟩, dropsLeastRecent_of_entries hkept⟩
      rw [hlength]
      by_contra hfull
      exact hfits ⟨hpos, not_le.mp hfull⟩

/-- One section of a call. -/
lemma step_invariant {s s' : State Regexp} {turn : Section} (h : Invariant compile s)
    (hstep : step compile s turn = some s') : Invariant compile s' ∧ DropsLeastRecent s s' := by
  cases turn with
  | lookup pattern =>
    unfold step at hstep
    dsimp only at hstep
    obtain ⟨e, he, rfl, hget⟩ | ⟨-, hget⟩ := get_cases h.represents pattern
    · rw [hget] at hstep
      cases hstep
      have htouch := h.represents.touch he (h.represents.compiled e he)
      have hlength := length_filter_id h.represents he
      have hcapacity := h.capacity
      rw [← hlength] at hcapacity
      exact ⟨⟨htouch, h.positive, hcapacity⟩, dropsLeastRecent_of_entries fun p hp => hp⟩
    · rw [hget] at hstep
      cases hstep
      exact ⟨⟨h.represents, h.positive, h.capacity⟩, dropsLeastRecent_of_entries fun p hp => hp⟩
  | insert pattern =>
    unfold step at hstep
    dsimp only at hstep
    split at hstep
    · cases hre : compile (regexPattern pattern) with
      | none =>
        rw [hre] at hstep
        cases hstep
        exact ⟨⟨h.represents, h.positive, h.capacity⟩, dropsLeastRecent_of_entries fun p hp => hp⟩
      | some re =>
        rw [hre] at hstep
        cases hstep
        exact add_invariant h hre _
    · cases hstep

/-- In every state that calls reach, in whatever order they take their steps, the map and the list hold
the same patterns, each once and compiled, in the order of their last uses and no more than allowed,
and the next step drops no pattern but the least recently used one. -/
theorem reachable_represents {s : State Regexp} (h : Reachable compile s) :
    s.cache.entries.keys.Perm (s.cache.order.map (·.value.pattern)) ∧
    (s.cache.order.map (·.value.pattern)).Nodup ∧
    (∀ e ∈ s.cache.order, s.cache.entries.lookup e.value.pattern = some e.id) ∧
    (s.cache.order.length : ℤ) ≤ s.cache.maxEntries ∧
    (∀ e ∈ s.cache.order, compile (regexPattern e.value.pattern) = some e.value.regex) ∧
    s.cache.order.Pairwise (fun e e' => UsedBefore s.uses e'.value.pattern e.value.pattern) ∧
    ∀ turn s', step compile s turn = some s' → DropsLeastRecent s s' := by
  have hinvariant : Invariant compile s := by
    induction h with
    | start => exact invariant_start
    | step turn _ hstep ih => exact (step_invariant ih hstep).1
  have hrep := hinvariant.represents
  exact ⟨hrep.keys_perm, hrep.patterns, fun e => hrep.lookup, hinvariant.capacity, hrep.compiled, hrep.recency,
    fun _ _ hstep => (step_invariant hinvariant hstep).2⟩

section Sample

/-- A pattern that stands for its own compilation. -/
def Sample.itself : String → Option String := some

/-- Two overlapping calls have added their patterns, and a third has found the first of them. -/
def Sample.found : State String where
  cache := (((({} : State String).cache.add "/a" (regexPattern "/a")).add "/b" (regexPattern "/b")).get "/a").2
  uses := ["/a", "/b", "/a"]

lemma Sample.found_reachable : Reachable Sample.itself Sample.found := by
  have hstart : Reachable Sample.itself {} := .start
  have hlooked := hstart.step (.lookup "/a") rfl |>.step (.lookup "/b") rfl
  have hadded := hlooked.step (.insert "/a") rfl |>.step (.insert "/b") rfl
  exact hadded.step (.lookup "/a") rfl

theorem reachable_represents_found :
    Sample.found.cache.order.map (·.value.pattern) = ["/a", "/b"] ∧ Sample.found.cache.entries.keys.Perm ["/a", "/b"] ∧
    Sample.found.cache.order.Pairwise (fun e e' => UsedBefore Sample.found.uses e'.value.pattern e.value.pattern) ∧
    ∀ turn s', step Sample.itself Sample.found turn = some s' → DropsLeastRecent Sample.found s' := by
  obtain ⟨hkeys, -, -, -, -, hrecency, hdrops⟩ := reachable_represents Sample.found_reachable
  exact ⟨by decide, hkeys, hrecency, hdrops⟩

end Sample

end ErgGo.Scraper
