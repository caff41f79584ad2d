import ErgGo.Lib.Float64
import Mathlib.Data.List.AList
import Mathlib.Data.List.DropRight
import Mathlib.Data.List.Infix
import Mathlib.Data.List.Sort
import Mathlib.Data.String.Basic

/-!
# The Go standard library as the model uses it

Maps, times, JSON values, strings and sorting. What the model takes from the library
without repeating it is a field of `Library`: the Unicode lower-case table, the length of
`encoding/json` output, and the order `sort.Slice` leaves among equal elements.
-/

namespace Go

/-- A `map[string]V`; the order of the entries is one order in which `range` visits them. -/
abbrev GoMap (V : Type) := AList (fun _ : String => V)

namespace GoMap

variable {V : Type}

def len (m : GoMap V) : ℕ := m.entries.length

def pairs (m : GoMap V) : List (String × V) := m.entries.map (fun entry => (entry.1, entry.2))

/-- `for k, v := range kvs { m[k] = v }`. -/
def setAll (m : GoMap V) (kvs : List (String × V)) : GoMap V :=
  kvs.foldl (fun m kv => m.insert kv.1 kv.2) m

@[simp] lemma setAll_nil (m : GoMap V) : m.setAll [] = m := rfl

lemma lookup_setAll_of_notMem {m : GoMap V} {kvs : List (String × V)} {k : String}
    (hk : k ∉ kvs.map Prod.fst) : (m.setAll kvs).lookup k = m.lookup k := by
  induction kvs generalizing m with
  | nil => rfl
  | cons kv kvs ih =>
    rw [List.map_cons, List.mem_cons, not_or] at hk
    exact (ih hk.2).trans (AList.lookup_insert_ne hk.1)

/-- What the map holds afterwards was set or was there. -/
lemma mem_of_lookup_setAll {m : GoMap V} {kvs : List (String × V)} {k : String} {v : V}
    (h : (m.setAll kvs).lookup k = some v) : (k, v) ∈ kvs ∨ m.lookup k = some v := by
  induction kvs generalizing m with
  | nil => exact .inr h
  | cons kv kvs ih =>
    obtain hset | hbefore := ih h
    · exact .inl (List.mem_cons_of_mem kv hset)
    · by_cases hk : k = kv.1
      · rw [hk, AList.lookup_insert] at hbefore
        refine .inl (List.mem_cons.mpr (.inl ?_))
        rw [hk, ← Option.some.inj hbefore]
      · rw [AList.lookup_insert_ne hk] at hbefore
        exact .inr hbefore

lemma exists_lookup_setAll (m : GoMap V) {kvs : List (String × V)} {k : String} (hk : k ∈ kvs.map Prod.fst) :
    ∃ v, (m.setAll kvs).lookup k = some v := by
  induction kvs generalizing m with
  | nil => cases hk
  | cons kv kvs ih =>
    by_cases hrest : k ∈ kvs.map Prod.fst
    · exact ih (m.insert kv.1 kv.2) hrest
    · obtain rfl : k = kv.1 := (List.mem_cons.mp hk).resolve_right hrest
      exact ⟨kv.2, (lookup_setAll_of_notMem hrest).trans (AList.lookup_insert m)⟩

/-- Setting takes no key away. -/
lemma len_le_setAll (m : GoMap V) (kvs : List (String × V)) : m.len ≤ (m.setAll kvs).len := by
  induction kvs generalizing m with
  | nil => exact le_rfl
  | cons kv kvs ih =>
    refine le_trans ?_ (ih (m.insert kv.1 kv.2))
    have hkeys : m.keys ⊆ (m.insert kv.1 kv.2).keys := fun k hk => (AList.mem_insert m).mpr (.inr hk)
    simpa [len, AList.keys, List.keys] using (List.subperm_of_subset m.keys_nodup hkeys).length_le

lemma nodupKeys_mapValues {W : Type} (f : V → W) (m : GoMap V) :
    (m.entries.map fun entry => (⟨entry.1, f entry.2⟩ : Sigma fun _ : String => W)).NodupKeys := by
  have hkeys : List.keys (m.entries.map fun entry => (⟨entry.1, f entry.2⟩ : Sigma fun _ : String => W)) =
      m.entries.keys := by
    rw [List.keys, List.keys, List.map_map]
    rfl
  rw [List.NodupKeys, hkeys]
  exact m.nodupKeys

def mapValues {W : Type} (f : V → W) (m : GoMap V) : GoMap W := ⟨_, nodupKeys_mapValues f m⟩

lemma mapValues_congr {W : Type} {f g : V → W} {m : GoMap V} (h : ∀ entry ∈ m.pairs, f entry.2 = g entry.2) :
    m.mapValues f = m.mapValues g := by
  refine AList.ext (List.map_congr_left fun entry hentry => ?_)
  rw [h (entry.1, entry.2) (List.mem_map_of_mem hentry)]

@[simp] lemma mapValues_id (m : GoMap V) : m.mapValues id = m := AList.ext (List.map_id _)

@[simp] lemma lookup_setAll_singleton (m : GoMap V) (k : String) (v : V) :
    (m.setAll [(k, v)]).lookup k = some v :=
  AList.lookup_insert m

end GoMap

/-- A property of the characters of a string is decided by looking at these characters only. -/
instance (priority := 2000) decidableForallChars (p : Char → Prop) [DecidablePred p] (s : List Char) :
    Decidable (∀ c ∈ s, p c) := List.decidableBAll p s

/-- `time.Time` as nanoseconds since the zero time. -/
abbrev Time := ℤ

/-- A decoded JSON value, what `any` holds in a request body. -/
inductive JsonValue where
  | null
  | bool (b : Bool)
  | number (x : Float64)
  | string (s : String)
  | array (items : List JsonValue)
  | object (fields : List (String × JsonValue))

class Library where
  /-- `unicode.ToLower`. -/
  toLower : Char → Char
  toLower_ascii : ∀ c : Char, c.val < 0x80 → toLower c = c.toLower
  /-- The length of `json.Marshal`'s output, `none` where it fails. -/
  marshalLength : JsonValue → Option ℕ
  /-- `sort.Slice`, which need not be stable. -/
  sortSlice : {α : Type} → (less : α → α → Bool) → List α → List α
  sortSlice_perm : ∀ {α : Type} (less : α → α → Bool) (l : List α), (sortSlice less l).Perm l
  sortSlice_sorted : ∀ {α : Type} (less : α → α → Bool) (l : List α),
    (∀ a b, less a b → ¬less b a) → (∀ a b c, ¬less b a → ¬less c b → ¬less c a) →
    (sortSlice less l).Pairwise (fun a b => ¬less b a)

/-- A library for computing examples: ASCII lower case, no JSON, a stable sort. -/
@[reducible] def asciiLibrary : Library where
  toLower := Char.toLower
  toLower_ascii _ _ := rfl
  marshalLength _ := some 0
  sortSlice less l := l.insertionSort (fun a b => ¬less b a)
  sortSlice_perm less l := l.perm_insertionSort _
  sortSlice_sorted {α} less l hasymm htrans := by
    have htotal : Std.Total (fun a b : α => ¬less b a) := by
      refine ⟨fun a b => ?_⟩
      by_cases hab : less a b
      · exact .inl (hasymm a b hab)
      · exact .inr hab
    have htransitive : IsTrans α (fun a b => ¬less b a) := ⟨htrans⟩
    exact l.pairwise_insertionSort _

/-- `unicode.IsSpace`. -/
def isSpace (c : Char) : Bool :=
  c.val ∈ [0x09, 0x0A, 0x0B, 0x0C, 0x0D, 0x20, 0x85, 0xA0, 0x1680, 0x2028, 0x2029, 0x202F, 0x205F,
    0x3000] || (0x2000 ≤ c.val && c.val ≤ 0x200A)

/-- `unicode.IsControl`. -/
def isControl (c : Char) : Bool := c.val < 0x20 || (0x7F ≤ c.val && c.val < 0xA0)

/-- `strings.TrimSpace`. -/
def trimSpace (s : String) : String :=
  String.ofList ((s.toList.dropWhile isSpace).reverse.dropWhile isSpace).reverse

lemma dropWhile_of_prefix {α : Type} {p : α → Bool} {l₁ l₂ : List α} (hextends : l₁ <+: l₂)
    (h : l₂.dropWhile p = l₂) : l₁.dropWhile p = l₁ := by
  cases l₁ with
  | nil => rfl
  | cons a l₁ =>
    obtain ⟨l₃, rfl⟩ := hextends
    have ha : ¬p a := by simpa using List.dropWhile_eq_self_iff.mp h
    rw [List.dropWhile_cons_of_neg ha]

lemma trimSpace_trimSpace (s : String) : trimSpace (trimSpace s) = trimSpace s := by
  have htrim : ∀ s, trimSpace s = String.ofList ((s.toList.dropWhile isSpace).rdropWhile isSpace) :=
    fun _ => rfl
  rw [htrim (trimSpace s), htrim s, String.toList_ofList]
  have hhead := dropWhile_of_prefix (List.rdropWhile_prefix isSpace (s.toList.dropWhile isSpace))
    (List.dropWhile_idempotent isSpace s.toList)
  rw [hhead, List.rdropWhile_idempotent]

/-- `strings.ToLower`. -/
def toLower [Library] (s : String) : String := String.ofList (s.toList.map Library.toLower)

/-- The ASCII letter a character folds to, if it folds to one: of the other characters only
the long s and the Kelvin sign do. -/
def foldASCII (c : Char) : Char := if c = 'ſ' then 's' else if c = '\u212a' then 'k' else c.toLower

/-- `strings.EqualFold`, for a second text of ASCII letters. -/
def equalFold (s t : String) : Bool := s.toList.map foldASCII = t.toList.map foldASCII

/-- `strings.Contains`. -/
def contains (s substr : String) : Bool := substr.toList <:+: s.toList

/-- `sort.SliceStable`. -/
def sortSliceStable {α : Type} (less : α → α → Bool) (l : List α) : List α :=
  l.insertionSort (fun a b => ¬less b a)

lemma sortSliceStable_perm {α : Type} (less : α → α → Bool) (l : List α) : (sortSliceStable less l).Perm l :=
  l.perm_insertionSort _

/-- A call that can fail, followed by another. -/
lemma except_bind_eq_ok {ε α β : Type} {x : Except ε α} {f : α → Except ε β} {b : β} :
    x >>= f = .ok b ↔ ∃ a, x = .ok a ∧ f a = .ok b := by
  cases x with
  | error e => simp [bind, Except.bind]
  | ok a => simp [bind, Except.bind]

lemma except_map_eq_ok {ε α β : Type} {x : Except ε α} {f : α → β} {b : β} :
    x.map f = .ok b ↔ ∃ a, x = .ok a ∧ f a = b := by
  cases x with
  | error e => simp [Except.map]
  | ok a => simp [Except.map]

/-- A loop of calls that can fail and that appends what they return. -/
lemma mem_of_except_mapM {ε α β : Type} {f : α → Except ε β} {l : List α} {l' : List β}
    (h : l.mapM f = .ok l') (b : β) : b ∈ l' ↔ ∃ a ∈ l, f a = .ok b := by
  induction l generalizing l' with
  | nil =>
    cases h
    simp
  | cons a l ih =>
    rw [List.mapM_cons] at h
    obtain ⟨b', hb', h⟩ := except_bind_eq_ok.mp h
    obtain ⟨bs, hbs, h⟩ := except_bind_eq_ok.mp h
    cases h
    rw [List.mem_cons, ih hbs, List.exists_mem_cons_iff, hb', Except.ok.injEq, eq_comm]

/-- `sort.Strings`. -/
def sortStrings (l : List String) : List String := l.insertionSort (fun a b => a ≤ b)

lemma mem_sortStrings {l : List String} {s : String} : s ∈ sortStrings l ↔ s ∈ l :=
  List.mem_insertionSort _

lemma sortStrings_congr {a b : List String} (h : a.Perm b) : sortStrings a = sortStrings b := by
  have hperm : (sortStrings a).Perm (sortStrings b) :=
    (List.perm_insertionSort _ a).trans (h.trans (List.perm_insertionSort _ b).symm)
  exact hperm.eq_of_pairwise' (a.pairwise_insertionSort _) (b.pairwise_insertionSort _)

end Go
