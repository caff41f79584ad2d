import ErgGo.Lib.Documents
import ErgGo.Lib.GoRuntime

/-!
# Documents of a MongoDB collection

An optional field is missing, `null` or set, and a filter can tell these apart: `$exists` is
about the field, equality with `null` about its value.
-/

namespace Bson
open Go Documents

variable {α Doc : Type}

inductive BsonField (α : Type) where
  | missing
  | null
  | value (a : α)
  deriving DecidableEq

namespace BsonField

/-- `{$exists: …}`. -/
def exists? : BsonField α → Bool
  | .missing => false
  | _ => true

/-- Decoding into a pointer or a type with a zero value for nothing. -/
def get? : BsonField α → Option α
  | .value a => some a
  | _ => none

end BsonField

/-- Times are stored in whole milliseconds. -/
def dateTime (t : Time) : Time := t / 1000000 * 1000000

/-- `UpdateOne` with `SetUpsert(true)`: the first match is updated, else a document inserted. -/
def upsertOne (p : Doc → Bool) (f : Doc → Doc) (new : Doc) (docs : List Doc) : List Doc :=
  if docs.any p then modifyFirst p f docs else docs ++ [new]

lemma find?_upsertOne {p : Doc → Bool} {f : Doc → Doc} {new : Doc} (hp : ∀ d, p (f d) = p d) (hnew : p new)
    (docs : List Doc) : (upsertOne p f new docs).find? p = some (((docs.find? p).map f).getD new) := by
  unfold upsertOne
  by_cases hany : docs.any p
  · have hfound : (docs.find? p).isSome := by rwa [List.find?_isSome, ← List.any_eq_true]
    obtain ⟨d, hd⟩ := Option.isSome_iff_exists.mp hfound
    rw [if_pos hany, find?_modifyFirst hp, hd]
    rfl
  · have hnone : docs.find? p = none := by
      rw [List.find?_eq_none]
      intro d hd hpd
      exact hany (List.any_eq_true.mpr ⟨d, hd, hpd⟩)
    rw [if_neg hany, List.find?_append, hnone]
    simp [hnew]

/-- Documents that another filter takes are not touched. -/
lemma find?_upsertOne_disjoint {p q : Doc → Bool} {f : Doc → Doc} {new : Doc}
    (hpq : ∀ d, p d → q d = false ∧ q (f d) = false) (hnew : q new = false) (docs : List Doc) :
    (upsertOne p f new docs).find? q = docs.find? q := by
  unfold upsertOne
  by_cases hany : docs.any p
  · rw [if_pos hany, find?_modifyFirst_disjoint hpq]
  · rw [if_neg hany, List.find?_append]
    simp [hnew]

lemma forall_upsertOne {P : Doc → Prop} {p : Doc → Bool} {f : Doc → Doc} {new : Doc} {docs : List Doc}
    (h : ∀ d ∈ docs, P d) (hf : ∀ d, docs.find? p = some d → P (f d)) (hnew : P new) : ∀ d ∈ upsertOne p f new docs, P d := by
  unfold upsertOne
  by_cases hany : docs.any p
  · rw [if_pos hany]
    exact forall_modifyFirst h hf
  · rw [if_neg hany]
    intro d hd
    obtain hd | hd := List.mem_append.mp hd
    · exact h d hd
    · rw [List.mem_singleton.mp hd]
      exact hnew

/-! ## Upserts by the key -/

section Keyed

variable {Key : Type} [DecidableEq Key] {key : Doc → Key}

/-- `UpdateOne` with `SetUpsert(true)` and a filter that fixes the key. -/
def upsertKey (c : Collection key) (u : Update key) (new : Doc) : Collection key :=
  (c.insertOne new).getD (c.updateOne (fun d => key d = key new) u)

lemma upsertKey_of_mem {c : Collection key} (u : Update key) {new : Doc} (hmem : key new ∈ c.docs.map key) :
    upsertKey c u new = c.updateOne (fun d => key d = key new) u := by
  unfold upsertKey Collection.insertOne
  rw [dif_pos hmem]
  rfl

lemma lookup_upsertKey (c : Collection key) (u : Update key) (new : Doc) (k : Key) :
    (upsertKey c u new).lookup k =
      if k = key new then some (((c.lookup k).map u.apply).getD new) else c.lookup k := by
  unfold upsertKey
  cases hinsert : c.insertOne new with
  | some c' =>
    rw [Option.getD_some, Collection.lookup_insertOne hinsert]
    by_cases hk : k = key new
    · have hfree := Collection.lookup_of_insertOne hinsert
      rw [if_pos hk.symm, if_pos hk, hk, hfree]
      rfl
    · rw [if_neg (Ne.symm hk), if_neg hk]
  | none =>
    have hpinned : Pinned key (fun d => decide (key d = key new)) (key new) := fun d hd => of_decide_eq_true hd
    have htaken : key new ∈ c.docs.map key := by
      unfold Collection.insertOne at hinsert
      by_contra hfree
      rw [dif_neg hfree] at hinsert
      cases hinsert
    rw [Option.getD_none, Collection.lookup_updateOne hpinned]
    by_cases hk : k = key new
    · cases hlookup : c.lookup k with
      | none => exact absurd (hk ▸ htaken) (Collection.lookup_eq_none_iff.mp hlookup)
      | some d =>
        have hd : key d = key new := (Collection.key_of_lookup hlookup).trans hk
        simp [hk, hd]
    · simp [hk]

end Keyed

end Bson
