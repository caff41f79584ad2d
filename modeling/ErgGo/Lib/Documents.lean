import Mathlib.Data.List.Nodup

/-!
# Document collections

A collection holds documents under distinct keys, in insertion order. Single-document
operations find, update or insert by a filter; a filter that fixes the key is *pinned*, and
for pinned filters every operation is described by its effect on `lookup`.
-/

namespace Documents

variable {Doc Key : Type}

/-- Applies `f` to the first document satisfying `p`. -/
def modifyFirst (p : Doc → Bool) (f : Doc → Doc) : List Doc → List Doc
  | [] => []
  | d :: ds => if p d then f d :: ds else d :: modifyFirst p f ds

lemma map_modifyFirst {key : Doc → Key} {f : Doc → Doc} (hf : ∀ d, key (f d) = key d)
    (p : Doc → Bool) (ds : List Doc) : (modifyFirst p f ds).map key = ds.map key := by
  induction ds with
  | nil => rfl
  | cons d ds ih =>
    by_cases hp : p d
    · simp [modifyFirst, hp, hf]
    · simp [modifyFirst, hp, ih]

/-- A property of all documents survives the change of the first match. -/
lemma forall_modifyFirst {P : Doc → Prop} {p : Doc → Bool} {f : Doc → Doc} {ds : List Doc}
    (h : ∀ d ∈ ds, P d) (hf : ∀ d, ds.find? p = some d → P (f d)) : ∀ d ∈ modifyFirst p f ds, P d := by
  induction ds with
  | nil => simp [modifyFirst]
  | cons e ds ih =>
    intro d hd
    by_cases hp : p e
    · simp only [modifyFirst, hp, ↓reduceIte, List.mem_cons] at hd
      obtain rfl | hd := hd
      · exact hf e (List.find?_cons_of_pos hp)
      · exact h d (List.mem_cons_of_mem e hd)
    · simp only [modifyFirst, hp, Bool.false_eq_true, ↓reduceIte, List.mem_cons] at hd
      obtain rfl | hd := hd
      · exact h d (by simp)
      · refine ih (fun d hd => h d (List.mem_cons_of_mem e hd)) (fun d hd => hf d ?_) d hd
        rw [List.find?_cons_of_neg hp]
        exact hd

lemma mem_modifyFirst_of_find? {p : Doc → Bool} {ds : List Doc} {d : Doc} (h : ds.find? p = some d)
    (f : Doc → Doc) : f d ∈ modifyFirst p f ds := by
  induction ds with
  | nil => cases h
  | cons e ds ih =>
    by_cases hp : p e
    · rw [List.find?_cons_of_pos hp] at h
      cases h
      simp [modifyFirst, hp]
    · rw [List.find?_cons_of_neg hp] at h
      simp [modifyFirst, hp, ih h]

/-- Documents that the filter does not take stay. -/
lemma mem_modifyFirst_of_neg {p : Doc → Bool} {f : Doc → Doc} {ds : List Doc} {d : Doc} (h : d ∈ ds) (hd : ¬p d) :
    d ∈ modifyFirst p f ds := by
  induction ds with
  | nil => cases h
  | cons e ds ih =>
    by_cases hp : p e
    · simp only [modifyFirst, hp, ↓reduceIte, List.mem_cons]
      obtain rfl | h := List.mem_cons.mp h
      · exact absurd hp hd
      · exact .inr h
    · simp only [modifyFirst, hp, Bool.false_eq_true, ↓reduceIte, List.mem_cons]
      exact (List.mem_cons.mp h).imp_right ih

lemma modifyFirst_congr {p : Doc → Bool} {f g : Doc → Doc} {ds : List Doc}
    (h : ∀ d, ds.find? p = some d → f d = g d) : modifyFirst p f ds = modifyFirst p g ds := by
  induction ds with
  | nil => rfl
  | cons d ds ih =>
    by_cases hp : p d
    · simp [modifyFirst, hp, h d (List.find?_cons_of_pos hp)]
    · rw [List.find?_cons_of_neg hp] at h
      simp [modifyFirst, hp, ih h]

lemma find?_modifyFirst {p : Doc → Bool} {f : Doc → Doc} (hp : ∀ d, p (f d) = p d) (ds : List Doc) :
    (modifyFirst p f ds).find? p = (ds.find? p).map f := by
  induction ds with
  | nil => rfl
  | cons d ds ih =>
    by_cases hpd : p d
    · simp [modifyFirst, hpd, hp]
    · simp [modifyFirst, hpd, ih]

/-- A change of documents that another filter does not take. -/
lemma find?_modifyFirst_disjoint {p q : Doc → Bool} {f : Doc → Doc} (hpq : ∀ d, p d → q d = false ∧ q (f d) = false)
    (ds : List Doc) : (modifyFirst p f ds).find? q = ds.find? q := by
  induction ds with
  | nil => rfl
  | cons d ds ih =>
    by_cases hpd : p d
    · obtain ⟨hq, hqf⟩ := hpq d hpd
      simp [modifyFirst, hpd, hq, hqf]
    · simp [modifyFirst, hpd, List.find?_cons, ih]

lemma modifyFirst_modifyFirst {p : Doc → Bool} {f g : Doc → Doc} (hp : ∀ d, p (f d) = p d)
    (ds : List Doc) : modifyFirst p g (modifyFirst p f ds) = modifyFirst p (fun d => g (f d)) ds := by
  induction ds with
  | nil => rfl
  | cons d ds ih =>
    by_cases hpd : p d
    · simp [modifyFirst, hpd, hp]
    · simp [modifyFirst, hpd, ih]

/-- Updating the first match moves a count by what the update does to that document. -/
lemma countP_modifyFirst (c p : Doc → Bool) (f : Doc → Doc) (ds : List Doc) :
    (modifyFirst p f ds).countP c + (ds.find? p).elim 0 (fun d => (c d).toNat) =
      ds.countP c + (ds.find? p).elim 0 (fun d => (c (f d)).toNat) := by
  induction ds with
  | nil => rfl
  | cons d ds ih =>
    by_cases hp : p d
    · simp only [modifyFirst, hp, ↓reduceIte, List.find?_cons_of_pos, Option.elim_some,
        List.countP_cons]
      cases c d <;> cases c (f d) <;> simp
    · simp only [modifyFirst, hp, Bool.false_eq_true, ↓reduceIte, not_false_eq_true,
        List.find?_cons_of_neg, List.countP_cons]
      omega

/-- Position by position: the document that is found may change, the others do not. -/
lemma forall₂_modifyFirst {R : Doc → Doc → Prop} {p : Doc → Bool} {f : Doc → Doc} {ds : List Doc}
    (hrefl : ∀ d, R d d) (hchange : ∀ d, ds.find? p = some d → R d (f d)) :
    List.Forall₂ R ds (modifyFirst p f ds) := by
  induction ds with
  | nil => exact .nil
  | cons d ds ih =>
    by_cases hp : p d
    · rw [modifyFirst, if_pos hp]
      exact .cons (hchange d (List.find?_cons_of_pos hp)) (List.forall₂_same.mpr fun d _ => hrefl d)
    · rw [modifyFirst, if_neg hp]
      exact .cons (hrefl d) (ih fun e he => hchange e (by rw [List.find?_cons_of_neg hp, he]))

lemma forall₂_modifyFirst_found {R : Doc → Doc → Prop} {p : Doc → Bool} {f : Doc → Doc} {ds : List Doc}
    (h : List.Forall₂ R ds (modifyFirst p f ds)) {d : Doc} (hd : ds.find? p = some d) : R d (f d) := by
  induction ds with
  | nil => cases hd
  | cons e ds ih =>
    by_cases hp : p e
    · rw [List.find?_cons_of_pos hp, Option.some_inj] at hd
      rw [modifyFirst, if_pos hp, hd] at h
      exact (List.forall₂_cons.mp h).1
    · rw [List.find?_cons_of_neg hp] at hd
      rw [modifyFirst, if_neg hp] at h
      exact ih (List.forall₂_cons.mp h).2 hd

lemma modifyFirst_of_find?_eq_none {p : Doc → Bool} {ds : List Doc} (f : Doc → Doc)
    (h : ds.find? p = none) : modifyFirst p f ds = ds := by
  induction ds with
  | nil => rfl
  | cons d ds ih =>
    rw [List.find?_eq_none] at h
    have hd : p d = false := by simpa using h d (by simp)
    have hds : ds.find? p = none := List.find?_eq_none.mpr (fun e he => h e (by simp [he]))
    simp [modifyFirst, hd, ih hds]

/-- A filter that fixes the key. -/
def Pinned (key : Doc → Key) (p : Doc → Bool) (k : Key) : Prop := ∀ d, p d → key d = k

/-- Under distinct keys a further condition of a pinned filter can be left to the change. -/
lemma modifyFirst_and {key : Doc → Key} {p : Doc → Bool} {k : Key} (hp : Pinned key p k)
    (g : Doc → Bool) (f : Doc → Doc) {ds : List Doc} (hnd : (ds.map key).Nodup) :
    modifyFirst (fun d => p d && g d) f ds = modifyFirst p (fun d => if g d then f d else d) ds := by
  induction ds with
  | nil => rfl
  | cons d ds ih =>
    rw [List.map_cons, List.nodup_cons] at hnd
    by_cases hpd : p d
    · by_cases hg : g d
      · simp [modifyFirst, hpd, hg]
      · have hrest : ds.find? (fun d => p d && g d) = none := by
          rw [List.find?_eq_none]
          intro e he hpe
          rw [Bool.and_eq_true] at hpe
          have hek : key e = key d := (hp e hpe.1).trans (hp d hpd).symm
          exact hnd.1 (hek ▸ List.mem_map_of_mem he)
        simp [modifyFirst, hpd, hg, modifyFirst_of_find?_eq_none f hrest]
    · simp [modifyFirst, hpd, ih hnd.2]

/-- Documents under distinct keys. -/
@[ext] structure Collection (key : Doc → Key) where
  docs : List Doc
  nodup : (docs.map key).Nodup

/-- A change of a document that keeps its key. -/
structure Update (key : Doc → Key) where
  apply : Doc → Doc
  key_apply : ∀ d, key (apply d) = key d

namespace Collection

variable {key : Doc → Key} [DecidableEq Key]

def empty : Collection key := ⟨[], by simp⟩

def singleton (d : Doc) : Collection key := ⟨[d], by simp⟩

def lookup (c : Collection key) (k : Key) : Option Doc := c.docs.find? (fun d => key d = k)

def find (c : Collection key) (p : Doc → Bool) : Option Doc := c.docs.find? p

def updateOne (c : Collection key) (p : Doc → Bool) (u : Update key) : Collection key :=
  ⟨modifyFirst p u.apply c.docs, by rw [map_modifyFirst u.key_apply]; exact c.nodup⟩

def updateMany (c : Collection key) (p : Doc → Bool) (u : Update key) : Collection key :=
  ⟨c.docs.map (fun d => if p d then u.apply d else d), by
    have hkeys : (c.docs.map (fun d => if p d then u.apply d else d)).map key = c.docs.map key := by
      rw [List.map_map]
      refine List.map_congr_left fun d _ => ?_
      by_cases hp : p d
      · simp [hp, u.key_apply]
      · simp [hp]
    rw [hkeys]
    exact c.nodup⟩

/-- Inserting fails on a key that is taken. -/
def insertOne (c : Collection key) (d : Doc) : Option (Collection key) :=
  if h : key d ∈ c.docs.map key then none
  else some ⟨c.docs ++ [d], by
    rw [List.map_append, List.nodup_append]
    refine ⟨c.nodup, by simp, ?_⟩
    rintro a ha b hb rfl
    exact h ((List.mem_singleton.mp hb) ▸ ha)⟩

def deleteMany (c : Collection key) (p : Doc → Bool) : Collection key :=
  ⟨c.docs.filter (fun d => !p d), c.nodup.sublist (List.filter_sublist.map key)⟩

/-- Inserting one after another, where one failure fails all. -/
def insertMany (c : Collection key) (ds : List Doc) : Option (Collection key) := ds.foldlM insertOne c

omit [DecidableEq Key] in
/-- Updating nothing. -/
lemma updateOne_of_find_eq_none {c : Collection key} {p : Doc → Bool} (u : Update key)
    (h : c.find p = none) : c.updateOne p u = c :=
  Collection.ext (modifyFirst_of_find?_eq_none u.apply h)

lemma docs_insertOne {c c' : Collection key} {d : Doc} (h : c.insertOne d = some c') :
    c'.docs = c.docs ++ [d] := by
  unfold insertOne at h
  split at h
  · cases h
  · cases h
    rfl

lemma docs_getD_insertOne {c : Collection key} {d : Doc} (h : c.lookup (key d) = none) :
    ((c.insertOne d).getD c).docs = c.docs ++ [d] := by
  have hfree : key d ∉ c.docs.map key := by simpa [lookup] using h
  unfold insertOne
  rw [dif_neg hfree]
  rfl

lemma docs_insertMany {c c' : Collection key} {ds : List Doc} (h : c.insertMany ds = some c') :
    c'.docs = c.docs ++ ds := by
  unfold insertMany at h
  induction ds generalizing c with
  | nil =>
    cases h
    rw [List.append_nil]
  | cons d ds ih =>
    rw [List.foldlM_cons] at h
    obtain ⟨c₁, hinsert, h⟩ := Option.bind_eq_some_iff.mp h
    rw [ih h, docs_insertOne hinsert, List.append_assoc, List.singleton_append]

lemma key_of_lookup {c : Collection key} {k : Key} {d : Doc} (h : c.lookup k = some d) :
    key d = k := by
  simpa using List.find?_some h

lemma lookup_eq_some_iff {c : Collection key} {k : Key} {d : Doc} :
    c.lookup k = some d ↔ d ∈ c.docs ∧ key d = k := by
  refine ⟨fun h => ⟨List.mem_of_find?_eq_some h, key_of_lookup h⟩, ?_⟩
  obtain ⟨ds, hnd⟩ := c
  rintro ⟨hd, rfl⟩
  simp only [lookup] at *
  induction ds with
  | nil => simp at hd
  | cons e ds ih =>
    rw [List.map_cons, List.nodup_cons] at hnd
    by_cases he : key e = key d
    · rcases List.mem_cons.mp hd with rfl | hd
      · simp
      · exact absurd (he ▸ List.mem_map_of_mem hd) hnd.1
    · rw [List.find?_cons_of_neg (by simpa using he)]
      rcases List.mem_cons.mp hd with rfl | hd
      · exact absurd rfl he
      · exact ih hnd.2 hd

lemma lookup_eq_none_iff {c : Collection key} {k : Key} :
    c.lookup k = none ↔ k ∉ c.docs.map key := by
  simp [lookup]

lemma find_of_pinned {c : Collection key} {p : Doc → Bool} {k : Key}
    (hp : Pinned key p k) : c.find p = (c.lookup k).filter p := by
  cases hl : c.find p with
  | some d =>
    have hd : p d := List.find?_some hl
    have : c.lookup k = some d := lookup_eq_some_iff.mpr ⟨List.mem_of_find?_eq_some hl, hp d hd⟩
    rw [this, Option.filter_some, if_pos hd]
  | none =>
    cases hk : c.lookup k with
    | none => rfl
    | some d =>
      have hd := List.find?_eq_none.mp hl d (lookup_eq_some_iff.mp hk).1
      rw [Option.filter_some, if_neg hd]

/-- A filter that names the key finds the document of that key that meets the rest of it. -/
lemma find_keyed_eq_some_iff {c : Collection key} {p : Doc → Bool} {k : Key} {d : Doc} :
    c.find (fun d => p d && key d = k) = some d ↔ d ∈ c.docs ∧ p d ∧ key d = k := by
  have hpinned : Pinned key (fun d => p d && key d = k) k := fun d h => by
    simpa using (Bool.and_eq_true_iff.mp h).2
  rw [find_of_pinned hpinned, Option.filter_eq_some_iff, lookup_eq_some_iff, Bool.and_eq_true, decide_eq_true_eq]
  constructor
  · rintro ⟨⟨hdoc, -⟩, hp, hk⟩
    exact ⟨hdoc, hp, hk⟩
  · rintro ⟨hdoc, hp, hk⟩
    exact ⟨⟨hdoc, hk⟩, hp, hk⟩

lemma lookup_updateOne {c : Collection key} {p : Doc → Bool} {k : Key}
    (hp : Pinned key p k) (u : Update key) (k' : Key) :
    (c.updateOne p u).lookup k' =
      (c.lookup k').map (fun d => if k' = k ∧ p d then u.apply d else d) := by
  obtain ⟨ds, hnd⟩ := c
  simp only [lookup, updateOne]
  induction ds with
  | nil => rfl
  | cons d ds ih =>
    rw [List.map_cons, List.nodup_cons] at hnd
    by_cases hpd : p d
    · have hdk : key d = k := hp d hpd
      simp only [modifyFirst, hpd, ↓reduceIte]
      by_cases hk' : key d = k'
      · rw [List.find?_cons_of_pos (by simpa [u.key_apply] using hk'),
          List.find?_cons_of_pos (by simpa using hk')]
        simp [hpd, ← hk', hdk]
      · rw [List.find?_cons_of_neg (by simpa [u.key_apply] using hk'),
          List.find?_cons_of_neg (by simpa using hk')]
        cases hf : ds.find? (fun d => key d = k') with
        | none => rfl
        | some e =>
          have hne : k' ≠ k := fun h => hk' (hdk.trans h.symm)
          simp [hne]
    · simp only [modifyFirst, hpd, Bool.false_eq_true, ↓reduceIte]
      by_cases hk' : key d = k'
      · rw [List.find?_cons_of_pos (by simpa using hk'), List.find?_cons_of_pos (by simpa using hk')]
        simp [hpd]
      · rw [List.find?_cons_of_neg (by simpa using hk'), List.find?_cons_of_neg (by simpa using hk')]
        exact ih hnd.2

lemma lookup_updateMany (c : Collection key) (p : Doc → Bool) (u : Update key) (k : Key) :
    (c.updateMany p u).lookup k = (c.lookup k).map (fun d => if p d then u.apply d else d) := by
  have hkey : ∀ d, key (if p d then u.apply d else d) = key d := by
    intro d
    by_cases hp : p d
    · simp [hp, u.key_apply]
    · simp [hp]
  unfold lookup updateMany
  rw [List.find?_map]
  refine congrArg (Option.map _) (congrArg (fun q => c.docs.find? q) (funext fun d => ?_))
  rw [Function.comp_apply, hkey]

lemma lookup_of_insertOne {c c' : Collection key} {d : Doc} (h : c.insertOne d = some c') :
    c.lookup (key d) = none := by
  unfold insertOne at h
  split at h
  · cases h
  · next hd => exact lookup_eq_none_iff.mpr hd

lemma lookup_insertOne {c c' : Collection key} {d : Doc} (h : c.insertOne d = some c') (k : Key) :
    c'.lookup k = if key d = k then some d else c.lookup k := by
  unfold insertOne at h
  split at h
  · cases h
  · next hd =>
    cases h
    have hfresh := lookup_eq_none_iff.mpr hd
    simp only [lookup, List.find?_append] at hfresh ⊢
    by_cases hk : key d = k
    · subst hk
      simp [hfresh]
    · simp [hk]

/-- An insert, if it succeeds, leaves the other documents as they are. -/
lemma lookup_getD_insertOne {c : Collection key} {k : Key} {d' : Doc} (h : c.lookup k = some d') (d : Doc) :
    ((c.insertOne d).getD c).lookup k = some d' := by
  cases hd : c.insertOne d with
  | none => exact h
  | some c' =>
    have hne : key d ≠ k := by
      rintro rfl
      rw [lookup_of_insertOne hd] at h
      cases h
    rw [Option.getD_some, lookup_insertOne hd, if_neg hne, h]

lemma lookup_getD_insertOne_of_ne {c : Collection key} {k : Key} {d : Doc} (h : key d ≠ k) :
    ((c.insertOne d).getD c).lookup k = c.lookup k := by
  cases hd : c.insertOne d with
  | none => rfl
  | some c' => rw [Option.getD_some, lookup_insertOne hd, if_neg h]

/-- A write by key leaves the documents under other keys as they are. -/
lemma lookup_updateMany_of_ne {c : Collection key} {p : Doc → Bool} (u : Update key) {k : Key}
    (h : ∀ d, key d = k → p d = false) : (c.updateMany p u).lookup k = c.lookup k := by
  rw [lookup_updateMany]
  cases hd : c.lookup k with
  | none => rfl
  | some d => simp [h d (key_of_lookup hd)]

lemma lookup_deleteMany_of_ne {c : Collection key} {p : Doc → Bool} {k : Key} (h : ∀ d, key d = k → p d = false) :
    (c.deleteMany p).lookup k = c.lookup k := by
  unfold lookup deleteMany
  rw [List.find?_filter]
  refine congrFun (congrArg _ (funext fun d => ?_)) _
  by_cases hd : key d = k
  · simp [hd, h d hd]
  · simp [hd]

end Collection

end Documents
