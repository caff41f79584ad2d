import ErgGo.Lib.Bson
import ErgGo.Lib.Documents

/-!
# The e-learning content collections

Categories, levels and units are kept in three collections under string ids. Every request can
fail, and a write that fails may have been carried out all the same, a deletion of many for some
of its documents.
-/

namespace ErgGo.Elearning
open Go Bson Documents

structure ElearningLevelRef where
  levelID : String
  name : String

structure ElearningCategory where
  id : String
  tenantID : String
  name : String
  slug : String
  description : String
  parentID : Option String
  order : ℤ
  isActive : Bool
  levels : List ElearningLevelRef := []
  createdAt : Time := 0
  updatedAt : Time := 0

structure ElearningUnitRef where
  unitID : String
  name : String

structure ElearningLevel where
  id : String
  tenantID : String
  categoryID : String
  name : String
  slug : String
  description : String
  order : ℤ
  units : List ElearningUnitRef := []
  createdAt : Time := 0
  updatedAt : Time := 0

structure ElearningUnit where
  id : String
  tenantID : String
  levelID : String
  name : String
  slug : String
  description : String
  content : String
  order : ℤ
  createdAt : Time := 0
  updatedAt : Time := 0

structure ElearningStore where
  categories : Collection ElearningCategory.id
  levels : Collection ElearningLevel.id
  units : Collection ElearningUnit.id

/-- A request that fails, and the documents it wrote all the same. -/
structure Fault where
  error : String
  carriedOut : String → Bool

/-- What one call meets: its requests by their place in the code, and those of the levels that a
category takes with it. -/
structure ElearningEnv where
  newID : String
  now : Time
  fails : ℕ → Option Fault
  levelFails : String → ℕ → Option Fault

/-! ## Requests -/

section Requests

variable {Doc α : Type} {key : Doc → String} (tenant : Doc → String)

def performed (fault : Option Fault) (id : String) : Bool := fault.all fun f => f.carriedOut id

def answer (op : String) (fault : Option Fault) (reply : Except String α) : Except String α :=
  match fault with
  | none => reply
  | some f => .error (op ++ ": " ++ f.error)

/-- The filter `{"_id": id, "tenant_id": tenantID}`. -/
def byID (key tenant : Doc → String) (tenantID id : String) (d : Doc) : Bool := key d = id && tenant d = tenantID

def findByID (op : String) (fault : Option Fault) (tenantID id : String) (c : Collection key) :
    Except String (Option Doc) :=
  answer op fault (.ok (c.find (byID key tenant tenantID id)))

def insert (op : String) (fault : Option Fault) (d : Doc) (c : Collection key) :
    Except String Unit × Collection key :=
  (answer op fault (if (c.insertOne d).isSome then .ok () else .error (op ++ ": E11000 duplicate key error")),
    if performed fault (key d) then (c.insertOne d).getD c else c)

def replacement (d : Doc) : Update key where
  apply old := if key old = key d then d else old
  key_apply old := by
    by_cases h : key old = key d
    · rw [if_pos h, h]
    · rw [if_neg h]

def replace (op : String) (fault : Option Fault) (d : Doc) (c : Collection key) :
    Except String Unit × Collection key :=
  (answer op fault (.ok ()),
    if performed fault (key d) then c.updateOne (byID key tenant (tenant d) (key d)) (replacement d) else c)

def delete (op : String) (fault : Option Fault) (tenantID id : String) (c : Collection key) :
    Except String Unit × Collection key :=
  (answer op fault
      (if (c.find (byID key tenant tenantID id)).isSome then .ok () else .error (op ++ ": not found")),
    if performed fault id then c.deleteMany (byID key tenant tenantID id) else c)

def deleteMany (op : String) (fault : Option Fault) (p : Doc → Bool) (c : Collection key) :
    Except String Unit × Collection key :=
  (answer op fault (.ok ()), c.deleteMany fun d => p d && performed fault (key d))

end Requests

/-! ## The repository -/

/-- Times are stored in milliseconds. -/
def ElearningCategory.stored (cat : ElearningCategory) : ElearningCategory :=
  { cat with createdAt := dateTime cat.createdAt, updatedAt := dateTime cat.updatedAt }

def ElearningLevel.stored (lvl : ElearningLevel) : ElearningLevel :=
  { lvl with createdAt := dateTime lvl.createdAt, updatedAt := dateTime lvl.updatedAt }

def ElearningUnit.stored (unit : ElearningUnit) : ElearningUnit :=
  { unit with createdAt := dateTime unit.createdAt, updatedAt := dateTime unit.updatedAt }

def orNewID (env : ElearningEnv) (id : String) : String := if id = "" then env.newID else id

namespace Repository

def getCategoryByID (fault : Option Fault) (tenantID id : String) (s : ElearningStore) :
    Except String (Option ElearningCategory) :=
  findByID ElearningCategory.tenantID "elearning.repo.GetCategoryByID" fault tenantID id s.categories

def createCategory (env : ElearningEnv) (cat : ElearningCategory) (s : ElearningStore) :
    Except String ElearningCategory × ElearningStore :=
  let cat := { cat with id := orNewID env cat.id, createdAt := env.now, updatedAt := env.now }
  let r := insert "elearning.repo.CreateCategory" (env.fails 0) cat.stored s.categories
  (r.1.map fun _ => cat, { s with categories := r.2 })

def updateCategory (fault : Option Fault) (now : Time) (cat : ElearningCategory) (s : ElearningStore) :
    Except String ElearningCategory × ElearningStore :=
  let cat := { cat with updatedAt := now }
  let r := replace ElearningCategory.tenantID "elearning.repo.UpdateCategory" fault cat.stored s.categories
  (r.1.map fun _ => cat, { s with categories := r.2 })

def deleteCategory (fault : Option Fault) (tenantID id : String) (s : ElearningStore) :
    Except String Unit × ElearningStore :=
  let r := delete ElearningCategory.tenantID "elearning.repo.DeleteCategory" fault tenantID id s.categories
  (r.1, { s with categories := r.2 })

def listLevelsByCategory (fault : Option Fault) (tenantID categoryID : String) (s : ElearningStore) :
    Except String (List ElearningLevel) :=
  answer "elearning.repo.ListLevelsByCategory" fault (.ok (sortSliceStable (fun a b => a.order < b.order)
    (s.levels.docs.filter fun lvl => lvl.tenantID = tenantID && lvl.categoryID = categoryID)))

def getLevelByID (fault : Option Fault) (tenantID id : String) (s : ElearningStore) :
    Except String (Option ElearningLevel) :=
  findByID ElearningLevel.tenantID "elearning.repo.GetLevelByID" fault tenantID id s.levels

def createLevel (env : ElearningEnv) (lvl : ElearningLevel) (s : ElearningStore) :
    Except String ElearningLevel × ElearningStore :=
  let lvl := { lvl with id := orNewID env lvl.id, createdAt := env.now, updatedAt := env.now }
  let r := insert "elearning.repo.CreateLevel" (env.fails 1) lvl.stored s.levels
  (r.1.map fun _ => lvl, { s with levels := r.2 })

def updateLevel (fault : Option Fault) (now : Time) (lvl : ElearningLevel) (s : ElearningStore) :
    Except String ElearningLevel × ElearningStore :=
  let lvl := { lvl with updatedAt := now }
  let r := replace ElearningLevel.tenantID "elearning.repo.UpdateLevel" fault lvl.stored s.levels
  (r.1.map fun _ => lvl, { s with levels := r.2 })

def deleteLevel (fails : ℕ → Option Fault) (tenantID id : String) (s : ElearningStore) :
    Except String Unit × ElearningStore :=
  let units := deleteMany "elearning.repo.DeleteLevel units" (fails 0)
    (fun unit => unit.levelID = id && unit.tenantID = tenantID) s.units
  match units.1 with
  | .error e => (.error e, { s with units := units.2 })
  | .ok () =>
    let levels := delete ElearningLevel.tenantID "elearning.repo.DeleteLevel" (fails 1) tenantID id s.levels
    (levels.1, { s with levels := levels.2, units := units.2 })

def getUnitByID (fault : Option Fault) (tenantID id : String) (s : ElearningStore) :
    Except String (Option ElearningUnit) :=
  findByID ElearningUnit.tenantID "elearning.repo.GetUnitByID" fault tenantID id s.units

def createUnit (env : ElearningEnv) (unit : ElearningUnit) (s : ElearningStore) :
    Except String ElearningUnit × ElearningStore :=
  let unit := { unit with id := orNewID env unit.id, createdAt := env.now, updatedAt := env.now }
  let r := insert "elearning.repo.CreateUnit" (env.fails 1) unit.stored s.units
  (r.1.map fun _ => unit, { s with units := r.2 })

def updateUnit (fault : Option Fault) (now : Time) (unit : ElearningUnit) (s : ElearningStore) :
    Except String ElearningUnit × ElearningStore :=
  let unit := { unit with updatedAt := now }
  let r := replace ElearningUnit.tenantID "elearning.repo.UpdateUnit" fault unit.stored s.units
  (r.1.map fun _ => unit, { s with units := r.2 })

def deleteUnit (fault : Option Fault) (tenantID id : String) (s : ElearningStore) :
    Except String Unit × ElearningStore :=
  let r := delete ElearningUnit.tenantID "elearning.repo.DeleteUnit" fault tenantID id s.units
  (r.1, { s with units := r.2 })

end Repository

/-! ## What the requests do to the documents -/

section Effects

variable {Doc : Type} {key : Doc → String} {tenant : Doc → String} {c : Collection key}

lemma byID_iff {tenantID id : String} {d : Doc} :
    byID key tenant tenantID id d = true ↔ key d = id ∧ tenant d = tenantID := by
  unfold byID
  rw [Bool.and_eq_true, decide_eq_true_iff, decide_eq_true_iff]

lemma pinned_byID (tenantID id : String) : Pinned key (byID key tenant tenantID id) id :=
  fun _ hd => (byID_iff.mp hd).1

lemma find_byID_iff {tenantID id : String} {d : Doc} :
    c.find (byID key tenant tenantID id) = some d ↔ c.lookup id = some d ∧ tenant d = tenantID := by
  rw [Collection.find_of_pinned (pinned_byID tenantID id), Option.filter_eq_some_iff]
  constructor
  · rintro ⟨hd, hfilter⟩
    exact ⟨hd, (byID_iff.mp hfilter).2⟩
  · rintro ⟨hd, htenant⟩
    exact ⟨hd, byID_iff.mpr ⟨Collection.key_of_lookup hd, htenant⟩⟩

lemma findByID_eq_some_iff {op : String} {fault : Option Fault} {tenantID id : String} {d : Doc} :
    findByID tenant op fault tenantID id c = .ok (some d) ↔
      fault = none ∧ c.lookup id = some d ∧ tenant d = tenantID := by
  unfold findByID answer
  cases fault with
  | none =>
    dsimp only
    rw [Except.ok.injEq, find_byID_iff]
    exact (and_iff_right rfl).symm
  | some f =>
    constructor
    · intro h
      cases h
    · rintro ⟨h, -⟩
      cases h

lemma lookup_insert (op : String) (fault : Option Fault) (d : Doc) (c : Collection key) :
    (insert op fault d c).2.lookup =
      if performed fault (key d) ∧ c.lookup (key d) = none then Function.update c.lookup (key d) (some d)
      else c.lookup := by
  unfold insert
  dsimp only
  by_cases hperformed : performed fault (key d)
  · rw [if_pos hperformed]
    cases hinsert : c.insertOne d with
    | none =>
      have htaken : c.lookup (key d) ≠ none := by
        intro hfree
        unfold Collection.insertOne at hinsert
        rw [dif_neg (Collection.lookup_eq_none_iff.mp hfree)] at hinsert
        cases hinsert
      rw [if_neg fun h => htaken h.2]
      rfl
    | some c' =>
      rw [if_pos ⟨hperformed, Collection.lookup_of_insertOne hinsert⟩]
      funext k
      rw [Option.getD_some, Collection.lookup_insertOne hinsert]
      by_cases hk : k = key d
      · rw [if_pos hk.symm, hk, Function.update_self]
      · rw [if_neg (Ne.symm hk), Function.update_of_ne hk]
  · rw [if_neg hperformed, if_neg fun h => hperformed h.1]

/-- A document replaces the one under its id, which has to be of its tenant. -/
lemma lookup_replace (op : String) (fault : Option Fault) {d old : Doc} (hold : c.lookup (key d) = some old)
    (htenant : tenant old = tenant d) :
    (replace tenant op fault d c).2.lookup =
      if performed fault (key d) then Function.update c.lookup (key d) (some d) else c.lookup := by
  unfold replace
  dsimp only
  by_cases hperformed : performed fault (key d)
  · rw [if_pos hperformed, if_pos hperformed]
    funext k
    rw [Collection.lookup_updateOne (pinned_byID _ _)]
    by_cases hk : k = key d
    · have hkey : key old = key d := Collection.key_of_lookup hold
      rw [hk, Function.update_self, hold, Option.map_some, if_pos ⟨rfl, byID_iff.mpr ⟨hkey, htenant⟩⟩]
      exact congrArg some (if_pos hkey)
    · rw [Function.update_of_ne hk]
      cases hother : c.lookup k with
      | none => rfl
      | some other => rw [Option.map_some, if_neg fun h => hk h.1]
  · rw [if_neg hperformed, if_neg hperformed]

lemma mem_delete_iff (op : String) {fault : Option Fault} {tenantID id : String} {d : Doc} :
    d ∈ (delete tenant op fault tenantID id c).2.docs ↔
      d ∈ c.docs ∧ ¬(performed fault id ∧ key d = id ∧ tenant d = tenantID) := by
  unfold delete
  dsimp only
  by_cases hperformed : performed fault id
  · rw [if_pos hperformed]
    unfold Collection.deleteMany
    rw [List.mem_filter, Bool.not_eq_true', ← Bool.not_eq_true, byID_iff]
    exact and_congr_right fun _ => not_congr (iff_and_self.mpr fun _ => hperformed)
  · rw [if_neg hperformed]
    exact (and_iff_left fun h => hperformed h.1).symm

lemma mem_deleteMany_iff (op : String) {fault : Option Fault} {p : Doc → Bool} {d : Doc} :
    d ∈ (deleteMany op fault p c).2.docs ↔ d ∈ c.docs ∧ ¬(p d ∧ performed fault (key d)) := by
  unfold deleteMany Collection.deleteMany
  rw [List.mem_filter, Bool.not_eq_true', ← Bool.not_eq_true, Bool.and_eq_true]

end Effects

end ErgGo.Elearning
