import ErgGo.Elearning.ContentService
import ErgGo.Lib.References
import ErgGo.Lib.Runs

/-!
# The content tree

Levels and units always lie in a category and a level of their tenant. The parents of categories
are not looked after in the same way: a new category takes any parent, an update asks only for a
parent other than the category itself, and a category is deleted with its subcategories left
behind, and with those of its levels that could not be deleted.
-/

namespace ErgGo.Elearning
open Go Documents References Relation Runs

section Views

variable {Doc : Type} {key : Doc → String} (tenant : Doc → String) (ref : Doc → Option String)

def tenants (c : Collection key) (id : String) : Option String := (c.lookup id).map tenant

/-- The reference of a document, in its tenant. -/
def refOf (d : Option Doc) : Option (String × String) := d.bind fun d => (ref d).map (tenant d, ·)

def refs (c : Collection key) (id : String) : Option (String × String) := refOf tenant ref (c.lookup id)

end Views

def ElearningStore.categoryTenants (s : ElearningStore) : String → Option String :=
  tenants ElearningCategory.tenantID s.categories

def ElearningStore.parentRefs (s : ElearningStore) : String → Option (String × String) :=
  refs ElearningCategory.tenantID ElearningCategory.parentID s.categories

def ElearningStore.parentOf (s : ElearningStore) (id : String) : Option String :=
  (s.categories.lookup id).bind ElearningCategory.parentID

def ElearningStore.levelTenants (s : ElearningStore) : String → Option String :=
  tenants ElearningLevel.tenantID s.levels

def ElearningStore.levelRefs (s : ElearningStore) : String → Option (String × String) :=
  refs ElearningLevel.tenantID (fun lvl => some lvl.categoryID) s.levels

def ElearningStore.unitRefs (s : ElearningStore) : String → Option (String × String) :=
  refs ElearningUnit.tenantID (fun unit => some unit.levelID) s.units

/-- Parents, categories and levels are there, in the same tenant, and parents do not go round. -/
structure Sound (s : ElearningStore) : Prop where
  parents : Resolves s.parentRefs s.categoryTenants
  levels : Resolves s.levelRefs s.categoryTenants
  units : Resolves s.unitRefs s.levelTenants
  acyclic : Acyclic s.parentOf

/-! ## References of a changed collection -/

section Views

variable {Doc : Type} {key : Doc → String} {tenant : Doc → String} {ref : Doc → Option String} {c c' : Collection key}

lemma tenants_eq_some_iff {id t : String} :
    tenants tenant c id = some t ↔ ∃ d ∈ c.docs, key d = id ∧ tenant d = t := by
  unfold tenants
  rw [Option.map_eq_some_iff]
  simp only [Collection.lookup_eq_some_iff, and_assoc]

lemma refs_eq_some_iff {id t b : String} :
    refs tenant ref c id = some (t, b) ↔ ∃ d ∈ c.docs, key d = id ∧ tenant d = t ∧ ref d = some b := by
  unfold refs refOf
  rw [Option.bind_eq_some_iff]
  simp only [Collection.lookup_eq_some_iff, Option.map_eq_some_iff, Prod.mk.injEq, and_assoc]
  refine exists_congr fun d => and_congr_right fun _ => and_congr_right fun _ => ?_
  constructor
  · rintro ⟨b', hb', ht, rfl⟩
    exact ⟨ht, hb'⟩
  · rintro ⟨ht, hb⟩
    exact ⟨b, hb, ht, rfl⟩

lemma tenants_update {id : String} {d : Option Doc} (h : c'.lookup = Function.update c.lookup id d) :
    tenants tenant c' = Function.update (tenants tenant c) id (d.map tenant) := by
  funext k
  unfold tenants
  rw [h]
  by_cases hk : k = id
  · rw [hk, Function.update_self, Function.update_self]
  · rw [Function.update_of_ne hk, Function.update_of_ne hk]

lemma refs_update {id : String} {d : Option Doc} (h : c'.lookup = Function.update c.lookup id d) :
    refs tenant ref c' = Function.update (refs tenant ref c) id (refOf tenant ref d) := by
  funext k
  unfold refs
  rw [h]
  by_cases hk : k = id
  · rw [hk, Function.update_self, Function.update_self]
  · rw [Function.update_of_ne hk, Function.update_of_ne hk]

lemma tenants_congr (h : c'.lookup = c.lookup) : tenants tenant c' = tenants tenant c := by
  funext k
  unfold tenants
  rw [h]

lemma refs_congr (h : c'.lookup = c.lookup) : refs tenant ref c' = refs tenant ref c := by
  funext k
  unfold refs
  rw [h]

lemma refs_mono (h : ∀ d ∈ c'.docs, d ∈ c.docs) {id t b : String} (hid : refs tenant ref c' id = some (t, b)) :
    refs tenant ref c id = some (t, b) := by
  obtain ⟨d, hd, hkey⟩ := refs_eq_some_iff.mp hid
  exact refs_eq_some_iff.mpr ⟨d, h d hd, hkey⟩

variable (tenant) in
/-- At most one document is written, which stays in its tenant. -/
def Puts (P : Doc → Prop) (c c' : Collection key) : Prop :=
  c'.lookup = c.lookup ∨
    ∃ id d, P d ∧ (∀ old, c.lookup id = some old → tenant old = tenant d) ∧
      c'.lookup = Function.update c.lookup id (some d)

variable {P : Doc → Prop}

lemma puts_insert (op : String) (fault : Option Fault) {d : Doc} (hd : P d) :
    Puts tenant P c (insert op fault d c).2 := by
  unfold Puts
  rw [lookup_insert]
  by_cases hwritten : performed fault (key d) ∧ c.lookup (key d) = none
  · rw [if_pos hwritten]
    refine .inr ⟨key d, d, hd, fun old hold => ?_, rfl⟩
    rw [hwritten.2] at hold
    cases hold
  · rw [if_neg hwritten]
    exact .inl rfl

lemma puts_replace (op : String) (fault : Option Fault) {d old : Doc} (hold : c.lookup (key d) = some old)
    (htenant : tenant old = tenant d) (hd : P d) : Puts tenant P c (replace tenant op fault d c).2 := by
  unfold Puts
  rw [lookup_replace op fault hold htenant]
  by_cases hwritten : performed fault (key d)
  · rw [if_pos hwritten]
    refine .inr ⟨key d, d, hd, fun old' hold' => ?_, rfl⟩
    obtain rfl := Option.some_inj.mp (hold.symm.trans hold')
    exact htenant
  · rw [if_neg hwritten]
    exact .inl rfl

lemma Puts.resolves_refs {target : String → Option String}
    (hputs : Puts tenant (fun d => ∀ b, ref d = some b → target b = some (tenant d)) c c')
    (h : Resolves (refs tenant ref c) target) : Resolves (refs tenant ref c') target := by
  obtain hsame | ⟨id, d, hd, -, hupdate⟩ := hputs
  · rw [refs_congr hsame]
    exact h
  · rw [refs_update hupdate]
    refine h.update_source id fun t b hx => ?_
    obtain ⟨b', hb', hpair⟩ := Option.map_eq_some_iff.mp hx
    obtain ⟨rfl, rfl⟩ := Prod.mk.injEq .. ▸ hpair
    exact hd b' hb'

lemma Puts.resolves_tenants {source : String → Option (String × String)} (hputs : Puts tenant P c c')
    (h : Resolves source (tenants tenant c)) : Resolves source (tenants tenant c') := by
  obtain hsame | ⟨id, d, -, hkept, hupdate⟩ := hputs
  · rw [tenants_congr hsame]
    exact h
  · rw [tenants_update hupdate]
    refine h.update_target fun t ht => ?_
    obtain ⟨old, hold, rfl⟩ := Option.map_eq_some_iff.mp ht
    exact hkept old hold

end Views

/-! ## Levels and units -/

section Levels

lemma createUnder_store {Doc New : Type} (op what id : String) (found : Except String (Option Doc))
    (create : ElearningStore → Except String New × ElearningStore) (s : ElearningStore) :
    (createUnder op what id found create s).2 = s ∨
      (∃ d, found = .ok (some d)) ∧ (createUnder op what id found create s).2 = (create s).2 := by
  cases found with
  | error e => exact .inl rfl
  | ok found =>
    cases found with
    | none => exact .inl rfl
    | some d => exact .inr ⟨⟨d, rfl⟩, rfl⟩

lemma updateFound_store {Doc : Type} (op : String) (found : Except String (Option Doc))
    (reference : Except String (Option String)) (change : Option String → Doc → Doc)
    (update : Doc → ElearningStore → Except String Doc × ElearningStore) (s : ElearningStore) :
    (updateFound op found reference change update s).2 = s ∨
      ∃ d id, found = .ok (some d) ∧ reference = .ok id ∧
        (updateFound op found reference change update s).2 = (update (change id d) s).2 := by
  cases found with
  | error e => exact .inl rfl
  | ok found =>
    cases found with
    | none => exact .inl rfl
    | some d =>
      cases reference with
      | error e => exact .inl rfl
      | ok id => exact .inr ⟨d, id, rfl, rfl, rfl⟩

variable {s : ElearningStore}

lemma getCategoryByID_found {fault : Option Fault} {tenantID id : String} {cat : ElearningCategory}
    (h : Repository.getCategoryByID fault tenantID id s = .ok (some cat)) : s.categoryTenants id = some tenantID := by
  obtain ⟨-, hcat, htenant⟩ := findByID_eq_some_iff.mp h
  unfold ElearningStore.categoryTenants tenants
  rw [hcat, Option.map_some, htenant]

lemma getLevelByID_found {fault : Option Fault} {tenantID id : String} {lvl : ElearningLevel}
    (h : Repository.getLevelByID fault tenantID id s = .ok (some lvl)) : s.levelTenants id = some tenantID := by
  obtain ⟨-, hlvl, htenant⟩ := findByID_eq_some_iff.mp h
  unfold ElearningStore.levelTenants tenants
  rw [hlvl, Option.map_some, htenant]

/-- A level is written whose category is there. -/
lemma Sound.put_level (h : Sound s) {levels : Collection ElearningLevel.id}
    (hputs : Puts ElearningLevel.tenantID (fun lvl => s.categoryTenants lvl.categoryID = some lvl.tenantID)
      s.levels levels) : Sound { s with levels := levels } where
  parents := h.parents
  levels := by
    refine Puts.resolves_refs (hputs.imp_right ?_) h.levels
    rintro ⟨id, d, hd, hrest⟩
    refine ⟨id, d, fun b hb => ?_, hrest⟩
    rw [← Option.some_inj.mp hb]
    exact hd
  units := hputs.resolves_tenants h.units
  acyclic := h.acyclic

/-- A unit is written whose level is there. -/
lemma Sound.put_unit (h : Sound s) {units : Collection ElearningUnit.id}
    (hputs : Puts ElearningUnit.tenantID (fun unit => s.levelTenants unit.levelID = some unit.tenantID)
      s.units units) : Sound { s with units := units } where
  parents := h.parents
  levels := h.levels
  units := by
    refine Puts.resolves_refs (hputs.imp_right ?_) h.units
    rintro ⟨id, d, hd, hrest⟩
    refine ⟨id, d, fun b hb => ?_, hrest⟩
    rw [← Option.some_inj.mp hb]
    exact hd
  acyclic := h.acyclic

lemma sound_deleteUnit (h : Sound s) (fault : Option Fault) (tenantID id : String) :
    Sound (Repository.deleteUnit fault tenantID id s).2 where
  parents := h.parents
  levels := h.levels
  units := by
    have hsub : ∀ d ∈ (Repository.deleteUnit fault tenantID id s).2.units.docs, d ∈ s.units.docs :=
      fun d hd => ((mem_delete_iff "elearning.repo.DeleteUnit").mp hd).1
    exact h.units.mono (fun _ _ _ => refs_mono hsub) fun _ _ _ _ htarget => htarget
  acyclic := h.acyclic

/-- The level is deleted: its units are, and then it is. -/
def Gone (fails : ℕ → Option Fault) (id : String) : Prop := fails 0 = none ∧ performed (fails 1) id

lemma mem_deleteLevel_iff {fails : ℕ → Option Fault} {tenantID id : String} {lvl : ElearningLevel} :
    lvl ∈ (Repository.deleteLevel fails tenantID id s).2.levels.docs ↔
      lvl ∈ s.levels.docs ∧ ¬(Gone fails id ∧ lvl.id = id ∧ lvl.tenantID = tenantID) := by
  unfold Repository.deleteLevel Gone
  cases hunits : fails 0 with
  | some fault => exact (and_iff_left fun h => absurd h.1.1 (Option.some_ne_none fault)).symm
  | none =>
    rw [and_iff_right rfl]
    exact mem_delete_iff "elearning.repo.DeleteLevel"

lemma mem_deleteLevel_units {fails : ℕ → Option Fault} {tenantID id : String} {unit : ElearningUnit}
    (hunit : unit ∈ (Repository.deleteLevel fails tenantID id s).2.units.docs) :
    unit ∈ s.units.docs ∧ ¬(fails 0 = none ∧ unit.levelID = id ∧ unit.tenantID = tenantID) := by
  have hkept : unit ∈ (deleteMany "elearning.repo.DeleteLevel units" (fails 0)
      (fun unit => unit.levelID = id && unit.tenantID = tenantID) s.units).2.docs := by
    unfold Repository.deleteLevel at hunit
    cases hfails : fails 0 with
    | none => rwa [hfails] at hunit
    | some fault => rwa [hfails] at hunit
  obtain ⟨hunit, hother⟩ := (mem_deleteMany_iff _).mp hkept
  refine ⟨hunit, fun ⟨hfails, hlevel, htenant⟩ => hother ?_⟩
  rw [hfails]
  exact ⟨Bool.and_eq_true_iff.mpr ⟨decide_eq_true hlevel, decide_eq_true htenant⟩, rfl⟩

lemma categories_deleteLevel (fails : ℕ → Option Fault) (tenantID id : String) (s : ElearningStore) :
    (Repository.deleteLevel fails tenantID id s).2.categories = s.categories := by
  unfold Repository.deleteLevel
  cases fails 0 <;> rfl

/-- A level is deleted after its units, so that none is left below it. -/
lemma sound_deleteLevel (h : Sound s) (fails : ℕ → Option Fault) (tenantID id : String) :
    Sound (Repository.deleteLevel fails tenantID id s).2 := by
  have hcategories := categories_deleteLevel fails tenantID id s
  refine ⟨?_, ?_, ?_, ?_⟩
  · unfold ElearningStore.parentRefs ElearningStore.categoryTenants
    rw [hcategories]
    exact h.parents
  · unfold ElearningStore.levelRefs ElearningStore.categoryTenants
    rw [hcategories]
    exact h.levels.mono (fun _ _ _ => refs_mono fun _ hd => (mem_deleteLevel_iff.mp hd).1)
      fun _ _ _ _ htarget => htarget
  · refine h.units.mono (fun _ _ _ => refs_mono fun _ hd => (mem_deleteLevel_units hd).1)
      fun unitID t levelID href htarget => ?_
    obtain ⟨lvl, hlvl, hid, htenant⟩ := tenants_eq_some_iff.mp htarget
    refine tenants_eq_some_iff.mpr ⟨lvl, mem_deleteLevel_iff.mpr ⟨hlvl, ?_⟩, hid, htenant⟩
    rintro ⟨hgone, rfl, rfl⟩
    obtain ⟨unit, hunit, -, hsame, hlevel⟩ := refs_eq_some_iff.mp href
    refine (mem_deleteLevel_units hunit).2 ⟨hgone.1, ?_, hsame.trans htenant.symm⟩
    rw [hid]
    exact Option.some_inj.mp hlevel
  · unfold ElearningStore.parentOf
    rw [hcategories]
    exact h.acyclic

end Levels

/-! ## Histories -/

inductive ElearningCall where
  | createCategory (req : CreateCategoryRequest)
  | updateCategory (tenantID id : String) (req : UpdateCategoryRequest)
  | deleteCategory (tenantID id : String)
  | createLevel (req : CreateLevelRequest)
  | updateLevel (tenantID id : String) (req : UpdateLevelRequest)
  | deleteLevel (tenantID id : String)
  | createUnit (req : CreateUnitRequest)
  | updateUnit (tenantID id : String) (req : UpdateUnitRequest)
  | deleteUnit (tenantID id : String)

section Histories

variable [Library] [Unicode]

def ElearningStore.step (s : ElearningStore) (call : ElearningEnv × ElearningCall) : ElearningStore :=
  match call.2 with
  | .createCategory req => (Service.createCategory call.1 req s).2
  | .updateCategory tenantID id req => (Service.updateCategory call.1 tenantID id req s).2
  | .deleteCategory tenantID id => (Service.deleteCategory call.1 tenantID id s).2
  | .createLevel req => (Service.createLevel call.1 req s).2
  | .updateLevel tenantID id req => (Service.updateLevel call.1 tenantID id req s).2
  | .deleteLevel tenantID id => (Service.deleteLevel call.1 tenantID id s).2
  | .createUnit req => (Service.createUnit call.1 req s).2
  | .updateUnit tenantID id req => (Service.updateUnit call.1 tenantID id req s).2
  | .deleteUnit tenantID id => (Service.deleteUnit call.1 tenantID id s).2

/-- The new category is written. -/
def Inserts (env : ElearningEnv) (s : ElearningStore) : Prop :=
  performed (env.fails 0) env.newID ∧ s.categories.lookup env.newID = none

/-- The category is given the parent that the request names. -/
structure Reparents (env : ElearningEnv) (tenantID id : String) (req : UpdateCategoryRequest) (s : ElearningStore) :
    Prop where
  asked : req.parentID ≠ ""
  valid : validReferenceID (normalizeReferenceID req.parentID)
  other : normalizeReferenceID req.parentID ≠ id
  category : s.categoryTenants id = some tenantID
  parent : s.categoryTenants (normalizeReferenceID req.parentID) = some tenantID
  answered : env.fails 0 = none ∧ env.fails 1 = none
  written : performed (env.fails 2) id

/-- The category is removed. -/
structure Removes (env : ElearningEnv) (tenantID id : String) (s : ElearningStore) : Prop where
  category : s.categoryTenants id = some tenantID
  answered : env.fails 0 = none ∧ env.fails 1 = none
  written : performed (env.fails 2) id

/-- A category is created under a parent that is there, moved under none of its descendants and
removed with no category below it and all its levels. -/
def Careful (s : ElearningStore) (call : ElearningEnv × ElearningCall) : Prop :=
  match call.2 with
  | .createCategory req =>
    Inserts call.1 s → req.parentID ≠ "" → s.categoryTenants req.parentID = some req.tenantID
  | .updateCategory tenantID id req =>
    Reparents call.1 tenantID id req s → ¬ReflTransGen (Links s.parentOf) (normalizeReferenceID req.parentID) id
  | .deleteCategory tenantID id =>
    Removes call.1 tenantID id s → (∀ cat ∈ s.categories.docs, cat.parentID ≠ some id) ∧
      ∀ lvl ∈ s.levels.docs, lvl.categoryID = id → Gone (call.1.levelFails lvl.id) lvl.id
  | _ => True

/-! ### Levels and units -/

section Steps

variable {s : ElearningStore} {env : ElearningEnv}

lemma sound_createLevel (h : Sound s) (req : CreateLevelRequest) : Sound (Service.createLevel env req s).2 := by
  unfold Service.createLevel
  obtain hsame | ⟨⟨cat, hfound⟩, hstore⟩ := createUnder_store "elearning.svc.CreateLevel" "category" req.categoryID
    (Repository.getCategoryByID (env.fails 0) req.tenantID req.categoryID s)
    (Repository.createLevel env (Service.newLevel req)) s
  · rw [hsame]
    exact h
  · rw [hstore]
    exact h.put_level (puts_insert _ _ (getCategoryByID_found hfound))

lemma sound_createUnit (h : Sound s) (req : CreateUnitRequest) : Sound (Service.createUnit env req s).2 := by
  unfold Service.createUnit
  obtain hsame | ⟨⟨lvl, hfound⟩, hstore⟩ := createUnder_store "elearning.svc.CreateUnit" "level" req.levelID
    (Repository.getLevelByID (env.fails 0) req.tenantID req.levelID s)
    (Repository.createUnit env (Service.newUnit req)) s
  · rw [hsame]
    exact h
  · rw [hstore]
    exact h.put_unit (puts_insert _ _ (getLevelByID_found hfound))

omit [Library] in
lemma sound_updateLevel (h : Sound s) (tenantID id : String) (req : UpdateLevelRequest) :
    Sound (Service.updateLevel env tenantID id req s).2 := by
  unfold Service.updateLevel
  obtain hsame | ⟨lvl, reference, hfound, hreference, hstore⟩ := updateFound_store "elearning.svc.UpdateLevel"
    (Repository.getLevelByID (env.fails 0) tenantID id s)
    (checkReference "elearning.svc.UpdateLevel" "category_id" "category" "category" (fun _ => none)
      (fun categoryID => Repository.getCategoryByID (env.fails 1) tenantID categoryID s) req.categoryID)
    (Service.changeLevel req) (Repository.updateLevel (env.fails 2) env.now) s
  · rw [hsame]
    exact h
  rw [hstore]
  obtain ⟨-, hlvl, rfl⟩ := findByID_eq_some_iff.mp hfound
  have hkey : lvl.id = id := Collection.key_of_lookup hlvl
  have hthere : s.categoryTenants (Service.changeLevel req reference lvl).categoryID = some lvl.tenantID := by
    obtain ⟨-, e, hrefused⟩ | ⟨-, hnone⟩ | ⟨-, -, -, ⟨cat, hcat⟩, hsome⟩ := checkReference_cases
      "elearning.svc.UpdateLevel" "category_id" "category" "category" (fun _ => none)
      (fun categoryID => Repository.getCategoryByID (env.fails 1) lvl.tenantID categoryID s) req.categoryID
    · rw [hreference] at hrefused
      cases hrefused
    · obtain rfl := Except.ok.inj (hreference.symm.trans hnone)
      refine h.levels id lvl.tenantID lvl.categoryID (refs_eq_some_iff.mpr ?_)
      exact ⟨lvl, (Collection.lookup_eq_some_iff.mp hlvl).1, hkey, rfl, rfl⟩
    · obtain rfl := Except.ok.inj (hreference.symm.trans hsome)
      exact getCategoryByID_found hcat
  have hold : s.levels.lookup lvl.id = some lvl := by rw [hkey, hlvl]
  exact h.put_level (puts_replace _ _ hold rfl hthere)

omit [Library] in
lemma sound_updateUnit (h : Sound s) (tenantID id : String) (req : UpdateUnitRequest) :
    Sound (Service.updateUnit env tenantID id req s).2 := by
  unfold Service.updateUnit
  obtain hsame | ⟨unit, reference, hfound, hreference, hstore⟩ := updateFound_store "elearning.svc.UpdateUnit"
    (Repository.getUnitByID (env.fails 0) tenantID id s)
    (checkReference "elearning.svc.UpdateUnit" "level_id" "level" "level" (fun _ => none)
      (fun levelID => Repository.getLevelByID (env.fails 1) tenantID levelID s) req.levelID)
    (Service.changeUnit req) (Repository.updateUnit (env.fails 2) env.now) s
  · rw [hsame]
    exact h
  rw [hstore]
  obtain ⟨-, hunit, rfl⟩ := findByID_eq_some_iff.mp hfound
  have hkey : unit.id = id := Collection.key_of_lookup hunit
  have hthere : s.levelTenants (Service.changeUnit req reference unit).levelID = some unit.tenantID := by
    obtain ⟨-, e, hrefused⟩ | ⟨-, hnone⟩ | ⟨-, -, -, ⟨lvl, hlvl⟩, hsome⟩ := checkReference_cases
      "elearning.svc.UpdateUnit" "level_id" "level" "level" (fun _ => none)
      (fun levelID => Repository.getLevelByID (env.fails 1) unit.tenantID levelID s) req.levelID
    · rw [hreference] at hrefused
      cases hrefused
    · obtain rfl := Except.ok.inj (hreference.symm.trans hnone)
      refine h.units id unit.tenantID unit.levelID (refs_eq_some_iff.mpr ?_)
      exact ⟨unit, (Collection.lookup_eq_some_iff.mp hunit).1, hkey, rfl, rfl⟩
    · obtain rfl := Except.ok.inj (hreference.symm.trans hsome)
      exact getLevelByID_found hlvl
  have hold : s.units.lookup unit.id = some unit := by rw [hkey, hunit]
  exact h.put_unit (puts_replace _ _ hold rfl hthere)

end Steps

/-! ### Categories -/

section Categories

variable {s : ElearningStore} {env : ElearningEnv}

omit [Library] [Unicode]

lemma parents_put {c' : Collection ElearningCategory.id} {id : String} {cat : ElearningCategory}
    (hupdate : c'.lookup = Function.update s.categories.lookup id (some cat)) :
    ElearningStore.parentOf { s with categories := c' } = Function.update s.parentOf id cat.parentID := by
  funext k
  unfold ElearningStore.parentOf
  dsimp only
  rw [hupdate]
  by_cases hk : k = id
  · rw [hk, Function.update_self, Function.update_self, Option.bind_some]
  · rw [Function.update_of_ne hk, Function.update_of_ne hk]

/-- A category is written whose parent is there and does not lead back. -/
lemma Sound.put_category (h : Sound s) {c' : Collection ElearningCategory.id}
    (hputs : Puts ElearningCategory.tenantID
      (fun cat => ∀ p, cat.parentID = some p → s.categoryTenants p = some cat.tenantID) s.categories c')
    (hacyclic : Acyclic (ElearningStore.parentOf { s with categories := c' })) :
    Sound { s with categories := c' } where
  parents := hputs.resolves_tenants (hputs.resolves_refs h.parents)
  levels := hputs.resolves_tenants h.levels
  units := h.units
  acyclic := hacyclic

lemma Sound.categories_congr (h : Sound s) {c' : Collection ElearningCategory.id}
    (hsame : c'.lookup = s.categories.lookup) : Sound { s with categories := c' } := by
  refine h.put_category (.inl hsame) ?_
  unfold ElearningStore.parentOf
  rw [hsame]
  exact h.acyclic

/-- Nothing points to a category that is not there. -/
lemma Sound.no_child (h : Sound s) {id : String} (hfree : s.categories.lookup id = none) (child : String) :
    s.parentOf child ≠ some id := by
  intro hchild
  obtain ⟨cat, hcat, hparent⟩ := Option.bind_eq_some_iff.mp hchild
  have hthere := h.parents child cat.tenantID id (refs_eq_some_iff.mpr
    ⟨cat, (Collection.lookup_eq_some_iff.mp hcat).1, Collection.key_of_lookup hcat, rfl, hparent⟩)
  unfold ElearningStore.categoryTenants tenants at hthere
  rw [hfree] at hthere
  cases hthere

end Categories

omit [Unicode] [Library] in
lemma nilStr_eq_some_iff {v p : String} : nilStr v = some p ↔ v ≠ "" ∧ v = p := by
  unfold nilStr
  by_cases hempty : v = ""
  · rw [if_pos hempty]
    exact iff_of_false (Option.some_ne_none p).symm fun h => h.1 hempty
  · rw [if_neg hempty, Option.some_inj]
    exact (and_iff_right hempty).symm

lemma createCategory_store (env : ElearningEnv) (req : CreateCategoryRequest) (s : ElearningStore) :
    ∃ c' cat, (Service.createCategory env req s).2 = { s with categories := c' } ∧
      cat.tenantID = req.tenantID ∧ cat.parentID = nilStr req.parentID ∧
      (Inserts env s → c'.lookup = Function.update s.categories.lookup env.newID (some cat)) ∧
      (¬Inserts env s → c'.lookup = s.categories.lookup) := by
  refine ⟨_, _, rfl, ?_, ?_, fun hinserts => (lookup_insert _ _ _ _).trans (if_pos hinserts),
    fun hinserts => (lookup_insert _ _ _ _).trans (if_neg hinserts)⟩ <;> rfl

lemma sound_createCategory_iff {s : ElearningStore} (h : Sound s) (env : ElearningEnv) (req : CreateCategoryRequest) :
    Sound (Service.createCategory env req s).2 ↔ Careful s (env, .createCategory req) := by
  obtain ⟨c', cat, hstore, htenant, hparent, hwritten, hkept⟩ := createCategory_store env req s
  rw [hstore]
  by_cases hinserts : Inserts env s
  swap
  · exact iff_of_true (h.categories_congr (hkept hinserts)) fun hwritten => absurd hwritten hinserts
  have hlookup := hwritten hinserts
  have hputs : ∀ P : ElearningCategory → Prop, P cat → Puts ElearningCategory.tenantID P s.categories c' := by
    intro P hP
    refine .inr ⟨env.newID, cat, hP, fun old hold => ?_, hlookup⟩
    rw [hinserts.2] at hold
    cases hold
  constructor
  · intro hsound _ hasked
    have hnew : c'.lookup env.newID = some cat := by rw [hlookup, Function.update_self]
    have hparent' : cat.parentID = some req.parentID := hparent.trans (nilStr_eq_some_iff.mpr ⟨hasked, rfl⟩)
    have hother : env.newID ≠ req.parentID := by
      refine hsound.acyclic.ne ?_
      rw [parents_put hlookup, Function.update_self, hparent']
    have hthere := hsound.parents env.newID cat.tenantID req.parentID (refs_eq_some_iff.mpr
      ⟨cat, (Collection.lookup_eq_some_iff.mp hnew).1, Collection.key_of_lookup hnew, rfl, hparent'⟩)
    unfold ElearningStore.categoryTenants at hthere
    rw [tenants_update hlookup, Function.update_of_ne hother.symm, htenant] at hthere
    exact hthere
  · intro hcareful
    have hthere : ∀ p, cat.parentID = some p → s.categoryTenants p = some cat.tenantID := by
      intro p hp
      obtain ⟨hasked, rfl⟩ := nilStr_eq_some_iff.mp (hparent.symm.trans hp)
      rw [htenant]
      exact hcareful hinserts hasked
    refine h.put_category (hputs _ hthere) ?_
    rw [parents_put hlookup]
    cases hp : cat.parentID with
    | none => exact h.acyclic.erase env.newID
    | some p =>
      refine acyclic_update_fresh h.acyclic (h.no_child hinserts.2) ?_
      rintro rfl
      have hfound := hthere env.newID hp
      unfold ElearningStore.categoryTenants tenants at hfound
      rw [hinserts.2] at hfound
      cases hfound


section UpdateCategory

variable {s : ElearningStore} {tenantID id : String} {cat : ElearningCategory}

omit [Library] [Unicode] in
lemma updateCategory_store (env : ElearningEnv) (req : UpdateCategoryRequest)
    (hcat : s.categories.lookup id = some cat) (parentID : Option String) :
    ∃ c' cat', (Repository.updateCategory (env.fails 2) env.now (Service.changeCategory req parentID cat) s).2 =
        { s with categories := c' } ∧
      cat'.tenantID = cat.tenantID ∧ cat'.parentID = (parentID <|> cat.parentID) ∧
      (performed (env.fails 2) id → c'.lookup = Function.update s.categories.lookup id (some cat')) ∧
      (¬performed (env.fails 2) id → c'.lookup = s.categories.lookup) := by
  obtain rfl : cat.id = id := Collection.key_of_lookup hcat
  have hlookup := @lookup_replace _ _ ElearningCategory.tenantID s.categories "elearning.repo.UpdateCategory"
    (env.fails 2) (ElearningCategory.stored { Service.changeCategory req parentID cat with updatedAt := env.now })
    cat hcat rfl
  refine ⟨_, _, rfl, ?_, ?_, fun hwritten => hlookup.trans (if_pos hwritten),
    fun hwritten => hlookup.trans (if_neg hwritten)⟩ <;> rfl

omit [Library] [Unicode] in
lemma Sound.parent_found (h : Sound s) (hcat : s.categories.lookup id = some cat) {p : String}
    (hp : cat.parentID = some p) : s.categoryTenants p = some cat.tenantID := by
  refine h.parents id cat.tenantID p (refs_eq_some_iff.mpr ⟨cat, ?_, Collection.key_of_lookup hcat, rfl, hp⟩)
  exact (Collection.lookup_eq_some_iff.mp hcat).1

omit [Library] [Unicode] in
/-- An update without a new parent. -/
lemma sound_unmoved (h : Sound s) (hcat : s.categories.lookup id = some cat) (env : ElearningEnv)
    (req : UpdateCategoryRequest) :
    Sound (Repository.updateCategory (env.fails 2) env.now (Service.changeCategory req none cat) s).2 := by
  obtain ⟨c', cat', hstore, htenant, hparent, hput, hkept⟩ := updateCategory_store env req hcat none
  rw [hstore]
  by_cases hwritten : performed (env.fails 2) id
  swap
  · exact h.categories_congr (hkept hwritten)
  refine h.put_category (.inr ⟨id, cat', fun p hp => ?_, fun old hold => ?_, hput hwritten⟩) ?_
  · rw [htenant]
    exact h.parent_found hcat (hparent.symm.trans hp)
  · obtain rfl := Option.some_inj.mp (hcat.symm.trans hold)
    exact htenant.symm
  · have hsame : cat'.parentID = s.parentOf id := by
      unfold ElearningStore.parentOf
      rw [hcat]
      exact hparent
    rw [parents_put (hput hwritten), hsame, Function.update_eq_self]
    exact h.acyclic

omit [Library] [Unicode] in
/-- An update with a new parent, which was found. -/
lemma sound_moved_iff (h : Sound s) (hcat : s.categories.lookup id = some cat) {env : ElearningEnv}
    (req : UpdateCategoryRequest) {p : String} (hp : s.categoryTenants p = some cat.tenantID)
    (hwritten : performed (env.fails 2) id) :
    Sound (Repository.updateCategory (env.fails 2) env.now (Service.changeCategory req (some p) cat) s).2 ↔
      ¬ReflTransGen (Links s.parentOf) p id := by
  obtain ⟨c', cat', hstore, htenant, hparent, hput, -⟩ := updateCategory_store env req hcat (some p)
  have hparent' : cat'.parentID = some p := hparent
  have hparents := parents_put (hput hwritten)
  rw [hparent'] at hparents
  rw [hstore, ← acyclic_update_iff h.acyclic, ← hparents]
  constructor
  · intro hsound
    exact hsound.acyclic
  · intro hacyclic
    refine h.put_category (.inr ⟨id, cat', fun p' hp' => ?_, fun old hold => ?_, hput hwritten⟩) hacyclic
    · obtain rfl := Option.some_inj.mp (hparent'.symm.trans hp')
      rw [htenant]
      exact hp
    · obtain rfl := Option.some_inj.mp (hcat.symm.trans hold)
      exact htenant.symm

omit [Library] [Unicode] in
lemma getCategoryByID_eq (htenant : s.categoryTenants id = some tenantID) :
    ∃ cat, cat.tenantID = tenantID ∧ s.categories.lookup id = some cat ∧
      Repository.getCategoryByID none tenantID id s = .ok (some cat) := by
  obtain ⟨cat, hcat, htenant⟩ := Option.map_eq_some_iff.mp htenant
  exact ⟨cat, htenant, hcat, findByID_eq_some_iff.mpr ⟨rfl, hcat, htenant⟩⟩

end UpdateCategory

omit [Library] in
lemma sound_updateCategory_iff {s : ElearningStore} (h : Sound s) (env : ElearningEnv) (tenantID id : String)
    (req : UpdateCategoryRequest) :
    Sound (Service.updateCategory env tenantID id req s).2 ↔ Careful s (env, .updateCategory tenantID id req) := by
  by_cases hmoved : Reparents env tenantID id req s
  · obtain ⟨cat, rfl, hcat, hfound⟩ := getCategoryByID_eq hmoved.category
    obtain ⟨parent, -, -, hparent⟩ := getCategoryByID_eq hmoved.parent
    rw [← hmoved.answered.1] at hfound
    rw [← hmoved.answered.2] at hparent
    have hreference := checkReference_ok "elearning.svc.UpdateCategory" "parent_id" "parent" "parent category"
      (Service.refuseSelf id) (fun parentID => Repository.getCategoryByID (env.fails 1) cat.tenantID parentID s)
      hmoved.asked hmoved.valid (if_neg hmoved.other) hparent
    have hstore : (Service.updateCategory env cat.tenantID id req s).2 =
        (Repository.updateCategory (env.fails 2) env.now
          (Service.changeCategory req (some (normalizeReferenceID req.parentID)) cat) s).2 := by
      unfold Service.updateCategory
      rw [hfound, hreference]
      rfl
    rw [hstore, sound_moved_iff h hcat req hmoved.parent hmoved.written]
    exact ⟨fun hpath _ => hpath, fun hcareful => hcareful hmoved⟩
  refine iff_of_true ?_ fun hmoves => absurd hmoves hmoved
  unfold Service.updateCategory
  obtain hsame | ⟨cat, reference, hfound, hreference, hstore⟩ := updateFound_store "elearning.svc.UpdateCategory"
    (Repository.getCategoryByID (env.fails 0) tenantID id s)
    (checkReference "elearning.svc.UpdateCategory" "parent_id" "parent" "parent category" (Service.refuseSelf id)
      (fun parentID => Repository.getCategoryByID (env.fails 1) tenantID parentID s) req.parentID)
    (Service.changeCategory req) (Repository.updateCategory (env.fails 2) env.now) s
  · rw [hsame]
    exact h
  rw [hstore]
  obtain ⟨hfails, hcat, htenant⟩ := findByID_eq_some_iff.mp hfound
  obtain ⟨-, e, hrefused⟩ | ⟨-, hnone⟩ | ⟨hasked, hvalid, hself, ⟨parent, hparent⟩, hsome⟩ := checkReference_cases
    "elearning.svc.UpdateCategory" "parent_id" "parent" "parent category" (Service.refuseSelf id)
    (fun parentID => Repository.getCategoryByID (env.fails 1) tenantID parentID s) req.parentID
  · rw [hreference] at hrefused
    cases hrefused
  · obtain rfl := Except.ok.inj (hreference.symm.trans hnone)
    exact sound_unmoved h hcat env req
  · -- everything was found and checked, so that the write was not carried out
    have hother : normalizeReferenceID req.parentID ≠ id := by
      intro hsame
      unfold Service.refuseSelf at hself
      rw [if_pos hsame] at hself
      cases hself
    have hunwritten : ¬performed (env.fails 2) id := by
      intro hwritten
      exact hmoved ⟨hasked, hvalid, hother, getCategoryByID_found hfound, getCategoryByID_found hparent,
        ⟨hfails, (findByID_eq_some_iff.mp hparent).1⟩, hwritten⟩
    obtain ⟨c', cat', hput, -, -, -, hkept⟩ := updateCategory_store env req hcat reference
    rw [hput]
    exact h.categories_congr (hkept hunwritten)


section DeleteCategory

omit [Library] [Unicode]

variable {s : ElearningStore} {tenantID id : String} {env : ElearningEnv}

lemma sound_deleteLevels (h : Sound s) (env : ElearningEnv) (tenantID : String) (levels : List ElearningLevel) :
    Sound (Service.deleteLevels env tenantID levels s) := by
  unfold Service.deleteLevels
  induction levels generalizing s with
  | nil => exact h
  | cons lvl levels ih => exact ih (sound_deleteLevel h _ _ _)

lemma categories_deleteLevels (env : ElearningEnv) (tenantID : String) (levels : List ElearningLevel)
    (s : ElearningStore) :
    (Service.deleteLevels env tenantID levels s).categories = s.categories := by
  unfold Service.deleteLevels
  induction levels generalizing s with
  | nil => rfl
  | cons lvl levels ih => exact (ih _).trans (categories_deleteLevel _ _ _ _)

lemma mem_deleteLevels_iff {levels : List ElearningLevel} {lvl : ElearningLevel} :
    lvl ∈ (Service.deleteLevels env tenantID levels s).levels.docs ↔ lvl ∈ s.levels.docs ∧
      ¬(Gone (env.levelFails lvl.id) lvl.id ∧ (∃ l ∈ levels, l.id = lvl.id) ∧ lvl.tenantID = tenantID) := by
  unfold Service.deleteLevels
  induction levels generalizing s with
  | nil => exact (and_iff_left fun h => by obtain ⟨-, ⟨l, hl, -⟩, -⟩ := h; cases hl).symm
  | cons head levels ih =>
    rw [List.foldl_cons, ih, mem_deleteLevel_iff, and_assoc]
    refine and_congr_right fun _ => ?_
    rw [← not_or, not_iff_not]
    constructor
    · rintro (⟨hgone, hhead, htenant⟩ | ⟨hgone, ⟨l, hl, hid⟩, htenant⟩)
      · exact ⟨hhead ▸ hgone, ⟨head, List.mem_cons_self, hhead.symm⟩, htenant⟩
      · exact ⟨hgone, ⟨l, List.mem_cons_of_mem _ hl, hid⟩, htenant⟩
    · rintro ⟨hgone, ⟨l, hl, hid⟩, htenant⟩
      obtain rfl | hl := List.mem_cons.mp hl
      · exact .inl ⟨hid ▸ hgone, hid.symm, htenant⟩
      · exact .inr ⟨hgone, ⟨l, hl, hid⟩, htenant⟩

lemma mem_deleteCategory_iff {fault : Option Fault} (hthere : s.categoryTenants id = some tenantID)
    (hwritten : performed fault id) {cat : ElearningCategory} :
    cat ∈ (Repository.deleteCategory fault tenantID id s).2.categories.docs ↔
      cat ∈ s.categories.docs ∧ cat.id ≠ id := by
  have hmem : cat ∈ (Repository.deleteCategory fault tenantID id s).2.categories.docs ↔
      cat ∈ s.categories.docs ∧ ¬(performed fault id ∧ cat.id = id ∧ cat.tenantID = tenantID) :=
    mem_delete_iff "elearning.repo.DeleteCategory"
  rw [hmem]
  refine and_congr_right fun hcat => not_congr ⟨fun h => h.2.1, fun hid => ⟨hwritten, hid, ?_⟩⟩
  obtain ⟨found, hfound, htenant⟩ := Option.map_eq_some_iff.mp hthere
  have hsame : s.categories.lookup id = some cat := Collection.lookup_eq_some_iff.mpr ⟨hcat, hid⟩
  rw [Option.some_inj.mp (hsame.symm.trans hfound)]
  exact htenant

/-- A category can be taken out exactly if nothing is left below it. -/
lemma sound_delete_iff (h : Sound s) {fault : Option Fault} (hthere : s.categoryTenants id = some tenantID)
    (hwritten : performed fault id) :
    Sound (Repository.deleteCategory fault tenantID id s).2 ↔
      (∀ cat ∈ s.categories.docs, cat.parentID ≠ some id) ∧ ∀ lvl ∈ s.levels.docs, lvl.categoryID ≠ id := by
  have hmem := fun cat => @mem_deleteCategory_iff s tenantID id fault hthere hwritten cat
  have hgone : ∀ t, (Repository.deleteCategory fault tenantID id s).2.categoryTenants id ≠ some t := by
    intro t ht
    obtain ⟨cat, hcat, hid, -⟩ := tenants_eq_some_iff.mp ht
    exact ((hmem cat).mp hcat).2 hid
  constructor
  · intro hsound
    refine ⟨fun cat hcat hparent => ?_, fun lvl hlvl hcategory => ?_⟩
    · have hother : cat.id ≠ id := by
        refine h.acyclic.ne ?_
        unfold ElearningStore.parentOf
        rw [Collection.lookup_eq_some_iff.mpr ⟨hcat, rfl⟩, Option.bind_some, hparent]
      exact hgone cat.tenantID (hsound.parents cat.id cat.tenantID id
        (refs_eq_some_iff.mpr ⟨cat, (hmem cat).mpr ⟨hcat, hother⟩, rfl, rfl, hparent⟩))
    · exact hgone lvl.tenantID (hsound.levels lvl.id lvl.tenantID id
        (refs_eq_some_iff.mpr ⟨lvl, hlvl, rfl, rfl, congrArg some hcategory⟩))
  · rintro ⟨hchildren, hlevels⟩
    have hsub : ∀ cat ∈ (Repository.deleteCategory fault tenantID id s).2.categories.docs, cat ∈ s.categories.docs :=
      fun cat hcat => ((hmem cat).mp hcat).1
    have hkept : ∀ t categoryID, categoryID ≠ id → s.categoryTenants categoryID = some t →
        (Repository.deleteCategory fault tenantID id s).2.categoryTenants categoryID = some t := by
      intro t categoryID hother ht
      obtain ⟨cat, hcat, hid, htenant⟩ := tenants_eq_some_iff.mp ht
      exact tenants_eq_some_iff.mpr ⟨cat, (hmem cat).mpr ⟨hcat, hid.symm ▸ hother⟩, hid, htenant⟩
    refine ⟨?_, ?_, h.units, ?_⟩
    · refine h.parents.mono (fun _ _ _ => refs_mono hsub) fun catID t p href htarget => hkept t p ?_ htarget
      obtain ⟨cat, hcat, -, -, hparent⟩ := refs_eq_some_iff.mp href
      rintro rfl
      exact hchildren cat (hsub cat hcat) hparent
    · refine h.levels.mono (fun _ _ _ hlevel => hlevel) fun levelID t p href htarget => hkept t p ?_ htarget
      obtain ⟨lvl, hlvl, -, -, hcategory⟩ := refs_eq_some_iff.mp href
      rintro rfl
      exact hlevels lvl hlvl (Option.some_inj.mp hcategory)
    · refine h.acyclic.mono fun catID p hp => ?_
      obtain ⟨cat, hcat, hparent⟩ := Option.bind_eq_some_iff.mp hp
      obtain ⟨hcat, hid⟩ := Collection.lookup_eq_some_iff.mp hcat
      unfold ElearningStore.parentOf
      rw [Collection.lookup_eq_some_iff.mpr ⟨hsub cat hcat, hid⟩, Option.bind_some, hparent]

lemma mem_listLevelsByCategory {fault : Option Fault} {levels : List ElearningLevel}
    (hlevels : Repository.listLevelsByCategory fault tenantID id s = .ok levels) {lvl : ElearningLevel} :
    lvl ∈ levels ↔ lvl ∈ s.levels.docs ∧ lvl.tenantID = tenantID ∧ lvl.categoryID = id := by
  unfold Repository.listLevelsByCategory answer at hlevels
  cases fault with
  | some f => cases hlevels
  | none =>
    obtain rfl := Except.ok.inj hlevels
    rw [(sortSliceStable_perm _ _).mem_iff, List.mem_filter, Bool.and_eq_true, decide_eq_true_iff, decide_eq_true_iff]

/-- The levels of the category that are left are those that could not be deleted. -/
lemma levels_left_iff (h : Sound s) (hthere : s.categoryTenants id = some tenantID) {fault : Option Fault}
    {levels : List ElearningLevel} (hlevels : Repository.listLevelsByCategory fault tenantID id s = .ok levels) :
    (∀ lvl ∈ (Service.deleteLevels env tenantID levels s).levels.docs, lvl.categoryID ≠ id) ↔
      ∀ lvl ∈ s.levels.docs, lvl.categoryID = id → Gone (env.levelFails lvl.id) lvl.id := by
  constructor
  · intro hleft lvl hlvl hcategory
    by_contra hgone
    exact hleft lvl (mem_deleteLevels_iff.mpr ⟨hlvl, fun hdeleted => hgone hdeleted.1⟩) hcategory
  · intro hgone lvl hlvl hcategory
    obtain ⟨hlvl, hkept⟩ := mem_deleteLevels_iff.mp hlvl
    have htenant : lvl.tenantID = tenantID := by
      have hfound := h.levels lvl.id lvl.tenantID id
        (refs_eq_some_iff.mpr ⟨lvl, hlvl, rfl, rfl, congrArg some hcategory⟩)
      exact Option.some_inj.mp (hfound.symm.trans hthere)
    refine hkept ⟨hgone lvl hlvl hcategory, ⟨lvl, ?_, rfl⟩, htenant⟩
    exact (mem_listLevelsByCategory hlevels).mpr ⟨hlvl, htenant, hcategory⟩

end DeleteCategory

omit [Library] [Unicode] in
/-- Either the category and its levels are read, or nothing is written. -/
lemma deleteCategory_cases (env : ElearningEnv) (tenantID id : String) (s : ElearningStore) :
    (¬(s.categoryTenants id = some tenantID ∧ env.fails 0 = none ∧ env.fails 1 = none) ∧
        (Service.deleteCategory env tenantID id s).2 = s) ∨
      (s.categoryTenants id = some tenantID ∧ env.fails 0 = none ∧ env.fails 1 = none) ∧
        ∃ levels, Repository.listLevelsByCategory (env.fails 1) tenantID id s = .ok levels ∧
          (Service.deleteCategory env tenantID id s).2 =
            (Repository.deleteCategory (env.fails 2) tenantID id (Service.deleteLevels env tenantID levels s)).2 := by
  unfold Service.deleteCategory
  by_cases hread : s.categoryTenants id = some tenantID ∧ env.fails 0 = none ∧ env.fails 1 = none
  · obtain ⟨hthere, hfails, hlist⟩ := hread
    obtain ⟨cat, -, -, hfound⟩ := getCategoryByID_eq hthere
    rw [hfails, hlist, hfound]
    exact .inr ⟨⟨hthere, rfl, rfl⟩, _, rfl, rfl⟩
  refine .inl ⟨hread, ?_⟩
  cases hfound : Repository.getCategoryByID (env.fails 0) tenantID id s with
  | error e => rfl
  | ok found =>
    cases found with
    | none => rfl
    | some cat =>
      cases hlist : env.fails 1 with
      | none => exact absurd ⟨getCategoryByID_found hfound, (findByID_eq_some_iff.mp hfound).1, hlist⟩ hread
      | some fault => rfl

omit [Library] in
lemma sound_deleteCategory_iff {s : ElearningStore} (h : Sound s) (env : ElearningEnv) (tenantID id : String) :
    Sound (Service.deleteCategory env tenantID id s).2 ↔ Careful s (env, .deleteCategory tenantID id) := by
  obtain ⟨hunread, hstore⟩ | ⟨⟨hthere, hanswered⟩, levels, hlevels, hstore⟩ := deleteCategory_cases env tenantID id s
  · rw [hstore]
    exact iff_of_true h fun hremoves => absurd ⟨hremoves.category, hremoves.answered⟩ hunread
  rw [hstore]
  have hrest := sound_deleteLevels h env tenantID levels
  have hcategories := categories_deleteLevels env tenantID levels s
  by_cases hwritten : performed (env.fails 2) id
  · have hthere' : (Service.deleteLevels env tenantID levels s).categoryTenants id = some tenantID := by
      unfold ElearningStore.categoryTenants
      rw [hcategories]
      exact hthere
    rw [sound_delete_iff hrest hthere' hwritten, hcategories, levels_left_iff h hthere hlevels]
    exact ⟨fun hleft _ => hleft, fun hcareful => hcareful ⟨hthere, hanswered, hwritten⟩⟩
  · refine iff_of_true (hrest.categories_congr ?_) fun hremoves => absurd hremoves.written hwritten
    unfold delete
    dsimp only
    rw [if_neg hwritten]

/-! ## The theorem -/

/-- On a sound tree a call leaves a sound tree exactly if it is careful. -/
lemma sound_step_iff {s : ElearningStore} (h : Sound s) (call : ElearningEnv × ElearningCall) :
    Sound (s.step call) ↔ Careful s call := by
  obtain ⟨env, call⟩ := call
  cases call with
  | createCategory req => exact sound_createCategory_iff h env req
  | updateCategory tenantID id req => exact sound_updateCategory_iff h env tenantID id req
  | deleteCategory tenantID id => exact sound_deleteCategory_iff h env tenantID id
  | createLevel req => exact iff_of_true (sound_createLevel h req) trivial
  | updateLevel tenantID id req => exact iff_of_true (sound_updateLevel h tenantID id req) trivial
  | deleteLevel tenantID id => exact iff_of_true (sound_deleteLevel h env.fails tenantID id) trivial
  | createUnit req => exact iff_of_true (sound_createUnit h req) trivial
  | updateUnit tenantID id req => exact iff_of_true (sound_updateUnit h tenantID id req) trivial
  | deleteUnit tenantID id => exact iff_of_true (sound_deleteUnit h (env.fails 0) tenantID id) trivial

def ElearningStore.empty : ElearningStore := ⟨Collection.empty, Collection.empty, Collection.empty⟩

omit [Library] [Unicode] in
lemma sound_empty : Sound .empty where
  parents _ _ _ h := by cases h
  levels _ _ _ h := by cases h
  units _ _ _ h := by cases h
  acyclic a hcycle := by
    obtain ⟨b, hlink, -⟩ := TransGen.head'_iff.mp hcycle
    cases hlink

/-- In every run from the empty store the tree is sound in every state reached exactly if every
call is careful. -/
theorem sound_throughout_iff (calls : List (ElearningEnv × ElearningCall)) :
    Throughout ElearningStore.step (fun s call => Sound (s.step call)) .empty calls ↔
      Throughout ElearningStore.step Careful .empty calls := by
  refine Throughout.congr (I := Sound) ?_ ?_ sound_empty calls
  · intro s call _ hsound
    exact hsound
  · intro s call h
    exact sound_step_iff h call

end Histories

section Examples

attribute [local instance] asciiLibrary asciiUnicode

namespace Sample

/-- A call that meets no failure and gives out one id. -/
def quiet (newID : String) : ElearningEnv := ⟨newID, 0, fun _ => none, fun _ _ => none⟩

end Sample

/-- A category is created below another and then made its parent. -/
theorem parents_of_each_other : ¬Throughout ElearningStore.step (fun s call => Sound (s.step call)) .empty
    [(Sample.quiet "a", .createCategory ⟨"t", "A", "a", "", "", 0, none⟩),
      (Sample.quiet "b", .createCategory ⟨"t", "B", "b", "", "a", 0, none⟩),
      (Sample.quiet "", .updateCategory "t" "a" ⟨"", "", "", "b", 0, none⟩)] := by
  rintro ⟨-, -, hsound, -⟩
  refine hsound.acyclic "a" (.tail (.single (b := "b") ?_) ?_)
  · unfold Links
    decide
  · unfold Links
    decide

end Examples

end ErgGo.Elearning
