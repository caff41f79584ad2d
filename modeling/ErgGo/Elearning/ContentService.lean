import ErgGo.Elearning.Repository
import ErgGo.Lib.Runes

/-!
# The content service

Categories, levels and units are created, changed and deleted. A level is created in a category
that was found, a unit in a level that was found, and a changed reference is looked up first; the
parent of a new category is not.
-/

namespace ErgGo.Elearning
open Go Documents

variable [Library] [Unicode]

structure CreateCategoryRequest where
  tenantID : String
  name : String
  slug : String
  description : String
  parentID : String
  order : ℤ
  isActive : Option Bool

structure UpdateCategoryRequest where
  name : String
  slug : String
  description : String
  parentID : String
  order : ℤ
  isActive : Option Bool

structure CreateLevelRequest where
  tenantID : String
  categoryID : String
  name : String
  slug : String
  description : String
  order : ℤ

structure UpdateLevelRequest where
  categoryID : String
  name : String
  slug : String
  description : String
  order : ℤ

structure CreateUnitRequest where
  tenantID : String
  levelID : String
  name : String
  slug : String
  description : String
  content : String
  order : ℤ

structure UpdateUnitRequest where
  levelID : String
  name : String
  slug : String
  description : String
  content : String
  order : ℤ

def nilStr (s : String) : Option String := if s = "" then none else some s

/-- A run of other runes becomes one dash. -/
def dashed : List Char → Bool → List Char
  | [], _ => []
  | r :: rs, lastDash =>
    if Unicode.isLetter r || Unicode.isDigit r then r :: dashed rs false
    else if lastDash then dashed rs true
    else '-' :: dashed rs true

def slugify (input : String) : String := String.ofList (trim (dashed (toLower (trimSpace input)).toList false) ['-'])

def orSlug (slug name : String) : String := if slug = "" then slugify name else slug

def normalizeReferenceID (value : String) : String := trimSpace value

/-- At most 128 bytes, all runes letters, digits or of `-_.:`. -/
def validReferenceID (value : String) : Bool :=
  let value := normalizeReferenceID value
  value ≠ "" && value.utf8ByteSize ≤ 128 &&
    value.toList.all fun r => Unicode.isLetter r || Unicode.isDigit r || r ∈ ['-', '_', '.', ':']

def orOld (new old : String) : String := if new = "" then old else new

def orOldOrder (new old : ℤ) : ℤ := if new = 0 then old else new

/-- The reference that an update asks for, if it asks for one. -/
def checkReference {Doc : Type} (op field lookup missing : String) (refused : String → Option String)
    (find : String → Except String (Option Doc)) (requested : String) : Except String (Option String) :=
  if requested = "" then .ok none
  else
    let id := normalizeReferenceID requested
    if !validReferenceID id then .error (op ++ ": " ++ field ++ " invalid")
    else
      match refused id with
      | some reason => .error (op ++ ": " ++ reason)
      | none =>
        match find id with
        | .error e => .error (op ++ " " ++ lookup ++ " check: " ++ e)
        | .ok none => .error (op ++ ": " ++ missing ++ " " ++ id ++ " not found")
        | .ok (some _) => .ok (some id)

/-- A document is created under another, which has to be found. -/
def createUnder {Doc New : Type} (op what id : String) (found : Except String (Option Doc))
    (create : ElearningStore → Except String New × ElearningStore) (s : ElearningStore) :
    Except String New × ElearningStore :=
  match found with
  | .error e => (.error (op ++ " " ++ what ++ " check: " ++ e), s)
  | .ok none => (.error (op ++ ": " ++ what ++ " " ++ id ++ " not found"), s)
  | .ok (some _) => ((create s).1.mapError (op ++ ": " ++ ·), (create s).2)

/-- A document that was found is changed, unless the reference asked for fails its check. -/
def updateFound {Doc : Type} (op : String) (found : Except String (Option Doc))
    (reference : Except String (Option String)) (change : Option String → Doc → Doc)
    (update : Doc → ElearningStore → Except String Doc × ElearningStore) (s : ElearningStore) :
    Except String (Option Doc) × ElearningStore :=
  match found with
  | .error e => (.error (op ++ " get: " ++ e), s)
  | .ok none => (.ok none, s)
  | .ok (some d) =>
    match reference with
    | .error e => (.error e, s)
    | .ok id =>
      let r := update (change id d) s
      ((r.1.map some).mapError (op ++ ": " ++ ·), r.2)

namespace Service

def newCategory (req : CreateCategoryRequest) : ElearningCategory where
  id := ""
  tenantID := req.tenantID
  name := req.name
  slug := orSlug req.slug req.name
  description := req.description
  parentID := nilStr req.parentID
  order := req.order
  isActive := req.isActive.getD true

def createCategory (env : ElearningEnv) (req : CreateCategoryRequest) (s : ElearningStore) :
    Except String ElearningCategory × ElearningStore :=
  let r := Repository.createCategory env (newCategory req) s
  (r.1.mapError ("elearning.svc.CreateCategory: " ++ ·), r.2)

def changeCategory (req : UpdateCategoryRequest) (parentID : Option String) (cat : ElearningCategory) :
    ElearningCategory :=
  { cat with
    name := orOld req.name cat.name, slug := orOld req.slug cat.slug
    description := orOld req.description cat.description, parentID := parentID <|> cat.parentID
    order := orOldOrder req.order cat.order, isActive := req.isActive.getD cat.isActive }

def refuseSelf (id parentID : String) : Option String :=
  if parentID = id then some "parent_id cannot reference the same category" else none

def updateCategory (env : ElearningEnv) (tenantID id : String) (req : UpdateCategoryRequest) (s : ElearningStore) :
    Except String (Option ElearningCategory) × ElearningStore :=
  updateFound "elearning.svc.UpdateCategory" (Repository.getCategoryByID (env.fails 0) tenantID id s)
    (checkReference "elearning.svc.UpdateCategory" "parent_id" "parent" "parent category" (refuseSelf id)
      (fun parentID => Repository.getCategoryByID (env.fails 1) tenantID parentID s) req.parentID)
    (changeCategory req) (Repository.updateCategory (env.fails 2) env.now) s

/-- A level that could not be deleted is logged. -/
def deleteLevels (env : ElearningEnv) (tenantID : String) (levels : List ElearningLevel) (s : ElearningStore) :
    ElearningStore :=
  levels.foldl (fun s lvl => (Repository.deleteLevel (env.levelFails lvl.id) tenantID lvl.id s).2) s

def deleteCategory (env : ElearningEnv) (tenantID id : String) (s : ElearningStore) :
    Except String Unit × ElearningStore :=
  match Repository.getCategoryByID (env.fails 0) tenantID id s with
  | .error e => (.error ("elearning.svc.DeleteCategory get: " ++ e), s)
  | .ok none => (.error "elearning.svc.DeleteCategory: not found", s)
  | .ok (some _) =>
    match Repository.listLevelsByCategory (env.fails 1) tenantID id s with
    | .error e => (.error ("elearning.svc.DeleteCategory list levels: " ++ e), s)
    | .ok levels =>
      let r := Repository.deleteCategory (env.fails 2) tenantID id (deleteLevels env tenantID levels s)
      (r.1.mapError ("elearning.svc.DeleteCategory: " ++ ·), r.2)

def newLevel (req : CreateLevelRequest) : ElearningLevel where
  id := ""
  tenantID := req.tenantID
  categoryID := req.categoryID
  name := req.name
  slug := orSlug req.slug req.name
  description := req.description
  order := req.order

def createLevel (env : ElearningEnv) (req : CreateLevelRequest) (s : ElearningStore) :
    Except String ElearningLevel × ElearningStore :=
  createUnder "elearning.svc.CreateLevel" "category" req.categoryID
    (Repository.getCategoryByID (env.fails 0) req.tenantID req.categoryID s)
    (Repository.createLevel env (newLevel req)) s

def changeLevel (req : UpdateLevelRequest) (categoryID : Option String) (lvl : ElearningLevel) : ElearningLevel :=
  { lvl with
    categoryID := categoryID.getD lvl.categoryID, name := orOld req.name lvl.name, slug := orOld req.slug lvl.slug
    description := orOld req.description lvl.description, order := orOldOrder req.order lvl.order }

def updateLevel (env : ElearningEnv) (tenantID id : String) (req : UpdateLevelRequest) (s : ElearningStore) :
    Except String (Option ElearningLevel) × ElearningStore :=
  updateFound "elearning.svc.UpdateLevel" (Repository.getLevelByID (env.fails 0) tenantID id s)
    (checkReference "elearning.svc.UpdateLevel" "category_id" "category" "category" (fun _ => none)
      (fun categoryID => Repository.getCategoryByID (env.fails 1) tenantID categoryID s) req.categoryID)
    (changeLevel req) (Repository.updateLevel (env.fails 2) env.now) s

def deleteLevel (env : ElearningEnv) (tenantID id : String) (s : ElearningStore) :
    Except String Unit × ElearningStore :=
  let r := Repository.deleteLevel env.fails tenantID id s
  (r.1.mapError ("elearning.svc.DeleteLevel: " ++ ·), r.2)

def newUnit (req : CreateUnitRequest) : ElearningUnit where
  id := ""
  tenantID := req.tenantID
  levelID := req.levelID
  name := req.name
  slug := orSlug req.slug req.name
  description := req.description
  content := req.content
  order := req.order

def createUnit (env : ElearningEnv) (req : CreateUnitRequest) (s : ElearningStore) :
    Except String ElearningUnit × ElearningStore :=
  createUnder "elearning.svc.CreateUnit" "level" req.levelID
    (Repository.getLevelByID (env.fails 0) req.tenantID req.levelID s)
    (Repository.createUnit env (newUnit req)) s

def changeUnit (req : UpdateUnitRequest) (levelID : Option String) (unit : ElearningUnit) : ElearningUnit :=
  { unit with
    levelID := levelID.getD unit.levelID, name := orOld req.name unit.name, slug := orOld req.slug unit.slug
    description := orOld req.description unit.description, content := orOld req.content unit.content
    order := orOldOrder req.order unit.order }

def updateUnit (env : ElearningEnv) (tenantID id : String) (req : UpdateUnitRequest) (s : ElearningStore) :
    Except String (Option ElearningUnit) × ElearningStore :=
  updateFound "elearning.svc.UpdateUnit" (Repository.getUnitByID (env.fails 0) tenantID id s)
    (checkReference "elearning.svc.UpdateUnit" "level_id" "level" "level" (fun _ => none)
      (fun levelID => Repository.getLevelByID (env.fails 1) tenantID levelID s) req.levelID)
    (changeUnit req) (Repository.updateUnit (env.fails 2) env.now) s

def deleteUnit (env : ElearningEnv) (tenantID id : String) (s : ElearningStore) :
    Except String Unit × ElearningStore :=
  let r := Repository.deleteUnit (env.fails 0) tenantID id s
  (r.1.mapError ("elearning.svc.DeleteUnit: " ++ ·), r.2)

end Service

/-! ## What the checks let through -/

section Checks

variable {Doc : Type}

omit [Library] in
lemma checkReference_cases (op field lookup missing : String) (refused : String → Option String)
    (find : String → Except String (Option Doc)) (requested : String) :
    (requested ≠ "" ∧ ∃ e, checkReference op field lookup missing refused find requested = .error e) ∨
      (requested = "" ∧ checkReference op field lookup missing refused find requested = .ok none) ∨
      (requested ≠ "" ∧ validReferenceID (normalizeReferenceID requested) ∧
        refused (normalizeReferenceID requested) = none ∧
        (∃ d, find (normalizeReferenceID requested) = .ok (some d)) ∧
        checkReference op field lookup missing refused find requested =
          .ok (some (normalizeReferenceID requested))) := by
  unfold checkReference
  dsimp only
  by_cases hempty : requested = ""
  · rw [if_pos hempty]
    exact .inr (.inl ⟨hempty, rfl⟩)
  rw [if_neg hempty]
  cases hvalid : validReferenceID (normalizeReferenceID requested) with
  | false => exact .inl ⟨hempty, _, rfl⟩
  | true =>
    cases hrefused : refused (normalizeReferenceID requested) with
    | some reason => exact .inl ⟨hempty, _, rfl⟩
    | none =>
      cases hfind : find (normalizeReferenceID requested) with
      | error e => exact .inl ⟨hempty, _, rfl⟩
      | ok found =>
        cases found with
        | none => exact .inl ⟨hempty, _, rfl⟩
        | some d => exact .inr (.inr ⟨hempty, rfl, rfl, ⟨d, rfl⟩, rfl⟩)

omit [Library] in
lemma checkReference_ok (op field lookup missing : String) (refused : String → Option String)
    (find : String → Except String (Option Doc)) {requested : String} {d : Doc} (hasked : requested ≠ "")
    (hvalid : validReferenceID (normalizeReferenceID requested))
    (hrefused : refused (normalizeReferenceID requested) = none)
    (hfind : find (normalizeReferenceID requested) = .ok (some d)) :
    checkReference op field lookup missing refused find requested = .ok (some (normalizeReferenceID requested)) := by
  unfold checkReference
  dsimp only
  rw [if_neg hasked, hvalid, hrefused, hfind]
  rfl

end Checks

end ErgGo.Elearning
