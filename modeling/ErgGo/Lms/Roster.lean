import ErgGo.Lms.Entities

/-!
# Centers, classes and students

The roster collections and the repository functions that read them, for the in-memory and
the MongoDB repository, followed by the access checks of the service.
-/

namespace ErgGo.Lms
open Go Documents

variable [Library]

inductive Backend where
  | memory
  | mongo
  deriving DecidableEq

/-- MongoDB's case-insensitive `$regex`, `none` for an invalid pattern. -/
class MongoServer where
  regex : String → Option (String → Bool)

/-- A server for computing examples, which takes no pattern. -/
@[reducible] def Sample.server : MongoServer := ⟨fun _ => none⟩

structure Roster where
  centers : Collection Center.id
  classes : Collection Class.id
  students : Collection Student.id
  currentScopes : List CurrentScope

structure CenterListRequest where
  keyword : String := ""
  status : String := ""
  type : String := ""
  page : ℤ := 0
  limit : ℤ := 0

structure ClassListRequest where
  centerID : String := ""
  unitID : String := ""
  grade : String := ""
  keyword : String := ""
  status : String := ""
  academicYear : String := ""
  page : ℤ := 0
  limit : ℤ := 0

structure StudentListRequest where
  centerID : String := ""
  classID : String := ""
  keyword : String := ""
  status : String := ""
  progress : String := ""
  subjectID : String := ""
  cursor : String := ""
  limit : ℤ := 0

/-- Two's complement wrap-around of a 64-bit result. -/
def wrapInt64 (x : ℤ) : ℤ := Int.bmod x (2 ^ 64)

def paged (page limit : ℤ) : ℤ × ℤ :=
  let page := if page < 1 then 1 else page
  let limit := if limit ≤ 0 ∨ limit > 100 then 20 else limit
  (wrapInt64 ((page - 1) * limit), limit)

/-- `strconv.ParseInt(s, 10, 64)` as used here, with the error dropped: a number out of range
is clamped, anything else that does not parse is zero. -/
def parseInt64 (s : String) : ℤ :=
  let magnitude (digits : List Char) : Option ℕ :=
    if digits.isEmpty || !digits.all Char.isDigit then none
    else some (digits.foldl (fun n c => 10 * n + (c.toNat - 48)) 0)
  match s.toList with
  | '-' :: digits => (magnitude digits).elim 0 (fun n => max (-(n : ℤ)) (-2 ^ 63))
  | '+' :: digits => (magnitude digits).elim 0 (fun n => min (n : ℤ) (2 ^ 63 - 1))
  | digits => (magnitude digits).elim 0 (fun n => min (n : ℤ) (2 ^ 63 - 1))

def cursorOffset (cursor : String) : ℕ := (parseInt64 cursor).toNat

def containsFold (s substr : String) : Bool := contains (toLower s) (toLower substr)

/-- How a repository matches a text against the keyword of a list request. -/
def keywordMatcher [MongoServer] (b : Backend) (keyword : String) : Except LmsError (String → Bool) :=
  match b with
  | .memory => .ok (fun text => containsFold text keyword)
  | .mongo =>
    if keyword = "" then .ok (fun _ => true)
    else match MongoServer.regex keyword with
      | some textMatches => .ok textMatches
      | none => .error .storeFailure

/-- `pageCenters` and `pageClasses` of the in-memory repository, `findCenters` and
`findClasses` of the other: a page of the sorted items, and their number. -/
def pageItems {α : Type} (b : Backend) (items : List α) (page limit : ℤ) :
    Except LmsError (List α × ℤ) :=
  let (offset, limit) := paged page limit
  let total : ℤ := items.length
  match b with
  | .memory =>
    if offset > total then .ok ([], total)
    else
      let stop := if offset + limit > total then total else offset + limit
      if offset < 0 then .error .runtimePanic
      else .ok ((items.drop offset.toNat).take (stop - offset).toNat, total)
  | .mongo =>
    if offset < 0 then .error .storeFailure
    else .ok ((items.drop offset.toNat).take limit.toNat, total)

omit [Library] in
/-- The first page can always be listed. -/
lemma pageItems_take {α : Type} (b : Backend) (items : List α) :
    pageItems b items 1 100 = .ok (items.take 100, (items.length : ℤ)) := by
  have hpaged : paged 1 100 = (0, 100) := by decide
  unfold pageItems
  rw [hpaged]
  cases b with
  | memory =>
    have hlength : ¬(0 : ℤ) > items.length := by omega
    simp only [hlength, ↓reduceIte]
    refine congrArg (fun page => Except.ok (page, (items.length : ℤ))) ?_
    split
    · rw [List.take_of_length_le (by simp), List.take_of_length_le (by omega), Int.toNat_zero, List.drop_zero]
    · rfl
  | mongo => rfl

lemma keywordMatcher_empty [MongoServer] (b : Backend) : ∃ textMatches, keywordMatcher b "" = .ok textMatches := by
  cases b <;> exact ⟨_, rfl⟩

def normalizeEducationUnitType (unitType : String) : String := toLower (trimSpace unitType)

def centerType (center : Center) : String :=
  let unitType := normalizeEducationUnitType center.type
  if unitType = "" then "center" else unitType

/-- The type filter: the in-memory repository compares the normalised type, MongoDB the
stored one, where an absent type counts as a center. -/
def centerTypeMatches (b : Backend) (center : Center) (type : String) : Bool :=
  match b with
  | .memory => centerType center = type
  | .mongo => if type = "center" then center.type = "center" || center.type = "" else center.type = type

/-- The first hundred of the centers the actor manages; without a user id, of all centers. -/
def listedCenters (r : Roster) (tenantID userID : String) : List Center :=
  (Library.sortSlice (fun a c => a.name < c.name) (r.centers.docs.filter fun center =>
    center.tenantID = tenantID && (userID = "" || center.managerUserID = userID))).take 100

/-- The first hundred of the classes a teacher has in some centers, or in all where none is named;
without a teacher, of all classes there. -/
def listedClasses (r : Roster) (tenantID : String) (centerIDs : List ObjectID) (teacherID : String) : List Class :=
  (Library.sortSlice (fun a c => a.name < c.name) (r.classes.docs.filter fun class' =>
    class'.tenantID = tenantID && (centerIDs.isEmpty || class'.centerID ∈ centerIDs) &&
      (teacherID = "" || class'.homeroomTeacherID = teacherID))).take 100

namespace Roster

def getCenter (r : Roster) (tenantID id : String) : Except LmsError (Option Center) := do
  let oid ← objectID id
  return r.centers.find (fun center => center.tenantID = tenantID && center.id = oid)

def getClass (r : Roster) (tenantID id : String) : Except LmsError (Option Class) := do
  let oid ← objectID id
  return r.classes.find (fun class' => class'.tenantID = tenantID && class'.id = oid)

def getCurrentScope (r : Roster) (tenantID userID : String) : Option CurrentScope :=
  r.currentScopes.find? (fun scope => scope.tenantID = tenantID && scope.userID = userID)

def listCenters [MongoServer] (b : Backend) (r : Roster) (tenantID : String) (req : CenterListRequest)
    (managerUserID : String) : Except LmsError (List Center × ℤ) := do
  let textMatches ← keywordMatcher b req.keyword
  let items := r.centers.docs.filter (fun center =>
    center.tenantID = tenantID &&
    (req.status = "" || center.status = req.status) &&
    (req.type = "" || centerTypeMatches b center req.type) &&
    (managerUserID = "" || center.managerUserID = managerUserID) &&
    (req.keyword = "" || textMatches center.name || textMatches center.code))
  pageItems b (Library.sortSlice (fun a c => a.name < c.name) items) req.page req.limit

/-- The id a request names, if it names one. -/
def requestedID (id : String) : Except LmsError ObjectID :=
  if id ≠ "" then objectID id else .ok .nil

def listClasses [MongoServer] (b : Backend) (r : Roster) (tenantID : String) (req : ClassListRequest)
    (allowedCenterIDs : List ObjectID) (homeroomTeacherID : String) :
    Except LmsError (List Class × ℤ) := do
  let centerIDValue := if req.centerID = "" then req.unitID else req.centerID
  let requestedCenterID ← requestedID centerIDValue
  let textMatches ← keywordMatcher b req.keyword
  let items := r.classes.docs.filter (fun class' =>
    class'.tenantID = tenantID &&
    (if centerIDValue ≠ "" then class'.centerID = requestedCenterID
      else allowedCenterIDs.isEmpty || class'.centerID ∈ allowedCenterIDs) &&
    (homeroomTeacherID = "" || class'.homeroomTeacherID = homeroomTeacherID) &&
    (req.grade = "" || class'.grade = req.grade) &&
    (req.academicYear = "" || class'.academicYear = req.academicYear) &&
    (req.status = "" || class'.status = req.status) &&
    (req.keyword = "" || textMatches class'.name))
  pageItems b (Library.sortSlice (fun a c => a.name < c.name) items) req.page req.limit

def studentMatches (tenantID : String) (req : StudentListRequest)
    (allowedCenterIDs allowedClassIDs : List ObjectID) (requestedCenterID requestedClassID : ObjectID)
    (textMatches : String → Bool) (student : Student) : Bool :=
  student.tenantID = tenantID &&
  (if req.centerID ≠ "" then student.centerID = requestedCenterID
    else allowedCenterIDs.isEmpty || student.centerID ∈ allowedCenterIDs) &&
  (if req.classID ≠ "" then student.classID = requestedClassID
    else allowedClassIDs.isEmpty || student.classID ∈ allowedClassIDs) &&
  (req.status = "" || student.status = req.status) &&
  (req.keyword = "" || textMatches student.studentCode || textMatches student.fullName ||
    textMatches student.username || textMatches student.email || textMatches student.phone ||
    textMatches student.parentName || textMatches student.parentPhone)

/-- The students of one page, their total number and the next cursor. An empty list of
allowed ids restricts nothing. -/
def listStudents [MongoServer] (b : Backend) (r : Roster) (tenantID : String) (req : StudentListRequest)
    (allowedCenterIDs allowedClassIDs : List ObjectID) : Except LmsError (List Student × ℤ × String) := do
  let requestedCenterID ← requestedID req.centerID
  let requestedClassID ← requestedID req.classID
  let textMatches ← keywordMatcher b req.keyword
  let items := Library.sortSlice (fun a c => a.createdAt > c.createdAt)
    (r.students.docs.filter (studentMatches tenantID req allowedCenterIDs allowedClassIDs
      requestedCenterID requestedClassID textMatches))
  let total := items.length
  let limit := if req.limit ≤ 0 then 20 else if req.limit > 100 then 100 else req.limit.toNat
  let offset := cursorOffset req.cursor
  match b with
  | .memory =>
    if offset > total then return ([], total, "")
    else
      let stop := min (offset + limit) total
      return ((items.drop offset).take (stop - offset), total, if stop < total then toString stop else "")
  | .mongo =>
    let page := (items.drop offset).take limit
    return (page, total, if offset + page.length < total then toString (offset + page.length) else "")

lemma listCenters_first [MongoServer] (b : Backend) (r : Roster) (tenantID managerUserID : String) :
    ∃ total, r.listCenters b tenantID { page := 1, limit := 100 } managerUserID =
      .ok (listedCenters r tenantID managerUserID, total) := by
  obtain ⟨textMatches, hmatcher⟩ := keywordMatcher_empty b
  unfold listCenters
  rw [hmatcher]
  dsimp only [bind, Except.bind]
  rw [pageItems_take]
  refine ⟨_, congrArg (fun p => Except.ok ((Library.sortSlice _ (r.centers.docs.filter p)).take 100, _))
    (funext fun center => ?_)⟩
  simp

lemma listClasses_first [MongoServer] (b : Backend) (r : Roster) (tenantID teacherID : String)
    (allowedCenterIDs : List ObjectID) :
    ∃ total, r.listClasses b tenantID { page := 1, limit := 100 } allowedCenterIDs teacherID =
      .ok (listedClasses r tenantID allowedCenterIDs teacherID, total) := by
  obtain ⟨textMatches, hmatcher⟩ := keywordMatcher_empty b
  have hnone : requestedID (if "" = "" then "" else "") = .ok .nil := rfl
  unfold listClasses
  rw [hmatcher]
  dsimp only [bind, Except.bind]
  rw [hnone]
  dsimp only
  rw [pageItems_take]
  refine ⟨_, congrArg (fun p => Except.ok ((Library.sortSlice _ (r.classes.docs.filter p)).take 100, _))
    (funext fun class' => ?_)⟩
  simp

lemma mem_listStudents [MongoServer] {b : Backend} {r : Roster} {tenantID next : String} {req : StudentListRequest}
    {allowedCenterIDs allowedClassIDs : List ObjectID} {items : List Student} {total : ℤ}
    (h : r.listStudents b tenantID req allowedCenterIDs allowedClassIDs = .ok (items, total, next)) :
    ∃ centerID classID textMatches, requestedID req.centerID = .ok centerID ∧
      requestedID req.classID = .ok classID ∧ keywordMatcher b req.keyword = .ok textMatches ∧
      ∀ student ∈ items, student ∈ r.students.docs ∧ studentMatches tenantID req allowedCenterIDs
        allowedClassIDs centerID classID textMatches student := by
  unfold listStudents at h
  obtain ⟨centerID, hcenter, h⟩ := except_bind_eq_ok.mp h
  obtain ⟨classID, hclass, h⟩ := except_bind_eq_ok.mp h
  obtain ⟨textMatches, hmatcher, h⟩ := except_bind_eq_ok.mp h
  refine ⟨centerID, classID, textMatches, hcenter, hclass, hmatcher, fun student hstudent => ?_⟩
  rw [← List.mem_filter, ← (Library.sortSlice_perm (fun a c => a.createdAt > c.createdAt) _).mem_iff]
  cases b with
  | memory =>
    dsimp only at h
    split at h
    · cases h
      cases hstudent
    · cases h
      exact List.mem_of_mem_drop (List.mem_of_mem_take hstudent)
  | mongo =>
    cases h
    exact List.mem_of_mem_drop (List.mem_of_mem_take hstudent)

end Roster

def Actor.canAccessGlobal (a : Actor) : Bool :=
  a.roles.any (fun role => toLower role ∈ ["admin", "erg_admin", "global_admin", "lms_admin"])

/-- `canAccessCenter`, over whatever carries out `GetCenter`. -/
def canAccessCenter {m : Type → Type} [Monad m] (getCenter : String → m (Except LmsError (Option Center)))
    (actor : Actor) (centerID : String) : m Bool := do
  if actor.canAccessGlobal then return true
  else match ← getCenter centerID with
    | .ok (some center) =>
      if center.managerUserID = actor.userID then return true
      else if centerType center = "school" && !center.parentID.isZero then
        match ← getCenter center.parentID.hex with
        | .ok (some parent) => return parent.managerUserID = actor.userID
        | _ => return false
      else return false
    | _ => return false

namespace Roster

def canAccessCenter (r : Roster) (tenantID : String) (actor : Actor) (centerID : String) : Bool :=
  Id.run (Lms.canAccessCenter (fun id => pure (r.getCenter tenantID id)) actor centerID)

def canAccessClass (r : Roster) (tenantID : String) (actor : Actor) (class' : Class) : Bool :=
  actor.canAccessGlobal || class'.homeroomTeacherID = actor.userID ||
    r.canAccessCenter tenantID actor class'.centerID.hex

def canAccessStudent (r : Roster) (tenantID : String) (actor : Actor) (student : Student) : Bool :=
  actor.canAccessGlobal ||
    match r.getClass tenantID student.classID.hex with
    | .ok (some class') => r.canAccessClass tenantID actor class'
    | _ => false

end Roster

end ErgGo.Lms
