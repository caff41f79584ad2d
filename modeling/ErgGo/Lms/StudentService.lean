import ErgGo.Lib.Paging
import ErgGo.Lms.Roster

/-!
# Lists of students

The student routes of the service, and which students a list may return. The list takes its
rows by filter from the ids a request names and from the ids the actor is allowed, while the
routes to a class and to a student check them one at a time.
-/

namespace ErgGo.Lms
open Go Documents Paging

structure ClassResponse where
  id : String
  centerID : String
  unitID : String
  centerName : String
  name : String
  grade : String
  academicYear : String
  status : String
  homeroomTeacherID : String
  createdAt : Time
  updatedAt : Time

structure StudentListItem where
  id : String
  studentCode : String
  fullName : String
  username : String
  email : String
  gender : String
  birthday : Option Time
  phone : String
  address : String
  parentName : String
  parentPhone : String
  parentEmail : String
  parentRelationship : String
  enrollmentDate : Option Time
  note : String
  centerID : String
  centerName : String
  centerCode : String
  centerType : String
  classID : String
  className : String
  grade : String
  academicYear : String
  status : String
  averageScore : Option Float64
  completedAssignments : ℤ
  lastActivityAt : Option Time

structure StudentListResponse where
  items : List StudentListItem
  total : ℤ
  nextCursor : String

structure StudentDetailResponse where
  profile : StudentListItem
  classes : List ClassResponse
  metrics : StudentMetrics
  assignments : List JsonValue
  journey : List JsonValue

def classToDTO (class' : Class) (centerName : String) : ClassResponse where
  id := class'.id.hex
  centerID := class'.centerID.hex
  unitID := class'.centerID.hex
  centerName := centerName
  name := class'.name
  grade := class'.grade
  academicYear := class'.academicYear
  status := class'.status
  homeroomTeacherID := class'.homeroomTeacherID
  createdAt := class'.createdAt
  updatedAt := class'.updatedAt

variable [Library]

def Roster.getStudent (r : Roster) (tenantID id : String) : Except LmsError (Option Student) := do
  let oid ← objectID id
  return r.students.find (fun student => student.tenantID = tenantID && student.id = oid)

namespace Service

/-- One item of `studentsToDTO`, whose maps only cache these lookups. -/
def studentToDTO (r : Roster) (tenantID : String) (student : Student) : StudentListItem :=
  let center := (r.getCenter tenantID student.centerID.hex).toOption.join.getD
    { id := .nil, tenantID := "", status := "" }
  let class' := (r.getClass tenantID student.classID.hex).toOption.join.getD
    { id := .nil, tenantID := "", centerID := .nil, status := "" }
  { id := student.id.hex
    studentCode := student.studentCode
    fullName := student.fullName
    username := student.username
    email := student.email
    gender := student.gender
    birthday := student.birthday
    phone := student.phone
    address := student.address
    parentName := student.parentName
    parentPhone := student.parentPhone
    parentEmail := student.parentEmail
    parentRelationship := student.parentRelationship
    enrollmentDate := student.enrollmentDate
    note := student.note
    centerID := student.centerID.hex
    centerName := center.name
    centerCode := center.code
    centerType := centerType center
    classID := student.classID.hex
    className := class'.name
    grade := class'.grade
    academicYear := class'.academicYear
    status := student.status
    averageScore := student.metrics.averageScore
    completedAssignments := student.metrics.completedAssignments
    lastActivityAt := student.metrics.lastActivityAt }

def studentsToDTO (r : Roster) (tenantID : String) (students : List Student) : List StudentListItem :=
  students.map (studentToDTO r tenantID)

/-- The centers and classes an actor may list; for a global actor the lists are nil. -/
def allowedIDs [MongoServer] (b : Backend) (r : Roster) (tenantID : String) (actor : Actor) :
    Except LmsError (List ObjectID × List ObjectID) := do
  if actor.canAccessGlobal then return ([], [])
  else
    let (centers, _) ← r.listCenters b tenantID { page := 1, limit := 100 } actor.userID
    let centerIDs := centers.map Center.id
    let (classes, _) ← r.listClasses b tenantID { page := 1, limit := 100 } centerIDs actor.userID
    return (centerIDs, classes.map Class.id)

def listStudents [MongoServer] (b : Backend) (r : Roster) (tenantID : String) (actor : Actor)
    (req : StudentListRequest) : Except LmsError StudentListResponse := do
  let (centerIDs, classIDs) ← allowedIDs b r tenantID actor
  let (items, total, next) ← r.listStudents b tenantID req centerIDs classIDs
  return ⟨studentsToDTO r tenantID items, total, next⟩

def listClassStudents [MongoServer] (b : Backend) (r : Roster) (tenantID : String) (actor : Actor)
    (classID : String) (req : StudentListRequest) : Except LmsError StudentListResponse := do
  match ← r.getClass tenantID classID with
  | none => throw .notFound
  | some class' =>
    if r.canAccessClass tenantID actor class' then
      let req := { req with classID := classID, centerID := class'.centerID.hex }
      let (items, total, next) ← r.listStudents b tenantID req [] []
      return ⟨studentsToDTO r tenantID items, total, next⟩
    else throw .scopeForbidden

def getStudent (r : Roster) (tenantID : String) (actor : Actor) (id : String) :
    Except LmsError StudentDetailResponse := do
  match ← r.getStudent tenantID id with
  | none => throw .notFound
  | some student =>
    if r.canAccessStudent tenantID actor student then
      let class' := (r.getClass tenantID student.classID.hex).toOption.join
      return {
        profile := studentToDTO r tenantID student
        classes := class'.toList.map (fun class' => classToDTO class' "")
        metrics := student.metrics
        assignments := []
        journey := [] }
    else throw .scopeForbidden

end Service

/-! ## Pages of a list -/

section Pages

variable {α : Type}

omit [Library]

/-- What `pageCursor` and `listStudents` do once they know the list, the offset and the limit. -/
def cutPage (b : Backend) (items : List α) (offset limit : ℕ) : List α × ℤ × String :=
  match b with
  | .memory =>
    if offset > items.length then ([], items.length, "")
    else
      let stop := min (offset + limit) items.length
      ((items.drop offset).take (stop - offset), items.length, if stop < items.length then toString stop else "")
  | .mongo =>
    let page := (items.drop offset).take limit
    (page, items.length, if offset + page.length < items.length then toString (offset + page.length) else "")

lemma cutPage_eq (b : Backend) {items : List α} {offset limit : ℕ} (h : offset ≤ items.length) :
    cutPage b items offset limit =
      (page offset limit items, (items.length : ℤ),
        if offset + limit < items.length then toString (offset + limit) else "") := by
  have hshort : ¬offset + limit < items.length → (page offset limit items).length = items.length - offset := by
    intro hlimit
    rw [page, List.length_take, List.length_drop]
    omega
  have hlong : offset + limit < items.length → (page offset limit items).length = limit := by
    intro hlimit
    rw [page, List.length_take, List.length_drop]
    omega
  unfold cutPage
  cases b with
  | memory =>
    dsimp only
    rw [if_neg (by omega)]
    by_cases hlimit : offset + limit < items.length
    · rw [min_eq_left hlimit.le, if_pos hlimit, Nat.add_sub_cancel_left]
      rfl
    · have hall : (items.drop offset).take (items.length - offset) = page offset limit items := by
        rw [page, ← List.length_drop, List.take_length, List.take_of_length_le]
        rw [List.length_drop]
        omega
      rw [min_eq_right (by omega), if_neg (by omega), if_neg hlimit, hall]
  | mongo =>
    change (page offset limit items, (items.length : ℤ), if offset + (page offset limit items).length < items.length
      then toString (offset + (page offset limit items).length) else "") = _
    by_cases hlimit : offset + limit < items.length
    · rw [hlong hlimit]
    · rw [hshort hlimit, if_neg (by omega), if_neg hlimit]

lemma cutPage_fst (b : Backend) (items : List α) (offset limit : ℕ) :
    (cutPage b items offset limit).1 = page offset limit items := by
  by_cases h : offset ≤ items.length
  · rw [cutPage_eq b h]
  · cases b with
    | memory =>
      have hnone : items.drop offset = [] := List.drop_eq_nil_iff.mpr (by omega)
      rw [cutPage, if_pos (by omega), page, hnone, List.take_nil]
    | mongo => rfl

end Pages

section Lists

variable [MongoServer]

def newestFirst (a c : Student) : Bool := a.createdAt > c.createdAt

/-- Which students a list request is about. -/
def Roster.matching (b : Backend) (tenantID : String) (req : StudentListRequest)
    (allowedCenterIDs allowedClassIDs : List ObjectID) : Except LmsError (Student → Bool) := do
  let requestedCenterID ← requestedID req.centerID
  let requestedClassID ← requestedID req.classID
  let textMatches ← keywordMatcher b req.keyword
  return studentMatches tenantID req allowedCenterIDs allowedClassIDs requestedCenterID requestedClassID textMatches

/-- The students of a list request, in the order of the list. -/
def Roster.ordered (r : Roster) (p : Student → Bool) : List Student :=
  Library.sortSlice newestFirst (r.students.docs.filter p)

def studentLimit (limit : ℤ) : ℕ := if limit ≤ 0 then 20 else if limit > 100 then 100 else limit.toNat

omit [Library] [MongoServer] in
lemma studentLimit_pos (limit : ℤ) : 0 < studentLimit limit := by
  unfold studentLimit
  split
  · decide
  · split
    · decide
    · omega

lemma Roster.listStudents_eq (b : Backend) (r : Roster) (tenantID : String) (req : StudentListRequest)
    (allowedCenterIDs allowedClassIDs : List ObjectID) :
    r.listStudents b tenantID req allowedCenterIDs allowedClassIDs =
      (Roster.matching b tenantID req allowedCenterIDs allowedClassIDs).map fun p =>
        cutPage b (r.ordered p) (cursorOffset req.cursor) (studentLimit req.limit) := by
  unfold Roster.listStudents Roster.matching
  cases requestedID req.centerID with
  | error err => rfl
  | ok centerID =>
    cases requestedID req.classID with
    | error err => rfl
    | ok classID =>
      cases keywordMatcher b req.keyword with
      | error err => rfl
      | ok textMatches =>
        cases b with
        | memory => exact (apply_ite Except.ok _ _ _).symm
        | mongo => rfl

omit [MongoServer] in
lemma Roster.length_ordered_le (r : Roster) (p : Student → Bool) : (r.ordered p).length ≤ r.students.docs.length := by
  rw [Roster.ordered, (Library.sortSlice_perm _ _).length_eq]
  exact List.length_filter_le p _

/-- All students of a list request, newest first. -/
def Roster.allStudents (b : Backend) (r : Roster) (tenantID : String) (req : StudentListRequest)
    (allowedCenterIDs allowedClassIDs : List ObjectID) : Except LmsError (List Student) :=
  (Roster.matching b tenantID req allowedCenterIDs allowedClassIDs).map r.ordered

end Lists

end ErgGo.Lms
