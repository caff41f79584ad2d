import ErgGo.AccessControl.Repository
import ErgGo.Lib.Interleaving
import ErgGo.Lms.StudentProfiles
import ErgGo.Lms.StudentService

/-!
# Student accounts

A student account is a user in PostgreSQL and a student in the roster, created one after the
other by three routes: one student, a list of rows, and the rows of a sheet import.
-/

namespace ErgGo.Lms
open Go Documents Concurrent Program Postgres AccessControl

/-! ## Records -/

structure ParsedStudentRow where
  rowID : String := ""
  rowNumber : ℤ := 0
  studentCode : String := ""
  fullName : String := ""
  className : String := ""
  email : String := ""
  gender : String := ""
  birthday : Option Time := none
  phone : String := ""
  address : String := ""
  parentName : String := ""
  parentPhone : String := ""
  parentEmail : String := ""
  parentRelationship : String := ""
  enrollmentDate : Option Time := none
  note : String := ""
  status : String := ""
  messages : List String := []

structure ImportPreview where
  id : ObjectID
  tenantID : String
  userID : String := ""
  spreadsheetID : String := ""
  sheetName : String := ""
  range : String := ""
  rows : List ParsedStudentRow
  createdAt : Time := 0

structure ImportCredential where
  rowID : String
  rowNumber : ℤ
  studentID : String
  username : String
  password : String
  deriving DecidableEq

structure ImportJob where
  id : ObjectID := .nil
  tenantID : String
  userID : String
  previewID : ObjectID
  spreadsheetID : String
  sheetName : String
  sheetRange : String
  status : String := "completed"
  progress : ℤ := 100
  created : ℕ := 0
  skipped : ℕ := 0
  duplicates : ℕ := 0
  credentials : List ImportCredential := []
  errors : List String := []
  createdAt : Time := 0
  updatedAt : Time := 0

structure CreateStudentRequest where
  fullName : String
  classID : String
  studentCode : String := ""
  username : String := ""
  password : String := ""
  email : String := ""
  gender : String := ""
  birthday : Option Time := none
  phone : String := ""
  address : String := ""
  parentName : String := ""
  parentPhone : String := ""
  parentEmail : String := ""
  parentRelationship : String := ""
  enrollmentDate : Option Time := none
  note : String := ""

structure StudentResponse where
  student : StudentListItem
  tempPassword : String := ""

structure BulkCreateStudentAccountRow where
  rowID : String := ""
  rowNumber : ℤ := 0
  included : Option Bool := none
  studentCode : String := ""
  fullName : String
  classID : String := ""
  className : String := ""
  username : String
  password : String := ""
  email : String := ""
  gender : String := ""
  birthday : Option Time := none
  phone : String := ""
  address : String := ""
  parentName : String := ""
  parentPhone : String := ""
  parentEmail : String := ""
  parentRelationship : String := ""
  enrollmentDate : Option Time := none
  note : String := ""

structure BulkCreateStudentAccountsRequest where
  centerID : String
  classID : String := ""
  rows : List BulkCreateStudentAccountRow

structure BulkActionFailedItem where
  id : String
  code : String
  message : String

structure BulkCreateStudentAccountsResponse where
  created : ℕ := 0
  skipped : ℕ := 0
  duplicates : ℕ := 0
  credentials : List ImportCredential := []
  students : List StudentListItem := []
  failedItems : List BulkActionFailedItem := []

structure GoogleSheetCommitRow where
  rowID : String
  included : Bool := false
  studentCode : String := ""
  fullName : String := ""
  className : String := ""
  email : String := ""
  gender : String := ""
  birthday : Option Time := none
  phone : String := ""
  address : String := ""
  parentName : String := ""
  parentPhone : String := ""
  parentEmail : String := ""
  parentRelationship : String := ""
  enrollmentDate : Option Time := none
  note : String := ""

structure GoogleSheetCommitRequest where
  previewID : String
  centerID : String
  classID : String := ""
  rows : List GoogleSheetCommitRow

structure GoogleSheetCommitResponse where
  jobID : String
  created : ℕ
  skipped : ℕ
  duplicates : ℕ
  credentials : List ImportCredential

/-! ## The stores -/

structure AccountStore where
  roster : Roster
  previews : Collection ImportPreview.id
  importJobs : Collection ImportJob.id
  db : Postgres.Database

inductive AccountRequest where
  | getCenter (tenantID id : String)
  | getClass (tenantID id : String)
  | getClassByName (tenantID : String) (centerID : ObjectID) (name : String)
  | usernameExists (tenantID username : String)
  | createStudent (student : Student)
  | getImportPreview (tenantID id : String)
  | createImportJob (job : ImportJob)
  | randomInt
  | hashPassword (password : String)
  | createUser (user : Postgres.AuthUser) (roles : List String)
  | deleteUserByID (id : ObjectID)

/-- A create returns the record as the caller then has it, and an id the store has chosen. -/
abbrev AccountResult : AccountRequest → Type
  | .getCenter .. => Option Center
  | .getClass .. => Option Class
  | .getClassByName .. => Option Class
  | .usernameExists .. => Bool
  | .createStudent _ => Student
  | .getImportPreview .. => Option ImportPreview
  | .createImportJob _ => ObjectID
  | .randomInt => ℕ
  | .hashPassword _ => String
  | .createUser .. => ObjectID
  | .deleteUserByID _ => Unit

abbrev AccountReply (q : AccountRequest) := Except LmsError (AccountResult q)

abbrev AccountCall := ExceptT LmsError (Program AccountRequest AccountReply)

def account (q : AccountRequest) : AccountCall (AccountResult q) := ExceptT.mk (.send q)

@[simp] lemma run_account (q : AccountRequest) : (account q).run = .send q := rfl

/-- The clock, a fresh id, a random number below a million and a fresh salt. -/
structure AccountEnv where
  now : Time := 0
  id : ObjectID
  random : Fin 1000000 := 0
  salt : String := ""

/-- Of a password its hash under a salt, and of a time its date. -/
class AccountLibrary where
  hashPassword : String → String → String
  formatDate : Time → String

/-- The error of `CreateUser` that its callers look for. -/
def errDuplicateEmail : LmsError := .message "auth.repository: duplicate email"

/-- The unique indexes on students. -/
def Student.conflicts (a b : Student) : Bool :=
  a.tenantID = b.tenantID && (a.username = b.username || (a.studentCode ≠ "" && a.studentCode = b.studentCode) ||
    (a.authUserID ≠ "" && a.authUserID = b.authUserID))

section Exec

variable [Library] [AccountLibrary]

/-- The row as the table takes it, if its columns fit. -/
def admittedUser (user : Postgres.AuthUser) : Option Postgres.AuthUser := do
  let tenantID ← varchar 64 user.tenantID
  let email ← varchar 255 user.email
  let fullName ← varchar 255 user.fullName
  let phone ← varchar 64 user.phone
  let dateOfBirth ← varchar 64 user.dateOfBirth
  return { user with tenantID := tenantID, email := email, fullName := fullName, phone := phone, dateOfBirth := dateOfBirth }

def insertUser (users : Users) (user : Postgres.AuthUser) : Option Users :=
  if h : user.id ∉ users.rows.map Postgres.AuthUser.id ∧ user.email ∉ users.rows.map Postgres.AuthUser.email then
    some ⟨users.rows ++ [user],
      by
        rw [List.map_append, List.map_singleton]
        exact List.nodup_append.mpr ⟨users.id_nodup, List.nodup_singleton _, fun a ha b hb hab =>
          h.1 (List.mem_singleton.mp hb ▸ hab ▸ ha)⟩,
      by
        rw [List.map_append, List.map_singleton]
        exact List.nodup_append.mpr ⟨users.email_nodup, List.nodup_singleton _, fun a ha b hb hab =>
          h.2 (List.mem_singleton.mp hb ▸ hab ▸ ha)⟩⟩
  else none

def createUser (env : AccountEnv) (user : Postgres.AuthUser) (roles : List String) (db : Postgres.Database) :
    Except LmsError ObjectID × Postgres.Database :=
  match admittedUser { user with
      id := env.id
      email := trimSpace (toLower user.email)
      lastLoginProvider := if user.lastLoginProvider = "" then user.provider else user.lastLoginProvider
      createdAt := env.now
      updatedAt := env.now } with
  | none => (.error .storeFailure, db)
  | some user =>
    match insertUser db.users user with
    | none => (.error errDuplicateEmail, db)
    | some users => (.ok env.id, replaceUserRoles { db with users := users } env.id.hex roles)

def deleteUserByID (id : ObjectID) (db : Postgres.Database) : Postgres.Database :=
  if id.isZero then db
  else
    { db with
      userRoles := db.userRoles.filter (fun join => join.userID ≠ id.hex)
      users := ⟨db.users.rows.filter (fun user => user.id ≠ id), db.users.id_nodup.sublist (List.filter_sublist.map _),
        db.users.email_nodup.sublist (List.filter_sublist.map _)⟩ }

/-- A student with the fields that creating it fills. -/
def Student.inserted (env : AccountEnv) (student : Student) : Student :=
  { student with
    status := if student.status = "" then "active" else student.status, createdAt := env.now, updatedAt := env.now }

def Student.stored (env : AccountEnv) (student : Student) : Student :=
  { student.inserted env with id := if student.id.isZero then env.id else student.id }

/-- MongoDB chooses the id of the document and does not tell the caller. -/
def createStudent (b : Backend) (env : AccountEnv) (student : Student) (r : Roster) :
    Except LmsError Student × Roster :=
  if b = .mongo && r.students.docs.any (student.stored env).conflicts then (.error .duplicateKey, r)
  else
    match r.students.insertOne (student.stored env) with
    | none => (.error .duplicateKey, r)
    | some students =>
      (.ok (if b = .memory then student.stored env else student.inserted env), { r with students := students })

/-- The previews and the jobs have no in-memory branch: the collections are nil there. -/
def AccountStore.exec (b : Backend) (env : AccountEnv) (q : AccountRequest) (s : AccountStore) :
    AccountReply q × AccountStore :=
  match q with
  | .getCenter tenantID id => (s.roster.getCenter tenantID id, s)
  | .getClass tenantID id => (s.roster.getClass tenantID id, s)
  | .getClassByName tenantID centerID name =>
    (.ok (s.roster.classes.find (fun class' =>
      class'.tenantID = tenantID && class'.centerID = centerID && class'.name = name)), s)
  | .usernameExists tenantID username =>
    (.ok (s.roster.students.docs.any (fun student => student.tenantID = tenantID && student.username = username)), s)
  | .createStudent student =>
    ((createStudent b env student s.roster).1, { s with roster := (createStudent b env student s.roster).2 })
  | .getImportPreview tenantID id =>
    (do
      let oid ← objectID id
      if b = .memory then throw .runtimePanic
      return s.previews.find (fun preview => preview.tenantID = tenantID && preview.id = oid), s)
  | .createImportJob job =>
    if b = .memory then (.error .runtimePanic, s)
    else
      match s.importJobs.insertOne { job with id := env.id, createdAt := env.now, updatedAt := env.now } with
      | none => (.error .duplicateKey, s)
      | some importJobs => (.ok env.id, { s with importJobs := importJobs })
  | .randomInt => (.ok env.random.val, s)
  | .hashPassword password => (.ok (AccountLibrary.hashPassword password env.salt), s)
  | .createUser user roles =>
    ((createUser env user roles s.db).1, { s with db := (createUser env user roles s.db).2 })
  | .deleteUserByID id => (.ok (), { s with db := deleteUserByID id s.db })

end Exec

end ErgGo.Lms
