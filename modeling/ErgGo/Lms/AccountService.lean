import ErgGo.Lms.StudentAccounts

/-!
# The account service

Creating one student, a list of student accounts, and the students of a sheet import.
-/

namespace ErgGo.Lms
open Go Documents Concurrent Program

/-- The reply of a call that the caller looks at itself. -/
def caught {α : Type} (call : AccountCall α) : AccountCall (Except LmsError α) := ExceptT.lift call.run

/-- One item of `studentsToDTO`. -/
def studentListItem [Library] (center : Center) (class' : Class) (student : Student) : StudentListItem where
  id := student.id.hex
  studentCode := student.studentCode
  fullName := student.fullName
  username := student.username
  email := student.email
  gender := student.gender
  birthday := student.birthday
  phone := student.phone
  address := student.address
  parentName := student.parentName
  parentPhone := student.parentPhone
  parentEmail := student.parentEmail
  parentRelationship := student.parentRelationship
  enrollmentDate := student.enrollmentDate
  note := student.note
  centerID := student.centerID.hex
  centerName := center.name
  centerCode := center.code
  centerType := centerType center
  classID := student.classID.hex
  className := class'.name
  grade := class'.grade
  academicYear := class'.academicYear
  status := student.status
  averageScore := student.metrics.averageScore
  completedAssignments := student.metrics.completedAssignments
  lastActivityAt := student.metrics.lastActivityAt

def firstNonEmpty (values : List String) : String := (values.find? (fun value => trimSpace value ≠ "")).getD ""

def GoogleSheetCommitRow.rowByID (rows : List ParsedStudentRow) (rowID : String) : ParsedStudentRow :=
  (rows.reverse.find? (fun row => row.rowID = rowID)).getD {}

/-- A field of the request, unless it is empty. -/
def mergedField (commit parsed : String) : String := if commit ≠ "" then commit else parsed

def mergeCommitRow (parsed : ParsedStudentRow) (commit : GoogleSheetCommitRow) : ParsedStudentRow :=
  { parsed with
    studentCode := mergedField commit.studentCode parsed.studentCode
    fullName := mergedField commit.fullName parsed.fullName
    className := mergedField commit.className parsed.className
    email := mergedField commit.email parsed.email
    gender := mergedField commit.gender parsed.gender
    birthday := commit.birthday <|> parsed.birthday
    phone := mergedField commit.phone parsed.phone
    address := mergedField commit.address parsed.address
    parentName := mergedField commit.parentName parsed.parentName
    parentPhone := mergedField commit.parentPhone parsed.parentPhone
    parentEmail := mergedField commit.parentEmail parsed.parentEmail
    parentRelationship := mergedField commit.parentRelationship parsed.parentRelationship
    enrollmentDate := commit.enrollmentDate <|> parsed.enrollmentDate
    note := mergedField commit.note parsed.note }

/-- What a row of an import comes to before its account is created: it is skipped, with or
without an error text, or it has a class, a profile and a free username. -/
inductive PreparedRow where
  | skipped (err : Option String)
  | ready (class' : Class) (profile : NormalizedStudentProfile) (username : String) (duplicate : Bool)

namespace ImportJob

def skip (job : ImportJob) (rowID : String) (err : Option String) : ImportJob :=
  { job with
    skipped := job.skipped + 1
    errors := job.errors ++ (err.map (fun text => rowID ++ ": " ++ text)).toList }

def countDuplicate (job : ImportJob) (duplicate : Bool) : ImportJob :=
  { job with duplicates := job.duplicates + duplicate.toNat }

def credit (job : ImportJob) (credential : ImportCredential) : ImportJob :=
  { job with created := job.created + 1, credentials := job.credentials ++ [credential] }

end ImportJob

namespace BulkCreateStudentAccountsResponse

def fail (result : BulkCreateStudentAccountsResponse) (rowID code message : String) :
    BulkCreateStudentAccountsResponse :=
  { result with
    skipped := result.skipped + 1
    failedItems := result.failedItems ++ [⟨rowID, code, message⟩] }

def failDuplicate (result : BulkCreateStudentAccountsResponse) (rowID message : String) :
    BulkCreateStudentAccountsResponse :=
  { result.fail rowID "duplicate_username" message with duplicates := result.duplicates + 1 }

end BulkCreateStudentAccountsResponse

/-- What the loop over the rows of a bulk request carries along. -/
structure BulkState where
  result : BulkCreateStudentAccountsResponse := {}
  createdStudents : List Student := []
  usernamesInRequest : List (String × String) := []

/-- A row of a bulk request that is about to get an account. -/
structure ReadyRow where
  class' : Class
  profile : NormalizedStudentProfile
  username : String
  password : String

namespace Service

variable [Library] [Go.Unicode] [AccountLibrary]

/-- A student as the response shows it; a lookup that fails leaves the names empty. -/
def showStudent (tenantID : String) (student : Student) : AccountCall StudentListItem := do
  let center ← caught (account (.getCenter tenantID student.centerID.hex))
  let class' ← caught (account (.getClass tenantID student.classID.hex))
  return studentListItem (center.toOption.join.getD { id := .nil, tenantID := "", status := "" })
    (class'.toOption.join.getD { id := .nil, tenantID := "", centerID := .nil, status := "" }) student

/-- Whether the actor manages the center or may access all of them. -/
def accountCenterAccess (tenantID : String) (actor : Actor) (centerID : String) : AccountCall Bool :=
  if actor.canAccessGlobal then return true
  else ExceptT.lift (canAccessCenter (fun id => Program.send (AccountRequest.getCenter tenantID id)) actor centerID)

def accountClassAccess (tenantID : String) (actor : Actor) (class' : Class) : AccountCall Bool :=
  if class'.homeroomTeacherID = actor.userID then return true
  else accountCenterAccess tenantID actor class'.centerID.hex

def secureTempPassword : AccountCall String :=
  tryCatch (do return tempPassword (← account .randomInt))
    (fun err => throw (.message ("lms: generate temporary password: " ++ err.text)))

def createStudentAuthUser (tenantID fullName username password phone : String) (birthday : Option Time) :
    AccountCall ObjectID := do
  let passwordHash ← account (.hashPassword password)
  account (.createUser
    { id := .nil, tenantID := tenantID, email := studentAccountEmail username, passwordHash := passwordHash,
      fullName := fullName, status := "ACTIVE", provider := "local", accountType := "student",
      phone := trimSpace phone, dateOfBirth := birthday.elim "" AccountLibrary.formatDate, isProfileCompleted := true }
    ["lms.student", "student"])

/-- The student of an account. -/
def newStudent (tenantID : String) (class' : Class) (profile : NormalizedStudentProfile) (username authUserID : String)
    (birthday enrollmentDate : Option Time) (status : String) : Student where
  id := .nil
  tenantID := tenantID
  centerID := class'.centerID
  classID := class'.id
  studentCode := profile.studentCode
  fullName := profile.fullName
  username := username
  authUserID := authUserID
  email := profile.email
  gender := profile.gender
  birthday := birthday
  phone := profile.phone
  address := profile.address
  parentName := profile.parentName
  parentPhone := profile.parentPhone
  parentEmail := profile.parentEmail
  parentRelationship := profile.parentRelationship
  enrollmentDate := enrollmentDate
  note := profile.note
  status := status

def resolveImportClass (tenantID : String) (centerID : ObjectID) (classID className : String) : AccountCall Class :=
  if classID ≠ "" then do
    match ← account (.getClass tenantID classID) with
    | some class' => if class'.centerID ≠ centerID then throw .notFound else return class'
    | none => throw .notFound
  else if className = "" then throw (.message "missing className")
  else do
    match ← account (.getClassByName tenantID centerID className) with
    | some class' => return class'
    | none => throw (.message ("class " ++ reprStr className ++ " not found"))

/-- The loop over the usernames to try, of which so many are left. -/
def tryUsernames (tenantID base : String) : ℕ → ℕ → String → Bool → AccountCall (String × Bool)
  | 0, _, _, _ => throw (.message "could not generate unique username")
  | left + 1, i, username, duplicate => do
    validateStudentUsername username
    if ← account (.usernameExists tenantID username) then
      tryUsernames tenantID base left (i + 1) (base ++ "." ++ toString (i + 1)) true
    else return (username, duplicate)

def uniqueStudentUsername (tenantID fullName className : String) : AccountCall (String × Bool) :=
  tryUsernames tenantID (usernameBase fullName className) 100 0 (usernameBase fullName className) false

/-! ## One student -/

/-- The username of the request if it names one, else one that is free. -/
def requestedUsername (tenantID : String) (profile : NormalizedStudentProfile) (class' : Class) (requested : String) :
    AccountCall String := do
  let username := normalizeStudentUsername requested
  if username = "" then return (← uniqueStudentUsername tenantID profile.fullName class'.name).1
  else
    validateStudentUsername username
    if ← account (.usernameExists tenantID username) then throw .invalidStudentAccountPayload
    else return username

/-- Without an auth repository the student has no login. -/
def provisionAuthUser (provisioning : Bool) (tenantID : String) (profile : NormalizedStudentProfile)
    (username password : String) (birthday : Option Time) : AccountCall (Option ObjectID) :=
  if provisioning then do
    match ← caught (createStudentAuthUser tenantID profile.fullName username password profile.phone birthday) with
    | .ok userID => return some userID
    | .error err => if err = errDuplicateEmail then throw .invalidStudentAccountPayload else throw err
  else return none

def createStudent (provisioning : Bool) (tenantID : String) (actor : Actor) (req : CreateStudentRequest) :
    AccountCall StudentResponse := do
  let profile ← normalizeStudentProfile
    { studentCode := req.studentCode, fullName := req.fullName, email := req.email, gender := req.gender,
      phone := req.phone, address := req.address, parentName := req.parentName, parentPhone := req.parentPhone,
      parentEmail := req.parentEmail, parentRelationship := req.parentRelationship, note := req.note }
  let class' ← required (← account (.getClass tenantID req.classID))
  let allowed ← accountClassAccess tenantID actor class'
  rejectIf (!allowed) .scopeForbidden
  let password ← secureTempPassword
  let username ← requestedUsername tenantID profile class' req.username
  let password := if trimSpace req.password ≠ "" then trimSpace req.password else password
  validateStudentPassword password username profile.fullName
  let userID ← provisionAuthUser provisioning tenantID profile username password req.birthday
  match ← caught (account (.createStudent (newStudent tenantID class' profile username (userID.elim "" ObjectID.hex)
      req.birthday req.enrollmentDate ""))) with
  | .error err =>
    if let some userID := userID then
      let _ ← caught (account (.deleteUserByID userID))
    throw err
  | .ok student => return ⟨← showStudent tenantID student, if provisioning then password else ""⟩

/-! ## Import from a sheet -/

def parsedProfile (row : ParsedStudentRow) : Except LmsError NormalizedStudentProfile :=
  normalizeStudentProfile
    { studentCode := row.studentCode, fullName := row.fullName, email := row.email, gender := row.gender,
      phone := row.phone, address := row.address, parentName := row.parentName, parentPhone := row.parentPhone,
      parentEmail := row.parentEmail, parentRelationship := row.parentRelationship, note := row.note }

/-- The part of the loop before the account of a row is created. -/
def prepareRow (tenantID : String) (centerID : ObjectID) (classID : String) (included : Bool) (merged : ParsedStudentRow) :
    AccountCall PreparedRow :=
  if !included then return .skipped none
  else if merged.fullName = "" then return .skipped (some "missing fullName")
  else do
    match ← caught (resolveImportClass tenantID centerID classID merged.className) with
    | .error err => return .skipped (some err.text)
    | .ok class' =>
      match parsedProfile merged with
      | .error _ => return .skipped (some "invalid student profile")
      | .ok profile =>
        let (username, duplicate) ← uniqueStudentUsername tenantID profile.fullName class'.name
        return .ready class' profile username duplicate

/-- The part of the loop that creates the account. -/
def provisionRow (tenantID : String) (job : ImportJob) (rowID : String) (merged : ParsedStudentRow) (class' : Class)
    (profile : NormalizedStudentProfile) (username : String) : AccountCall ImportJob := do
  let password ← secureTempPassword
  match ← caught (createStudentAuthUser tenantID profile.fullName username password profile.phone merged.birthday) with
  | .error err =>
    if err = errDuplicateEmail then return (job.countDuplicate true).skip rowID (some "duplicate username")
    else throw err
  | .ok userID =>
    match ← caught (account (.createStudent (newStudent tenantID class' profile username userID.hex
        merged.birthday merged.enrollmentDate "active"))) with
    | .error err =>
      let _ ← caught (account (.deleteUserByID userID))
      return job.skip rowID (some err.text)
    | .ok student => return job.credit ⟨rowID, merged.rowNumber, student.id.hex, username, password⟩

/-- One turn of the loop. -/
def commitRow (tenantID : String) (centerID : ObjectID) (classID : String) (parsed : List ParsedStudentRow)
    (job : ImportJob) (row : GoogleSheetCommitRow) : AccountCall ImportJob := do
  let merged := mergeCommitRow (GoogleSheetCommitRow.rowByID parsed row.rowID) row
  match ← prepareRow tenantID centerID classID row.included merged with
  | .skipped err => return job.skip row.rowID err
  | .ready class' profile username duplicate =>
    provisionRow tenantID (job.countDuplicate duplicate) row.rowID merged class' profile username

/-- The checks before the loop. -/
def importTarget (tenantID : String) (actor : Actor) (req : GoogleSheetCommitRequest) :
    AccountCall (ImportPreview × Center) := do
  let preview ← required (← account (.getImportPreview tenantID req.previewID))
  let center ← required (← account (.getCenter tenantID req.centerID))
  let allowed ← accountCenterAccess tenantID actor req.centerID
  rejectIf (!allowed) .scopeForbidden
  return (preview, center)

def newImportJob (tenantID : String) (actor : Actor) (preview : ImportPreview) : ImportJob where
  tenantID := tenantID
  userID := actor.userID
  previewID := preview.id
  spreadsheetID := preview.spreadsheetID
  sheetName := preview.sheetName
  sheetRange := preview.range

def commitGoogleSheetImport (provisioning : Bool) (tenantID : String) (actor : Actor) (req : GoogleSheetCommitRequest) :
    AccountCall GoogleSheetCommitResponse := do
  rejectIf (!provisioning) .studentAccountProvisioningUnavailable
  let (preview, center) ← importTarget tenantID actor req
  let job ← req.rows.foldlM (commitRow tenantID center.id req.classID preview.rows) (newImportJob tenantID actor preview)
  let jobID ← account (.createImportJob job)
  return ⟨jobID.hex, job.created, job.skipped, job.duplicates, job.credentials⟩

/-! ## A list of rows -/

def maxBulkStudentAccountRows : ℕ := 500

def bulkProfile (row : BulkCreateStudentAccountRow) : Except LmsError NormalizedStudentProfile :=
  normalizeStudentProfile
    { studentCode := row.studentCode, fullName := trimSpace row.fullName, email := row.email, gender := row.gender,
      phone := row.phone, address := row.address, parentName := row.parentName, parentPhone := row.parentPhone,
      parentEmail := row.parentEmail, parentRelationship := row.parentRelationship, note := row.note }

/-- The part of the loop that creates the account. -/
def provisionBulkRow (tenantID : String) (state : BulkState) (rowID : String) (row : BulkCreateStudentAccountRow)
    (ready : ReadyRow) : AccountCall BulkState := do
  let username := ready.username
  if ← account (.usernameExists tenantID username) then
    return { state with result := state.result.failDuplicate rowID "student username already exists" }
  else
    match ← caught (createStudentAuthUser tenantID ready.profile.fullName username ready.password ready.profile.phone
        row.birthday) with
    | .error err =>
      if err = errDuplicateEmail then
        return { state with result := state.result.failDuplicate rowID "student account username already exists" }
      else throw err
    | .ok userID =>
      match ← caught (account (.createStudent (newStudent tenantID ready.class' ready.profile username userID.hex
          row.birthday row.enrollmentDate "active"))) with
      | .error err =>
        let _ ← caught (account (.deleteUserByID userID))
        return { state with result := state.result.fail rowID "student_create_failed" err.text }
      | .ok student =>
        return { state with
          createdStudents := state.createdStudents ++ [student]
          result := { state.result with
            created := state.result.created + 1
            credentials := state.result.credentials ++
              [⟨rowID, row.rowNumber, student.id.hex, username, ready.password⟩] } }

def invalidUsernameMessage : String :=
  "username must be 3-64 characters and contain only lowercase letters, numbers, dot, underscore, or hyphen"

def weakPasswordMessage : String := "password must be 8-128 characters and cannot contain username or student name"

def rowPassword (password : String) : AccountCall String :=
  if trimSpace password = "" then secureTempPassword else return trimSpace password

/-- The rest of a turn, for a row with a profile and a username. -/
def bulkAccountRow (tenantID : String) (centerID : ObjectID) (classID : String) (state : BulkState) (rowID : String)
    (row : BulkCreateStudentAccountRow) (profile : NormalizedStudentProfile) (username password : String) :
    AccountCall BulkState :=
  match state.usernamesInRequest.lookup username with
  | some previousRowID =>
    return { state with result := state.result.failDuplicate rowID ("student username duplicates row " ++ previousRowID) }
  | none =>
    let state := { state with usernamesInRequest := (username, rowID) :: state.usernamesInRequest }
    match validateStudentPassword password username profile.fullName with
    | .error _ => return { state with result := state.result.fail rowID "weak_password" weakPasswordMessage }
    | .ok _ => do
      match ← caught (resolveImportClass tenantID centerID (firstNonEmpty [row.classID, classID]) row.className) with
      | .error err => return { state with result := state.result.fail rowID "class_not_found" err.text }
      | .ok class' => provisionBulkRow tenantID state rowID row ⟨class', profile, username, password⟩

/-- One turn of the loop. -/
def bulkRow (tenantID : String) (centerID : ObjectID) (classID : String) (state : BulkState)
    (row : BulkCreateStudentAccountRow) : AccountCall BulkState :=
  let rowID := firstNonEmpty [row.rowID, "row-" ++ toString row.rowNumber]
  if row.included = some false then
    return { state with result := { state.result with skipped := state.result.skipped + 1 } }
  else do
    let username := normalizeStudentUsername row.username
    let password ← rowPassword row.password
    match bulkProfile row with
    | .error _ => return { state with result := state.result.fail rowID "invalid_profile" "invalid student profile fields" }
    | .ok profile =>
      if profile.fullName = "" || username = "" then
        return { state with result := state.result.fail rowID "invalid_row" "missing fullName or username" }
      else
        match validateStudentUsername username with
        | .error _ => return { state with result := state.result.fail rowID "invalid_username" invalidUsernameMessage }
        | .ok _ => bulkAccountRow tenantID centerID classID state rowID row profile username password

def bulkCreateStudentAccounts (provisioning : Bool) (tenantID : String) (actor : Actor)
    (req : BulkCreateStudentAccountsRequest) : AccountCall BulkCreateStudentAccountsResponse := do
  rejectIf (!provisioning) .studentAccountProvisioningUnavailable
  rejectIf (req.rows.isEmpty || req.rows.length > maxBulkStudentAccountRows) .invalidStudentAccountPayload
  let center ← required (← account (.getCenter tenantID req.centerID))
  let allowed ← accountCenterAccess tenantID actor req.centerID
  rejectIf (!allowed) .scopeForbidden
  let state ← req.rows.foldlM (bulkRow tenantID center.id req.classID) {}
  let students ← state.createdStudents.mapM (showStudent tenantID)
  return { state.result with students := students }

end Service

end ErgGo.Lms
