import ErgGo.Lms.AttemptRepository

/-!
# Assignments and attempts

The service calls that create assignments and that start, fill, submit and synchronise
attempts, as programs over repository requests.
-/

namespace ErgGo.Lms
open Go Documents Concurrent

variable [Library]

def maxAttemptAnswers : ℕ := 500

def maxAttemptEvents : ℕ := 1000

def maxAttemptJSONBytes : ℕ := 256 * 1024

structure CreateAssignmentRequest where
  classID : String
  quizIDs : List String
  recipientMode : String
  studentIDs : List String := []
  dueAt : Option Time := none
  teacherNote : String := ""

structure AssignmentBatchResponse where
  assignmentIDs : List String
  recipientCount : ℕ

structure StartAttemptRequest where
  assignmentID : String
  quizID : String
  packageID : String
  packageHash : String

structure SaveAnswerRequest where
  answer : JsonValue := .null
  clientResult : Option JsonObject := none
  answeredAt : Option Time := none

structure AnswerResultResponse where
  attemptID : String
  questionID : String
  saved : Bool

structure SubmitAttemptRequest where
  answers : Option (GoMap JsonValue) := none
  submittedAt : Option Time := none

structure AttemptSubmitResponse where
  score : Float64
  maxScore : Float64
  percent : Float64
  passed : Bool
  deriving DecidableEq

structure AttemptSyncRequest where
  packageHash : String
  quizVersion : String := ""
  attempt : JsonObject := []
  events : Option (List JsonObject) := none
  client : Option JsonObject := none

structure AttemptResponse where
  id : String
  assignmentID : String
  quizID : String
  studentID : String
  packageID : String
  packageHash : String
  status : String
  answers : GoMap AttemptAnswer
  score : Float64
  maxScore : Float64
  percent : Float64
  passed : Bool
  startedAt : Time
  submittedAt : Option Time
  updatedAt : Time

structure AttemptSyncResponse where
  status : String
  serverAttempt : AttemptResponse

def attemptToDTO (a : Attempt) : AttemptResponse where
  id := a.id.hex
  assignmentID := a.assignmentID.hex
  quizID := a.quizID.hex
  studentID := a.studentID.hex
  packageID := a.packageID
  packageHash := a.packageHash
  status := a.status
  answers := a.answers
  score := a.score
  maxScore := a.maxScore
  percent := a.percent
  passed := a.passed
  startedAt := a.startedAt
  submittedAt := a.submittedAt
  updatedAt := a.updatedAt

/-- The size of a JSON encoding; what cannot be encoded counts as too large. -/
def jsonSize (value : JsonValue) : ℕ := (Library.marshalLength value).getD (maxAttemptJSONBytes + 1)

/-- The encoding of a slice of objects, where a nil slice is `null`. -/
def eventsJSON (events : Option (List JsonObject)) : JsonValue :=
  events.elim .null (fun events => .array (events.map .object))

def objectJSON (object : Option JsonObject) : JsonValue := object.elim .null .object

def validateAttemptPayload (answers : Option (GoMap JsonValue)) (events : Option (List JsonObject))
    (client : Option JsonObject) : Except LmsError Unit :=
  let entries := (answers.getD ∅).pairs
  if entries.length > maxAttemptAnswers ∨ (events.getD []).length > maxAttemptEvents then
    .error .invalidContentPayload
  else if jsonSize (objectJSON (answers.map GoMap.pairs)) > maxAttemptJSONBytes ∨
      jsonSize (eventsJSON events) > maxAttemptJSONBytes ∨ jsonSize (objectJSON client) > maxAttemptJSONBytes then
    .error .invalidContentPayload
  else if entries.all (fun entry => (objectID entry.1).isOk) then .ok ()
  else .error .invalidContentPayload

/-- A nil answer is not encoded at all. -/
def validateSingleAnswerPayload (answer : JsonValue) (clientResult : Option JsonObject) :
    Except LmsError Unit :=
  let answerSize := match answer with
    | .null => 0
    | answer => jsonSize answer
  if answerSize > maxAttemptJSONBytes ∨ jsonSize (objectJSON clientResult) > maxAttemptJSONBytes then
    .error .invalidContentPayload
  else .ok ()

def objectIDsOrNil (ids : List String) : List ObjectID := ids.filterMap (fun id => (objectID id).toOption)

/-- A nil record is `errNotFound`. -/
def required {α : Type} (found : Option α) : Except LmsError α :=
  match found with
  | some a => .ok a
  | none => .error .notFound

/-- Dereferencing nil panics. -/
def dereference {α : Type} (found : Option α) : Except LmsError α :=
  match found with
  | some a => .ok a
  | none => .error .runtimePanic

def rejectIf (condition : Bool) (err : LmsError) : Except LmsError Unit :=
  if condition then .error err else .ok ()

omit [Library] in
lemma required_ok {α : Type} {found : Option α} {a : α} (h : required found = .ok a) : found = some a := by
  cases found with
  | none => cases h
  | some a' =>
    cases h
    rfl

omit [Library] in
lemma rejectIf_ok {condition : Bool} {e : LmsError} {u : Unit} (h : rejectIf condition e = .ok u) :
    condition = false := by
  cases condition with
  | false => rfl
  | true => cases h

namespace Service

def canManageClass (tenantID : String) (actor : Actor) (class' : Class) : Program RepoRequest RepoReply Bool :=
  if actor.canAccessGlobal || class'.homeroomTeacherID = actor.userID then return true
  else canAccessCenter (fun id => Program.send (RepoRequest.getCenter tenantID id)) actor class'.centerID.hex

/-- One turn of the loop over the quizzes: the id of the assignment it creates. -/
def assignQuiz (tenantID : String) (actor : Actor) (req : CreateAssignmentRequest) (class' : Class)
    (recipients : List ObjectID) (quizID : String) : Call String := do
  let quiz ← required (← repo (.getQuiz tenantID quizID))
  let quizOID := (objectID quizID).toOption.getD .nil
  let assignment ← repo (.createAssignment
    { tenantID := tenantID, classID := class'.id, quizID := quizOID, subjectID := quiz.subjectID,
      studentIDs := recipients, dueAt := req.dueAt, teacherNote := req.teacherNote,
      assignedBy := actor.userID, recipientMode := req.recipientMode })
  return assignment.id.hex

def assignmentRecipients (tenantID : String) (req : CreateAssignmentRequest) : Call (List ObjectID) :=
  if req.recipientMode = "all" then do
    let (students, _, _) ← repo (.listStudents tenantID { classID := req.classID, limit := 100 } [] [])
    return students.map Student.id
  else return objectIDsOrNil req.studentIDs

def createAssignment (tenantID : String) (actor : Actor) (req : CreateAssignmentRequest) :
    Call AssignmentBatchResponse := do
  let class' ← required (← repo (.getClass tenantID req.classID))
  let allowed ← ExceptT.lift (canManageClass tenantID actor class')
  rejectIf (!allowed) .scopeForbidden
  let recipients ← assignmentRecipients tenantID req
  rejectIf recipients.isEmpty .emptyRecipient
  let ids ← req.quizIDs.mapM (assignQuiz tenantID actor req class' recipients)
  return ⟨ids, recipients.length⟩

def assignmentIncludesStudent (assignment : Assignment) (studentID : ObjectID) : Bool :=
  assignment.studentIDs.any (fun id => id = studentID)

/-- The error of the search is dropped. -/
def findActive (tenantID : String) (assignmentID quizID studentID : ObjectID) : Call (Option Attempt) :=
  tryCatch (repo (.findActiveAttempt tenantID assignmentID quizID studentID)) (fun _ => return none)

def startAttempt (tenantID : String) (actor : Actor) (req : StartAttemptRequest) : Call AttemptResponse := do
  let assignment ← required (← repo (.getAssignment tenantID req.assignmentID))
  let studentID ← (objectID actor.userID).mapError (fun _ => LmsError.scopeForbidden)
  rejectIf (!assignmentIncludesStudent assignment studentID) .scopeForbidden
  let assignmentID := (objectID req.assignmentID).toOption.getD .nil
  let quizID ← objectID req.quizID
  match ← findActive tenantID assignmentID quizID studentID with
  | some active => return attemptToDTO active
  | none =>
    let attempt : Attempt :=
      { tenantID := tenantID, assignmentID := assignmentID, quizID := quizID, studentID := studentID,
        packageID := req.packageID, packageHash := req.packageHash, maxScore := 100 }
    tryCatch (do return attemptToDTO (← repo (.createAttempt attempt))) (fun err => do
      match ← findActive tenantID assignmentID quizID studentID with
      | some active => return attemptToDTO active
      | none => throw err)

def attemptAnswer (questionID : String) (req : SaveAnswerRequest) : AttemptAnswer where
  questionID := questionID
  answer := req.answer
  clientResult := req.clientResult
  answeredAt := req.answeredAt

def saveAnswer (tenantID attemptID questionID : String) (req : SaveAnswerRequest) :
    Call AnswerResultResponse := do
  validateSingleAnswerPayload req.answer req.clientResult
  let attempt ← required (← repo (.getAttempt tenantID attemptID))
  rejectIf (attempt.status = "submitted") .attemptDone
  let updated ← required (← repo
    (.saveAttemptAnswer tenantID attemptID questionID (attemptAnswer questionID req)))
  rejectIf (updated.status = "submitted") .attemptDone
  return ⟨attemptID, questionID, true⟩

def maxScore : Float64 := 100

/-- The score of a number of answers and its percentage. -/
def attemptScore (answers : ℕ) : Float64 × Float64 :=
  let score := Float64.ofLen answers
  let score := if score > maxScore then maxScore else score
  (score, score / maxScore * 100)

def attemptSubmitResult (attempt : Attempt) : AttemptSubmitResponse :=
  if attempt.maxScore > 0 ∧ (attempt.score > 0 ∨ attempt.answers.len = 0) then
    ⟨attempt.score, attempt.maxScore, attempt.percent, attempt.passed⟩
  else
    let (score, percent) := attemptScore attempt.answers.len
    ⟨score, maxScore, percent, percent ≥ 50⟩

/-- The `$set` of `UpdateAttemptScore`. -/
def scoreUpdate (answers : ℕ) : AttemptUpdate :=
  let (score, percent) := attemptScore answers
  { score := some score, maxScore := some maxScore, percent := some percent, passed := some (percent ≥ 50) }

def scoreSubmittedAttempt (tenantID attemptID : String) (attempt : Attempt) : Call (Option Attempt) :=
  repo (.updateAttempt tenantID attemptID (scoreUpdate attempt.answers.len))

def submitAttempt (tenantID attemptID : String) (now : Time) (req : SubmitAttemptRequest) :
    Call AttemptSubmitResponse := do
  validateAttemptPayload req.answers none none
  let attempt ← required (← repo (.getAttempt tenantID attemptID))
  if attempt.status = "submitted" then return attemptSubmitResult attempt
  else
    let answers : List (String × AttemptAnswer) := (req.answers.getD ∅).pairs.map
      (fun entry => (entry.1, { questionID := entry.1, answer := entry.2 }))
    let (updated, didSubmit) ← repo (.submitAttempt tenantID attemptID answers (req.submittedAt.getD now))
    let updated ← required updated
    if !didSubmit && updated.status = "submitted" then return attemptSubmitResult updated
    else
      let scored ← dereference (← scoreSubmittedAttempt tenantID attemptID updated)
      return attemptSubmitResult scored

def ensureActorCanAccessAttempt (actor : Actor) (attempt : Attempt) : Except LmsError Unit :=
  rejectIf (!(actor.userID ≠ "" && actor.userID = attempt.studentID.hex)) .scopeForbidden

def saveAttemptDraft (tenantID : String) (actor : Actor) (attemptID : String) (req : AttemptDraftRequest) :
    Call AttemptResponse := do
  validateAttemptPayload req.answers req.events req.client
  let attempt ← required (← repo (.getAttempt tenantID attemptID))
  ensureActorCanAccessAttempt actor attempt
  rejectIf (attempt.status = "submitted") .attemptDone
  rejectIf (req.packageHash ≠ "" && attempt.packageHash ≠ req.packageHash) .hashMismatch
  let updated ← required (← repo (.saveAttemptDraft tenantID attemptID req))
  rejectIf (updated.status = "submitted") .attemptDone
  return attemptToDTO updated

/-- The status a synchronisation writes, given the attempt it has read. -/
def syncStatus (req : AttemptSyncRequest) (attempt : Attempt) : Option String :=
  match req.attempt.lookup "status" with
  | some (.string status) => if status ≠ "" && attempt.status ≠ "submitted" then some status else none
  | _ => none

def syncUpdate (req : AttemptSyncRequest) (attempt : Attempt) : AttemptUpdate where
  quizVersion := some req.quizVersion
  events := some req.events
  client := some req.client
  status := syncStatus req attempt

def syncAttempt (tenantID attemptID : String) (req : AttemptSyncRequest) : Call AttemptSyncResponse := do
  validateAttemptPayload none req.events req.client
  let attempt ← required (← repo (.getAttempt tenantID attemptID))
  rejectIf (attempt.packageHash ≠ req.packageHash) .hashMismatch
  let updated ← dereference (← repo (.updateAttempt tenantID attemptID (syncUpdate req attempt)))
  return ⟨"synced", attemptToDTO updated⟩

def saveAnswerForActor (tenantID : String) (actor : Actor) (attemptID questionID : String)
    (req : SaveAnswerRequest) : Call AnswerResultResponse := do
  let attempt ← required (← repo (.getAttempt tenantID attemptID))
  ensureActorCanAccessAttempt actor attempt
  saveAnswer tenantID attemptID questionID req

def submitAttemptForActor (tenantID : String) (actor : Actor) (attemptID : String) (now : Time)
    (req : SubmitAttemptRequest) : Call AttemptSubmitResponse := do
  let attempt ← required (← repo (.getAttempt tenantID attemptID))
  ensureActorCanAccessAttempt actor attempt
  if attempt.status = "submitted" then return attemptSubmitResult attempt
  else submitAttempt tenantID attemptID now req

def syncAttemptForActor (tenantID : String) (actor : Actor) (attemptID : String) (req : AttemptSyncRequest) :
    Call AttemptSyncResponse := do
  let attempt ← required (← repo (.getAttempt tenantID attemptID))
  ensureActorCanAccessAttempt actor attempt
  syncAttempt tenantID attemptID req

end Service

end ErgGo.Lms
