import ErgGo.Lms.AttemptService
import ErgGo.Lms.ContentRepository

/-!
# The content service

Listing, creating and updating questions and quizzes, and publishing quizzes.
-/

namespace ErgGo.Lms
open Go Documents Concurrent Program

structure QuizResponse where
  id : String
  scope : ContentScope
  title : String
  kind : String
  subjectID : String
  levelID : String
  topicIDs : List String
  questionIDs : List String
  status : String
  version : ℤ
  packageHash : String
  createdAt : Time
  updatedAt : Time

structure QuizDetailResponse where
  quiz : QuizResponse
  slides : Option (List JsonValue)
  settings : Option JsonObject
  result : Option JsonObject
  theme : Option JsonObject

structure QuizPackageResponse where
  version : ℤ
  packageHash : String
  contentHash : String
  gradingMode : String
  quiz : QuizDetailResponse

structure PublishQuizResponse where
  version : ℤ
  packageHash : String

structure QuestionResponse where
  id : String
  scope : ContentScope
  subjectID : String
  levelID : String
  topicID : String
  kind : String
  type : String
  stem : String
  choices : List QuestionChoice
  answer : JsonValue
  metadata : Option JsonObject
  status : String
  createdAt : Time
  updatedAt : Time

structure QuestionListResponse where
  items : List QuestionResponse
  total : ℤ
  nextCursor : String

structure QuizListResponse where
  items : List QuizResponse
  total : ℤ
  nextCursor : String

structure CreateQuestionRequest where
  scope : ContentScope
  subjectID : String
  levelID : String
  topicID : String := ""
  kind : String := ""
  type : String := ""
  stem : String
  choices : List QuestionChoice := []
  answer : JsonValue := .null
  metadata : Option JsonObject := none

structure UpdateQuestionRequest where
  scope : Option ContentScope := none
  topicID : Option String := none
  kind : Option String := none
  type : Option String := none
  stem : Option String := none
  choices : Option (List QuestionChoice) := none
  answer : JsonValue := .null
  metadata : Option JsonObject := none

structure QuestionListRequest where
  scope : ContentScope := {}
  subjectID : String := ""
  levelID : String := ""
  topicID : String := ""
  keyword : String := ""
  type : String := ""
  cursor : String := ""
  limit : ℤ := 0

structure QuizListRequest where
  scope : ContentScope := {}
  subjectID : String := ""
  levelID : String := ""
  kind : String := ""
  keyword : String := ""
  cursor : String := ""
  limit : ℤ := 0

structure RandomPickQuestionsRequest where
  subjectID : String
  levelID : String
  topicIDs : List String := []
  count : ℤ
  excludeQuestionIDs : List String := []

structure CreateQuizRequest where
  scope : ContentScope
  title : String
  kind : String
  subjectID : String
  levelID : String
  topicIDs : List String := []
  questionIDs : List String := []
  settings : Option JsonObject := none
  themeID : String := ""

structure CreateQuizFromQuestionsRequest where
  questionIDs : List String
  title : String
  kind : String
  settings : Option JsonObject := none

structure RandomQuizTopicRule where
  topicID : String
  count : ℤ

structure CreateRandomQuizRequest where
  subjectID : String
  levelID : String
  topicRules : List RandomQuizTopicRule := []
  kind : String
  settings : Option JsonObject := none

structure UpdateQuizRequest where
  slides : Option (List JsonValue) := none
  settings : Option JsonObject := none
  result : Option JsonObject := none
  theme : Option JsonObject := none

/-- A value `hashAny` encodes and hashes: the detail of a quiz, or the map of `hashQuiz`. -/
inductive HashedContent where
  | detail (detail : QuizDetailResponse)
  | publication (quiz : String) (version : ℤ) (questions : List String) (time : Time)

/-- `hashAny`: SHA-256 of the JSON encoding, in hexadecimal. -/
class ContentHash where
  hashAny : HashedContent → String

export ContentHash (hashAny)

def maxQuestionStemLength : ℕ := 4000

def maxChoiceCount : ℕ := 20

def maxChoiceLabelLength : ℕ := 1000

def maxQuizTitleLength : ℕ := 240

def maxQuizJSONBytes : ℕ := 128 * 1024

def hasControlChars (value : String) : Bool :=
  value.toList.any (fun c => isControl c && c ≠ '\n' && c ≠ '\r' && c ≠ '\t')

/-- The loop over the labels, with the ids seen so far. -/
def validateChoiceLabels (seen : List String) : List QuestionChoice → Except LmsError Unit
  | [] => .ok ()
  | choice :: rest =>
    let id := trimSpace choice.id
    let label := trimSpace choice.label
    if id = "" ∨ label = "" ∨ id ∈ seen ∨ label.length > maxChoiceLabelLength ∨ hasControlChars label then
      .error .invalidContentPayload
    else validateChoiceLabels (id :: seen) rest

def questionKindAliases : List (String × String) :=
  [("single", "single_choice"), ("single_choice", "single_choice"), ("single-choice", "single_choice"),
    ("choice", "single_choice"), ("multiple", "multiple_choice"), ("multiple_choice", "multiple_choice"),
    ("multiple-choice", "multiple_choice"), ("mcq", "multiple_choice"), ("true_false", "true_false"),
    ("true-false", "true_false"), ("boolean", "true_false"), ("short", "short_answer"),
    ("short_answer", "short_answer"), ("short-answer", "short_answer"), ("text", "short_answer"),
    ("essay", "essay"), ("ordering", "ordering"), ("matching", "matching")]

section Validation

variable [Library]

def validateChoiceQuestion (choices : List QuestionChoice) (answer : JsonValue) (exactCorrect : ℕ) :
    Except LmsError Unit := do
  rejectIf (choices.length < 2 || choices.length > maxChoiceCount) .invalidContentPayload
  validateChoiceLabels [] choices
  let correct := choices.countP QuestionChoice.correct
  rejectIf (exactCorrect > 0 && correct ≠ exactCorrect) .invalidContentPayload
  rejectIf (exactCorrect = 0 && correct = 0) .invalidContentPayload
  match answer with
  | .null => return ()
  | answer => rejectIf (jsonSize answer > maxChoiceLabelLength * maxChoiceCount) .invalidContentPayload

def validateQuestionAnswer (kind : String) (choices : List QuestionChoice) (answer : JsonValue) :
    Except LmsError Unit :=
  match kind with
  | "single_choice" => validateChoiceQuestion choices answer 1
  | "multiple_choice" => validateChoiceQuestion choices answer 0
  | "true_false" => match answer with
    | .bool _ => .ok ()
    | .null => .ok ()
    | .string value => rejectIf (!(equalFold value "true" || equalFold value "false")) .invalidContentPayload
    | _ => .error .invalidContentPayload
  | "short_answer" | "essay" => match answer with
    | .null => .ok ()
    | .string value => rejectIf (value.length > maxChoiceLabelLength || hasControlChars value) .invalidContentPayload
    | _ => .error .invalidContentPayload
  | "ordering" | "matching" => do
    rejectIf (choices.length = 0 || choices.length > maxChoiceCount) .invalidContentPayload
    validateChoiceLabels [] choices
  | _ => .error .invalidContentPayload

def validateQuestionPayload (kind stem : String) (choices : List QuestionChoice) (answer : JsonValue)
    (metadata : Option JsonObject) : Except LmsError Unit := do
  let stem := trimSpace stem
  rejectIf (stem = "" || stem.length > maxQuestionStemLength || hasControlChars stem) .invalidContentPayload
  rejectIf (metadata.any (fun metadata => jsonSize (.object metadata) > maxQuizJSONBytes)) .invalidContentPayload
  validateQuestionAnswer kind choices answer

def validateQuizPayload (title : String) (slides : Option (List JsonValue)) (settings result theme : Option JsonObject) :
    Except LmsError Unit := do
  let title := trimSpace title
  rejectIf (title = "" || title.length > maxQuizTitleLength || hasControlChars title) .invalidContentPayload
  rejectIf ((slides.getD []).length > 200 || jsonSize (slides.elim .null .array) > maxQuizJSONBytes ||
    jsonSize (objectJSON settings) > maxQuizJSONBytes || jsonSize (objectJSON result) > maxQuizJSONBytes ||
    jsonSize (objectJSON theme) > maxQuizJSONBytes) .invalidContentPayload

def normalizeQuestionKind (kind : String) : Except LmsError String :=
  let key := (toLower (trimSpace kind)).map (fun c => if c = ' ' then '_' else c)
  match questionKindAliases.lookup key with
  | some normalized => .ok normalized
  | none => .error (.invalidQuestionKind kind)

def questionKindFromDTO (kind type : String) : Except LmsError String :=
  if trimSpace kind ≠ "" then normalizeQuestionKind kind else normalizeQuestionKind type

/-- The id a filter is restricted to, if the request names one. -/
def filterID (id : String) : Except LmsError (Option ObjectID) :=
  if id = "" then .ok none else (objectID id).map some

def questionFilter (req : QuestionListRequest) : Except LmsError QuestionFilter := do
  let subjectID ← filterID req.subjectID
  let levelID ← filterID req.levelID
  let topicID ← filterID req.topicID
  let type ← if req.type = "" then pure none else (normalizeQuestionKind req.type).map some
  return { subjectID := subjectID, levelID := levelID, topicID := topicID, type := type, keyword := req.keyword }

def randomQuestionFilter (req : RandomPickQuestionsRequest) : Except LmsError QuestionFilter := do
  let filter ← questionFilter { subjectID := req.subjectID, levelID := req.levelID }
  return { filter with
    topicIDs := if req.topicIDs.isEmpty then none else some (objectIDsOrNil req.topicIDs)
    excludedIDs := if req.excludeQuestionIDs.isEmpty then none else some (objectIDsOrNil req.excludeQuestionIDs) }

def quizFilter (req : QuizListRequest) : Except LmsError QuizFilter := do
  let subjectID ← filterID req.subjectID
  let levelID ← filterID req.levelID
  return { subjectID := subjectID, levelID := levelID, kind := if req.kind = "" then none else some req.kind,
           keyword := req.keyword }

end Validation

def questionToDTO (q : Question) : QuestionResponse where
  id := q.id.hex
  scope := q.scope
  subjectID := q.subjectID.hex
  levelID := q.levelID.hex
  topicID := if q.topicID = .nil then "" else q.topicID.hex
  kind := q.type
  type := q.type
  stem := q.stem
  choices := q.choices
  answer := q.answer
  metadata := q.metadata
  status := q.status
  createdAt := q.createdAt
  updatedAt := q.updatedAt

def quizToDTO (q : QuizDocument) : QuizResponse where
  id := q.id.hex
  scope := q.scope
  title := q.title
  kind := q.kind
  subjectID := q.subjectID.hex
  levelID := q.levelID.hex
  topicIDs := q.topicIDs.map ObjectID.hex
  questionIDs := q.questionIDs.map ObjectID.hex
  status := q.status
  version := q.version
  packageHash := q.packageHash
  createdAt := q.createdAt
  updatedAt := q.updatedAt

def quizDetailToDTO (q : QuizDocument) : QuizDetailResponse :=
  ⟨quizToDTO q, q.slides, q.settings, q.result, q.theme⟩

def hashQuiz [ContentHash] (q : QuizDocument) (version : ℤ) (time : Time) : String :=
  hashAny (.publication q.id.hex version (q.questionIDs.map ObjectID.hex) time)

def quizPackageFromQuiz [ContentHash] (quiz : QuizDocument) : QuizPackageResponse :=
  let detail := quizDetailToDTO quiz
  let hash := if quiz.packageHash = "" then hashAny (.detail detail) else quiz.packageHash
  ⟨quiz.version, hash, hash, "server", detail⟩

def quizFromCreateReq (tenantID : String) (req : CreateQuizRequest) : Except LmsError QuizDocument := do
  let subjectID ← objectID req.subjectID
  let levelID ← objectID req.levelID
  return { id := .nil, tenantID := tenantID, subjectID := subjectID, scope := req.scope, title := req.title,
           kind := req.kind, levelID := levelID, topicIDs := objectIDsOrNil req.topicIDs,
           questionIDs := objectIDsOrNil req.questionIDs, settings := req.settings, themeID := req.themeID }

/-- The fields an update request sets, past the checks of its scope. -/
def questionUpdate [Library] (req : UpdateQuestionRequest) : Except LmsError QuestionUpdate := do
  let topicID ← match req.topicID with
    | none => pure none
    | some id => if id = "" then pure (some ObjectID.nil) else (objectID id).map some
  let type ← match req.kind <|> req.type with
    | none => pure none
    | some kind => (normalizeQuestionKind kind).map some
  return { scope := req.scope, topicID := topicID, type := type, stem := req.stem, choices := req.choices,
           answer := match req.answer with
             | .null => none
             | answer => some answer
           metadata := req.metadata }

/-- The check of an update: its fields, and for those it does not set the ones read before. -/
def validateQuestionUpdate [Library] (existing : Question) (update : QuestionUpdate) : Except LmsError Unit :=
  validateQuestionPayload (update.type.getD existing.type) (update.stem.getD existing.stem)
    (update.choices.getD existing.choices) (update.answer.getD existing.answer)
    (update.metadata <|> existing.metadata)

namespace ContentService

variable [Library]

def canAccessCenter (tenantID : String) (actor : Actor) (centerID : String) : Program ContentRequest ContentReply Bool :=
  Lms.canAccessCenter (fun id => (ContentRepository.getCenter tenantID id).run) actor centerID

def validateContentScope (tenantID : String) (actor : Actor) (scope : ContentScope) : ContentCall Unit :=
  if scope.type = "global" then rejectIf (!actor.canAccessGlobal) .scopeForbidden
  else if scope.type = "center" ∧ scope.centerID ≠ "" then do
    let allowed ← ExceptT.lift (canAccessCenter tenantID actor scope.centerID)
    rejectIf (!(allowed || actor.canAccessGlobal)) .scopeForbidden
  else rejectIf (!actor.canAccessGlobal) .scopeForbidden

/-- The scope part of a filter: its type and center. -/
def applyScopeFilter (tenantID : String) (actor : Actor) (scope : ContentScope) :
    ContentCall (Option String × Option String) :=
  if scope.type ≠ "" then do
    validateContentScope tenantID actor scope
    return (some scope.type, if scope.centerID ≠ "" then some scope.centerID else none)
  else return (if actor.canAccessGlobal then none else some "center", none)

def listQuestions (tenantID : String) (actor : Actor) (req : QuestionListRequest) :
    ContentCall QuestionListResponse := do
  let filter ← questionFilter req
  let (type, centerID) ← applyScopeFilter tenantID actor req.scope
  let (items, total, next) ← content (.listQuestions tenantID
    { filter with scopeType := type, scopeCenterID := centerID } req.cursor req.limit)
  return ⟨items.map questionToDTO, total, next⟩

def listQuizzes (tenantID : String) (actor : Actor) (req : QuizListRequest) : ContentCall QuizListResponse := do
  let filter ← quizFilter req
  let (type, centerID) ← applyScopeFilter tenantID actor req.scope
  let (items, total, next) ← content (.listQuizzes tenantID
    { filter with scopeType := type, scopeCenterID := centerID } req.cursor req.limit)
  return ⟨items.map quizToDTO, total, next⟩

def createQuestion (tenantID : String) (actor : Actor) (req : CreateQuestionRequest) :
    ContentCall QuestionResponse := do
  validateContentScope tenantID actor req.scope
  let kind ← questionKindFromDTO req.kind req.type
  validateQuestionPayload kind req.stem req.choices req.answer req.metadata
  let subjectID ← objectID req.subjectID
  let levelID ← objectID req.levelID
  let topicID ← filterID req.topicID
  let q ← ContentRepository.createQuestion
    { tenantID := tenantID, scope := req.scope, subjectID := subjectID, levelID := levelID,
      topicID := topicID.getD .nil, type := kind, stem := req.stem, choices := req.choices, answer := req.answer,
      metadata := req.metadata }
  return questionToDTO q

/-- The check of the scope a request moves the question to. -/
def validateNewScope (tenantID : String) (actor : Actor) (scope : Option ContentScope) : ContentCall Unit :=
  match scope with
  | some scope => validateContentScope tenantID actor scope
  | none => return ()

def updateQuestion (b : Backend) (tenantID : String) (actor : Actor) (id : String) (req : UpdateQuestionRequest) :
    ContentCall QuestionResponse := do
  let existing ← required (← ContentRepository.getQuestion tenantID id)
  validateContentScope tenantID actor existing.scope
  validateNewScope tenantID actor req.scope
  let update ← questionUpdate req
  validateQuestionUpdate existing update
  let q ← dereference (← ContentRepository.updateQuestion b tenantID id update)
  return questionToDTO q

def archiveQuestion (b : Backend) (tenantID : String) (actor : Actor) (id : String) : ContentCall Time := do
  let existing ← required (← ContentRepository.getQuestion tenantID id)
  validateContentScope tenantID actor existing.scope
  let now ← content .now
  let _ ← ContentRepository.updateQuestion b tenantID id { status := some "archived", archivedAt := some now }
  return now

def randomPickQuestions (tenantID : String) (req : RandomPickQuestionsRequest) : ContentCall (List Question) := do
  let filter ← randomQuestionFilter req
  content (.sampleQuestions tenantID filter req.count)

def createQuiz (tenantID : String) (actor : Actor) (req : CreateQuizRequest) : ContentCall QuizResponse := do
  validateContentScope tenantID actor req.scope
  validateQuizPayload req.title none req.settings none none
  let quiz ← quizFromCreateReq tenantID req
  let quiz ← ContentRepository.createQuiz quiz
  return quizToDTO quiz

def createQuizFromQuestions (tenantID : String) (actor : Actor) (req : CreateQuizFromQuestionsRequest) :
    ContentCall QuizResponse :=
  match req.questionIDs with
  | [] => throw (.message "questionIds required")
  | firstID :: _ => do
    let first ← required (← ContentRepository.getQuestion tenantID firstID)
    validateContentScope tenantID actor first.scope
    validateQuizPayload req.title none req.settings none none
    let quiz ← ContentRepository.createQuiz
      { id := .nil, tenantID := tenantID, subjectID := first.subjectID, scope := first.scope, title := req.title,
        kind := req.kind, levelID := first.levelID, questionIDs := objectIDsOrNil req.questionIDs,
        settings := req.settings }
    return quizToDTO quiz

def createRandomQuiz (tenantID : String) (actor : Actor) (req : CreateRandomQuizRequest) : ContentCall QuizResponse := do
  let picked ← req.topicRules.mapM (fun rule => randomPickQuestions tenantID
    { subjectID := req.subjectID, levelID := req.levelID, topicIDs := [rule.topicID], count := rule.count })
  createQuiz tenantID actor
    { scope := { type := "global" }, title := "Random quiz", kind := req.kind, subjectID := req.subjectID,
      levelID := req.levelID, topicIDs := req.topicRules.map RandomQuizTopicRule.topicID,
      questionIDs := picked.flatten.map (fun q => q.id.hex), settings := req.settings }

def updateQuiz (b : Backend) (tenantID id : String) (req : UpdateQuizRequest) : ContentCall QuizDetailResponse := do
  let existing ← required (← ContentRepository.getQuiz tenantID id)
  validateQuizPayload existing.title req.slides req.settings req.result req.theme
  let quiz ← required (← ContentRepository.updateQuiz b tenantID id
    { slides := some req.slides, settings := some req.settings, result := some req.result, theme := some req.theme })
  return quizDetailToDTO quiz

/-- The audit event that follows is left out. -/
def publishQuiz [ContentHash] (b : Backend) (tenantID id : String) : ContentCall PublishQuizResponse := do
  let quiz ← required (← ContentRepository.getQuiz tenantID id)
  let hash := hashQuiz quiz (quiz.version + 1) (← content .now)
  let now ← content .now
  let _ ← ContentRepository.updateQuiz b tenantID id
    { status := some "published", version := some (quiz.version + 1), packageHash := some hash, publishedAt := some now }
  return ⟨quiz.version + 1, hash⟩

def quizPackage [ContentHash] (tenantID id : String) : ContentCall QuizPackageResponse := do
  let quiz ← required (← ContentRepository.getQuiz tenantID id)
  return quizPackageFromQuiz quiz

end ContentService

end ErgGo.Lms
