import ErgGo.Lms.AttemptRepository

/-!
# Questions and quizzes

The records of the question and quiz banks and their repository. An update sets single fields
of a document, whatever the document holds by then; between the requests of a call other
calls may run.
-/

namespace ErgGo.Lms
open Go Documents Concurrent

/-- The scope of a question or quiz, in a record and in a request. -/
@[ext]
structure ContentScope where
  type : String := ""
  centerID : String := ""
  deriving DecidableEq

structure QuestionChoice where
  id : String
  label : String
  correct : Bool := false
  deriving DecidableEq

/-- A nil answer is the JSON null. -/
structure Question where
  id : ObjectID := .nil
  tenantID : String
  scope : ContentScope := {}
  subjectID : ObjectID := .nil
  levelID : ObjectID := .nil
  topicID : ObjectID := .nil
  type : String
  stem : String
  choices : List QuestionChoice := []
  answer : JsonValue := .null
  metadata : Option JsonObject := none
  status : String := ""
  archivedAt : Option Time := none
  createdAt : Time := 0
  updatedAt : Time := 0

/-- A quiz with all its fields. -/
structure QuizDocument extends Quiz where
  scope : ContentScope := {}
  title : String
  kind : String := ""
  levelID : ObjectID := .nil
  topicIDs : List ObjectID := []
  questionIDs : List ObjectID := []
  slides : Option (List JsonValue) := none
  settings : Option JsonObject := none
  result : Option JsonObject := none
  theme : Option JsonObject := none
  themeID : String := ""
  status : String := ""
  version : ℤ := 0
  packageHash : String := ""
  publishedAt : Option Time := none
  createdAt : Time := 0
  updatedAt : Time := 0

/-- The `$set` of a question: the fields it assigns. -/
structure QuestionUpdate where
  scope : Option ContentScope := none
  topicID : Option ObjectID := none
  type : Option String := none
  stem : Option String := none
  choices : Option (List QuestionChoice) := none
  answer : Option JsonValue := none
  metadata : Option JsonObject := none
  status : Option String := none
  archivedAt : Option Time := none

def QuestionUpdate.apply (u : QuestionUpdate) (now : Time) (q : Question) : Question :=
  { q with
    scope := u.scope.getD q.scope
    topicID := u.topicID.getD q.topicID
    type := u.type.getD q.type
    stem := u.stem.getD q.stem
    choices := u.choices.getD q.choices
    answer := u.answer.getD q.answer
    metadata := u.metadata <|> q.metadata
    status := u.status.getD q.status
    archivedAt := u.archivedAt <|> q.archivedAt
    updatedAt := now }

/-- The `$set` of a quiz. -/
structure QuizUpdate where
  slides : Option (Option (List JsonValue)) := none
  settings : Option (Option JsonObject) := none
  result : Option (Option JsonObject) := none
  theme : Option (Option JsonObject) := none
  status : Option String := none
  version : Option ℤ := none
  packageHash : Option String := none
  publishedAt : Option Time := none

def QuizUpdate.apply (u : QuizUpdate) (now : Time) (q : QuizDocument) : QuizDocument :=
  { q with
    slides := u.slides.getD q.slides
    settings := u.settings.getD q.settings
    result := u.result.getD q.result
    theme := u.theme.getD q.theme
    status := u.status.getD q.status
    version := u.version.getD q.version
    packageHash := u.packageHash.getD q.packageHash
    publishedAt := u.publishedAt <|> q.publishedAt
    updatedAt := now }

def Question.named (tenantID : String) (id : ObjectID) (q : Question) : Bool :=
  q.tenantID = tenantID && q.id = id

def QuizDocument.named (tenantID : String) (id : ObjectID) (q : QuizDocument) : Bool :=
  q.tenantID = tenantID && q.id = id

@[simp] lemma Question.named_apply (tenantID : String) (id : ObjectID) (u : QuestionUpdate) (now : Time)
    (q : Question) : (u.apply now q).named tenantID id = q.named tenantID id := rfl

@[simp] lemma QuizDocument.named_apply (tenantID : String) (id : ObjectID) (u : QuizUpdate) (now : Time)
    (q : QuizDocument) : (u.apply now q).named tenantID id = q.named tenantID id := rfl

/-- The filter of a question list, as `questionFilter`, `randomQuestionFilter` and
`applyScopeFilter` fill it. -/
structure QuestionFilter where
  subjectID : Option ObjectID := none
  levelID : Option ObjectID := none
  topicID : Option ObjectID := none
  topicIDs : Option (List ObjectID) := none
  excludedIDs : Option (List ObjectID) := none
  type : Option String := none
  keyword : String := ""
  scopeType : Option String := none
  scopeCenterID : Option String := none

structure QuizFilter where
  subjectID : Option ObjectID := none
  levelID : Option ObjectID := none
  kind : Option String := none
  keyword : String := ""
  scopeType : Option String := none
  scopeCenterID : Option String := none

def QuestionFilter.matches (f : QuestionFilter) (textMatches : String → Bool) (q : Question) : Bool :=
  f.subjectID.all (fun id => q.subjectID = id) && f.levelID.all (fun id => q.levelID = id) &&
  f.topicID.all (fun id => q.topicID = id) && f.topicIDs.all (fun ids => q.topicID ∈ ids) &&
  f.excludedIDs.all (fun ids => q.id ∉ ids) && f.type.all (fun type => q.type = type) &&
  (f.keyword = "" || textMatches q.stem) && f.scopeType.all (fun type => q.scope.type = type) &&
  f.scopeCenterID.all (fun id => q.scope.centerID = id)

def QuizFilter.matches (f : QuizFilter) (textMatches : String → Bool) (q : QuizDocument) : Bool :=
  f.subjectID.all (fun id => q.subjectID = id) && f.levelID.all (fun id => q.levelID = id) &&
  f.kind.all (fun kind => q.kind = kind) && (f.keyword = "" || textMatches q.title) &&
  f.scopeType.all (fun type => q.scope.type = type) && f.scopeCenterID.all (fun id => q.scope.centerID = id)

structure ContentStore where
  centers : Collection Center.id
  questions : List Question := []
  quizzes : List QuizDocument := []

namespace ContentStore

def findQuestion (s : ContentStore) (tenantID : String) (id : ObjectID) : Option Question :=
  s.questions.find? (Question.named tenantID id)

def findQuiz (s : ContentStore) (tenantID : String) (id : ObjectID) : Option QuizDocument :=
  s.quizzes.find? (QuizDocument.named tenantID id)

def findCenter (s : ContentStore) (tenantID : String) (id : ObjectID) : Option Center :=
  s.centers.find (fun center => center.tenantID = tenantID && center.id = id)

end ContentStore

/-- Single requests. The reply of an update is the document as it is then, of which the MongoDB
repository makes no use: it reads the document again. -/
inductive ContentRequest where
  | now
  | findCenter (tenantID : String) (id : ObjectID)
  | insertQuestion (question : Question)
  | findQuestion (tenantID : String) (id : ObjectID)
  | updateQuestion (tenantID : String) (id : ObjectID) (set : QuestionUpdate)
  | listQuestions (tenantID : String) (filter : QuestionFilter) (cursor : String) (limit : ℤ)
  | sampleQuestions (tenantID : String) (filter : QuestionFilter) (limit : ℤ)
  | insertQuiz (quiz : QuizDocument)
  | findQuiz (tenantID : String) (id : ObjectID)
  | updateQuiz (tenantID : String) (id : ObjectID) (set : QuizUpdate)
  | listQuizzes (tenantID : String) (filter : QuizFilter) (cursor : String) (limit : ℤ)

abbrev ContentResult : ContentRequest → Type
  | .now => Time
  | .findCenter .. => Option Center
  | .insertQuestion _ => Question
  | .findQuestion .. => Option Question
  | .updateQuestion .. => Option Question
  | .listQuestions .. => List Question × ℤ × String
  | .sampleQuestions .. => List Question
  | .insertQuiz _ => QuizDocument
  | .findQuiz .. => Option QuizDocument
  | .updateQuiz .. => Option QuizDocument
  | .listQuizzes .. => List QuizDocument × ℤ × String

abbrev ContentReply (q : ContentRequest) := Except LmsError (ContentResult q)

abbrev ContentCall := ExceptT LmsError (Program ContentRequest ContentReply)

def content (q : ContentRequest) : ContentCall (ContentResult q) := ExceptT.mk (.send q)

@[simp] lemma run_content (q : ContentRequest) : (content q).run = .send q := rfl

/-- Next to the clock and the ids, what `$sample` picks: positions among the documents that
match. -/
structure ContentEnv extends Env where
  sample : List ℕ := []

namespace ContentRepository

def getCenter (tenantID id : String) : ContentCall (Option Center) := do
  let oid ← objectID id
  content (.findCenter tenantID oid)

def createQuestion (q : Question) : ContentCall Question := content (.insertQuestion q)

def getQuestion (tenantID id : String) : ContentCall (Option Question) := do
  let oid ← objectID id
  content (.findQuestion tenantID oid)

def updateQuestion (b : Backend) (tenantID id : String) (update : QuestionUpdate) :
    ContentCall (Option Question) := do
  let oid ← objectID id
  let found ← content (.updateQuestion tenantID oid update)
  match b with
  | .memory => return found
  | .mongo => getQuestion tenantID id

def createQuiz (q : QuizDocument) : ContentCall QuizDocument := content (.insertQuiz q)

def getQuiz (tenantID id : String) : ContentCall (Option QuizDocument) := do
  let oid ← objectID id
  content (.findQuiz tenantID oid)

def updateQuiz (b : Backend) (tenantID id : String) (update : QuizUpdate) :
    ContentCall (Option QuizDocument) := do
  let oid ← objectID id
  let found ← content (.updateQuiz tenantID oid update)
  match b with
  | .memory => return found
  | .mongo => getQuiz tenantID id

end ContentRepository

/-- A record about to be inserted. -/
def Question.created (env : Env) (q : Question) : Question :=
  { q with
    id := if q.id.isZero then env.newID else q.id
    status := if q.status = "" then "active" else q.status
    createdAt := env.now
    updatedAt := env.now }

def QuizDocument.created (env : Env) (q : QuizDocument) : QuizDocument :=
  { q with
    id := if q.id.isZero then env.newID else q.id
    status := if q.status = "" then "draft" else q.status
    createdAt := env.now
    updatedAt := env.now }

section Exec

variable [Library] [MongoServer]

/-- `pageCursor` of the in-memory repository, `SetSkip` and `SetLimit` of the other. -/
def pageCursor {α : Type} (b : Backend) (items : List α) (cursor : String) (limit : ℤ) : List α × ℤ × String :=
  let limit := if limit ≤ 0 ∨ limit > 100 then 20 else limit.toNat
  let total := items.length
  let offset := cursorOffset cursor
  match b with
  | .memory =>
    if offset > total then ([], total, "")
    else
      let stop := min (offset + limit) total
      ((items.drop offset).take (stop - offset), total, if stop < total then toString stop else "")
  | .mongo =>
    let page := (items.drop offset).take limit
    (page, total, if offset + page.length < total then toString (offset + page.length) else "")

def matchingQuestions (b : Backend) (tenantID : String) (f : QuestionFilter) (s : ContentStore) :
    Except LmsError (List Question) := do
  let textMatches ← keywordMatcher b f.keyword
  return s.questions.filter (fun q =>
    q.tenantID = tenantID && q.status ≠ "archived" && f.matches textMatches q)

def listQuestions (b : Backend) (tenantID : String) (f : QuestionFilter) (cursor : String) (limit : ℤ)
    (s : ContentStore) : Except LmsError (List Question × ℤ × String) := do
  let items ← matchingQuestions b tenantID f s
  return pageCursor b (Library.sortSlice (fun a c => a.createdAt > c.createdAt) items) cursor limit

/-- `$sample`, for which the in-memory repository takes the first page. -/
def sampleQuestions (b : Backend) (env : ContentEnv) (tenantID : String) (f : QuestionFilter) (limit : ℤ)
    (s : ContentStore) : Except LmsError (List Question) :=
  match b with
  | .memory => return (← listQuestions b tenantID f "" limit s).1
  | .mongo => do
    let items ← matchingQuestions b tenantID f s
    if limit ≤ 0 then throw .storeFailure
    return (env.sample.filterMap (fun i => items[i]?)).take limit.toNat

def listQuizzes (b : Backend) (tenantID : String) (f : QuizFilter) (cursor : String) (limit : ℤ)
    (s : ContentStore) : Except LmsError (List QuizDocument × ℤ × String) := do
  let textMatches ← keywordMatcher b f.keyword
  let items := s.quizzes.filter (fun q => q.tenantID = tenantID && f.matches textMatches q)
  return pageCursor b (Library.sortSlice (fun a c => a.createdAt > c.createdAt) items) cursor limit

/-- MongoDB rejects an id that is taken; the in-memory slice takes any record. -/
def insertQuestion (b : Backend) (q : Question) (s : ContentStore) : Except LmsError Question × ContentStore :=
  if b = .mongo ∧ q.id ∈ s.questions.map Question.id then (.error .duplicateKey, s)
  else (.ok q, { s with questions := s.questions ++ [q] })

def insertQuiz (b : Backend) (q : QuizDocument) (s : ContentStore) :
    Except LmsError QuizDocument × ContentStore :=
  if b = .mongo ∧ q.id ∈ s.quizzes.map (fun quiz => quiz.id) then (.error .duplicateKey, s)
  else (.ok q, { s with quizzes := s.quizzes ++ [q] })

namespace ContentStore

def updateQuestion (tenantID : String) (id : ObjectID) (f : Question → Question) (s : ContentStore) : ContentStore :=
  { s with questions := modifyFirst (Question.named tenantID id) f s.questions }

def updateQuiz (tenantID : String) (id : ObjectID) (f : QuizDocument → QuizDocument) (s : ContentStore) :
    ContentStore :=
  { s with quizzes := modifyFirst (QuizDocument.named tenantID id) f s.quizzes }

/-- The store carries out one request at a time. -/
def exec (b : Backend) (env : ContentEnv) (q : ContentRequest) (s : ContentStore) : ContentReply q × ContentStore :=
  match q with
  | .now => (.ok env.now, s)
  | .findCenter tenantID id => (.ok (s.findCenter tenantID id), s)
  | .insertQuestion question => insertQuestion b (question.created env.toEnv) s
  | .findQuestion tenantID id => (.ok (s.findQuestion tenantID id), s)
  | .updateQuestion tenantID id set =>
    let s := s.updateQuestion tenantID id (set.apply env.now)
    (.ok (s.findQuestion tenantID id), s)
  | .listQuestions tenantID f cursor limit => (listQuestions b tenantID f cursor limit s, s)
  | .sampleQuestions tenantID f limit => (sampleQuestions b env tenantID f limit s, s)
  | .insertQuiz quiz => insertQuiz b (quiz.created env.toEnv) s
  | .findQuiz tenantID id => (.ok (s.findQuiz tenantID id), s)
  | .updateQuiz tenantID id set =>
    let s := s.updateQuiz tenantID id (set.apply env.now)
    (.ok (s.findQuiz tenantID id), s)
  | .listQuizzes tenantID f cursor limit => (listQuizzes b tenantID f cursor limit s, s)

end ContentStore

end Exec

end ErgGo.Lms
