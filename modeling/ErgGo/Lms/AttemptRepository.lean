import ErgGo.Lib.Bson
import ErgGo.Lib.Interleaving
import ErgGo.Lms.Roster

/-!
# The attempt repository

The requests the services send to their repository, and the contract under which any
repository carries them out: what each request does to the stored attempts and assignments
when nothing else runs.
-/

namespace ErgGo.Lms
open Go Documents Concurrent

/-- The answer as a store holds it that keeps times in this way. -/
def AttemptAnswer.kept (keeps : Time → Time) (answer : AttemptAnswer) : AttemptAnswer :=
  { answer with answeredAt := answer.answeredAt.map keeps }

@[simp] lemma AttemptAnswer.kept_self (answer : AttemptAnswer) : answer.kept (fun t => t) = answer := by
  simp [AttemptAnswer.kept]

/-- The attempt, likewise. -/
def Attempt.kept (keeps : Time → Time) (a : Attempt) : Attempt :=
  { a with
    answers := GoMap.mapValues (AttemptAnswer.kept keeps) a.answers
    startedAt := keeps a.startedAt
    submittedAt := a.submittedAt.map keeps
    updatedAt := keeps a.updatedAt }

@[simp] lemma Attempt.kept_self (a : Attempt) : a.kept (fun t => t) = a := by
  have hanswers : GoMap.mapValues (AttemptAnswer.kept (fun t => t)) a.answers = a.answers :=
    (GoMap.mapValues_congr fun entry _ => entry.2.kept_self).trans (GoMap.mapValues_id a.answers)
  simp [Attempt.kept, hanswers]

/-- The body of a `$set`: the fields it assigns. -/
structure AttemptUpdate where
  status : Option String := none
  submittedAt : Option Time := none
  answers : List (String × AttemptAnswer) := []
  quizVersion : Option String := none
  events : Option (Option (List JsonObject)) := none
  client : Option (Option JsonObject) := none
  score : Option Float64 := none
  maxScore : Option Float64 := none
  percent : Option Float64 := none
  passed : Option Bool := none

/-- An assignment as a store holds it that keeps times in this way. -/
def Assignment.kept (keeps : Time → Time) (a : Assignment) : Assignment :=
  { a with dueAt := a.dueAt.map keeps, createdAt := keeps a.createdAt, updatedAt := keeps a.updatedAt }

@[simp] lemma Assignment.kept_self (a : Assignment) : a.kept (fun t => t) = a := by
  simp [Assignment.kept]

lemma Assignment.id_kept (keeps : Time → Time) (a : Assignment) : (a.kept keeps).id = a.id := rfl

namespace AttemptUpdate

def apply (u : AttemptUpdate) (now : Time) (a : Attempt) : Attempt :=
  { a with
    status := u.status.getD a.status
    submittedAt := u.submittedAt <|> a.submittedAt
    answers := a.answers.setAll u.answers
    quizVersion := u.quizVersion.getD a.quizVersion
    events := u.events.getD a.events
    client := u.client.getD a.client
    score := u.score.getD a.score
    maxScore := u.maxScore.getD a.maxScore
    percent := u.percent.getD a.percent
    passed := u.passed.getD a.passed
    updatedAt := now }

/-- What `SubmitAttempt` sets. -/
def submit (submittedAt : Time) (answers : List (String × AttemptAnswer)) : AttemptUpdate :=
  { status := some "submitted", submittedAt := some submittedAt, answers := answers }

/-- The update of an attempt that can still be edited. -/
def applyUnsubmitted (u : AttemptUpdate) (now : Time) (a : Attempt) : Attempt :=
  if a.status = "submitted" then a else u.apply now a

/-- The update leaves the status and the grading alone. -/
def ContentOnly (u : AttemptUpdate) : Prop :=
  u.status = none ∧ u.submittedAt = none ∧ u.score = none ∧ u.maxScore = none ∧ u.percent = none ∧
    u.passed = none

/-- The update as a store carries it out that keeps times in this way. -/
def kept (keeps : Time → Time) (u : AttemptUpdate) : AttemptUpdate :=
  { u with
    submittedAt := u.submittedAt.map keeps
    answers := u.answers.map fun entry => (entry.1, entry.2.kept keeps) }

lemma ContentOnly.kept {u : AttemptUpdate} (h : u.ContentOnly) (keeps : Time → Time) : (u.kept keeps).ContentOnly := by
  obtain ⟨hstatus, hsubmittedAt, hgrading⟩ := h
  exact ⟨hstatus, congrArg (Option.map keeps) hsubmittedAt, hgrading⟩

@[simp] lemma kept_self (u : AttemptUpdate) : u.kept (fun t => t) = u := by
  simp [kept]

@[simp] lemma apply_id (u : AttemptUpdate) (now : Time) (a : Attempt) : (u.apply now a).id = a.id := rfl

@[simp] lemma apply_tenantID (u : AttemptUpdate) (now : Time) (a : Attempt) :
    (u.apply now a).tenantID = a.tenantID := rfl

@[simp] lemma apply_assignmentID (u : AttemptUpdate) (now : Time) (a : Attempt) :
    (u.apply now a).assignmentID = a.assignmentID := rfl

@[simp] lemma apply_quizID (u : AttemptUpdate) (now : Time) (a : Attempt) :
    (u.apply now a).quizID = a.quizID := rfl

@[simp] lemma apply_activeKey (u : AttemptUpdate) (now : Time) (a : Attempt) :
    (u.apply now a).activeKey = a.activeKey := rfl

@[simp] lemma apply_status (u : AttemptUpdate) (now : Time) (a : Attempt) :
    (u.apply now a).status = u.status.getD a.status := rfl

end AttemptUpdate

/-- The filter on `_id` and `tenant_id`. -/
def Attempt.named (tenantID : String) (id : ObjectID) (a : Attempt) : Bool :=
  a.id = id && a.tenantID = tenantID

@[simp] lemma Attempt.named_apply (tenantID : String) (id : ObjectID) (u : AttemptUpdate) (now : Time)
    (a : Attempt) : (u.apply now a).named tenantID id = a.named tenantID id := rfl

def Assignment.named (tenantID : String) (id : ObjectID) (a : Assignment) : Bool :=
  a.id = id && a.tenantID = tenantID

def Attempt.active (a : Attempt) : Bool := a.status = "in_progress"

/-- The filter of `FindActiveAttempt`. -/
def Attempt.activeFor (key : String × ObjectID × ObjectID × ObjectID) (a : Attempt) : Bool :=
  a.activeKey = key && a.active

structure AttemptDraftRequest where
  answers : Option (GoMap JsonValue) := none
  packageHash : String := ""
  quizVersion : String := ""
  events : Option (List JsonObject) := none
  client : Option JsonObject := none

inductive RepoRequest where
  | getClass (tenantID id : String)
  | getCenter (tenantID id : String)
  | listStudents (tenantID : String) (req : StudentListRequest) (allowedCenterIDs allowedClassIDs : List ObjectID)
  | getQuiz (tenantID id : String)
  | createAssignment (assignment : Assignment)
  | getAssignment (tenantID id : String)
  | createAttempt (attempt : Attempt)
  | getAttempt (tenantID id : String)
  | findActiveAttempt (tenantID : String) (assignmentID quizID studentID : ObjectID)
  | saveAttemptAnswer (tenantID id questionID : String) (answer : AttemptAnswer)
  | saveAttemptDraft (tenantID id : String) (req : AttemptDraftRequest)
  | submitAttempt (tenantID id : String) (answers : List (String × AttemptAnswer)) (submittedAt : Time)
  | updateAttempt (tenantID id : String) (update : AttemptUpdate)

/-- What a request returns next to its error; a create returns the record as stored. -/
abbrev RepoResult : RepoRequest → Type
  | .getClass .. => Option Class
  | .getCenter .. => Option Center
  | .listStudents .. => List Student × ℤ × String
  | .getQuiz .. => Option Quiz
  | .createAssignment .. => Assignment
  | .getAssignment .. => Option Assignment
  | .createAttempt .. => Attempt
  | .getAttempt .. => Option Attempt
  | .findActiveAttempt .. => Option Attempt
  | .saveAttemptAnswer .. => Option Attempt
  | .saveAttemptDraft .. => Option Attempt
  | .submitAttempt .. => Option Attempt × Bool
  | .updateAttempt .. => Option Attempt

abbrev RepoReply (q : RepoRequest) := Except LmsError (RepoResult q)

/-- A service call: a program over repository requests that can fail. -/
abbrev Call := ExceptT LmsError (Program RepoRequest RepoReply)

def repo (q : RepoRequest) : Call (RepoResult q) := ExceptT.mk (.send q)

@[simp] lemma run_repo (q : RepoRequest) : (repo q).run = .send q := rfl

/-- The key of `answers.<key>` under which a question's answer is stored. -/
def answerField (questionID : String) : Except LmsError String :=
  let questionID := trimSpace questionID
  if questionID = "" || contains questionID "." || "$".toList <+: questionID.toList then
    .error .invalidFieldKey
  else .ok questionID

/-- The `$set` entries of a map of answers. -/
def answerFields (answers : List (String × AttemptAnswer)) :
    Except LmsError (List (String × AttemptAnswer)) :=
  answers.mapM (fun entry => return (← answerField entry.1, entry.2))

/-- Where the clock stands and which id is generated when a request is carried out. -/
structure Env where
  now : Time
  newID : ObjectID

/-- A record about to be inserted, with its id, default status and time stamps. -/
def Attempt.created (env : Env) (a : Attempt) : Attempt :=
  { a with
    id := if a.id.isZero then env.newID else a.id
    status := if a.status = "" then "in_progress" else a.status
    startedAt := env.now
    updatedAt := env.now }

def Assignment.created (env : Env) (a : Assignment) : Assignment :=
  { a with
    id := if a.id.isZero then env.newID else a.id
    status := if a.status = "" then "open" else a.status
    createdAt := env.now
    updatedAt := env.now }

/-- The records whose history the contract describes. -/
structure Records where
  attempts : List Attempt
  assignments : List Assignment

namespace Records

def getAttempt (s : Records) (tenantID : String) (id : ObjectID) : Option Attempt :=
  s.attempts.find? (Attempt.named tenantID id)

def getAssignment (s : Records) (tenantID : String) (id : ObjectID) : Option Assignment :=
  s.assignments.find? (Assignment.named tenantID id)

def modifyAttempt (s : Records) (tenantID : String) (id : ObjectID) (f : Attempt → Attempt) : Records :=
  { s with attempts := modifyFirst (Attempt.named tenantID id) f s.attempts }

lemma getAttempt_modifyAttempt (s : Records) (tenantID : String) (id : ObjectID) {f : Attempt → Attempt}
    (hf : ∀ a, (f a).named tenantID id = a.named tenantID id) :
    (s.modifyAttempt tenantID id f).getAttempt tenantID id = (s.getAttempt tenantID id).map f :=
  find?_modifyFirst hf s.attempts

lemma modifyAttempt_congr {s : Records} {tenantID : String} {id : ObjectID} {f g : Attempt → Attempt}
    (h : ∀ a, s.getAttempt tenantID id = some a → f a = g a) :
    s.modifyAttempt tenantID id f = s.modifyAttempt tenantID id g :=
  congrArg (fun attempts => { s with attempts := attempts }) (modifyFirst_congr h)

lemma modifyAttempt_modifyAttempt (s : Records) (tenantID : String) (id : ObjectID)
    {f g : Attempt → Attempt} (hf : ∀ a, (f a).named tenantID id = a.named tenantID id) :
    (s.modifyAttempt tenantID id f).modifyAttempt tenantID id g =
      s.modifyAttempt tenantID id (fun a => g (f a)) :=
  congrArg (fun attempts => { s with attempts := attempts }) (modifyFirst_modifyFirst hf s.attempts)

end Records

/-- What a request may do in a store that keeps times in this way: a reply to `q` together with the
records before and after. -/
def Contract (keeps : Time → Time) (env : Env) (s s' : Records) : (q : RepoRequest) → RepoReply q → Prop
  | .createAssignment a, .ok created =>
    created = a.created env ∧ s' = { s with assignments := s.assignments ++ [created.kept keeps] }
  | .getAssignment tenantID id, .ok found =>
    s' = s ∧ ∃ oid, objectID id = .ok oid ∧ found = s.getAssignment tenantID oid
  | .createAttempt a, .ok created =>
    s' = { s with attempts := s.attempts ++ [created.kept keeps] } ∧
      ∃ startedAt, created = { a.created env with startedAt := startedAt }
  | .getAttempt tenantID id, .ok found =>
    s' = s ∧ ∃ oid, objectID id = .ok oid ∧ found = s.getAttempt tenantID oid
  | .findActiveAttempt tenantID assignmentID quizID studentID, reply => s' = s ∧
    reply = .ok (s.attempts.find? (Attempt.activeFor (tenantID, assignmentID, quizID, studentID)))
  | .saveAttemptAnswer tenantID id _ answer, .ok found =>
    ∃ oid field, objectID id = .ok oid ∧ found = s'.getAttempt tenantID oid ∧
      s' = s.modifyAttempt tenantID oid
        (AttemptUpdate.applyUnsubmitted { answers := [(field, answer.kept keeps)] } (keeps env.now))
  | .saveAttemptDraft tenantID id _, .ok found =>
    ∃ oid u, objectID id = .ok oid ∧ found = s'.getAttempt tenantID oid ∧ u.ContentOnly ∧
      s' = s.modifyAttempt tenantID oid (AttemptUpdate.applyUnsubmitted u (keeps env.now))
  | .submitAttempt tenantID id _ submittedAt, .ok (found, didSubmit) =>
    ∃ oid fields, objectID id = .ok oid ∧ found = s'.getAttempt tenantID oid ∧
      didSubmit = (s.getAttempt tenantID oid).any (fun a => a.status ≠ "submitted") ∧
      s' = s.modifyAttempt tenantID oid
        ((AttemptUpdate.submit (keeps submittedAt) fields).applyUnsubmitted (keeps env.now))
  | .updateAttempt tenantID id u, .ok found =>
    ∃ oid, objectID id = .ok oid ∧ found = s'.getAttempt tenantID oid ∧
      s' = s.modifyAttempt tenantID oid ((u.kept keeps).apply (keeps env.now))
  | _, _ => s' = s

/-- A repository that meets the contract. -/
structure Repository (σ : Type) where
  exec : Env → (q : RepoRequest) → σ → RepoReply q × σ
  records : σ → Records
  /-- How times are kept when they are stored. -/
  keeps : Time → Time
  contract : ∀ env q s, Contract keeps env (records s) (records (exec env q s).2) q (exec env q s).1

end ErgGo.Lms
