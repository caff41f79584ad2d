import ErgGo.Lms.AttemptRepository

/-!
# The in-memory repository

Slices of records, searched from the front. Every request is carried out in one step.
-/

namespace ErgGo.Lms
open Go Documents Concurrent

variable [Library] [MongoServer]

structure MemoryStore where
  roster : Roster
  quizzes : List Quiz
  assignments : List Assignment
  attempts : List Attempt

namespace MemoryStore

def createAssignment (env : Env) (assignment : Assignment) (m : MemoryStore) :
    Except LmsError Assignment × MemoryStore :=
  (.ok (assignment.created env), { m with assignments := m.assignments ++ [assignment.created env] })

def createAttempt (env : Env) (attempt : Attempt) (m : MemoryStore) :
    Except LmsError Attempt × MemoryStore :=
  let attempt := { attempt.created env with
    startedAt := if attempt.startedAt = 0 then env.now else attempt.startedAt }
  (.ok attempt, { m with attempts := m.attempts ++ [attempt] })

def getAttempt (tenantID id : String) (m : MemoryStore) : Except LmsError (Option Attempt) := do
  let oid ← objectID id
  return m.attempts.find? (Attempt.named tenantID oid)

def findActiveAttempt (tenantID : String) (assignmentID quizID studentID : ObjectID) (m : MemoryStore) :
    Option Attempt :=
  m.attempts.find? (Attempt.activeFor (tenantID, assignmentID, quizID, studentID))

/-- Changes the first attempt with this id and returns it as it is then. -/
def modifyAttempt (tenantID : String) (oid : ObjectID) (f : Attempt → Attempt) (m : MemoryStore) :
    Option Attempt × MemoryStore :=
  let attempts := modifyFirst (Attempt.named tenantID oid) f m.attempts
  (attempts.find? (Attempt.named tenantID oid), { m with attempts := attempts })

def saveAttemptAnswer (env : Env) (tenantID id questionID : String) (answer : AttemptAnswer)
    (m : MemoryStore) : Except LmsError (Option Attempt) × MemoryStore :=
  match objectID id with
  | .error e => (.error e, m)
  | .ok oid =>
    let (found, m) := m.modifyAttempt tenantID oid
      (AttemptUpdate.applyUnsubmitted { answers := [(questionID, answer)] } env.now)
    (.ok found, m)

def submitAttempt (env : Env) (tenantID id : String) (answers : List (String × AttemptAnswer))
    (submittedAt : Time) (m : MemoryStore) : Except LmsError (Option Attempt × Bool) × MemoryStore :=
  match objectID id with
  | .error e => (.error e, m)
  | .ok oid =>
    let didSubmit := (m.attempts.find? (Attempt.named tenantID oid)).any (fun a => a.status ≠ "submitted")
    let (found, m) := m.modifyAttempt tenantID oid
      ((AttemptUpdate.submit submittedAt answers).applyUnsubmitted env.now)
    (.ok (found, didSubmit), m)

def updateAttempt (env : Env) (tenantID id : String) (update : AttemptUpdate) (m : MemoryStore) :
    Except LmsError (Option Attempt) × MemoryStore :=
  match objectID id with
  | .error e => (.error e, m)
  | .ok oid =>
    let (found, m) := m.modifyAttempt tenantID oid (update.apply env.now)
    (.ok found, m)

/-- The repository method has no in-memory branch: past its checks it dereferences the MongoDB
collection, which is nil here. -/
def saveAttemptDraft (id : String) (req : AttemptDraftRequest) : Except LmsError (Option Attempt) := do
  let _ ← objectID id
  let _ ← answerFields ((req.answers.getD ∅).pairs.map
    (fun entry => (entry.1, { questionID := entry.1, answer := entry.2 })))
  throw .runtimePanic

def exec (env : Env) (q : RepoRequest) (m : MemoryStore) : RepoReply q × MemoryStore :=
  match q with
  | .getClass tenantID id => (m.roster.getClass tenantID id, m)
  | .getCenter tenantID id => (m.roster.getCenter tenantID id, m)
  | .listStudents tenantID req centerIDs classIDs =>
    (m.roster.listStudents .memory tenantID req centerIDs classIDs, m)
  | .getQuiz tenantID id =>
    (do let oid ← objectID id; return m.quizzes.find? (fun quiz => quiz.id = oid && quiz.tenantID = tenantID), m)
  | .createAssignment assignment => m.createAssignment env assignment
  | .getAssignment tenantID id =>
    (do let oid ← objectID id; return m.assignments.find? (Assignment.named tenantID oid), m)
  | .createAttempt attempt => m.createAttempt env attempt
  | .getAttempt tenantID id => (m.getAttempt tenantID id, m)
  | .findActiveAttempt tenantID assignmentID quizID studentID =>
    (.ok (m.findActiveAttempt tenantID assignmentID quizID studentID), m)
  | .saveAttemptAnswer tenantID id questionID answer =>
    match answerField questionID with
    | .error e => (.error e, m)
    | .ok _ => m.saveAttemptAnswer env tenantID id questionID answer
  | .saveAttemptDraft _ id req => (saveAttemptDraft id req, m)
  | .submitAttempt tenantID id answers submittedAt => m.submitAttempt env tenantID id answers submittedAt
  | .updateAttempt tenantID id update => m.updateAttempt env tenantID id update

def records (m : MemoryStore) : Records := ⟨m.attempts, m.assignments⟩

end MemoryStore

/-- The in-memory repository meets the contract. -/
def memoryRepository : Repository MemoryStore where
  exec := MemoryStore.exec
  records := MemoryStore.records
  keeps := fun t => t
  contract env q m := by
    cases q with
    | createAssignment assignment =>
      refine ⟨rfl, ?_⟩
      rw [Assignment.kept_self]
      rfl
    | createAttempt attempt =>
      refine ⟨?_, _, rfl⟩
      rw [Attempt.kept_self]
      rfl
    | getAssignment tenantID id =>
      simp only [MemoryStore.exec]
      cases hid : objectID id with
      | error e => rfl
      | ok oid => exact ⟨rfl, oid, hid, rfl⟩
    | getAttempt tenantID id =>
      simp only [MemoryStore.exec, MemoryStore.getAttempt]
      cases hid : objectID id with
      | error e => rfl
      | ok oid => exact ⟨rfl, oid, hid, rfl⟩
    | saveAttemptAnswer tenantID id questionID answer =>
      simp only [MemoryStore.exec, MemoryStore.saveAttemptAnswer]
      cases hfield : answerField questionID with
      | error e => rfl
      | ok field =>
        cases hid : objectID id with
        | error e => rfl
        | ok oid =>
          refine ⟨oid, questionID, hid, rfl, ?_⟩
          rw [AttemptAnswer.kept_self]
          rfl
    | saveAttemptDraft tenantID id req =>
      have herr : ∃ e, MemoryStore.saveAttemptDraft id req = .error e := by
        unfold MemoryStore.saveAttemptDraft
        cases objectID id with
        | error e => exact ⟨e, rfl⟩
        | ok oid =>
          cases answerFields _ with
          | error e => exact ⟨e, rfl⟩
          | ok fields => exact ⟨.runtimePanic, rfl⟩
      obtain ⟨e, he⟩ := herr
      simp only [MemoryStore.exec, he]
      rfl
    | submitAttempt tenantID id answers submittedAt =>
      simp only [MemoryStore.exec, MemoryStore.submitAttempt]
      cases hid : objectID id with
      | error e => rfl
      | ok oid => exact ⟨oid, answers, hid, rfl, rfl, rfl⟩
    | updateAttempt tenantID id update =>
      simp only [MemoryStore.exec, MemoryStore.updateAttempt]
      cases hid : objectID id with
      | error e => rfl
      | ok oid =>
        refine ⟨oid, hid, rfl, ?_⟩
        rw [AttemptUpdate.kept_self]
        rfl
    | getClass tenantID id => simp [MemoryStore.exec, Contract]
    | getCenter tenantID id => simp [MemoryStore.exec, Contract]
    | listStudents tenantID req centerIDs classIDs => simp [MemoryStore.exec, Contract]
    | getQuiz tenantID id => simp [MemoryStore.exec, Contract]
    | findActiveAttempt tenantID assignmentID quizID studentID => exact ⟨rfl, rfl⟩

end ErgGo.Lms
