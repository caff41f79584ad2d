import ErgGo.Lms.AttemptRepository

/-!
# The MongoDB repository

Each repository request is a program over single-document operations. The server carries
out every operation atomically and rejects a second attempt in progress under the unique
partial index; between two operations other clients may run.
-/

namespace ErgGo.Lms
open Go Documents Concurrent

/-- The filters of `UpdateOne`: `_id`, `tenant_id` and possibly `status: {$ne: "submitted"}`. -/
structure AttemptFilter where
  tenantID : String
  id : ObjectID
  unsubmitted : Bool := false

def AttemptFilter.matches (f : AttemptFilter) (a : Attempt) : Bool :=
  a.named f.tenantID f.id && !(f.unsubmitted && a.status = "submitted")

lemma Attempt.pinned_named (tenantID : String) (id : ObjectID) :
    Pinned Attempt.id (Attempt.named tenantID id) id := by
  intro a ha
  simp only [Attempt.named, Bool.and_eq_true, decide_eq_true_eq] at ha
  exact ha.1

lemma AttemptFilter.pinned_matches (f : AttemptFilter) : Pinned Attempt.id f.matches f.id := by
  intro a ha
  rw [AttemptFilter.matches, Bool.and_eq_true] at ha
  exact Attempt.pinned_named f.tenantID f.id a ha.1

lemma AttemptFilter.matches_byID (tenantID : String) (id : ObjectID) :
    (AttemptFilter.mk tenantID id false).matches = Attempt.named tenantID id := by
  funext a
  simp [AttemptFilter.matches]

/-- Single MongoDB operations. The roster is only read here. -/
inductive MongoRequest where
  | findClass (tenantID : String) (id : ObjectID)
  | findCenter (tenantID : String) (id : ObjectID)
  | findStudents (tenantID : String) (req : StudentListRequest) (allowedCenterIDs allowedClassIDs : List ObjectID)
  | findQuiz (tenantID : String) (id : ObjectID)
  | insertAssignment (assignment : Assignment)
  | findAssignment (tenantID : String) (id : ObjectID)
  | insertAttempt (attempt : Attempt)
  | findAttempt (tenantID : String) (id : ObjectID)
  | findActiveAttempt (tenantID : String) (assignmentID quizID studentID : ObjectID)
  | updateAttempt (filter : AttemptFilter) (set : AttemptUpdate)

/-- The reply of an operation: what it found, the document inserted, or whether it matched. -/
abbrev MongoResult : MongoRequest → Type
  | .findClass .. => Option Class
  | .findCenter .. => Option Center
  | .findStudents .. => List Student × ℤ × String
  | .findQuiz .. => Option Quiz
  | .insertAssignment .. => Assignment
  | .findAssignment .. => Option Assignment
  | .insertAttempt .. => Attempt
  | .findAttempt .. => Option Attempt
  | .findActiveAttempt .. => Option Attempt
  | .updateAttempt .. => Bool

abbrev MongoReply (q : MongoRequest) := Except LmsError (MongoResult q)

abbrev Mongo := ExceptT LmsError (Program MongoRequest MongoReply)

def mongo (q : MongoRequest) : Mongo (MongoResult q) := ExceptT.mk (.send q)

@[simp] lemma run_mongo (q : MongoRequest) : (mongo q).run = .send q := rfl

namespace MongoRepository

variable [Library] [MongoServer]

def getClass (tenantID id : String) : Mongo (Option Class) := do
  let oid ← objectID id
  mongo (.findClass tenantID oid)

def getCenter (tenantID id : String) : Mongo (Option Center) := do
  let oid ← objectID id
  mongo (.findCenter tenantID oid)

def getQuiz (tenantID id : String) : Mongo (Option Quiz) := do
  let oid ← objectID id
  mongo (.findQuiz tenantID oid)

def getAssignment (tenantID id : String) : Mongo (Option Assignment) := do
  let oid ← objectID id
  mongo (.findAssignment tenantID oid)

def getAttempt (tenantID id : String) : Mongo (Option Attempt) := do
  let oid ← objectID id
  mongo (.findAttempt tenantID oid)

/-- After an error other than `ErrNoDocuments` the function still returns the empty attempt it
decodes into, next to an error its callers drop. -/
def findActiveAttempt (tenantID : String) (assignmentID quizID studentID : ObjectID) :
    Mongo (Option Attempt) :=
  tryCatch (mongo (.findActiveAttempt tenantID assignmentID quizID studentID))
    (fun _ => return some { tenantID := "", assignmentID := .nil, quizID := .nil, studentID := .nil })

def saveAttemptAnswer (tenantID id questionID : String) (answer : AttemptAnswer) :
    Mongo (Option Attempt) := do
  let field ← answerField questionID
  let oid ← objectID id
  let _ ← mongo (.updateAttempt ⟨tenantID, oid, true⟩ { answers := [(field, answer)] })
  getAttempt tenantID id

/-- The `$set` of a draft: the fields the request carries. -/
def draftUpdate (answers : List (String × AttemptAnswer)) (req : AttemptDraftRequest) : AttemptUpdate where
  answers := answers
  quizVersion := if req.quizVersion ≠ "" then some req.quizVersion else none
  events := req.events.map some
  client := req.client.map some

def saveAttemptDraft (tenantID id : String) (req : AttemptDraftRequest) : Mongo (Option Attempt) := do
  let oid ← objectID id
  let answers ← answerFields ((req.answers.getD ∅).pairs.map
    (fun entry => (entry.1, { questionID := entry.1, answer := entry.2 })))
  let _ ← mongo (.updateAttempt ⟨tenantID, oid, true⟩ (draftUpdate answers req))
  getAttempt tenantID id

def submitAttempt (tenantID id : String) (answers : List (String × AttemptAnswer)) (submittedAt : Time) :
    Mongo (Option Attempt × Bool) := do
  let oid ← objectID id
  let answers ← answerFields answers
  let matched ← mongo (.updateAttempt ⟨tenantID, oid, true⟩ (.submit submittedAt answers))
  let attempt ← getAttempt tenantID id
  return (attempt, matched)

def updateAttempt (tenantID id : String) (update : AttemptUpdate) : Mongo (Option Attempt) := do
  let oid ← objectID id
  let _ ← mongo (.updateAttempt ⟨tenantID, oid, false⟩ update)
  getAttempt tenantID id

/-- The MongoDB repository, request by request. -/
def handle (q : RepoRequest) : Program MongoRequest MongoReply (RepoReply q) :=
  match q with
  | .getClass tenantID id => (getClass tenantID id).run
  | .getCenter tenantID id => (getCenter tenantID id).run
  | .listStudents tenantID req centerIDs classIDs =>
    (mongo (.findStudents tenantID req centerIDs classIDs)).run
  | .getQuiz tenantID id => (getQuiz tenantID id).run
  | .createAssignment assignment => (mongo (.insertAssignment assignment)).run
  | .getAssignment tenantID id => (getAssignment tenantID id).run
  | .createAttempt attempt => (mongo (.insertAttempt attempt)).run
  | .getAttempt tenantID id => (getAttempt tenantID id).run
  | .findActiveAttempt tenantID assignmentID quizID studentID =>
    (findActiveAttempt tenantID assignmentID quizID studentID).run
  | .saveAttemptAnswer tenantID id questionID answer => (saveAttemptAnswer tenantID id questionID answer).run
  | .saveAttemptDraft tenantID id req => (saveAttemptDraft tenantID id req).run
  | .submitAttempt tenantID id answers submittedAt => (submitAttempt tenantID id answers submittedAt).run
  | .updateAttempt tenantID id update => (updateAttempt tenantID id update).run

end MongoRepository

def AttemptUpdate.toUpdate (u : AttemptUpdate) (now : Time) : Update Attempt.id :=
  ⟨u.apply now, fun _ => rfl⟩

/-- What a `$set` makes of a document, which keeps times in whole milliseconds. -/
def AttemptUpdate.stored (u : AttemptUpdate) (env : Env) : Update Attempt.id :=
  (u.kept Bson.dateTime).toUpdate (Bson.dateTime env.now)

@[simp] lemma AttemptUpdate.stored_status (u : AttemptUpdate) (env : Env) (a : Attempt) :
    ((u.stored env).apply a).status = u.status.getD a.status := rfl

lemma AttemptUpdate.stored_answers (u : AttemptUpdate) (env : Env) (a : Attempt) :
    ((u.stored env).apply a).answers =
      a.answers.setAll (u.answers.map fun entry => (entry.1, entry.2.kept Bson.dateTime)) := rfl

structure MongoStore where
  roster : Roster
  quizzes : Collection Quiz.id
  assignments : Collection Assignment.id
  attempts : Collection Attempt.id

namespace MongoStore

variable [Library] [MongoServer]

/-- The index `idx_lms_attempt_active_student`: no other attempt in progress has this key. -/
def indexAdmits (s : MongoStore) (a : Attempt) : Bool :=
  !a.active || s.attempts.docs.all (fun other =>
    other.id = a.id || !other.active || other.activeKey ≠ a.activeKey)

def insertAssignment (env : Env) (assignment : Assignment) (s : MongoStore) :
    Except LmsError Assignment × MongoStore :=
  match s.assignments.insertOne ((assignment.created env).kept Bson.dateTime) with
  | some assignments => (.ok (assignment.created env), { s with assignments := assignments })
  | none => (.error .duplicateKey, s)

def insertAttempt (env : Env) (attempt : Attempt) (s : MongoStore) :
    Except LmsError Attempt × MongoStore :=
  let stored := (attempt.created env).kept Bson.dateTime
  if s.indexAdmits stored then
    match s.attempts.insertOne stored with
    | some attempts => (.ok (attempt.created env), { s with attempts := attempts })
    | none => (.error .duplicateKey, s)
  else (.error .duplicateKey, s)

def updateAttempt (env : Env) (filter : AttemptFilter) (set : AttemptUpdate) (s : MongoStore) :
    Except LmsError Bool × MongoStore :=
  match s.attempts.find filter.matches with
  | none => (.ok false, s)
  | some a =>
    if s.indexAdmits ((set.stored env).apply a) then
      (.ok true, { s with attempts := s.attempts.updateOne filter.matches (set.stored env) })
    else (.error .duplicateKey, s)

/-- The server carries out one operation. -/
def exec (env : Env) (q : MongoRequest) (s : MongoStore) : MongoReply q × MongoStore :=
  match q with
  | .findClass tenantID id =>
    (.ok (s.roster.classes.find (fun class' => class'.tenantID = tenantID && class'.id = id)), s)
  | .findCenter tenantID id =>
    (.ok (s.roster.centers.find (fun center => center.tenantID = tenantID && center.id = id)), s)
  | .findStudents tenantID req centerIDs classIDs =>
    (s.roster.listStudents .mongo tenantID req centerIDs classIDs, s)
  | .findQuiz tenantID id =>
    (.ok (s.quizzes.find (fun quiz => quiz.id = id && quiz.tenantID = tenantID)), s)
  | .insertAssignment assignment => s.insertAssignment env assignment
  | .findAssignment tenantID id => (.ok (s.assignments.find (Assignment.named tenantID id)), s)
  | .insertAttempt attempt => s.insertAttempt env attempt
  | .findAttempt tenantID id => (.ok (s.attempts.find (Attempt.named tenantID id)), s)
  | .findActiveAttempt tenantID assignmentID quizID studentID =>
    (.ok (s.attempts.find (Attempt.activeFor (tenantID, assignmentID, quizID, studentID))), s)
  | .updateAttempt filter set => s.updateAttempt env filter set

def records (s : MongoStore) : Records := ⟨s.attempts.docs, s.assignments.docs⟩

omit [Library] [MongoServer] in
@[simp] lemma indexAdmits_kept (s : MongoStore) (a : Attempt) (keeps : Time → Time) :
    s.indexAdmits (a.kept keeps) = s.indexAdmits a := rfl

omit [Library] [MongoServer] in
@[simp] lemma indexAdmits_stored (s : MongoStore) (set : AttemptUpdate) (env : Env) (a : Attempt) :
    s.indexAdmits ((set.stored env).apply a) = s.indexAdmits (set.apply env.now a) := rfl

omit [Library] [MongoServer] in
lemma updateAttempt_cases (env : Env) (filter : AttemptFilter) (set : AttemptUpdate) (s : MongoStore) :
    (∀ a, s.attempts.find filter.matches = some a → s.indexAdmits (set.apply env.now a)) ∧
        s.updateAttempt env filter set = (.ok (s.attempts.find filter.matches).isSome,
          { s with attempts := s.attempts.updateOne filter.matches (set.stored env) }) ∨
      ∃ a, s.attempts.find filter.matches = some a ∧ ¬s.indexAdmits (set.apply env.now a) ∧
        s.updateAttempt env filter set = (.error .duplicateKey, s) := by
  unfold updateAttempt
  cases hfind : s.attempts.find filter.matches with
  | none =>
    left
    rw [Collection.updateOne_of_find_eq_none _ hfind]
    exact ⟨by simp, rfl⟩
  | some a =>
    by_cases hadmits : s.indexAdmits (set.apply env.now a)
    · left
      simp [hadmits]
    · right
      exact ⟨a, rfl, hadmits, by simp [hadmits]⟩

omit [Library] [MongoServer] in
lemma insertAttempt_cases (env : Env) (a : Attempt) (s : MongoStore) :
    (∃ attempts, s.attempts.insertOne ((a.created env).kept Bson.dateTime) = some attempts ∧
        s.insertAttempt env a = (.ok (a.created env), { s with attempts := attempts })) ∨
      s.insertAttempt env a = (.error .duplicateKey, s) := by
  unfold insertAttempt
  by_cases hadmits : s.indexAdmits (a.created env)
  · cases hinsert : s.attempts.insertOne ((a.created env).kept Bson.dateTime) with
    | some attempts => exact .inl ⟨attempts, rfl, by simp [hadmits, hinsert]⟩
    | none => exact .inr (by simp [hadmits, hinsert])
  · exact .inr (by simp [hadmits])

end MongoStore

lemma docs_updateUnsubmitted (c : Collection Attempt.id) (tenantID : String) (id : ObjectID)
    (u : AttemptUpdate) (env : Env) :
    (c.updateOne (AttemptFilter.mk tenantID id true).matches (u.stored env)).docs =
      modifyFirst (Attempt.named tenantID id)
        ((u.kept Bson.dateTime).applyUnsubmitted (Bson.dateTime env.now)) c.docs := by
  have h := modifyFirst_and (Attempt.pinned_named tenantID id)
    (fun a => !(true && decide (a.status = "submitted"))) (u.stored env).apply c.nodup
  refine h.trans (congrArg (fun f => modifyFirst _ f c.docs) ?_)
  funext a
  simp [AttemptUpdate.applyUnsubmitted, AttemptUpdate.stored, AttemptUpdate.toUpdate]

lemma find_unsubmitted (c : Collection Attempt.id) (tenantID : String) (id : ObjectID) :
    (c.find (AttemptFilter.mk tenantID id true).matches).isSome =
      (c.find (Attempt.named tenantID id)).any (fun a => a.status ≠ "submitted") := by
  have hp := (AttemptFilter.mk tenantID id true).pinned_matches
  rw [Collection.find_of_pinned hp, Collection.find_of_pinned (Attempt.pinned_named tenantID id)]
  cases c.lookup id with
  | none => rfl
  | some a =>
    by_cases hn : a.named tenantID id <;> by_cases hs : a.status = "submitted" <;>
      simp [AttemptFilter.matches, Option.filter, hn, hs]

namespace MongoStore

variable [Library] [MongoServer]

omit [Library] [MongoServer] in
/-- An update of an unsubmitted attempt, in terms of the records. -/
lemma updateUnsubmitted_cases (env : Env) (tenantID : String) (id : ObjectID) (u : AttemptUpdate)
    (s : MongoStore) :
    (∃ s', s.updateAttempt env ⟨tenantID, id, true⟩ u = (.ok
        ((s.records.getAttempt tenantID id).any (fun a => a.status ≠ "submitted")), s') ∧
        s'.records = s.records.modifyAttempt tenantID id
          ((u.kept Bson.dateTime).applyUnsubmitted (Bson.dateTime env.now))) ∨
      s.updateAttempt env ⟨tenantID, id, true⟩ u = (.error .duplicateKey, s) := by
  rcases s.updateAttempt_cases env ⟨tenantID, id, true⟩ u with ⟨-, h⟩ | ⟨a, -, -, h⟩
  · left
    rw [find_unsubmitted] at h
    refine ⟨_, h, ?_⟩
    exact congrArg (fun docs => (⟨docs, s.assignments.docs⟩ : Records))
      (docs_updateUnsubmitted s.attempts tenantID id u env)
  · exact .inr h

end MongoStore

namespace MongoRepository

variable [Library] [MongoServer]

lemma alone_getAttempt {tenantID id : String} {oid : ObjectID} (hid : objectID id = .ok oid) (env : Env)
    (s : MongoStore) : (getAttempt tenantID id).run.alone MongoStore.exec env s =
      (.ok (s.records.getAttempt tenantID oid), s) := by
  simp only [getAttempt, hid, Program.run_bind, Program.run_lift, Program.done_bind, mongo, ExceptT.run_mk,
    Program.alone_send]
  rfl

end MongoRepository

/-- The MongoDB repository, when nothing else runs, meets the contract. -/
def mongoRepository [Library] [MongoServer] : Repository MongoStore where
  exec env q s := (MongoRepository.handle q).alone MongoStore.exec env s
  records := MongoStore.records
  keeps := Bson.dateTime
  contract env q s := by
    cases q with
    | createAssignment assignment =>
      simp only [MongoRepository.handle, mongo, ExceptT.run_mk, Program.alone_send, MongoStore.exec,
        MongoStore.insertAssignment]
      cases hinsert : s.assignments.insertOne ((assignment.created env).kept Bson.dateTime) with
      | none => rfl
      | some assignments =>
        have hdocs := Collection.docs_insertOne hinsert
        exact ⟨rfl, congrArg (fun docs => (⟨s.attempts.docs, docs⟩ : Records)) hdocs⟩
    | createAttempt attempt =>
      simp only [MongoRepository.handle, mongo, ExceptT.run_mk, Program.alone_send, MongoStore.exec]
      rcases s.insertAttempt_cases env attempt with ⟨attempts, hinsert, h⟩ | h
      · have hdocs := Collection.docs_insertOne hinsert
        rw [h]
        exact ⟨congrArg (fun docs => (⟨docs, s.assignments.docs⟩ : Records)) hdocs, _, rfl⟩
      · rw [h]
        rfl
    | getAssignment tenantID id =>
      simp only [MongoRepository.handle, MongoRepository.getAssignment, Program.run_bind,
        Program.run_lift, Program.done_bind]
      cases hid : objectID id with
      | error e => rfl
      | ok oid => exact ⟨rfl, oid, hid, rfl⟩
    | getAttempt tenantID id =>
      simp only [MongoRepository.handle]
      cases hid : objectID id with
      | error e =>
        simp only [MongoRepository.getAttempt, hid, Program.run_bind, Program.run_lift, Program.done_bind]
        rfl
      | ok oid =>
        rw [MongoRepository.alone_getAttempt hid]
        exact ⟨rfl, oid, hid, rfl⟩
    | saveAttemptAnswer tenantID id questionID answer =>
      simp only [MongoRepository.handle, MongoRepository.saveAttemptAnswer, Program.run_bind,
        Program.run_lift, Program.done_bind]
      cases hfield : answerField questionID with
      | error e => rfl
      | ok field =>
        cases hid : objectID id with
        | error e => rfl
        | ok oid =>
          simp only [mongo, ExceptT.run_mk, Program.alone_bind, Program.alone_send, MongoStore.exec]
          rcases s.updateUnsubmitted_cases env tenantID oid { answers := [(field, answer)] }
            with ⟨s', h, hs'⟩ | h
          · rw [h]
            simp only [MongoRepository.alone_getAttempt hid]
            exact ⟨oid, field, hid, rfl, hs'⟩
          · rw [h]
            rfl
    | saveAttemptDraft tenantID id req =>
      simp only [MongoRepository.handle, MongoRepository.saveAttemptDraft, Program.run_bind,
        Program.run_lift, Program.done_bind]
      cases hid : objectID id with
      | error e => rfl
      | ok oid =>
        dsimp only
        generalize answerFields _ = fields
        cases fields with
        | error e => rfl
        | ok fields =>
          simp only [mongo, ExceptT.run_mk, Program.alone_bind, Program.alone_send, MongoStore.exec]
          have hcontent : (MongoRepository.draftUpdate fields req).ContentOnly :=
            ⟨rfl, rfl, rfl, rfl, rfl, rfl⟩
          rcases s.updateUnsubmitted_cases env tenantID oid (MongoRepository.draftUpdate fields req)
            with ⟨s', h, hs'⟩ | h
          · rw [h]
            simp only [MongoRepository.alone_getAttempt hid]
            exact ⟨oid, _, hid, rfl, hcontent.kept Bson.dateTime, hs'⟩
          · rw [h]
            rfl
    | submitAttempt tenantID id answers submittedAt =>
      simp only [MongoRepository.handle, MongoRepository.submitAttempt, Program.run_bind,
        Program.run_lift, Program.done_bind]
      cases hid : objectID id with
      | error e => rfl
      | ok oid =>
        dsimp only
        cases answerFields answers with
        | error e => rfl
        | ok fields =>
          simp only [mongo, ExceptT.run_mk, Program.alone_bind, Program.alone_send, MongoStore.exec]
          rcases s.updateUnsubmitted_cases env tenantID oid (.submit submittedAt fields)
            with ⟨s', h, hs'⟩ | h
          · rw [h]
            simp only [Program.run_pure, Program.alone_bind, MongoRepository.alone_getAttempt hid]
            exact ⟨oid, _, hid, rfl, rfl, hs'⟩
          · rw [h]
            rfl
    | updateAttempt tenantID id update =>
      simp only [MongoRepository.handle, MongoRepository.updateAttempt, Program.run_bind,
        Program.run_lift, Program.done_bind]
      cases hid : objectID id with
      | error e => rfl
      | ok oid =>
        simp only [mongo, ExceptT.run_mk, Program.alone_bind, Program.alone_send, MongoStore.exec]
        rcases s.updateAttempt_cases env ⟨tenantID, oid, false⟩ update with ⟨-, h⟩ | ⟨a, -, -, h⟩
        · rw [h]
          simp only [MongoRepository.alone_getAttempt hid, AttemptFilter.matches_byID]
          exact ⟨oid, hid, rfl, rfl⟩
        · rw [h]
          rfl
    | getClass tenantID id =>
      simp only [MongoRepository.handle, MongoRepository.getClass, Program.run_bind, Program.run_lift,
        Program.done_bind]
      cases objectID id <;> rfl
    | getCenter tenantID id =>
      simp only [MongoRepository.handle, MongoRepository.getCenter, Program.run_bind, Program.run_lift,
        Program.done_bind]
      cases objectID id <;> rfl
    | getQuiz tenantID id =>
      simp only [MongoRepository.handle, MongoRepository.getQuiz, Program.run_bind, Program.run_lift,
        Program.done_bind]
      cases objectID id <;> rfl
    | listStudents tenantID req centerIDs classIDs =>
      simp only [MongoRepository.handle, mongo, ExceptT.run_mk, Program.alone_send, MongoStore.exec, Contract]
    | findActiveAttempt tenantID assignmentID quizID studentID => exact ⟨rfl, rfl⟩

end ErgGo.Lms
