import ErgGo.Lms.AssignmentRecipients
import ErgGo.Lms.StudentMoves

/-!
# Assignments that fail half way

`CreateAssignment` stores one assignment for each quiz and stops at the first quiz that is
missing or whose requests fail. What it has stored by then stays.
-/

namespace ErgGo.Lms
open Go Documents Concurrent Program

section Batches

variable [Library] [MongoServer] {b : Backend}

/-- The repository behind a connection on which any request may fail. A request that fails is
not carried out; where `lossy`, it can also be that only its reply is lost. -/
def unreliable (b : Backend) (lossy : Bool) (env : Env × Fault) :
    (q : RepoRequest) → Store b → RepoReply q × Store b :=
  withFaults .storeFailure (repository b).exec (env.1, if env.2 = .unacknowledged ∧ ¬lossy then .lost else env.2)

lemma unreliable_none (lossy : Bool) (env : Env) : unreliable b lossy (env, .none) = (repository b).exec env := rfl

def Store.getQuiz : (b : Backend) → Store b → String → String → Except LmsError (Option Quiz)
  | .memory, s, tenantID, id => do
    let oid ← objectID id
    return MemoryStore.quizzes s |>.find? (fun quiz => quiz.id = oid && quiz.tenantID = tenantID)
  | .mongo, s, tenantID, id => do
    let oid ← objectID id
    return MongoStore.quizzes s |>.find (fun quiz => quiz.id = oid && quiz.tenantID = tenantID)

/-- A new assignment can get an id. The in-memory repository does not look. -/
def Store.HasRoom : (b : Backend) → Store b → Prop
  | .memory, _ => True
  | .mongo, s => ∃ id, id ∉ (MongoStore.assignments s).docs.map Assignment.id

lemma exec_getQuiz (env : Env) (tenantID id : String) (s : Store b) :
    (repository b).exec env (.getQuiz tenantID id) s = (s.getQuiz b tenantID id, s) := by
  cases b with
  | memory => rfl
  | mongo =>
    change (MongoRepository.getQuiz tenantID id).run.alone MongoStore.exec env s = _
    simp only [MongoRepository.getQuiz, Program.run_bind, Program.run_lift, Program.done_bind, Store.getQuiz]
    cases objectID id <;> rfl

/-! ## Reading -/

section Reading

variable {Env' α β : Type} {exec : Env' → (q : RepoRequest) → Store b → RepoReply q × Store b} {failing : Prop}
  {s : Store b} {tenantID : String} {actor : Actor}

/-- Reads are answered from the store, or fail. -/
def AnswersReads (exec : Env' → (q : RepoRequest) → Store b → RepoReply q × Store b) (failing : Prop) : Prop :=
  ∀ env q truth s, (∀ env', (repository b).exec env' q s = (truth, s)) →
    (exec env q s).2 = s ∧ ((exec env q s).1 = truth ∨ failing ∧ ∃ err, (exec env q s).1 = .error err)

lemma answersReads_repository : AnswersReads (repository b).exec False := by
  intro env q truth s h
  rw [h env]
  exact ⟨rfl, .inl rfl⟩

lemma answersReads_unreliable (lossy : Bool) : AnswersReads (unreliable b lossy) True := by
  intro env q truth s h
  unfold unreliable
  generalize (if env.2 = Fault.unacknowledged ∧ ¬lossy then Fault.lost else env.2) = fault
  cases fault with
  | none => exact ⟨congrArg Prod.snd (h env.1), .inl (congrArg Prod.fst (h env.1))⟩
  | lost => exact ⟨rfl, .inr ⟨trivial, _, rfl⟩⟩
  | unacknowledged => exact ⟨congrArg Prod.snd (h env.1), .inr ⟨trivial, _, rfl⟩⟩

/-- The call leaves the store alone and comes out as it should, or fails where requests may fail. -/
structure Reports (exec : Env' → (q : RepoRequest) → Store b → RepoReply q × Store b) (failing : Prop)
    (s : Store b) (truth : Except LmsError α) (call : Call α) : Prop where
  ensures : Ensures exec (fun reply s' => s' = s ∧ (reply = truth ∨ failing ∧ ∃ err, reply = .error err)) call.run s

omit [Library] [MongoServer] in
lemma Reports.lift (x : Except LmsError α) : Reports exec failing s x (liftM x : Call α) := ⟨rfl, .inl rfl⟩

lemma Reports.repo (hexec : AnswersReads exec failing) {q : RepoRequest} {truth : RepoReply q}
    (h : ∀ env, (repository b).exec env q s = (truth, s)) : Reports exec failing s truth (repo q) :=
  ⟨fun env => hexec env q truth s h⟩

omit [Library] [MongoServer] in
lemma Reports.bind {truth : Except LmsError α} {truths : α → Except LmsError β} {call : Call α} {f : α → Call β}
    (hcall : Reports exec failing s truth call) (hf : ∀ a, Reports exec failing s (truths a) (f a)) :
    Reports exec failing s (truth >>= truths) (call >>= f) := by
  refine ⟨Ensures.run_bind (hcall.ensures.mono ?_)⟩
  rintro reply s' ⟨rfl, rfl | ⟨hfailing, err, rfl⟩⟩
  · cases reply with
    | ok a => exact (hf a).ensures
    | error err => exact ⟨rfl, .inl rfl⟩
  · exact ⟨rfl, .inr ⟨hfailing, err, rfl⟩⟩

omit [Library] [MongoServer] in
lemma Reports.ite {c : Prop} [Decidable c] {x y : Except LmsError α} {p q : Call α}
    (hp : Reports exec failing s x p) (hq : Reports exec failing s y q) :
    Reports exec failing s (if c then x else y) (if c then p else q) := by
  by_cases hc : c
  · rw [if_pos hc, if_pos hc]
    exact hp
  · rw [if_neg hc, if_neg hc]
    exact hq

/-- The check comes out as it should, or as a refusal where requests may fail. -/
structure Permits (exec : Env' → (q : RepoRequest) → Store b → RepoReply q × Store b) (failing : Prop)
    (s : Store b) (truth : Bool) (p : Program RepoRequest RepoReply Bool) : Prop where
  ensures : Ensures exec (fun allowed s' => s' = s ∧ (allowed = truth ∨ failing ∧ allowed = false)) p s

omit [Library] [MongoServer] in
lemma Permits.return (truth : Bool) : Permits exec failing s truth (pure truth) := ⟨rfl, .inl rfl⟩

omit [Library] [MongoServer] in
lemma Permits.ite {c : Prop} [Decidable c] {p q : Program RepoRequest RepoReply Bool} {t u : Id Bool}
    (hp : Permits exec failing s t p) (hq : Permits exec failing s u q) :
    Permits exec failing s (if c then t else u) (if c then p else q) := by
  by_cases hc : c
  · rw [if_pos hc, if_pos hc]
    exact hp
  · rw [if_neg hc, if_neg hc]
    exact hq

lemma Permits.ifFound (hexec : AnswersReads exec failing) (id : String)
    {k : Center → Program RepoRequest RepoReply Bool} {truth : Center → Id Bool}
    (hk : ∀ center, Permits exec failing s (truth center) (k center)) :
    Permits exec failing s (StudentCall.ifFound truth ((s.roster b).getCenter tenantID id))
      (Program.send (RepoRequest.getCenter tenantID id) >>= StudentCall.ifFound k) := by
  refine ⟨fun env => ?_⟩
  obtain ⟨hstore, hreply⟩ := hexec env (.getCenter tenantID id) _ s fun env => exec_getCenter env tenantID id s
  rw [hstore]
  obtain hreply | ⟨hfailing, err, hreply⟩ := hreply
  · rw [hreply]
    rcases (s.roster b).getCenter tenantID id with err | _ | center
    · exact (Permits.return false).ensures
    · exact (Permits.return false).ensures
    · exact (hk center).ensures
  · rw [hreply]
    exact ⟨rfl, .inr ⟨hfailing, rfl⟩⟩

lemma canManageClass_permits (hexec : AnswersReads exec failing) (class' : Class) :
    Permits exec failing s ((s.roster b).canAccessClass tenantID actor class')
      (Service.canManageClass tenantID actor class') := by
  unfold Service.canManageClass Roster.canAccessClass
  by_cases hdirect : (actor.canAccessGlobal || class'.homeroomTeacherID = actor.userID) = true
  · rw [if_pos hdirect, hdirect]
    exact .return true
  rw [if_neg hdirect, Bool.eq_false_iff.mpr hdirect, Bool.false_or]
  unfold Roster.canAccessCenter
  have hglobal : ¬actor.canAccessGlobal := by
    intro h
    rw [h, Bool.true_or] at hdirect
    exact hdirect rfl
  rw [StudentCall.canAccessCenter_eq _ hglobal, StudentCall.canAccessCenter_eq _ hglobal]
  exact Permits.ifFound hexec _ fun center =>
    .ite (.return true) (.ite (Permits.ifFound hexec center.parentID.hex fun parent => .return _) (.return false))

omit [Library] [MongoServer] in
lemma Permits.required {truth : Bool} {p : Program RepoRequest RepoReply Bool} (hp : Permits exec failing s truth p)
    {err : LmsError} {x : Except LmsError α} {f : Call α} (hf : Reports exec failing s x f) :
    Reports exec failing s (rejectIf (!truth) err >>= fun _ => x)
      (ExceptT.lift p >>= fun allowed => (rejectIf (!allowed) err : Except LmsError Unit) >>= fun _ => f) := by
  constructor
  rw [Program.run_lift_bind]
  refine Ensures.bind (hp.ensures.mono ?_)
  rintro allowed s' ⟨rfl, rfl | ⟨hfailing, rfl⟩⟩
  · exact (Reports.bind (.lift _) fun _ => hf).ensures
  · exact ⟨rfl, .inr ⟨hfailing, err, rfl⟩⟩

end Reading

/-! ## The checks -/

def Roster.assignmentRecipients (r : Roster) (b : Backend) (tenantID : String) (req : CreateAssignmentRequest) :
    Except LmsError (List ObjectID) :=
  if req.recipientMode = "all" then do
    let (students, _, _) ← r.listStudents b tenantID { classID := req.classID, limit := 100 } [] []
    return students.map Student.id
  else return objectIDsOrNil req.studentIDs

/-- The class and the recipients that the call has found when it comes to the quizzes. -/
def Roster.assignmentTarget (r : Roster) (b : Backend) (tenantID : String) (actor : Actor)
    (req : CreateAssignmentRequest) : Except LmsError (Class × List ObjectID) := do
  let found ← r.getClass tenantID req.classID
  let class' ← required found
  rejectIf (!r.canAccessClass tenantID actor class') .scopeForbidden
  let recipients ← r.assignmentRecipients b tenantID req
  rejectIf recipients.isEmpty .emptyRecipient
  return (class', recipients)

/-- The call up to its loop. -/
def Service.assignmentTarget (tenantID : String) (actor : Actor) (req : CreateAssignmentRequest) :
    Call (Class × List ObjectID) := do
  let found ← repo (.getClass tenantID req.classID)
  let class' ← required found
  let allowed ← ExceptT.lift (canManageClass tenantID actor class')
  rejectIf (!allowed) .scopeForbidden
  let recipients ← assignmentRecipients tenantID req
  rejectIf recipients.isEmpty .emptyRecipient
  return (class', recipients)

/-- The loop. -/
def Service.assignQuizzes (tenantID : String) (actor : Actor) (req : CreateAssignmentRequest)
    (target : Class × List ObjectID) : Call AssignmentBatchResponse := do
  let ids ← req.quizIDs.mapM (assignQuiz tenantID actor req target.1 target.2)
  return ⟨ids, target.2.length⟩

/-- The assignment of one turn. -/
def Service.newAssignment (tenantID : String) (actor : Actor) (req : CreateAssignmentRequest)
    (target : Class × List ObjectID) (quizID : String) (quiz : Quiz) : Assignment where
  tenantID := tenantID
  classID := target.1.id
  quizID := (objectID quizID).toOption.getD .nil
  subjectID := quiz.subjectID
  studentIDs := target.2
  dueAt := req.dueAt
  teacherNote := req.teacherNote
  assignedBy := actor.userID
  recipientMode := req.recipientMode

omit [Library] [MongoServer] in
lemma assignQuiz_eq (tenantID : String) (actor : Actor) (req : CreateAssignmentRequest)
    (target : Class × List ObjectID) (quizID : String) :
    Service.assignQuiz tenantID actor req target.1 target.2 quizID = (do
      let found ← repo (.getQuiz tenantID quizID)
      let quiz ← required found
      let assignment ← repo (.createAssignment (Service.newAssignment tenantID actor req target quizID quiz))
      return assignment.id.hex) := rfl

omit [MongoServer] in
lemma createAssignment_eq (tenantID : String) (actor : Actor) (req : CreateAssignmentRequest) :
    Service.createAssignment tenantID actor req =
      Service.assignmentTarget tenantID actor req >>= Service.assignQuizzes tenantID actor req := by
  simp only [Service.createAssignment, Service.assignmentTarget, Service.assignQuizzes, LawfulMonad.bind_assoc,
    LawfulMonad.pure_bind]

section Checking

variable {Env' : Type} {exec : Env' → (q : RepoRequest) → Store b → RepoReply q × Store b} {failing : Prop}
  {s : Store b} {tenantID : String} {actor : Actor} {req : CreateAssignmentRequest}

lemma assignmentTarget_reports (hexec : AnswersReads exec failing) :
    Reports exec failing s ((s.roster b).assignmentTarget b tenantID actor req)
      (Service.assignmentTarget tenantID actor req) := by
  refine .bind (.repo hexec fun env => exec_getClass env tenantID req.classID s) fun found => ?_
  refine .bind (.lift _) fun class' => ?_
  refine (canManageClass_permits hexec class').required ?_
  refine .bind ?_ fun recipients => .bind (.lift _) fun _ => .lift (.ok (class', recipients))
  have hpage : Reports exec failing s
      ((s.roster b).listStudents b tenantID { classID := req.classID, limit := 100 } [] [])
      (repo (.listStudents tenantID { classID := req.classID, limit := 100 } [] [])) :=
    .repo hexec fun env => exec_listStudents env tenantID _ [] [] s
  exact .ite (hpage.bind fun page => .lift (.ok (page.1.map Student.id))) (.lift (.ok _))

end Checking

/-! ## The loop -/

section Looping

variable {tenantID : String} {actor : Actor} {req : CreateAssignmentRequest} {target : Class × List ObjectID}

omit [Library] [MongoServer] in
lemma Assignment.id_created {a : Assignment} (ha : a.id.isZero) (env : Env) : (a.created env).id = env.newID :=
  if_pos ha

omit [Library] in
lemma Adds.trans [Library] {s s₁ s₂ : Store b} {created more : List Assignment} (h : Adds s s₁ created)
    (hmore : Adds s₁ s₂ more) : Adds s s₂ (created ++ more) := by
  rw [Adds, hmore, h, List.append_assoc]

/-- How many quizzes a call can have and, should it fail, still have stored nothing. -/
def atomicQuizzes (lossy : Bool) : ℕ := if lossy then 0 else 1

/-- So many assignments were stored at most, and fewer by one with an error, unless replies get lost. -/
def Leaves {α : Type} (lossy : Bool) (n : ℕ) (s : Store b) (reply : Except LmsError α) (s' : Store b) : Prop :=
  ∃ created, Adds s s' created ∧ created.length ≤ n ∧
    ∀ err, reply = .error err → created.length + atomicQuizzes lossy ≤ n

lemma leaves_nothing {α : Type} (lossy : Bool) (s : Store b) (reply : Except LmsError α) :
    Leaves lossy 1 s reply s := by
  refine ⟨[], (List.append_nil _).symm, Nat.zero_le _, fun _ _ => ?_⟩
  cases lossy <;> decide

lemma exec_createAssignment (env : Env) (assignment : Assignment) (s : Store b) :
    ∃ created, Adds s ((repository b).exec env (.createAssignment assignment) s).2 created ∧ created.length ≤ 1 ∧
      ∀ err, ((repository b).exec env (.createAssignment assignment) s).1 = .error err → created = [] := by
  have hcontract := (repository b).contract env (.createAssignment assignment) s
  cases hreply : ((repository b).exec env (.createAssignment assignment) s).1 with
  | ok a =>
    rw [hreply] at hcontract
    refine ⟨[a.kept (repository b).keeps], ?_, le_rfl, fun err h => by cases h⟩
    rw [Adds, hcontract.2]
  | error err =>
    rw [hreply] at hcontract
    refine ⟨[], ?_, Nat.zero_le _, fun _ _ => rfl⟩
    rw [Adds, hcontract, List.append_nil]

lemma createAssignment_leaves (lossy : Bool) (env : Env × Fault) (assignment : Assignment) (s : Store b) :
    Leaves lossy 1 s (unreliable b lossy env (.createAssignment assignment) s).1
      (unreliable b lossy env (.createAssignment assignment) s).2 := by
  obtain ⟨env, fault⟩ := env
  obtain ⟨created, hadds, hlength, hnone⟩ := exec_createAssignment env assignment s
  cases fault with
  | none =>
    refine ⟨created, hadds, hlength, fun err h => ?_⟩
    rw [hnone err h]
    cases lossy <;> decide
  | lost => exact leaves_nothing lossy s _
  | unacknowledged =>
    cases lossy with
    | false => exact leaves_nothing false s _
    | true => exact ⟨created, hadds, hlength, fun _ _ => hlength⟩

lemma Leaves.mono_reply {α β : Type} {lossy : Bool} {n : ℕ} {s s' : Store b} {reply : Except LmsError α}
    {reply' : Except LmsError β} (h : Leaves lossy n s reply s')
    (hreply : ∀ err, reply' = .error err → ∃ err, reply = .error err) : Leaves lossy n s reply' s' := by
  obtain ⟨created, hadds, hlength, herror⟩ := h
  refine ⟨created, hadds, hlength, fun err h => ?_⟩
  obtain ⟨err, h⟩ := hreply err h
  exact herror err h

lemma assignQuiz_leaves (lossy : Bool) (quizID : String) (s : Store b) :
    Ensures (unreliable b lossy) (Leaves lossy 1 s)
      (Service.assignQuiz tenantID actor req target.1 target.2 quizID).run s := by
  have hread : Reports (unreliable b lossy) True s (s.getQuiz b tenantID quizID) (repo (.getQuiz tenantID quizID)) :=
    .repo (answersReads_unreliable lossy) fun env => exec_getQuiz env tenantID quizID s
  rw [assignQuiz_eq]
  refine Ensures.run_bind (hread.ensures.mono ?_)
  rintro (err | found) s₁ ⟨rfl, -⟩
  · exact leaves_nothing lossy s₁ _
  refine Ensures.lift_bind (fun _ _ => leaves_nothing lossy s₁ _) fun quiz _ => Ensures.run_bind fun env => ?_
  have hleaves := createAssignment_leaves lossy env (Service.newAssignment tenantID actor req target quizID quiz) s₁
  generalize unreliable b lossy env
    (.createAssignment (Service.newAssignment tenantID actor req target quizID quiz)) s₁ = out at hleaves ⊢
  obtain ⟨reply | a, s₂⟩ := out
  · exact hleaves.mono_reply fun _ _ => ⟨_, rfl⟩
  · exact hleaves.mono_reply fun _ h => by cases h

/-- A loop that fails leaves assignments for the quizzes before. -/
lemma assignQuizzes_leaves (lossy : Bool) (quizIDs : List String) (s : Store b) :
    Ensures (unreliable b lossy) (Leaves lossy quizIDs.length s)
      (quizIDs.mapM (Service.assignQuiz tenantID actor req target.1 target.2)).run s := by
  induction quizIDs generalizing s with
  | nil => exact ⟨[], (List.append_nil _).symm, le_rfl, fun _ h => by cases h⟩
  | cons quizID quizIDs ih =>
    rw [List.mapM_cons]
    refine Ensures.run_bind ((assignQuiz_leaves lossy quizID s).mono ?_)
    rintro (err | id) s₁ ⟨created, hadds, hlength, herror⟩
    · refine ⟨created, hadds, hlength.trans (by simp), fun err h => ?_⟩
      have hone := herror _ rfl
      exact hone.trans (by simp)
    refine Ensures.run_bind ((ih s₁).mono ?_)
    rintro (err | ids) s₂ ⟨more, hmore, hmoreLength, hmoreError⟩
    · refine ⟨created ++ more, hadds.trans hmore, ?_, fun _ _ => ?_⟩
      · rw [List.length_append, List.length_cons]
        omega
      · have hfewer := hmoreError _ rfl
        rw [List.length_append, List.length_cons]
        omega
    · refine ⟨created ++ more, hadds.trans hmore, ?_, fun _ h => by cases h⟩
      rw [List.length_append, List.length_cons]
      omega

end Looping

/-! ## All or nothing -/

section AllOrNothing

variable {tenantID : String} {actor : Actor} {req : CreateAssignmentRequest}

/-- A call that returns an error has stored no assignment, whichever of its requests fail. -/
def CreatesAllOrNothing (b : Backend) (lossy : Bool) (tenantID : String) (actor : Actor) (req : CreateAssignmentRequest)
    (s : Store b) : Prop :=
  ∀ err s', Evaluates (unreliable b lossy) (Service.createAssignment tenantID actor req).run s (.error err) s' →
    ((repository b).records s').assignments = ((repository b).records s).assignments

/-- The call stores an assignment and then still has something to do that can fail. -/
structure StoresEarly (b : Backend) (lossy : Bool) (tenantID : String) (actor : Actor) (req : CreateAssignmentRequest)
    (s : Store b) : Prop where
  target : ∃ target, (s.roster b).assignmentTarget b tenantID actor req = .ok target
  quiz : ∃ quizID ∈ req.quizIDs.head?, ∃ quiz, s.getQuiz b tenantID quizID = .ok (some quiz)
  room : s.HasRoom b
  length : atomicQuizzes lossy < req.quizIDs.length

lemma assignmentTarget_evaluates (lossy : Bool) {s : Store b} {truth : Except LmsError (Class × List ObjectID)}
    (htarget : (s.roster b).assignmentTarget b tenantID actor req = truth) :
    Evaluates (unreliable b lossy) (Service.assignmentTarget tenantID actor req).run s truth s := by
  have hrun := evaluates_alone (repository b).exec ⟨0, .nil⟩ (Service.assignmentTarget tenantID actor req).run s
  obtain ⟨hstore, hreply⟩ := (assignmentTarget_reports answersReads_repository).ensures.sound hrun
  rw [htarget] at hreply
  obtain hreply | ⟨hfalse, -⟩ := hreply
  · rw [hreply, hstore] at hrun
    exact Evaluates.of_comp (g := fun env => (env, Fault.none)) hrun
  · cases hfalse

lemma createAssignment_takes {s : Store b} (hroom : s.HasRoom b) (assignment : Assignment)
    (hid : assignment.id.isZero) : ∃ env a, ((repository b).exec env (.createAssignment assignment) s).1 = .ok a ∧
      Adds s ((repository b).exec env (.createAssignment assignment) s).2 [a.kept (repository b).keeps] := by
  have hadds : ∀ env a, ((repository b).exec env (.createAssignment assignment) s).1 = .ok a →
      Adds s ((repository b).exec env (.createAssignment assignment) s).2 [a.kept (repository b).keeps] := by
    intro env a h
    have hcontract := (repository b).contract env (.createAssignment assignment) s
    rw [h] at hcontract
    rw [Adds, hcontract.2]
  cases b with
  | memory => exact ⟨⟨0, .nil⟩, _, rfl, hadds _ _ rfl⟩
  | mongo =>
    obtain ⟨id, hfree⟩ := hroom
    have hnew : ((assignment.created ⟨0, id⟩).kept Bson.dateTime).id ∉
        (MongoStore.assignments s).docs.map Assignment.id := by
      rw [Assignment.id_kept, Assignment.id_created hid]
      exact hfree
    have hinsert : (MongoStore.assignments s).insertOne ((assignment.created ⟨0, id⟩).kept Bson.dateTime) ≠ none := by
      unfold Collection.insertOne
      rw [dif_neg hnew]
      exact Option.some_ne_none _
    obtain ⟨assignments, hinsert⟩ := Option.ne_none_iff_exists'.mp hinsert
    have hreply : ((repository .mongo).exec ⟨0, id⟩ (.createAssignment assignment) s).1 =
        .ok (assignment.created ⟨0, id⟩) := by
      change (MongoStore.insertAssignment ⟨0, id⟩ assignment s).1 = _
      unfold MongoStore.insertAssignment
      rw [hinsert]
    exact ⟨_, _, hreply, hadds _ _ hreply⟩

lemma createAssignment_refused {s : MongoStore} (hroom : ¬Store.HasRoom .mongo s) (assignment : Assignment) (env : Env)
    (hid : assignment.id.isZero) :
    (repository .mongo).exec env (.createAssignment assignment) s = (.error .duplicateKey, s) := by
  have htaken : ((assignment.created env).kept Bson.dateTime).id ∈ s.assignments.docs.map Assignment.id := by
    rw [Assignment.id_kept, Assignment.id_created hid]
    by_contra hfree
    exact hroom ⟨env.newID, hfree⟩
  change s.insertAssignment env assignment = _
  unfold MongoStore.insertAssignment Collection.insertOne
  rw [dif_pos htaken]

/-- A turn whose quiz is missing, or for which there is no id, stores nothing. -/
lemma assignQuiz_fails {lossy : Bool} {target : Class × List ObjectID} {quizID : String} {s : Store b}
    (h : ¬((∃ quiz, s.getQuiz b tenantID quizID = .ok (some quiz)) ∧ s.HasRoom b)) :
    Ensures (unreliable b lossy) (fun reply s' => s' = s ∧ ∃ err, reply = .error err)
      (Service.assignQuiz tenantID actor req target.1 target.2 quizID).run s := by
  have hread : Reports (unreliable b lossy) True s (s.getQuiz b tenantID quizID) (repo (.getQuiz tenantID quizID)) :=
    .repo (answersReads_unreliable lossy) fun env => exec_getQuiz env tenantID quizID s
  rw [assignQuiz_eq]
  refine Ensures.run_bind (hread.ensures.mono ?_)
  rintro (err | found) s₁ ⟨rfl, hreply⟩
  · exact ⟨rfl, err, rfl⟩
  refine Ensures.lift_bind (fun err _ => ⟨rfl, err, rfl⟩) fun quiz hfound => Ensures.run_bind fun env => ?_
  have hquiz : s₁.getQuiz b tenantID quizID = .ok (some quiz) := by
    rw [← required_ok hfound]
    obtain hreply | ⟨-, err, hreply⟩ := hreply
    · exact hreply.symm
    · cases hreply
  have hroom : ¬s₁.HasRoom b := fun hroom => h ⟨⟨quiz, hquiz⟩, hroom⟩
  cases b with
  | memory => exact absurd trivial hroom
  | mongo =>
    obtain ⟨env, fault⟩ := env
    have hrefused :=
      createAssignment_refused hroom (Service.newAssignment tenantID actor req target quizID quiz) env rfl
    cases fault <;> cases lossy <;> simp [unreliable, withFaults, hrefused, Ensures]

omit [Library] [MongoServer] in
lemma evaluates_repo {Env' : Type} (exec : Env' → (q : RepoRequest) → Store b → RepoReply q × Store b) (env : Env')
    (q : RepoRequest) (s : Store b) : Evaluates exec (repo q).run s (exec env q s).1 (exec env q s).2 :=
  .request env (.done _ _)

/-- A turn whose quiz is there comes to its write. -/
lemma assignQuiz_evaluates {lossy : Bool} {target : Class × List ObjectID} {quizID : String} {quiz : Quiz}
    {s s' : Store b}
    {reply : RepoReply (.createAssignment (Service.newAssignment tenantID actor req target quizID quiz))}
    (hquiz : s.getQuiz b tenantID quizID = .ok (some quiz)) (env : Env × Fault)
    (hwrite : unreliable b lossy env
      (.createAssignment (Service.newAssignment tenantID actor req target quizID quiz)) s = (reply, s')) :
    Evaluates (unreliable b lossy) (Service.assignQuiz tenantID actor req target.1 target.2 quizID).run s
      (reply.map fun a => a.id.hex) s' := by
  have hread := evaluates_repo (unreliable b lossy) (env.1, .none) (.getQuiz tenantID quizID) s
  rw [unreliable_none, exec_getQuiz, hquiz] at hread
  have hcreate := evaluates_repo (unreliable b lossy) env
    (.createAssignment (Service.newAssignment tenantID actor req target quizID quiz)) s
  rw [hwrite] at hcreate
  rw [assignQuiz_eq]
  refine hread.run_bind (.lift_bind rfl ?_)
  cases reply with
  | error err => exact hcreate.run_bind_error _
  | ok a => exact hcreate.run_bind (.done _ _)

lemma exists_partial {lossy : Bool} {s : Store b} (h : StoresEarly b lossy tenantID actor req s) :
    ∃ err s' a, Evaluates (unreliable b lossy) (Service.createAssignment tenantID actor req).run s (.error err) s' ∧
      Adds s s' [a] := by
  obtain ⟨⟨target, htarget⟩, ⟨quizID, hhead, quiz, hquiz⟩, hroom, hlength⟩ := h
  obtain ⟨rest, hquizIDs⟩ := List.head?_eq_some_iff.mp hhead
  obtain ⟨env, a, hreply, hadds⟩ := createAssignment_takes hroom
    (Service.newAssignment tenantID actor req target quizID quiz) rfl
  have hchecks := assignmentTarget_evaluates lossy htarget
  suffices hloop : ∃ err s', Evaluates (unreliable b lossy)
      (req.quizIDs.mapM (Service.assignQuiz tenantID actor req target.1 target.2)).run s (.error err) s' ∧
      Adds s s' [a.kept (repository b).keeps] by
    obtain ⟨err, s', hloop, hadds⟩ := hloop
    refine ⟨err, s', _, ?_, hadds⟩
    rw [createAssignment_eq]
    exact hchecks.run_bind (hloop.run_bind_error _)
  rw [hquizIDs] at hlength ⊢
  rw [List.mapM_cons]
  cases lossy with
  | true =>
    -- the reply to the first write gets lost
    have hturn : Evaluates (unreliable b true) (Service.assignQuiz tenantID actor req target.1 target.2 quizID).run s
        (.error .storeFailure) _ := assignQuiz_evaluates hquiz (env, .unacknowledged) rfl
    exact ⟨_, _, hturn.run_bind_error _, hadds⟩
  | false =>
    -- the first write succeeds, and the read of the second quiz fails
    cases rest with
    | nil => exact absurd hlength (lt_irrefl 1)
    | cons second rest =>
      have hturn : Evaluates (unreliable b false) (Service.assignQuiz tenantID actor req target.1 target.2 quizID).run s
          (.ok a.id.hex) _ := assignQuiz_evaluates hquiz (env, .none) (Prod.ext hreply rfl)
      have hfails := evaluates_repo (unreliable b false) (env, .lost) (.getQuiz tenantID second)
        ((repository b).exec env (.createAssignment (Service.newAssignment tenantID actor req target quizID quiz)) s).2
      refine ⟨.storeFailure, _, hturn.run_bind ?_, hadds⟩
      apply Evaluates.run_bind_error
      rw [List.mapM_cons, assignQuiz_eq]
      exact (hfails.run_bind_error _).run_bind_error _

/-- Whatever requests fail, a call that returns an error has stored nothing exactly when it is
refused, its first quiz is missing or it has too few quizzes to fail after a write. -/
theorem createsAllOrNothing_iff (b : Backend) (lossy : Bool) (tenantID : String) (actor : Actor)
    (req : CreateAssignmentRequest) (s : Store b) :
    CreatesAllOrNothing b lossy tenantID actor req s ↔ ¬StoresEarly b lossy tenantID actor req s := by
  constructor
  · intro hatomic hearly
    obtain ⟨err, s', a, hrun, hadds⟩ := exists_partial hearly
    have hsame := hadds.symm.trans (hatomic err s' hrun)
    simp at hsame
  intro hsafe err s' hrun
  suffices hensures : Ensures (unreliable b lossy) (fun reply s' => ∀ err, reply = .error err →
      ((repository b).records s').assignments = ((repository b).records s).assignments)
      (Service.createAssignment tenantID actor req).run s from hensures.sound hrun err rfl
  rw [createAssignment_eq]
  refine Ensures.run_bind ((assignmentTarget_reports (answersReads_unreliable lossy)).ensures.mono ?_)
  rintro (err | target) s₁ ⟨rfl, hreply⟩
  · exact fun _ _ => rfl
  have htarget : (s₁.roster b).assignmentTarget b tenantID actor req = .ok target := by
    obtain hreply | ⟨-, err, hreply⟩ := hreply
    · exact hreply.symm
    · cases hreply
  refine Ensures.run_bind ?_
  by_cases hlength : req.quizIDs.length ≤ atomicQuizzes lossy
  · refine (assignQuizzes_leaves lossy req.quizIDs s₁).mono ?_
    rintro (err | ids) s₂ ⟨created, hadds, -, herror⟩
    · have hfewer := herror err rfl
      have hnone : created = [] := List.eq_nil_of_length_eq_zero (by omega)
      rw [hnone, Adds, List.append_nil] at hadds
      exact fun _ _ => hadds
    · exact fun _ h => by cases h
  · cases hquizIDs : req.quizIDs with
    | nil =>
      rw [hquizIDs] at hlength
      exact absurd (Nat.zero_le _) hlength
    | cons quizID rest =>
      have hfirst : ¬((∃ quiz, s₁.getQuiz b tenantID quizID = .ok (some quiz)) ∧ s₁.HasRoom b) := by
        rintro ⟨hquiz, hroom⟩
        have hhead : quizID ∈ req.quizIDs.head? := by rw [hquizIDs, List.head?_cons, Option.mem_some_iff]
        exact hsafe ⟨⟨target, htarget⟩, ⟨quizID, hhead, hquiz⟩, hroom, not_le.mp hlength⟩
      rw [List.mapM_cons]
      refine Ensures.run_bind ((assignQuiz_fails hfirst).mono ?_)
      rintro _ s₂ ⟨rfl, err, rfl⟩
      exact fun _ _ => rfl

end AllOrNothing

end Batches

section Sample

attribute [local instance] asciiLibrary Sample.server

namespace Sample

/-- Quiz 3 is there, quiz 9 is not. -/
def assignBoth : CreateAssignmentRequest :=
  { classID := (id 2).hex, quizIDs := [(id 3).hex, (id 9).hex], recipientMode := "all" }

def onePupil : MemoryStore := classStore ⟨[pupil 1], by simp⟩

end Sample

/-- The second of two quizzes is unknown; the assignment of the first one stays. -/
theorem first_assignment_stays : ∃ err m,
    Evaluates memoryRepository.exec
      (Service.createAssignment "erg" ⟨"admin", ["admin"]⟩ Sample.assignBoth).run Sample.onePupil (.error err) m ∧
    m.assignments ≠ Sample.onePupil.assignments := by
  generalize hassigned : (Service.createAssignment "erg" ⟨"admin", ["admin"]⟩ Sample.assignBoth).run.alone
    memoryRepository.exec ⟨0, Sample.id 5⟩ Sample.onePupil = outcome
  have hcall := evaluates_alone memoryRepository.exec ⟨0, Sample.id 5⟩
    (Service.createAssignment "erg" ⟨"admin", ["admin"]⟩ Sample.assignBoth).run Sample.onePupil
  rw [hassigned] at hcall
  have herror : outcome.1.isOk = false := by
    rw [← hassigned]
    decide
  have hstored : outcome.2.assignments.length = 1 := by
    rw [← hassigned]
    decide
  obtain ⟨err | resp, m⟩ := outcome
  · refine ⟨err, m, hcall, fun hsame => ?_⟩
    rw [hsame] at hstored
    cases hstored
  · cases herror

end Sample

end ErgGo.Lms
