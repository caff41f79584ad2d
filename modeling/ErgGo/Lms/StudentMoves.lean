import ErgGo.Lms.AccountService
import ErgGo.Lms.StudentAccess

/-!
# Moving students between classes

A student changes its class by an update of its own or together with others by a bulk move.
The update asks for access to the student and to the class it moves to, the bulk move for
access to the class it moves from.
-/

namespace ErgGo.Lms
open Go Documents Concurrent Program

/-! ## The store -/

/-- The fields an update of a student sets. -/
structure StudentUpdate where
  profile : NormalizedStudentProfile
  birthday : Option Time := none
  enrollmentDate : Option Time := none
  status : Option String := none
  class' : Option Class := none

def StudentUpdate.apply (update : StudentUpdate) (now : Time) (student : Student) : Student :=
  { student with
    studentCode := update.profile.studentCode
    fullName := update.profile.fullName
    email := update.profile.email
    gender := update.profile.gender
    phone := update.profile.phone
    address := update.profile.address
    parentName := update.profile.parentName
    parentPhone := update.profile.parentPhone
    parentEmail := update.profile.parentEmail
    parentRelationship := update.profile.parentRelationship
    note := update.profile.note
    birthday := update.birthday <|> student.birthday
    enrollmentDate := update.enrollmentDate <|> student.enrollmentDate
    status := update.status.getD student.status
    classID := update.class'.elim student.classID Class.id
    centerID := update.class'.elim student.centerID Class.centerID
    updatedAt := now }

def Student.placed (now : Time) (target : Class) (student : Student) : Student :=
  { student with centerID := target.centerID, classID := target.id, updatedAt := now }

inductive StudentRequest where
  | getCenter (tenantID id : String)
  | getClass (tenantID id : String)
  | getStudent (tenantID id : String)
  | updateStudent (tenantID id : String) (update : StudentUpdate)
  | setStudentClass (tenantID studentID : String) (target : Class)

abbrev StudentResult : StudentRequest → Type
  | .getCenter .. => Option Center
  | .getClass .. => Option Class
  | .getStudent .. => Option Student
  | .updateStudent .. => Option Student
  | .setStudentClass .. => Unit

abbrev StudentReply (q : StudentRequest) := Except LmsError (StudentResult q)

abbrev StudentCall := ExceptT LmsError (Program StudentRequest StudentReply)

namespace StudentCall

def send (q : StudentRequest) : StudentCall (StudentResult q) := ExceptT.mk (.send q)

/-- A request whose error the caller looks at itself. -/
def reply (q : StudentRequest) : StudentCall (StudentReply q) := ExceptT.lift (.send q)

end StudentCall

def namedStudent (tenantID : String) (id : ObjectID) (student : Student) : Bool :=
  student.tenantID = tenantID && student.id = id

section Moving

variable [Library]

/-- An update is subject to the unique indexes of MongoDB. -/
def updateNamedStudent (b : Backend) (now : Time) (tenantID : String) (id : ObjectID) (update : StudentUpdate)
    (r : Roster) : Except LmsError (Option Student) × Roster :=
  match r.students.find (namedStudent tenantID id) with
  | none => (.ok none, r)
  | some student =>
    let updated := update.apply now student
    if b = .mongo && r.students.docs.any (fun other => other.id ≠ id && other.conflicts updated) then
      (.error .duplicateKey, r)
    else
      (.ok (some updated),
        { r with students := r.students.updateOne (namedStudent tenantID id) ⟨update.apply now, fun _ => rfl⟩ })

def setStudentClass (now : Time) (tenantID : String) (id : ObjectID) (target : Class) (r : Roster) : Roster :=
  { r with students := r.students.updateOne (namedStudent tenantID id) ⟨Student.placed now target, fun _ => rfl⟩ }

def StudentStore.exec (b : Backend) (now : Time) (q : StudentRequest) (r : Roster) : StudentReply q × Roster :=
  match q with
  | .getCenter tenantID id => (r.getCenter tenantID id, r)
  | .getClass tenantID id => (r.getClass tenantID id, r)
  | .getStudent tenantID id => (r.getStudent tenantID id, r)
  | .updateStudent tenantID id update =>
    match objectID id with
    | .error err => (.error err, r)
    | .ok oid => updateNamedStudent b now tenantID oid update r
  | .setStudentClass tenantID studentID target =>
    match objectID studentID with
    | .error err => (.error err, r)
    | .ok oid => (.ok (), setStudentClass now tenantID oid target r)

/-- The store behind a connection that may lose a request or its reply. -/
def StudentStore.faulty (b : Backend) : Time × Fault → (q : StudentRequest) → Roster → StudentReply q × Roster :=
  withFaults .storeFailure (StudentStore.exec b)

/-! ## The service -/

structure UpdateStudentRequest where
  fullName : Option String := none
  classID : Option String := none
  studentCode : Option String := none
  email : Option String := none
  gender : Option String := none
  birthday : Option Time := none
  phone : Option String := none
  address : Option String := none
  parentName : Option String := none
  parentPhone : Option String := none
  parentEmail : Option String := none
  parentRelationship : Option String := none
  enrollmentDate : Option Time := none
  note : Option String := none
  status : Option String := none

structure BulkMoveStudentsRequest where
  studentIDs : List String
  targetClassID : String

structure BulkActionResponse where
  successCount : ℕ := 0
  failedItems : List BulkActionFailedItem := []

def BulkActionResponse.fail (result : BulkActionResponse) (id code message : String) : BulkActionResponse :=
  { result with failedItems := result.failedItems ++ [⟨id, code, message⟩] }

namespace StudentCall

def centerAccess (tenantID : String) (actor : Actor) (centerID : String) : Program StudentRequest StudentReply Bool :=
  canAccessCenter (fun id => Program.send (StudentRequest.getCenter tenantID id)) actor centerID

def classAccess (tenantID : String) (actor : Actor) (class' : Class) : Program StudentRequest StudentReply Bool :=
  if actor.canAccessGlobal || class'.homeroomTeacherID = actor.userID then return true
  else centerAccess tenantID actor class'.centerID.hex

def studentAccess (tenantID : String) (actor : Actor) (student : Student) :
    Program StudentRequest StudentReply Bool :=
  if actor.canAccessGlobal then return true
  else do
    match ← Program.send (StudentRequest.getClass tenantID student.classID.hex) with
    | .ok (some class') => classAccess tenantID actor class'
    | _ => return false

def showStudent (tenantID : String) (student : Student) : StudentCall StudentListItem := do
  let center ← reply (.getCenter tenantID student.centerID.hex)
  let class' ← reply (.getClass tenantID student.classID.hex)
  return studentListItem (center.toOption.join.getD { id := .nil, tenantID := "", status := "" })
    (class'.toOption.join.getD { id := .nil, tenantID := "", centerID := .nil, status := "" }) student

/-- The class an update moves the student to, if it names one. -/
def updatedClass (tenantID : String) (actor : Actor) : Option String → StudentCall (Option Class)
  | none => return none
  | some classID => do
    let class' ← required (← send (.getClass tenantID classID))
    let allowed ← ExceptT.lift (classAccess tenantID actor class')
    rejectIf (!allowed) .scopeForbidden
    return some class'

def updatedProfile (student : Student) (req : UpdateStudentRequest) : NormalizedStudentProfile where
  studentCode := req.studentCode.getD student.studentCode
  fullName := req.fullName.getD student.fullName
  email := req.email.getD student.email
  gender := req.gender.getD student.gender
  phone := req.phone.getD student.phone
  address := req.address.getD student.address
  parentName := req.parentName.getD student.parentName
  parentPhone := req.parentPhone.getD student.parentPhone
  parentEmail := req.parentEmail.getD student.parentEmail
  parentRelationship := req.parentRelationship.getD student.parentRelationship
  note := req.note.getD student.note

def updateStudent (tenantID : String) (actor : Actor) (id : String) (req : UpdateStudentRequest) :
    StudentCall StudentResponse := do
  let student ← required (← send (.getStudent tenantID id))
  let allowed ← ExceptT.lift (studentAccess tenantID actor student)
  rejectIf (!allowed) .scopeForbidden
  let profile ← normalizeStudentProfile (updatedProfile student req)
  let class' ← updatedClass tenantID actor req.classID
  match ← send (.updateStudent tenantID id
      { profile := profile, birthday := req.birthday, enrollmentDate := req.enrollmentDate, status := req.status,
        class' := class' }) with
  | none => throw .runtimePanic
  | some updated => return ⟨← showStudent tenantID updated, ""⟩

/-- The check of a bulk move, which is about the class the students come from. -/
def sourceAccess (tenantID : String) (actor : Actor) (source : Class) : Program StudentRequest StudentReply Bool :=
  if actor.canAccessGlobal then return true
  else do
    if ← centerAccess tenantID actor source.centerID.hex then return true
    else return source.homeroomTeacherID = actor.userID

/-- One turn of the loop. -/
def moveStudent (tenantID : String) (source target : Class) (result : BulkActionResponse) (studentID : String) :
    StudentCall BulkActionResponse := do
  match ← reply (.getStudent tenantID studentID) with
  | .ok (some student) =>
    if student.classID ≠ source.id then
      return result.fail studentID "STUDENT_NOT_IN_CLASS" "student not found in source class"
    else
      match ← reply (.setStudentClass tenantID studentID target) with
      | .error err => return result.fail studentID "MOVE_FAILED" err.text
      | .ok _ => return { result with successCount := result.successCount + 1 }
  | _ => return result.fail studentID "STUDENT_NOT_IN_CLASS" "student not found in source class"

def bulkMoveStudents (tenantID : String) (actor : Actor) (classID : String) (req : BulkMoveStudentsRequest) :
    StudentCall BulkActionResponse := do
  let source ← send (.getClass tenantID classID)
  let target ← send (.getClass tenantID req.targetClassID)
  let source ← required source
  let target ← required target
  let allowed ← ExceptT.lift (sourceAccess tenantID actor source)
  rejectIf (!allowed) .scopeForbidden
  req.studentIDs.foldlM (moveStudent tenantID source target) {}

end StudentCall

/-! ## Access -/

/-- The answer to a read is true, unless the store may fail. -/
def Tells {α : Type} (lossy : Prop) (truth : Except LmsError α) (r : Roster) (out : Except LmsError α × Roster) :
    Prop :=
  out.2 = r ∧ (out.1 = truth ∨ lossy ∧ ∃ err, out.1 = .error err)

/-- A store, which may lose requests, over a roster. -/
structure Answers {Env : Type} (exec : Env → (q : StudentRequest) → Roster → StudentReply q × Roster) (lossy : Prop) :
    Prop where
  getCenter : ∀ env tenantID id r, Tells lossy (r.getCenter tenantID id) r (exec env (.getCenter tenantID id) r)
  getClass : ∀ env tenantID id r, Tells lossy (r.getClass tenantID id) r (exec env (.getClass tenantID id) r)
  getStudent : ∀ env tenantID id r, Tells lossy (r.getStudent tenantID id) r (exec env (.getStudent tenantID id) r)
  setStudentClass : ∀ env tenantID id target r, (exec env (.setStudentClass tenantID id target) r).2 = r ∨
    ∃ now oid, objectID id = .ok oid ∧
      (exec env (.setStudentClass tenantID id target) r).2 = setStudentClass now tenantID oid target r

omit [Library] in
lemma answers_exec (b : Backend) : Answers (StudentStore.exec b) False where
  getCenter _ _ _ _ := ⟨rfl, .inl rfl⟩
  getClass _ _ _ _ := ⟨rfl, .inl rfl⟩
  getStudent _ _ _ _ := ⟨rfl, .inl rfl⟩
  setStudentClass now tenantID id target r := by
    cases hid : objectID id with
    | error err =>
      left
      simp only [StudentStore.exec, hid]
    | ok oid =>
      right
      exact ⟨now, oid, rfl, by simp only [StudentStore.exec, hid]⟩

omit [Library] in
lemma tells_withFaults {q : StudentRequest} {truth : StudentReply q} {r : Roster} {b : Backend}
    (h : ∀ now, StudentStore.exec b now q r = (truth, r)) (env : Time × Fault) :
    Tells True truth r (StudentStore.faulty b env q r) := by
  obtain ⟨now, fault⟩ := env
  cases fault with
  | none => exact ⟨congrArg Prod.snd (h now), .inl (congrArg Prod.fst (h now))⟩
  | lost => exact ⟨rfl, .inr ⟨trivial, _, rfl⟩⟩
  | unacknowledged => exact ⟨congrArg Prod.snd (h now), .inr ⟨trivial, _, rfl⟩⟩

omit [Library] in
lemma answers_faulty (b : Backend) : Answers (StudentStore.faulty b) True where
  getCenter env _ _ _ := tells_withFaults (fun _ => rfl) env
  getClass env _ _ _ := tells_withFaults (fun _ => rfl) env
  getStudent env _ _ _ := tells_withFaults (fun _ => rfl) env
  setStudentClass env tenantID id target r := by
    obtain ⟨hstore, -⟩ | ⟨hstore, -⟩ := withFaults_store LmsError.storeFailure (StudentStore.exec b) env
      (.setStudentClass tenantID id target) r
    · exact .inl hstore
    · obtain hkept | ⟨now, oid, hid, hset⟩ := (answers_exec b).setStudentClass env.1 tenantID id target r
      · exact .inl (hstore.trans hkept)
      · exact .inr ⟨now, oid, hid, hstore.trans hset⟩

namespace StudentCall

section Access

variable {Env : Type} {exec : Env → (q : StudentRequest) → Roster → StudentReply q × Roster} {lossy : Prop} {r : Roster}
  {tenantID : String} {actor : Actor}

/-- The check comes out as it should, or as a refusal where the store may fail. -/
structure Checks (exec : Env → (q : StudentRequest) → Roster → StudentReply q × Roster) (lossy : Prop) (r : Roster)
    (truth : Bool) (p : Program StudentRequest StudentReply Bool) : Prop where
  ensures : Ensures exec (fun allowed s => s = r ∧ (allowed = truth ∨ lossy ∧ allowed = false)) p r

omit [Library] in
lemma ensures_tells {α : Type} {q : StudentRequest} {truth : StudentReply q} {post : α → Roster → Prop}
    {f : StudentReply q → Program StudentRequest StudentReply α} (h : ∀ env, Tells lossy truth r (exec env q r))
    (htruth : Ensures exec post (f truth) r) (herror : lossy → ∀ err, Ensures exec post (f (.error err)) r) :
    Ensures exec post (Program.bind (.send q) f) r := by
  intro env
  obtain ⟨hstore, hreply⟩ := h env
  rw [hstore]
  obtain hreply | ⟨hlossy, err, hreply⟩ := hreply
  · rw [hreply]
    exact htruth
  · rw [hreply]
    exact herror hlossy err

/-- Goes on with a center that was found, and refuses otherwise. -/
def ifFound {m : Type → Type} [Monad m] (k : Center → m Bool) : Except LmsError (Option Center) → m Bool
  | .ok (some center) => k center
  | _ => pure false

/-- The two steps of the check on a center. -/
lemma canAccessCenter_eq {m : Type → Type} [Monad m] (getCenter : String → m (Except LmsError (Option Center)))
    (hglobal : ¬actor.canAccessGlobal) (id : String) :
    canAccessCenter getCenter actor id = getCenter id >>= ifFound fun center =>
      if center.managerUserID = actor.userID then pure true
      else if centerType center = "school" && !center.parentID.isZero then
        getCenter center.parentID.hex >>= ifFound fun parent => pure (parent.managerUserID = actor.userID)
      else pure false := by
  rw [canAccessCenter, if_neg hglobal]
  refine congrArg (getCenter id >>= ·) (funext fun reply => ?_)
  rcases reply with err | _ | center
  · rfl
  · rfl
  · unfold ifFound
    refine ite_congr rfl (fun _ => rfl) fun _ => ite_congr rfl (fun _ => ?_) fun _ => rfl
    refine congrArg (getCenter center.parentID.hex >>= ·) (funext fun reply => ?_)
    rcases reply with err | _ | parent <;> rfl

omit [Library] in
lemma Checks.return (truth : Bool) : Checks exec lossy r truth (pure truth) := ⟨rfl, .inl rfl⟩

omit [Library] in
lemma Checks.refused (hlossy : lossy) (truth : Bool) : Checks exec lossy r truth (pure false) :=
  ⟨rfl, .inr ⟨hlossy, rfl⟩⟩

omit [Library] in
lemma Checks.ite {c : Prop} [Decidable c] {p q : Program StudentRequest StudentReply Bool} {t u : Id Bool}
    (hp : Checks exec lossy r t p) (hq : Checks exec lossy r u q) :
    Checks exec lossy r (if c then t else u) (if c then p else q) := by
  by_cases hc : c
  · rw [if_pos hc, if_pos hc]
    exact hp
  · rw [if_neg hc, if_neg hc]
    exact hq

omit [Library] in
lemma Checks.ifFound (h : Answers exec lossy) (id : String) {k : Center → Program StudentRequest StudentReply Bool}
    {truth : Center → Id Bool} (hk : ∀ center, Checks exec lossy r (truth center) (k center)) :
    Checks exec lossy r (ifFound truth (r.getCenter tenantID id))
      (Program.send (StudentRequest.getCenter tenantID id) >>= StudentCall.ifFound k) := by
  refine ⟨ensures_tells (fun env => h.getCenter env tenantID id r) ?_ fun hlossy _ => (Checks.refused hlossy _).ensures⟩
  generalize r.getCenter tenantID id = reply
  rcases reply with err | _ | center
  · exact (Checks.return false).ensures
  · exact (Checks.return false).ensures
  · exact (hk center).ensures

lemma centerAccess_checks (h : Answers exec lossy) (id : String) :
    Checks exec lossy r (r.canAccessCenter tenantID actor id) (centerAccess tenantID actor id) := by
  unfold centerAccess Roster.canAccessCenter
  by_cases hglobal : actor.canAccessGlobal
  · rw [canAccessCenter, if_pos hglobal, canAccessCenter, if_pos hglobal]
    exact .return true
  rw [canAccessCenter_eq _ hglobal, canAccessCenter_eq _ hglobal]
  exact Checks.ifFound h id fun center =>
    .ite (.return true) (.ite (Checks.ifFound h center.parentID.hex fun parent => .return _) (.return false))

lemma classAccess_checks (h : Answers exec lossy) (class' : Class) :
    Checks exec lossy r (r.canAccessClass tenantID actor class') (classAccess tenantID actor class') := by
  unfold classAccess Roster.canAccessClass
  by_cases hdirect : (actor.canAccessGlobal || class'.homeroomTeacherID = actor.userID) = true
  · rw [if_pos hdirect, hdirect]
    exact .return true
  · rw [if_neg hdirect, Bool.eq_false_iff.mpr hdirect, Bool.false_or]
    exact centerAccess_checks h _

lemma studentAccess_checks (h : Answers exec lossy) (student : Student) :
    Checks exec lossy r (r.canAccessStudent tenantID actor student) (studentAccess tenantID actor student) := by
  unfold studentAccess Roster.canAccessStudent
  by_cases hglobal : actor.canAccessGlobal
  · rw [if_pos hglobal, hglobal]
    exact .return true
  rw [if_neg hglobal, Bool.eq_false_iff.mpr hglobal, Bool.false_or]
  refine ⟨ensures_tells (fun env => h.getClass env tenantID student.classID.hex r) ?_
    fun hlossy _ => (Checks.refused hlossy _).ensures⟩
  generalize r.getClass tenantID student.classID.hex = reply
  rcases reply with err | _ | class'
  · exact (Checks.return false).ensures
  · exact (Checks.return false).ensures
  · exact (classAccess_checks h class').ensures

lemma sourceAccess_checks (h : Answers exec lossy) (source : Class) :
    Checks exec lossy r (r.canAccessClass tenantID actor source) (sourceAccess tenantID actor source) := by
  unfold sourceAccess Roster.canAccessClass
  by_cases hglobal : actor.canAccessGlobal
  · rw [if_pos hglobal, hglobal]
    exact .return true
  rw [if_neg hglobal, Bool.eq_false_iff.mpr hglobal, Bool.false_or]
  refine ⟨Ensures.bind ((centerAccess_checks h source.centerID.hex).ensures.mono ?_)⟩
  rintro allowed s ⟨rfl, hallowed | ⟨hlossy, rfl⟩⟩
  · rw [← hallowed]
    cases allowed with
    | true =>
      rw [Bool.or_true]
      exact (Checks.return true).ensures
    | false =>
      rw [Bool.or_false]
      exact (Checks.return _).ensures
  · -- a center that could not be read is left to the homeroom teacher
    by_cases hteacher : source.homeroomTeacherID = actor.userID
    · rw [decide_eq_true hteacher, Bool.true_or]
      exact (Checks.return true).ensures
    · rw [decide_eq_false hteacher]
      exact (Checks.refused hlossy _).ensures

omit [Library] in
lemma ensures_send_bind {α : Type} {q : StudentRequest} {truth : StudentReply q}
    {post : Except LmsError α → Roster → Prop} {f : StudentResult q → StudentCall α}
    (h : ∀ env, Tells lossy truth r (exec env q r))
    (herror : ∀ err, (truth = .error err ∨ lossy) → post (.error err) r)
    (hok : ∀ a, truth = .ok a → Ensures exec post (f a).run r) : Ensures exec post (send q >>= f).run r := by
  refine Ensures.run_bind fun env => ?_
  obtain ⟨hstore, hreply⟩ := h env
  rw [hstore]
  obtain hreply | ⟨hlossy, err, hreply⟩ := hreply
  · rw [hreply]
    cases htruth : truth with
    | error err => exact herror err (.inl htruth)
    | ok a => exact hok a htruth
  · rw [hreply]
    exact herror err (.inr hlossy)

end Access

/-! ## The update of one student -/

section Update

variable {Env : Type} {exec : Env → (q : StudentRequest) → Roster → StudentReply q × Roster} {lossy : Prop}
  {r : Roster} {tenantID : String} {actor : Actor}

omit [Library] in
lemma rejectIf_bind_error {α : Type} {condition : Bool} {e : LmsError} {f : Unit → Except LmsError α}
    (hf : ∀ err, f () = .error err → err = e) (err : LmsError) (h : rejectIf condition e >>= f = .error err) :
    err = e := by
  cases condition with
  | false => exact hf err h
  | true => exact (Except.error.inj h).symm

lemma normalizeStudentProfile_error {profile : NormalizedStudentProfile} :
    ∀ err, normalizeStudentProfile profile = .error err → err = .invalidStudentProfile := by
  unfold normalizeStudentProfile
  refine rejectIf_bind_error ?_
  refine rejectIf_bind_error ?_
  refine rejectIf_bind_error ?_
  refine rejectIf_bind_error ?_
  refine rejectIf_bind_error ?_
  refine rejectIf_bind_error ?_
  refine rejectIf_bind_error ?_
  refine rejectIf_bind_error ?_
  refine rejectIf_bind_error ?_
  exact fun err h => by cases h

omit [Library] in
/-- A check that passes is true, and one that fails is false where nothing is lost. -/
lemma ensures_rejectIf {α : Type} {truth : Bool} {p : Program StudentRequest StudentReply Bool}
    {f : StudentCall α} {post : Except LmsError α → Roster → Prop} (hp : Checks exec lossy r truth p)
    (herror : lossy ∨ truth = false → post (.error .scopeForbidden) r)
    (hok : truth = true → Ensures exec post f.run r) :
    Ensures exec post ((ExceptT.lift p : StudentCall Bool) >>= fun allowed =>
      rejectIf (!allowed) .scopeForbidden >>= fun _ => f).run r := by
  rw [run_lift_bind]
  refine Ensures.bind (hp.ensures.mono ?_)
  rintro allowed s ⟨rfl, hallowed⟩
  cases allowed with
  | true =>
    refine hok ?_
    obtain htruth | ⟨-, h⟩ := hallowed
    · exact htruth.symm
    · cases h
  | false => exact herror (hallowed.symm.imp (fun hlost => hlost.1) fun htruth => htruth.symm)

omit [Library] in
lemma exec_updateStudent_allowed (b : Backend) (now : Time) (tenantID id : String) (update : StudentUpdate)
    (r : Roster) :
    (StudentStore.exec b now (.updateStudent tenantID id update) r).1 ≠ .error .scopeForbidden := by
  unfold StudentStore.exec
  dsimp only
  split
  · next err hid =>
    intro hforbidden
    obtain rfl := Except.error.inj hforbidden
    exact objectID_ne_scopeForbidden id hid
  · unfold updateNamedStudent
    split
    · exact fun h => by cases h
    · dsimp only
      split
      · exact fun h => by cases h
      · exact fun h => by cases h

/-- An answer to an update: it has passed both checks, or it is forbidden because of one of them
or because a check was lost. -/
structure Requires (lossy access targetAccess : Prop) (resp : Except LmsError StudentResponse) : Prop where
  passed : ∀ updated, resp = .ok updated → access ∧ targetAccess
  forbidden : resp = .error .scopeForbidden → lossy ∨ ¬(access ∧ targetAccess)

omit [Library] in
lemma Requires.of_error {lossy access targetAccess : Prop} {err : LmsError}
    (h : err = .scopeForbidden → lossy ∨ ¬(access ∧ targetAccess)) : Requires lossy access targetAccess (.error err) :=
  ⟨fun _ hok => (by cases hok), fun herr => h (Except.error.inj herr)⟩

/-- What an update that names a class asks for: access to the student and to that class. -/
lemma ensures_updateStudent (h : Answers exec lossy)
    (hwrite : lossy ∨ ∀ env id update s, (exec env (.updateStudent tenantID id update) s).1 ≠ .error .scopeForbidden)
    {id targetID : String} {student : Student} {target : Class} {req : UpdateStudentRequest}
    (hstudent : r.getStudent tenantID id = .ok (some student))
    (htarget : r.getClass tenantID targetID = .ok (some target)) (hreq : req.classID = some targetID) :
    Ensures exec (fun resp _ => Requires lossy (r.canAccessStudent tenantID actor student)
        (r.canAccessClass tenantID actor target) resp)
      (updateStudent tenantID actor id req).run r := by
  unfold updateStudent
  refine ensures_send_bind (fun env => h.getStudent env tenantID id r) (fun err hreason => ?_) fun found hfound => ?_
  · refine .of_error fun _ => .inl (hreason.resolve_left fun htruth => ?_)
    cases htruth.symm.trans hstudent
  obtain rfl : found = some student := Except.ok.inj (hfound.symm.trans hstudent)
  refine Ensures.lift_bind (fun err herr => by cases herr) fun _ hsome => ?_
  obtain rfl := Except.ok.inj hsome
  refine ensures_rejectIf (studentAccess_checks h student) (fun hdenied => ?_) fun haccess => ?_
  · refine .of_error fun _ => hdenied.imp_right fun hfalse hboth => ?_
    exact Bool.false_ne_true (hfalse.symm.trans hboth.1)
  refine Ensures.lift_bind (fun err herr => ?_) fun profile _ => ?_
  · obtain rfl := normalizeStudentProfile_error err herr
    exact .of_error fun hforbidden => by cases hforbidden
  rw [hreq]
  refine Ensures.run_bind ?_
  unfold updatedClass
  refine ensures_send_bind (fun env => h.getClass env tenantID targetID r) (fun err hreason => ?_)
    fun found hfound => ?_
  · refine .of_error fun _ => .inl (hreason.resolve_left fun htruth => ?_)
    cases htruth.symm.trans htarget
  obtain rfl : found = some target := Except.ok.inj (hfound.symm.trans htarget)
  refine Ensures.lift_bind (fun err herr => by cases herr) fun _ hsome => ?_
  obtain rfl := Except.ok.inj hsome
  refine ensures_rejectIf (classAccess_checks h target) (fun hdenied => ?_) fun htargetAccess => ?_
  · refine .of_error fun _ => hdenied.imp_right fun hfalse hboth => ?_
    exact Bool.false_ne_true (hfalse.symm.trans hboth.2)
  refine Ensures.run_bind fun env => ?_
  have hforbidden := hwrite.imp_right fun h => h env id
    { profile := profile, birthday := req.birthday, enrollmentDate := req.enrollmentDate, status := req.status,
      class' := some target } r
  generalize exec env _ r = out at hforbidden ⊢
  obtain ⟨err | _ | updated, s⟩ := out
  · refine .of_error fun herr => .inl (hforbidden.resolve_right fun hne => hne ?_)
    rw [herr]
  · exact .of_error fun herr => by cases herr
  · refine Ensures.run_bind ?_
    unfold showStudent reply
    rw [run_lift_bind]
    exact fun _ _ => ⟨fun _ _ => ⟨haccess, htargetAccess⟩, fun herr => by cases herr⟩

end Update

/-! ## A bulk move -/

section Bulk

variable {Env : Type} {exec : Env → (q : StudentRequest) → Roster → StudentReply q × Roster} {lossy : Prop}
  {r : Roster} {tenantID : String} {actor : Actor} {source target : Class}

/-- Since `before` no students but those of the class have changed. -/
def OthersKept (tenantID : String) (source : Class) (before after : Roster) : Prop :=
  ∀ student ∈ before.students.docs,
    student ∈ after.students.docs ∨ student.tenantID = tenantID ∧ student.classID = source.id

omit [Library] in
lemma othersKept_setStudentClass {before : Roster} (h : OthersKept tenantID source before r) {oid : ObjectID}
    {found : Student} (hfound : r.students.find (namedStudent tenantID oid) = some found)
    (hclass : found.classID = source.id) (now : Time) :
    OthersKept tenantID source before (setStudentClass now tenantID oid target r) := by
  intro student hstudent
  obtain hsame | hmoved := h student hstudent
  · by_cases hnamed : namedStudent tenantID oid student
    · right
      have hmem : found ∈ r.students.docs := List.mem_of_find?_eq_some hfound
      have hnamed' : namedStudent tenantID oid found := List.find?_some hfound
      simp only [namedStudent, Bool.and_eq_true, decide_eq_true_eq] at hnamed hnamed'
      obtain rfl : student = found :=
        List.inj_on_of_nodup_map r.students.nodup hsame hmem (hnamed.2.trans hnamed'.2.symm)
      exact ⟨hnamed.1, hclass⟩
    · exact .inl (mem_modifyFirst_of_neg hsame hnamed)
  · exact .inr hmoved

omit [Library] in
/-- A turn of the loop fails for no store, and moves only a student of the class. -/
lemma ensures_moveStudent (h : Answers exec lossy) {before : Roster} (result : BulkActionResponse) (studentID : String)
    (hkept : OthersKept tenantID source before r) :
    Ensures exec (fun resp s => ∃ result', resp = .ok result' ∧ OthersKept tenantID source before s)
      (moveStudent tenantID source target result studentID).run r := by
  unfold moveStudent reply
  rw [run_lift_bind]
  refine ensures_tells (fun env => h.getStudent env tenantID studentID r) ?_ fun _ _ => ⟨_, rfl, hkept⟩
  cases hfound : r.getStudent tenantID studentID with
  | error err => exact ⟨_, rfl, hkept⟩
  | ok found =>
    cases found with
    | none => exact ⟨_, rfl, hkept⟩
    | some student =>
      dsimp only
      split
      · exact ⟨_, rfl, hkept⟩
      next hclass =>
      rw [run_lift_bind]
      intro env
      have hstore : OthersKept tenantID source before (exec env (.setStudentClass tenantID studentID target) r).2 := by
        obtain hsame | ⟨now, oid, hid, hset⟩ := h.setStudentClass env tenantID studentID target r
        · rw [hsame]
          exact hkept
        · rw [hset]
          unfold Roster.getStudent at hfound
          rw [hid] at hfound
          exact othersKept_setStudentClass hkept (Except.ok.inj hfound) (not_not.mp hclass) now
      generalize exec env (.setStudentClass tenantID studentID target) r = out at hstore
      obtain ⟨err | _, s⟩ := out
      · exact ⟨_, rfl, hstore⟩
      · exact ⟨_, rfl, hstore⟩

/-- A bulk move that finds both classes and whose actor may access the first of them. -/
structure Admitted (r : Roster) (tenantID : String) (actor : Actor) (classID targetClassID : String)
    (source target : Class) : Prop where
  found : r.getClass tenantID classID = .ok (some source)
  foundTarget : r.getClass tenantID targetClassID = .ok (some target)
  access : r.canAccessClass tenantID actor source

/-- A bulk move succeeds just when it is admitted, if the store does not fail. -/
lemma ensures_bulkMoveStudents (h : Answers exec lossy) (classID : String) (req : BulkMoveStudentsRequest) :
    Ensures exec (fun resp s => (∀ err, resp = .error err → s = r ∧
        (lossy ∨ ∀ source target, ¬Admitted r tenantID actor classID req.targetClassID source target)) ∧
      ∀ result, resp = .ok result → ∃ source target,
        Admitted r tenantID actor classID req.targetClassID source target ∧ OthersKept tenantID source r s)
      (bulkMoveStudents tenantID actor classID req).run r := by
  unfold bulkMoveStudents
  have hfail : ∀ err, (lossy ∨ ∀ source target, ¬Admitted r tenantID actor classID req.targetClassID source target) →
      (∀ err', (.error err : Except LmsError BulkActionResponse) = .error err' → r = r ∧
        (lossy ∨ ∀ source target, ¬Admitted r tenantID actor classID req.targetClassID source target)) ∧
      ∀ result, (.error err : Except LmsError BulkActionResponse) = .ok result → ∃ source target,
        Admitted r tenantID actor classID req.targetClassID source target ∧ OthersKept tenantID source r r :=
    fun err hreason => ⟨fun _ _ => ⟨rfl, hreason⟩, fun result hresult => by cases hresult⟩
  refine ensures_send_bind (fun env => h.getClass env tenantID classID r) (fun err hreason => ?_) fun found hfound => ?_
  · refine hfail err (hreason.symm.imp_right fun htruth source target hadmitted => ?_)
    exact absurd (htruth.symm.trans hadmitted.found) (fun h => by cases h)
  refine ensures_send_bind (fun env => h.getClass env tenantID req.targetClassID r) (fun err hreason => ?_)
    fun foundTarget hfoundTarget => ?_
  · refine hfail err (hreason.symm.imp_right fun htruth source target hadmitted => ?_)
    exact absurd (htruth.symm.trans hadmitted.foundTarget) (fun h => by cases h)
  refine Ensures.lift_bind (fun err hreq => hfail err (.inr fun source target hadmitted => ?_)) fun source hsource => ?_
  · obtain rfl : found = some source := Except.ok.inj (hfound.symm.trans hadmitted.found)
    cases hreq
  refine Ensures.lift_bind (fun err hreq => hfail err (.inr fun source target hadmitted => ?_)) fun target htarget => ?_
  · obtain rfl : foundTarget = some target := Except.ok.inj (hfoundTarget.symm.trans hadmitted.foundTarget)
    cases hreq
  obtain rfl := required_ok hsource
  obtain rfl := required_ok htarget
  refine ensures_rejectIf (sourceAccess_checks h source) (fun hdenied => ?_) fun haccess => ?_
  · refine hfail _ (hdenied.imp_right fun hfalse source' target' hadmitted => ?_)
    obtain rfl : source = source' := Option.some.inj (Except.ok.inj (hfound.symm.trans hadmitted.found))
    exact Bool.false_ne_true (hfalse.symm.trans hadmitted.access)
  refine (Ensures.run_foldlM_total (I := fun _ => OthersKept tenantID source r)
    (fun result studentID _ s' hkept => ensures_moveStudent h result studentID hkept) fun student hstudent =>
      .inl hstudent).mono ?_
  rintro _ s' ⟨result, rfl, hkept⟩
  exact ⟨fun err herr => (by cases herr), fun _ _ => ⟨source, target, ⟨hfound, hfoundTarget, haccess⟩, hkept⟩⟩

/-! ## What a bulk move is allowed -/

/-- A student who is not stored any more as before. -/
def Moved (before after : Roster) (student : Student) : Prop :=
  student ∈ before.students.docs ∧ student ∉ after.students.docs

/-- The actor may access the class the students were moved to and the students, and no update would
have been refused for moving one of them there. -/
structure MoveAllowed (b : Backend) (r : Roster) (tenantID : String) (actor : Actor) (targetClassID : String)
    (moved : Student → Prop) : Prop where
  target : ∃ target, r.getClass tenantID targetClassID = .ok (some target) ∧ r.canAccessClass tenantID actor target
  students : ∀ student, moved student → r.canAccessStudent tenantID actor student
  asUpdate : ∀ student, moved student → ∀ req : UpdateStudentRequest, req.classID = some targetClassID →
    ∀ resp after, Evaluates (StudentStore.exec b) (updateStudent tenantID actor student.id.hex req).run r resp after →
      resp ≠ .error .scopeForbidden

/-- Whatever the store loses, a bulk move that succeeds was allowed, and one that fails moved nobody. -/
def MovesWithinScope (b : Backend) (r : Roster) (tenantID : String) (actor : Actor) (classID : String)
    (req : BulkMoveStudentsRequest) : Prop :=
  ∀ resp after, Evaluates (StudentStore.faulty b) (bulkMoveStudents tenantID actor classID req).run r resp after →
    (∀ result, resp = .ok result → MoveAllowed b r tenantID actor req.targetClassID (Moved r after)) ∧
      ∀ err, resp = .error err → after = r

omit [Library] in
lemma getStudent_of_mem {student : Student} (hstudent : student ∈ r.students.docs)
    (htenant : student.tenantID = tenantID) : r.getStudent tenantID student.id.hex = .ok (some student) := by
  unfold Roster.getStudent
  rw [objectID_hex]
  refine congrArg Except.ok ?_
  have hpinned : Pinned Student.id (namedStudent tenantID student.id) student.id := by
    intro other hother
    simp only [namedStudent, Bool.and_eq_true, decide_eq_true_eq] at hother
    exact hother.2
  have hlookup : r.students.lookup student.id = some student := Collection.lookup_eq_some_iff.mpr ⟨hstudent, rfl⟩
  exact (Collection.find_of_pinned hpinned).trans (by simp [hlookup, namedStudent, htenant])

omit [Library] in
/-- A class that is found is found under its own id. -/
lemma getClass_hex {classID : String} (h : r.getClass tenantID classID = .ok (some source)) :
    r.getClass tenantID source.id.hex = .ok (some source) := by
  unfold Roster.getClass at h ⊢
  obtain ⟨oid, -, hfound⟩ := except_bind_eq_ok.mp h
  have hid : source.id = oid := by
    have hnamed := List.find?_some (Except.ok.inj hfound)
    simp only [Bool.and_eq_true, decide_eq_true_eq] at hnamed
    exact hnamed.2
  rw [objectID_hex, hid]
  exact hfound

lemma canAccessTarget_of_movesWithinScope {b : Backend} {classID : String} {req : BulkMoveStudentsRequest}
    (h : MovesWithinScope b r tenantID actor classID req)
    (hadmitted : Admitted r tenantID actor classID req.targetClassID source target) :
    r.canAccessClass tenantID actor target := by
  have hrun := evaluates_alone (StudentStore.exec b) 0 (bulkMoveStudents tenantID actor classID req).run r
  obtain ⟨herror, -⟩ := (ensures_bulkMoveStudents (answers_exec b) classID req).sound hrun
  generalize (bulkMoveStudents tenantID actor classID req).run.alone (StudentStore.exec b) 0 r = out at hrun herror
  obtain ⟨err | result, after⟩ := out
  · obtain ⟨-, hnone⟩ := herror err rfl
    exact absurd hadmitted (hnone.resolve_left id source target)
  · have hfaultless : Evaluates (StudentStore.faulty b) (bulkMoveStudents tenantID actor classID req).run r (.ok result)
        after := Evaluates.of_comp (g := fun now => (now, Fault.none)) hrun
    obtain ⟨target', hfound, haccess⟩ := ((h _ _ hfaultless).1 result rfl).target
    obtain rfl := Option.some.inj (Except.ok.inj (hadmitted.foundTarget.symm.trans hfound))
    exact haccess

/-- The bulk move asks for access to the class the students come from only. -/
theorem movesWithinScope_iff (b : Backend) (r : Roster) (tenantID : String) (actor : Actor) (classID : String)
    (req : BulkMoveStudentsRequest) : MovesWithinScope b r tenantID actor classID req ↔
      ∀ source target, Admitted r tenantID actor classID req.targetClassID source target →
        r.canAccessClass tenantID actor target := by
  refine ⟨fun h source target => canAccessTarget_of_movesWithinScope h, fun h resp after hrun => ?_⟩
  obtain ⟨herror, hok⟩ := (ensures_bulkMoveStudents (answers_faulty b) classID req).sound hrun
  refine ⟨fun result hresult => ?_, fun err herr => (herror err herr).1⟩
  obtain ⟨source, target, hadmitted, hkept⟩ := hok result hresult
  have htarget := h source target hadmitted
  have hmoved : ∀ student, Moved r after student → student.tenantID = tenantID ∧
      r.canAccessStudent tenantID actor student := by
    rintro student ⟨hstudent, hgone⟩
    obtain ⟨htenant, hclass⟩ := (hkept student hstudent).resolve_left hgone
    refine ⟨htenant, ?_⟩
    unfold Roster.canAccessStudent
    rw [hclass, getClass_hex hadmitted.found]
    exact Bool.or_eq_true _ _ ▸ .inr hadmitted.access
  refine ⟨⟨target, hadmitted.foundTarget, htarget⟩, fun student h => (hmoved student h).2, ?_⟩
  intro student hstudent req hreq resp after hupdate hforbidden
  obtain ⟨htenant, haccess⟩ := hmoved student hstudent
  have hwrite := fun now id => exec_updateStudent_allowed b now tenantID id
  have hrequires := (ensures_updateStudent (answers_exec b) (.inr hwrite) (getStudent_of_mem hstudent.1 htenant)
    hadmitted.foundTarget hreq).sound hupdate
  obtain hlossy | hdenied := hrequires.forbidden hforbidden
  · exact hlossy
  · exact hdenied ⟨haccess, htarget⟩

end Bulk

end StudentCall

end Moving

namespace StudentCall

section Sample

attribute [local instance] asciiLibrary

/-! The class of `teacher` and the class of a colleague at another center. -/

def Sample.colleagueClass : Class :=
  { id := Sample.id 3, tenantID := "erg", centerID := Sample.id 5, homeroomTeacherID := "colleague" }

lemma Sample.student_nodup : ([Sample.student].map Student.id).Nodup := List.nodup_singleton _

def Sample.campus : Roster where
  centers := ⟨[{ id := Sample.id 1, tenantID := "erg", managerUserID := "boss" },
    { id := Sample.id 5, tenantID := "erg", managerUserID := "head" }], by decide⟩
  classes := ⟨[Sample.class', Sample.colleagueClass], by decide⟩
  students := ⟨[Sample.student], Sample.student_nodup⟩
  currentScopes := []

/-- A teacher can move a student to a class the teacher has no access to. -/
theorem moved_out_of_scope : ¬MovesWithinScope .memory Sample.campus "erg" ⟨"teacher", []⟩ (Sample.id 2).hex
    ⟨[(Sample.id 4).hex], (Sample.id 3).hex⟩ := by
  intro h
  have hadmitted : Admitted Sample.campus "erg" ⟨"teacher", []⟩ (Sample.id 2).hex (Sample.id 3).hex Sample.class'
      Sample.colleagueClass := by
    refine ⟨?_, ?_, by decide⟩
    · rw [Roster.getClass, objectID_hex]
      rfl
    · rw [Roster.getClass, objectID_hex]
      rfl
  have haccess := canAccessTarget_of_movesWithinScope h hadmitted
  revert haccess
  decide

end Sample

end StudentCall

end ErgGo.Lms
