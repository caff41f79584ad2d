import ErgGo.Lib.Recording
import ErgGo.Lms.AccountRuns
import ErgGo.Lms.AssignmentRecipients

/-!
# Accounts and recipients

The recipients of an assignment are documents of students. A student who signs in acts under
the id of a user, and it is this id that the checks of the recipients look for.
-/

namespace ErgGo.Lms
open Go Documents Concurrent Program

/-! ## Provisioned accounts -/

/-- The routes that open student accounts. -/
inductive ProvisioningCall where
  | createStudent (req : CreateStudentRequest)
  | bulkCreateStudentAccounts (req : BulkCreateStudentAccountsRequest)
  | commitGoogleSheetImport (req : GoogleSheetCommitRequest)

/-- The student has no login, or one under the id of a user. -/
def Student.KnownAs (student : Student) : Prop :=
  student.authUserID = "" ∨ ∃ userID : ObjectID, student.authUserID = userID.hex

def AccountRequest.CreatesKnown (q : AccountRequest) : Prop := ∀ student, q = .createStudent student → student.KnownAs

section Routes

variable [Library] [AccountLibrary]

omit [Library] [AccountLibrary] in
lemma createsKnown_of_reads {α : Type} {call : AccountCall α} (h : call.run.AllRequests (fun q => q.reads)) :
    call.run.AllRequests AccountRequest.CreatesKnown := by
  refine h.mono ?_
  rintro q hq student rfl
  cases hq

omit [Library] [AccountLibrary] in
lemma createsKnown_of_quiet {α : Type} {call : AccountCall α}
    (h : call.run.AllRequests (fun q => ∀ student, q ≠ .createStudent student)) :
    call.run.AllRequests AccountRequest.CreatesKnown :=
  h.mono fun _ hq student hstudent => absurd hstudent (hq student)

omit [Library] [AccountLibrary] in
lemma allRequests_caught_bind {α β : Type} {P : AccountRequest → Prop} {call : AccountCall α}
    {f : Except LmsError α → AccountCall β} (hcall : call.run.AllRequests P) (hf : ∀ r, (f r).run.AllRequests P) :
    (caught call >>= f).run.AllRequests P := by
  rw [run_caught_bind]
  exact hcall.bind hf

omit [Library] [AccountLibrary] in
lemma tryUsernames_reads [Library] (tenantID base : String) (left i : ℕ) (username : String) (duplicate : Bool) :
    (Service.tryUsernames tenantID base left i username duplicate).run.AllRequests (fun q => q.reads) := by
  induction left generalizing i username duplicate with
  | zero => trivial
  | succ left ih =>
    refine AllRequests.lift_bind fun _ _ => AllRequests.run_bind (account_reads rfl) fun taken => ?_
    cases taken with
    | true => exact ih _ _ _
    | false => trivial

attribute [local irreducible] Service.tryUsernames

variable [Go.Unicode]

omit [AccountLibrary] in
lemma prepareRow_reads (tenantID : String) (centerID : ObjectID) (classID : String) (included : Bool)
    (merged : ParsedStudentRow) :
    (Service.prepareRow tenantID centerID classID included merged).run.AllRequests (fun q => q.reads) := by
  unfold Service.prepareRow
  split
  · trivial
  split
  · trivial
  refine allRequests_caught_bind (resolveImportClass_reads tenantID centerID classID merged.className) fun r => ?_
  cases r with
  | error err => trivial
  | ok class' =>
    dsimp only
    cases Service.parsedProfile merged with
    | error err => trivial
    | ok profile => exact AllRequests.run_bind (tryUsernames_reads tenantID _ 100 0 _ false) fun _ => trivial

omit [Library] [Go.Unicode] [AccountLibrary] in
/-- A student is created under the id of a user. -/
lemma createStudent_known {student : Student} (h : student.KnownAs) :
    (account (.createStudent student)).run.AllRequests AccountRequest.CreatesKnown := by
  refine ⟨?_, fun _ => trivial⟩
  intro created hcreated
  cases hcreated
  exact h

omit [Go.Unicode] in
lemma provisionRow_known (tenantID : String) (job : ImportJob) (rowID : String) (merged : ParsedStudentRow)
    (class' : Class) (profile : NormalizedStudentProfile) (username : String) :
    (Service.provisionRow tenantID job rowID merged class' profile username).run.AllRequests
      AccountRequest.CreatesKnown := by
  unfold Service.provisionRow
  refine AllRequests.run_bind (createsKnown_of_reads secureTempPassword_reads) fun password => ?_
  refine allRequests_caught_bind (createsKnown_of_quiet (createStudentAuthUser_quiet tenantID profile.fullName username
    password profile.phone merged.birthday)) fun r => ?_
  cases r with
  | error err =>
    dsimp only
    split <;> trivial
  | ok userID =>
    refine allRequests_caught_bind (createStudent_known (.inr ⟨userID, rfl⟩)) fun r => ?_
    cases r with
    | error err => exact allRequests_caught_bind (createsKnown_of_quiet (deleteUser_quiet userID)) fun _ => trivial
    | ok student => trivial

lemma commitGoogleSheetImport_known (provisioning : Bool) (tenantID : String) (actor : Actor)
    (req : GoogleSheetCommitRequest) :
    (Service.commitGoogleSheetImport provisioning tenantID actor req).run.AllRequests AccountRequest.CreatesKnown := by
  unfold Service.commitGoogleSheetImport
  refine AllRequests.lift_bind fun _ _ => ?_
  refine AllRequests.run_bind (createsKnown_of_reads (importTarget_reads tenantID actor req)) fun target => ?_
  refine AllRequests.run_bind (AllRequests.run_foldlM ?_ _) fun job => ?_
  · intro job row
    unfold Service.commitRow
    refine AllRequests.run_bind (createsKnown_of_reads (prepareRow_reads tenantID _ _ _ _)) fun prepared => ?_
    cases prepared with
    | skipped err => trivial
    | ready class' profile username duplicate => exact provisionRow_known tenantID _ _ _ _ _ _
  · exact AllRequests.run_bind ⟨fun _ => nofun, fun _ => trivial⟩ fun _ => trivial

omit [Go.Unicode] in
lemma provisionBulkRow_known (tenantID : String) (state : BulkState) (rowID : String) (row : BulkCreateStudentAccountRow)
    (ready : ReadyRow) :
    (Service.provisionBulkRow tenantID state rowID row ready).run.AllRequests AccountRequest.CreatesKnown := by
  unfold Service.provisionBulkRow
  refine AllRequests.run_bind (createsKnown_of_reads (account_reads rfl)) fun taken => ?_
  cases taken with
  | true => trivial
  | false =>
    refine allRequests_caught_bind (createsKnown_of_quiet (createStudentAuthUser_quiet tenantID ready.profile.fullName
      ready.username ready.password ready.profile.phone row.birthday)) fun r => ?_
    cases r with
    | error err =>
      dsimp only
      split <;> trivial
    | ok userID =>
      refine allRequests_caught_bind (createStudent_known (.inr ⟨userID, rfl⟩)) fun r => ?_
      cases r with
      | error err => exact allRequests_caught_bind (createsKnown_of_quiet (deleteUser_quiet userID)) fun _ => trivial
      | ok student => trivial

lemma bulkRow_known (tenantID : String) (centerID : ObjectID) (classID : String) (state : BulkState)
    (row : BulkCreateStudentAccountRow) :
    (Service.bulkRow tenantID centerID classID state row).run.AllRequests AccountRequest.CreatesKnown := by
  have hpassword := createsKnown_of_reads (rowPassword_reads row.password)
  unfold Service.bulkRow
  generalize Service.rowPassword row.password = passwordCall at hpassword
  generalize normalizeStudentUsername row.username = username
  generalize firstNonEmpty [row.rowID, "row-" ++ toString row.rowNumber] = rowID
  dsimp only
  split
  · trivial
  refine AllRequests.run_bind hpassword fun password => ?_
  cases Service.bulkProfile row with
  | error err => trivial
  | ok profile =>
    dsimp only
    split
    · trivial
    cases validateStudentUsername username with
    | error err => trivial
    | ok _ =>
      dsimp only
      unfold Service.bulkAccountRow
      cases state.usernamesInRequest.lookup username with
      | some previousRowID => trivial
      | none =>
        dsimp only
        generalize firstNonEmpty [row.classID, classID] = classID
        have hclass := createsKnown_of_reads (resolveImportClass_reads tenantID centerID classID row.className)
        cases validateStudentPassword password username profile.fullName with
        | error err => trivial
        | ok _ =>
          refine allRequests_caught_bind hclass fun r => ?_
          cases r with
          | error err => trivial
          | ok class' => exact provisionBulkRow_known tenantID _ rowID row _

lemma bulkCreateStudentAccounts_known (provisioning : Bool) (tenantID : String) (actor : Actor)
    (req : BulkCreateStudentAccountsRequest) :
    (Service.bulkCreateStudentAccounts provisioning tenantID actor req).run.AllRequests AccountRequest.CreatesKnown := by
  unfold Service.bulkCreateStudentAccounts
  refine AllRequests.lift_bind fun _ _ => AllRequests.lift_bind fun _ _ => ?_
  refine AllRequests.run_bind (createsKnown_of_reads (account_reads rfl)) fun _ => AllRequests.lift_bind fun center _ => ?_
  refine AllRequests.run_bind (createsKnown_of_reads (accountCenterAccess_reads tenantID actor req.centerID)) fun _ =>
    AllRequests.lift_bind fun _ _ => ?_
  refine AllRequests.run_bind (AllRequests.run_foldlM (bulkRow_known tenantID center.id req.classID) _) fun state => ?_
  refine AllRequests.run_bind ?_ fun _ => trivial
  exact createsKnown_of_reads (AllRequests.run_mapM (showStudent_reads tenantID))

omit [AccountLibrary] in
lemma requestedUsername_reads (tenantID : String) (profile : NormalizedStudentProfile) (class' : Class)
    (requested : String) :
    (Service.requestedUsername tenantID profile class' requested).run.AllRequests (fun q => q.reads) := by
  unfold Service.requestedUsername
  generalize normalizeStudentUsername requested = username
  dsimp only
  split
  · exact AllRequests.run_bind (tryUsernames_reads tenantID _ 100 0 _ false) fun _ => trivial
  · refine AllRequests.lift_bind fun _ _ => AllRequests.run_bind (account_reads rfl) fun taken => ?_
    cases taken <;> trivial

omit [Go.Unicode] in
lemma provisionAuthUser_quiet (provisioning : Bool) (tenantID : String) (profile : NormalizedStudentProfile)
    (username password : String) (birthday : Option Time) :
    (Service.provisionAuthUser provisioning tenantID profile username password birthday).run.AllRequests
      (fun q => ∀ student, q ≠ .createStudent student) := by
  unfold Service.provisionAuthUser
  split
  · refine allRequests_caught_bind (createStudentAuthUser_quiet tenantID profile.fullName username password profile.phone
      birthday) fun r => ?_
    cases r with
    | error err =>
      dsimp only
      split <;> trivial
    | ok userID => trivial
  · trivial

attribute [local irreducible] Service.requestedUsername normalizeStudentProfile validateStudentPassword trimSpace

/-- The route creates the student from the profile it has accepted. -/
lemma createStudent_route {P : AccountRequest → Prop} (provisioning : Bool) (tenantID : String) (actor : Actor)
    (req : CreateStudentRequest) (hquiet : ∀ q, (∀ student, q ≠ .createStudent student) → P q)
    (hcreate : ∀ given profile class' username (userID : Option ObjectID), normalizeStudentProfile given = .ok profile →
      P (.createStudent (Service.newStudent tenantID class' profile username (userID.elim "" ObjectID.hex) req.birthday
        req.enrollmentDate ""))) :
    (Service.createStudent provisioning tenantID actor req).run.AllRequests P := by
  have hreads : ∀ {α : Type} {call : AccountCall α}, call.run.AllRequests (fun q => q.reads) → call.run.AllRequests P := by
    intro α call hcall
    refine hcall.mono fun q hq => hquiet q ?_
    rintro student rfl
    cases hq
  unfold Service.createStudent
  refine AllRequests.lift_bind fun profile hprofile => ?_
  refine AllRequests.run_bind (hreads (account_reads rfl)) fun _ => AllRequests.lift_bind fun class' _ => ?_
  refine AllRequests.run_bind (hreads ?_) fun _ => AllRequests.lift_bind fun _ _ => ?_
  · unfold Service.accountClassAccess
    split
    · trivial
    · exact accountCenterAccess_reads tenantID actor _
  refine AllRequests.run_bind (hreads secureTempPassword_reads) fun password => ?_
  refine AllRequests.run_bind (hreads (requestedUsername_reads tenantID profile class' req.username)) fun username => ?_
  dsimp only
  refine AllRequests.lift_bind fun _ _ => ?_
  refine AllRequests.run_bind ((provisionAuthUser_quiet provisioning tenantID profile username _ req.birthday).mono hquiet)
    fun userID => ?_
  refine allRequests_caught_bind ⟨hcreate _ _ _ _ userID hprofile, fun _ => trivial⟩ fun r => ?_
  cases r with
  | error err =>
    cases userID with
    | none => trivial
    | some userID => exact allRequests_caught_bind ((deleteUser_quiet userID).mono hquiet) fun _ => trivial
  | ok student => exact AllRequests.run_bind (hreads (showStudent_reads tenantID student)) fun _ => trivial

lemma createStudent_route_known (provisioning : Bool) (tenantID : String) (actor : Actor) (req : CreateStudentRequest) :
    (Service.createStudent provisioning tenantID actor req).run.AllRequests AccountRequest.CreatesKnown := by
  refine createStudent_route provisioning tenantID actor req (fun q hq student hstudent => absurd hstudent (hq student)) ?_
  rintro given profile class' username userID - student hstudent
  obtain rfl := AccountRequest.createStudent.inj hstudent
  cases userID with
  | none => exact .inl rfl
  | some userID => exact .inr ⟨userID, rfl⟩

/-- The call of a route, without its response. -/
def ProvisioningCall.program (call : ProvisioningCall) (provisioning : Bool) (tenantID : String) (actor : Actor) :
    AccountCall Unit :=
  match call with
  | .createStudent req => do let _ ← Service.createStudent provisioning tenantID actor req
  | .bulkCreateStudentAccounts req => do let _ ← Service.bulkCreateStudentAccounts provisioning tenantID actor req
  | .commitGoogleSheetImport req => do let _ ← Service.commitGoogleSheetImport provisioning tenantID actor req

lemma ProvisioningCall.known (call : ProvisioningCall) (provisioning : Bool) (tenantID : String) (actor : Actor) :
    (call.program provisioning tenantID actor).run.AllRequests AccountRequest.CreatesKnown := by
  cases call with
  | createStudent req => exact AllRequests.run_bind (createStudent_route_known provisioning tenantID actor req) fun _ => trivial
  | bulkCreateStudentAccounts req =>
    exact AllRequests.run_bind (bulkCreateStudentAccounts_known provisioning tenantID actor req) fun _ => trivial
  | commitGoogleSheetImport req =>
    exact AllRequests.run_bind (commitGoogleSheetImport_known provisioning tenantID actor req) fun _ => trivial

/-- A student that a call of one of the routes has stored, with a login. -/
def Provisioned (b : Backend) (student : Student) : Prop :=
  student.authUserID ≠ "" ∧ ∃ (call : ProvisioningCall) (provisioning : Bool) (tenantID : String) (actor : Actor)
    (s s' : AccountStore) (r : Except LmsError Unit),
    Evaluates (AccountStore.refusing b) (call.program provisioning tenantID actor).run s r s' ∧
    student ∈ s'.students ∧ student ∉ s.students

/-- The login of a provisioned student is the id of a user. -/
lemma Provisioned.authUserID {b : Backend} {student : Student} (h : Provisioned b student) :
    ∃ userID : ObjectID, student.authUserID = userID.hex := by
  obtain ⟨hlogin, call, provisioning, tenantID, actor, s, s', r, hrun, hmem, hnew⟩ := h
  have hgained : Ensures (AccountStore.refusing b)
      (fun _ s' => ∀ student ∈ s'.students, student ∈ s.students ∨ student.KnownAs)
      (call.program provisioning tenantID actor).run s := by
    refine Ensures.of_allRequests (P := AccountRequest.CreatesKnown)
      (I := fun s' : AccountStore => ∀ student ∈ s'.students, student ∈ s.students ∨ student.KnownAs) ?_
      (call.known provisioning tenantID actor) (fun student hstudent => .inl hstudent)
    intro env q s₁ hq hs₁
    by_cases hcreates : ∃ student, q = .createStudent student
    · obtain ⟨created, rfl⟩ := hcreates
      obtain ⟨stored, s₂, hcreate, hs₂⟩ | ⟨e, hcreate⟩ := refusing_createStudent b env created s₁
      · rw [hcreate]
        intro student hstudent
        dsimp only at hstudent
        rw [hs₂] at hstudent
        obtain hstudent | hstudent := List.mem_append.mp hstudent
        · exact hs₁ student hstudent
        · rw [List.mem_singleton.mp hstudent]
          exact .inr (hq created rfl)
      · rw [hcreate]
        exact hs₁
    · have hroster : (AccountStore.refusing b env q s₁).2.roster = s₁.roster :=
        roster_refusing fun student hstudent => hcreates ⟨student, hstudent⟩
      unfold AccountStore.students
      rw [hroster]
      exact hs₁
  obtain hold | hempty | hknown := hgained.sound hrun student hmem
  · exact absurd hold hnew
  · exact absurd hempty hlogin
  · exact hknown

end Routes

/-! ## The checks of the recipients -/

section Checks

variable [Library]

/-- `StudentAssignments`, over the stored assignments. -/
def Service.studentAssignments (assignments : List Assignment) (tenantID : String) (actor : Actor) (status : String) :
    List Assignment :=
  match objectID actor.userID with
  | .error _ => []
  | .ok studentID =>
    Library.sortSlice (fun a c => a.createdAt > c.createdAt) (assignments.filter (fun a =>
      a.tenantID = tenantID && studentID ∈ a.studentIDs && (status = "" || a.status = status)))

variable [MongoServer] {b : Backend}

lemma exec_getAssignment (env : Env) (tenantID : String) {id : String} {oid : ObjectID} (hid : objectID id = .ok oid)
    (s : Store b) : (repository b).exec env (.getAssignment tenantID id) s =
      (.ok (((repository b).records s).getAssignment tenantID oid), s) := by
  cases b with
  | memory =>
    simp only [repository, memoryRepository, MemoryStore.exec, hid]
    rfl
  | mongo =>
    change (MongoRepository.getAssignment tenantID id).run.alone MongoStore.exec env s = _
    simp only [MongoRepository.getAssignment, Program.run_bind, Program.run_lift, Program.done_bind, hid]
    rfl

lemma createAttempt_ne_scopeForbidden (env : Env) (attempt : Attempt) (s : Store b) :
    ((repository b).exec env (.createAttempt attempt) s).1 ≠ .error .scopeForbidden := by
  cases b with
  | memory => nofun
  | mongo =>
    change (MongoStore.insertAttempt env attempt s).1 ≠ _
    obtain ⟨attempts, -, hinsert⟩ | hinsert := MongoStore.insertAttempt_cases env attempt s
    · rw [hinsert]
      nofun
    · rw [hinsert]
      simp

/-- The student, signed in, is not refused as outside the assignment when starting an attempt. -/
def MayStart (tenantID : String) (student : Student) (a : Assignment) (s : Store b) : Prop :=
  ∀ roles req r s', req.assignmentID = a.id.hex →
    Evaluates (repository b).exec (Service.startAttempt tenantID ⟨student.authUserID, roles⟩ req).run s r s' →
    r ≠ .error .scopeForbidden

/-- The student, signed in, finds the assignment in the list of the student's own. -/
def Listed (tenantID : String) (student : Student) (a : Assignment) (s : Store b) : Prop :=
  ∀ roles, a ∈ Service.studentAssignments ((repository b).records s).assignments tenantID
    ⟨student.authUserID, roles⟩ ""

omit [Library] [MongoServer] in
lemma includesStudent_iff {a : Assignment} {userID : ObjectID} :
    Service.assignmentIncludesStudent a userID = true ↔ userID ∈ a.studentIDs := by
  simp [Service.assignmentIncludesStudent]

section Attempt

variable {tenantID : String} {actor : Actor} {req : StartAttemptRequest} {a : Assignment} {userID : ObjectID}
  {s : Store b}

lemma findActive_ok (tenantID : String) (assignmentID quizID studentID : ObjectID) (s : Store b) :
    Ensures (repository b).exec (fun r _ => ∃ found, r = .ok found)
      (Service.findActive tenantID assignmentID quizID studentID).run s := by
  unfold Service.findActive
  rw [run_tryCatch]
  refine Ensures.bind ?_
  intro env
  generalize (repository b).exec env (.findActiveAttempt tenantID assignmentID quizID studentID) s = out
  obtain ⟨e | found, s'⟩ := out
  · exact ⟨none, rfl⟩
  · exact ⟨found, rfl⟩

/-- A user who is no recipient is refused. -/
lemma startAttempt_refused (hid : objectID req.assignmentID = .ok a.id)
    (hfound : ((repository b).records s).getAssignment tenantID a.id = some a)
    (huser : objectID actor.userID = .ok userID) (hout : userID ∉ a.studentIDs) :
    Ensures (repository b).exec (fun r _ => r = .error .scopeForbidden) (Service.startAttempt tenantID actor req).run s := by
  unfold Service.startAttempt
  refine Ensures.run_bind ?_
  intro env
  rw [exec_getAssignment env tenantID hid, hfound]
  have hexcluded : Service.assignmentIncludesStudent a userID = false :=
    Bool.eq_false_iff.mpr fun h => hout (includesStudent_iff.mp h)
  refine Ensures.lift_bind nofun fun assignment hassignment => ?_
  obtain rfl := Except.ok.inj hassignment
  refine Ensures.lift_bind ?_ fun studentID hstudentID => ?_
  · intro e he
    rw [huser] at he
    cases he
  rw [huser] at hstudentID
  obtain rfl := Except.ok.inj hstudentID
  rw [hexcluded]
  refine Ensures.lift_bind ?_ nofun
  intro e he
  rw [Except.error.inj he]

/-- A recipient is not refused. -/
lemma startAttempt_admitted (hid : objectID req.assignmentID = .ok a.id)
    (hfound : ((repository b).records s).getAssignment tenantID a.id = some a)
    (huser : objectID actor.userID = .ok userID) (hin : userID ∈ a.studentIDs) :
    Ensures (repository b).exec (fun r _ => r ≠ .error .scopeForbidden) (Service.startAttempt tenantID actor req).run s := by
  unfold Service.startAttempt
  refine Ensures.run_bind ?_
  intro env
  rw [exec_getAssignment env tenantID hid, hfound]
  refine Ensures.lift_bind nofun fun assignment hassignment => ?_
  obtain rfl := Except.ok.inj hassignment
  refine Ensures.lift_bind ?_ fun studentID hstudentID => ?_
  · intro e he
    rw [huser] at he
    cases he
  rw [huser] at hstudentID
  obtain rfl := Except.ok.inj hstudentID
  rw [includesStudent_iff.mpr hin]
  refine Ensures.lift_bind nofun fun _ _ => ?_
  refine Ensures.lift_bind ?_ fun quizID _ => ?_
  · intro e he heq
    rw [Except.error.inj heq] at he
    exact objectID_ne_scopeForbidden req.quizID he
  refine Ensures.run_bind ((findActive_ok tenantID _ quizID userID s).mono ?_)
  rintro r s₁ ⟨found, rfl⟩
  cases found with
  | some active => nofun
  | none =>
    dsimp only
    rw [run_tryCatch]
    refine Ensures.bind (Ensures.run_bind ?_)
    intro env
    have hcreate := createAttempt_ne_scopeForbidden (b := b) env
      { tenantID := tenantID, assignmentID := (objectID req.assignmentID).toOption.getD .nil, quizID := quizID,
        studentID := userID, packageID := req.packageID, packageHash := req.packageHash, maxScore := 100 } s₁
    generalize (repository b).exec env (.createAttempt _) s₁ = out at hcreate ⊢
    obtain ⟨e | created, s₂⟩ := out
    · refine Ensures.run_bind ((findActive_ok tenantID _ quizID userID s₂).mono ?_)
      rintro r s₃ ⟨found, rfl⟩
      cases found with
      | some active => nofun
      | none =>
        intro heq
        rw [Except.error.inj heq] at hcreate
        exact hcreate rfl
    · nofun

end Attempt

omit [MongoServer] in
lemma mem_studentAssignments {assignments : List Assignment} {tenantID : String} {roles : List String} {a : Assignment}
    {userID : ObjectID} (ha : a ∈ assignments) (htenant : a.tenantID = tenantID) :
    a ∈ Service.studentAssignments assignments tenantID ⟨userID.hex, roles⟩ "" ↔ userID ∈ a.studentIDs := by
  unfold Service.studentAssignments
  dsimp only
  rw [objectID_hex]
  dsimp only
  rw [(Library.sortSlice_perm _ _).mem_iff, List.mem_filter]
  simp [ha, htenant]

omit [Library] [MongoServer] in
lemma exists_of_forall₂ {α β : Type} {R : α → β → Prop} {l₁ : List α} {l₂ : List β} {y : β} (h : List.Forall₂ R l₁ l₂)
    (hy : y ∈ l₂) : ∃ x, R x y := by
  induction h with
  | nil => cases hy
  | cons hr _ ih =>
    obtain rfl | hy := List.mem_cons.mp hy
    · exact ⟨_, hr⟩
    · exact ih hy

/-- The students that an assignment for all students of a class goes to: its hundred newest. -/
def Roster.recipients (r : Roster) (tenantID : String) (classID : ObjectID) : List Student :=
  (Library.sortSlice (fun a c => a.createdAt > c.createdAt) (r.classStudents tenantID classID)).take 100

/-- A student with a login passes each of the two checks of an assignment for all students of a
class exactly if the id of the login is the document id of one of the recipients. -/
theorem admitted_iff [AccountLibrary] [Go.Unicode] {tenantID : String} {actor : Actor} {req : CreateAssignmentRequest}
    {resp : AssignmentBatchResponse} {student : Student} {s s' later : Store b} {created : List Assignment}
    {a : Assignment} (hstudent : Provisioned b student) (hmode : req.recipientMode = "all")
    (hcall : Evaluates (repository b).exec (Service.createAssignment tenantID actor req).run s (.ok resp) s')
    (hadds : Adds s s' created) (ha : a ∈ created)
    (hfound : ((repository b).records later).getAssignment tenantID a.id = some a) :
    let recipient := ∃ classID, objectID req.classID = .ok classID ∧
      ∃ recipient ∈ (s.roster b).recipients tenantID classID, recipient.id.hex = student.authUserID
    (MayStart tenantID student a later ↔ recipient) ∧ (Listed tenantID student a later ↔ recipient) := by
  obtain ⟨userID, huser⟩ := hstudent.authUserID
  obtain ⟨classID, created', hclass, -, hadds', hcreated⟩ := (createAssignment_adds tenantID actor hmode s).sound hcall
  have hsame : created' = created := List.append_cancel_left (hadds'.symm.trans hadds)
  subst hsame
  obtain ⟨quizID, hassigned⟩ := exists_of_forall₂ hcreated ha
  have hactor : objectID student.authUserID = .ok userID := by
    rw [huser]
    exact objectID_hex userID
  intro recipient
  have hcheck : userID ∈ a.studentIDs ↔ recipient := by
    rw [hassigned.studentIDs, List.mem_map]
    constructor
    · rintro ⟨recipient, hrecipient, rfl⟩
      exact ⟨classID, hclass, recipient, hrecipient, huser.symm⟩
    · rintro ⟨classID', hclass', recipient, hrecipient, hid⟩
      obtain rfl := Except.ok.inj (hclass'.symm.trans hclass)
      exact ⟨recipient, hrecipient, ObjectID.hex_injective (hid.trans huser)⟩
  rw [← hcheck]
  refine ⟨⟨fun hstarts => ?_, fun hin => ?_⟩, ?_⟩
  · by_contra hout
    have hrun := evaluates_alone (repository b).exec ⟨0, .nil⟩
      (Service.startAttempt tenantID ⟨student.authUserID, []⟩ ⟨a.id.hex, "", "", ""⟩).run later
    have hrefused : Ensures (repository b).exec (fun r _ => r = .error .scopeForbidden)
        (Service.startAttempt tenantID ⟨student.authUserID, []⟩ ⟨a.id.hex, "", "", ""⟩).run later :=
      startAttempt_refused (objectID_hex a.id) hfound hactor hout
    exact hstarts [] _ _ _ rfl hrun (hrefused.sound hrun)
  · intro roles req' r s₁ hreq hrun
    have hid : objectID req'.assignmentID = .ok a.id := by
      rw [hreq]
      exact objectID_hex a.id
    exact (startAttempt_admitted hid hfound hactor hin).sound hrun
  · have hmem : a ∈ ((repository b).records later).assignments := List.mem_of_find?_eq_some hfound
    have hlisted : ∀ roles, a ∈ Service.studentAssignments ((repository b).records later).assignments tenantID
        ⟨student.authUserID, roles⟩ "" ↔ userID ∈ a.studentIDs := by
      intro roles
      rw [huser]
      exact mem_studentAssignments hmem hassigned.tenantID
    exact ⟨fun h => (hlisted []).mp (h []), fun hin roles => (hlisted roles).mpr hin⟩

end Checks

section Sample

attribute [local instance] asciiLibrary asciiUnicode Sample.server Sample.accountLibrary

namespace Sample

/-- A call that opens an account. -/
def accountCall : ProvisioningCall := .createStudent { fullName := "An Ngo", classID := (id 2).hex }

/-- Its k-th request draws the k-th of the ids. -/
def opened (ids : ℕ → ObjectID) : Except LmsError Unit × World (AccountEnv × Bool) AccountRequest AccountStore :=
  (accountCall.program true "t" registrar).run.recorded (AccountStore.refusing .mongo) (fun k => (drawing (ids k), false))
    (enrolment, [])

/-- The tenant after this call, with one quiz. -/
def lessons (ids : ℕ → ObjectID) : MongoStore := ⟨(opened ids).2.1.roster, ⟨[⟨id 3, "t", id 1⟩], by simp⟩, .empty, .empty⟩

def assignedLesson (ids : ℕ → ObjectID) : Except LmsError AssignmentBatchResponse × MongoStore :=
  (Service.createAssignment "t" registrar assignAll).run.alone mongoRepository.exec ⟨0, id 5⟩ (lessons ids)

lemma provisioned_opened {ids : ℕ → ObjectID} {student : Student} (hmem : student ∈ (opened ids).2.1.students)
    (hlogin : student.authUserID ≠ "") : Provisioned .mongo student := by
  have hopened : Evaluates (AccountStore.refusing .mongo) (accountCall.program true "t" registrar).run enrolment
      (opened ids).1 (opened ids).2.1 := by
    unfold opened
    exact evaluates_recorded _ _ _ (enrolment, [])
  exact ⟨hlogin, accountCall, true, "t", registrar, enrolment, (opened ids).2.1, (opened ids).1, hopened, hmem,
    List.not_mem_nil⟩

lemma evaluates_assignedLesson (ids : ℕ → ObjectID) :
    Evaluates (repository .mongo).exec (Service.createAssignment "t" registrar assignAll).run (lessons ids)
      (assignedLesson ids).1 (assignedLesson ids).2 :=
  evaluates_alone mongoRepository.exec ⟨0, id 5⟩ (Service.createAssignment "t" registrar assignAll).run (lessons ids)

attribute [local irreducible] opened assignedLesson

lemma adds_of_docs {s s' : MongoStore} {a : Assignment} (hs : s.assignments.docs = []) (ha : s'.assignments.docs = [a]) :
    Adds (b := .mongo) s s' [a] := by
  change s'.assignments.docs = s.assignments.docs ++ [a]
  rw [ha, hs, List.nil_append]

lemma found_of_docs {s : MongoStore} {a : Assignment} (ha : s.assignments.docs = [a]) (htenant : a.tenantID = "t") :
    ((repository .mongo).records s).getAssignment "t" a.id = some a := by
  change s.assignments.docs.find? (Assignment.named "t" a.id) = some a
  rw [ha]
  simp [Assignment.named, htenant]

end Sample

attribute [local irreducible] Sample.opened Sample.assignedLesson

/-- The id of the user happens to be the id of the student as well. -/
theorem student_admitted : ∃ student a, Provisioned .mongo student ∧
    MayStart (b := .mongo) "t" student a (Sample.assignedLesson fun _ => Sample.id 4).2 ∧
    Listed (b := .mongo) "t" student a (Sample.assignedLesson fun _ => Sample.id 4).2 := by
  have hfacts : ((Sample.opened fun _ => Sample.id 4).2.1.students.map Student.authUserID,
      ((Sample.lessons fun _ => Sample.id 4).roster.recipients "t" (Sample.id 2)).map Student.id,
      (Sample.assignedLesson fun _ => Sample.id 4).1.isOk,
      (Sample.assignedLesson fun _ => Sample.id 4).2.assignments.docs.map Assignment.tenantID) =
      ([(Sample.id 4).hex], [Sample.id 4], true, ["t"]) := by decide +kernel
  simp only [Prod.mk.injEq] at hfacts
  obtain ⟨hlogins, hrecipients, hok, hassigned⟩ := hfacts
  obtain ⟨student, hstudents, hlogin⟩ := List.map_eq_singleton_iff.mp hlogins
  have hstudent : Provisioned .mongo student := by
    refine Sample.provisioned_opened (hstudents ▸ List.mem_singleton_self student) ?_
    rw [hlogin]
    decide
  obtain ⟨a, ha, htenant⟩ := List.map_eq_singleton_iff.mp hassigned
  obtain ⟨recipient, hrecipient, hid⟩ := List.mem_map.mp (hrecipients ▸ List.mem_singleton_self (Sample.id 4))
  have hcheck : ∃ classID, objectID Sample.assignAll.classID = .ok classID ∧
      ∃ recipient ∈ (Sample.lessons fun _ => Sample.id 4).roster.recipients "t" classID,
        recipient.id.hex = student.authUserID :=
    ⟨Sample.id 2, objectID_hex _, recipient, hrecipient, by rw [hid, hlogin]⟩
  have hcall := Sample.evaluates_assignedLesson fun _ => Sample.id 4
  cases hresp : (Sample.assignedLesson fun _ => Sample.id 4).1 with
  | error e =>
    rw [hresp] at hok
    cases hok
  | ok resp =>
    rw [hresp] at hcall
    have hadmitted := admitted_iff hstudent rfl hcall (Sample.adds_of_docs rfl ha) (List.mem_singleton_self a)
      (Sample.found_of_docs ha htenant)
    exact ⟨student, a, hstudent, hadmitted.1.mpr hcheck, hadmitted.2.mpr hcheck⟩

/-- The ids are drawn one after another. -/
def Sample.fresh (k : ℕ) : ObjectID := Sample.id (k + 4)

/-- Student 9 has the login 8, and is not let into an assignment for all of the class. -/
theorem student_refused : ∃ student a, Provisioned .mongo student ∧
    student ∈ (Sample.lessons Sample.fresh).roster.classStudents "t" (Sample.id 2) ∧
    Adds (b := .mongo) (Sample.lessons Sample.fresh) (Sample.assignedLesson Sample.fresh).2 [a] ∧
    ¬MayStart (b := .mongo) "t" student a (Sample.assignedLesson Sample.fresh).2 := by
  have hfacts : (((Sample.lessons Sample.fresh).roster.classStudents "t" (Sample.id 2)).map Student.authUserID,
      (Sample.assignedLesson Sample.fresh).2.assignments.docs.map (fun a => (a.tenantID, a.studentIDs))) =
      ([(Sample.id 8).hex], [("t", [Sample.id 9])]) := by decide +kernel
  obtain ⟨hlogins, hassigned⟩ := Prod.mk.inj hfacts
  obtain ⟨student, hstudents, hlogin⟩ := List.map_eq_singleton_iff.mp hlogins
  have hmem : student ∈ (Sample.lessons Sample.fresh).roster.classStudents "t" (Sample.id 2) :=
    hstudents ▸ List.mem_singleton_self student
  have hstudent : Provisioned .mongo student := by
    have hopened : student ∈ (Sample.opened Sample.fresh).2.1.students := (List.mem_filter.mp hmem).1
    refine Sample.provisioned_opened hopened ?_
    rw [hlogin]
    decide
  obtain ⟨a, ha, hfields⟩ := List.map_eq_singleton_iff.mp hassigned
  have hfound := Sample.found_of_docs ha (congrArg Prod.fst hfields)
  refine ⟨student, a, hstudent, hmem, Sample.adds_of_docs rfl ha, fun hstarts => ?_⟩
  have hactor : objectID student.authUserID = .ok (Sample.id 8) := by
    rw [hlogin]
    exact objectID_hex _
  have hout : Sample.id 8 ∉ a.studentIDs := by
    rw [show a.studentIDs = [Sample.id 9] from congrArg Prod.snd hfields]
    decide
  have hrefused : Ensures (repository .mongo).exec (fun r _ => r = .error .scopeForbidden)
      (Service.startAttempt "t" ⟨student.authUserID, []⟩ ⟨a.id.hex, "", "", ""⟩).run
      (Sample.assignedLesson Sample.fresh).2 := startAttempt_refused (objectID_hex a.id) hfound hactor hout
  have hrun := evaluates_alone (repository .mongo).exec ⟨0, .nil⟩
    (Service.startAttempt "t" ⟨student.authUserID, []⟩ ⟨a.id.hex, "", "", ""⟩).run (Sample.assignedLesson Sample.fresh).2
  exact hstarts [] _ _ _ rfl hrun (hrefused.sound hrun)

end Sample

end ErgGo.Lms
