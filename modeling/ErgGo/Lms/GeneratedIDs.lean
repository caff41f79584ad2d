import ErgGo.Lms.AccountRecipients
import ErgGo.Lms.ImportFailures
import ErgGo.Lms.StudentMoves

/-!
# The ids of created students

A route that creates students returns their ids. The in-memory repository writes the id that it has
chosen into the record; MongoDB chooses one for the document, and the record keeps its zero id.
-/

namespace ErgGo.Lms
open Go Documents Concurrent Program Postgres

/-- A registration whose generated ids are not zero. -/
def AccountStore.generating [Library] [AccountLibrary] (b : Backend) (env : {env : AccountEnv // env.id ≠ .nil} × Bool)
    (q : AccountRequest) (s : AccountStore) : AccountReply q × AccountStore :=
  AccountStore.refusing b (env.1.1, env.2) q s

/-- The email of the account of a username, as the table takes it. -/
def accountEmail [Library] (username : String) : Option String :=
  varchar 255 (trimSpace (toLower (studentAccountEmail username)))

/-- The auth user of a student is the one of the username. -/
def HasLogin [Library] (provisioning : Bool) (s : AccountStore) (student : Student) : Prop :=
  if provisioning then
    ∃ user ∈ s.db.users.rows, user.id.hex = student.authUserID ∧ accountEmail student.username = some user.email
  else student.authUserID = ""

/-- The id names a stored student with the username and its auth user. -/
def Names [Library] (provisioning : Bool) (tenantID : String) (s : AccountStore) (studentID username : String) : Prop :=
  ∃ student, s.roster.getStudent tenantID studentID = .ok (some student) ∧ student.username = username ∧
    HasLogin provisioning s student

/-- The store has grown: what is new has an id. -/
structure AccountStore.Grows (s s' : AccountStore) : Prop where
  students : ∀ student ∈ s.students, student ∈ s'.students
  users : ∀ user ∈ s.db.users.rows, user ∈ s'.db.users.rows
  fresh : ∀ student ∈ s'.students, student ∈ s.students ∨ student.id ≠ .nil

/-- What is known of a student that a route returns: where its id leads to, or that no student of the
username has the zero id. -/
def TracedItem [Library] (b : Backend) (provisioning : Bool) (tenantID : String) (s : AccountStore)
    (item : String × String) : Prop :=
  match b with
  | .memory => ∃ student ∈ s.students, student.tenantID = tenantID ∧ student.id.hex = item.1 ∧
      student.username = item.2 ∧ HasLogin provisioning s student
  | .mongo => item.1 = ObjectID.nil.hex ∧
      ∀ student ∈ s.students, student.tenantID = tenantID → student.username = item.2 → student.id ≠ .nil

section Stores

variable [Library] {b : Backend} {provisioning : Bool} {tenantID : String} {s s' s'' : AccountStore}

omit [Library] in
lemma AccountStore.Grows.refl (s : AccountStore) : s.Grows s := ⟨fun _ h => h, fun _ h => h, fun _ h => .inl h⟩

omit [Library] in
lemma AccountStore.Grows.trans (h : s.Grows s') (h' : s'.Grows s'') : s.Grows s'' where
  students student hmem := h'.students student (h.students student hmem)
  users user hmem := h'.users user (h.users user hmem)
  fresh student hmem := (h'.fresh student hmem).elim (h.fresh student) .inr

lemma HasLogin.mono {student : Student} (h : HasLogin provisioning s student)
    (husers : ∀ user ∈ s.db.users.rows, user ∈ s'.db.users.rows) : HasLogin provisioning s' student := by
  cases provisioning with
  | false => exact h
  | true =>
    obtain ⟨user, huser, hid, hemail⟩ := h
    exact ⟨user, husers user huser, hid, hemail⟩

lemma TracedItem.mono {item : String × String} (h : TracedItem b provisioning tenantID s item) (hgrows : s.Grows s') :
    TracedItem b provisioning tenantID s' item := by
  cases b with
  | memory =>
    obtain ⟨student, hstudent, htenant, hid, husername, hlogin⟩ := h
    exact ⟨student, hgrows.students student hstudent, htenant, hid, husername, hlogin.mono hgrows.users⟩
  | mongo =>
    refine ⟨h.1, fun student hstudent htenant husername => ?_⟩
    exact (hgrows.fresh student hstudent).elim (fun hold => h.2 student hold htenant husername) id

/-- The id names the student exactly on the in-memory repository. -/
lemma names_iff {item : String × String} (h : TracedItem b provisioning tenantID s item) :
    Names provisioning tenantID s item.1 item.2 ↔ b = .memory := by
  cases b with
  | memory =>
    obtain ⟨student, hstudent, rfl, hid, husername, hlogin⟩ := h
    exact iff_of_true ⟨student, hid ▸ StudentCall.getStudent_of_mem hstudent rfl, husername, hlogin⟩ rfl
  | mongo =>
    refine iff_of_false ?_ nofun
    rintro ⟨student, hfound, husername, -⟩
    unfold Roster.getStudent at hfound
    rw [h.1, objectID_hex] at hfound
    have hfind : s.roster.students.find (fun student => student.tenantID = tenantID && student.id = ObjectID.nil) =
        some student := Except.ok.inj hfound
    have hmatch := List.find?_some hfind
    simp only [Bool.and_eq_true, decide_eq_true_eq] at hmatch
    exact h.2 student (List.mem_of_find?_eq_some hfind) hmatch.1 husername hmatch.2

end Stores

/-! ## What the requests do -/

/-- The store after a login was opened. -/
structure OpensLogin [Library] (s s' : AccountStore) (userID : ObjectID) (username : String) : Prop where
  roster : s'.roster = s.roster
  users : ∀ user ∈ s.db.users.rows, user ∈ s'.db.users.rows ∧ user.id ≠ userID
  login : ∃ user ∈ s'.db.users.rows, user.id = userID ∧ accountEmail username = some user.email

section Requests

variable [Library] [AccountLibrary] {b : Backend} {s : AccountStore}

lemma Ensures.generating {α : Type} {post : α → AccountStore → Prop} {call : Program AccountRequest AccountReply α}
    (h : Ensures (AccountStore.refusing b) post call s) : Ensures (AccountStore.generating b) post call s := by
  induction call generalizing s with
  | done a => exact h
  | request q k ih => exact fun env => ih _ (h (env.1.1, env.2))

lemma generating_reads_bind {α β : Type} {post : Except LmsError β → AccountStore → Prop} {call : AccountCall α}
    {f : α → AccountCall β} (hcall : call.run.AllRequests (fun q => q.reads)) (herror : ∀ e, post (.error e) s)
    (hok : ∀ a, Ensures (AccountStore.generating b) post (f a).run s) :
    Ensures (AccountStore.generating b) post (call >>= f).run s := by
  refine Ensures.run_bind ((Ensures.generating (ensures_reads hcall s)).mono ?_)
  rintro r s' rfl
  cases r with
  | error e => exact herror e
  | ok a => exact hok a

lemma generating_reads_caught_bind {α β : Type} {post : Except LmsError β → AccountStore → Prop} {call : AccountCall α}
    {f : Except LmsError α → AccountCall β} (hcall : call.run.AllRequests (fun q => q.reads))
    (h : ∀ r, Ensures (AccountStore.generating b) post (f r).run s) :
    Ensures (AccountStore.generating b) post (caught call >>= f).run s := by
  refine ensures_caught_bind ((Ensures.generating (ensures_reads hcall s)).mono ?_)
  rintro r s' rfl
  exact h r

omit [AccountLibrary] in
/-- A user that was created is a new row with the email that was asked for. -/
lemma createUser_added {env : AccountEnv} {user : Postgres.AuthUser} {roles : List String} {db : Postgres.Database}
    {userID : ObjectID} (h : (createUser env user roles db).1 = .ok userID) :
    ∃ added, (createUser env user roles db).2.users.rows = db.users.rows ++ [added] ∧ added.id = userID ∧
      varchar 255 (trimSpace (toLower user.email)) = some added.email ∧ ∀ other ∈ db.users.rows, other.id ≠ userID := by
  unfold createUser at h ⊢
  generalize hadmitted : admittedUser _ = admitted at h ⊢
  cases admitted with
  | none => cases h
  | some added =>
    have hfields : added.id = env.id ∧ varchar 255 (trimSpace (toLower user.email)) = some added.email := by
      simp only [admittedUser, Option.bind_eq_bind, Option.bind_eq_some_iff, Option.pure_def, Option.some.injEq] at hadmitted
      obtain ⟨_, -, email, hemail, _, -, _, -, _, -, rfl⟩ := hadmitted
      exact ⟨rfl, hemail⟩
    dsimp only at h ⊢
    unfold insertUser at h ⊢
    split at h
    · cases h
    · next users husers =>
      split at husers
      · next hnew =>
        cases husers
        obtain rfl := Except.ok.inj h
        refine ⟨added, rfl, hfields.1, hfields.2, fun other hother hsame => hnew.1 ?_⟩
        rw [hfields.1, ← hsame]
        exact List.mem_map_of_mem hother
      · cases husers

lemma createStudentAuthUser_opens (tenantID fullName username password phone : String) (birthday : Option Time) :
    Ensures (AccountStore.refusing b) (fun r s' => (∀ userID, r = .ok userID → OpensLogin s s' userID username) ∧
        ((∀ userID, r ≠ .ok userID) → s' = s))
      (Service.createStudentAuthUser tenantID fullName username password phone birthday).run s := by
  unfold Service.createStudentAuthUser
  refine ensures_account_bind ?_ ?_
  · exact fun env _ _ => ⟨fun _ => nofun, fun _ => refusing_of_reads rfl⟩
  intro env hash _
  rw [refusing_of_reads rfl]
  intro env'
  unfold AccountStore.refusing
  split
  · exact ⟨fun _ => nofun, fun _ => rfl⟩
  · constructor
    · intro userID hcreated
      obtain ⟨added, hrows, hid, hemail, hothers⟩ := createUser_added hcreated
      exact ⟨rfl, fun user huser => ⟨hrows ▸ List.mem_append_left _ huser, hothers user huser⟩,
        added, hrows ▸ List.mem_append_right _ (List.mem_singleton_self added), hid, hemail⟩
    · exact fun hnone => congrArg (fun db => { s with db := db }) (createUser_refused hnone)

lemma deleteUser_grows {s₁ : AccountStore} {userID : ObjectID} {username : String} (h : OpensLogin s s₁ userID username) :
    Ensures (AccountStore.refusing b) (fun _ s' => s.Grows s') (account (.deleteUserByID userID)).run s₁ := by
  have hopened : s.Grows s₁ :=
    ⟨fun student hstudent => by rwa [AccountStore.students, h.roster], fun user huser => (h.users user huser).1,
      fun student hstudent => .inl (by rwa [AccountStore.students, h.roster] at hstudent)⟩
  intro env
  unfold AccountStore.refusing
  split
  · exact hopened
  · refine ⟨hopened.students, fun user huser => ?_, hopened.fresh⟩
    change user ∈ (deleteUserByID userID s₁.db).users.rows
    obtain ⟨hmem, hother⟩ := h.users user huser
    unfold deleteUserByID
    split
    · exact hmem
    · exact List.mem_filter.mpr ⟨hmem, by simpa using hother⟩

/-- A student that was created can be traced. -/
lemma createStudent_traced {provisioning : Bool} (env : {env : AccountEnv // env.id ≠ .nil} × Bool) {student : Student}
    (hid : student.id = .nil) (hlogin : HasLogin provisioning s student) :
    (∃ created s', AccountStore.generating b env (.createStudent student) s = (.ok created, s') ∧ s.Grows s' ∧
      created.username = student.username ∧
      TracedItem b provisioning student.tenantID s' (created.id.hex, student.username)) ∨
    ∃ e, AccountStore.generating b env (.createStudent student) s = (.error e, s) := by
  obtain ⟨⟨env, hfresh⟩, refused⟩ := env
  unfold AccountStore.generating AccountStore.refusing
  split
  · exact .inr ⟨_, rfl⟩
  have hexec : AccountStore.exec b env (.createStudent student) s =
      ((createStudent b env student s.roster).1, { s with roster := (createStudent b env student s.roster).2 }) := rfl
  have hstored : (student.stored env).id = env.id := by
    unfold Student.stored
    rw [hid]
    rfl
  dsimp only
  rw [hexec]
  unfold createStudent
  split
  · exact .inr ⟨_, rfl⟩
  rename_i hconflict
  split
  · exact .inr ⟨_, rfl⟩
  rename_i students hinsert
  have hdocs := Collection.docs_insertOne hinsert
  have hkept : ∀ other ∈ s.students ++ [student.stored env], other ∈ students.docs := fun _ h => hdocs ▸ h
  refine .inl ⟨_, _, rfl, ⟨fun other hother => ?_, fun _ huser => huser, fun other hother => ?_⟩, ?_, ?_⟩
  · exact hkept other (List.mem_append_left _ hother)
  · change other ∈ students.docs at hother
    rw [hdocs, List.mem_append, List.mem_singleton] at hother
    exact hother.imp id fun hnew => by rwa [hnew, hstored]
  · split <;> rfl
  · cases b with
    | memory =>
      refine ⟨student.stored env, hkept _ (List.mem_append_right _ (List.mem_singleton_self _)), rfl, rfl, rfl, ?_⟩
      cases provisioning with
      | false => exact hlogin
      | true => exact hlogin
    | mongo =>
      have hcreated : (student.inserted env).id.hex = ObjectID.nil.hex := congrArg ObjectID.hex hid
      refine ⟨hcreated, fun other hother htenant husername => ?_⟩
      change other ∈ students.docs at hother
      rw [hdocs, List.mem_append, List.mem_singleton] at hother
      obtain hold | rfl := hother
      · -- the index on usernames has no second entry
        refine absurd ?_ hconflict
        rw [Bool.and_eq_true, List.any_eq_true]
        refine ⟨rfl, other, hold, ?_⟩
        have hsame : (student.stored env).tenantID = other.tenantID ∧ (student.stored env).username = other.username :=
          ⟨htenant.symm, husername.symm⟩
        unfold Student.conflicts
        rw [hsame.1, hsame.2]
        simp
      · rwa [hstored]

end Requests

/-! ## The routes -/

/-- A turn of a loop: what it adds to the students that are returned can be traced. -/
def Turn [Library] (b : Backend) (tenantID : String) (items items' : List (String × String)) (s s' : AccountStore) : Prop :=
  s.Grows s' ∧ ∀ item ∈ items', item ∈ items ∨ TracedItem b true tenantID s' item

def ImportCredential.item (credential : ImportCredential) : String × String := (credential.studentID, credential.username)

/-- The students that the loop over the rows of a request will return. -/
def BulkState.items (state : BulkState) : List (String × String) :=
  state.result.credentials.map ImportCredential.item ++
    state.createdStudents.map fun student => (student.id.hex, student.username)

section Routes

variable [Library] [AccountLibrary] {b : Backend} {tenantID : String} {s : AccountStore}

omit [AccountLibrary] in
lemma Turn.none (items : List (String × String)) : Turn b tenantID items items s s :=
  ⟨.refl s, fun _ h => .inl h⟩

lemma generating_opens {β : Type} {post : Except LmsError β → AccountStore → Prop} {tenantID fullName username password
    phone : String} {birthday : Option Time} {f : Except LmsError ObjectID → AccountCall β}
    (herror : ∀ e, Ensures (AccountStore.generating b) post (f (.error e)).run s)
    (hok : ∀ userID s', OpensLogin s s' userID username → Ensures (AccountStore.generating b) post (f (.ok userID)).run s') :
    Ensures (AccountStore.generating b) post
      (caught (Service.createStudentAuthUser tenantID fullName username password phone birthday) >>= f).run s := by
  refine ensures_caught_bind ((Ensures.generating
    (createStudentAuthUser_opens tenantID fullName username password phone birthday)).mono ?_)
  rintro (e | userID) s' ⟨hopens, hkept⟩
  · obtain rfl := hkept fun _ => nofun
    exact herror e
  · exact hok userID s' (hopens userID rfl)

omit [AccountLibrary] in
lemma OpensLogin.hasLogin {s' : AccountStore} {userID : ObjectID} (student : Student)
    (h : OpensLogin s s' userID student.username) (huser : student.authUserID = userID.hex) : HasLogin true s' student := by
  obtain ⟨user, hmem, hid, hemail⟩ := h.login
  exact ⟨user, hmem, by rw [hid, huser], hemail⟩

omit [AccountLibrary] in
lemma OpensLogin.grows {s' : AccountStore} {userID : ObjectID} {username : String} (h : OpensLogin s s' userID username) :
    s.Grows s' :=
  ⟨fun _ hstudent => by rwa [AccountStore.students, h.roster], fun user huser => (h.users user huser).1,
    fun _ hstudent => .inl (by rwa [AccountStore.students, h.roster] at hstudent)⟩

lemma generating_creates {β : Type} {post : Except LmsError β → AccountStore → Prop} {provisioning : Bool}
    {student : Student} {f : Except LmsError Student → AccountCall β} (hid : student.id = .nil)
    (hlogin : HasLogin provisioning s student) (herror : ∀ e, Ensures (AccountStore.generating b) post (f (.error e)).run s)
    (hok : ∀ created s', s.Grows s' → created.username = student.username →
      TracedItem b provisioning student.tenantID s' (created.id.hex, student.username) →
      Ensures (AccountStore.generating b) post (f (.ok created)).run s') :
    Ensures (AccountStore.generating b) post (caught (account (.createStudent student)) >>= f).run s := by
  refine ensures_caught_bind ?_
  intro env
  obtain ⟨created, s', hcreate, hgrows, husername, htraced⟩ | ⟨err, hcreate⟩ :=
    createStudent_traced (b := b) env hid hlogin
  · rw [hcreate]
    exact hok created s' hgrows husername htraced
  · rw [hcreate]
    exact herror err

/-- Taking back the login of a student that could not be created. -/
lemma generating_takes_back {β : Type} {post : Except LmsError β → AccountStore → Prop} {s₁ : AccountStore}
    {userID : ObjectID} {username : String} {f : Except LmsError Unit → AccountCall β} (hopens : OpensLogin s s₁ userID username)
    (h : ∀ r s', s.Grows s' → Ensures (AccountStore.generating b) post (f r).run s') :
    Ensures (AccountStore.generating b) post (caught (account (.deleteUserByID userID)) >>= f).run s₁ :=
  ensures_caught_bind ((Ensures.generating (deleteUser_grows hopens)).mono fun r s' hgrows => h r s' hgrows)

lemma provisionRow_traced (job : ImportJob) (rowID : String) (merged : ParsedStudentRow) (class' : Class)
    (profile : NormalizedStudentProfile) (username : String) :
    Ensures (AccountStore.generating b) (OnSuccess fun job' s' =>
        Turn b tenantID (job.credentials.map ImportCredential.item) (job'.credentials.map ImportCredential.item) s s')
      (Service.provisionRow tenantID job rowID merged class' profile username).run s := by
  unfold Service.provisionRow
  refine generating_reads_bind secureTempPassword_reads (fun _ => trivial) fun password => ?_
  refine generating_opens (fun err => ?_) fun userID s₁ hopens => ?_
  · dsimp only
    split
    · exact Turn.none _
    · trivial
  have hlogin := hopens.hasLogin (Service.newStudent tenantID class' profile username userID.hex
    merged.birthday merged.enrollmentDate "active") rfl
  refine generating_creates rfl hlogin (fun err => ?_) fun created s₂ hgrows _ htraced => ?_
  · exact generating_takes_back hopens fun _ s₂ hgrows => ⟨hgrows, fun _ h => .inl h⟩
  · refine ⟨hopens.grows.trans hgrows, fun item hitem => ?_⟩
    change item ∈ (job.credentials ++ [_]).map ImportCredential.item at hitem
    rw [List.map_append, List.mem_append, List.map_singleton, List.mem_singleton] at hitem
    obtain hold | rfl := hitem
    · exact .inl hold
    · exact .inr htraced

lemma provisionBulkRow_traced (state : BulkState) (rowID : String) (row : BulkCreateStudentAccountRow) (ready : ReadyRow) :
    Ensures (AccountStore.generating b) (OnSuccess fun state' s' => Turn b tenantID state.items state'.items s s')
      (Service.provisionBulkRow tenantID state rowID row ready).run s := by
  unfold Service.provisionBulkRow
  refine generating_reads_bind (account_reads rfl) (fun _ => trivial) fun taken => ?_
  cases taken with
  | true => exact Turn.none _
  | false =>
    refine generating_opens (fun err => ?_) fun userID s₁ hopens => ?_
    · dsimp only
      split
      · exact Turn.none _
      · trivial
    have hlogin := hopens.hasLogin (Service.newStudent tenantID ready.class' ready.profile ready.username
      userID.hex row.birthday row.enrollmentDate "active") rfl
    refine generating_creates rfl hlogin (fun err => ?_) fun created s₂ hgrows husername htraced => ?_
    · exact generating_takes_back hopens fun _ s₂ hgrows => ⟨hgrows, fun _ h => .inl h⟩
    · refine ⟨hopens.grows.trans hgrows, fun item hitem => ?_⟩
      change item ∈ (state.result.credentials ++ [_]).map ImportCredential.item ++
        (state.createdStudents ++ [created]).map fun student => (student.id.hex, student.username) at hitem
      simp only [List.map_append, List.map_singleton, List.mem_append, List.mem_singleton] at hitem
      obtain (hold | rfl) | hold | rfl := hitem
      · exact .inl (List.mem_append_left _ hold)
      · exact .inr htraced
      · exact .inl (List.mem_append_right _ hold)
      · rw [husername]
        exact .inr htraced

variable [Go.Unicode]

lemma commitRow_traced (centerID : ObjectID) (classID : String) (parsed : List ParsedStudentRow) (job : ImportJob)
    (row : GoogleSheetCommitRow) :
    Ensures (AccountStore.generating b) (OnSuccess fun job' s' =>
        Turn b tenantID (job.credentials.map ImportCredential.item) (job'.credentials.map ImportCredential.item) s s')
      (Service.commitRow tenantID centerID classID parsed job row).run s := by
  unfold Service.commitRow
  refine generating_reads_bind (prepareRow_reads tenantID centerID classID _ _) (fun _ => trivial) fun prepared => ?_
  cases prepared with
  | skipped err => exact Turn.none _
  | ready class' profile username duplicate => exact provisionRow_traced (job.countDuplicate duplicate) _ _ _ _ _

lemma bulkAccountRow_traced (centerID : ObjectID) (classID : String) (state : BulkState) (rowID : String)
    (row : BulkCreateStudentAccountRow) (profile : NormalizedStudentProfile) (username password : String) :
    Ensures (AccountStore.generating b) (OnSuccess fun state' s' => Turn b tenantID state.items state'.items s s')
      (Service.bulkAccountRow tenantID centerID classID state rowID row profile username password).run s := by
  unfold Service.bulkAccountRow
  cases state.usernamesInRequest.lookup username with
  | some previousRowID => exact Turn.none _
  | none =>
    dsimp only
    generalize firstNonEmpty [row.classID, classID] = classID
    cases validateStudentPassword password username profile.fullName with
    | error err => exact Turn.none _
    | ok _ =>
      refine generating_reads_caught_bind (resolveImportClass_reads tenantID centerID classID row.className) fun r => ?_
      cases r with
      | error err => exact Turn.none _
      | ok class' =>
        exact provisionBulkRow_traced { state with usernamesInRequest := (username, rowID) :: state.usernamesInRequest }
          rowID row ⟨class', profile, username, password⟩

lemma bulkRow_traced (centerID : ObjectID) (classID : String) (state : BulkState) (row : BulkCreateStudentAccountRow) :
    Ensures (AccountStore.generating b) (OnSuccess fun state' s' => Turn b tenantID state.items state'.items s s')
      (Service.bulkRow tenantID centerID classID state row).run s := by
  unfold Service.bulkRow
  have hreads := rowPassword_reads row.password
  generalize Service.rowPassword row.password = passwordCall at hreads
  generalize normalizeStudentUsername row.username = username
  generalize firstNonEmpty [row.rowID, "row-" ++ toString row.rowNumber] = rowID
  dsimp only
  split
  · exact Turn.none _
  refine generating_reads_bind hreads (fun _ => trivial) fun password => ?_
  cases Service.bulkProfile row with
  | error err => exact Turn.none _
  | ok profile =>
    dsimp only
    split
    · exact Turn.none _
    · cases validateStudentUsername username with
      | error err => exact Turn.none _
      | ok _ => exact bulkAccountRow_traced centerID classID state rowID row profile username password

omit [Go.Unicode] in
/-- A loop of such turns returns students that can be traced. -/
lemma traced_rows {α β : Type} (tenantID : String) (items : β → List (String × String)) {turn : β → α → AccountCall β}
    (hturn : ∀ state row s, Ensures (AccountStore.generating b)
      (OnSuccess fun state' s' => Turn b tenantID (items state) (items state') s s') (turn state row).run s)
    (rows : List α) (state : β) (hstart : items state = []) :
    Ensures (AccountStore.generating b) (OnSuccess fun state' s' => ∀ item ∈ items state', TracedItem b true tenantID s' item)
      (rows.foldlM turn state).run s := by
  refine Ensures.run_foldlM (I := fun _ state s => ∀ item ∈ items state, TracedItem b true tenantID s item) (n := 0) ?_ ?_
  · intro n state row s htraced
    refine (hturn state row s).mono ?_
    rintro (e | state') s' hr
    · trivial
    · exact fun item hitem => (hr.2 item hitem).elim (fun hold => (htraced item hold).mono hr.1) id
  · rw [hstart]
    exact fun _ h => absurd h List.not_mem_nil

omit [Go.Unicode] in
/-- A student is shown under its id and its username. -/
lemma showStudent_item (student : Student) :
    Ensures (AccountStore.generating b) (OnSuccess fun item s' =>
        s' = s ∧ (item.id, item.username) = (student.id.hex, student.username))
      (Service.showStudent tenantID student).run s := by
  unfold Service.showStudent
  refine generating_reads_caught_bind (account_reads rfl) fun center => ?_
  refine generating_reads_caught_bind (account_reads rfl) fun class' => ?_
  exact ⟨rfl, rfl⟩

omit [Go.Unicode] in
lemma showStudents_items (students : List Student) :
    Ensures (AccountStore.generating b) (OnSuccess fun items s' =>
        s' = s ∧ items.map (fun item => (item.id, item.username)) =
          students.map (fun student => (student.id.hex, student.username)))
      (students.mapM (Service.showStudent tenantID)).run s := by
  induction students with
  | nil => exact ⟨rfl, rfl⟩
  | cons student students ih =>
    rw [List.mapM_cons]
    refine Ensures.run_bind ((showStudent_item student).mono ?_)
    rintro (e | item) s₁ hitem
    · trivial
    obtain ⟨rfl, hitem⟩ := hitem
    refine Ensures.run_bind (ih.mono ?_)
    rintro (e | items) s₁ hitems
    · trivial
    obtain ⟨rfl, hitems⟩ := hitems
    refine ⟨rfl, ?_⟩
    rw [List.map_cons, List.map_cons, hitem, hitems]

lemma commitGoogleSheetImport_traced (provisioning : Bool) (actor : Actor) (req : GoogleSheetCommitRequest) :
    Ensures (AccountStore.generating b) (OnSuccess fun resp s' =>
        ∀ credential ∈ resp.credentials, TracedItem b true tenantID s' credential.item)
      (Service.commitGoogleSheetImport provisioning tenantID actor req).run s := by
  unfold Service.commitGoogleSheetImport
  refine Ensures.lift_bind (fun _ _ => trivial) fun _ _ => ?_
  refine generating_reads_bind (importTarget_reads tenantID actor req) (fun _ => trivial) fun target => ?_
  refine Ensures.run_bind ?_
  have hloop := traced_rows (b := b) (s := s) tenantID (fun job : ImportJob => job.credentials.map ImportCredential.item)
    (fun job row s => commitRow_traced target.2.id req.classID target.1.rows job row) req.rows
    (Service.newImportJob tenantID actor target.1) rfl
  refine hloop.mono ?_
  rintro (e | job) s₁ hjob
  · trivial
  refine ensures_account_bind (fun _ _ _ => trivial) fun env jobID _ => ?_
  have hkept : s₁.Grows (AccountStore.generating b env (.createImportJob job) s₁).2 := by
    have hroster : (AccountStore.generating b env (.createImportJob job) s₁).2.roster = s₁.roster :=
      roster_refusing fun _ => nofun
    have hdb : (AccountStore.generating b env (.createImportJob job) s₁).2.db = s₁.db := by
      unfold AccountStore.generating AccountStore.refusing AccountStore.exec
      dsimp only
      split
      · rfl
      · split
        · rfl
        · split <;> rfl
    exact ⟨fun _ h => by rwa [AccountStore.students, hroster], fun _ h => by rwa [hdb],
      fun _ h => .inl (by rwa [AccountStore.students, hroster] at h)⟩
  exact fun credential hcredential => (hjob _ (List.mem_map_of_mem hcredential)).mono hkept

lemma bulkCreateStudentAccounts_traced (provisioning : Bool) (actor : Actor) (req : BulkCreateStudentAccountsRequest) :
    Ensures (AccountStore.generating b) (OnSuccess fun resp s' =>
        (∀ credential ∈ resp.credentials, TracedItem b true tenantID s' credential.item) ∧
        ∀ student ∈ resp.students, TracedItem b true tenantID s' (student.id, student.username))
      (Service.bulkCreateStudentAccounts provisioning tenantID actor req).run s := by
  unfold Service.bulkCreateStudentAccounts
  refine Ensures.lift_bind (fun _ _ => trivial) fun _ _ => ?_
  refine Ensures.lift_bind (fun _ _ => trivial) fun _ _ => ?_
  refine generating_reads_bind (account_reads rfl) (fun _ => trivial) fun found => ?_
  refine Ensures.lift_bind (fun _ _ => trivial) fun center _ => ?_
  refine generating_reads_bind (accountCenterAccess_reads tenantID actor req.centerID) (fun _ => trivial) fun allowed => ?_
  refine Ensures.lift_bind (fun _ _ => trivial) fun _ _ => ?_
  refine Ensures.run_bind ?_
  have hloop := traced_rows (b := b) (s := s) tenantID BulkState.items
    (fun state row s => bulkRow_traced center.id req.classID state row) req.rows {} rfl
  refine hloop.mono ?_
  rintro (e | state) s₁ hstate
  · trivial
  refine Ensures.run_bind ((showStudents_items state.createdStudents).mono ?_)
  rintro (e | students) s₂ hstudents
  · trivial
  obtain ⟨rfl, hstudents⟩ := hstudents
  refine ⟨fun credential hcredential => ?_, fun student hstudent => ?_⟩
  · exact hstate _ (List.mem_append_left _ (List.mem_map_of_mem hcredential))
  · refine hstate _ (List.mem_append_right _ ?_)
    rw [← hstudents]
    exact List.mem_map_of_mem (f := fun item : StudentListItem => (item.id, item.username)) hstudent

attribute [local irreducible] Service.requestedUsername normalizeStudentProfile validateStudentPassword trimSpace

omit [Go.Unicode] in
lemma createdStudent_shown {provisioning : Bool} {created student : Student} {password : String}
    (husername : created.username = student.username)
    (htraced : TracedItem b provisioning tenantID s (created.id.hex, student.username)) :
    Ensures (AccountStore.generating b) (OnSuccess fun resp s' =>
        TracedItem b provisioning tenantID s' (resp.student.id, resp.student.username))
      (do return ⟨← Service.showStudent tenantID created, password⟩ : AccountCall StudentResponse).run s := by
  refine Ensures.run_bind ((showStudent_item created).mono ?_)
  rintro (e | item) s' hitem
  · trivial
  obtain ⟨rfl, hitem⟩ := hitem
  change TracedItem b provisioning tenantID s' (item.id, item.username)
  rw [hitem, husername]
  exact htraced

lemma createStudent_route_traced (provisioning : Bool) (actor : Actor) (req : CreateStudentRequest) :
    Ensures (AccountStore.generating b) (OnSuccess fun resp s' =>
        TracedItem b provisioning tenantID s' (resp.student.id, resp.student.username))
      (Service.createStudent provisioning tenantID actor req).run s := by
  unfold Service.createStudent
  refine Ensures.lift_bind (fun _ _ => trivial) fun profile _ => ?_
  refine generating_reads_bind (account_reads rfl) (fun _ => trivial) fun _ => ?_
  refine Ensures.lift_bind (fun _ _ => trivial) fun class' _ => ?_
  refine generating_reads_bind ?_ (fun _ => trivial) fun _ => ?_
  · unfold Service.accountClassAccess
    split
    · trivial
    · exact accountCenterAccess_reads tenantID actor _
  refine Ensures.lift_bind (fun _ _ => trivial) fun _ _ => ?_
  refine generating_reads_bind secureTempPassword_reads (fun _ => trivial) fun password => ?_
  refine generating_reads_bind (requestedUsername_reads tenantID profile class' req.username) (fun _ => trivial)
    fun username => ?_
  dsimp only
  refine Ensures.lift_bind (fun _ _ => trivial) fun _ _ => ?_
  generalize (if trimSpace req.password ≠ "" then trimSpace req.password else password) = password
  unfold Service.provisionAuthUser
  cases provisioning with
  | false =>
    refine Ensures.run_bind ?_
    have hlogin : HasLogin false s (Service.newStudent tenantID class' profile username "" req.birthday
      req.enrollmentDate "") := rfl
    refine generating_creates rfl hlogin (fun err => ?_) fun created s₁ _ husername htraced => ?_
    · trivial
    · exact createdStudent_shown husername htraced
  | true =>
    refine Ensures.run_bind ?_
    refine generating_opens (fun err => ?_) fun userID s₁ hopens => ?_
    · dsimp only
      rw [if_pos rfl]
      split <;> trivial
    have hlogin := hopens.hasLogin (Service.newStudent tenantID class' profile username userID.hex req.birthday
      req.enrollmentDate "") rfl
    refine generating_creates rfl hlogin (fun err => ?_) fun created s₂ _ husername htraced => ?_
    · exact ensures_caught_bind fun env => trivial
    · exact createdStudent_shown husername htraced

/-- A student or a credential that a route returns carries an id that leads to its student if and only
if the repository is the one in memory. -/
theorem names_iff_memory (b : Backend) (provisioning : Bool) (tenantID : String) (actor : Actor) (s s' : AccountStore) :
    (∀ (req : CreateStudentRequest) (resp : StudentResponse),
      Evaluates (AccountStore.generating b) (Service.createStudent provisioning tenantID actor req).run s (.ok resp) s' →
      (Names provisioning tenantID s' resp.student.id resp.student.username ↔ b = .memory)) ∧
    (∀ (req : BulkCreateStudentAccountsRequest) (resp : BulkCreateStudentAccountsResponse),
      Evaluates (AccountStore.generating b) (Service.bulkCreateStudentAccounts provisioning tenantID actor req).run s
        (.ok resp) s' →
      (∀ credential ∈ resp.credentials, Names true tenantID s' credential.studentID credential.username ↔ b = .memory) ∧
      ∀ student ∈ resp.students, Names true tenantID s' student.id student.username ↔ b = .memory) ∧
    ∀ (req : GoogleSheetCommitRequest) (resp : GoogleSheetCommitResponse),
      Evaluates (AccountStore.generating b) (Service.commitGoogleSheetImport provisioning tenantID actor req).run s
        (.ok resp) s' →
      ∀ credential ∈ resp.credentials, Names true tenantID s' credential.studentID credential.username ↔ b = .memory := by
  refine ⟨fun req resp hrun => ?_, fun req resp hrun => ?_, fun req resp hrun credential hcredential => ?_⟩
  · exact names_iff ((createStudent_route_traced provisioning actor req).sound hrun)
  · obtain ⟨hcredentials, hstudents⟩ := (bulkCreateStudentAccounts_traced provisioning actor req).sound hrun
    exact ⟨fun credential hcredential => names_iff (hcredentials credential hcredential),
      fun student hstudent => names_iff (hstudents student hstudent)⟩
  · exact names_iff ((commitGoogleSheetImport_traced provisioning actor req).sound hrun credential hcredential)

end Routes

section Sample

attribute [local instance] asciiLibrary asciiUnicode Sample.accountLibrary

namespace Sample

/-- A registration that draws this id, which is not zero. -/
def drawingFresh : {env : AccountEnv // env.id ≠ .nil} × Bool := (⟨drawing (id 4), by decide⟩, false)

def newcomer : CreateStudentRequest := { fullName := "An Ngo", classID := (id 2).hex, username := "an.ngo" }

/-- One student is created in either repository. -/
def enrolled (b : Backend) : Except LmsError StudentResponse × AccountStore :=
  (Service.createStudent true "t" registrar newcomer).run.alone (AccountStore.generating b) drawingFresh enrolment

lemma enrolled_item (b : Backend) (studentID : String) (h : (enrolled b).1.toOption.map (fun resp => (resp.student.id, resp.student.username)) =
    some (studentID, "an.ngo")) : ∃ resp, (enrolled b).1 = .ok resp ∧ resp.student.id = studentID ∧
      resp.student.username = "an.ngo" := by
  cases hresult : (enrolled b).1 with
  | error e =>
    rw [hresult] at h
    cases h
  | ok resp =>
    rw [hresult] at h
    have hitem := Option.some.inj h
    simp only [Prod.mk.injEq] at hitem
    exact ⟨resp, rfl, hitem.1, hitem.2⟩

end Sample

theorem names_newcomer : Names true "t" (Sample.enrolled .memory).2 (Sample.id 4).hex "an.ngo" := by
  obtain ⟨resp, hresp, hid, husername⟩ := Sample.enrolled_item .memory (Sample.id 4).hex (by decide)
  have hrun := evaluates_alone (AccountStore.generating .memory) Sample.drawingFresh
    (Service.createStudent true "t" Sample.registrar Sample.newcomer).run Sample.enrolment
  change Evaluates _ _ _ (Sample.enrolled .memory).1 (Sample.enrolled .memory).2 at hrun
  rw [hresp] at hrun
  have hnames := ((names_iff_memory .memory true "t" Sample.registrar Sample.enrolment (Sample.enrolled .memory).2).1
    Sample.newcomer resp hrun).mpr rfl
  rwa [hid, husername] at hnames

/-- On MongoDB the new student is returned under the zero id, and no student is found under it. -/
theorem newcomer_without_id : ∃ resp, (Sample.enrolled .mongo).1 = .ok resp ∧ resp.student.id = ObjectID.nil.hex ∧
    resp.student.username = "an.ngo" ∧ (Sample.enrolled .mongo).2.students.map (·.id) = [Sample.id 4] ∧
    ¬Names true "t" (Sample.enrolled .mongo).2 resp.student.id resp.student.username := by
  obtain ⟨resp, hresp, hid, husername⟩ := Sample.enrolled_item .mongo ObjectID.nil.hex (by decide)
  have hids : (Sample.enrolled .mongo).2.students.map (·.id) = [Sample.id 4] := by decide
  refine ⟨resp, hresp, hid, husername, hids, ?_⟩
  rintro ⟨student, hfound, -⟩
  unfold Roster.getStudent at hfound
  rw [hid, objectID_hex] at hfound
  have hfind : (Sample.enrolled .mongo).2.roster.students.find
      (fun student => student.tenantID = "t" && student.id = ObjectID.nil) = some student := Except.ok.inj hfound
  have hmatch := List.find?_some hfind
  simp only [Bool.and_eq_true, decide_eq_true_eq] at hmatch
  have hmem : student.id ∈ (Sample.enrolled .mongo).2.students.map (·.id) :=
    List.mem_map_of_mem (List.mem_of_find?_eq_some hfind)
  rw [hids, hmatch.2, List.mem_singleton] at hmem
  exact absurd hmem (by decide)

end Sample

end ErgGo.Lms
