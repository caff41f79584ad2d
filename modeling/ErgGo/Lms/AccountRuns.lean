import ErgGo.Lms.AccountService

/-!
# Rows, accounts and credentials

A successful import or bulk request accounts for every row: it has created a student and
returned a credential for it, or it has skipped the row. The usernames of the credentials are
new. A request of the call may also be refused by the store.
-/

namespace ErgGo.Lms
open Go Documents Concurrent Program

lemma run_caught_bind {α β : Type} (call : AccountCall α) (f : Except LmsError α → AccountCall β) :
    (caught call >>= f).run = call.run.bind (fun r => (f r).run) := by
  rw [Program.run_bind]
  exact Program.bind_assoc call.run _ _

section Ensures

variable {Env σ α β : Type} {exec : Env → (q : AccountRequest) → σ → AccountReply q × σ}

lemma ensures_caught_bind {post : Except LmsError β → σ → Prop} {call : AccountCall α}
    {f : Except LmsError α → AccountCall β} {s : σ}
    (h : Ensures exec (fun r s' => Ensures exec post (f r).run s') call.run s) :
    Ensures exec post (caught call >>= f).run s := by
  rw [run_caught_bind]
  exact Ensures.bind h

/-- A request and what follows its reply. -/
lemma ensures_account_bind {post : Except LmsError β → σ → Prop} {q : AccountRequest}
    {f : AccountResult q → AccountCall β} {s : σ}
    (herror : ∀ env e, (exec env q s).1 = .error e → post (.error e) (exec env q s).2)
    (hok : ∀ env a, (exec env q s).1 = .ok a → Ensures exec post (f a).run (exec env q s).2) :
    Ensures exec post (account q >>= f).run s := by
  refine Ensures.run_bind ?_
  intro env
  have herror := herror env
  have hok := hok env
  generalize exec env q s = reply at herror hok ⊢
  obtain ⟨e | a, s'⟩ := reply
  · exact herror e rfl
  · exact hok a rfl

end Ensures

/-- A store that may refuse a request. -/
def AccountStore.refusing [Library] [AccountLibrary] (b : Backend) (env : AccountEnv × Bool) (q : AccountRequest)
    (s : AccountStore) : AccountReply q × AccountStore :=
  if env.2 then (.error .storeFailure, s) else AccountStore.exec b env.1 q s

/-- The requests that only read. -/
def AccountRequest.reads : AccountRequest → Bool
  | .createStudent _ => false
  | .createImportJob _ => false
  | .createUser .. => false
  | .deleteUserByID _ => false
  | _ => true

def AccountStore.students (s : AccountStore) : List Student := s.roster.students.docs

/-- No student of the tenant has the username. -/
def AccountStore.UsernameFree (s : AccountStore) (tenantID username : String) : Prop :=
  ∀ student ∈ s.students, student.tenantID = tenantID → student.username ≠ username

section Exec

variable [Library] [AccountLibrary] {b : Backend} {env : AccountEnv × Bool} {q : AccountRequest} {s : AccountStore}

lemma refusing_of_reads (hq : q.reads) : (AccountStore.refusing b env q s).2 = s := by
  unfold AccountStore.refusing
  split
  · rfl
  · cases q with
    | createStudent => cases hq
    | createImportJob => cases hq
    | createUser => cases hq
    | deleteUserByID => cases hq
    | _ => rfl

/-- Only creating a student changes the roster. -/
lemma roster_refusing (hq : ∀ student, q ≠ .createStudent student) : (AccountStore.refusing b env q s).2.roster = s.roster := by
  unfold AccountStore.refusing
  split
  · rfl
  · cases q with
    | createStudent student => exact absurd rfl (hq student)
    | createImportJob job =>
      unfold AccountStore.exec
      dsimp only
      split
      · rfl
      · split <;> rfl
    | _ => rfl

lemma usernameFree_of_refusing {tenantID username : String}
    (h : (AccountStore.refusing b env (.usernameExists tenantID username) s).1 = .ok false) :
    s.UsernameFree tenantID username := by
  unfold AccountStore.refusing at h
  split at h
  · cases h
  · have hnone : s.students.any (fun student => student.tenantID = tenantID && student.username = username) = false :=
      Except.ok.inj h
    intro student hstudent htenant husername
    rw [List.any_eq_false] at hnone
    exact hnone student hstudent (by simp [htenant, husername])

omit [Library] [AccountLibrary] in
/-- Creating a student adds it, or nothing. -/
lemma createStudent_students (b : Backend) (env : AccountEnv) (student : Student) (r : Roster) :
    (∃ created r', createStudent b env student r = (.ok created, r') ∧
      r'.students.docs = r.students.docs ++ [student.stored env]) ∨
    ∃ e, createStudent b env student r = (.error e, r) := by
  unfold createStudent
  split
  · exact .inr ⟨_, rfl⟩
  · split
    · exact .inr ⟨_, rfl⟩
    · next hinsert => exact .inl ⟨_, _, rfl, Collection.docs_insertOne hinsert⟩

lemma refusing_createStudent (b : Backend) (env : AccountEnv × Bool) (student : Student) (s : AccountStore) :
    (∃ created s', AccountStore.refusing b env (.createStudent student) s = (.ok created, s') ∧
      s'.students = s.students ++ [student.stored env.1]) ∨
    ∃ e, AccountStore.refusing b env (.createStudent student) s = (.error e, s) := by
  unfold AccountStore.refusing
  split
  · exact .inr ⟨_, rfl⟩
  · have hexec : AccountStore.exec b env.1 (.createStudent student) s =
        ((createStudent b env.1 student s.roster).1, { s with roster := (createStudent b env.1 student s.roster).2 }) := rfl
    rw [hexec]
    obtain ⟨created, r', hcreate, hstudents⟩ | ⟨e, hcreate⟩ := createStudent_students b env.1 student s.roster
    · rw [hcreate]
      exact .inl ⟨created, { s with roster := r' }, rfl, hstudents⟩
    · rw [hcreate]
      exact .inr ⟨e, rfl⟩

end Exec

/-! ## The turns of the loops -/

/-- The counters and credentials that a route returns. -/
structure Ledger where
  created : ℕ
  skipped : ℕ
  credentials : List ImportCredential

def ImportJob.ledger (job : ImportJob) : Ledger := ⟨job.created, job.skipped, job.credentials⟩

def BulkState.ledger (state : BulkState) : Ledger :=
  ⟨state.result.created, state.result.skipped, state.result.credentials⟩

/-- What one turn does: it skips the row and leaves the students alone, or it creates one
student under a free username and returns its credential. -/
inductive Accounted (tenantID : String) (l l' : Ledger) (s s' : AccountStore) : Prop
  | skipped (ledger : l' = ⟨l.created, l.skipped + 1, l.credentials⟩) (students : s'.students = s.students)
  | created (credential : ImportCredential) (student : Student) (free : s.UsernameFree tenantID credential.username)
    (ledger : l' = ⟨l.created + 1, l.skipped, l.credentials ++ [credential]⟩) (tenant : student.tenantID = tenantID)
    (username : student.username = credential.username) (students : s'.students = s.students ++ [student])

/-- After so many rows: every row is accounted for. -/
structure Balanced (tenantID : String) (s₀ : AccountStore) (rows : ℕ) (l : Ledger) (s : AccountStore) : Prop where
  total : l.created + l.skipped = rows
  credited : l.credentials.length = l.created
  distinct : (l.credentials.map ImportCredential.username).Nodup
  free : ∀ credential ∈ l.credentials, s₀.UsernameFree tenantID credential.username
  gained : ∃ students, s.students = s₀.students ++ students ∧ (∀ student ∈ students, student.tenantID = tenantID) ∧
    students.map Student.username = l.credentials.map ImportCredential.username

lemma Balanced.start (tenantID : String) (s : AccountStore) : Balanced tenantID s 0 ⟨0, 0, []⟩ s where
  total := rfl
  credited := rfl
  distinct := List.nodup_nil
  free _ h := absurd h List.not_mem_nil
  gained := ⟨[], (List.append_nil _).symm, by simp, rfl⟩

/-- A turn keeps the balance. -/
lemma Balanced.step {tenantID : String} {s₀ s s' : AccountStore} {rows : ℕ} {l l' : Ledger}
    (h : Balanced tenantID s₀ rows l s) (hturn : Accounted tenantID l l' s s') : Balanced tenantID s₀ (rows + 1) l' s' := by
  obtain ⟨students, hgained, htenants, husernames⟩ := h.gained
  cases hturn with
  | skipped hledger hstudents =>
    subst hledger
    exact ⟨by rw [← h.total, Nat.add_assoc], h.credited, h.distinct, h.free,
      students, hstudents.trans hgained, htenants, husernames⟩
  | created credential student hfree hledger htenant husername hstudents =>
    subst hledger
    have hfree₀ : s₀.UsernameFree tenantID credential.username := by
      intro student hstudent
      exact hfree student (hgained ▸ List.mem_append_left _ hstudent)
    have hnew : credential.username ∉ l.credentials.map ImportCredential.username := by
      rw [← husernames]
      intro hmem
      obtain ⟨student, hstudent, heq⟩ := List.mem_map.mp hmem
      exact hfree student (hgained ▸ List.mem_append_right _ hstudent) (htenants student hstudent) heq
    refine ⟨?_, ?_, ?_, ?_, students ++ [student], ?_, ?_, ?_⟩
    · have := h.total
      dsimp only
      omega
    · rw [List.length_append, h.credited]
      rfl
    · rw [List.map_append, List.map_singleton]
      exact List.nodup_append.mpr ⟨h.distinct, List.nodup_singleton _, fun a ha b hb hab =>
        hnew (List.mem_singleton.mp hb ▸ hab ▸ ha)⟩
    · intro c hc
      obtain hc | hc := List.mem_append.mp hc
      · exact h.free c hc
      · rw [List.mem_singleton.mp hc]
        exact hfree₀
    · rw [hstudents, hgained, List.append_assoc]
    · intro st hst
      obtain hst | hst := List.mem_append.mp hst
      · exact htenants st hst
      · rw [List.mem_singleton.mp hst]
        exact htenant
    · rw [List.map_append, List.map_append, husernames, List.map_singleton, List.map_singleton, husername]

/-- What a call returns accounts for its rows. -/
structure AccountsFor (tenantID : String) (rows created skipped : ℕ) (credentials : List ImportCredential)
    (s s' : AccountStore) : Prop where
  total : created + skipped = rows
  credited : credentials.length = created
  distinct : (credentials.map ImportCredential.username).Nodup
  free : ∀ credential ∈ credentials, s.UsernameFree tenantID credential.username
  gained : ∃ students, s'.students = s.students ++ students ∧ students.length = created ∧
    students.map Student.username = credentials.map ImportCredential.username

lemma Balanced.accountsFor {tenantID : String} {s₀ s : AccountStore} {rows : ℕ} {l : Ledger}
    (h : Balanced tenantID s₀ rows l s) : AccountsFor tenantID rows l.created l.skipped l.credentials s₀ s := by
  obtain ⟨students, hgained, -, husernames⟩ := h.gained
  have hlength : students.length = l.created := by
    rw [← h.credited, ← List.length_map Student.username, husernames, List.length_map]
  exact ⟨h.total, h.credited, h.distinct, h.free, students, hgained, hlength, husernames⟩

/-- Only the students count. -/
lemma AccountsFor.congr {tenantID : String} {rows created skipped : ℕ} {credentials : List ImportCredential}
    {s s₁ s₂ : AccountStore} (h : AccountsFor tenantID rows created skipped credentials s s₁)
    (hstudents : s₂.students = s₁.students) : AccountsFor tenantID rows created skipped credentials s s₂ :=
  ⟨h.total, h.credited, h.distinct, h.free, hstudents ▸ h.gained⟩

/-! ## The calls -/

section Calls

variable [Library] [AccountLibrary] {b : Backend}

/-- Reading leaves the store as it is. -/
lemma ensures_reads {α : Type} {call : AccountCall α} (hcall : call.run.AllRequests (fun q => q.reads))
    (s : AccountStore) : Ensures (AccountStore.refusing b) (fun _ s' => s' = s) call.run s :=
  Ensures.of_allRequests (I := fun s' => s' = s) (fun _ _ _ hq hs => (refusing_of_reads hq).trans hs) hcall rfl

lemma ensures_reads_bind {α β : Type} {post : Except LmsError β → AccountStore → Prop} {call : AccountCall α}
    {f : α → AccountCall β} {s : AccountStore} (hcall : call.run.AllRequests (fun q => q.reads))
    (herror : ∀ e, post (.error e) s) (hok : ∀ a, Ensures (AccountStore.refusing b) post (f a).run s) :
    Ensures (AccountStore.refusing b) post (call >>= f).run s := by
  refine Ensures.run_bind ((ensures_reads hcall s).mono ?_)
  rintro r s' rfl
  cases r with
  | error e => exact herror e
  | ok a => exact hok a

lemma ensures_reads_caught_bind {α β : Type} {post : Except LmsError β → AccountStore → Prop} {call : AccountCall α}
    {f : Except LmsError α → AccountCall β} {s : AccountStore} (hcall : call.run.AllRequests (fun q => q.reads))
    (h : ∀ r, Ensures (AccountStore.refusing b) post (f r).run s) :
    Ensures (AccountStore.refusing b) post (caught call >>= f).run s := by
  refine ensures_caught_bind ((ensures_reads hcall s).mono ?_)
  rintro r s' rfl
  exact h r

/-- A part of the call that creates no student leaves the students as they are. -/
lemma ensures_quiet_caught_bind {α β : Type} {post : Except LmsError β → AccountStore → Prop} {call : AccountCall α}
    {f : Except LmsError α → AccountCall β} {s : AccountStore}
    (hcall : call.run.AllRequests (fun q => ∀ student, q ≠ .createStudent student))
    (h : ∀ r (s' : AccountStore), s'.students = s.students → Ensures (AccountStore.refusing b) post (f r).run s') :
    Ensures (AccountStore.refusing b) post (caught call >>= f).run s := by
  refine ensures_caught_bind (Ensures.mono h ?_)
  exact Ensures.of_allRequests (I := fun s' : AccountStore => s'.students = s.students)
    (fun _ _ _ hq hs => (congrArg (fun r : Roster => r.students.docs) (roster_refusing hq)).trans hs) hcall rfl

omit [Library] [AccountLibrary] in
lemma resolveImportClass_reads (tenantID : String) (centerID : ObjectID) (classID className : String) :
    (Service.resolveImportClass tenantID centerID classID className).run.AllRequests (fun q => q.reads) := by
  unfold Service.resolveImportClass
  split
  · apply AllRequests.run_bind
    · exact ⟨rfl, fun _ => trivial⟩
    · intro found
      cases found with
      | none => trivial
      | some class' =>
        dsimp only
        split <;> trivial
  · split
    · trivial
    · apply AllRequests.run_bind
      · exact ⟨rfl, fun _ => trivial⟩
      · intro found
        cases found <;> trivial

lemma tryUsernames_free (tenantID base : String) (left i : ℕ) (username : String) (duplicate : Bool) (s : AccountStore) :
    Ensures (AccountStore.refusing b) (fun r s' => s' = s ∧ ∀ found, r = .ok found → s.UsernameFree tenantID found.1)
      (Service.tryUsernames tenantID base left i username duplicate).run s := by
  induction left generalizing i username duplicate with
  | zero => exact ⟨rfl, fun _ h => nomatch h⟩
  | succ left ih =>
    apply Ensures.lift_bind
    · exact fun _ _ => ⟨rfl, fun _ h => nomatch h⟩
    intro _ _
    refine ensures_account_bind ?_ ?_
    · exact fun _ _ _ => ⟨refusing_of_reads rfl, fun _ h => nomatch h⟩
    intro env taken htaken
    rw [refusing_of_reads rfl]
    cases taken with
    | true => exact ih _ _ _
    | false =>
      refine ⟨rfl, fun found hfound => ?_⟩
      cases hfound
      exact usernameFree_of_refusing htaken

omit [Library] [AccountLibrary] in
lemma secureTempPassword_reads : Service.secureTempPassword.run.AllRequests (fun q => q.reads) := by
  unfold Service.secureTempPassword
  apply AllRequests.run_tryCatch
  · exact ⟨rfl, fun r => by cases r <;> trivial⟩
  · exact fun _ => trivial

omit [Library] [AccountLibrary] in
lemma rowPassword_reads (password : String) : (Service.rowPassword password).run.AllRequests (fun q => q.reads) := by
  unfold Service.rowPassword
  split
  · exact secureTempPassword_reads
  · trivial

lemma createStudentAuthUser_quiet (tenantID fullName username password phone : String) (birthday : Option Time) :
    (Service.createStudentAuthUser tenantID fullName username password phone birthday).run.AllRequests
      (fun q => ∀ student, q ≠ .createStudent student) := by
  unfold Service.createStudentAuthUser
  apply AllRequests.run_bind
  · exact ⟨fun _ => nofun, fun _ => trivial⟩
  · exact fun _ => ⟨fun _ => nofun, fun _ => trivial⟩

omit [Library] [AccountLibrary] in
/-- Taking back a user after the student could not be created. -/
lemma deleteUser_quiet (userID : ObjectID) :
    (account (.deleteUserByID userID)).run.AllRequests (fun q => ∀ student, q ≠ .createStudent student) :=
  ⟨fun _ => nofun, fun _ => trivial⟩

lemma provisionRow_turn {tenantID : String} (job : ImportJob) (rowID : String) (merged : ParsedStudentRow)
    (class' : Class) (profile : NormalizedStudentProfile) {username : String} {s : AccountStore}
    (hfree : s.UsernameFree tenantID username) :
    Ensures (AccountStore.refusing b) (OnSuccess fun job' s' => Accounted tenantID job.ledger job'.ledger s s')
      (Service.provisionRow tenantID job rowID merged class' profile username).run s := by
  unfold Service.provisionRow
  refine ensures_reads_bind secureTempPassword_reads (fun _ => trivial) fun password => ?_
  refine ensures_quiet_caught_bind (createStudentAuthUser_quiet tenantID profile.fullName username password profile.phone
    merged.birthday) fun r s₁ hs₁ => ?_
  cases r with
  | error err =>
    dsimp only
    split
    · exact .skipped rfl hs₁
    · trivial
  | ok userID =>
    refine ensures_caught_bind ?_
    intro env
    obtain ⟨created, s₂, hcreate, hs₂⟩ | ⟨err, hcreate⟩ := refusing_createStudent b env
      (Service.newStudent tenantID class' profile username userID.hex merged.birthday merged.enrollmentDate "active") s₁
    · rw [hcreate]
      rw [hs₁] at hs₂
      exact .created ⟨rowID, merged.rowNumber, created.id.hex, username, password⟩ _ hfree rfl rfl rfl hs₂
    · rw [hcreate]
      exact ensures_quiet_caught_bind (deleteUser_quiet userID) fun _ s₂ hs₂ => .skipped rfl (hs₂.trans hs₁)

lemma provisionBulkRow_turn (tenantID : String) (state : BulkState) (rowID : String) (row : BulkCreateStudentAccountRow)
    (ready : ReadyRow) (s : AccountStore) :
    Ensures (AccountStore.refusing b) (OnSuccess fun state' s' => Accounted tenantID state.ledger state'.ledger s s')
      (Service.provisionBulkRow tenantID state rowID row ready).run s := by
  unfold Service.provisionBulkRow
  refine ensures_account_bind ?_ ?_
  · exact fun _ _ _ => trivial
  intro env taken htaken
  rw [refusing_of_reads rfl]
  cases taken with
  | true => exact .skipped rfl rfl
  | false =>
    have hfree := usernameFree_of_refusing htaken
    refine ensures_quiet_caught_bind (createStudentAuthUser_quiet tenantID ready.profile.fullName ready.username
      ready.password ready.profile.phone row.birthday) fun r s₁ hs₁ => ?_
    cases r with
    | error err =>
      dsimp only
      split
      · exact .skipped rfl hs₁
      · trivial
    | ok userID =>
      refine ensures_caught_bind ?_
      intro env
      obtain ⟨created, s₂, hcreate, hs₂⟩ | ⟨err, hcreate⟩ := refusing_createStudent b env
        (Service.newStudent tenantID ready.class' ready.profile ready.username userID.hex row.birthday
          row.enrollmentDate "active") s₁
      · rw [hcreate]
        rw [hs₁] at hs₂
        exact .created ⟨rowID, row.rowNumber, created.id.hex, ready.username, ready.password⟩ _ hfree rfl rfl rfl hs₂
      · rw [hcreate]
        exact ensures_quiet_caught_bind (deleteUser_quiet userID) fun _ s₂ hs₂ => .skipped rfl (hs₂.trans hs₁)

attribute [local irreducible] Service.tryUsernames

variable [Go.Unicode]

lemma uniqueStudentUsername_free (tenantID fullName className : String) (s : AccountStore) :
    Ensures (AccountStore.refusing b) (fun r s' => s' = s ∧ ∀ found, r = .ok found → s.UsernameFree tenantID found.1)
      (Service.uniqueStudentUsername tenantID fullName className).run s := by
  unfold Service.uniqueStudentUsername
  exact tryUsernames_free tenantID _ 100 0 _ false s

lemma prepareRow_free (tenantID : String) (centerID : ObjectID) (classID : String) (included : Bool)
    (merged : ParsedStudentRow) (s : AccountStore) :
    Ensures (AccountStore.refusing b) (fun r s' => s' = s ∧ ∀ class' profile username duplicate,
      r = .ok (.ready class' profile username duplicate) → s.UsernameFree tenantID username)
      (Service.prepareRow tenantID centerID classID included merged).run s := by
  unfold Service.prepareRow
  split
  · exact ⟨rfl, fun _ _ _ _ h => nomatch h⟩
  split
  · exact ⟨rfl, fun _ _ _ _ h => nomatch h⟩
  refine ensures_reads_caught_bind (resolveImportClass_reads tenantID centerID classID merged.className) fun r => ?_
  cases r with
  | error err => exact ⟨rfl, fun _ _ _ _ h => nomatch h⟩
  | ok class' =>
    dsimp only
    cases Service.parsedProfile merged with
    | error err => exact ⟨rfl, fun _ _ _ _ h => nomatch h⟩
    | ok profile =>
      refine Ensures.run_bind ?_
      refine (uniqueStudentUsername_free tenantID _ _ s).mono ?_
      rintro r s' ⟨rfl, hfree⟩
      cases r with
      | error err => exact ⟨rfl, fun _ _ _ _ h => nomatch h⟩
      | ok found =>
        refine ⟨rfl, fun _ _ _ _ h => ?_⟩
        cases h
        exact hfree found rfl

lemma commitRow_turn (tenantID : String) (centerID : ObjectID) (classID : String) (parsed : List ParsedStudentRow)
    (job : ImportJob) (row : GoogleSheetCommitRow) (s : AccountStore) :
    Ensures (AccountStore.refusing b) (OnSuccess fun job' s' => Accounted tenantID job.ledger job'.ledger s s')
      (Service.commitRow tenantID centerID classID parsed job row).run s := by
  unfold Service.commitRow
  refine Ensures.run_bind ?_
  refine (prepareRow_free tenantID centerID classID _ _ s).mono ?_
  rintro r s' ⟨rfl, hfree⟩
  cases r with
  | error err => trivial
  | ok prepared =>
    cases prepared with
    | skipped err => exact .skipped rfl rfl
    | ready class' profile username duplicate =>
      exact provisionRow_turn (job.countDuplicate duplicate) _ _ _ _ (hfree class' profile username duplicate rfl)

lemma bulkAccountRow_turn (tenantID : String) (centerID : ObjectID) (classID : String) (state : BulkState) (rowID : String)
    (row : BulkCreateStudentAccountRow) (profile : NormalizedStudentProfile) (username password : String)
    (s : AccountStore) :
    Ensures (AccountStore.refusing b) (OnSuccess fun state' s' => Accounted tenantID state.ledger state'.ledger s s')
      (Service.bulkAccountRow tenantID centerID classID state rowID row profile username password).run s := by
  unfold Service.bulkAccountRow
  cases state.usernamesInRequest.lookup username with
  | some previousRowID => exact .skipped rfl rfl
  | none =>
    dsimp only
    generalize firstNonEmpty [row.classID, classID] = classID
    have hreads := resolveImportClass_reads tenantID centerID classID row.className
    cases validateStudentPassword password username profile.fullName with
    | error err => exact .skipped rfl rfl
    | ok _ =>
      refine ensures_reads_caught_bind hreads fun r => ?_
      cases r with
      | error err => exact .skipped rfl rfl
      | ok class' =>
        exact provisionBulkRow_turn tenantID
          { state with usernamesInRequest := (username, rowID) :: state.usernamesInRequest } rowID row
          ⟨class', profile, username, password⟩ s

lemma bulkRow_turn (tenantID : String) (centerID : ObjectID) (classID : String) (state : BulkState)
    (row : BulkCreateStudentAccountRow) (s : AccountStore) :
    Ensures (AccountStore.refusing b) (OnSuccess fun state' s' => Accounted tenantID state.ledger state'.ledger s s')
      (Service.bulkRow tenantID centerID classID state row).run s := by
  unfold Service.bulkRow
  have hreads := rowPassword_reads row.password
  generalize Service.rowPassword row.password = passwordCall at hreads
  generalize normalizeStudentUsername row.username = username
  generalize firstNonEmpty [row.rowID, "row-" ++ toString row.rowNumber] = rowID
  dsimp only
  split
  · exact .skipped rfl rfl
  refine ensures_reads_bind hreads (fun _ => trivial) fun password => ?_
  cases Service.bulkProfile row with
  | error err => exact .skipped rfl rfl
  | ok profile =>
    dsimp only
    split
    · exact .skipped rfl rfl
    · cases validateStudentUsername username with
      | error err => exact .skipped rfl rfl
      | ok _ => exact bulkAccountRow_turn tenantID centerID classID state rowID row profile username password s

omit [Go.Unicode] [AccountLibrary] in
lemma accountCenterAccess_reads (tenantID : String) (actor : Actor) (centerID : String) :
    (Service.accountCenterAccess tenantID actor centerID).run.AllRequests (fun q => q.reads) := by
  unfold Service.accountCenterAccess
  split
  · trivial
  refine AllRequests.bind ?_ fun _ => trivial
  unfold canAccessCenter
  apply AllRequests.ite
  · trivial
  refine AllRequests.send_bind rfl ?_
  rintro (e | _ | center)
  · trivial
  · trivial
  · dsimp only
    generalize (decide (centerType center = "school") && !center.parentID.isZero) = isSchool
    apply AllRequests.ite
    · trivial
    apply AllRequests.ite
    · refine AllRequests.send_bind rfl ?_
      rintro (e | _ | parent) <;> trivial
    · trivial

omit [Library] [AccountLibrary] [Go.Unicode] in
lemma account_reads {q : AccountRequest} (hq : q.reads) : (account q).run.AllRequests (fun q => q.reads) :=
  ⟨hq, fun _ => trivial⟩

omit [Go.Unicode] [AccountLibrary] in
lemma importTarget_reads (tenantID : String) (actor : Actor) (req : GoogleSheetCommitRequest) :
    (Service.importTarget tenantID actor req).run.AllRequests (fun q => q.reads) := by
  unfold Service.importTarget
  refine AllRequests.run_bind (account_reads rfl) fun _ => AllRequests.lift_bind fun _ _ => ?_
  refine AllRequests.run_bind (account_reads rfl) fun _ => AllRequests.lift_bind fun _ _ => ?_
  refine AllRequests.run_bind (accountCenterAccess_reads tenantID actor req.centerID) fun _ => ?_
  exact AllRequests.lift_bind fun _ _ => trivial

omit [Go.Unicode] [AccountLibrary] in
lemma showStudent_reads (tenantID : String) (student : Student) :
    (Service.showStudent tenantID student).run.AllRequests (fun q => q.reads) := by
  unfold Service.showStudent
  rw [run_caught_bind]
  refine AllRequests.bind (account_reads rfl) fun _ => ?_
  rw [run_caught_bind]
  exact AllRequests.bind (account_reads rfl) fun _ => trivial

omit [Go.Unicode] in
/-- A loop whose turns account for their rows. -/
lemma balanced_rows {α β : Type} {tenantID : String} {ledger : β → Ledger} {turn : β → α → AccountCall β}
    (hturn : ∀ state row s, Ensures (AccountStore.refusing b)
      (OnSuccess fun state' s' => Accounted tenantID (ledger state) (ledger state') s s') (turn state row).run s)
    (rows : List α) (state : β) (hstart : ledger state = ⟨0, 0, []⟩) (s : AccountStore) :
    Ensures (AccountStore.refusing b) (OnSuccess fun state' s' => Balanced tenantID s rows.length (ledger state') s')
      (rows.foldlM turn state).run s := by
  have hstep : ∀ n state row s', Balanced tenantID s n (ledger state) s' →
      Ensures (AccountStore.refusing b) (OnSuccess fun state' s'' => Balanced tenantID s (n + 1) (ledger state') s'')
        (turn state row).run s' := by
    intro n state row s' hbalanced
    refine (hturn state row s').mono ?_
    rintro (e | state') s'' hr
    · trivial
    · exact hbalanced.step hr
  have hbalanced : Balanced tenantID s 0 (ledger state) s := by
    rw [hstart]
    exact Balanced.start tenantID s
  have hloop := Ensures.run_foldlM hstep (l := rows) hbalanced
  rwa [Nat.zero_add] at hloop

lemma commitGoogleSheetImport_accounts (provisioning : Bool) (tenantID : String) (actor : Actor)
    (req : GoogleSheetCommitRequest) (s : AccountStore) :
    Ensures (AccountStore.refusing b) (OnSuccess fun resp s' =>
        AccountsFor tenantID req.rows.length resp.created resp.skipped resp.credentials s s')
      (Service.commitGoogleSheetImport provisioning tenantID actor req).run s := by
  unfold Service.commitGoogleSheetImport
  refine Ensures.lift_bind (fun _ _ => trivial) fun _ _ => ?_
  refine ensures_reads_bind (importTarget_reads tenantID actor req) (fun _ => trivial) fun target => ?_
  refine Ensures.run_bind ?_
  have hloop := balanced_rows (b := b) (commitRow_turn tenantID target.2.id req.classID target.1.rows) req.rows
    (Service.newImportJob tenantID actor target.1) rfl s
  refine hloop.mono ?_
  rintro (e | job) s₁ hjob
  · trivial
  refine ensures_account_bind (fun _ _ _ => trivial) fun env jobID _ => ?_
  have hstudents : (AccountStore.refusing b env (.createImportJob job) s₁).2.students = s₁.students :=
    congrArg (fun r : Roster => r.students.docs) (roster_refusing fun _ => nofun)
  exact hjob.accountsFor.congr hstudents

lemma bulkCreateStudentAccounts_accounts (provisioning : Bool) (tenantID : String) (actor : Actor)
    (req : BulkCreateStudentAccountsRequest) (s : AccountStore) :
    Ensures (AccountStore.refusing b) (OnSuccess fun resp s' =>
        AccountsFor tenantID req.rows.length resp.created resp.skipped resp.credentials s s')
      (Service.bulkCreateStudentAccounts provisioning tenantID actor req).run s := by
  unfold Service.bulkCreateStudentAccounts
  refine Ensures.lift_bind (fun _ _ => trivial) fun _ _ => ?_
  refine Ensures.lift_bind (fun _ _ => trivial) fun _ _ => ?_
  refine ensures_reads_bind (account_reads rfl) (fun _ => trivial) fun found => ?_
  refine Ensures.lift_bind (fun _ _ => trivial) fun center _ => ?_
  refine ensures_reads_bind (accountCenterAccess_reads tenantID actor req.centerID) (fun _ => trivial) fun allowed => ?_
  refine Ensures.lift_bind (fun _ _ => trivial) fun _ _ => ?_
  refine Ensures.run_bind ?_
  have hloop := balanced_rows (b := b) (bulkRow_turn tenantID center.id req.classID) req.rows {} rfl s
  refine hloop.mono ?_
  rintro (e | state) s₁ hstate
  · trivial
  exact ensures_reads_bind (AllRequests.run_mapM (showStudent_reads tenantID)) (fun _ => trivial) fun students =>
    hstate.accountsFor

/-- A successful import or bulk request, whatever the store refuses, has accounted for each of
its rows. -/
theorem accountsFor_rows (b : Backend) (provisioning : Bool) (tenantID : String) (actor : Actor) (s s' : AccountStore) :
    (∀ (req : GoogleSheetCommitRequest) (resp : GoogleSheetCommitResponse),
      Evaluates (AccountStore.refusing b) (Service.commitGoogleSheetImport provisioning tenantID actor req).run s
        (.ok resp) s' →
      AccountsFor tenantID req.rows.length resp.created resp.skipped resp.credentials s s') ∧
    (∀ (req : BulkCreateStudentAccountsRequest) (resp : BulkCreateStudentAccountsResponse),
      Evaluates (AccountStore.refusing b) (Service.bulkCreateStudentAccounts provisioning tenantID actor req).run s
        (.ok resp) s' →
      AccountsFor tenantID req.rows.length resp.created resp.skipped resp.credentials s s') := by
  refine ⟨fun req resp hrun => ?_, fun req resp hrun => ?_⟩
  · exact (commitGoogleSheetImport_accounts provisioning tenantID actor req s).sound hrun
  · exact (bulkCreateStudentAccounts_accounts provisioning tenantID actor req s).sound hrun

end Calls

section Sample

attribute [local instance] asciiLibrary asciiUnicode

namespace Sample

@[reducible] def accountLibrary : AccountLibrary := ⟨fun password salt => password ++ salt, fun _ => ""⟩

attribute [local instance] accountLibrary

/-- One center with one class, and the preview of a sheet whose second row has no name. -/
def enrolment : AccountStore where
  roster :=
    { centers := ⟨[{ id := id 1, tenantID := "t" }], by decide⟩
      classes := ⟨[{ id := id 2, tenantID := "t", centerID := id 1, name := "5A" }], by decide⟩
      students := .empty
      currentScopes := [] }
  previews := ⟨[{ id := id 3, tenantID := "t", rows := [{ rowID := "a", fullName := "An Ngo" }, { rowID := "b" }] }],
    by decide⟩
  importJobs := .empty
  db := .empty

def registrar : Actor := ⟨"registrar", ["admin"]⟩

def sheetImport : GoogleSheetCommitRequest :=
  ⟨(id 3).hex, (id 1).hex, (id 2).hex, [{ rowID := "a", included := true }, { rowID := "b", included := true }]⟩

/-- Two rows that ask for one username. -/
def accountList : BulkCreateStudentAccountsRequest :=
  ⟨(id 1).hex, (id 2).hex, [{ fullName := "An Ngo", username := "an.ngo" }, { fullName := "An Ngo", username := "an.ngo" }]⟩

/-- A registration that draws this id. -/
def drawing (id : ObjectID) : AccountEnv := { id := id }

def imported : Except LmsError GoogleSheetCommitResponse × AccountStore :=
  (Service.commitGoogleSheetImport true "t" registrar sheetImport).run.alone (AccountStore.refusing .mongo)
    (drawing (id 4), false) enrolment

def listed : Except LmsError BulkCreateStudentAccountsResponse × AccountStore :=
  (Service.bulkCreateStudentAccounts true "t" registrar accountList).run.alone (AccountStore.refusing .mongo)
    (drawing (id 4), false) enrolment

end Sample

attribute [local instance] Sample.accountLibrary

theorem accountsFor_rows_sample :
    AccountsFor "t" 2 1 1 [⟨"a", 0, ObjectID.nil.hex, "an.ngo.5a", "ERG000000"⟩] Sample.enrolment Sample.imported.2 ∧
    AccountsFor "t" 2 1 1 [⟨"row-0", 0, ObjectID.nil.hex, "an.ngo", "ERG000000"⟩] Sample.enrolment Sample.listed.2 := by
  have hrows := accountsFor_rows .mongo true "t" Sample.registrar Sample.enrolment
  constructor
  · have hresp : Sample.imported.1.toOption.map (fun resp => (resp.created, resp.skipped, resp.credentials)) =
        some (1, 1, [⟨"a", 0, ObjectID.nil.hex, "an.ngo.5a", "ERG000000"⟩]) := by decide
    have himported := (hrows Sample.imported.2).1 Sample.sheetImport
    have hrun := evaluates_alone (AccountStore.refusing .mongo) (Sample.drawing (Sample.id 4), false)
      (Service.commitGoogleSheetImport true "t" Sample.registrar Sample.sheetImport).run Sample.enrolment
    change Evaluates _ _ _ Sample.imported.1 Sample.imported.2 at hrun
    generalize Sample.imported.1 = reply at hresp hrun
    obtain e | resp := reply
    · cases hresp
    · have hfields := Option.some.inj hresp
      simp only [Prod.mk.injEq] at hfields
      have haccounts := himported resp hrun
      rwa [hfields.1, hfields.2.1, hfields.2.2] at haccounts
  · have hresp : Sample.listed.1.toOption.map (fun resp => (resp.created, resp.skipped, resp.credentials)) =
        some (1, 1, [⟨"row-0", 0, ObjectID.nil.hex, "an.ngo", "ERG000000"⟩]) := by decide
    have hlisted := (hrows Sample.listed.2).2 Sample.accountList
    have hrun := evaluates_alone (AccountStore.refusing .mongo) (Sample.drawing (Sample.id 4), false)
      (Service.bulkCreateStudentAccounts true "t" Sample.registrar Sample.accountList).run Sample.enrolment
    change Evaluates _ _ _ Sample.listed.1 Sample.listed.2 at hrun
    generalize Sample.listed.1 = reply at hresp hrun
    obtain e | resp := reply
    · cases hresp
    · have hfields := Option.some.inj hresp
      simp only [Prod.mk.injEq] at hfields
      have haccounts := hlisted resp hrun
      rwa [hfields.1, hfields.2.1, hfields.2.2] at haccounts

end Sample

end ErgGo.Lms
