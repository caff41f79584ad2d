import ErgGo.Lib.Recording
import ErgGo.Lms.AccountRuns

/-!
# Imports that fail

An import that returns an error reports none of the accounts it has opened. When any call may
fail, an account stays behind exactly if some row of the sheet can get one: the class lookups
of the rows before it fail, and then its user is created but the reply is lost.
-/

namespace ErgGo.Lms
open Go Documents Concurrent Program

/-- A store that may still fail so often. -/
def AccountStore.failing [Library] [AccountLibrary] (b : Backend) (env : AccountEnv × Fault) (q : AccountRequest)
    (w : AccountStore × ℕ) : AccountReply q × (AccountStore × ℕ) :=
  let fault := if w.2 = 0 then .none else env.2
  let out := withFaults .storeFailure (AccountStore.exec b) (env.1, fault) q w.1
  (out.1, out.2, if fault = .none then w.2 else w.2 - 1)

/-- Every student and every user was there before. -/
structure AccountStore.KeepsAccounts (s s' : AccountStore) : Prop where
  students : ∀ student ∈ s'.students, student ∈ s.students
  users : ∀ user ∈ s'.db.users.rows, user ∈ s.db.users.rows

lemma AccountStore.KeepsAccounts.refl (s : AccountStore) : s.KeepsAccounts s := ⟨fun _ h => h, fun _ h => h⟩

section Failing

variable [Library] [AccountLibrary] {b : Backend} {s : AccountStore} {n : ℕ}

/-- A request that only reads is answered from the store, or fails. -/
lemma failing_of_reads {q : AccountRequest} (hq : q.reads) (env : AccountEnv × Fault) (w : AccountStore × ℕ) :
    (AccountStore.failing b env q w).2.1 = w.1 ∧ ((AccountStore.failing b env q w).1 = .error .storeFailure ∨
      (AccountStore.failing b env q w).1 = (AccountStore.exec b env.1 q w.1).1) := by
  have hkept : (AccountStore.exec b env.1 q w.1).2 = w.1 := by
    cases q with
    | createStudent => cases hq
    | createImportJob => cases hq
    | createUser => cases hq
    | deleteUserByID => cases hq
    | _ => rfl
  unfold AccountStore.failing
  generalize (if w.2 = 0 then Fault.none else env.2) = fault
  cases fault with
  | none => exact ⟨hkept, .inr rfl⟩
  | lost => exact ⟨rfl, .inl rfl⟩
  | unacknowledged => exact ⟨hkept, .inl rfl⟩

/-- A request that succeeds was carried out. -/
lemma failing_ok {q : AccountRequest} {env : AccountEnv × Fault} {w : AccountStore × ℕ} {a : AccountResult q}
    (h : (AccountStore.failing b env q w).1 = .ok a) : (AccountStore.exec b env.1 q w.1).1 = .ok a := by
  change (withFaults LmsError.storeFailure (AccountStore.exec b) (env.1, if w.2 = 0 then .none else env.2) q w.1).1 =
    .ok a at h
  exact (withFaults_ok h).1

/-- The job of an import changes no account. -/
lemma failing_createImportJob (env : AccountEnv × Fault) (job : ImportJob) (w : AccountStore × ℕ) :
    (AccountStore.failing b env (.createImportJob job) w).2.1.students = w.1.students ∧
      (AccountStore.failing b env (.createImportJob job) w).2.1.db = w.1.db := by
  have hexec : (AccountStore.exec b env.1 (.createImportJob job) w.1).2.students = w.1.students ∧
      (AccountStore.exec b env.1 (.createImportJob job) w.1).2.db = w.1.db := by
    unfold AccountStore.exec
    dsimp only
    split
    · exact ⟨rfl, rfl⟩
    · split <;> exact ⟨rfl, rfl⟩
  unfold AccountStore.failing
  generalize (if w.2 = 0 then Fault.none else env.2) = fault
  cases fault with
  | none => exact hexec
  | lost => exact ⟨rfl, rfl⟩
  | unacknowledged => exact hexec

/-- A store that does not fail. -/
lemma failing_none (env : AccountEnv) (q : AccountRequest) (s : AccountStore) (n : ℕ) :
    AccountStore.failing b (env, .none) q (s, n) =
      ((AccountStore.exec b env q s).1, (AccountStore.exec b env q s).2, n) := by
  unfold AccountStore.failing
  simp [withFaults]

/-- What a call does alone, it can do although the store may fail. -/
lemma evaluates_without_failure {α : Type} (call : Program AccountRequest AccountReply α) (env : AccountEnv)
    (s : AccountStore) (n : ℕ) : Evaluates (AccountStore.failing b) call (s, n)
      (call.alone (AccountStore.exec b) env s).1 ((call.alone (AccountStore.exec b) env s).2, n) := by
  induction call generalizing s with
  | done a => exact .done a _
  | request q k ih =>
    refine .request (env, .none) ?_
    rw [failing_none]
    exact ih _ _

/-- A call that only reads returns what it returns alone, unless it fails. -/
def Agrees (b : Backend) (s : AccountStore) {α : Type} (call : AccountCall α) : Prop :=
  ∀ n, Ensures (AccountStore.failing b)
    (fun r w => w.1 = s ∧ ∀ a, r = .ok a → ∀ env, call.run.alone (AccountStore.exec b) env s = (.ok a, s)) call.run (s, n)

lemma Agrees.pure {α : Type} (a : α) : Agrees b s (pure a : AccountCall α) :=
  fun _ => ⟨rfl, fun _ h _ => congrArg (fun r => (r, s)) h⟩

lemma Agrees.lift {α : Type} (x : Except LmsError α) : Agrees b s (liftM x : AccountCall α) :=
  fun _ => ⟨rfl, fun _ h _ => congrArg (fun r => (r, s)) h⟩

lemma Agrees.throw {α : Type} (err : LmsError) : Agrees b s (throw err : AccountCall α) :=
  fun _ => ⟨rfl, fun _ h => nomatch h⟩

lemma Agrees.bind {α β : Type} {call : AccountCall α} {f : α → AccountCall β} (hcall : Agrees b s call)
    (hf : ∀ a, Agrees b s (f a)) : Agrees b s (call >>= f) := by
  intro n
  refine Ensures.run_bind ((hcall n).mono ?_)
  rintro r ⟨s', n'⟩ ⟨rfl, hr⟩
  cases r with
  | error e => exact ⟨rfl, fun _ h => nomatch h⟩
  | ok a =>
    refine (hf a n').mono ?_
    rintro r' w' ⟨hw', hr'⟩
    exact ⟨hw', fun c hc env => (alone_run_bind (hr a rfl env)).trans (hr' c hc env)⟩

/-- A lookup whose answer no environment changes. -/
lemma Agrees.account {q : AccountRequest} (hq : q.reads)
    (hsame : ∀ env env', AccountStore.exec b env q s = AccountStore.exec b env' q s) : Agrees b s (account q) := by
  intro n env
  obtain ⟨hstore, hreply⟩ := failing_of_reads (b := b) hq env (s, n)
  refine ⟨hstore, fun a ha env' => ?_⟩
  have hok := failing_ok ha
  have hkept := (failing_of_reads (b := b) hq (env.1, .none) (s, 0)).1
  rw [failing_none] at hkept
  rw [hsame env.1 env'] at hok hkept
  exact Prod.ext hok hkept

lemma resolveImportClass_agrees (tenantID : String) (centerID : ObjectID) (classID className : String) :
    Agrees b s (Service.resolveImportClass tenantID centerID classID className) := by
  unfold Service.resolveImportClass
  split
  · refine Agrees.bind (.account rfl fun _ _ => rfl) fun found => ?_
    cases found with
    | none => exact .throw _
    | some class' =>
      dsimp only
      split
      · exact .throw _
      · exact .pure _
  · split
    · exact .throw _
    · refine Agrees.bind (.account rfl fun _ _ => rfl) fun found => ?_
      cases found with
      | none => exact .throw _
      | some class' => exact .pure _

lemma tryUsernames_agrees (tenantID base : String) (left i : ℕ) (username : String) (duplicate : Bool) :
    Agrees b s (Service.tryUsernames tenantID base left i username duplicate) := by
  induction left generalizing i username duplicate with
  | zero => exact .throw _
  | succ left ih =>
    refine Agrees.bind (.lift _) fun _ => Agrees.bind (.account rfl fun _ _ => rfl) fun taken => ?_
    cases taken with
    | true => exact ih _ _ _
    | false => exact .pure _

attribute [local irreducible] Service.tryUsernames

variable [Go.Unicode]

/-- A row that is ready although the store may fail, is ready. -/
lemma prepareRow_agrees (tenantID : String) (centerID : ObjectID) (classID : String) (included : Bool)
    (merged : ParsedStudentRow) (n : ℕ) :
    Ensures (AccountStore.failing b)
      (fun r w => w.1 = s ∧ ∀ class' profile username duplicate, r = .ok (.ready class' profile username duplicate) →
        ∀ env, ((Service.prepareRow tenantID centerID classID included merged).run.alone (AccountStore.exec b) env s).1 =
          .ok (.ready class' profile username duplicate))
      (Service.prepareRow tenantID centerID classID included merged).run (s, n) := by
  unfold Service.prepareRow
  split
  · exact ⟨rfl, fun _ _ _ _ h => nomatch h⟩
  split
  · exact ⟨rfl, fun _ _ _ _ h => nomatch h⟩
  refine ensures_caught_bind ((resolveImportClass_agrees tenantID centerID classID merged.className n).mono ?_)
  rintro r ⟨s', n'⟩ ⟨rfl, hr⟩
  cases r with
  | error err => exact ⟨rfl, fun _ _ _ _ h => nomatch h⟩
  | ok class' =>
    have hclass := hr class' rfl
    have hresolved : ∀ (f : Except LmsError Class → AccountCall PreparedRow) env,
        (caught (Service.resolveImportClass tenantID centerID classID merged.className) >>= f).run.alone
          (AccountStore.exec b) env s' = (f (.ok class')).run.alone (AccountStore.exec b) env s' := by
      intro f env
      rw [run_caught_bind, alone_bind, hclass env]
    simp only [hresolved]
    cases Service.parsedProfile merged with
    | error err => exact ⟨rfl, fun _ _ _ _ h => nomatch h⟩
    | ok profile =>
      have husername := tryUsernames_agrees (b := b) (s := s') tenantID (usernameBase profile.fullName class'.name) 100 0
        (usernameBase profile.fullName class'.name) false
      have hready := husername.bind fun found => Agrees.pure (PreparedRow.ready class' profile found.1 found.2)
      refine (hready n').mono ?_
      rintro r w ⟨hw, hr⟩
      exact ⟨hw, fun _ _ _ _ h env => congrArg Prod.fst (hr _ h env)⟩

/-- A row of the sheet that gets an account from the store as it is, if no call fails. -/
def GetsAccount (b : Backend) (tenantID : String) (centerID : ObjectID) (classID : String) (parsed : List ParsedStudentRow)
    (row : GoogleSheetCommitRow) (s : AccountStore) : Prop :=
  let merged := mergeCommitRow (GoogleSheetCommitRow.rowByID parsed row.rowID) row
  ∃ env class' profile username duplicate password userID,
    ((Service.prepareRow tenantID centerID classID row.included merged).run.alone (AccountStore.exec b) env s).1 =
      .ok (.ready class' profile username duplicate) ∧
    (Service.secureTempPassword.run.alone (AccountStore.exec b) env s).1 = .ok password ∧
    ((Service.createStudentAuthUser tenantID profile.fullName username password profile.phone merged.birthday).run.alone
      (AccountStore.exec b) env s).1 = .ok userID

omit [Go.Unicode] in
lemma secureTempPassword_random (n : ℕ) :
    Ensures (AccountStore.failing b)
      (fun r w => w.1 = s ∧ ∀ password, r = .ok password → ∃ random : Fin 1000000, password = tempPassword random)
      Service.secureTempPassword.run (s, n) := by
  intro env
  have hreads := failing_of_reads (b := b) (q := .randomInt) rfl env (s, n)
  generalize AccountStore.failing b env .randomInt (s, n) = out at hreads
  obtain ⟨reply, w⟩ := out
  obtain ⟨hstore, hreply⟩ := hreads
  dsimp only at hstore hreply
  obtain rfl | rfl := hreply
  · exact ⟨hstore, fun _ h => nomatch h⟩
  · exact ⟨hstore, fun _ h => ⟨env.1.random, (Except.ok.inj h).symm⟩⟩

omit [Library] [Go.Unicode] [AccountLibrary] in
/-- A user that the table refuses leaves the database as it is. -/
lemma createUser_refused [Library] {env : AccountEnv} {user : Postgres.AuthUser} {roles : List String}
    {db : Postgres.Database} (h : ∀ userID, (createUser env user roles db).1 ≠ .ok userID) :
    (createUser env user roles db).2 = db := by
  unfold createUser at h ⊢
  generalize admittedUser _ = admitted at h ⊢
  cases admitted with
  | none => rfl
  | some user =>
    dsimp only at h ⊢
    generalize insertUser db.users user = inserted at h ⊢
    cases inserted with
    | none => rfl
    | some users => exact absurd rfl (h env.id)

omit [Go.Unicode] in
/-- Whichever calls fail, a user that no environment admits is not created. -/
lemma createStudentAuthUser_refused {tenantID fullName username password phone : String} {birthday : Option Time}
    (h : ∀ env userID, ((Service.createStudentAuthUser tenantID fullName username password phone birthday).run.alone
      (AccountStore.exec b) env s).1 ≠ .ok userID) (n : ℕ) :
    Ensures (AccountStore.failing b) (fun r w => w.1 = s ∧ ∀ userID, r ≠ .ok userID)
      (Service.createStudentAuthUser tenantID fullName username password phone birthday).run (s, n) := by
  unfold Service.createStudentAuthUser at h ⊢
  refine ensures_account_bind ?_ ?_
  · exact fun env _ _ => ⟨(failing_of_reads rfl env (s, n)).1, fun _ => nofun⟩
  intro env hash hhash
  have hstore := (failing_of_reads (b := b) (q := .hashPassword password) rfl env (s, n)).1
  obtain rfl : AccountLibrary.hashPassword password env.1.salt = hash := Except.ok.inj (failing_ok hhash)
  generalize (AccountStore.failing b env (.hashPassword password) (s, n)).2 = w at hstore
  obtain ⟨s', n'⟩ := w
  obtain rfl : s' = s := hstore
  intro env'
  have hrefused := h { now := env'.1.now, id := env'.1.id, salt := env.1.salt }
  have hkept := createUser_refused hrefused
  unfold AccountStore.failing
  generalize (if (s', n').2 = 0 then Fault.none else env'.2) = fault
  cases fault with
  | none => exact ⟨congrArg (fun db => { s' with db := db }) hkept, hrefused⟩
  | lost => exact ⟨rfl, fun _ => nofun⟩
  | unacknowledged => exact ⟨congrArg (fun db => { s' with db := db }) hkept, fun _ => nofun⟩

omit [Go.Unicode] in
lemma createStudentAuthUser_random {tenantID fullName username password phone : String} {birthday : Option Time}
    {env : AccountEnv} (random : Fin 1000000) :
    ((Service.createStudentAuthUser tenantID fullName username password phone birthday).run.alone (AccountStore.exec b)
      { env with random := random } s).1 =
    ((Service.createStudentAuthUser tenantID fullName username password phone birthday).run.alone (AccountStore.exec b)
      env s).1 :=
  rfl

/-- Whichever calls fail, a row that gets no account leaves the store as it is. -/
lemma commitRow_kept {tenantID : String} {centerID : ObjectID} {classID : String} {parsed : List ParsedStudentRow}
    {row : GoogleSheetCommitRow} (hrow : ¬GetsAccount b tenantID centerID classID parsed row s) (job : ImportJob) (n : ℕ) :
    Ensures (AccountStore.failing b) (fun _ w => w.1 = s)
      (Service.commitRow tenantID centerID classID parsed job row).run (s, n) := by
  unfold Service.commitRow
  unfold GetsAccount at hrow
  generalize mergeCommitRow (GoogleSheetCommitRow.rowByID parsed row.rowID) row = merged at hrow ⊢
  dsimp only at hrow ⊢
  refine Ensures.run_bind ((prepareRow_agrees tenantID centerID classID row.included merged n).mono ?_)
  rintro r ⟨s', n'⟩ ⟨rfl, hr⟩
  rcases r with e | err | ⟨class', profile, username, duplicate⟩
  · rfl
  · rfl
  have hready := hr class' profile username duplicate rfl
  dsimp only
  generalize job.countDuplicate duplicate = job
  unfold Service.provisionRow
  refine Ensures.run_bind ((secureTempPassword_random n').mono ?_)
  rintro r ⟨s', n'⟩ ⟨rfl, hr⟩
  cases r with
  | error e => rfl
  | ok password =>
    obtain ⟨random, rfl⟩ := hr password rfl
    have hnone : ∀ env userID, ((Service.createStudentAuthUser tenantID profile.fullName username (tempPassword random)
        profile.phone merged.birthday).run.alone (AccountStore.exec b) env s').1 ≠ .ok userID := by
      intro env userID huser
      rw [← createStudentAuthUser_random random] at huser
      exact hrow ⟨{ env with random := random }, class', profile, username, duplicate, _, userID, hready _, rfl, huser⟩
    refine ensures_caught_bind ((createStudentAuthUser_refused hnone n').mono ?_)
    rintro r ⟨s', n'⟩ ⟨rfl, hr⟩
    cases r with
    | error err =>
      dsimp only
      split <;> rfl
    | ok userID => exact absurd rfl (hr userID)

/-- Access that a call grants from the store `s`, although the store may fail. -/
def Granted (b : Backend) (s : AccountStore) (call : Program AccountRequest AccountReply Bool) : Prop :=
  ∀ n, Ensures (AccountStore.failing b)
    (fun allowed w => w.1 = s ∧ (allowed = true → ∀ env, call.alone (AccountStore.exec b) env s = (true, s))) call (s, n)

omit [Go.Unicode] in
lemma Granted.done (allowed : Bool) : Granted b s (.done allowed) :=
  fun _ => ⟨rfl, fun h _ => congrArg (fun allowed => (allowed, s)) h⟩

omit [Go.Unicode] in
/-- A failed lookup grants nothing. -/
lemma Granted.getCenter {tenantID id : String}
    {f : AccountReply (.getCenter tenantID id) → Program AccountRequest AccountReply Bool}
    (herror : ∀ e, f (.error e) = .done false) (hfound : ∀ found, Granted b s (f (.ok found))) :
    Granted b s (Program.send (AccountRequest.getCenter tenantID id) >>= f) := by
  intro n env
  obtain ⟨hstore, hreply⟩ := failing_of_reads (b := b) (q := .getCenter tenantID id) rfl env (s, n)
  generalize AccountStore.failing b env (.getCenter tenantID id) (s, n) = out at hstore hreply ⊢
  obtain ⟨reply, s', n'⟩ := out
  obtain rfl : s' = s := hstore
  change reply = .error .storeFailure ∨ reply = s'.roster.getCenter tenantID id at hreply
  have hfailed : ∀ e, Ensures (AccountStore.failing b) (fun allowed w => w.1 = s' ∧ (allowed = true → ∀ env,
      (Program.send (AccountRequest.getCenter tenantID id) >>= f).alone (AccountStore.exec b) env s' = (true, s')))
      (f (.error e)) (s', n') := by
    intro e
    rw [herror e]
    exact ⟨rfl, nofun⟩
  obtain rfl | hreply := hreply
  · exact hfailed _
  · cases reply with
    | error e => exact hfailed e
    | ok found =>
      refine (hfound found n').mono ?_
      rintro allowed w ⟨hw, hgranted⟩
      refine ⟨hw, fun hallowed env => ?_⟩
      have halone : (Program.send (AccountRequest.getCenter tenantID id) >>= f).alone (AccountStore.exec b) env s' =
          (f (s'.roster.getCenter tenantID id)).alone (AccountStore.exec b) env s' := rfl
      rw [halone, ← hreply]
      exact hgranted hallowed env

omit [Go.Unicode] in
lemma canAccessCenter_granted (tenantID : String) (actor : Actor) (centerID : String) :
    Granted b s (canAccessCenter (fun id => Program.send (AccountRequest.getCenter tenantID id)) actor centerID) := by
  unfold canAccessCenter
  split
  · exact .done true
  refine Granted.getCenter (fun _ => rfl) fun found => ?_
  cases found with
  | none => exact .done false
  | some center =>
    dsimp only
    split
    · exact .done true
    split
    · refine Granted.getCenter (fun _ => rfl) fun found => ?_
      cases found with
      | none => exact .done false
      | some parent => exact .done _
    · exact .done false

omit [Go.Unicode] in
/-- An actor whom a failing store lets in, has access. -/
lemma accountCenterAccess_granted (tenantID : String) (actor : Actor) (centerID : String) (n : ℕ) :
    Ensures (AccountStore.failing b)
      (fun r w => w.1 = s ∧ (r = .ok true → ∀ env,
        (Service.accountCenterAccess tenantID actor centerID).run.alone (AccountStore.exec b) env s = (.ok true, s)))
      (Service.accountCenterAccess tenantID actor centerID).run (s, n) := by
  unfold Service.accountCenterAccess
  split
  · exact ⟨rfl, fun _ _ => rfl⟩
  refine Ensures.bind ((canAccessCenter_granted tenantID actor centerID n).mono ?_)
  rintro allowed w ⟨hw, hgranted⟩
  refine ⟨hw, fun hallowed env => ?_⟩
  have halone := hgranted (Except.ok.inj hallowed) env
  exact (alone_bind env _ _ s).trans (by rw [halone]; rfl)

omit [Go.Unicode] in
/-- An import that passes its checks although the store may fail, passes them. -/
lemma importTarget_agrees (tenantID : String) (actor : Actor) (req : GoogleSheetCommitRequest) :
    Agrees b s (Service.importTarget tenantID actor req) := by
  refine Agrees.bind (.account rfl fun _ _ => rfl) fun _ => Agrees.bind (.lift _) fun preview => ?_
  refine Agrees.bind (.account rfl fun _ _ => rfl) fun _ => Agrees.bind (.lift _) fun center => ?_
  intro n
  refine Ensures.run_bind ((accountCenterAccess_granted tenantID actor req.centerID n).mono ?_)
  rintro r ⟨s', n'⟩ ⟨rfl, hr⟩
  rcases r with e | _ | _
  · exact ⟨rfl, fun _ h => nomatch h⟩
  · exact ⟨rfl, fun _ h => nomatch h⟩
  · exact ⟨rfl, fun _ h env => (alone_run_bind (hr rfl env)).trans (congrArg (fun r => (r, s')) h)⟩

/-- A row of the sheet that ends the import of the store as it is with an error, although no
call fails. -/
def StopsImport (b : Backend) (tenantID : String) (centerID : ObjectID) (classID : String) (parsed : List ParsedStudentRow)
    (row : GoogleSheetCommitRow) (s : AccountStore) : Prop :=
  ∃ env job err, ((Service.commitRow tenantID centerID classID parsed job row).run.alone (AccountStore.exec b) env s).1 =
    .error err

/-- The import passes its checks, and one of its rows gets an account from the store as it is. -/
def OpensAccount (b : Backend) (provisioning : Bool) (tenantID : String) (actor : Actor) (req : GoogleSheetCommitRequest)
    (s : AccountStore) : Prop :=
  provisioning = true ∧ ∃ env preview center,
    ((Service.importTarget tenantID actor req).run.alone (AccountStore.exec b) env s).1 = .ok (preview, center) ∧
    ∃ row ∈ req.rows, GetsAccount b tenantID center.id req.classID preview.rows row s

/-- The import passes its checks, and one of its rows would end it with an error. -/
def MeetsStop (b : Backend) (tenantID : String) (actor : Actor) (req : GoogleSheetCommitRequest) (s : AccountStore) : Prop :=
  ∃ env preview center,
    ((Service.importTarget tenantID actor req).run.alone (AccountStore.exec b) env s).1 = .ok (preview, center) ∧
    ∃ row ∈ req.rows, StopsImport b tenantID center.id req.classID preview.rows row s

/-- With so many calls failing, an import that returns an error has left no account behind. -/
def AllOrNothing (b : Backend) (provisioning : Bool) (tenantID : String) (actor : Actor) (req : GoogleSheetCommitRequest)
    (s : AccountStore) (failures : ℕ) : Prop :=
  ∀ err w, Evaluates (AccountStore.failing b) (Service.commitGoogleSheetImport provisioning tenantID actor req).run
    (s, failures) (.error err) w → s.KeepsAccounts w.1

/-- Whichever calls fail, an import that opens no account leaves none behind. -/
lemma keepsAccounts_of_not_opensAccount {provisioning : Bool} {tenantID : String} {actor : Actor}
    {req : GoogleSheetCommitRequest} (h : ¬OpensAccount b provisioning tenantID actor req s) (n : ℕ) :
    Ensures (AccountStore.failing b) (fun _ w => s.KeepsAccounts w.1)
      (Service.commitGoogleSheetImport provisioning tenantID actor req).run (s, n) := by
  unfold Service.commitGoogleSheetImport
  refine Ensures.lift_bind (fun _ _ => .refl s) fun _ hprovisioning => ?_
  refine Ensures.run_bind ((importTarget_agrees tenantID actor req n).mono ?_)
  rintro r ⟨s', n'⟩ ⟨rfl, hr⟩
  cases r with
  | error e => exact .refl s'
  | ok target =>
    obtain ⟨preview, center⟩ := target
    have htarget := hr (preview, center) rfl
    have hrows : ∀ row ∈ req.rows, ¬GetsAccount b tenantID center.id req.classID preview.rows row s' := by
      intro row hrow hgets
      have hpasses := congrArg Prod.fst (htarget { id := .nil })
      exact h ⟨by simpa using rejectIf_ok hprovisioning, _, preview, center, hpasses, row, hrow, hgets⟩
    refine Ensures.run_bind ?_
    have hloop := Ensures.run_foldlM_kept (I := fun w : AccountStore × ℕ => w.1 = s')
      (f := Service.commitRow tenantID center.id req.classID preview.rows) (l := req.rows)
      (b := Service.newImportJob tenantID actor preview) (s := (s', n'))
      (fun job row hrow w hw => by
        obtain ⟨s'', n''⟩ := w
        obtain rfl : s'' = s' := hw
        exact commitRow_kept (hrows row hrow) job n'') rfl
    refine hloop.mono ?_
    rintro r ⟨s'', n''⟩ hw
    obtain rfl : s'' = s' := hw
    cases r with
    | error e => exact .refl s''
    | ok job =>
      have hkept : ∀ env, s''.KeepsAccounts (AccountStore.failing b env (.createImportJob job) (s'', n'')).2.1 := by
        intro env
        have haccounts := failing_createImportJob (b := b) env job (s'', n'')
        exact ⟨fun student h => haccounts.1 ▸ h, fun user h => haccounts.2 ▸ h⟩
      exact ensures_account_bind (fun env _ _ => hkept env) fun env _ _ => hkept env

/-! ## Accounts left behind -/

omit [Go.Unicode] in
lemma evaluates_caught_bind {α β : Type} {call : AccountCall α} {f : Except LmsError α → AccountCall β}
    {w w₁ w₂ : AccountStore × ℕ} {r : Except LmsError α} {r' : Except LmsError β}
    (hcall : Evaluates (AccountStore.failing b) call.run w r w₁) (hf : Evaluates (AccountStore.failing b) (f r).run w₁ r' w₂) :
    Evaluates (AccountStore.failing b) (caught call >>= f).run w r' w₂ := by
  rw [run_caught_bind]
  exact hcall.bind hf

omit [Go.Unicode] in
/-- A request that never arrives. -/
lemma evaluates_lost (q : AccountRequest) (s : AccountStore) (n : ℕ) :
    Evaluates (AccountStore.failing b) (account q).run (s, n + 1) (.error .storeFailure) (s, n) :=
  .request ({ id := .nil }, .lost) (.done _ _)

omit [Go.Unicode] in
/-- At most one failing call keeps a class from being found. -/
lemma resolveImportClass_fails (tenantID : String) (centerID : ObjectID) (classID className : String) (n : ℕ) :
    ∃ m ≥ n, ∃ err, Evaluates (AccountStore.failing b)
      (Service.resolveImportClass tenantID centerID classID className).run (s, n + 1) (.error err) (s, m) := by
  unfold Service.resolveImportClass
  split
  · exact ⟨n, le_rfl, _, (evaluates_lost _ s n).run_bind_error _⟩
  · split
    · exact ⟨n + 1, Nat.le_succ n, _, .done _ _⟩
    · exact ⟨n, le_rfl, _, (evaluates_lost _ s n).run_bind_error _⟩

/-- At most one failing call makes the import skip a row. -/
lemma commitRow_skips (tenantID : String) (centerID : ObjectID) (classID : String) (parsed : List ParsedStudentRow)
    (job : ImportJob) (row : GoogleSheetCommitRow) (n : ℕ) :
    ∃ m ≥ n, ∃ job', Evaluates (AccountStore.failing b)
      (Service.commitRow tenantID centerID classID parsed job row).run (s, n + 1) (.ok job') (s, m) := by
  unfold Service.commitRow
  generalize mergeCommitRow (GoogleSheetCommitRow.rowByID parsed row.rowID) row = merged
  dsimp only
  have hskipped : ∃ m ≥ n, ∃ err, Evaluates (AccountStore.failing b)
      (Service.prepareRow tenantID centerID classID row.included merged).run (s, n + 1) (.ok (.skipped err)) (s, m) := by
    unfold Service.prepareRow
    split
    · exact ⟨n + 1, Nat.le_succ n, _, .done _ _⟩
    split
    · exact ⟨n + 1, Nat.le_succ n, _, .done _ _⟩
    obtain ⟨m, hm, err, hfails⟩ := resolveImportClass_fails (b := b) (s := s) tenantID centerID classID merged.className n
    exact ⟨m, hm, _, evaluates_caught_bind hfails (.done _ _)⟩
  obtain ⟨m, hm, err, hskipped⟩ := hskipped
  exact ⟨m, hm, _, hskipped.run_bind (.done _ _)⟩

omit [Library] [Go.Unicode] [AccountLibrary] in
/-- A user that the table takes is a new row. -/
lemma createUser_adds [Library] {env : AccountEnv} {user : Postgres.AuthUser} {roles : List String}
    {db : Postgres.Database} {userID : ObjectID} (h : (createUser env user roles db).1 = .ok userID) :
    ∃ added, (createUser env user roles db).2.users.rows = db.users.rows ++ [added] := by
  unfold createUser at h ⊢
  generalize admittedUser _ = admitted at h ⊢
  cases admitted with
  | none => cases h
  | some user =>
    dsimp only at h ⊢
    unfold insertUser at h ⊢
    split at h
    · cases h
    · next users husers =>
      split at husers
      · cases husers
        exact ⟨user, rfl⟩
      · cases husers

omit [Library] [Go.Unicode] [AccountLibrary] in
lemma not_keepsAccounts_of_added {s' : AccountStore} {added : Postgres.AuthUser}
    (h : s'.db.users.rows = s.db.users.rows ++ [added]) : ¬s.KeepsAccounts s' := by
  intro hkeeps
  have hids := s'.db.users.id_nodup
  rw [h, List.map_append, List.map_singleton] at hids
  have hadded := hkeeps.users added (h ▸ List.mem_append_right _ (List.mem_singleton_self added))
  exact (List.nodup_append.mp hids).2.2 _ (List.mem_map_of_mem hadded) _ (List.mem_singleton_self _) rfl

/-- The reply of `CreateUser` is lost on a row that gets an account. -/
lemma commitRow_strands {tenantID : String} {centerID : ObjectID} {classID : String} {parsed : List ParsedStudentRow}
    {row : GoogleSheetCommitRow} (hrow : GetsAccount b tenantID centerID classID parsed row s) (job : ImportJob) (n : ℕ) :
    ∃ err w, Evaluates (AccountStore.failing b) (Service.commitRow tenantID centerID classID parsed job row).run
      (s, n + 1) (.error err) w ∧ ¬s.KeepsAccounts w.1 := by
  unfold Service.commitRow
  unfold GetsAccount at hrow
  generalize mergeCommitRow (GoogleSheetCommitRow.rowByID parsed row.rowID) row = merged at hrow ⊢
  dsimp only at hrow ⊢
  obtain ⟨env, class', profile, username, duplicate, password, userID, hready, hpassword, huser⟩ := hrow
  -- Nothing has failed so far, and the store is as it was.
  have hprepared := evaluates_without_failure (b := b)
    (Service.prepareRow tenantID centerID classID row.included merged).run env s (n + 1)
  have hunchanged := ((prepareRow_agrees tenantID centerID classID row.included merged (n + 1)).sound hprepared).1
  dsimp only at hunchanged
  rw [hready, hunchanged] at hprepared
  have hdrawn := evaluates_without_failure (b := b) Service.secureTempPassword.run env s (n + 1)
  have hunchanged := ((secureTempPassword_random (n + 1)).sound hdrawn).1
  dsimp only at hunchanged
  rw [hpassword, hunchanged] at hdrawn
  unfold Service.createStudentAuthUser at huser
  obtain ⟨added, hadded⟩ := createUser_adds huser
  obtain ⟨w, hstranded, hleft⟩ : ∃ w, Evaluates (AccountStore.failing b) (Service.createStudentAuthUser tenantID
      profile.fullName username password profile.phone merged.birthday).run (s, n + 1) (.error .storeFailure) w ∧
      ¬s.KeepsAccounts w.1 :=
    ⟨_, .request (env, .none) (.request (env, .unacknowledged) (.done _ _)), not_keepsAccounts_of_added hadded⟩
  refine ⟨.storeFailure, w, hprepared.run_bind ?_, hleft⟩
  unfold Service.provisionRow
  exact hdrawn.run_bind (evaluates_caught_bind hstranded (.done _ _))

/-- The import goes past rows that each cost it so many failing calls. -/
lemma rows_pass {tenantID : String} {centerID : ObjectID} {classID : String} {parsed : List ParsedStudentRow} {cost : ℕ}
    {rows : List GoogleSheetCommitRow}
    (hpass : ∀ row ∈ rows, ∀ job n, ∃ m ≥ n, ∃ job', Evaluates (AccountStore.failing b)
      (Service.commitRow tenantID centerID classID parsed job row).run (s, n + cost) (.ok job') (s, m))
    (job : ImportJob) (n : ℕ) :
    ∃ m ≥ n, ∃ job', Evaluates (AccountStore.failing b)
      (rows.foldlM (Service.commitRow tenantID centerID classID parsed) job).run (s, n + rows.length * cost) (.ok job')
      (s, m) := by
  induction rows generalizing job n with
  | nil => exact ⟨n, le_rfl, job, by rw [List.length_nil, Nat.zero_mul]; exact .done _ _⟩
  | cons row rows ih =>
    obtain ⟨m, hm, job', hrow⟩ := hpass row List.mem_cons_self job (n + rows.length * cost)
    obtain ⟨n', rfl⟩ := Nat.exists_eq_add_of_le hm
    have hbudget : n + rows.length * cost + n' = n + n' + rows.length * cost := by omega
    have hlength : n + (row :: rows).length * cost = n + rows.length * cost + cost := by
      rw [List.length_cons, Nat.succ_mul, Nat.add_assoc]
    rw [hbudget] at hrow
    obtain ⟨m, hm, job'', hrows⟩ := ih (fun row hrow => hpass row (List.mem_cons_of_mem _ hrow)) job' (n + n')
    refine ⟨m, by omega, job'', ?_⟩
    rw [List.foldlM_cons, hlength]
    exact hrow.run_bind hrows

/-- An import that goes past the rows before one that gets an account can leave it behind. -/
lemma not_allOrNothing_of_passes {provisioning : Bool} {tenantID : String} {actor : Actor}
    {req : GoogleSheetCommitRequest} {env : AccountEnv} {preview : ImportPreview} {center : Center}
    {before after : List GoogleSheetCommitRow} {row : GoogleSheetCommitRow} (cost : ℕ) (hprovisioning : provisioning = true)
    (htarget : ((Service.importTarget tenantID actor req).run.alone (AccountStore.exec b) env s).1 = .ok (preview, center))
    (hrows : req.rows = before ++ row :: after)
    (hpass : ∀ row ∈ before, ∀ job n, ∃ m ≥ n, ∃ job', Evaluates (AccountStore.failing b)
      (Service.commitRow tenantID center.id req.classID preview.rows job row).run (s, n + cost) (.ok job') (s, m))
    (hrow : GetsAccount b tenantID center.id req.classID preview.rows row s) :
    ¬AllOrNothing b provisioning tenantID actor req s (1 + before.length * cost) := by
  intro hall
  have hchecked := evaluates_without_failure (b := b) (Service.importTarget tenantID actor req).run env s
    (1 + before.length * cost)
  have hunchanged := ((importTarget_agrees tenantID actor req (1 + before.length * cost)).sound hchecked).1
  dsimp only at hunchanged
  rw [htarget, hunchanged] at hchecked
  obtain ⟨m, hm, job, hbefore⟩ := rows_pass hpass (Service.newImportJob tenantID actor preview) 1
  obtain ⟨n, rfl⟩ := Nat.exists_eq_add_of_le' hm
  obtain ⟨err, w, hstranded, hleft⟩ := commitRow_strands hrow job n
  refine hleft (hall err w ?_)
  unfold Service.commitGoogleSheetImport
  rw [hprovisioning]
  have hloop : Evaluates (AccountStore.failing b) (req.rows.foldlM (Service.commitRow tenantID center.id req.classID
      preview.rows) (Service.newImportJob tenantID actor preview)).run (s, 1 + before.length * cost) (.error err) w := by
    rw [hrows, List.foldlM_append]
    refine hbefore.run_bind ?_
    rw [List.foldlM_cons]
    exact hstranded.run_bind_error _
  have hstart : Evaluates (AccountStore.failing b) (liftM (rejectIf (!true) .studentAccountProvisioningUnavailable) :
      AccountCall Unit).run (s, 1 + before.length * cost) (.ok ()) (s, 1 + before.length * cost) := .done _ _
  exact hstart.run_bind (hchecked.run_bind (hloop.run_bind_error _))

/-- Whichever calls fail, an import that returns an error has left no account behind, exactly if
none of its rows gets an account from the store as it is. If none of them ends the import, one
failing call is enough to leave an account behind. -/
theorem allOrNothing_iff (b : Backend) (provisioning : Bool) (tenantID : String) (actor : Actor)
    (req : GoogleSheetCommitRequest) (s : AccountStore) :
    ((∀ failures, AllOrNothing b provisioning tenantID actor req s failures) ↔
      ¬OpensAccount b provisioning tenantID actor req s) ∧
    (¬MeetsStop b tenantID actor req s →
      (AllOrNothing b provisioning tenantID actor req s 1 ↔ ¬OpensAccount b provisioning tenantID actor req s)) := by
  have hkeeps : ¬OpensAccount b provisioning tenantID actor req s →
      ∀ failures, AllOrNothing b provisioning tenantID actor req s failures :=
    fun hnone failures err w hrun => (keepsAccounts_of_not_opensAccount hnone failures).sound hrun
  refine ⟨⟨fun hall hopens => ?_, hkeeps⟩, fun hstops => ⟨fun hall hopens => ?_, fun hnone => hkeeps hnone 1⟩⟩
  · obtain ⟨hprovisioning, env, preview, center, htarget, row, hmem, hrow⟩ := hopens
    obtain ⟨before, after, hrows⟩ := List.append_of_mem hmem
    exact not_allOrNothing_of_passes 1 hprovisioning htarget hrows
      (fun row _ job n => commitRow_skips tenantID center.id req.classID preview.rows job row n) hrow (hall _)
  · obtain ⟨hprovisioning, env, preview, center, htarget, hgets⟩ := hopens
    -- The rows before the first that gets an account leave the store as it is.
    obtain ⟨before, row, after, hrows, hrow, hfirst⟩ := exists_first hgets
    refine not_allOrNothing_of_passes 0 hprovisioning htarget hrows ?_ hrow (by simpa using hall)
    intro row' hmem job n
    have hnatural := evaluates_without_failure (b := b)
      (Service.commitRow tenantID center.id req.classID preview.rows job row').run env s n
    have hunchanged := (commitRow_kept (hfirst row' hmem) job n).sound hnatural
    dsimp only at hunchanged
    rw [hunchanged] at hnatural
    cases hreply : ((Service.commitRow tenantID center.id req.classID preview.rows job row').run.alone
        (AccountStore.exec b) env s).1 with
    | error err =>
      have hmember : row' ∈ req.rows := hrows ▸ List.mem_append_left _ hmem
      exact absurd ⟨env, preview, center, htarget, row', hmember, env, job, err, hreply⟩ hstops
    | ok job' =>
      rw [hreply] at hnatural
      exact ⟨n, le_rfl, job', hnatural⟩

end Failing

section Sample

attribute [local instance] asciiLibrary asciiUnicode Sample.accountLibrary

/-- A row left out, a row without a name and a row without a class. -/
def Sample.skippedRows : GoogleSheetCommitRequest :=
  { Sample.sheetImport with
    classID := ""
    rows := [{ rowID := "a" }, { rowID := "b", included := true }, { rowID := "a", included := true }] }

lemma Sample.importTarget_skippedRows (env : AccountEnv) :
    ((Service.importTarget "t" Sample.registrar Sample.skippedRows).run.alone (AccountStore.exec .mongo) env
      Sample.enrolment).1 =
      .ok ({ id := Sample.id 3, tenantID := "t", rows := [{ rowID := "a", fullName := "An Ngo" }, { rowID := "b" }] },
        { id := Sample.id 1, tenantID := "t" }) := rfl

theorem allOrNothing_skipped :
    AllOrNothing .mongo true "t" Sample.registrar Sample.skippedRows Sample.enrolment 1 := by
  refine ((allOrNothing_iff .mongo true "t" Sample.registrar Sample.skippedRows Sample.enrolment).2 ?_).mpr ?_
  · rintro ⟨env, preview, center, htarget, row, hrow, env', job, err, hstops⟩
    rw [Sample.importTarget_skippedRows] at htarget
    cases htarget
    simp only [Sample.skippedRows, List.mem_cons, List.not_mem_nil, or_false] at hrow
    obtain rfl | rfl | rfl := hrow <;> cases hstops
  · rintro ⟨-, env, preview, center, htarget, row, hrow, env', class', profile, username, duplicate, _, _, hready, -⟩
    rw [Sample.importTarget_skippedRows] at htarget
    cases htarget
    simp only [Sample.skippedRows, List.mem_cons, List.not_mem_nil, or_false] at hrow
    obtain rfl | rfl | rfl := hrow <;> cases hready

/-- The job of an import that has opened an account cannot be stored. -/
def Sample.unstoredJob : Except LmsError GoogleSheetCommitResponse ×
    World (AccountEnv × Fault) AccountRequest (AccountStore × ℕ) :=
  (Service.commitGoogleSheetImport true "t" Sample.registrar Sample.sheetImport).run.recorded
    (AccountStore.failing .mongo) (fun k => (Sample.drawing (Sample.id 4), if k = 8 then .lost else .none))
    ((Sample.enrolment, 1), [])

theorem import_leaves_account :
    ¬AllOrNothing .mongo true "t" Sample.registrar Sample.sheetImport Sample.enrolment 1 := by
  intro hall
  have hrun := evaluates_recorded (AccountStore.failing .mongo)
    (fun k => (Sample.drawing (Sample.id 4), if k = 8 then .lost else .none))
    (Service.commitGoogleSheetImport true "t" Sample.registrar Sample.sheetImport).run ((Sample.enrolment, 1), [])
  change Evaluates _ _ _ Sample.unstoredJob.1 Sample.unstoredJob.2.1 at hrun
  have hfails : Sample.unstoredJob.1.toOption.isNone = true := by decide
  have husers : Sample.unstoredJob.2.1.1.db.users.rows.map Postgres.AuthUser.email =
      ["an.ngo.5a@student.erg.edu.vn"] := by decide
  generalize Sample.unstoredJob.2.1 = w at hrun husers
  generalize Sample.unstoredJob.1 = reply at hrun hfails
  cases reply with
  | ok resp => cases hfails
  | error err =>
    have hnone : w.1.db.users.rows = [] := List.eq_nil_iff_forall_not_mem.mpr fun user huser =>
      absurd ((hall err w hrun).users user huser) List.not_mem_nil
    rw [hnone] at husers
    cases husers

end Sample

end ErgGo.Lms
