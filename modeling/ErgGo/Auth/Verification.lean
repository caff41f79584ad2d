import ErgGo.Auth.Login
import ErgGo.Lms.StudentAccounts

/-!
# Verifying an address

A PIN goes out to an address that registers or has forgotten its password. Whoever presents it activates
the account or sets a new password.
-/

namespace ErgGo.Auth.Verification
open Go Documents Concurrent Program Lms Postgres

inductive VerificationError where
  | storeFailure
  | duplicateEmail
  | userNotFound
  | emailExists
  | invalidPIN
  | wrap (context : String) (cause : VerificationError)
  deriving DecidableEq

inductive Request where
  | pin (q : PinRequest)
  | findUserRecordByEmail (email tenantID : String)
  | hashPassword (password : String)
  | createUser (user : Postgres.AuthUser) (roles : List String)
  | randomDigit
  | unusedPins (email purpose : String)
  | replacePins (replaced : List ObjectID) (pin : AuthPin)
  | updateUserStatus (email tenantID status : String)
  | updatePasswordHash (email tenantID hash : String)
  | revokeAllUserSessionsWithReason (userID : ObjectID) (tenantID reason : String)

abbrev Result : Request → Type
  | .pin q => PinReply q
  | .findUserRecordByEmail .. => Postgres.AuthUser
  | .hashPassword _ => String
  | .createUser .. => ObjectID
  | .randomDigit => Fin 10
  | .unusedPins .. => List ObjectID
  | .replacePins .. => Unit
  | .updateUserStatus .. => Unit
  | .updatePasswordHash .. => Unit
  | .revokeAllUserSessionsWithReason .. => Unit

abbrev Reply (q : Request) := Except VerificationError (Result q)

abbrev Call := ExceptT VerificationError (Program Request Reply)

def call (q : Request) : Call (Result q) := ExceptT.mk (.send q)

@[simp] lemma run_call (q : Request) : (call q).run = .send q := rfl

def wrapping {α : Type} (context : String) (x : Call α) : Call α :=
  tryCatch x (fun e => throw (.wrap context e))

/-- What became of a call, for a caller that goes on either way. -/
def outcome {α : Type} (x : Call α) : Call (Except VerificationError α) := ExceptT.lift x.run

/-! ## The tables -/

structure Env extends AccountEnv where
  digit : Fin 10 := 0

/-- The columns that `Updates` sets. -/
structure Columns where
  status : Option String := none
  passwordHash : Option String := none

def Columns.apply (columns : Columns) (now : Time) (user : Postgres.AuthUser) : Postgres.AuthUser :=
  { user with
    status := columns.status.getD user.status
    passwordHash := columns.passwordHash.getD user.passwordHash
    updatedAt := now }

section Tables

variable [Library]

/-- `tenant_id = ? AND email = ?`, of what is not deleted. -/
def named (email tenantID : String) (user : Postgres.AuthUser) : Bool :=
  user.tenantID = tenantID && user.email = normalizeEmail email && user.deletedAt.isNone

def setColumns (email tenantID : String) (columns : Columns) (now : Time) (user : Postgres.AuthUser) :
    Postgres.AuthUser :=
  if named email tenantID user then columns.apply now user else user

lemma setColumns_id (email tenantID : String) (columns : Columns) (now : Time) (user : Postgres.AuthUser) :
    (setColumns email tenantID columns now user).id = user.id := by
  unfold setColumns Columns.apply
  split <;> rfl

lemma setColumns_email (email tenantID : String) (columns : Columns) (now : Time) (user : Postgres.AuthUser) :
    (setColumns email tenantID columns now user).email = user.email := by
  unfold setColumns Columns.apply
  split <;> rfl

def updateUsers (users : Users) (email tenantID : String) (columns : Columns) (now : Time) : Users where
  rows := users.rows.map (setColumns email tenantID columns now)
  id_nodup := by
    have hid : Postgres.AuthUser.id ∘ setColumns email tenantID columns now = Postgres.AuthUser.id :=
      funext (setColumns_id email tenantID columns now)
    rw [List.map_map, hid]
    exact users.id_nodup
  email_nodup := by
    have hemail : Postgres.AuthUser.email ∘ setColumns email tenantID columns now = Postgres.AuthUser.email :=
      funext (setColumns_email email tenantID columns now)
    rw [List.map_map, hemail]
    exact users.email_nodup

/-- No row changed is an error. -/
def updateAccount (db : Database) (email tenantID : String) (columns : Columns) (now : Time) :
    Except VerificationError Unit × Database :=
  if db.users.rows.any (named email tenantID) then
    (.ok (), { db with users := updateUsers db.users email tenantID columns now })
  else (.error .userNotFound, db)

/-- `email = ? AND purpose = ? AND used_at IS NULL`. -/
def outstanding (email purpose : String) (pin : AuthPin) : Bool :=
  pin.email = email && pin.purpose = purpose && pin.usedAt.isNone

/-- The delete tests its condition again on the latest version of each row that it has found. -/
def replacePins (db : Database) (id : ObjectID) (replaced : List ObjectID) (pin : AuthPin) :
    Except VerificationError Unit × Database :=
  match varchar 255 pin.email with
  | none => (.error .storeFailure, db)
  | some email =>
    match (db.pins.deleteMany (fun stored => stored.id ∈ replaced && stored.usedAt.isNone)).insertOne
        { pin with id := id, email := email } with
    | none => (.error .storeFailure, db)
    | some pins => (.ok (), { db with pins := pins })

def createFailure (e : LmsError) : VerificationError :=
  if e = errDuplicateEmail then .duplicateEmail else .storeFailure

/-- The statements take effect one at a time; those of a transaction that only writes, together. -/
def carryOut [AccountLibrary] (env : Env) (q : Request) (db : Database) : Reply q × Database :=
  match q with
  | .pin q => (.ok (pinExec env.now q db).1, (pinExec env.now q db).2)
  | .findUserRecordByEmail email tenantID =>
    ((findUserRecordByEmail db email tenantID).elim (.error .userNotFound) .ok, db)
  | .hashPassword password => (.ok (AccountLibrary.hashPassword password env.salt), db)
  | .createUser user roles =>
    ((createUser env.toAccountEnv user roles db).1.mapError createFailure,
      (createUser env.toAccountEnv user roles db).2)
  | .randomDigit => (.ok env.digit, db)
  | .unusedPins email purpose => (.ok ((db.pins.docs.filter (outstanding email purpose)).map AuthPin.id), db)
  | .replacePins replaced pin => replacePins db env.id replaced pin
  | .updateUserStatus email tenantID status => updateAccount db email tenantID { status := some status } env.now
  | .updatePasswordHash email tenantID hash => updateAccount db email tenantID { passwordHash := some hash } env.now
  | .revokeAllUserSessionsWithReason userID tenantID reason =>
    (.ok (), { db with sessions := db.sessions.updateMany (revokable userID tenantID) (setRevoked env.now reason) })

/-- The clock does not fail. -/
def fallible : Request → Bool
  | .pin .now => false
  | _ => true

def exec [AccountLibrary] (env : Env × Fault) (q : Request) (db : Database) : Reply q × Database :=
  if fallible q then withFaults .storeFailure carryOut env q db else carryOut env.1 q db

end Tables

/-! ## The repository -/

namespace Repo

variable [Library]

def findUserByEmail (email tenantID : String) : Call Postgres.AuthUser :=
  tryCatch (call (.findUserRecordByEmail email tenantID)) fun
    | .userNotFound => throw .userNotFound
    | e => throw (.wrap "auth.repository.findUserByEmail" e)

def createUser (user : Postgres.AuthUser) (roles : List String) : Call ObjectID :=
  tryCatch (call (.createUser user roles)) fun
    | .duplicateEmail => throw .duplicateEmail
    | e => throw (.wrap "auth.repository.createUser" e)

def updateUserStatus (email tenantID status : String) : Call Unit :=
  tryCatch (call (.updateUserStatus email tenantID status)) fun
    | .userNotFound => throw .userNotFound
    | e => throw (.wrap "auth.repository.updateUserStatus" e)

def updatePasswordHash (email tenantID hash : String) : Call Unit :=
  tryCatch (call (.updatePasswordHash email tenantID hash)) fun
    | .userNotFound => throw .userNotFound
    | e => throw (.wrap "auth.repository.updatePasswordHash" e)

def revokeAllUserSessions (userID : ObjectID) (tenantID : String) : Call Unit :=
  wrapping "auth.repository.revokeAllUserSessions" (call (.revokeAllUserSessionsWithReason userID tenantID "logout"))

/-- 15 minutes. -/
def pinTTL : Time := 900000000000

def createPin (email code purpose : String) : Call Unit := do
  let now ← call (.pin .now)
  let record : AuthPin :=
    { id := .nil, email := normalizeEmail email, code := code, purpose := purpose, expiresAt := now + pinTTL,
      createdAt := now }
  wrapping "auth.repository.createPin" do
    let replaced ← call (.unusedPins record.email purpose)
    call (.replacePins replaced record)

/-- The statements of the PIN's transaction, and the lookup after it, each of which can fail. -/
def pinStatement (q : PinRequest) : Call (PinReply q) :=
  match q with
  | .first email code purpose =>
    wrapping "auth.repository.validateAndConsumePin.lookup" (call (.pin (.first email code purpose)))
  | q => wrapping "auth.repository.validateAndConsumePin" (call (.pin q))

def validateAndConsumePin (email code purpose : String) : Call (Except PinError AuthPin) :=
  (Auth.Repo.validateAndConsumePin email code purpose).hoist pinStatement

end Repo

/-! ## The service -/

structure RegisterRequest where
  email : String
  password : String
  fullName : String

structure VerifyPinRequest where
  email : String
  code : String
  purpose : String

structure ForgotPasswordRequest where
  email : String

structure ResendPinRequest where
  email : String
  purpose : String

structure ResetPasswordRequest where
  email : String
  code : String
  newPassword : String

section Service

variable [Library] (cfg : AuthConfig)

def generatePIN (length : ℕ) : Call String := do
  let digits ← (List.replicate length ()).mapM fun _ => wrapping "generatePIN" (call .randomDigit)
  return String.ofList (digits.map fun digit => Nat.digitChar digit.val)

def register (req : RegisterRequest) : Call Unit := do
  let tenantID := defaultTenantID cfg
  match ← outcome (Repo.findUserByEmail req.email tenantID) with
  | .ok _ => throw .emailExists
  | .error _ =>
    let passwordHash ← wrapping "auth.service.register: hash password" (call (.hashPassword req.password))
    let user : Postgres.AuthUser :=
      { id := .nil, tenantID := tenantID, email := req.email, passwordHash := passwordHash, fullName := req.fullName,
        status := "PENDING", provider := "local" }
    match ← outcome (Repo.createUser user ["user"]) with
    | .error e => throw (if e = .duplicateEmail then .emailExists else .wrap "auth.service.register: create user" e)
    | .ok _ =>
      let code ← wrapping "auth.service.register: generate pin" (generatePIN 6)
      let _ ← outcome (Repo.createPin req.email code "register")

def verifyPIN (req : VerifyPinRequest) : Call Unit := do
  match ← wrapping "auth.service.verifyPIN: validate" (Repo.validateAndConsumePin req.email req.code req.purpose) with
  | .error _ => throw .invalidPIN
  | .ok _ =>
    if req.purpose = "register" then
      wrapping "auth.service.verifyPIN: activate user"
        (Repo.updateUserStatus req.email (defaultTenantID cfg) "ACTIVE")

def forgotPassword (req : ForgotPasswordRequest) : Call Unit := do
  match ← outcome (Repo.findUserByEmail req.email (defaultTenantID cfg)) with
  | .error _ => return
  | .ok _ =>
    let code ← wrapping "auth.service.forgotPassword: generate pin" (generatePIN 6)
    let _ ← outcome (Repo.createPin req.email code "forgot_password")

/-- The purpose under which a PIN is stored that is sent again. -/
def resentPurpose (purpose : String) : String := if purpose = "forgot_password" then "forgot_password" else "verify"

def resendPIN (req : ResendPinRequest) : Call Unit := do
  match ← outcome (Repo.findUserByEmail req.email (defaultTenantID cfg)) with
  | .error _ => return
  | .ok _ =>
    let code ← wrapping "auth.service.resendPIN: generate pin" (generatePIN 6)
    let _ ← outcome (Repo.createPin req.email code (resentPurpose req.purpose))

def resetPassword (req : ResetPasswordRequest) : Call Unit := do
  let tenantID := defaultTenantID cfg
  match ← wrapping "auth.service.resetPassword: validate pin"
      (Repo.validateAndConsumePin req.email req.code "forgot_password") with
  | .error _ => throw .invalidPIN
  | .ok _ =>
    let newHash ← wrapping "auth.service.resetPassword: hash password" (call (.hashPassword req.newPassword))
    wrapping "auth.service.resetPassword: update hash" (Repo.updatePasswordHash req.email tenantID newHash)
    match ← outcome (Repo.findUserByEmail req.email tenantID) with
    | .error _ => return
    | .ok user =>
      let _ ← outcome (Repo.revokeAllUserSessions user.id tenantID)

inductive Operation where
  | register (req : RegisterRequest)
  | verifyPIN (req : VerifyPinRequest)
  | forgotPassword (req : ForgotPasswordRequest)
  | resendPIN (req : ResendPinRequest)
  | resetPassword (req : ResetPasswordRequest)

def Operation.program : Operation → Call Unit
  | .register req => Verification.register cfg req
  | .verifyPIN req => Verification.verifyPIN cfg req
  | .forgotPassword req => Verification.forgotPassword cfg req
  | .resendPIN req => Verification.resendPIN cfg req
  | .resetPassword req => Verification.resetPassword cfg req

abbrev VerificationEvent := Event (Env × Fault) Request Database

/-- The calls, interleaved. -/
abbrev verificationRun [AccountLibrary] (db : Database) (calls : List Operation) (schedule : List (ℕ × (Env × Fault))) :
    Config (Env × Fault) Request Reply Database (Except VerificationError Unit) :=
  (start db (calls.map (fun call => (call.program cfg).run))).run exec schedule

end Service

end ErgGo.Auth.Verification
