import ErgGo.Auth.TokenService

/-!
# Password logins

A login is checked against blocks and failed attempts, finds the account, repairs it where it
is the configured root administrator's, and issues tokens for a verified password. Renewing the
password hash and recording a success happen in the background and are not part of the call.
-/

namespace ErgGo.Auth
open Go Concurrent Lms Postgres AccessControl AuthLibrary

structure LoginRequest where
  email : String
  password : String

section Admin

/-- The first occurrences of the strings that are not empty. -/
def uniqueNames (values : List String) : List String := (values.filter (fun value => value ≠ "")).eraseDups

def adminRoles : List String := ["admin", "SUPER_ADMIN", "system.super_admin", "erg_super_admin"]

def ensureAdminRoles (roles : List String) : List String :=
  let roles := uniqueNames roles
  uniqueNames (roles ++ adminRoles.filter (fun required => required ∉ roles))

def sameStringSet (a b : List String) : Bool :=
  let a := uniqueNames a
  let b := uniqueNames b
  a.length = b.length && b.all (fun item => item ∈ a)

variable [Library] [AuthLibrary] (cfg : AuthConfig)

def defaultTenantID : String := if cfg.defaultTenantID ≠ "" then cfg.defaultTenantID else "default"

def rootAdminEmail : String :=
  if trimSpace cfg.adminEmail ≠ "" then toLower (trimSpace cfg.adminEmail) else "admin@erg.edu.vn"

def isConfiguredAdminEmail (email : String) : Bool :=
  if trimSpace email = "" then false
  else equalFold (trimSpace email) (rootAdminEmail cfg) || equalFold (trimSpace email) "admin@erg.edu.vn"

/-- The identity columns that the root administrator's account lacks. -/
def adminUpdates (user : User) : IdentityUpdates where
  status := if equalFold user.status "ACTIVE" then none else some "ACTIVE"
  provider := if trimSpace user.provider = "" then some "local" else none
  accountType := if trimSpace user.accountType = "" then some "erg" else none
  fullName := if trimSpace user.fullName = "" then some "Super Administrator" else none
  isProfileCompleted := if user.isProfileCompleted then none else some true

/-- The account as the repair leaves it in memory. -/
def repairedAdmin (user : User) : User :=
  let updates := adminUpdates user
  { user with
    status := updates.status.getD user.status
    provider := updates.provider.getD user.provider
    accountType := updates.accountType.getD user.accountType
    fullName := updates.fullName.getD user.fullName
    isProfileCompleted := updates.isProfileCompleted.getD user.isProfileCompleted
    roles := if sameStringSet user.roles (ensureAdminRoles user.roles) then user.roles else ensureAdminRoles user.roles }

def repairConfiguredAdmin (user : User) : AuthCall User := do
  if !isConfiguredAdminEmail cfg user.email then return user
  if adminUpdates user ≠ {} then call (.updateUserIdentityFields user.id (adminUpdates user))
  if !sameStringSet user.roles (ensureAdminRoles user.roles) then
    call (.updateUserRoles user.id (ensureAdminRoles user.roles))
  return repairedAdmin user

end Admin

section Login

variable [Library] [AuthLibrary] (cfg : AuthConfig)

def studentAuthEmail (username : String) : String := trimSpace (toLower username) ++ "@student.erg.edu.vn"

def canonicalLoginEmail (identifier : String) : String :=
  let identifier := trimSpace (toLower identifier)
  if identifier = "" || contains identifier "@" then identifier else studentAuthEmail identifier

/-- What an unknown account and a wrong password are answered with. -/
def rejectLogin (userID loginEmail : String) (sec : LoginSecurityContext) : AuthCall AuthResponse := do
  match ← outcome (recordFailedLogin cfg (defaultTenantID cfg) loginEmail sec) with
  | .error thresholdErr =>
    recordLoginAttempt (defaultTenantID cfg) userID loginEmail "blocked" "too_many_attempts" sec
    throw thresholdErr
  | .ok () =>
    recordLoginAttempt (defaultTenantID cfg) userID loginEmail "failed" "invalid_credentials" sec
    throw .invalidCredentials

/-- The login of an account that has been found. -/
def loginUser (req : LoginRequest) (loginEmail : String) (sec : LoginSecurityContext) (user : User) :
    AuthCall AuthResponse := do
  let user ← wrapping "auth.service.login: repair configured admin" (repairConfiguredAdmin cfg user)
  if user.status = "BLOCKED" || user.status = "BANNED" then
    recordLoginAttempt (defaultTenantID cfg) user.id.hex loginEmail "blocked" "account_locked" sec
    throw .accountLocked
  if user.status = "PENDING" && user.provider = "local" then
    recordLoginAttempt (defaultTenantID cfg) user.id.hex loginEmail "blocked" "email_not_verified" sec
    throw .emailNotVerified
  if !(verifyPassword req.password user.passwordHash).1 then rejectLogin cfg user.id.hex loginEmail sec
  else issueTokensForUser cfg user sec

def login (req : LoginRequest) (sec : LoginSecurityContext) : AuthCall AuthResponse := do
  let sec := normalizeSecurityContext sec
  let loginEmail := canonicalLoginEmail (trimSpace req.email)
  match ← precheckLoginSecurity cfg (defaultTenantID cfg) loginEmail sec with
  | some (reason, err) =>
    recordLoginAttempt (defaultTenantID cfg) "" loginEmail "blocked" reason sec
    throw err
  | none =>
    match ← outcome (findUserByEmail loginEmail (defaultTenantID cfg)) with
    | .error err =>
      if err = .userNotFound then rejectLogin cfg "" loginEmail sec
      else throw (.wrap "auth.service.login: find user" err)
    | .ok user => loginUser cfg req loginEmail sec user

end Login

end ErgGo.Auth
