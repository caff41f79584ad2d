import ErgGo.Auth.Repository
import ErgGo.Lib.Runs
import ErgGo.AccessControl.Permissions

/-!
# The current session

The context of a session is built from the user, the session and the user's permissions and
is kept in Redis for fifteen minutes under the user and the session. A context that is found
there is returned as it is. Calls are made one after another, each at one time.
-/

namespace ErgGo.Sessions
open Go Documents Concurrent Program Lms Postgres Auth

structure UserPayload where
  id : String
  email : String
  fullName : String
  avatarURL : String
  status : String
  provider : String
  accountType : String
  lastLoginProvider : String
  isProfileCompleted : Bool

structure AccessControlPayload where
  roles : List String
  permissions : List String

structure SessionPayload where
  id : String
  ipAddress : String
  lastActiveAt : String
  expiresAt : String

structure SystemPayload where
  serverTime : String
  version : String

structure SessionContextResponse where
  user : UserPayload
  accessControl : AccessControlPayload
  session : SessionPayload
  system : SystemPayload

class SessionLibrary where
  /-- `Format(time.RFC3339)`. -/
  formatTime : Time → String
  /-- `json.Marshal` of a response, and `json.Unmarshal` into one. -/
  marshal : SessionContextResponse → String
  unmarshal : String → Option SessionContextResponse
  unmarshal_marshal : ∀ resp, unmarshal (marshal resp) = some resp
  marshal_ne_empty : ∀ resp, marshal resp ≠ ""

open SessionLibrary

inductive SessionError where
  | userNotFound
  | sessionNotFound
  | message (text : String)
  | wrap (context : String) (cause : SessionError)
  deriving DecidableEq

/-- Fifteen minutes. -/
def sessionCtxCacheTTL : Time := 900000000000

def sessionCtxCacheKey (userID sessionID : String) : String := "session_ctx:" ++ userID ++ ":" ++ sessionID

namespace Repository

def getUserByID (db : Database) (tenantID userID : String) : Option Postgres.AuthUser :=
  db.users.rows.find? (fun user => user.id.hex = userID && user.tenantID = tenantID && user.deletedAt.isNone)

def getSessionByID (db : Database) (now : Time) (tenantID sessionID : String) : Option AuthSession :=
  db.sessions.find (fun session => session.sessionID = sessionID && session.tenantID = tenantID &&
    session.revokedAt.isNone && session.expiresAt > now)

end Repository

def validateUserStatus (status : String) : Except SessionError Unit :=
  if status = "ACTIVE" then .ok ()
  else if status = "PENDING" then .error (.message "user account is pending")
  else if status = "BANNED" then .error (.message "user account is banned")
  else if status = "BLOCKED" then .error (.message "user account is blocked")
  else .error (.message ("user account status is unknown: " ++ status))

def grantsAllPermissions (roles : List String) : Bool :=
  roles.any (fun role => equalFold role "admin" || equalFold role "SUPER_ADMIN")

def sessionIP (session : AuthSession) (requestIP : String) : String :=
  if session.ipAddress ≠ "" then session.ipAddress else requestIP

section Service

variable [Library] [SessionLibrary] (cfg : AuthConfig) (now : Time)

omit [SessionLibrary] in
/-- The permissions of the user at a time, from the roles, or from access control where there is one. -/
def resolvePermissions (db : Database) (user : Postgres.AuthUser) : Except SessionError (List String) :=
  let roles := loadUserRoleNames db user.id.hex
  if grantsAllPermissions roles then .ok ["*"]
  else if !cfg.accessControl then .ok roles
  else match ((AccessControl.Service.getEffectivePermissions user.id.hex).run.alone AccessControl.exec now db).1 with
    | .error _ => .error (.message "access control")
    | .ok effective => .ok effective.effectivePermissions

/-- The context, built from the database. -/
def buildContext (db : Database) (tenantID userID sessionID ipAddress : String) : Except SessionError SessionContextResponse :=
  match Repository.getUserByID db tenantID userID with
  | none => .error (.wrap "service.GetCurrentSession" .userNotFound)
  | some user =>
    match Repository.getSessionByID db now tenantID sessionID with
    | none => .error (.wrap "service.GetCurrentSession" .sessionNotFound)
    | some session => do
      validateUserStatus user.status
      let permissions ← (resolvePermissions cfg now db user).mapError (.wrap "service.GetCurrentSession.resolvePermissions")
      return {
        user :=
          { id := user.id.hex, email := user.email, fullName := user.fullName, avatarURL := user.avatarURL,
            status := user.status, provider := user.provider, accountType := user.accountType,
            lastLoginProvider := user.lastLoginProvider, isProfileCompleted := user.isProfileCompleted }
        accessControl := { roles := loadUserRoleNames db user.id.hex, permissions := permissions }
        session :=
          { id := session.sessionID, ipAddress := sessionIP session ipAddress,
            lastActiveAt := formatTime session.lastActiveAt, expiresAt := formatTime session.expiresAt }
        system := { serverTime := formatTime now, version := "1.0.0" } }

/-- The context found in Redis. -/
def cachedContext (redis : GoMap RedisEntry) (userID sessionID : String) : Option SessionContextResponse :=
  let cached := (Redis.live now redis (sessionCtxCacheKey userID sessionID)).elim "" RedisEntry.value
  if !cfg.redis || cached = "" then none else unmarshal cached

/-- The update of the last activity that it starts is a call of its own. -/
def getCurrentSession (tenantID userID sessionID ipAddress : String) (s : AuthStore) :
    Except SessionError SessionContextResponse × AuthStore :=
  match cachedContext cfg now s.redis userID sessionID with
  | some cachedResp => (.ok cachedResp, s)
  | none =>
    match buildContext cfg now s.db tenantID userID sessionID ipAddress with
    | .error err => (.error err, s)
    | .ok resp =>
      if !cfg.redis then (.ok resp, s)
      else (.ok resp,
        { s with redis := Redis.set now s.redis (sessionCtxCacheKey userID sessionID) (marshal resp) sessionCtxCacheTTL })

end Service

end ErgGo.Sessions
