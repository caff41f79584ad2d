import ErgGo.Auth.LoginSecurity

/-!
# Issuing and refreshing tokens

A login issues a pair for a new session and stores the hash of its refresh token there. A
refresh marks the presented token as used, checks it against the session, issues a new pair
and swaps the stored hash for that of the new refresh token.
-/

namespace ErgGo.Auth
open Go Concurrent Lms Postgres AccessControl AuthLibrary

structure RefreshRequest where
  refreshToken : String
  deviceID : String := ""

abbrev TokenResponse := TokenPair

structure AuthResponse where
  user : User
  accessToken : String
  refreshToken : String
  expiresIn : ℤ
  tokenType : String
  session : AuthSession
  permissions : List String
  portals : List String
  accountType : String
  accessLevel : String

/-- An access control request, answered by the database. -/
def acReply (q : ACRequest) : Program AuthRequest AuthReply (ACReply q) :=
  (Program.send (.ac q)).bind (fun r => .done (r.mapError (fun _ => ACError.storeFailure)))

/-- `ObjectIDFromHex` without its error. -/
def objectIDOrNil (id : String) : ObjectID := (objectID id).toOption.getD .nil

def rtUsedKey (userID tokenHash : String) : String := "rt_used:" ++ userID ++ ":" ++ tokenHash

section Service

variable (cfg : AuthConfig)

/-- The permissions of a user, none where they cannot be found out. -/
def effectivePermissions (userID : String) : AuthCall (List String) :=
  if cfg.accessControl then
    ExceptT.mk (((AccessControl.Service.getEffectivePermissions userID).run.interp acReply).bind (fun r =>
      .done (.ok (match r with
        | .ok eff => eff.effectivePermissions
        | .error _ => []))))
  else pure []

def isRefreshTokenUsed (userID tokenHash : String) : AuthCall Bool :=
  if !cfg.redis then pure false else call (.redisExists (rtUsedKey userID tokenHash))

def markRefreshTokenUsed (userID tokenHash : String) (ttl : Time) : AuthCall Unit :=
  if !cfg.redis then pure () else call (.redisSet (rtUsedKey userID tokenHash) "1" ttl)

def invalidateSessionCache (userID sessionID : String) : AuthCall Unit :=
  if !cfg.redis then pure ()
  else call (.redisDel ["auth_session_active:" ++ userID ++ ":" ++ sessionID, "session_ctx:" ++ userID ++ ":" ++ sessionID])

def findUserByID (id : ObjectID) : AuthCall User := do
  let record ← call (.findUserRecordByID id)
  let roles ← call (.loadUserRoleNames record.id.hex)
  return { record with roles := roles }

def findUserByEmail (email tenantID : String) : AuthCall User := do
  let record ← call (.findUserRecordByEmail email tenantID)
  let roles ← call (.loadUserRoleNames record.id.hex)
  return { record with roles := roles }

def issuePair (sessionID userID email : String) (roles perms portals : List String) (accountType accessLevel : String) :
    AuthCall TokenPair := do
  let now ← call .now
  let accessToken ← wrapping "auth: sign access token" (call (.sign cfg.jwtSecret
    (accessClaims cfg now sessionID userID email roles perms portals accountType accessLevel)))
  let refreshToken ← wrapping "auth: sign refresh token" (call (.sign cfg.jwtRefreshSecret
    (refreshClaims cfg now sessionID userID)))
  return { accessToken := accessToken, refreshToken := refreshToken, expiresIn := cfg.accessTokenTTL / 1000000000,
           tokenType := "Bearer" }

variable [Library] [AuthLibrary]

/-- Validates the presented token and marks it as used. A failing check or mark is ignored. -/
def consumeRefreshToken (req : RefreshRequest) : AuthCall JWTClaims := do
  let now ← call .now
  match validate cfg cfg.jwtRefreshSecret now req.refreshToken with
  | none => throw (.wrap "auth.service.refreshToken: validate" .invalidToken)
  | some claims =>
    let rtHash := hashSHA256 req.refreshToken
    let used ← orElse false (isRefreshTokenUsed cfg claims.userID rtHash)
    if used then
      orElse () (call (.revokeAllUserSessionsWithReason (objectIDOrNil claims.userID) "" "logout"))
      throw .tokenReuseDetected
    orElse () (markRefreshTokenUsed cfg claims.userID rtHash cfg.refreshTokenTTL)
    return claims

/-- The session id in the claims, or a new one where they carry none. -/
def presentedSessionID (claims : JWTClaims) : AuthCall String :=
  if sessionIDFromClaims claims = "" then call .generateSessionID else pure (sessionIDFromClaims claims)

/-- The user, and the session the token belongs to: it must be active and hold the token's
hash. -/
def presentedSession (req : RefreshRequest) (claims : JWTClaims) : AuthCall (User × String) := do
  let user ← wrapping "auth.service.refreshToken: find user" (findUserByID (objectIDOrNil claims.userID))
  let sessionID ← presentedSessionID claims
  let session ← tryCatch (call (.findSessionByID sessionID user.tenantID)) (fun err =>
    throw (if err = .sessionNotFound then .sessionReplaced else .wrap "auth.service.refreshToken: find session" err))
  let now ← call .now
  if session.revokedAt.isSome || now > session.expiresAt then throw .sessionReplaced
  if session.refreshTokenHash ≠ hashSHA256 req.refreshToken then
    orElse () (call (.revokeAllUserSessionsWithReason user.id user.tenantID "refresh_token_reuse"))
    throw .tokenReuseDetected
  if trimSpace req.deviceID ≠ "" && session.deviceID ≠ "" && trimSpace req.deviceID ≠ session.deviceID then
    throw .sessionReplaced
  return (user, sessionID)

/-- The new pair for the session. -/
def refreshedPair (user : User) (sessionID : String) : AuthCall TokenPair := do
  let perms ← effectivePermissions cfg user.id.hex
  let portals := portalsForToken user.roles
  let account := classifyAccountAccess user.roles portals perms
  wrapping "auth.service.refreshToken: issue pair"
    (issuePair cfg sessionID user.id.hex user.email user.roles perms portals account.1 account.2)

def rotateRefreshToken (req : RefreshRequest) (user : User) (sessionID : String) (tokens : TokenPair) :
    AuthCall Unit := do
  let now ← call .now
  tryCatch
    (call (.rotateSessionRefreshToken sessionID user.tenantID (hashSHA256 req.refreshToken)
      (hashSHA256 tokens.refreshToken) (now + cfg.refreshTokenTTL)))
    (fun err => do
      if err = .sessionNotFound then
        orElse () (call (.revokeAllUserSessionsWithReason user.id user.tenantID "refresh_token_race"))
        throw .tokenReuseDetected
      throw (.wrap "auth.service.refreshToken: rotate refresh hash" err))

def refreshToken (req : RefreshRequest) : AuthCall TokenResponse := do
  let claims ← consumeRefreshToken cfg req
  let (user, sessionID) ← presentedSession req claims
  let tokens ← refreshedPair cfg user sessionID
  rotateRefreshToken cfg req user sessionID tokens
  orElse () (invalidateSessionCache cfg user.id.hex sessionID)
  return tokens

def permissionsForToken (user : User) : AuthCall (List String) :=
  if grantsAllPermissions user.roles then pure ["*"] else effectivePermissions cfg user.id.hex

/-- Revoking the other sessions and touching the login columns happen in the background and
are not part of the call. -/
def issueTokensForUser (user : User) (sec : LoginSecurityContext) : AuthCall AuthResponse := do
  let sessionID ← call .generateSessionID
  let sec := normalizeSecurityContext sec
  let perms ← permissionsForToken cfg user
  let portals := portalsForToken user.roles
  let account := classifyAccountAccess user.roles portals perms
  let tokens ← wrapping "auth.service.issueTokensForUser: issue pair"
    (issuePair cfg sessionID user.id.hex user.email user.roles perms portals account.1 account.2)
  let now ← call .now
  let session : AuthSession :=
    { id := .nil
      userID := user.id
      sessionID := sessionID
      deviceID := if sec.deviceID = "" then sessionID else sec.deviceID
      deviceName := sec.deviceName
      ipAddress := sec.ipAddress
      userAgent := sec.userAgent
      refreshTokenHash := hashSHA256 tokens.refreshToken
      tenantID := user.tenantID
      expiresAt := now + cfg.refreshTokenTTL }
  wrapping "auth.service.issueTokensForUser: create session" (call (.createSession session))
  return { user := user, accessToken := tokens.accessToken, refreshToken := tokens.refreshToken,
           expiresIn := tokens.expiresIn, tokenType := tokens.tokenType, session := session, permissions := perms,
           portals := portals, accountType := account.1, accessLevel := account.2 }

end Service

end ErgGo.Auth
