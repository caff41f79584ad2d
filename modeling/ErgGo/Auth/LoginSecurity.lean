import ErgGo.Auth.Repository

/-!
# Failed logins and blocked addresses

What a login is checked against before anything else, and what a failed login leaves behind.
A count of failed attempts comes from Redis where it is configured, else from the rows with
result "failed" inside the window.
-/

namespace ErgGo.Auth
open Go Concurrent Program Lms Postgres

/-- `fmt.Errorf` around an error. -/
def wrapping {α : Type} (context : String) (x : AuthCall α) : AuthCall α :=
  tryCatch x (fun err => throw (.wrap context err))

/-- `value, _ := x`. -/
def orElse {α : Type} (default : α) (x : AuthCall α) : AuthCall α := tryCatch x (fun _ => pure default)

/-- `value, err := x`, without returning the error. -/
def outcome {α : Type} (x : AuthCall α) : AuthCall (Except AuthError α) :=
  tryCatch (x >>= fun a => pure (.ok a)) (fun err => pure (.error err))

section Sends

variable {α : Type} {P : AuthRequest → Prop}

lemma allRequests_call {q : AuthRequest} (hq : P q) : (call q).run.AllRequests P := ⟨hq, fun _ => trivial⟩

lemma allRequests_wrapping {context : String} {x : AuthCall α} (hx : x.run.AllRequests P) :
    (wrapping context x).run.AllRequests P :=
  hx.run_tryCatch (fun _ => trivial)

lemma allRequests_orElse {default : α} {x : AuthCall α} (hx : x.run.AllRequests P) :
    (orElse default x).run.AllRequests P :=
  hx.run_tryCatch (fun _ => trivial)

lemma allRequests_outcome {x : AuthCall α} (hx : x.run.AllRequests P) : (outcome x).run.AllRequests P :=
  AllRequests.run_tryCatch (AllRequests.run_bind (ε := AuthError) (f := fun a => pure (Except.ok (ε := AuthError) a)) hx
    fun _ => trivial) (fun _ => trivial)

end Sends

structure LoginSecurityContext where
  ipAddress : String := ""
  userAgent : String := ""
  deviceID : String := ""
  deviceName : String := ""
  deviceFingerprint : String := ""
  countryCode : String := ""
  countryName : String := ""
  continentCode : String := ""

section Security

variable [Library] [AuthLibrary]

/-- `strings.ToUpper`. -/
def toUpper (s : String) : String := String.ofList (s.toList.map AuthLibrary.toUpper)

def continentForCountryCode (country : String) : String :=
  if toUpper (trimSpace country) ∈ ["AF", "AM", "AZ", "BH", "BD", "BT", "BN", "KH", "CN", "CY", "GE", "HK", "IN", "ID",
    "IR", "IQ", "IL", "JP", "JO", "KZ", "KW", "KG", "LA", "LB", "MO", "MY", "MV", "MN", "MM", "NP", "KP", "OM", "PK",
    "PS", "PH", "QA", "SA", "SG", "KR", "LK", "SY", "TW", "TJ", "TH", "TL", "TR", "TM", "AE", "UZ", "VN", "YE", "RU"]
  then "AS" else ""

def normalizeSecurityContext (sec : LoginSecurityContext) : LoginSecurityContext :=
  let countryCode := toUpper (trimSpace sec.countryCode)
  let continentCode := toUpper (trimSpace sec.continentCode)
  { ipAddress := trimSpace sec.ipAddress
    userAgent := trimSpace sec.userAgent
    deviceID := if trimSpace sec.deviceID = "" then trimSpace sec.deviceFingerprint else trimSpace sec.deviceID
    deviceName := trimSpace sec.deviceName
    deviceFingerprint := trimSpace sec.deviceFingerprint
    countryCode := countryCode
    countryName := trimSpace sec.countryName
    continentCode := if continentCode = "" ∧ countryCode ≠ "" then continentForCountryCode countryCode else continentCode }

def normalizeEmailForSecurity (email : String) : String := trimSpace (toLower email)

def emailHash (email : String) : String :=
  if normalizeEmailForSecurity email = "" then "" else AuthLibrary.hashSHA256 (normalizeEmailForSecurity email)

def failedEmailKey (tenantID email : String) : String :=
  if normalizeEmailForSecurity email = "" then ""
  else "auth_fail:email:" ++ trimSpace tenantID ++ ":" ++ emailHash (normalizeEmailForSecurity email)

def failedIPKey (ip : String) : String := if trimSpace ip = "" then "" else "auth_fail:ip:" ++ trimSpace ip

variable (cfg : AuthConfig)

/-- Fifteen minutes where the configuration says nothing. -/
def blockDuration : Time := if 0 < cfg.blockDuration then cfg.blockDuration else 900000000000

def failedLoginWindow : Time := if 0 < cfg.failedLoginWindow then cfg.failedLoginWindow else blockDuration cfg

/-- The block is also cached in Redis, which no login reads. -/
def blockIP (ip reason : String) : AuthCall Unit := do
  if trimSpace ip = "" then return ()
  let now ← call .now
  let blockedAt ← call .now
  orElse () (call (.upsertFirewallRule (trimSpace ip) "block" (trimSpace reason) "auth"
    (some (now + blockDuration cfg)) blockedAt))

def isIPBlocked (ip : String) : AuthCall Bool :=
  if trimSpace ip = "" then pure false
  else if !cfg.production && AuthLibrary.isPrivateOrLoopbackIP (trimSpace ip) then pure false
  else call (.isFirewallRuleActive "block" (trimSpace ip))

def isIPAllowlisted (ip : String) : AuthCall Bool := do
  if trimSpace ip = "" then return false
  let rules ← call (.listActiveFirewallRules "allowlist")
  return rules.any (fun rule => AuthLibrary.ipMatchesAllowlistEntry (trimSpace ip) rule.entry)

def isAllowedContinent (continent : String) (allowed : List String) : Bool :=
  allowed.any (fun item => toUpper (trimSpace continent) = toUpper (trimSpace item))

def shouldBlockByGeo (sec : LoginSecurityContext) : Bool :=
  if !cfg.geoBlockEnabled || sec.ipAddress = "" || AuthLibrary.isPrivateOrLoopbackIP sec.ipAddress then false
  else if sec.continentCode = "" then cfg.blockUnknownGeo
  else !isAllowedContinent sec.continentCode (if cfg.allowedContinents = [] then ["AS"] else cfg.allowedContinents)

def maxCachedCount : List String → ℤ → AuthCall (Option ℤ)
  | [], maxCount => return some maxCount
  | key :: keys, maxCount => do
    match ← outcome (call (.redisGet key)) with
    | .error _ => return none
    | .ok value =>
      if trimSpace value = "" then maxCachedCount keys maxCount
      else match value.toInt? with
        | none => return none
        | some count => maxCachedCount keys (max maxCount count)

/-- `none` where the database has to be asked. -/
def cachedFailedLoginCount (tenantID email ip : String) : AuthCall (Option ℤ) :=
  if !cfg.redis then return none
  else maxCachedCount ((if normalizeEmailForSecurity email ≠ "" then [failedEmailKey tenantID email] else []) ++
    (if trimSpace ip ≠ "" then [failedIPKey ip] else [])) 0

def countFailedLoginAttempts (params : FailedLoginAttemptCountParams) : AuthCall ℤ := do
  let lastSuccess ← if params.resetOnSuccess then call (.latestSuccessfulLoginAt params) else pure none
  call (.countLoginAttempts params (lastSuccess.filter (fun t => t > params.since)))

def failedLoginCount (tenantID email ip : String) : AuthCall ℤ := do
  let emailHash := if email ≠ "" then emailHash email else ""
  if emailHash = "" ∧ trimSpace ip = "" then return 0
  match ← cachedFailedLoginCount cfg tenantID email (trimSpace ip) with
  | some count => return count
  | none =>
    let now ← call .now
    countFailedLoginAttempts
      { tenantID := tenantID, emailHash := emailHash, ip := trimSpace ip, since := now - failedLoginWindow cfg,
        resetOnSuccess := true }

/-- The reason and the error of a refused login. -/
def precheckLoginSecurity (tenantID email : String) (sec : LoginSecurityContext) :
    AuthCall (Option (String × AuthError)) := do
  let blocked ← if sec.ipAddress ≠ "" then orElse false (isIPBlocked cfg sec.ipAddress) else pure false
  if blocked then return some ("ip_blocked", .ipBlocked)
  if shouldBlockByGeo cfg sec then
    let allowlisted ← orElse false (isIPAllowlisted sec.ipAddress)
    if !allowlisted then
      blockIP cfg sec.ipAddress "geo_blocked"
      return some ("geo_blocked", .geoBlocked)
  if 0 < cfg.maxFailedLogin then
    match ← outcome (failedLoginCount cfg tenantID email "") with
    | .error err => return some ("", err)
    | .ok emailCount =>
      match ← outcome (failedLoginCount cfg tenantID "" sec.ipAddress) with
      | .error err => return some ("", err)
      | .ok ipCount =>
        if emailCount ≥ cfg.maxFailedLogin ∨ ipCount ≥ cfg.maxFailedLogin then
          blockIP cfg sec.ipAddress "too_many_attempts"
          return some ("too_many_attempts", .tooManyAttempts)
  return none

def incrementCounter (key : String) (ttl : Time) : AuthCall Unit := do
  if !cfg.redis || key = "" then return ()
  match ← outcome (call (.redisIncr key)) with
  | .error _ => return ()
  | .ok _ =>
    let existingTTL : Time ← orElse 0 (call (.redisTTL key))
    if existingTTL ≤ 0 then orElse () (call (.redisExpire key ttl)) else return ()

def recordFailedLogin (tenantID email : String) (sec : LoginSecurityContext) : AuthCall Unit := do
  if cfg.maxFailedLogin ≤ 0 then return ()
  let emailCount ← failedLoginCount cfg tenantID email ""
  let ipCount ← failedLoginCount cfg tenantID "" sec.ipAddress
  if normalizeEmailForSecurity email ≠ "" then
    incrementCounter cfg (failedEmailKey tenantID email) (failedLoginWindow cfg)
  if trimSpace sec.ipAddress ≠ "" then
    incrementCounter cfg (failedIPKey sec.ipAddress) (failedLoginWindow cfg)
  let emailCount := if normalizeEmailForSecurity email ≠ "" then emailCount + 1 else emailCount
  let ipCount := if trimSpace sec.ipAddress ≠ "" then ipCount + 1 else ipCount
  if emailCount ≥ cfg.maxFailedLogin ∨ ipCount ≥ cfg.maxFailedLogin then
    blockIP cfg sec.ipAddress "too_many_attempts"
    throw .tooManyAttempts

/-- The row, as the repository trims it. -/
def loginAttempt (tenantID userID email result reason : String) (sec : LoginSecurityContext) (createdAt : Time) :
    AuthLoginAttempt where
  tenantID := tenantID
  userID := trimSpace userID
  attemptedEmail := normalizeEmail (normalizeEmailForSecurity email)
  attemptedEmailHash := emailHash email
  ipAddress := trimSpace sec.ipAddress
  countryCode := toUpper (trimSpace sec.countryCode)
  countryName := trimSpace sec.countryName
  continentCode := toUpper (trimSpace sec.continentCode)
  userAgent := trimSpace sec.userAgent
  deviceID := trimSpace sec.deviceID
  deviceName := trimSpace sec.deviceName
  result := result
  reason := reason
  createdAt := createdAt

/-- An attempt that cannot be stored is logged. -/
def recordLoginAttempt (tenantID userID email result reason : String) (sec : LoginSecurityContext) : AuthCall Unit := do
  let now ← call .now
  orElse () (call (.createLoginAttempt (loginAttempt tenantID userID email result reason sec now)))

end Security

end ErgGo.Auth
