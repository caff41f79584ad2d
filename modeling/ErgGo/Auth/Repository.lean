import ErgGo.AccessControl.Permissions
import ErgGo.Auth.Pins
import ErgGo.Auth.Tokens

/-!
# The stores behind the auth service

The tables of the auth repository, Redis with its expiring keys, and the requests the
service sends to them. Every request but reading the clock and drawing a session id can fail.
-/

namespace ErgGo.Auth
open Go Documents Concurrent Lms Postgres AccessControl

inductive AuthError where
  | storeFailure
  | userNotFound
  | sessionNotFound
  | invalidToken
  | tokenReuseDetected
  | sessionReplaced
  | invalidCredentials
  | accountLocked
  | emailNotVerified
  | ipBlocked
  | geoBlocked
  | tooManyAttempts
  | wrap (context : String) (cause : AuthError)
  deriving DecidableEq

/-- A user with the names of the user's roles. -/
structure User extends Postgres.AuthUser where
  roles : List String

/-- The identity columns that repairing an account may set. -/
structure IdentityUpdates where
  status : Option String := none
  provider : Option String := none
  accountType : Option String := none
  fullName : Option String := none
  isProfileCompleted : Option Bool := none
  deriving DecidableEq

structure FailedLoginAttemptCountParams where
  tenantID : String
  emailHash : String := ""
  ip : String := ""
  since : Time := 0
  includeBlocked : Bool := false
  resetOnSuccess : Bool := false

inductive AuthRequest where
  | now
  | generateSessionID
  | sign (secret : String) (claims : JWTClaims)
  | findUserRecordByEmail (email tenantID : String)
  | findUserRecordByID (id : ObjectID)
  | loadUserRoleNames (userID : String)
  | updateUserIdentityFields (id : ObjectID) (updates : IdentityUpdates)
  | updateUserRoles (id : ObjectID) (roles : List String)
  | findSessionByID (sessionID tenantID : String)
  | createSession (session : AuthSession)
  | rotateSessionRefreshToken (sessionID tenantID currentHash nextHash : String) (expiresAt : Time)
  | revokeAllUserSessionsWithReason (userID : ObjectID) (tenantID reason : String)
  | createLoginAttempt (attempt : AuthLoginAttempt)
  | latestSuccessfulLoginAt (params : FailedLoginAttemptCountParams)
  | countLoginAttempts (params : FailedLoginAttemptCountParams) (lastSuccess : Option Time)
  | isFirewallRuleActive (ruleType entry : String)
  | listActiveFirewallRules (ruleType : String)
  | upsertFirewallRule (entry ruleType reason source : String) (expiresAt : Option Time) (createdAt : Time)
  | ac (q : ACRequest)
  | redisExists (key : String)
  | redisGet (key : String)
  | redisSet (key value : String) (ttl : Time)
  | redisIncr (key : String)
  | redisTTL (key : String)
  | redisExpire (key : String) (ttl : Time)
  | redisDel (keys : List String)

abbrev AuthResult : AuthRequest → Type
  | .now => Time
  | .generateSessionID => String
  | .sign .. => String
  | .findUserRecordByEmail .. => Postgres.AuthUser
  | .findUserRecordByID _ => Postgres.AuthUser
  | .loadUserRoleNames _ => List String
  | .updateUserIdentityFields .. => Unit
  | .updateUserRoles .. => Unit
  | .findSessionByID .. => AuthSession
  | .createSession _ => Unit
  | .rotateSessionRefreshToken .. => Unit
  | .revokeAllUserSessionsWithReason .. => Unit
  | .createLoginAttempt _ => Unit
  | .latestSuccessfulLoginAt _ => Option Time
  | .countLoginAttempts .. => ℤ
  | .isFirewallRuleActive .. => Bool
  | .listActiveFirewallRules _ => List FirewallRule
  | .upsertFirewallRule .. => Unit
  | .ac q => ACResult q
  | .redisExists _ => Bool
  | .redisGet _ => String
  | .redisSet .. => Unit
  | .redisIncr _ => ℤ
  | .redisTTL _ => Time
  | .redisExpire .. => Unit
  | .redisDel _ => Unit

abbrev AuthReply (q : AuthRequest) := Except AuthError (AuthResult q)

abbrev AuthCall := ExceptT AuthError (Program AuthRequest AuthReply)

def call (q : AuthRequest) : AuthCall (AuthResult q) := ExceptT.mk (.send q)

@[simp] lemma run_call (q : AuthRequest) : (call q).run = .send q := rfl

/-- What a request meets besides the store: the clock and fresh ids. -/
structure AuthEnv where
  now : Time
  sessionID : String := ""
  id : ObjectID := .nil

/-- The expiry is in milliseconds. -/
structure RedisEntry where
  value : String
  expiresAt : Option ℤ := none

structure AuthStore where
  db : Database
  redis : GoMap RedisEntry := ∅

namespace Redis

/-- The clock of Redis counts milliseconds. -/
def milli (t : Time) : ℤ := t / 1000000

/-- A key is there to the end of the millisecond in which it expires. -/
def unexpired (now : Time) (expiresAt : Option ℤ) : Bool := expiresAt.all (milli now ≤ ·)

/-- The entry of a key that has not expired. -/
def live (now : Time) (redis : GoMap RedisEntry) (key : String) : Option RedisEntry :=
  (redis.lookup key).filter (fun entry => unexpired now entry.expiresAt)

/-- The client sends whole milliseconds, at least one. A lifetime of zero or less means that the key does not
expire. -/
def expiry (now ttl : Time) : Option ℤ := if 0 < ttl then some (milli now + max 1 (ttl / 1000000)) else none

def put (redis : GoMap RedisEntry) (key value : String) (expiresAt : Option ℤ) : GoMap RedisEntry :=
  redis.insert key ⟨value, expiresAt⟩

def set (now : Time) (redis : GoMap RedisEntry) (key value : String) (ttl : Time) : GoMap RedisEntry :=
  put redis key value (expiry now ttl)

def del (redis : GoMap RedisEntry) (keys : List String) : GoMap RedisEntry :=
  keys.foldl (fun redis key => redis.erase key) redis

def incr (now : Time) (redis : GoMap RedisEntry) (key : String) : Except AuthError ℤ × GoMap RedisEntry :=
  match live now redis key with
  | none => (.ok 1, redis.insert key ⟨"1", none⟩)
  | some entry =>
    match entry.value.toInt? with
    | none => (.error .storeFailure, redis)
    | some n => (.ok (n + 1), redis.insert key { entry with value := toString (n + 1) })

/-- Redis answers in seconds, rounded to the nearest. -/
def ttl (now : Time) (redis : GoMap RedisEntry) (key : String) : Time :=
  match live now redis key with
  | none => -2
  | some entry => entry.expiresAt.elim (-1) (fun t => (t - milli now + 500) / 1000 * 1000000000)

/-- The client sends whole seconds, at least one; a lifetime of zero or less deletes the key. -/
def expire (now : Time) (redis : GoMap RedisEntry) (key : String) (ttl : Time) :
    Except AuthError Unit × GoMap RedisEntry :=
  match live now redis key with
  | none => (.error .storeFailure, redis)
  | some entry =>
    if ttl ≤ 0 then (.ok (), redis.erase key)
    else (.ok (), redis.insert key { entry with expiresAt := some (milli now + max 1 (ttl / 1000000000) * 1000) })

lemma live_put (t : Time) (redis : GoMap RedisEntry) (key value : String) (expiresAt : Option ℤ) :
    live t (put redis key value expiresAt) key = if unexpired t expiresAt then some ⟨value, expiresAt⟩ else none := by
  rw [live, put, AList.lookup_insert, Option.filter_some]

lemma live_put_of_ne (t : Time) (redis : GoMap RedisEntry) {key key' : String} (hne : key' ≠ key) (value : String)
    (expiresAt : Option ℤ) : live t (put redis key value expiresAt) key' = live t redis key' := by
  rw [live, put, AList.lookup_insert_ne hne, live]

lemma isSome_live_put (t : Time) (redis : GoMap RedisEntry) (key value : String) (expiresAt : Option ℤ) :
    (live t (put redis key value expiresAt) key).isSome = unexpired t expiresAt := by
  rw [live_put]
  cases unexpired t expiresAt <;> rfl

lemma live_del_singleton (t : Time) (redis : GoMap RedisEntry) (key : String) : live t (del redis [key]) key = none := by
  rw [live, del, List.foldl_cons, List.foldl_nil, AList.lookup_erase, Option.filter_none]

lemma live_del_of_ne (t : Time) (redis : GoMap RedisEntry) {key key' : String} (hne : key' ≠ key) :
    live t (del redis [key]) key' = live t redis key' := by
  rw [live, del, List.foldl_cons, List.foldl_nil, AList.lookup_erase_ne hne, live]

/-- Deleting keys adds nothing. -/
lemma live_of_live_del {t : Time} {redis : GoMap RedisEntry} {keys : List String} {key : String} {entry : RedisEntry}
    (h : live t (del redis keys) key = some entry) : live t redis key = some entry := by
  induction keys generalizing redis with
  | nil => exact h
  | cons key' keys ih =>
    have hrest : live t (redis.erase key') key = some entry := ih h
    by_cases hkey : key = key'
    · rw [live, hkey, AList.lookup_erase] at hrest
      cases hrest
    · rwa [live, AList.lookup_erase_ne hkey] at hrest

end Redis

section Tables

def findUserRecordByEmail [Library] (db : Database) (email tenantID : String) : Option Postgres.AuthUser :=
  db.users.rows.find? (fun user => user.tenantID = tenantID && user.email = normalizeEmail email && user.deletedAt.isNone)

def findUserRecordByID (db : Database) (id : ObjectID) : Option Postgres.AuthUser :=
  db.users.rows.find? (fun user => user.id = id && user.deletedAt.isNone)

/-- `ORDER BY roles.name ASC`. -/
def loadUserRoleNames (db : Database) (userID : String) : List String :=
  sortStrings ((roleNames db userID).filter (fun name => name ≠ ""))

def IdentityUpdates.apply (updates : IdentityUpdates) (now : Time) (user : Postgres.AuthUser) : Postgres.AuthUser :=
  { user with
    status := updates.status.getD user.status
    provider := updates.provider.getD user.provider
    accountType := updates.accountType.getD user.accountType
    fullName := updates.fullName.getD user.fullName
    isProfileCompleted := updates.isProfileCompleted.getD user.isProfileCompleted
    updatedAt := now }

/-- `UPDATE users SET … WHERE id = ?`. -/
def updateUser (users : Users) (now : Time) (id : ObjectID) (updates : IdentityUpdates) : Users :=
  let f := fun user : Postgres.AuthUser =>
    if user.id = id && user.deletedAt.isNone then updates.apply now user else user
  have hid : (users.rows.map f).map Postgres.AuthUser.id = users.rows.map Postgres.AuthUser.id := by
    rw [List.map_map]
    refine List.map_congr_left fun user _ => ?_
    by_cases huser : user.id = id && user.deletedAt.isNone
    · simp only [f, Function.comp_apply, if_pos huser, IdentityUpdates.apply]
    · simp only [f, Function.comp_apply, if_neg huser]
  have hemail : (users.rows.map f).map Postgres.AuthUser.email = users.rows.map Postgres.AuthUser.email := by
    rw [List.map_map]
    refine List.map_congr_left fun user _ => ?_
    by_cases huser : user.id = id && user.deletedAt.isNone
    · simp only [f, Function.comp_apply, if_pos huser, IdentityUpdates.apply]
    · simp only [f, Function.comp_apply, if_neg huser]
  ⟨users.rows.map f, hid ▸ users.id_nodup, hemail ▸ users.email_nodup⟩

def updateUserIdentityFields (db : Database) (now : Time) (id : ObjectID) (updates : IdentityUpdates) :
    Except AuthError Unit × Database :=
  if updates = {} then (.ok (), db)
  else if (findUserRecordByID db id).isNone then (.error .userNotFound, db)
  else (.ok (), { db with users := updateUser db.users now id updates })

def updateUserRoles (db : Database) (id : ObjectID) (roles : List String) : Except AuthError Unit × Database :=
  if (findUserRecordByID db id).isNone then (.error .userNotFound, db)
  else (.ok (), replaceUserRoles db id.hex roles)

/-- The session and hash are still the expected ones, and the session is active. -/
def rotatable (sessionID tenantID currentHash : String) (now : Time) (session : AuthSession) : Bool :=
  session.sessionID = sessionID && session.tenantID = tenantID && session.refreshTokenHash = currentHash &&
    session.revokedAt.isNone && session.expiresAt > now

def setRefreshToken (now : Time) (nextHash : String) (expiresAt : Time) : Update AuthSession.key :=
  ⟨fun session => { session with
    refreshTokenHash := nextHash
    expiresAt := expiresAt
    lastActiveAt := now
    updatedAt := now }, fun _ => rfl⟩

/-- A compare-and-swap of the stored hash. -/
def rotateSessionRefreshToken (db : Database) (now : Time) (sessionID tenantID currentHash nextHash : String)
    (expiresAt : Time) : Except AuthError Unit × Database :=
  if (db.sessions.find (rotatable sessionID tenantID currentHash now)).isNone then (.error .sessionNotFound, db)
  else (.ok (), { db with
    sessions := db.sessions.updateOne (rotatable sessionID tenantID currentHash now)
      (setRefreshToken now nextHash expiresAt) })

def revokable (userID : ObjectID) (tenantID : String) (session : AuthSession) : Bool :=
  session.userID = userID && session.revokedAt.isNone && (tenantID = "" || session.tenantID = tenantID)

def setRevoked (now : Time) (reason : String) : Update AuthSession.key :=
  ⟨fun session => { session with
    revokedAt := some now
    revokedReason := trimSpace reason
    updatedAt := now }, fun _ => rfl⟩

/-- The rows a count of failed attempts looks at, before their result. -/
def attemptMatches (params : FailedLoginAttemptCountParams) (attempt : AuthLoginAttempt) : Bool :=
  (params.tenantID = "" || attempt.tenantID = params.tenantID) &&
    (params.emailHash = "" || attempt.attemptedEmailHash = trimSpace params.emailHash) &&
    (params.ip = "" || attempt.ipAddress = trimSpace params.ip) &&
    (params.since = 0 || attempt.createdAt ≥ params.since)

def latestSuccessfulLoginAt (db : Database) (params : FailedLoginAttemptCountParams) : Option Time :=
  ((db.loginAttempts.filter (fun attempt => attempt.result = "success" && attemptMatches params attempt)).map
    AuthLoginAttempt.createdAt).max?

def countsAsFailed (params : FailedLoginAttemptCountParams) (lastSuccess : Option Time) (attempt : AuthLoginAttempt) : Bool :=
  attemptMatches params attempt && lastSuccess.all (fun t => attempt.createdAt > t) &&
    (attempt.result = "failed" || params.includeBlocked && attempt.result = "blocked")

/-- Postgres keeps and compares whole microseconds. -/
def activeFirewallRule (now : Time) (rule : FirewallRule) : Bool :=
  rule.active && rule.expiresAt.all (fun t => t / 1000 > now / 1000)

def upsertFirewallRule (db : Database) (now : Time) (rule : FirewallRule) : Except AuthError Unit × Database :=
  if rule.entry = "" ∨ rule.ruleType = "" then (.error .storeFailure, db)
  else (.ok (), { db with firewallRules := db.firewallRules.map (fun stored =>
    if stored.ruleType = rule.ruleType && stored.entry = rule.entry && stored.active then
      { stored with active := false, revokedAt := some now, updatedAt := now }
    else stored) ++ [rule] })

/-- The stores carry out one request at a time. -/
def carryOut [Library] [AuthLibrary] (env : AuthEnv) (q : AuthRequest) (s : AuthStore) : AuthReply q × AuthStore :=
  match q with
  | .now => (.ok env.now, s)
  | .generateSessionID => (.ok env.sessionID, s)
  | .sign secret claims => (.ok (AuthLibrary.sign secret claims), s)
  | .findUserRecordByEmail email tenantID =>
    ((findUserRecordByEmail s.db email tenantID).elim (.error .userNotFound) .ok, s)
  | .findUserRecordByID id => ((findUserRecordByID s.db id).elim (.error .userNotFound) .ok, s)
  | .loadUserRoleNames userID => (.ok (loadUserRoleNames s.db userID), s)
  | .updateUserIdentityFields id updates =>
    ((updateUserIdentityFields s.db env.now id updates).1,
      { s with db := (updateUserIdentityFields s.db env.now id updates).2 })
  | .updateUserRoles id roles => ((updateUserRoles s.db id roles).1, { s with db := (updateUserRoles s.db id roles).2 })
  | .findSessionByID sessionID tenantID =>
    ((s.db.sessions.lookup (sessionID, tenantID)).elim (.error .sessionNotFound) .ok, s)
  | .createSession session =>
    match s.db.sessions.insertOne
      { session with id := env.id, createdAt := env.now, lastActiveAt := env.now, updatedAt := env.now } with
    | some sessions => (.ok (), { s with db := { s.db with sessions := sessions } })
    | none => (.error .storeFailure, s)
  | .rotateSessionRefreshToken sessionID tenantID currentHash nextHash expiresAt =>
    ((rotateSessionRefreshToken s.db env.now sessionID tenantID currentHash nextHash expiresAt).1,
      { s with db := (rotateSessionRefreshToken s.db env.now sessionID tenantID currentHash nextHash expiresAt).2 })
  | .revokeAllUserSessionsWithReason userID tenantID reason =>
    (.ok (), { s with db := { s.db with
      sessions := s.db.sessions.updateMany (revokable userID tenantID) (setRevoked env.now reason) } })
  | .createLoginAttempt attempt =>
    (.ok (), { s with db := { s.db with loginAttempts := s.db.loginAttempts ++ [attempt] } })
  | .latestSuccessfulLoginAt params => (.ok (latestSuccessfulLoginAt s.db params), s)
  | .countLoginAttempts params lastSuccess =>
    (.ok (s.db.loginAttempts.countP (countsAsFailed params lastSuccess)), s)
  | .isFirewallRuleActive ruleType entry =>
    (.ok (s.db.firewallRules.any (fun rule =>
      activeFirewallRule env.now rule && rule.ruleType = trimSpace ruleType && rule.entry = trimSpace entry)), s)
  | .listActiveFirewallRules ruleType =>
    (.ok (Library.sortSlice (fun a b => a.createdAt > b.createdAt)
      (s.db.firewallRules.filter (fun rule => activeFirewallRule env.now rule && rule.ruleType = ruleType))), s)
  | .upsertFirewallRule entry ruleType reason source expiresAt createdAt =>
    let rule : FirewallRule :=
      { entry := trimSpace entry, ruleType := trimSpace ruleType, reason := trimSpace reason,
        source := trimSpace source, expiresAt := expiresAt, createdAt := createdAt, updatedAt := createdAt }
    ((upsertFirewallRule s.db env.now rule).1, { s with db := (upsertFirewallRule s.db env.now rule).2 })
  | .ac q =>
    ((AccessControl.exec env.now q s.db).1.mapError (fun _ => .storeFailure),
      { s with db := (AccessControl.exec env.now q s.db).2 })
  | .redisExists key => (.ok (Redis.live env.now s.redis key).isSome, s)
  | .redisGet key => (.ok ((Redis.live env.now s.redis key).elim "" RedisEntry.value), s)
  | .redisSet key value ttl => (.ok (), { s with redis := Redis.set env.now s.redis key value ttl })
  | .redisIncr key => ((Redis.incr env.now s.redis key).1, { s with redis := (Redis.incr env.now s.redis key).2 })
  | .redisTTL key => (.ok (Redis.ttl env.now s.redis key), s)
  | .redisExpire key ttl =>
    ((Redis.expire env.now s.redis key ttl).1, { s with redis := (Redis.expire env.now s.redis key ttl).2 })
  | .redisDel keys => (.ok (), { s with redis := Redis.del s.redis keys })

end Tables

/-- The clock and the random source do not fail. -/
def fallible : AuthRequest → Bool
  | .now => false
  | .generateSessionID => false
  | .ac .now => false
  | _ => true

/-- Any other request can be lost, or its reply. -/
def exec [Library] [AuthLibrary] (env : AuthEnv × Fault) (q : AuthRequest) (s : AuthStore) : AuthReply q × AuthStore :=
  if fallible q then withFaults .storeFailure carryOut env q s else carryOut env.1 q s

section Exec

variable [Library] [AuthLibrary] {env : AuthEnv × Fault} {q : AuthRequest} {s : AuthStore}

variable (env q s) in
/-- A request takes effect or it does not. -/
lemma exec_store : (exec env q s).2 = s ∨ (exec env q s).2 = (carryOut env.1 q s).2 := by
  unfold exec
  split
  · obtain ⟨hlost, -⟩ | ⟨hdone, -⟩ := withFaults_store .storeFailure carryOut env q s
    · exact .inl hlost
    · exact .inr hdone
  · exact .inr rfl

lemma exec_ok {r : AuthResult q} (h : (exec env q s).1 = .ok r) :
    (carryOut env.1 q s).1 = .ok r ∧ (exec env q s).2 = (carryOut env.1 q s).2 := by
  unfold exec at h ⊢
  split
  · next hfallible =>
    rw [if_pos hfallible] at h
    exact withFaults_ok h
  · next hfallible =>
    rw [if_neg hfallible] at h
    exact ⟨h, rfl⟩

end Exec

end ErgGo.Auth
