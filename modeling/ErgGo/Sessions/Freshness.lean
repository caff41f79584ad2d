import ErgGo.Sessions.CurrentSession

/-!
# Freshness of session contexts

A context is fresh when its session is usable, belongs to the user, and the user is active
and has exactly its permissions. A cached context is fresh as long as nothing it depends on
changes while it is cached, and as long as it is asked for by the tenant of its user.
-/

namespace ErgGo.Sessions
open Go Documents Concurrent Program Lms Postgres Auth

/-! ## The calls of the other modules -/

inductive SessionOperation where
  | createSession (session : AuthSession)
  | logout (sessionID userID : String)
  | revokeUserSession (userID : ObjectID) (sessionID tenantID reason : String)
  | revokeAllUserSessions (userID : ObjectID) (tenantID reason : String)
  | replaceLoginSessions (userID : ObjectID) (tenantID keepSessionID : String)
  | updateSessionLastActive (tenantID sessionID : String)
  | updateUserStatus (email tenantID status : String)
  /-- Any change of roles and permissions: the access control tables get new contents. -/
  | updateAccessControl (roles : Roles) (permissions : Collection ACPermission.id) (userRoles : List UserRole)
      (rolePermissions : List RolePermission) (overrides : List ACUserPermissionOverride)
  | evict (key : String)
  | getCurrentSession (tenantID userID sessionID ipAddress : String)

def tenantOrDefault (cfg : AuthConfig) : String := if cfg.defaultTenantID ≠ "" then cfg.defaultTenantID else "default"

/-- The rows that a revocation of one session takes. -/
def isSession (sessionID tenantID : String) (session : AuthSession) : Bool :=
  session.sessionID = sessionID && session.tenantID = tenantID

def usable (now : Time) (session : AuthSession) : Bool := session.revokedAt.isNone && session.expiresAt > now

/-- The sessions of the user that a new login replaces. -/
def replaceable (userID : ObjectID) (tenantID keepSessionID : String) (now : Time) (session : AuthSession) : Bool :=
  session.userID = userID && (tenantID = "" || session.tenantID = tenantID) && usable now session &&
    (trimSpace keepSessionID = "" || session.sessionID ≠ trimSpace keepSessionID)

def setLoggedOut (now : Time) : Update AuthSession.key :=
  ⟨fun session => { session with revokedAt := some now, revokedReason := "logout", lastActiveAt := now, updatedAt := now },
    fun _ => rfl⟩

def touch (now : Time) : Update AuthSession.key :=
  ⟨fun session => { session with lastActiveAt := now, updatedAt := now }, fun _ => rfl⟩

section Operations

variable [Library]

def Repository.updateUserStatus (db : Database) (now : Time) (email tenantID status : String) : Database :=
  match db.users.rows.find? (fun user => user.tenantID = tenantID && user.email = normalizeEmail email && user.deletedAt.isNone) with
  | none => db
  | some user => { db with users := updateUser db.users now user.id { status := some status } }

def Repository.updateSessions (db : Database) (p : AuthSession → Bool) (u : Update AuthSession.key) : Database :=
  { db with sessions := db.sessions.updateMany p u }

def Repository.createSession (db : Database) (now : Time) (session : AuthSession) : Database :=
  match db.sessions.insertOne { session with createdAt := now, lastActiveAt := now, updatedAt := now } with
  | none => db
  | some sessions => { db with sessions := sessions }

/-- What a call makes of the database. -/
def SessionOperation.change (cfg : AuthConfig) (now : Time) (db : Database) : SessionOperation → Database
  | .createSession session => Repository.createSession db now session
  | .logout sessionID _ => Repository.updateSessions db (isSession sessionID (tenantOrDefault cfg)) (setLoggedOut now)
  | .revokeUserSession userID sessionID tenantID reason =>
    Repository.updateSessions db (fun session => session.userID = userID && isSession sessionID tenantID session) (setRevoked now reason)
  | .revokeAllUserSessions userID tenantID reason => Repository.updateSessions db (revokable userID tenantID) (setRevoked now reason)
  | .replaceLoginSessions userID tenantID keepSessionID =>
    Repository.updateSessions db (replaceable userID tenantID keepSessionID now) (setRevoked now "replaced_by_new_login")
  | .updateSessionLastActive tenantID sessionID =>
    Repository.updateSessions db (fun session => isSession sessionID tenantID session && usable now session) (touch now)
  | .updateUserStatus email tenantID status => Repository.updateUserStatus db now email tenantID status
  | .updateAccessControl roles permissions userRoles rolePermissions overrides =>
    { db with roles := roles, permissions := permissions, userRoles := userRoles, rolePermissions := rolePermissions,
              overrides := overrides }
  | .evict _ => db
  | .getCurrentSession .. => db

/-- The keys that a call removes from Redis. -/
def SessionOperation.dropped (cfg : AuthConfig) (now : Time) (db : Database) : SessionOperation → List String
  | .logout sessionID userID =>
    if (db.sessions.find (isSession sessionID (tenantOrDefault cfg))).isSome then
      ["auth_session_active:" ++ userID ++ ":" ++ sessionID, sessionCtxCacheKey userID sessionID]
    else []
  | .replaceLoginSessions userID tenantID keepSessionID =>
    let sessions := db.sessions.docs.filter (fun session =>
      session.userID = userID && session.tenantID = tenantID && usable now session)
    let sessionIDs := (sessions.map AuthSession.sessionID).filter (fun id => trimSpace id ≠ trimSpace keepSessionID)
    ((sessionIDs.map trimSpace).filter (fun id => id ≠ "")).flatMap (fun id =>
      ["auth_session_active:" ++ userID.hex ++ ":" ++ id, sessionCtxCacheKey userID.hex id])
  | .evict key => [key]
  | _ => []

/-- The stores and the time of the last call. -/
structure Moment where
  now : Time
  store : AuthStore

variable [SessionLibrary] (cfg : AuthConfig)

def step (m : Moment) (call : Time × SessionOperation) : Moment :=
  match call.2 with
  | .getCurrentSession tenantID userID sessionID ipAddress =>
    ⟨call.1, (getCurrentSession cfg call.1 tenantID userID sessionID ipAddress m.store).2⟩
  | op => ⟨call.1, op.change cfg call.1 m.store.db, Redis.del m.store.redis (op.dropped cfg call.1 m.store.db)⟩

end Operations

/-! ## Freshness -/

section Freshness

variable [Library] (cfg : AuthConfig)

/-- The permissions in a usable session of an active user. -/
def current (t : Time) (db : Database) (tenantID userID sessionID : String) : Option (List String) :=
  match Repository.getUserByID db tenantID userID, Repository.getSessionByID db t tenantID sessionID with
  | some user, some session =>
    if user.status = "ACTIVE" ∧ session.userID = user.id then (resolvePermissions cfg t db user).toOption else none
  | _, _ => none

/-- The context names the user and the session and has the current permissions. -/
structure Fresh (t : Time) (db : Database) (tenantID userID sessionID : String) (resp : SessionContextResponse) : Prop where
  user : resp.user.id = userID
  session : resp.session.id = sessionID
  permissions : current cfg t db tenantID userID sessionID = some resp.accessControl.permissions

/-- The user with the id is of the tenant. -/
def TenantOf (db : Database) (userID tenantID : String) : Prop :=
  ∃ user ∈ db.users.rows, user.id.hex = userID ∧ user.tenantID = tenantID ∧ user.deletedAt.isNone

/-- The session, if it is usable, is the user's. -/
def Owned (t : Time) (db : Database) (tenantID userID sessionID : String) : Prop :=
  ∀ session, Repository.getSessionByID db t tenantID sessionID = some session → session.userID.hex = userID

variable [SessionLibrary]

/-- Every context stays fresh as long as it is cached. -/
def CacheFresh (m : Moment) : Prop :=
  ∀ t ≥ m.now, ∀ tenantID userID sessionID entry, TenantOf m.store.db userID tenantID →
    Redis.live t m.store.redis (sessionCtxCacheKey userID sessionID) = some entry →
      ∃ resp, SessionLibrary.unmarshal entry.value = some resp ∧ Fresh cfg t m.store.db tenantID userID sessionID resp

/-- What a call may do without making a cached context stale. -/
def Condition (m : Moment) (call : Time × SessionOperation) : Prop :=
  m.now ≤ call.1 ∧ match call.2 with
    | .getCurrentSession tenantID userID sessionID _ =>
      if (cachedContext cfg call.1 m.store.redis userID sessionID).isSome then TenantOf m.store.db userID tenantID
      else Owned call.1 m.store.db tenantID userID sessionID ∧
        -- Nothing the context depends on ends while it is cached.
        (cfg.redis → ∀ t, call.1 ≤ t → Redis.unexpired t (Redis.expiry call.1 sessionCtxCacheTTL) →
          current cfg t m.store.db tenantID userID sessionID = current cfg call.1 m.store.db tenantID userID sessionID)
    | op => ∀ t ≥ call.1, ∀ tenantID userID sessionID, TenantOf m.store.db userID tenantID →
      -- The context stays cached.
      (Redis.live t (Redis.del m.store.redis (op.dropped cfg call.1 m.store.db)) (sessionCtxCacheKey userID sessionID)).isSome →
        current cfg t (op.change cfg call.1 m.store.db) tenantID userID sessionID =
          current cfg t m.store.db tenantID userID sessionID

end Freshness

/-! ## What a call returns -/

section Build

variable {cfg : AuthConfig} {now : Time} {db : Database} {tenantID userID sessionID ipAddress : String}

lemma getUserByID_eq_some {user : Postgres.AuthUser} (h : Repository.getUserByID db tenantID userID = some user) :
    user ∈ db.users.rows ∧ user.id.hex = userID ∧ user.tenantID = tenantID ∧ user.deletedAt.isNone := by
  have huser := List.find?_some h
  simp only [Bool.and_eq_true, decide_eq_true_eq] at huser
  exact ⟨List.mem_of_find?_eq_some h, huser.1.1, huser.1.2, huser.2⟩

lemma getSessionByID_eq_some {session : AuthSession} (h : Repository.getSessionByID db now tenantID sessionID = some session) :
    session.sessionID = sessionID := by
  have hsession := List.find?_some h
  simp only [Bool.and_eq_true, decide_eq_true_eq] at hsession
  exact hsession.1.1.1

lemma validateUserStatus_ok {status : String} (h : validateUserStatus status = .ok ()) : status = "ACTIVE" := by
  unfold validateUserStatus at h
  split at h
  · assumption
  · repeat' split at h
    all_goals cases h

variable [Library] [SessionLibrary]

lemma buildContext_ok {resp : SessionContextResponse}
    (h : buildContext cfg now db tenantID userID sessionID ipAddress = .ok resp) :
    ∃ user session, Repository.getUserByID db tenantID userID = some user ∧
      Repository.getSessionByID db now tenantID sessionID = some session ∧ user.status = "ACTIVE" ∧
      resolvePermissions cfg now db user = .ok resp.accessControl.permissions ∧ resp.user.id = user.id.hex ∧
      resp.session.id = session.sessionID := by
  unfold buildContext at h
  cases huser : Repository.getUserByID db tenantID userID with
  | none =>
    rw [huser] at h
    cases h
  | some user =>
    cases hsession : Repository.getSessionByID db now tenantID sessionID with
    | none =>
      rw [huser, hsession] at h
      cases h
    | some session =>
      rw [huser, hsession] at h
      dsimp only at h
      cases hstatus : validateUserStatus user.status with
      | error err =>
        rw [hstatus] at h
        cases h
      | ok _ =>
        cases hpermissions : resolvePermissions cfg now db user with
        | error err =>
          rw [hstatus, hpermissions] at h
          cases h
        | ok permissions =>
          rw [hstatus, hpermissions] at h
          cases h
          exact ⟨user, session, rfl, rfl, validateUserStatus_ok hstatus, hpermissions, rfl, rfl⟩

/-- A context built for the owner of the session is fresh. -/
lemma fresh_of_buildContext {resp : SessionContextResponse} (howned : Owned now db tenantID userID sessionID)
    (h : buildContext cfg now db tenantID userID sessionID ipAddress = .ok resp) :
    Fresh cfg now db tenantID userID sessionID resp ∧ TenantOf db userID tenantID := by
  obtain ⟨user, session, huser, hsession, hstatus, hpermissions, hid, hsid⟩ := buildContext_ok h
  obtain ⟨hmem, hhex, htenant, hundeleted⟩ := getUserByID_eq_some huser
  have howner : session.userID = user.id := ObjectID.hex_injective ((howned session hsession).trans hhex.symm)
  refine ⟨⟨hid.trans hhex, hsid.trans (getSessionByID_eq_some hsession), ?_⟩, user, hmem, hhex, htenant, hundeleted⟩
  unfold current
  rw [huser, hsession]
  dsimp only
  rw [if_pos ⟨hstatus, howner⟩, hpermissions]
  rfl

variable (cfg now tenantID userID sessionID ipAddress) in
/-- A call answers from the cache, or it fails, or it builds the context and caches it. -/
lemma getCurrentSession_cases (s : AuthStore) :
    (∃ resp, cachedContext cfg now s.redis userID sessionID = some resp ∧
      getCurrentSession cfg now tenantID userID sessionID ipAddress s = (.ok resp, s)) ∨
    cachedContext cfg now s.redis userID sessionID = none ∧
      ((∃ err, getCurrentSession cfg now tenantID userID sessionID ipAddress s = (.error err, s)) ∨
        ∃ resp, buildContext cfg now s.db tenantID userID sessionID ipAddress = .ok resp ∧
          (getCurrentSession cfg now tenantID userID sessionID ipAddress s).1 = .ok resp ∧
          (getCurrentSession cfg now tenantID userID sessionID ipAddress s).2 = if cfg.redis then
            ⟨s.db, Redis.set now s.redis (sessionCtxCacheKey userID sessionID) (SessionLibrary.marshal resp) sessionCtxCacheTTL⟩
          else s) := by
  unfold getCurrentSession
  cases hcached : cachedContext cfg now s.redis userID sessionID with
  | some resp => exact .inl ⟨resp, rfl, rfl⟩
  | none =>
    refine .inr ⟨rfl, ?_⟩
    cases hbuild : buildContext cfg now s.db tenantID userID sessionID ipAddress with
    | error err => exact .inl ⟨err, rfl⟩
    | ok resp =>
      refine .inr ⟨resp, rfl, ?_⟩
      cases cfg.redis with
      | false => exact ⟨rfl, rfl⟩
      | true => exact ⟨rfl, rfl⟩

omit [Library] in
lemma cachedContext_eq_some {redis : GoMap RedisEntry} {resp : SessionContextResponse}
    (h : cachedContext cfg now redis userID sessionID = some resp) :
    ∃ entry, Redis.live now redis (sessionCtxCacheKey userID sessionID) = some entry ∧
      SessionLibrary.unmarshal entry.value = some resp := by
  unfold cachedContext at h
  dsimp only at h
  split at h
  · cases h
  · next hcached =>
    cases hlive : Redis.live now redis (sessionCtxCacheKey userID sessionID) with
    | none =>
      rw [hlive] at hcached
      simp at hcached
    | some entry =>
      rw [hlive] at h
      exact ⟨entry, rfl, h⟩

end Build

/-! ## Runs -/

section Runs

variable [Library] {cfg : AuthConfig}

omit [Library] in
lemma sessionCtxCacheKey_injective {id id' : ObjectID} {sessionID sessionID' : String}
    (h : sessionCtxCacheKey id.hex sessionID = sessionCtxCacheKey id'.hex sessionID') : id = id' ∧ sessionID = sessionID' := by
  have hlist := congrArg String.toList h
  simp only [sessionCtxCacheKey, String.toList_append, List.append_assoc, List.append_cancel_left_eq] at hlist
  have hlength : id.hex.toList.length = id'.hex.toList.length := by
    simp [ObjectID.hex, id.length_digits, id'.length_digits]
  obtain ⟨hid, hrest⟩ := List.append_inj hlist hlength
  rw [List.append_cancel_left_eq] at hrest
  exact ⟨ObjectID.hex_injective (String.toList_inj.mp hid), String.toList_inj.mp hrest⟩

omit [Library] in
lemma tenantOf_unique {db : Database} {userID tenantID tenantID' : String} (h : TenantOf db userID tenantID)
    (h' : TenantOf db userID tenantID') : tenantID = tenantID' := by
  obtain ⟨user, huser, hid, rfl, -⟩ := h
  obtain ⟨user', huser', hid', rfl, -⟩ := h'
  have hsame := List.inj_on_of_nodup_map db.users.id_nodup huser huser' (ObjectID.hex_injective (hid.trans hid'.symm))
  rw [hsame]

/-- No call moves a user to another tenant. -/
lemma tenantOf_of_change {now : Time} {db : Database} {op : SessionOperation} {userID tenantID : String}
    (h : TenantOf (op.change cfg now db) userID tenantID) : TenantOf db userID tenantID := by
  cases op with
  | updateUserStatus email tenantID' status =>
    simp only [SessionOperation.change, Repository.updateUserStatus] at h
    split at h
    · exact h
    · obtain ⟨user, huser, hid, htenant, hundeleted⟩ := h
      obtain ⟨before, hbefore, rfl⟩ := List.mem_map.mp huser
      refine ⟨before, hbefore, ?_⟩
      split at hid
      · next hupdated =>
        rw [if_pos hupdated] at htenant hundeleted
        exact ⟨hid, htenant, hundeleted⟩
      · next hkept =>
        rw [if_neg hkept] at htenant hundeleted
        exact ⟨hid, htenant, hundeleted⟩
  | createSession session =>
    simp only [SessionOperation.change, Repository.createSession] at h
    split at h <;> exact h
  | _ => exact h

variable [SessionLibrary]

lemma cacheFresh_change {m : Moment} (h : CacheFresh cfg m) {now : Time} (hle : m.now ≤ now) {op : SessionOperation}
    (hop : ∀ t ≥ now, ∀ tenantID userID sessionID, TenantOf m.store.db userID tenantID →
      (Redis.live t (Redis.del m.store.redis (op.dropped cfg now m.store.db)) (sessionCtxCacheKey userID sessionID)).isSome →
        current cfg t (op.change cfg now m.store.db) tenantID userID sessionID =
          current cfg t m.store.db tenantID userID sessionID) :
    CacheFresh cfg ⟨now, op.change cfg now m.store.db, Redis.del m.store.redis (op.dropped cfg now m.store.db)⟩ := by
  intro t ht tenantID userID sessionID entry htenant hentry
  have htenant' := tenantOf_of_change htenant
  obtain ⟨resp, hvalue, hfresh⟩ := h t (hle.trans ht) tenantID userID sessionID entry htenant' (Redis.live_of_live_del hentry)
  refine ⟨resp, hvalue, hfresh.user, hfresh.session, ?_⟩
  rw [hop t ht tenantID userID sessionID htenant' (Option.isSome_of_eq_some hentry)]
  exact hfresh.permissions

lemma cacheFresh_set {m : Moment} (h : CacheFresh cfg m) {now : Time} (hle : m.now ≤ now)
    {tenantID userID sessionID : String} {resp : SessionContextResponse} (htenant : TenantOf m.store.db userID tenantID)
    (hfresh : Fresh cfg now m.store.db tenantID userID sessionID resp)
    (hstable : ∀ t, now ≤ t → Redis.unexpired t (Redis.expiry now sessionCtxCacheTTL) →
      current cfg t m.store.db tenantID userID sessionID = current cfg now m.store.db tenantID userID sessionID) :
    CacheFresh cfg ⟨now, m.store.db, Redis.set now m.store.redis (sessionCtxCacheKey userID sessionID)
      (SessionLibrary.marshal resp) sessionCtxCacheTTL⟩ := by
  intro t ht tenantID' userID' sessionID' entry htenant' hentry
  by_cases hkey : sessionCtxCacheKey userID' sessionID' = sessionCtxCacheKey userID sessionID
  · obtain ⟨user, -, rfl, -⟩ := id htenant
    obtain ⟨user', -, rfl, -⟩ := id htenant'
    obtain ⟨hid, rfl⟩ := sessionCtxCacheKey_injective hkey
    rw [hid] at htenant' hentry ⊢
    obtain rfl := tenantOf_unique htenant htenant'
    rw [Redis.set, Redis.live_put, Option.ite_none_right_eq_some] at hentry
    obtain ⟨hlive, hentry⟩ := hentry
    obtain rfl := Option.some.inj hentry
    refine ⟨resp, SessionLibrary.unmarshal_marshal resp, hfresh.user, hfresh.session, ?_⟩
    rw [hstable t ht hlive]
    exact hfresh.permissions
  · rw [Redis.set, Redis.live_put_of_ne _ _ hkey] at hentry
    exact h t (hle.trans ht) tenantID' userID' sessionID' entry htenant' hentry

lemma cacheFresh_later {m : Moment} (h : CacheFresh cfg m) {now : Time} (hle : m.now ≤ now) : CacheFresh cfg ⟨now, m.store⟩ :=
  fun t ht => h t (hle.trans ht)

lemma cacheFresh_step {m : Moment} {call : Time × SessionOperation} (h : CacheFresh cfg m) (hcall : Condition cfg m call) :
    CacheFresh cfg (step cfg m call) := by
  obtain ⟨now, op⟩ := call
  obtain ⟨hle, hop⟩ := hcall
  cases op with
  | getCurrentSession tenantID userID sessionID ipAddress =>
    unfold step
    obtain ⟨resp, -, hcall⟩ | ⟨hmiss, ⟨err, hcall⟩ | ⟨resp, hbuild, -, hstore⟩⟩ :=
      getCurrentSession_cases cfg now tenantID userID sessionID ipAddress m.store
    · dsimp only
      rw [hcall]
      exact cacheFresh_later h hle
    · dsimp only
      rw [hcall]
      exact cacheFresh_later h hle
    · dsimp only at hop ⊢
      rw [hmiss, Option.isSome_none, if_neg Bool.false_ne_true] at hop
      obtain ⟨hfresh, htenant⟩ := fresh_of_buildContext hop.1 hbuild
      rw [hstore]
      split
      · next hredis => exact cacheFresh_set h hle htenant hfresh (hop.2 hredis)
      · exact cacheFresh_later h hle
  | _ => exact cacheFresh_change h hle hop

/-- What the claim asks of an answer. -/
def AnswersFresh (cfg : AuthConfig) (m : Moment) (call : Time × SessionOperation) : Prop :=
  ∀ tenantID userID sessionID ipAddress resp, call.2 = .getCurrentSession tenantID userID sessionID ipAddress →
    (getCurrentSession cfg call.1 tenantID userID sessionID ipAddress m.store).1 = .ok resp →
      Fresh cfg call.1 m.store.db tenantID userID sessionID resp

lemma answersFresh {m : Moment} {call : Time × SessionOperation} (h : CacheFresh cfg m) (hcall : Condition cfg m call) :
    AnswersFresh cfg m call := by
  obtain ⟨now, op⟩ := call
  rintro tenantID userID sessionID ipAddress resp rfl hanswer
  obtain ⟨hle, hop⟩ := hcall
  dsimp only at hop hanswer ⊢
  obtain ⟨resp', hcached, hcall⟩ | ⟨hmiss, ⟨err, hcall⟩ | ⟨resp', hbuild, hcall, -⟩⟩ :=
    getCurrentSession_cases cfg now tenantID userID sessionID ipAddress m.store
  · rw [hcall] at hanswer
    cases hanswer
    rw [hcached, Option.isSome_some, if_pos rfl] at hop
    obtain ⟨entry, hentry, hvalue⟩ := cachedContext_eq_some hcached
    obtain ⟨resp', hvalue', hfresh⟩ := h now hle tenantID userID sessionID entry hop hentry
    cases hvalue.symm.trans hvalue'
    exact hfresh
  · rw [hcall] at hanswer
    cases hanswer
  · rw [hcall] at hanswer
    cases hanswer
    rw [hmiss, Option.isSome_none, if_neg Bool.false_ne_true] at hop
    exact (fresh_of_buildContext hop.1 hbuild).1

/-- In every run whose calls meet the condition, every answer is fresh. -/
theorem answersFresh_run {m : Moment} (h : CacheFresh cfg m) {calls : List (Time × SessionOperation)}
    (hcalls : Runs.Throughout (step cfg) (Condition cfg) m calls) :
    Runs.Throughout (step cfg) (AnswersFresh cfg) m calls :=
  Runs.Throughout.of_invariant (I := CacheFresh cfg) (fun _ _ => cacheFresh_step) (fun _ _ => answersFresh) h hcalls

end Runs

/-! ## Examples -/

namespace PlainContext
open PlainToken

def fields (r : SessionContextResponse) : List (List (List Char)) :=
  [[r.user.id.toList, r.user.email.toList, r.user.fullName.toList, r.user.avatarURL.toList, r.user.status.toList,
    r.user.provider.toList, r.user.accountType.toList, r.user.lastLoginProvider.toList,
    if r.user.isProfileCompleted then ['y'] else [], r.session.id.toList, r.session.ipAddress.toList,
    r.session.lastActiveAt.toList, r.session.expiresAt.toList, r.system.serverTime.toList, r.system.version.toList],
    r.accessControl.roles.map String.toList, r.accessControl.permissions.map String.toList]

def marshal (r : SessionContextResponse) : String := String.ofList (encodeLists (fields r) ++ [';'])

def unmarshal (s : String) : Option SessionContextResponse :=
  match (decode s.toList).2.2 with
  | [[id, email, fullName, avatarURL, status, provider, accountType, lastLoginProvider, completed, sessionID, ipAddress,
      lastActiveAt, expiresAt, serverTime, version], roles, permissions, []] =>
    some {
      user :=
        { id := String.ofList id, email := String.ofList email, fullName := String.ofList fullName,
          avatarURL := String.ofList avatarURL, status := String.ofList status, provider := String.ofList provider,
          accountType := String.ofList accountType, lastLoginProvider := String.ofList lastLoginProvider,
          isProfileCompleted := !completed.isEmpty }
      accessControl := { roles := roles.map String.ofList, permissions := permissions.map String.ofList }
      session :=
        { id := String.ofList sessionID, ipAddress := String.ofList ipAddress,
          lastActiveAt := String.ofList lastActiveAt, expiresAt := String.ofList expiresAt }
      system := { serverTime := String.ofList serverTime, version := String.ofList version } }
  | _ => none

lemma unmarshal_marshal (r : SessionContextResponse) : unmarshal (marshal r) = some r := by
  have hdecode : (decode (marshal r).toList).2.2 = fields r ++ [[]] := by
    rw [marshal, String.toList_ofList, decode_encodeLists]
  have hmap : ∀ l : List String, (l.map String.toList).map String.ofList = l := by
    intro l
    rw [List.map_map]
    simp
  have hcompleted : (!(if r.user.isProfileCompleted then ['y'] else []).isEmpty) = r.user.isProfileCompleted := by
    cases r.user.isProfileCompleted <;> rfl
  unfold unmarshal
  rw [hdecode]
  simp only [fields, List.cons_append, List.nil_append, String.ofList_toList, hmap, hcompleted]

lemma marshal_ne_empty (r : SessionContextResponse) : marshal r ≠ "" := by
  intro h
  have hlist := congrArg String.toList h
  rw [marshal, String.toList_ofList] at hlist
  simp at hlist

end PlainContext

namespace Sample

@[reducible] def plainSessions : SessionLibrary where
  formatTime _ := ""
  marshal := PlainContext.marshal
  unmarshal := PlainContext.unmarshal
  unmarshal_marshal := PlainContext.unmarshal_marshal
  marshal_ne_empty := PlainContext.marshal_ne_empty

def cfg : AuthConfig := { jwtSecret := "", jwtRefreshSecret := "", accessTokenTTL := 0, refreshTokenTTL := 0, accessControl := false }

def user : Postgres.AuthUser :=
  { id := Lms.Sample.id 1, tenantID := "erg", email := "a@erg.vn", passwordHash := "", status := "ACTIVE" }

def other : Postgres.AuthUser :=
  { id := Lms.Sample.id 2, tenantID := "erg", email := "b@erg.vn", passwordHash := "", status := "ACTIVE" }

/-- A session that outlasts its cached context. -/
def session (id : ObjectID) (user : Postgres.AuthUser) (sessionID : String) : AuthSession :=
  { id := id, userID := user.id, sessionID := sessionID, refreshTokenHash := "", tenantID := "erg", expiresAt := 10000000000000 }

def db : Database := { Database.empty with
  users := ⟨[user, other], by decide, by decide⟩
  sessions := ⟨[session (Lms.Sample.id 3) user "s1", session (Lms.Sample.id 4) other "s2"], by decide⟩ }

def moment : Moment := ⟨0, db, ∅⟩

lemma cacheFresh [Library] [SessionLibrary] : CacheFresh cfg moment := by
  intro t _ tenantID userID sessionID entry _ hentry
  cases hentry

/-- Asked for once, and dropped from the cache. -/
def dropped : List (Time × SessionOperation) :=
  [(0, .getCurrentSession "erg" user.id.hex "s1" ""), (1, .evict (sessionCtxCacheKey user.id.hex "s1"))]

/-- Revoked by its user after it was asked for, and asked for again. -/
def revoked : List (Time × SessionOperation) :=
  [(0, .getCurrentSession "erg" user.id.hex "s1" ""), (1, .revokeUserSession user.id "s1" "erg" "logout"),
    (2, .getCurrentSession "erg" user.id.hex "s1" "")]

/-- The session of another user. -/
def foreign : List (Time × SessionOperation) := [(0, .getCurrentSession "erg" user.id.hex "s2" "")]

lemma getSessionByID_eq {t : Time} (ht : t < 10000000000000) : Repository.getSessionByID db t "erg" "s1" =
    some (session (Lms.Sample.id 3) user "s1") := by
  unfold Repository.getSessionByID Collection.find db
  rw [List.find?_cons_of_pos]
  simp [session, ht]

lemma current_eq [Library] {t : Time} (ht : t < 10000000000000) :
    current cfg t db "erg" user.id.hex "s1" = some [] := by
  have huser : Repository.getUserByID db "erg" user.id.hex = some user := by rfl
  unfold current
  rw [getSessionByID_eq ht, huser]
  rfl

end Sample

theorem answersFresh_sample :
    letI := asciiLibrary
    letI := Sample.plainSessions
    Runs.Throughout (step Sample.cfg) (AnswersFresh Sample.cfg) Sample.moment Sample.dropped := by
  let := asciiLibrary
  let := Sample.plainSessions
  refine answersFresh_run Sample.cacheFresh ⟨⟨le_rfl, ⟨?_, ?_⟩⟩, ⟨by decide, ?_⟩, trivial⟩
  · intro session hsession
    cases (Sample.getSessionByID_eq (by decide)).symm.trans hsession
    rfl
  · intro _ t _ ht
    have hcached : t / 1000000 ≤ (900000 : ℤ) := of_decide_eq_true ht
    have hbefore : t < 10000000000000 := by
      by_contra hafter
      have hlate : 10000000000000 / 1000000 ≤ t / 1000000 := Int.ediv_le_ediv (by decide) (not_lt.mp hafter)
      exact absurd (hlate.trans hcached) (by decide)
    exact (Sample.current_eq hbefore).trans (Sample.current_eq (by decide)).symm
  · exact fun _ _ _ _ _ _ _ => rfl

/-- A revoked session is still answered from the cache, and the session of another user is
answered from the database. -/
theorem stale_contexts :
    letI := asciiLibrary
    letI := Sample.plainSessions
    CacheFresh Sample.cfg Sample.moment ∧
      ¬Runs.Throughout (step Sample.cfg) (AnswersFresh Sample.cfg) Sample.moment Sample.revoked ∧
      ¬Runs.Throughout (step Sample.cfg) (AnswersFresh Sample.cfg) Sample.moment Sample.foreign := by
  let := asciiLibrary
  let := Sample.plainSessions
  have hstale {m : Moment} {now : Time} {tenantID userID sessionID ipAddress : String}
      (hanswer : (getCurrentSession Sample.cfg now tenantID userID sessionID ipAddress m.store).1.toOption.isSome)
      (hcurrent : current Sample.cfg now m.store.db tenantID userID sessionID = none) :
      ¬AnswersFresh Sample.cfg m (now, .getCurrentSession tenantID userID sessionID ipAddress) := by
    intro h
    cases hresp : (getCurrentSession Sample.cfg now tenantID userID sessionID ipAddress m.store).1 with
    | error err =>
      rw [hresp] at hanswer
      cases hanswer
    | ok resp =>
      have := (h tenantID userID sessionID ipAddress resp rfl hresp).permissions
      rw [hcurrent] at this
      cases this
  refine ⟨Sample.cacheFresh, fun h => ?_, fun h => ?_⟩
  · exact hstale (by decide +kernel) (by decide +kernel) h.2.2.1
  · exact hstale (by decide) (by decide) h.1

end ErgGo.Sessions
