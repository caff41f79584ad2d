import ErgGo.Auth.TokenService
import ErgGo.Lib.Provenance
import Mathlib.Data.Int.ConditionallyCompleteOrder

/-!
# Concurrent refreshes

A refresh succeeds only if it swaps the hash stored in the session, so two refreshes with one
token can only both succeed if the hash has come back in between. A pair issued in the second
in which the presented token was issued is the same token again; where every new token is
stamped later than the presented one, no hash comes back.
-/

namespace ErgGo.Auth
open Go Documents Concurrent Program Lms Postgres AccessControl AuthLibrary

abbrev AuthEvent := Event (AuthEnv × Fault) AuthRequest AuthStore

abbrev AuthWorld := World (AuthEnv × Fault) AuthRequest AuthStore

/-- The times in the claims of a refresh token issued now. -/
def issueStamp (cfg : AuthConfig) (now : Time) : ℤ × ℤ := (numericDate now, numericDate (now + cfg.refreshTokenTTL))

/-- The event signs a refresh token, issued at this time for this session. -/
def Issues (cfg : AuthConfig) (e : AuthEvent) (now : Time) (sessionID userID : String) : Prop :=
  e.req = .sign cfg.jwtRefreshSecret (refreshClaims cfg now sessionID userID)

/-- What no refresh sends: it neither opens sessions nor changes users. -/
def sentByRefresh : AuthRequest → Bool
  | .createSession _ => false
  | .updateUserIdentityFields .. => false
  | _ => true

def isRotation : AuthRequest → Bool
  | .rotateSessionRefreshToken .. => true
  | _ => false

/-- The requests of a refresh that are no rotations. -/
def Quiet (q : AuthRequest) : Prop := sentByRefresh q ∧ isRotation q = false

lemma found_of_elim {α : Type} {e : AuthError} {x : Option α} {a : α} (h : x.elim (.error e) Except.ok = .ok a) :
    x = some a := by
  cases x with
  | none => cases h
  | some b =>
    cases h
    rfl

section Rotation

variable [Library] [AuthLibrary] (cfg : AuthConfig)

/-- Every refresh issues its pair with later times than the presented token carries. -/
def IssuesLater (requests : List RefreshRequest) (h : List AuthEvent) : Prop :=
  ∀ e ∈ h, ∀ now sessionID userID, Issues cfg e now sessionID userID →
    ∀ req presented, requests[e.thread]? = some req →
      parse cfg.jwtRefreshSecret (trimSpace req.refreshToken) = some presented →
      presented.stamp < issueStamp cfg now

/-- The refresh tokens of the run: those presented and those issued. -/
def IsToken (requests : List RefreshRequest) (h : List AuthEvent) (token : String) : Prop :=
  (∃ req ∈ requests, token = req.refreshToken) ∨
    ∃ e ∈ h, ∃ now sessionID userID, Issues cfg e now sessionID userID ∧
      token = sign cfg.jwtRefreshSecret (refreshClaims cfg now sessionID userID)

/-- No two tokens of the run have the same hash. -/
def NoCollisions (requests : List RefreshRequest) (h : List AuthEvent) : Prop :=
  ∀ t u, IsToken cfg requests h t → IsToken cfg requests h u → hashSHA256 t = hashSHA256 u → t = u

/-- The session ids drawn in the run are not those of stored sessions. -/
def FreshSessionIDs (s : AuthStore) (h : List AuthEvent) : Prop :=
  ∀ e ∈ h, e.req = .generateSessionID → ∀ session ∈ s.db.sessions.docs, session.sessionID ≠ e.env.1.sessionID

/-- No two successful refreshes presented the same token. -/
def ExchangedOnce (requests : List RefreshRequest)
    (c : Config (AuthEnv × Fault) AuthRequest AuthReply AuthStore (Except AuthError TokenResponse)) : Prop :=
  ∀ (i j : Nat) (req req' : RefreshRequest) (tokens tokens' : TokenResponse),
    requests[i]? = some req → requests[j]? = some req' → req.refreshToken = req'.refreshToken →
    c.threads[i]? = some (.done (.ok tokens)) → c.threads[j]? = some (.done (.ok tokens')) → i = j

/-- The refreshes, interleaved. -/
abbrev refreshRun (s : AuthStore) (requests : List RefreshRequest) (schedule : List (Nat × (AuthEnv × Fault))) :
    Config (AuthEnv × Fault) AuthRequest AuthReply AuthStore (Except AuthError TokenResponse) :=
  (start s (requests.map (fun req => (refreshToken cfg req).run))).run exec schedule

/-- The users and the keys of the sessions are those of the start. -/
structure SameAccounts (s₀ s : AuthStore) : Prop where
  users : s.db.users = s₀.db.users
  sessions : s.db.sessions.docs.map AuthSession.key = s₀.db.sessions.docs.map AuthSession.key

omit [Library] [AuthLibrary] in
lemma map_key_updateOne (c : Collection AuthSession.key) (p : AuthSession → Bool) (u : Update AuthSession.key) :
    (c.updateOne p u).docs.map AuthSession.key = c.docs.map AuthSession.key :=
  map_modifyFirst u.key_apply p c.docs

omit [Library] [AuthLibrary] in
lemma map_key_updateMany (c : Collection AuthSession.key) (p : AuthSession → Bool) (u : Update AuthSession.key) :
    (c.updateMany p u).docs.map AuthSession.key = c.docs.map AuthSession.key := by
  unfold Collection.updateMany
  dsimp only
  rw [List.map_map]
  refine List.map_congr_left fun session _ => ?_
  by_cases hp : p session
  · simp [hp, u.key_apply]
  · simp [hp]

lemma carryOut_sameAccounts {s₀ s : AuthStore} (hs : SameAccounts s₀ s) {q : AuthRequest} (hq : sentByRefresh q)
    (env : AuthEnv) : SameAccounts s₀ (carryOut env q s).2 := by
  cases q with
  | createSession session => cases hq
  | updateUserIdentityFields id updates => cases hq
  | rotateSessionRefreshToken sessionID tenantID currentHash nextHash expiresAt =>
    unfold carryOut rotateSessionRefreshToken
    dsimp only
    split
    · exact hs
    · exact ⟨hs.users, (map_key_updateOne _ _ _).trans hs.sessions⟩
  | revokeAllUserSessionsWithReason userID tenantID reason =>
    exact ⟨hs.users, (map_key_updateMany _ _ _).trans hs.sessions⟩
  | updateUserRoles id roles =>
    unfold carryOut updateUserRoles
    dsimp only
    split
    · exact hs
    · exact ⟨hs.users, hs.sessions⟩
  | upsertFirewallRule entry ruleType reason source expiresAt createdAt =>
    unfold carryOut upsertFirewallRule
    dsimp only
    split
    · exact hs
    · exact ⟨hs.users, hs.sessions⟩
  | ac q =>
    cases q with
    | setUserRoles userID roles =>
      unfold carryOut AccessControl.exec setUserRoles
      dsimp only
      split
      · exact ⟨hs.users, hs.sessions⟩
      · exact hs
    | _ => exact hs
  | createLoginAttempt attempt => exact ⟨hs.users, hs.sessions⟩
  | redisSet key value ttl => exact ⟨hs.users, hs.sessions⟩
  | redisIncr key => exact ⟨hs.users, hs.sessions⟩
  | redisExpire key ttl => exact ⟨hs.users, hs.sessions⟩
  | redisDel keys => exact ⟨hs.users, hs.sessions⟩
  | _ => exact hs

lemma exec_sameAccounts {s₀ s : AuthStore} (hs : SameAccounts s₀ s) {q : AuthRequest} (hq : sentByRefresh q)
    (env : AuthEnv × Fault) : SameAccounts s₀ (exec env q s).2 := by
  obtain hlost | hdone := exec_store env q s
  · rw [hlost]
    exact hs
  · rw [hdone]
    exact carryOut_sameAccounts hs hq env.1

/-- The refresh token hash a session holds. -/
def storedHash (s : AuthStore) (key : String × String) : Option String :=
  (s.db.sessions.lookup key).map AuthSession.refreshTokenHash

omit [Library] [AuthLibrary] in
lemma rotatable_pinned (sessionID tenantID currentHash : String) (now : Time) :
    Pinned AuthSession.key (rotatable sessionID tenantID currentHash now) (sessionID, tenantID) := by
  intro session hsession
  unfold rotatable at hsession
  simp only [Bool.and_eq_true, decide_eq_true_eq] at hsession
  exact Prod.ext hsession.1.1.1.1 hsession.1.1.1.2

/-- Only a rotation changes a stored hash. -/
lemma storedHash_of_not_rotation {s : AuthStore} {q : AuthRequest} (hq : sentByRefresh q) (hrotation : isRotation q = false)
    (env : AuthEnv × Fault) (key : String × String) : storedHash (exec env q s).2 key = storedHash s key := by
  have hcarryOut : storedHash (carryOut env.1 q s).2 key = storedHash s key := by
    cases q with
    | createSession session => cases hq
    | updateUserIdentityFields id updates => cases hq
    | rotateSessionRefreshToken sessionID tenantID currentHash nextHash expiresAt => cases hrotation
    | revokeAllUserSessionsWithReason userID tenantID reason =>
      unfold storedHash carryOut
      dsimp only
      rw [Collection.lookup_updateMany, Option.map_map]
      refine congrArg (fun f => Option.map f _) (funext fun session => ?_)
      by_cases hrevokable : revokable userID tenantID session
      · simp [hrevokable, setRevoked]
      · simp [hrevokable]
    | updateUserRoles id roles =>
      unfold carryOut updateUserRoles
      dsimp only
      split <;> rfl
    | upsertFirewallRule entry ruleType reason source expiresAt createdAt =>
      unfold carryOut upsertFirewallRule
      dsimp only
      split <;> rfl
    | ac q =>
      cases q with
      | setUserRoles userID roles =>
        unfold carryOut AccessControl.exec setUserRoles
        dsimp only
        split <;> rfl
      | _ => rfl
    | _ => rfl
  obtain hlost | hdone := exec_store env q s
  · rw [hlost]
  · rw [hdone, hcarryOut]

/-- A rotation leaves the stored hashes alone, or replaces the expected one by the next. -/
lemma storedHash_rotation (s : AuthStore) (env : AuthEnv × Fault)
    (sessionID tenantID currentHash nextHash : String) (expiresAt : Time) (key : String × String) :
    let s' := (exec env (.rotateSessionRefreshToken sessionID tenantID currentHash nextHash expiresAt) s).2
    storedHash s' key = storedHash s key ∨
      key = (sessionID, tenantID) ∧ storedHash s key = some currentHash ∧ storedHash s' key = some nextHash := by
  intro s'
  obtain hlost | hdone := exec_store env
    (.rotateSessionRefreshToken sessionID tenantID currentHash nextHash expiresAt) s
  · exact .inl (congrArg (fun s => storedHash s key) hlost)
  · by_cases hnone : (s.db.sessions.find (rotatable sessionID tenantID currentHash env.1.now)).isNone
    · left
      change storedHash (exec env _ s).2 key = _
      rw [hdone]
      unfold carryOut rotateSessionRefreshToken
      dsimp only
      rw [if_pos hnone]
    · have hlookup : storedHash s' key = (s.db.sessions.lookup key).map (fun session =>
          if key = (sessionID, tenantID) ∧ rotatable sessionID tenantID currentHash env.1.now session then nextHash
          else session.refreshTokenHash) := by
        change storedHash (exec env _ s).2 key = _
        rw [hdone]
        unfold carryOut rotateSessionRefreshToken storedHash
        dsimp only
        rw [if_neg hnone]
        dsimp only
        rw [Collection.lookup_updateOne (rotatable_pinned sessionID tenantID currentHash env.1.now), Option.map_map]
        refine congrArg (fun f => Option.map f _) (funext fun session => ?_)
        rw [Function.comp_apply]
        split <;> rfl
      cases hsession : s.db.sessions.lookup key with
      | none =>
        left
        rw [hlookup, storedHash, hsession]
        rfl
      | some session =>
        by_cases hmatch : key = (sessionID, tenantID) ∧ rotatable sessionID tenantID currentHash env.1.now session
        · right
          have hhash : session.refreshTokenHash = currentHash := by
            have hrotatable := hmatch.2
            simp only [rotatable, Bool.and_eq_true, decide_eq_true_eq] at hrotatable
            exact hrotatable.1.1.2
          refine ⟨hmatch.1, ?_, ?_⟩
          · rw [storedHash, hsession, Option.map_some, hhash]
          · rw [hlookup, hsession, Option.map_some, if_pos hmatch]
        · left
          rw [hlookup, storedHash, hsession, Option.map_some, if_neg hmatch, Option.map_some]

/-- A rotation that is acknowledged has replaced the expected hash. -/
lemma storedHash_of_rotation_ok {s : AuthStore} {env : AuthEnv × Fault}
    {sessionID tenantID currentHash nextHash : String} {expiresAt : Time} {r : Unit}
    (h : (exec env (.rotateSessionRefreshToken sessionID tenantID currentHash nextHash expiresAt) s).1 = .ok r) :
    storedHash s (sessionID, tenantID) = some currentHash ∧
      storedHash (exec env (.rotateSessionRefreshToken sessionID tenantID currentHash nextHash expiresAt) s).2
        (sessionID, tenantID) = some nextHash := by
  obtain ⟨hok, hstore⟩ := exec_ok h
  rw [hstore]
  unfold carryOut rotateSessionRefreshToken at hok ⊢
  dsimp only at hok ⊢
  have hpinned := rotatable_pinned sessionID tenantID currentHash env.1.now
  split at hok
  · cases hok
  · next hnone =>
    rw [if_neg hnone]
    have hsome : (s.db.sessions.find (rotatable sessionID tenantID currentHash env.1.now)).isSome := by
      rw [← Option.not_isNone, Bool.not_eq_true'] 
      exact Bool.eq_false_iff.mpr hnone
    obtain ⟨session, hfind⟩ := Option.isSome_iff_exists.mp hsome
    rw [Collection.find_of_pinned hpinned, Option.filter_eq_some_iff] at hfind
    obtain ⟨hsession, hrotatable⟩ := hfind
    constructor
    · rw [storedHash, hsession, Option.map_some]
      simp only [rotatable, Bool.and_eq_true, decide_eq_true_eq] at hrotatable
      rw [hrotatable.1.1.2]
    · unfold storedHash
      dsimp only
      rw [Collection.lookup_updateOne hpinned, hsession, Option.map_some, Option.map_some, if_pos ⟨rfl, hrotatable⟩]
      rfl

/-- The session the presented token leads to: of the user in its claims, and under the id in
its claims or a drawn one. -/
def Presents (s₀ : AuthStore) (h : List AuthEvent) (req : RefreshRequest) (sessionID tenantID : String) : Prop :=
  ∃ now claims user, validate cfg cfg.jwtRefreshSecret now req.refreshToken = some claims ∧
    findUserRecordByID s₀.db (objectIDOrNil claims.userID) = some user ∧ tenantID = user.tenantID ∧
    (sessionID = sessionIDFromClaims claims ∨
      ∃ g ∈ h, g.req = .generateSessionID ∧ sessionID = g.env.1.sessionID)

/-- The call has signed the token. -/
def SignedBy (h : List AuthEvent) (i : Nat) (token : String) : Prop :=
  ∃ g ∈ h, g.thread = i ∧ ∃ now sessionID userID, Issues cfg g now sessionID userID ∧
    token = sign cfg.jwtRefreshSecret (refreshClaims cfg now sessionID userID)

/-- A rotation swaps the hash of the presented token for that of a token signed before. -/
def RotationOrigin (s₀ : AuthStore) (requests : List RefreshRequest) (h : List AuthEvent) (d : AuthEvent) : Prop :=
  sentByRefresh d.req ∧ ∀ sessionID tenantID currentHash nextHash expiresAt,
    d.req = .rotateSessionRefreshToken sessionID tenantID currentHash nextHash expiresAt →
    ∃ req, requests[d.thread]? = some req ∧ currentHash = hashSHA256 req.refreshToken ∧
      Presents cfg s₀ h req sessionID tenantID ∧
      ∃ token, nextHash = hashSHA256 token ∧ SignedBy cfg h d.thread token

/-- The call has swapped the hash of the presented token for that of a token it has signed. -/
def Exchanged (s₀ : AuthStore) (h : List AuthEvent) (i : Nat) (req : RefreshRequest) : Prop :=
  ∃ d ∈ h, d.thread = i ∧ ∃ sessionID tenantID token, Presents cfg s₀ h req sessionID tenantID ∧
    storedHash d.before (sessionID, tenantID) = some (hashSHA256 req.refreshToken) ∧
    storedHash (d.after exec) (sessionID, tenantID) = some (hashSHA256 token) ∧ SignedBy cfg h i token

omit [Library] in
variable {cfg} in
lemma Presents.mono {s₀ : AuthStore} {h h' : List AuthEvent} {req : RefreshRequest} {sessionID tenantID : String}
    (hp : Presents cfg s₀ h req sessionID tenantID) (hh : h <+: h') : Presents cfg s₀ h' req sessionID tenantID := by
  obtain ⟨now, claims, user, hvalidate, huser, htenant, hsession⟩ := hp
  refine ⟨now, claims, user, hvalidate, huser, htenant, hsession.imp_right ?_⟩
  exact fun ⟨g, hg, hdrawn⟩ => ⟨g, hh.subset hg, hdrawn⟩

omit [Library] in
variable {cfg} in
lemma SignedBy.mono {h h' : List AuthEvent} {i : Nat} {token : String} (hs : SignedBy cfg h i token)
    (hh : h <+: h') : SignedBy cfg h' i token := by
  obtain ⟨g, hg, hthread, hissues⟩ := hs
  exact ⟨g, hh.subset hg, hthread, hissues⟩

variable {cfg} in
lemma Exchanged.mono {s₀ : AuthStore} {h h' : List AuthEvent} {i : Nat} {req : RefreshRequest}
    (hx : Exchanged cfg s₀ h i req) (hh : h <+: h') : Exchanged cfg s₀ h' i req := by
  obtain ⟨d, hd, hthread, sessionID, tenantID, token, hpresents, hbefore, hafter, hsigned⟩ := hx
  exact ⟨d, hh.subset hd, hthread, sessionID, tenantID, token, hpresents.mono hh, hbefore, hafter,
    hsigned.mono hh⟩

abbrev rotations (s₀ : AuthStore) (requests : List RefreshRequest) : Protocol (AuthEnv × Fault) AuthRequest AuthStore :=
  provenance (SameAccounts s₀) (RotationOrigin cfg s₀ requests)

section Safe

attribute [local irreducible] trimSpace validate portalsForToken classifyAccountAccess objectIDOrNil sessionIDFromClaims
  rtUsedKey

variable {cfg} {s₀ : AuthStore} {requests : List RefreshRequest} {i : Nat} {w : AuthWorld}

omit [Library] in
lemma RotationOrigin.quiet {q : AuthRequest} (hq : Quiet q) (h : List AuthEvent) (env : AuthEnv × Fault)
    (s : AuthStore) : RotationOrigin cfg s₀ requests h ⟨i, env, q, s⟩ := by
  refine ⟨hq.1, ?_⟩
  intro sessionID tenantID currentHash nextHash expiresAt hreq
  change q = _ at hreq
  have hrotation := hq.2
  rw [hreq] at hrotation
  cases hrotation

lemma safe_allRequests_call {q : AuthRequest} (hq : Quiet q) {post : AuthResult q → AuthWorld → Prop}
    (hpost : ∀ h env s r, w.2 <+: h → SameAccounts s₀ s → (exec env q s).1 = .ok r →
      post r ((exec env q s).2, h ++ [⟨i, env, q, s⟩])) :
    (rotations cfg s₀ requests).Safe exec i (OnSuccess post) (call q).run w := by
  refine safe_send (fun env s hs => exec_sameAccounts hs hq.1 env) (fun h env s _ _ => .quiet hq h env s) ?_
  intro h env s hrely hs
  cases hreply : (exec env q s).1 with
  | ok r => exact hpost h env s r hrely hs hreply
  | error e => trivial

lemma safe_quiet {α : Type} {x : AuthCall α} (hx : x.run.AllRequests Quiet) :
    (rotations cfg s₀ requests).Safe exec i (OnSuccess (fun _ _ => True)) x.run w := by
  have hsafe : (rotations cfg s₀ requests).Safe exec i (fun _ _ => True) x.run w := by
    refine Protocol.Safe.of_allRequests ?_ hx w
    intro q hq w hw env
    exact ⟨⟨exec_sameAccounts hw.1 hq.1 env, hw.2.concat (.quiet hq w.2 env w.1)⟩, List.prefix_append _ _⟩
  refine hsafe.mono fun r _ _ _ => ?_
  cases r <;> trivial

/-- A successful first step leads to the claims of the token. -/
lemma safe_consumeRefreshToken (req : RefreshRequest) :
    (rotations cfg s₀ requests).Safe exec i
      (OnSuccess (fun claims _ => ∃ now, validate cfg cfg.jwtRefreshSecret now req.refreshToken = some claims))
      (consumeRefreshToken cfg req).run w := by
  have hused : ∀ userID hash, (isRefreshTokenUsed cfg userID hash).run.AllRequests Quiet := by
    intro userID hash
    unfold isRefreshTokenUsed
    split
    · trivial
    · exact allRequests_call ⟨rfl, rfl⟩
  have hmark : ∀ userID hash ttl, (markRefreshTokenUsed cfg userID hash ttl).run.AllRequests Quiet := by
    intro userID hash ttl
    unfold markRefreshTokenUsed
    split
    · trivial
    · exact allRequests_call ⟨rfl, rfl⟩
  unfold consumeRefreshToken
  refine (safe_quiet (allRequests_call ⟨rfl, rfl⟩)).run_bind fun now w₁ _ _ => ?_
  split
  · trivial
  · next claims hclaims =>
    refine (safe_quiet (allRequests_orElse (hused _ _))).run_bind fun used w₂ _ _ => ?_
    have hrest : (rotations cfg s₀ requests).Safe exec i
        (OnSuccess (fun claims _ => ∃ now, validate cfg cfg.jwtRefreshSecret now req.refreshToken = some claims))
        (do
          orElse () (markRefreshTokenUsed cfg claims.userID (hashSHA256 req.refreshToken) cfg.refreshTokenTTL)
          return claims : AuthCall JWTClaims).run w₂ :=
      (safe_quiet (allRequests_orElse (hmark _ _ _))).run_bind fun _ w₃ _ _ => ⟨now, hclaims⟩
    cases used with
    | false => exact hrest
    | true => exact (safe_quiet (allRequests_orElse (allRequests_call ⟨rfl, rfl⟩))).run_bind fun _ w₃ _ _ => trivial

/-- The user and the session of a presented token. -/
lemma safe_presentedSession (req : RefreshRequest) (claims : JWTClaims) :
    (rotations cfg s₀ requests).Safe exec i
      (OnSuccess (fun (found : User × String) w => findUserRecordByID s₀.db (objectIDOrNil claims.userID) = some found.1.toAuthUser ∧
        (found.2 = sessionIDFromClaims claims ∨ ∃ g ∈ w.2, g.req = .generateSessionID ∧ found.2 = g.env.1.sessionID)))
      (presentedSession req claims).run w := by
  unfold presentedSession
  -- The users are those of the start.
  have huser : (rotations cfg s₀ requests).Safe exec i
      (OnSuccess (fun (user : User) _ => findUserRecordByID s₀.db (objectIDOrNil claims.userID) = some user.toAuthUser))
      (wrapping "auth.service.refreshToken: find user" (findUserByID (objectIDOrNil claims.userID))).run w := by
    refine Protocol.Safe.run_tryCatch ?_ (fun _ _ _ => trivial)
    have hrecord : (rotations cfg s₀ requests).Safe exec i
        (OnSuccess (fun (record : Postgres.AuthUser) _ =>
          findUserRecordByID s₀.db (objectIDOrNil claims.userID) = some record))
        (call (.findUserRecordByID (objectIDOrNil claims.userID))).run w := by
      refine safe_allRequests_call ⟨rfl, rfl⟩ fun h env s record _ hs hreply => ?_
      have hfound := (exec_ok hreply).1
      have hsame : findUserRecordByID s.db (objectIDOrNil claims.userID) =
          findUserRecordByID s₀.db (objectIDOrNil claims.userID) := by
        unfold findUserRecordByID
        rw [hs.users]
      exact hsame ▸ found_of_elim hfound
    refine hrecord.run_bind fun record w₁ _ hfound => ?_
    exact (safe_quiet (allRequests_call ⟨rfl, rfl⟩)).run_bind fun roles w₂ _ _ => hfound
  refine huser.run_bind fun user w₁ _ hfound => ?_
  have hsession : (rotations cfg s₀ requests).Safe exec i
      (OnSuccess (fun sessionID w => sessionID = sessionIDFromClaims claims ∨
        ∃ g ∈ w.2, g.req = .generateSessionID ∧ sessionID = g.env.1.sessionID))
      (presentedSessionID claims).run w₁ := by
    unfold presentedSessionID
    split
    · refine safe_allRequests_call ⟨rfl, rfl⟩ fun h env s sessionID _ _ hreply => .inr ?_
      refine ⟨_, List.mem_append_right h (List.mem_singleton.mpr rfl), rfl, ?_⟩
      have hdrawn := (exec_ok hreply).1
      cases hdrawn
      rfl
    · exact .inl rfl
  refine hsession.run_bind fun sessionID w₂ _ hdrawn => ?_
  have hstored : (rotations cfg s₀ requests).Safe exec i (OnSuccess (fun _ _ => True))
      (tryCatch (call (.findSessionByID sessionID user.tenantID)) (fun err =>
        throw (if err = .sessionNotFound then .sessionReplaced else .wrap "auth.service.refreshToken: find session" err)) :
        AuthCall AuthSession).run w₂ :=
    safe_quiet ((allRequests_call ⟨rfl, rfl⟩).run_tryCatch (fun _ => trivial))
  refine hstored.run_bind fun session w₃ h₂₃ _ => ?_
  refine (safe_quiet (allRequests_call ⟨rfl, rfl⟩)).run_bind fun now w₄ h₃₄ _ => ?_
  have hdrawn₄ : sessionID = sessionIDFromClaims claims ∨
      ∃ g ∈ w₄.2, g.req = .generateSessionID ∧ sessionID = g.env.1.sessionID :=
    hdrawn.imp_right fun ⟨g, hg, hreq⟩ => ⟨g, (h₂₃.trans h₃₄).subset hg, hreq⟩
  simp only []
  split
  · trivial
  · split
    · exact (safe_quiet (allRequests_orElse (allRequests_call ⟨rfl, rfl⟩))).run_bind fun _ w₅ _ _ => trivial
    · split
      · trivial
      · exact ⟨hfound, hdrawn₄⟩

/-- The new pair has been signed by the call. -/
lemma safe_refreshedPair (user : User) (sessionID : String) :
    (rotations cfg s₀ requests).Safe exec i (OnSuccess (fun tokens w => SignedBy cfg w.2 i tokens.refreshToken))
      (refreshedPair cfg user sessionID).run w := by
  have hperms : (effectivePermissions cfg user.id.hex).run.AllRequests Quiet := by
    unfold effectivePermissions
    split
    · have hreply : ∀ q, True → (acReply q).AllRequests Quiet := fun q _ => ⟨⟨rfl, rfl⟩, fun _ => trivial⟩
      exact (AllRequests.interp hreply (AllRequests.of_forall (fun _ => trivial) _)).bind (fun _ => trivial)
    · trivial
  unfold refreshedPair
  refine (safe_quiet hperms).run_bind fun perms w₁ _ _ => ?_
  refine Protocol.Safe.run_tryCatch ?_ (fun _ _ _ => trivial)
  refine (safe_quiet (allRequests_call ⟨rfl, rfl⟩)).run_bind fun now w₂ _ _ => ?_
  refine (safe_quiet (allRequests_wrapping (allRequests_call ⟨rfl, rfl⟩))).run_bind fun accessToken w₃ _ _ => ?_
  have hsign : (rotations cfg s₀ requests).Safe exec i (OnSuccess (fun token w => SignedBy cfg w.2 i token))
      (wrapping "auth: sign refresh token"
        (call (.sign cfg.jwtRefreshSecret (refreshClaims cfg now sessionID user.id.hex)))).run w₃ := by
    refine Protocol.Safe.run_tryCatch ?_ (fun _ _ _ => trivial)
    refine safe_allRequests_call ⟨rfl, rfl⟩ fun h env s token _ _ hreply => ?_
    refine ⟨_, List.mem_append_right h (List.mem_singleton.mpr rfl), rfl, now, sessionID, user.id.hex, rfl, ?_⟩
    have hsigned := (exec_ok hreply).1
    cases hsigned
    rfl
  exact hsign.run_bind fun refreshToken w₄ _ hsigned => hsigned

/-- The rotation is acknowledged. -/
lemma safe_rotateRefreshToken {req : RefreshRequest} (hreq : requests[i]? = some req) {user : User}
    {sessionID : String} {tokens : TokenPair} (hpresents : Presents cfg s₀ w.2 req sessionID user.tenantID)
    (hsigned : SignedBy cfg w.2 i tokens.refreshToken) :
    (rotations cfg s₀ requests).Safe exec i (OnSuccess (fun _ w' => Exchanged cfg s₀ w'.2 i req))
      (rotateRefreshToken cfg req user sessionID tokens).run w := by
  unfold rotateRefreshToken
  refine (safe_quiet (allRequests_call ⟨rfl, rfl⟩)).run_bind fun now w₁ h₁ _ => ?_
  refine Protocol.Safe.run_tryCatch ?_ (fun err w₂ _ => ?_)
  · refine safe_send (fun env s hs => exec_sameAccounts hs rfl env) (fun h env s hrely _ => ?_) ?_
    · refine ⟨rfl, fun sessionID' tenantID currentHash nextHash expiresAt hrotation => ?_⟩
      cases hrotation
      exact ⟨req, hreq, rfl, hpresents.mono (h₁.trans hrely), tokens.refreshToken, rfl, hsigned.mono (h₁.trans hrely)⟩
    · intro h env s hrely _
      cases hreply : (exec env _ s).1 with
      | error e => trivial
      | ok r =>
        obtain ⟨hbefore, hafter⟩ := storedHash_of_rotation_ok hreply
        have hlater : ∀ d : AuthEvent, w.2 <+: h ++ [d] := fun d => (h₁.trans hrely).trans (List.prefix_append h [d])
        exact ⟨_, List.mem_append_right h (List.mem_singleton.mpr rfl), rfl, sessionID, user.tenantID,
          tokens.refreshToken, hpresents.mono (hlater _), hbefore, hafter, hsigned.mono (hlater _)⟩
  · dsimp only
    split
    · exact (safe_quiet (allRequests_orElse (allRequests_call ⟨rfl, rfl⟩))).run_bind fun _ w₃ _ _ => trivial
    · trivial

/-- A successful refresh has exchanged the presented token. -/
lemma safe_refreshToken {req : RefreshRequest} (hreq : requests[i]? = some req) :
    (rotations cfg s₀ requests).Safe exec i (OnSuccess (fun _ w' => Exchanged cfg s₀ w'.2 i req))
      (refreshToken cfg req).run w := by
  unfold refreshToken
  refine (safe_consumeRefreshToken req).run_bind fun claims w₁ _ hclaims => ?_
  obtain ⟨now, hvalidate⟩ := hclaims
  refine (safe_presentedSession req claims).run_bind fun found w₂ _ hfound => ?_
  obtain ⟨user, sessionID⟩ := found
  obtain ⟨huser, hsessionID⟩ := hfound
  have hpresents : Presents cfg s₀ w₂.2 req sessionID user.tenantID :=
    ⟨now, claims, user.toAuthUser, hvalidate, huser, rfl, hsessionID⟩
  refine (safe_refreshedPair user sessionID).run_bind fun tokens w₃ h₃ hsigned => ?_
  refine (safe_rotateRefreshToken hreq (hpresents.mono h₃) hsigned).run_bind fun _ w₄ _ hexchanged => ?_
  have hcache : (orElse () (invalidateSessionCache cfg user.id.hex sessionID)).run.AllRequests Quiet := by
    unfold invalidateSessionCache
    split
    · exact trivial
    · exact allRequests_orElse (allRequests_call ⟨rfl, rfl⟩)
  exact (safe_quiet hcache).run_bind fun _ w₅ h₅ _ => hexchanged.mono h₅

end Safe

variable {cfg} {s : AuthStore} {requests : List RefreshRequest} {schedule : List (Nat × (AuthEnv × Fault))}

variable (cfg) in
lemma refreshRun_rotations (s : AuthStore) (requests : List RefreshRequest)
    (schedule : List (Nat × (AuthEnv × Fault))) :
    Provenance (RotationOrigin cfg s requests) (refreshRun cfg s requests schedule).history ∧
      ∀ i req tokens, requests[i]? = some req →
        (refreshRun cfg s requests schedule).threads[i]? = some (.done (.ok tokens)) →
        Exchanged cfg s (refreshRun cfg s requests schedule).history i req := by
  obtain ⟨-, hprovenance, hresults⟩ := provenance_run exec (SameAccounts s) (RotationOrigin cfg s requests)
    (fun i => OnSuccess (fun _ w => ∀ req, requests[i]? = some req → Exchanged cfg s w.2 i req)) s
    (requests.map (fun req => (refreshToken cfg req).run)) ⟨rfl, rfl⟩ (by
      intro i p hp
      rw [List.getElem?_map, Option.map_eq_some_iff] at hp
      obtain ⟨req, hreq, rfl⟩ := hp
      refine (safe_refreshToken hreq).mono fun r w _ hr => ?_
      cases r with
      | error e => trivial
      | ok tokens =>
        intro req' hreq'
        rw [hreq] at hreq'
        cases hreq'
        exact hr) schedule
  refine ⟨hprovenance, fun i req tokens hreq hdone => ?_⟩
  obtain ⟨w, hextends, hexchanged⟩ := hresults i _ hdone
  exact (hexchanged req hreq).mono hextends

/-- The accounts of the start, at every event. -/
lemma refreshRun_sameAccounts {d : AuthEvent} (hd : d ∈ (refreshRun cfg s requests schedule).history) :
    SameAccounts s d.before := by
  have hprovenance := (refreshRun_rotations cfg s requests schedule).1
  refine Replays.before (run_replays s _ schedule) ⟨rfl, rfl⟩ (fun e he hs => ?_) d hd
  obtain ⟨_, _, hsent, -⟩ := hprovenance.of_mem he
  exact exec_sameAccounts hs hsent e.env

omit [Library] in
/-- A refresh signs under the refresh secret only with times later than those it was shown. -/
lemma stamp_signedBy {h g : List AuthEvent} (hlater : IssuesLater cfg requests h) (hgh : g <+: h) {i : Nat}
    {req : RefreshRequest} (hreq : requests[i]? = some req) {token : String} (hsigned : SignedBy cfg g i token)
    {presented : JWTClaims} (hpresented : parse cfg.jwtRefreshSecret (trimSpace req.refreshToken) = some presented) :
    ∃ claims, parse cfg.jwtRefreshSecret (trimSpace token) = some claims ∧ presented.stamp < claims.stamp := by
  obtain ⟨e, he, rfl, now, sessionID, userID, hissues, rfl⟩ := hsigned
  refine ⟨refreshClaims cfg now sessionID userID, by rw [trimSpace_sign, parse_sign], ?_⟩
  exact hlater e (hgh.subset he) now sessionID userID hissues req presented hreq hpresented

omit [Library] in
lemma SignedBy.isToken {h g : List AuthEvent} {i : Nat} {token : String} (hsigned : SignedBy cfg g i token)
    (hgh : g <+: h) : IsToken cfg requests h token := by
  obtain ⟨e, he, -, now, sessionID, userID, hissues, htoken⟩ := hsigned
  exact .inr ⟨e, hgh.subset he, now, sessionID, userID, hissues, htoken⟩

/-- The row holds the hash of a token of the run with a later stamp. -/
def HoldsLater (requests : List RefreshRequest) (h : List AuthEvent) (cfg : AuthConfig) (key : String × String)
    (stamp : ℤ × ℤ) (s : AuthStore) : Prop :=
  ∃ token claims, storedHash s key = some (hashSHA256 token) ∧ IsToken cfg requests h token ∧
    parse cfg.jwtRefreshSecret (trimSpace token) = some claims ∧ stamp < claims.stamp

/-- Where every pair is issued later, the stamp of the stored token only grows. -/
lemma HoldsLater.step {h g : List AuthEvent} {e : AuthEvent} {key : String × String} {stamp : ℤ × ℤ}
    (hcollisions : NoCollisions cfg requests h) (hlater : IssuesLater cfg requests h) (hgh : g <+: h)
    (horigin : RotationOrigin cfg s requests g e) (hholds : HoldsLater requests h cfg key stamp e.before) :
    HoldsLater requests h cfg key stamp (e.after exec) := by
  obtain ⟨token, claims, hstored, htoken, hparse, hstamp⟩ := hholds
  obtain ⟨hsent, hrotations⟩ := horigin
  have hunchanged : storedHash (e.after exec) key = storedHash e.before key →
      HoldsLater requests h cfg key stamp (e.after exec) :=
    fun hsame => ⟨token, claims, hsame.trans hstored, htoken, hparse, hstamp⟩
  by_cases hrotation : isRotation e.req = false
  · exact hunchanged (storedHash_of_not_rotation hsent hrotation e.env key)
  · obtain ⟨sessionID, tenantID, currentHash, nextHash, expiresAt, hreq⟩ : ∃ sessionID tenantID currentHash nextHash
        expiresAt, e.req = .rotateSessionRefreshToken sessionID tenantID currentHash nextHash expiresAt := by
      cases hq : e.req with
      | rotateSessionRefreshToken sessionID tenantID currentHash nextHash expiresAt => exact ⟨_, _, _, _, _, rfl⟩
      | _ => exact absurd (by rw [hq]; rfl) hrotation
    obtain ⟨req, hi, hcurrent, -, next, hnext, hsigned⟩ :=
      hrotations sessionID tenantID currentHash nextHash expiresAt hreq
    have hchange := storedHash_rotation e.before e.env sessionID tenantID currentHash nextHash expiresAt key
    rw [← hreq] at hchange
    obtain hsame | ⟨-, hbefore, hafter⟩ := hchange
    · exact hunchanged hsame
    · -- The stored token is the presented one, and the new token is later than that.
      have hpresented : token = req.refreshToken := by
        refine hcollisions _ _ htoken (.inl ⟨req, List.mem_of_getElem? hi, rfl⟩) ?_
        exact Option.some.inj (hstored.symm.trans (hbefore.trans (congrArg some hcurrent)))
      obtain ⟨claims', hparse', hstamp'⟩ := stamp_signedBy hlater hgh hi hsigned (hpresented ▸ hparse)
      exact ⟨next, claims', hafter.trans (congrArg some hnext), hsigned.isToken hgh, hparse', hstamp.trans hstamp'⟩

omit [Library] in
lemma validate_unique {key token : String} {now now' : Time} {claims claims' : JWTClaims}
    (h : validate cfg key now token = some claims) (h' : validate cfg key now' token = some claims') :
    claims = claims' := by
  unfold validate at h h'
  cases hparse : parse key (trimSpace token) with
  | none =>
    rw [hparse] at h
    cases h
  | some parsed =>
    rw [hparse] at h h'
    dsimp only at h h'
    split_ifs at h h'
    · cases h
      cases h'
      rfl
    · cases h
      cases h'
      rfl

/-- The row in which a token is exchanged is the one its claims name: a drawn id is not that
of a stored session. -/
lemma sessionID_of_storedHash {d : AuthEvent} {req : RefreshRequest} {sessionID tenantID hash : String}
    (hfresh : FreshSessionIDs s (refreshRun cfg s requests schedule).history)
    (hd : d ∈ (refreshRun cfg s requests schedule).history)
    (hpresents : Presents cfg s (refreshRun cfg s requests schedule).history req sessionID tenantID)
    (hstored : storedHash d.before (sessionID, tenantID) = some hash) :
    ∃ now claims user, validate cfg cfg.jwtRefreshSecret now req.refreshToken = some claims ∧
      findUserRecordByID s.db (objectIDOrNil claims.userID) = some user ∧
      sessionID = sessionIDFromClaims claims ∧ tenantID = user.tenantID := by
  obtain ⟨now, claims, user, hvalidate, huser, htenant, hsession⟩ := hpresents
  refine ⟨now, claims, user, hvalidate, huser, ?_, htenant⟩
  obtain hclaims | ⟨g, hg, hdraws, hdrawn⟩ := hsession
  · exact hclaims
  · obtain ⟨session, hlookup, -⟩ := Option.map_eq_some_iff.mp hstored
    obtain ⟨hmem, hkey⟩ := Collection.lookup_eq_some_iff.mp hlookup
    have hstart : (sessionID, tenantID) ∈ s.db.sessions.docs.map AuthSession.key := by
      rw [← (refreshRun_sameAccounts hd).sessions, ← hkey]
      exact List.mem_map_of_mem hmem
    obtain ⟨first, hfirst, hkey⟩ := List.mem_map.mp hstart
    have hid : first.sessionID = sessionID := congrArg Prod.fst hkey
    exact absurd (hid.trans hdrawn) (hfresh g hg hdraws first hfirst)

/-- After an exchange the row never holds the hash of the presented token again. -/
lemma not_storedHash_after_exchange
    (hcollisions : NoCollisions cfg requests (refreshRun cfg s requests schedule).history)
    (hlater : IssuesLater cfg requests (refreshRun cfg s requests schedule).history)
    {h₁ h₂ : List AuthEvent} {d d' : AuthEvent} {req : RefreshRequest} {key : String × String} {token : String}
    {now : Time} {claims : JWTClaims} (hreq : requests[d.thread]? = some req)
    (hvalidate : validate cfg cfg.jwtRefreshSecret now req.refreshToken = some claims)
    (hafter : storedHash (d.after exec) key = some (hashSHA256 token))
    (hsigned : SignedBy cfg (refreshRun cfg s requests schedule).history d.thread token)
    (hsplit : (refreshRun cfg s requests schedule).history = h₁ ++ d' :: h₂) (hd : d ∈ h₁) :
    storedHash d'.before key ≠ some (hashSHA256 req.refreshToken) := by
  intro hstored
  have hprovenance := (refreshRun_rotations cfg s requests schedule).1
  have hreplays : Replays exec s (refreshRun cfg s requests schedule).history
      (refreshRun cfg s requests schedule).store := run_replays s _ schedule
  generalize (refreshRun cfg s requests schedule).history = h at *
  obtain ⟨presented, hparse, -, -⟩ := validate_eq_some hvalidate
  -- From the exchange on, the row holds a token with a later stamp.
  have hholds : HoldsLater requests h cfg key presented.stamp d'.before := by
    obtain ⟨g₁, g₂, rfl⟩ := List.append_of_mem hd
    rw [hsplit] at hreplays
    obtain ⟨s₁, hreplays, rfl, -⟩ := replays_append.mp hreplays
    obtain ⟨s₀, -, -, hreplays⟩ := replays_append.mp hreplays
    refine hreplays.preserves (I := HoldsLater requests h cfg key presented.stamp) ?_ (fun e he hholds => ?_)
    · obtain ⟨claims', hparse', hstamp⟩ := stamp_signedBy hlater List.prefix_rfl hreq hsigned hparse
      exact ⟨token, claims', hafter, hsigned.isToken List.prefix_rfl, hparse', hstamp⟩
    · obtain ⟨g, hg, horigin⟩ := hprovenance.of_mem (e := e) (by simp [hsplit, he])
      exact hholds.step hcollisions hlater hg horigin
  obtain ⟨token', claims', hstored', htoken', hparse', hstamp⟩ := hholds
  have hsame : token' = req.refreshToken := by
    refine hcollisions _ _ htoken' (.inl ⟨req, List.mem_of_getElem? hreq, rfl⟩) ?_
    exact Option.some.inj (hstored'.symm.trans hstored)
  rw [hsame, hparse] at hparse'
  cases hparse'
  exact lt_irrefl _ hstamp

/-- In an interleaving in which every refresh issues its pair later than the presented one,
no refresh token is exchanged twice. -/
theorem exchangedOnce_of_issuesLater
    (hcollisions : NoCollisions cfg requests (refreshRun cfg s requests schedule).history)
    (hfresh : FreshSessionIDs s (refreshRun cfg s requests schedule).history)
    (hlater : IssuesLater cfg requests (refreshRun cfg s requests schedule).history) :
    ExchangedOnce requests (refreshRun cfg s requests schedule) := by
  intro i j req req' tokens tokens' hi hj hsame hdone hdone'
  have hexchanges := (refreshRun_rotations cfg s requests schedule).2
  obtain ⟨d, hd, rfl, sessionID, tenantID, token, hpresents, hbefore, hafter, hsigned⟩ :=
    hexchanges i req tokens hi hdone
  obtain ⟨d', hd', rfl, sessionID', tenantID', token', hpresents', hbefore', hafter', hsigned'⟩ :=
    hexchanges j req' tokens' hj hdone'
  obtain ⟨now, claims, user, hvalidate, huser, rfl, rfl⟩ := sessionID_of_storedHash hfresh hd hpresents hbefore
  obtain ⟨now', claims', user', hvalidate', huser', rfl, rfl⟩ :=
    sessionID_of_storedHash hfresh hd' hpresents' hbefore'
  -- The claims of the token name the user and the session, so both exchanges are in one row.
  have hclaims : claims' = claims := validate_unique hvalidate' (hsame ▸ hvalidate)
  rw [hclaims, huser] at huser'
  cases huser'
  rw [hclaims] at hbefore' hafter' hvalidate'
  obtain ⟨h₁, h₂, hsplit⟩ := List.append_of_mem hd'
  have hcases : d ∈ h₁ ++ d' :: h₂ := hsplit ▸ hd
  obtain hd | hd := List.mem_append.mp hcases
  · exact absurd (hsame ▸ hbefore') (not_storedHash_after_exchange hcollisions hlater hi hvalidate hafter hsigned hsplit hd)
  · obtain rfl | hd := List.mem_cons.mp hd
    · rfl
    · obtain ⟨g₁, g₂, rfl⟩ := List.append_of_mem hd
      have hsplit' : (refreshRun cfg s requests schedule).history = (h₁ ++ d' :: g₁) ++ d :: g₂ := by
        rw [hsplit, List.append_assoc, List.cons_append]
      exact absurd (hsame ▸ hbefore)
        (not_storedHash_after_exchange hcollisions hlater hj hvalidate' hafter' hsigned' hsplit' (by simp))

end Rotation

section Sample

attribute [local instance] asciiLibrary plainAuth

namespace Sample

def cfg : AuthConfig :=
  { jwtSecret := "a", jwtRefreshSecret := "r", accessTokenTTL := 1000000000, refreshTokenTTL := 5000000000 }

def user : Postgres.AuthUser := { id := Sample.id 1, tenantID := "erg", email := "an@erg.vn", passwordHash := "hash" }

/-- Issued at the start of the clock. -/
def token : String := sign "r" (refreshClaims cfg 0 "s" (Sample.id 1).hex)

def session : AuthSession :=
  { id := Sample.id 2, userID := Sample.id 1, sessionID := "s", refreshTokenHash := token, tenantID := "erg",
    expiresAt := 5000000000 }

def loggedIn : AuthStore :=
  { db := { Database.empty with users := ⟨[user], by simp, by simp⟩, sessions := ⟨[session], by simp⟩ } }

/-- Two calls that present the same token. -/
def twoRefreshes : List RefreshRequest := [⟨token, ""⟩, ⟨token, ""⟩]

/-- Both calls look for the used mark before either sets it. -/
def overlap (now : Time) : List (Nat × (AuthEnv × Fault)) :=
  ([0, 0, 1, 1] ++ List.replicate 15 0 ++ List.replicate 15 1).map (fun i => (i, ({ now := now }, .none)))

/-- The stamp of the refresh token that the event signs. -/
def issued (e : AuthEvent) : Option (ℤ × ℤ) :=
  match e.req with
  | .sign secret claims => if secret = "r" then some claims.stamp else none
  | _ => none

def draws (e : AuthEvent) : Bool :=
  match e.req with
  | .generateSessionID => true
  | _ => false

def succeeded : Program AuthRequest AuthReply (Except AuthError TokenResponse) → Bool
  | .done (.ok _) => true
  | _ => false

end Sample

/-- Two seconds later the second refresh is refused. -/
theorem exchangedOnce_two_seconds_later :
    ExchangedOnce Sample.twoRefreshes (refreshRun Sample.cfg Sample.loggedIn Sample.twoRefreshes (Sample.overlap 2000000000)) := by
  have hhistory : (refreshRun Sample.cfg Sample.loggedIn Sample.twoRefreshes
      (Sample.overlap 2000000000)).history.filterMap Sample.issued = [(2, 7)] ∧
      (refreshRun Sample.cfg Sample.loggedIn Sample.twoRefreshes
        (Sample.overlap 2000000000)).history.map Sample.draws = List.replicate 25 false := by decide +kernel
  obtain ⟨hissued, hdraws⟩ := hhistory
  refine exchangedOnce_of_issuesLater ?_ ?_ ?_
  · exact fun t u _ _ hhash => hhash
  · intro e he hreq
    have hdraw : true ∈ (refreshRun Sample.cfg Sample.loggedIn Sample.twoRefreshes
        (Sample.overlap 2000000000)).history.map Sample.draws :=
      List.mem_map.mpr ⟨e, he, by rw [Sample.draws, hreq]⟩
    rw [hdraws] at hdraw
    cases List.eq_of_mem_replicate hdraw
  · intro e he now sessionID userID hissues req presented hi hparse
    have hstamp : issueStamp Sample.cfg now ∈ (refreshRun Sample.cfg Sample.loggedIn Sample.twoRefreshes
        (Sample.overlap 2000000000)).history.filterMap Sample.issued := by
      refine List.mem_filterMap.mpr ⟨e, he, ?_⟩
      rw [Sample.issued, hissues]
      rfl
    rw [hissued] at hstamp
    have hreq : req.refreshToken = Sample.token := by
      have hmem := List.mem_of_getElem? hi
      simp [Sample.twoRefreshes] at hmem
      rw [hmem]
    rw [hreq, Sample.token, trimSpace_sign, show Sample.cfg.jwtRefreshSecret = "r" from rfl, parse_sign] at hparse
    cases hparse
    have hnow : issueStamp Sample.cfg now = (2, 7) := by simpa using hstamp
    have hpresented : (refreshClaims Sample.cfg 0 "s" (Sample.id 1).hex).stamp = (0, 5) := rfl
    rw [hnow, hpresented]
    exact Prod.mk_lt_mk.mpr (.inl ⟨by omega, by omega⟩)

/-- In the second in which the token was issued both refreshes succeed, also with used marks. -/
theorem refresh_token_exchanged_twice :
    ¬ExchangedOnce Sample.twoRefreshes (refreshRun Sample.cfg Sample.loggedIn Sample.twoRefreshes (Sample.overlap 500000000)) := by
  have hsucceeded : (refreshRun Sample.cfg Sample.loggedIn Sample.twoRefreshes
      (Sample.overlap 500000000)).threads.map Sample.succeeded = [true, true] := by decide +kernel
  generalize refreshRun Sample.cfg Sample.loggedIn Sample.twoRefreshes (Sample.overlap 500000000) = c at *
  have hdone : ∀ i < 2, ∃ tokens, c.threads[i]? = some (.done (.ok tokens)) := by
    intro i hi
    have hith := congrArg (fun l : List Bool => l[i]?) hsucceeded
    have htrue : ([true, true] : List Bool)[i]? = some true := by
      obtain rfl | rfl : i = 0 ∨ i = 1 := by omega
      · rfl
      · rfl
    simp only [List.getElem?_map, htrue, Option.map_eq_some_iff] at hith
    obtain ⟨p, hp, hsucceeds⟩ := hith
    cases p with
    | request q k => cases hsucceeds
    | done r =>
      cases r with
      | error e => cases hsucceeds
      | ok tokens => exact ⟨tokens, hp⟩
  obtain ⟨tokens₀, h₀⟩ := hdone 0 (by omega)
  obtain ⟨tokens₁, h₁⟩ := hdone 1 (by omega)
  intro honce
  have hsame := honce 0 1 ⟨Sample.token, ""⟩ ⟨Sample.token, ""⟩ tokens₀ tokens₁ rfl rfl rfl h₀ h₁
  omega

end Sample

end ErgGo.Auth
