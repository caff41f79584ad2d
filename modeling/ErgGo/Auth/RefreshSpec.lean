import ErgGo.Auth.RefreshRotation
import ErgGo.Lib.Recording

/-!
# One refresh alone

What a refresh does that no other call interferes with, from a store whose session holds the
presented token. Only a fault makes it fail, and a failure leaves the token as it was, or
marked as used, or displaced by a rotation whose reply was lost.
-/

namespace ErgGo.Auth
open Go Documents Concurrent Program Lms Postgres AccessControl AuthLibrary

/-- A mark, or a rotation to another hash. -/
def spends : AuthRequest → Prop
  | .redisSet .. => True
  | .rotateSessionRefreshToken _ _ currentHash nextHash _ => currentHash ≠ nextHash
  | _ => False

instance : DecidablePred spends := fun q =>
  match q with
  | .redisSet .. => isTrue trivial
  | .rotateSessionRefreshToken _ _ currentHash nextHash _ => inferInstanceAs (Decidable (currentHash ≠ nextHash))
  | .now | .generateSessionID | .sign .. | .findUserRecordByEmail .. | .findUserRecordByID _ | .loadUserRoleNames _
  | .updateUserIdentityFields .. | .updateUserRoles .. | .findSessionByID .. | .createSession _
  | .revokeAllUserSessionsWithReason .. | .createLoginAttempt _ | .latestSuccessfulLoginAt _ | .countLoginAttempts ..
  | .isFirewallRuleActive .. | .listActiveFirewallRules _ | .upsertFirewallRule .. | .ac _ | .redisExists _ | .redisGet _
  | .redisIncr _ | .redisTTL _ | .redisExpire .. | .redisDel _ => isFalse fun h => h

/-- The event has consumed the presented token: its request has taken effect. -/
def Consumes (e : AuthEvent) : Prop := spends e.req ∧ e.env.2 ≠ .lost

instance (e : AuthEvent) : Decidable (Consumes e) := inferInstanceAs (Decidable (_ ∧ _))

/-- The clock does not run backwards, and the expiry lies ahead. -/
def TimelyEvent (expiresAt : ℤ) (h : List AuthEvent) (e : AuthEvent) : Prop :=
  (∀ d ∈ h, d.env.1.now ≤ e.env.1.now) ∧ e.env.1.now < expiresAt * 1000000000

/-- The tables and the marks that a refresh is checked against. -/
structure SameTables (s s' : AuthStore) : Prop where
  users : s'.db.users = s.db.users
  sessions : s'.db.sessions = s.db.sessions
  redis : s'.redis = s.redis

/-- Keys other than this one stay absent. -/
def KeepsAbsent (key : String) (s s' : AuthStore) : Prop :=
  ∀ key', key' ≠ key → s.redis.lookup key' = none → s'.redis.lookup key' = none

lemma lookup_del_of_none {redis : GoMap RedisEntry} {keys : List String} {key : String} (h : redis.lookup key = none) :
    (Redis.del redis keys).lookup key = none := by
  unfold Redis.del
  induction keys generalizing redis with
  | nil => exact h
  | cons first rest ih =>
    refine ih ?_
    by_cases hkey : key = first
    · rw [hkey, AList.lookup_erase]
    · rw [AList.lookup_erase_ne hkey, h]

/-- A refresh token as its session holds it, and the device that presents it. -/
structure Presented where
  deviceID : String
  user : Postgres.AuthUser
  session : AuthSession
  issuedAt : Time

section Spec

variable [Library] [AuthLibrary] (cfg : AuthConfig) (p : Presented)

def Presented.claims : JWTClaims := refreshClaims cfg p.issuedAt p.session.sessionID p.user.id.hex

def Presented.token : String := sign cfg.jwtRefreshSecret (p.claims cfg)

def Presented.request : RefreshRequest := ⟨p.token cfg, p.deviceID⟩

/-- The key of the used mark. -/
def Presented.markKey : String := rtUsedKey p.user.id.hex (hashSHA256 (p.token cfg))

/-- The session holds the token, and both are in force. -/
structure Holds (s : AuthStore) : Prop where
  known : findUserRecordByID s.db p.user.id = some p.user
  stored : s.db.sessions.lookup (p.session.sessionID, p.user.tenantID) = some p.session
  named : p.session.sessionID ≠ ""
  hash : p.session.refreshTokenHash = hashSHA256 (p.token cfg)
  active : p.session.revokedAt = none
  expiry : p.issuedAt + cfg.refreshTokenTTL ≤ p.session.expiresAt
  device : trimSpace p.deviceID = "" ∨ p.session.deviceID = "" ∨ trimSpace p.deviceID = p.session.deviceID

/-- No used mark, where marks are kept. -/
def Unmarked (s : AuthStore) : Prop := cfg.redis → s.redis.lookup (p.markKey cfg) = none

def usedMark (now : Time) : RedisEntry := ⟨"1", Redis.expiry now cfg.refreshTokenTTL⟩

/-- The used mark was written at a clock reading of the history. -/
def Marked (w : AuthWorld) : Prop :=
  cfg.redis ∧ ∃ e ∈ w.2, w.1.redis.lookup (p.markKey cfg) = some (usedMark cfg e.env.1.now)

/-- Before the rotation: the session holds the token, which is marked if it was consumed. -/
structure Pending (s : AuthStore) (w : AuthWorld) : Prop where
  holds : Holds cfg p w.1
  kept : KeepsAbsent (p.markKey cfg) s w.1
  mark : (Unmarked cfg p w.1 ∧ ∀ e ∈ w.2, ¬Consumes e) ∨ (Marked cfg p w ∧ ∃ e ∈ w.2, Consumes e)

/-- A failure before the rotation. -/
def Faulty (s : AuthStore) (w : AuthWorld) : Prop := Pending cfg p s w ∧ ∃ e ∈ w.2, e.env.2 ≠ .none

/-- The call returns with `post`, or with a fault before the rotation. -/
abbrev Stage {α : Type} (s : AuthStore) (post : α → AuthWorld → Prop) (x : AuthCall α) (w : AuthWorld) : Prop :=
  EnsuresUnder exec (TimelyEvent (p.claims cfg).expiresAt) (Outcome post (fun _ w' => Faulty cfg p s w')) x.run w

variable {cfg p} {s : AuthStore} {w : AuthWorld}

omit [Library] in
lemma Holds.of_sameTables {s' : AuthStore} (hholds : Holds cfg p s) (husers : s'.db.users = s.db.users)
    (hsessions : s'.db.sessions = s.db.sessions) : Holds cfg p s' := by
  refine { hholds with known := ?_, stored := ?_ }
  · unfold findUserRecordByID
    rw [husers]
    exact hholds.known
  · rw [hsessions]
    exact hholds.stored

/-- The request neither changes the tables and marks nor consumes a token. -/
def Harmless (q : AuthRequest) : Prop := (∀ env s, SameTables s (carryOut env q s).2) ∧ ¬spends q

/-- An answer that is not the store's own is a fault. -/
lemma exec_reply (env : AuthEnv × Fault) (q : AuthRequest) (s : AuthStore) :
    (exec env q s).1 = (carryOut env.1 q s).1 ∨ (exec env q s).1 = .error .storeFailure ∧ env.2 ≠ .none := by
  obtain ⟨env, fault⟩ := env
  unfold exec
  split
  · cases fault with
    | none => exact .inl rfl
    | lost => exact .inr ⟨rfl, nofun⟩
    | unacknowledged => exact .inr ⟨rfl, nofun⟩
  · exact .inl rfl

/-- Only a lost request has no effect. -/
lemma exec_effect {q : AuthRequest} (hq : fallible q) (env : AuthEnv × Fault) (s : AuthStore) :
    (exec env q s).2 = s ∧ env.2 = .lost ∨ (exec env q s).2 = (carryOut env.1 q s).2 ∧ env.2 ≠ .lost := by
  unfold exec
  rw [if_pos hq]
  exact withFaults_store .storeFailure carryOut env q s

lemma Harmless.exec {q : AuthRequest} (hq : Harmless q) (env : AuthEnv × Fault) (s : AuthStore) :
    SameTables s (exec env q s).2 := by
  obtain hlost | hdone := exec_store env q s
  · rw [hlost]
    exact ⟨rfl, rfl, rfl⟩
  · rw [hdone]
    exact hq.1 env.1 s

omit [Library] in
/-- An event that consumes nothing and leaves the tables and marks. -/
lemma Pending.append (hw : Pending cfg p s w) {s' : AuthStore} (hsame : SameTables w.1 s') {e : AuthEvent}
    (hquiet : ¬Consumes e) : Pending cfg p s (s', w.2 ++ [e]) := by
  have hkeys : ∀ key, s'.redis.lookup key = w.1.redis.lookup key := fun key => by rw [hsame.redis]
  refine ⟨hw.holds.of_sameTables hsame.users hsame.sessions, fun key hne hkey => ?_, ?_⟩
  · exact (hkeys key).trans (hw.kept key hne hkey)
  · obtain ⟨hunmarked, hunconsumed⟩ | ⟨⟨hredis, d, hd, hmark⟩, c, hc, hconsumes⟩ := hw.mark
    · refine .inl ⟨fun hredis => (hkeys _).trans (hunmarked hredis), fun d hd => ?_⟩
      obtain hd | hd := List.mem_append.mp hd
      · exact hunconsumed d hd
      · rw [List.mem_singleton.mp hd]
        exact hquiet
    · exact .inr ⟨⟨hredis, d, List.mem_append_left _ hd, (hkeys _).trans hmark⟩, c, List.mem_append_left _ hc, hconsumes⟩

lemma Pending.harmless {q : AuthRequest} (hw : Pending cfg p s w) (hq : Harmless q) (env : AuthEnv × Fault) :
    Pending cfg p s ((exec env q w.1).2, w.2 ++ [⟨0, env, q, w.1⟩]) :=
  hw.append (hq.exec env w.1) fun h => hq.2 h.1

/-- A harmless request that the store can answer. -/
lemma stage_call {q : AuthRequest} {post : AuthResult q → AuthWorld → Prop} (hw : Pending cfg p s w) (hq : Harmless q)
    (hpost : ∀ env, TimelyEvent (p.claims cfg).expiresAt w.2 ⟨0, env, q, w.1⟩ →
      ∃ r, (carryOut env.1 q w.1).1 = .ok r ∧ ∀ w', Pending cfg p s w' → w'.1 = (exec env q w.1).2 →
        w'.2 = w.2 ++ [⟨0, env, q, w.1⟩] → post r w') :
    Stage cfg p s post (call q) w := by
  intro env henv
  have hpending := hw.harmless hq env
  obtain ⟨r, hr, hpost⟩ := hpost env henv
  obtain hreply | ⟨hreply, hfault⟩ := exec_reply env q w.1
  · rw [hreply, hr]
    exact hpost _ hpending rfl rfl
  · rw [hreply]
    exact ⟨hpending, _, List.mem_concat_self, hfault⟩

lemma stage_wrapping {α : Type} {post : α → AuthWorld → Prop} {context : String} {x : AuthCall α}
    (hx : Stage cfg p s post x w) : Stage cfg p s post (wrapping context x) w :=
  hx.run_handle fun _ _ hfaulty => hfaulty

/-- Where a failure is ignored, the call goes on with the default. -/
lemma stage_orElse {α : Type} {post : α → AuthWorld → Prop} {default : α} {x : AuthCall α}
    (hx : Stage cfg p s post x w) (hdefault : ∀ w', Pending cfg p s w' → post default w') :
    Stage cfg p s post (orElse default x) w :=
  hx.run_handle fun _ w' hfaulty => hdefault w' hfaulty.1

omit [Library] in
lemma validate_token {now : Time} (hnow : now < (p.claims cfg).expiresAt * 1000000000) :
    validate cfg cfg.jwtRefreshSecret now (p.token cfg) = some (p.claims cfg) := by
  unfold validate Presented.token
  rw [trimSpace_sign, parse_sign]
  dsimp only
  rw [if_neg (not_le.mpr hnow), if_neg (fun h => h rfl)]
  split
  · next huser =>
    change p.user.id.hex = "" at huser
    unfold Presented.claims
    rw [huser]
    rfl
  · rfl

/-- A call that is sent for its effect alone. -/
lemma ensures_orElse_call {J : List AuthEvent → AuthEvent → Prop} {P : AuthWorld → Prop} {q : AuthRequest}
    {default : AuthResult q} {err : AuthError → AuthWorld → Prop}
    (hcall : ∀ env, P ((exec env q w.1).2, w.2 ++ [⟨0, env, q, w.1⟩])) :
    EnsuresUnder exec J (Outcome (fun _ w' => P w') err) (orElse default (call q)).run w := by
  have hany : EnsuresUnder exec J (Outcome (fun _ w' => P w') (fun _ w' => P w')) (call q).run w := by
    intro env _
    have henv := hcall env
    cases (exec env q w.1).1 with
    | ok r => exact henv
    | error e => exact henv
  exact hany.run_handle fun _ _ hw' => hw'

/-- The mark is written, unless its request is lost. -/
lemma stage_mark (hw : Pending cfg p s w) :
    Stage cfg p s (fun _ w' => Pending cfg p s w')
      (orElse () (markRefreshTokenUsed cfg p.user.id.hex (hashSHA256 (p.token cfg)) cfg.refreshTokenTTL)) w := by
  unfold markRefreshTokenUsed
  by_cases hredis : cfg.redis
  · simp only [hredis]
    let q := AuthRequest.redisSet (p.markKey cfg) "1" cfg.refreshTokenTTL
    refine ensures_orElse_call (P := Pending cfg p s) (q := q) fun env => ?_
    have hfallible : fallible q := rfl
    obtain ⟨hlost, henv⟩ | ⟨hdone, henv⟩ := exec_effect hfallible env w.1
    · rw [hlost]
      exact hw.append ⟨rfl, rfl, rfl⟩ fun hconsumes => hconsumes.2 henv
    · rw [hdone]
      have hmark : (carryOut env.1 q w.1).2.redis.lookup (p.markKey cfg) = some (usedMark cfg env.1.now) :=
        AList.lookup_insert w.1.redis
      refine ⟨hw.holds.of_sameTables rfl rfl, fun key hne hkey => ?_, .inr ⟨⟨hredis, _, List.mem_concat_self, hmark⟩,
        _, List.mem_concat_self, trivial, henv⟩⟩
      change (AList.insert _ _ w.1.redis).lookup key = none
      rw [AList.lookup_insert_ne hne]
      exact hw.kept key hne hkey
  · simp only [hredis]
    exact hw

lemma harmless_now : Harmless .now := ⟨fun _ _ => ⟨rfl, rfl, rfl⟩, fun h => h⟩

/-- The presented token is valid and not marked, and is marked then. -/
lemma stage_consume (hw : Pending cfg p s w) (hunmarked : Unmarked cfg p w.1) :
    Stage cfg p s (fun claims w' => claims = p.claims cfg ∧ Pending cfg p s w')
      (consumeRefreshToken cfg (p.request cfg)) w := by
  unfold consumeRefreshToken
  have hnow : Stage cfg p s (fun now w' => validate cfg cfg.jwtRefreshSecret now (p.token cfg) = some (p.claims cfg) ∧
      Pending cfg p s w' ∧ w'.1 = w.1) (call .now) w :=
    stage_call hw harmless_now fun env henv =>
      ⟨env.1.now, rfl, fun w' hw' hstore _ => ⟨validate_token henv.2, hw', hstore⟩⟩
  refine hnow.run_bind fun now w₁ _ ⟨hvalidate, hw₁, hstore₁⟩ => ?_
  simp only [Presented.request, hvalidate]
  have hused : Stage cfg p s (fun used w' => used = false ∧ Pending cfg p s w')
      (orElse false (isRefreshTokenUsed cfg p.user.id.hex (hashSHA256 (p.token cfg)))) w₁ := by
    unfold isRefreshTokenUsed
    by_cases hredis : cfg.redis
    · simp only [hredis]
      refine stage_orElse (stage_call hw₁ ⟨fun _ _ => ⟨rfl, rfl, rfl⟩, fun h => h⟩ fun env _ => ⟨false, ?_, ?_⟩)
        fun w' hw' => ⟨rfl, hw'⟩
      · have habsent : w₁.1.redis.lookup (p.markKey cfg) = none := hstore₁ ▸ hunmarked hredis
        change Except.ok (Redis.live env.1.now w₁.1.redis (p.markKey cfg)).isSome = _
        unfold Redis.live
        rw [habsent]
        rfl
      · exact fun w' hw' _ _ => ⟨rfl, hw'⟩
    · simp only [hredis]
      exact ⟨rfl, hw₁⟩
  refine hused.run_bind fun used w₂ _ ⟨hunused, hw₂⟩ => ?_
  rw [hunused]
  exact (stage_mark hw₂).run_bind fun _ w₃ _ hw₃ => ⟨rfl, hw₃⟩

/-- The user and the session of the presented token are found, and the session accepts it. -/
lemma stage_presentedSession (hw : Pending cfg p s w) :
    Stage cfg p s (fun (found : User × String) w' =>
        found.1.toAuthUser = p.user ∧ found.2 = p.session.sessionID ∧ Pending cfg p s w')
      (presentedSession (p.request cfg) (p.claims cfg)) w := by
  have hread : ∀ {q}, (∀ env s, (carryOut env q s).2 = s) → ¬spends q → Harmless q :=
    fun hstore hq => ⟨fun env s => by rw [hstore]; exact ⟨rfl, rfl, rfl⟩, hq⟩
  unfold presentedSession
  have huserID : objectIDOrNil (p.claims cfg).userID = p.user.id := by
    change objectIDOrNil p.user.id.hex = p.user.id
    unfold objectIDOrNil
    rw [objectID_hex]
    rfl
  have huser : Stage cfg p s (fun (found : User) w' => found.toAuthUser = p.user ∧ Pending cfg p s w')
      (wrapping "auth.service.refreshToken: find user" (findUserByID p.user.id)) w := by
    refine stage_wrapping ?_
    have hrecord : Stage cfg p s (fun record w' => record = p.user ∧ Pending cfg p s w')
        (call (.findUserRecordByID p.user.id)) w := by
      refine stage_call hw (hread (fun _ _ => rfl) fun h => h) fun env _ =>
        ⟨p.user, ?_, fun w' hw' _ _ => ⟨rfl, hw'⟩⟩
      unfold carryOut
      dsimp only
      rw [hw.holds.known]
      rfl
    refine hrecord.run_bind fun record w₁ _ ⟨hrecord, hw₁⟩ => ?_
    have hroles : Stage cfg p s (fun _ w' => Pending cfg p s w') (call (.loadUserRoleNames record.id.hex)) w₁ :=
      stage_call hw₁ (hread (fun _ _ => rfl) fun h => h) fun env _ => ⟨_, rfl, fun w' hw' _ _ => hw'⟩
    exact hroles.run_bind fun roles w₂ _ hw₂ => ⟨hrecord, hw₂⟩
  rw [huserID]
  refine huser.run_bind fun found w₁ _ ⟨hfound, hw₁⟩ => ?_
  have hsessionID : Stage cfg p s (fun sessionID w' => sessionID = p.session.sessionID ∧ Pending cfg p s w')
      (presentedSessionID (p.claims cfg)) w₁ := by
    have hnamed : sessionIDFromClaims (p.claims cfg) = p.session.sessionID := if_pos hw.holds.named
    unfold presentedSessionID
    rw [hnamed, if_neg hw.holds.named]
    exact ⟨rfl, hw₁⟩
  refine hsessionID.run_bind fun sessionID w₂ _ ⟨hsessionID, hw₂⟩ => ?_
  have hstored : Stage cfg p s (fun stored w' => stored = p.session ∧ Pending cfg p s w')
      (tryCatch (call (.findSessionByID sessionID found.tenantID)) (fun err =>
        throw (if err = .sessionNotFound then .sessionReplaced else .wrap "auth.service.refreshToken: find session" err)))
      w₂ := by
    have hcall : Stage cfg p s (fun stored w' => stored = p.session ∧ Pending cfg p s w')
        (call (.findSessionByID sessionID found.tenantID)) w₂ := by
      refine stage_call hw₂ (hread (fun _ _ => rfl) fun h => h) fun env _ =>
        ⟨p.session, ?_, fun w' hw' _ _ => ⟨rfl, hw'⟩⟩
      unfold carryOut
      dsimp only
      rw [hsessionID, hfound, hw₂.holds.stored]
      rfl
    exact hcall.run_handle fun _ _ hfaulty => hfaulty
  refine hstored.run_bind fun stored w₃ _ ⟨hstored, hw₃⟩ => ?_
  have hnow : Stage cfg p s (fun now w' => ¬now > p.session.expiresAt ∧ Pending cfg p s w') (call .now) w₃ := by
    refine stage_call hw₃ harmless_now fun env henv => ⟨env.1.now, rfl, fun w' hw' _ _ => ⟨?_, hw'⟩⟩
    have hseconds : (p.claims cfg).expiresAt * 1000000000 ≤ p.issuedAt + cfg.refreshTokenTTL :=
      Int.ediv_mul_le _ (by omega)
    exact not_lt.mpr (henv.2.le.trans (hseconds.trans hw.holds.expiry))
  refine hnow.run_bind fun now w₄ _ ⟨hunexpired, hw₄⟩ => ?_
  change EnsuresUnder _ _ _ (ExceptT.run (if stored.revokedAt.isSome || now > stored.expiresAt then _ else _)) _
  simp only [Presented.request, hstored, hw.holds.active, hw.holds.hash, hunexpired, Option.isSome_none,
    decide_false, Bool.or_self, Bool.false_eq_true, ne_eq, not_true_eq_false, ↓reduceIte]
  split
  · next hdevice =>
    rw [Bool.and_eq_true, Bool.and_eq_true] at hdevice
    obtain ⟨⟨hgiven, hbound⟩, hother⟩ := hdevice
    obtain hempty | hempty | hsame := hw.holds.device
    · exact absurd hempty (of_decide_eq_true hgiven)
    · exact absurd hempty (of_decide_eq_true hbound)
    · exact absurd hsame (of_decide_eq_true hother)
  · exact ⟨hfound, hsessionID, hw₄⟩

lemma harmless_ac (q : ACRequest) : Harmless (.ac q) := by
  refine ⟨fun env s => ?_, fun h => h⟩
  cases q with
  | setUserRoles userID roles =>
    unfold carryOut AccessControl.exec setUserRoles
    dsimp only
    split
    · exact ⟨rfl, rfl, rfl⟩
    · exact ⟨rfl, rfl, rfl⟩
  | _ => exact ⟨rfl, rfl, rfl⟩

/-- Permissions that cannot be found out are left out. -/
lemma stage_effectivePermissions (hw : Pending cfg p s w) (userID : String) :
    Stage cfg p s (fun _ w' => Pending cfg p s w') (effectivePermissions cfg userID) w := by
  unfold effectivePermissions
  split
  · have hreads : EnsuresUnder exec (TimelyEvent (p.claims cfg).expiresAt) (fun _ w' => Pending cfg p s w')
        ((AccessControl.Service.getEffectivePermissions userID).run.interp acReply) w := by
      have hreply : ∀ q, True → (acReply q).AllRequests Harmless := fun q _ => ⟨harmless_ac q, fun _ => trivial⟩
      refine EnsuresUnder.of_allRequests (I := Pending cfg p s) ?_ (AllRequests.interp hreply
        (AllRequests.of_forall (fun _ => trivial) _)) hw
      exact fun env q w' hq hw' => hw'.harmless hq env
    exact hreads.bind fun _ w' _ hw' => hw'
  · exact hw

/-- The new pair is signed with the time of a clock reading of the call. -/
lemma stage_refreshedPair (hw : Pending cfg p s w) (found : User) (sessionID : String) :
    Stage cfg p s (fun tokens w' => Pending cfg p s w' ∧ ∃ now, (∃ d ∈ w'.2, d.env.1.now = now) ∧
        (∃ e ∈ w'.2, Issues cfg e now sessionID found.id.hex) ∧
        tokens.refreshToken = sign cfg.jwtRefreshSecret (refreshClaims cfg now sessionID found.id.hex))
      (refreshedPair cfg found sessionID) w := by
  unfold refreshedPair
  refine (stage_effectivePermissions hw _).run_bind fun perms w₁ _ hw₁ => ?_
  refine stage_wrapping ?_
  unfold issuePair
  have hnow : Stage cfg p s (fun now w' => Pending cfg p s w' ∧ ∃ d ∈ w'.2, d.env.1.now = now) (call .now) w₁ := by
    refine stage_call hw₁ harmless_now fun env _ => ⟨env.1.now, rfl, fun w' hw' _ hhistory => ⟨hw', ?_⟩⟩
    exact ⟨_, hhistory ▸ List.mem_concat_self, rfl⟩
  refine hnow.run_bind fun now w₂ _ ⟨hw₂, d, hd, hnow⟩ => ?_
  have hsign : ∀ secret claims context w, Pending cfg p s w →
      Stage cfg p s (fun token w' => Pending cfg p s w' ∧ token = sign secret claims ∧
        ∃ e ∈ w'.2, e.req = .sign secret claims) (wrapping context (call (.sign secret claims))) w := by
    intro secret claims context w hw
    refine stage_wrapping (stage_call hw ⟨fun _ _ => ⟨rfl, rfl, rfl⟩, fun h => h⟩ fun env _ =>
      ⟨_, rfl, fun w' hw' _ hhistory => ⟨hw', rfl, ?_⟩⟩)
    exact ⟨_, hhistory ▸ List.mem_concat_self, rfl⟩
  refine (hsign _ _ _ w₂ hw₂).run_bind fun accessToken w₃ h₃ ⟨hw₃, _⟩ => ?_
  refine (hsign _ _ _ w₃ hw₃).run_bind fun refreshToken w₄ h₄ ⟨hw₄, hsigned, e, he, hreq⟩ => ?_
  exact ⟨hw₄, now, ⟨d, (h₃.trans h₄).subset hd, hnow⟩, ⟨e, he, hreq⟩, hsigned⟩

/-- The session a rotation leaves. -/
def rotatedSession (session : AuthSession) (now : Time) (nextHash : String) (expiresAt : Time) : AuthSession :=
  (setRefreshToken now nextHash expiresAt).apply session

omit [Library] in
/-- A rotation finds the session that holds the token, and leaves it with the next one. -/
lemma lookup_rotate (hholds : Holds cfg p s) {now : Time} (hnow : now < p.session.expiresAt) (nextHash : String)
    (expiresAt : Time) :
    let out := rotateSessionRefreshToken s.db now p.session.sessionID p.user.tenantID (hashSHA256 (p.token cfg)) nextHash
      expiresAt
    out.1 = .ok () ∧ out.2.users = s.db.users ∧ out.2.sessions.lookup (p.session.sessionID, p.user.tenantID) =
      some (rotatedSession p.session now nextHash expiresAt) := by
  intro out
  let matching := rotatable p.session.sessionID p.user.tenantID (hashSHA256 (p.token cfg)) now
  have hkey : p.session.key = (p.session.sessionID, p.user.tenantID) := Collection.key_of_lookup hholds.stored
  have htenant : p.session.tenantID = p.user.tenantID := congrArg Prod.snd hkey
  have hmatching : matching p.session := by
    simp [matching, rotatable, htenant, hholds.hash, hholds.active, hnow]
  have hpinned := rotatable_pinned p.session.sessionID p.user.tenantID (hashSHA256 (p.token cfg)) now
  have hfind : s.db.sessions.find matching = some p.session := by
    rw [Collection.find_of_pinned hpinned, hholds.stored, Option.filter_some, if_pos hmatching]
  let rotated := s.db.sessions.updateOne matching (setRefreshToken now nextHash expiresAt)
  have hout : out = (.ok (), { s.db with sessions := rotated }) := by
    change rotateSessionRefreshToken _ _ _ _ _ _ _ = _
    unfold rotateSessionRefreshToken
    rw [hfind]
    rfl
  rw [hout]
  refine ⟨rfl, rfl, ?_⟩
  change rotated.lookup _ = _
  rw [Collection.lookup_updateOne hpinned, hholds.stored, Option.map_some, if_pos ⟨rfl, hmatching⟩]
  rfl

variable (cfg p) in
/-- The session has another hash in the place of the token's. -/
def Displaced (s : AuthStore) : Prop :=
  findUserRecordByID s.db p.user.id = some p.user ∧ p.session.sessionID ≠ "" ∧
    ∃ session, s.db.sessions.lookup (p.session.sessionID, p.user.tenantID) = some session ∧
      session.refreshTokenHash ≠ hashSHA256 (p.token cfg)

variable (cfg p) in
/-- The token is as good as before. -/
def Untouched (w : AuthWorld) : Prop :=
  (∃ session, session.sessionID = p.session.sessionID ∧ Holds cfg { p with session := session } w.1) ∧
    Unmarked cfg p w.1 ∧ ∀ e ∈ w.2, ¬Consumes e

variable (cfg p) in
/-- The token is marked as used or displaced. -/
def Spent (w : AuthWorld) : Prop :=
  (Marked cfg p w ∨ Unmarked cfg p w.1 ∧ Displaced cfg p w.1) ∧ ∃ e ∈ w.2, Consumes e

omit [Library] in
lemma Pending.untouched_or_spent (hw : Pending cfg p s w) : Untouched cfg p w ∨ Spent cfg p w := by
  obtain ⟨hunmarked, hunconsumed⟩ | ⟨hmarked, hconsumed⟩ := hw.mark
  · exact .inl ⟨⟨p.session, rfl, hw.holds⟩, hunmarked, hunconsumed⟩
  · exact .inr ⟨.inl hmarked, hconsumed⟩

variable (cfg p) in
/-- The token is exchanged: the session holds the new one. -/
def Refreshed (s : AuthStore) (tokens : TokenPair) (w : AuthWorld) : Prop :=
  KeepsAbsent (p.markKey cfg) s w.1 ∧ ∃ session now, session.sessionID = p.session.sessionID ∧
    (∃ e ∈ w.2, Issues cfg e now p.session.sessionID p.user.id.hex) ∧
    tokens.refreshToken = ({ p with session := session, issuedAt := now } : Presented).token cfg ∧
    Holds cfg { p with session := session, issuedAt := now } w.1

variable (cfg p) in
/-- The call failed: there was a fault, and the token is as good as before or spent. -/
def Failed (w : AuthWorld) : Prop :=
  (∃ e ∈ w.2, e.env.2 ≠ .none) ∧ ((∀ e ∈ w.2, p.issuedAt ≤ e.env.1.now) → Untouched cfg p w ∨ Spent cfg p w)

omit [Library] in
lemma Faulty.failed (hw : Faulty cfg p s w) : Failed cfg p w :=
  ⟨hw.2, fun _ => hw.1.untouched_or_spent⟩

omit [Library] in
/-- What a rotation leaves: its session with the next hash. -/
lemma Holds.rotated (hholds : Holds cfg p s) {now issuedAt expiresAt : Time} (hnow : now < p.session.expiresAt)
    {nextHash : String} {s' : AuthStore} (hs' : s'.db = (rotateSessionRefreshToken s.db now p.session.sessionID
      p.user.tenantID (hashSHA256 (p.token cfg)) nextHash expiresAt).2)
    (hhash : nextHash = hashSHA256 (({ p with issuedAt := issuedAt } : Presented).token cfg))
    (hexpiry : issuedAt + cfg.refreshTokenTTL ≤ expiresAt) :
    Holds cfg { p with session := rotatedSession p.session now nextHash expiresAt, issuedAt := issuedAt } s' := by
  obtain ⟨-, husers, hlookup⟩ := lookup_rotate hholds hnow nextHash expiresAt
  have hknown := hholds.known
  unfold findUserRecordByID at hknown
  exact {
    known := by
      unfold findUserRecordByID
      rw [hs', husers]
      exact hknown
    stored := hs' ▸ hlookup
    named := hholds.named
    hash := hhash
    active := hholds.active
    expiry := hexpiry
    device := hholds.device }

/-- A rotation that took effect without being acknowledged. -/
lemma Pending.rotated (hw : Pending cfg p s w) {env : AuthEnv × Fault} {nextHash : String} {expiresAt : Time}
    (hnow : env.1.now < p.session.expiresAt) (henv : env.2 ≠ .lost)
    (hexpiry : p.issuedAt + cfg.refreshTokenTTL ≤ expiresAt) :
    let q := AuthRequest.rotateSessionRefreshToken p.session.sessionID p.user.tenantID (hashSHA256 (p.token cfg)) nextHash
      expiresAt
    let w' : AuthWorld := ((carryOut env.1 q w.1).2, w.2 ++ [⟨0, env, q, w.1⟩])
    Untouched cfg p w' ∨ Spent cfg p w' := by
  intro q w'
  obtain ⟨-, husers, hlookup⟩ := lookup_rotate hw.holds hnow nextHash expiresAt
  have hmarked : Marked cfg p w → Marked cfg p w' := fun ⟨hredis, e, he, hmark⟩ =>
    ⟨hredis, e, List.mem_append_left _ he, hmark⟩
  by_cases hsame : hashSHA256 (p.token cfg) = nextHash
  · obtain ⟨hunmarked, hunconsumed⟩ | ⟨hm, d, hd, hconsumes⟩ := hw.mark
    · left
      have hholds : Holds cfg { p with session := rotatedSession p.session env.1.now nextHash expiresAt } w'.1 :=
        hw.holds.rotated hnow rfl hsame.symm hexpiry
      refine ⟨⟨rotatedSession p.session env.1.now nextHash expiresAt, rfl, hholds⟩, hunmarked, fun e he => ?_⟩
      obtain he | he := List.mem_append.mp he
      · exact hunconsumed e he
      · rw [List.mem_singleton.mp he]
        exact fun hconsumes => hconsumes.1 hsame
    · exact .inr ⟨.inl (hmarked hm), d, List.mem_append_left _ hd, hconsumes⟩
  · right
    refine ⟨?_, _, List.mem_concat_self, hsame, henv⟩
    obtain ⟨hunmarked, -⟩ | ⟨hm, -⟩ := hw.mark
    · refine .inr ⟨hunmarked, ?_, hw.holds.named, _, hlookup, fun hhash => hsame hhash.symm⟩
      have hknown := hw.holds.known
      unfold findUserRecordByID at hknown ⊢
      change (rotateSessionRefreshToken _ _ _ _ _ _ _).2.users.rows.find? _ = _
      rw [husers]
      exact hknown
    · exact .inl (hmarked hm)

/-- A rotation that is not answered. -/
lemma Pending.unanswered (hw : Pending cfg p s w) {env : AuthEnv × Fault} {nextHash : String} {expiresAt : Time}
    (hnow : env.1.now < p.session.expiresAt) (hexpiry : p.issuedAt + cfg.refreshTokenTTL ≤ expiresAt) :
    let q := AuthRequest.rotateSessionRefreshToken p.session.sessionID p.user.tenantID (hashSHA256 (p.token cfg)) nextHash
      expiresAt
    let w' : AuthWorld := ((exec env q w.1).2, w.2 ++ [⟨0, env, q, w.1⟩])
    Untouched cfg p w' ∨ Spent cfg p w' := by
  intro q w'
  have hfallible : fallible q := rfl
  obtain ⟨hlost, henv⟩ | ⟨hdone, henv⟩ := exec_effect hfallible env w.1
  · have hw' : w' = (w.1, w.2 ++ [⟨0, env, q, w.1⟩]) := Prod.ext hlost rfl
    rw [hw']
    exact (hw.append ⟨rfl, rfl, rfl⟩ fun hconsumes => hconsumes.2 henv).untouched_or_spent
  · have hw' : w' = ((carryOut env.1 q w.1).2, w.2 ++ [⟨0, env, q, w.1⟩]) := Prod.ext hdone rfl
    rw [hw']
    exact hw.rotated hnow henv hexpiry

/-- The call succeeds with `post`, or fails with a fault. -/
abbrev Attempt (cfg : AuthConfig) (p : Presented) {α : Type} (post : α → AuthWorld → Prop) (x : AuthCall α)
    (w : AuthWorld) : Prop :=
  EnsuresUnder exec (TimelyEvent (p.claims cfg).expiresAt) (Outcome post (fun _ w' => Failed cfg p w')) x.run w

lemma attempt_of_stage {α : Type} {post : α → AuthWorld → Prop} {x : AuthCall α} (hx : Stage cfg p s post x w) :
    Attempt cfg p post x w := by
  refine EnsuresUnder.mono hx fun r w' _ hr => ?_
  cases r with
  | ok a => exact hr
  | error e => exact hr.failed

/-- The session holds the new token then, unless there was a fault. -/
lemma attempt_rotate (hw : Pending cfg p s w) {found : User} (hfound : found.toAuthUser = p.user) {tokens : TokenPair}
    {now : Time} (hnow : ∃ d ∈ w.2, d.env.1.now = now)
    (hissues : ∃ e ∈ w.2, Issues cfg e now p.session.sessionID p.user.id.hex)
    (htokens : tokens.refreshToken = ({ p with issuedAt := now } : Presented).token cfg) :
    Attempt cfg p (fun _ w' => Refreshed cfg p s tokens w')
      (rotateRefreshToken cfg (p.request cfg) found p.session.sessionID tokens) w := by
  unfold rotateRefreshToken
  have hlater : Stage cfg p s (fun later w' => Pending cfg p s w' ∧ now ≤ later ∧ w.2 <+: w'.2 ∧
      ∃ d ∈ w'.2, d.env.1.now = later) (call .now) w := by
    refine stage_call hw harmless_now fun env henv => ⟨env.1.now, rfl, fun w' hw' _ hhistory => ⟨hw', ?_, ?_, ?_⟩⟩
    · obtain ⟨d, hd, hdnow⟩ := hnow
      exact hdnow ▸ henv.1 d hd
    · exact hhistory ▸ List.prefix_append _ _
    · exact ⟨_, hhistory ▸ List.mem_concat_self, rfl⟩
  refine (attempt_of_stage hlater).run_bind fun later w₁ _ ⟨hw₁, hlater, hextends, d, hd, hdnow⟩ => ?_
  rw [hfound]
  let q := AuthRequest.rotateSessionRefreshToken p.session.sessionID p.user.tenantID (hashSHA256 (p.token cfg))
    (hashSHA256 tokens.refreshToken) (later + cfg.refreshTokenTTL)
  have hcall : EnsuresUnder exec (TimelyEvent (p.claims cfg).expiresAt)
      (Outcome (fun _ w' => Refreshed cfg p s tokens w') (fun err w' => err = .storeFailure ∧ Failed cfg p w'))
      (call q).run w₁ := by
    intro env henv
    have hseconds : (p.claims cfg).expiresAt * 1000000000 ≤ p.issuedAt + cfg.refreshTokenTTL :=
      Int.ediv_mul_le _ (by omega)
    have hunexpired : env.1.now < p.session.expiresAt := henv.2.trans_le (hseconds.trans hw₁.holds.expiry)
    obtain ⟨hok, -, -⟩ := lookup_rotate hw₁.holds hunexpired (hashSHA256 tokens.refreshToken)
      (later + cfg.refreshTokenTTL)
    obtain hreply | ⟨hreply, hfault⟩ := exec_reply env q w₁.1
    · have hreply' : (exec env q w₁.1).1 = .ok () := hreply.trans hok
      rw [hreply', (exec_ok hreply').2]
      let rotated := rotatedSession p.session env.1.now (hashSHA256 tokens.refreshToken) (later + cfg.refreshTokenTTL)
      have hholds' : Holds cfg { p with session := rotated, issuedAt := now } (carryOut env.1 q w₁.1).2 :=
        hw₁.holds.rotated hunexpired rfl (congrArg hashSHA256 htokens) (Int.add_le_add_right hlater _)
      obtain ⟨e, he, hissues⟩ := hissues
      exact ⟨hw₁.kept, rotated, now, rfl, ⟨e, List.mem_append_left _ (hextends.subset he), hissues⟩, htokens, hholds'⟩
    · rw [hreply]
      refine ⟨rfl, ⟨_, List.mem_concat_self, hfault⟩, fun hclock => hw₁.unanswered hunexpired ?_⟩
      have hissued : p.issuedAt ≤ later := hdnow ▸ hclock d (List.mem_append_left _ hd)
      exact Int.add_le_add_right hissued _
  refine hcall.run_handle fun err w' ⟨herr, hfailed⟩ => ?_
  rw [herr]
  exact hfailed

/-- The whole call: it succeeds and the session holds the new token, or there was a fault. -/
theorem attempt_refreshToken (hholds : Holds cfg p s) (hunmarked : Unmarked cfg p s) :
    Attempt cfg p (fun tokens w' => Refreshed cfg p s tokens w') (refreshToken cfg (p.request cfg)) (s, []) := by
  have hstart : Pending cfg p s (s, []) := ⟨hholds, fun _ _ h => h, .inl ⟨hunmarked, by simp⟩⟩
  unfold refreshToken
  refine (attempt_of_stage (stage_consume hstart hunmarked)).run_bind fun claims w₁ _ ⟨hclaims, hw₁⟩ => ?_
  rw [hclaims]
  refine (attempt_of_stage (stage_presentedSession hw₁)).run_bind fun found w₂ _ hfound => ?_
  obtain ⟨found, sessionID⟩ := found
  obtain ⟨hfound, hsessionID, hw₂⟩ := hfound
  dsimp only at hfound hsessionID
  subst hsessionID
  have hid : found.id = p.user.id := congrArg Postgres.AuthUser.id hfound
  refine (attempt_of_stage (stage_refreshedPair hw₂ found p.session.sessionID)).run_bind fun tokens w₃ _ hpair => ?_
  obtain ⟨hw₃, now, hnow, hissues, htokens⟩ := hpair
  rw [hid] at hissues htokens
  refine (attempt_rotate hw₃ hfound hnow hissues htokens).run_bind fun _ w₄ _ hrefreshed => ?_
  obtain ⟨hkept, session, now', hsession, hissues', htokens', hholds'⟩ := hrefreshed
  have hcache : Attempt cfg p (fun _ w' => w'.1.db = w₄.1.db ∧ w₄.2 <+: w'.2 ∧
      ∀ key, w₄.1.redis.lookup key = none → w'.1.redis.lookup key = none)
      (orElse () (invalidateSessionCache cfg found.id.hex p.session.sessionID)) w₄ := by
    unfold invalidateSessionCache
    by_cases hredis : cfg.redis
    · simp only [hredis]
      refine ensures_orElse_call (P := fun w' => w'.1.db = w₄.1.db ∧ w₄.2 <+: w'.2 ∧
        ∀ key, w₄.1.redis.lookup key = none → w'.1.redis.lookup key = none) (q := .redisDel _) fun env => ?_
      refine ⟨?_, List.prefix_append _ _, fun key hkey => ?_⟩
      · obtain hlost | hdone := exec_store env (.redisDel _) w₄.1
        · exact congrArg AuthStore.db hlost
        · exact (congrArg AuthStore.db hdone).trans rfl
      · obtain hlost | hdone := exec_store env (.redisDel _) w₄.1
        · exact (congrArg (fun s => s.redis.lookup key) hlost).trans hkey
        · exact (congrArg (fun s => s.redis.lookup key) hdone).trans (lookup_del_of_none hkey)
    · simp only [hredis]
      exact ⟨rfl, List.prefix_rfl, fun _ hkey => hkey⟩
  refine hcache.run_bind fun _ w₅ _ ⟨hdb, hextends, habsent⟩ => ?_
  refine ⟨fun key hne hkey => habsent key (hkept key hne hkey), session, now', hsession, ?_, htokens',
    hholds'.of_sameTables (congrArg Database.users hdb) (congrArg Database.sessions hdb)⟩
  obtain ⟨e, he, hissues⟩ := hissues'
  exact ⟨e, hextends.subset he, hissues⟩

end Spec

end ErgGo.Auth
