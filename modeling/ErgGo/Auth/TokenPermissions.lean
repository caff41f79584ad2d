import ErgGo.AccessControl.Decision
import ErgGo.Auth.LoginChecks
import ErgGo.Auth.RefreshRotation

/-!
# The permissions in a token

A login and a refresh each look up the permissions for the token they issue. Only the login gives every
permission to an administrator, and neither puts what is denied to the user into the token.
-/

namespace ErgGo.Auth
open Go Documents Concurrent Program Lms Postgres AccessControl AuthLibrary

/-- The tables that say who a user is and what the user may do. -/
structure SameAccess (db db' : Database) : Prop where
  users : db'.users = db.users
  roles : db'.roles = db.roles
  permissions : db'.permissions = db.permissions
  userRoles : db'.userRoles = db.userRoles
  rolePermissions : db'.rolePermissions = db.rolePermissions
  overrides : db'.overrides = db.overrides

/-- The request writes none of these tables. -/
def keepsAccess : AuthRequest → Prop
  | .updateUserIdentityFields .. | .updateUserRoles .. | .ac (.setUserRoles ..) => False
  | _ => True

def asksAccess : AuthRequest → Bool
  | .ac _ => true
  | _ => false

/-- A clock reading at which the overrides that have expired are those that have now. -/
def SameExpiry (overrides : List ACUserPermissionOverride) (now t : Time) : Prop :=
  ∀ o ∈ overrides, expired t o = expired now o

abbrev SteadyEnv (overrides : List ACUserPermissionOverride) (now : Time) :=
  {env : AuthEnv × Fault // SameExpiry overrides now env.1.now}

section Permissions

variable [Library] [AuthLibrary]

/-- The store, in which either every request for permissions is answered or every one fails. -/
def answering (up : Bool) (overrides : List ACUserPermissionOverride) (now : Time) (env : SteadyEnv overrides now)
    (q : AuthRequest) (s : AuthStore) : AuthReply q × AuthStore :=
  if asksAccess q then if up then carryOut env.1.1 q s else (.error .storeFailure, s) else exec env.1 q s

omit [AuthLibrary] in
/-- The override applied last grants the permission or, without one, a role of the user has it. -/
def Granted (db : Database) (userID : String) (now : Time) (p : String) : Prop :=
  (deciding now p (listOverridesByUser db userID)).elim
    (p ∈ listPermissionNamesByRoleRefs db (getUserRoles db userID)) (fun o => o.grantType = "GRANT")

instance (db : Database) (userID : String) (now : Time) (p : String) : Decidable (Granted db userID now p) :=
  match h : deciding now p (listOverridesByUser db userID) with
  | none =>
    decidable_of_iff (p ∈ listPermissionNamesByRoleRefs db (getUserRoles db userID))
      (by rw [Granted, h, Option.elim_none])
  | some o => decidable_of_iff (o.grantType = "GRANT") (by rw [Granted, h, Option.elim_some])

/-- The user is given every permission at a login. -/
def isFullAccess (cfg : AuthConfig) (db : Database) (user : Postgres.AuthUser) : Bool :=
  grantsAllPermissions (loadUserRoleNames db user.id.hex) || isConfiguredAdminEmail cfg user.email

variable (cfg : AuthConfig)

/-- A login or a refresh that starts from these tables issues the access token. -/
inductive IssuesToken (up : Bool) (db : Database) (now : Time) : (loggedIn : Bool) → String → Prop
  | login {req : LoginRequest} {sec : LoginSecurityContext} {s s' : AuthStore} {resp : AuthResponse}
    (htables : SameAccess db s.db)
    (hrun : Evaluates (answering up db.overrides now) (login cfg req sec).run s (.ok resp) s') :
    IssuesToken up db now true resp.accessToken
  | refresh {req : RefreshRequest} {s s' : AuthStore} {tokens : TokenResponse} (htables : SameAccess db s.db)
    (hrun : Evaluates (answering up db.overrides now) (refreshToken cfg req).run s (.ok tokens) s') :
    IssuesToken up db now false tokens.accessToken

/-- What the claims of an access token say of the user's access. -/
structure Carries (up : Bool) (db : Database) (now : Time) (userID : String) (full : Bool) (claims : JWTClaims) :
    Prop where
  user : claims.userID = userID
  denied : claims.deniedPermissions = []
  all : full → claims.permissions = ["*"]
  roles : ¬full → claims.roles = loadUserRoleNames db userID
  granted : ¬full → ∀ p, p ∈ claims.permissions ↔ (up ∧ cfg.accessControl) ∧ Granted db userID now p

/-! ## The access tables -/

variable {cfg} {up : Bool} {now : Time} {db : Database} {overrides : List ACUserPermissionOverride}

omit [Library] [AuthLibrary] in
lemma SameAccess.refl (db : Database) : SameAccess db db := ⟨rfl, rfl, rfl, rfl, rfl, rfl⟩

omit [Library] [AuthLibrary] in
lemma SameAccess.trans {db' db'' : Database} (h : SameAccess db db') (h' : SameAccess db' db'') : SameAccess db db'' :=
  ⟨h'.users.trans h.users, h'.roles.trans h.roles, h'.permissions.trans h.permissions, h'.userRoles.trans h.userRoles,
    h'.rolePermissions.trans h.rolePermissions, h'.overrides.trans h.overrides⟩

omit [AuthLibrary] in
lemma SameAccess.granted_iff {db' : Database} (h : SameAccess db db') (userID p : String) :
    Granted db' userID now p ↔ Granted db userID now p := by
  have hroles : getUserRoles db' userID = getUserRoles db userID := by
    unfold getUserRoles roleNames
    rw [h.userRoles, h.roles]
  have hnames (refs : List String) :
      listPermissionNamesByRoleRefs db' refs = listPermissionNamesByRoleRefs db refs := by
    unfold listPermissionNamesByRoleRefs
    rw [h.roles, h.rolePermissions, h.permissions]
  unfold Granted listOverridesByUser
  rw [hroles, hnames, h.overrides]

omit [AuthLibrary] [Library] in
lemma SameAccess.loadUserRoleNames_eq {db' : Database} (h : SameAccess db db') (userID : String) :
    loadUserRoleNames db' userID = loadUserRoleNames db userID := by
  unfold loadUserRoleNames roleNames
  rw [h.userRoles, h.roles]

omit [AuthLibrary] [Library] in
lemma keepsAccess_of_isLoginCheck {q : AuthRequest} (hq : isLoginCheck q) : keepsAccess q := by
  cases q <;> trivial

lemma sameAccess_carryOut {q : AuthRequest} (hq : keepsAccess q) (env : AuthEnv) (s : AuthStore) :
    SameAccess s.db (carryOut env q s).2.db := by
  cases q
  case updateUserIdentityFields => exact hq.elim
  case updateUserRoles => exact hq.elim
  case ac q =>
    cases q
    case setUserRoles => exact hq.elim
    all_goals exact .refl _
  case createSession session =>
    unfold carryOut
    dsimp only
    split
    · exact ⟨rfl, rfl, rfl, rfl, rfl, rfl⟩
    · exact .refl _
  case rotateSessionRefreshToken =>
    unfold carryOut rotateSessionRefreshToken
    dsimp only
    split
    · exact .refl _
    · exact ⟨rfl, rfl, rfl, rfl, rfl, rfl⟩
  case upsertFirewallRule =>
    unfold carryOut upsertFirewallRule
    dsimp only
    split
    · exact .refl _
    · exact ⟨rfl, rfl, rfl, rfl, rfl, rfl⟩
  all_goals exact ⟨rfl, rfl, rfl, rfl, rfl, rfl⟩

lemma sameAccess_answering {q : AuthRequest} (hq : keepsAccess q) (env : SteadyEnv overrides now) (s : AuthStore) :
    SameAccess s.db (answering up overrides now env q s).2.db := by
  unfold answering
  split
  · split
    · exact sameAccess_carryOut hq env.1.1 s
    · exact .refl _
  · obtain hsame | hdone := exec_store env.1 q s
    · rw [hsame]
      exact .refl _
    · rw [hdone]
      exact sameAccess_carryOut hq env.1.1 s


/-! ## Calls of the store -/

lemma answering_ok {env : SteadyEnv overrides now} {q : AuthRequest} {s : AuthStore} {r : AuthResult q}
    (h : (answering up overrides now env q s).1 = .ok r) : (carryOut env.1.1 q s).1 = .ok r := by
  unfold answering at h
  split at h
  · split at h
    · exact h
    · cases h
  · exact (exec_ok h).1

section Calls

variable {α β : Type} {post : β → AuthStore → Prop} {x : AuthCall α} {f : α → AuthCall β} {s : AuthStore}

/-- What is true of the result and the store where a call succeeds. -/
abbrev Succeeds (up : Bool) (overrides : List ACUserPermissionOverride) (now : Time) {α : Type}
    (post : α → AuthStore → Prop) (x : AuthCall α) (s : AuthStore) : Prop :=
  Ensures (answering up overrides now) (OnSuccess post) x.run s

lemma Succeeds.mono' {post post' : α → AuthStore → Prop} (hx : Succeeds up overrides now post x s)
    (h : ∀ a s', post a s' → post' a s') : Succeeds up overrides now post' x s := by
  refine hx.mono ?_
  rintro (e | a) s' ha
  · trivial
  · exact h a s' ha

lemma Succeeds.bind {R : α → AuthStore → Prop} (hx : Succeeds up overrides now R x s)
    (hf : ∀ a s', R a s' → Succeeds up overrides now post (f a) s') : Succeeds up overrides now post (x >>= f) s := by
  refine Ensures.run_bind (hx.mono ?_)
  rintro (e | a) s' ha
  · trivial
  · exact hf a s' ha

/-- The requests keep the access tables. -/
lemma succeeds_kept (hx : x.run.AllRequests keepsAccess) (hs : SameAccess db s.db) :
    Succeeds up overrides now (fun _ s' => SameAccess db s'.db) x s := by
  refine (Ensures.of_allRequests (I := fun s' => SameAccess db s'.db) ?_ hx hs).mono ?_
  · exact fun env q s' hq hs' => hs'.trans (sameAccess_answering hq env s')
  · rintro (e | a) s' hs'
    · trivial
    · exact hs'

lemma succeeds_bind_kept (hx : x.run.AllRequests keepsAccess) (hs : SameAccess db s.db)
    (hf : ∀ a s', SameAccess db s'.db → Succeeds up overrides now post (f a) s') :
    Succeeds up overrides now post (x >>= f) s :=
  (succeeds_kept hx hs).bind hf

/-- Nothing is said of the first call. -/
lemma succeeds_bind_any (hf : ∀ a s', Succeeds up overrides now post (f a) s') :
    Succeeds up overrides now post (x >>= f) s := by
  refine Succeeds.bind (R := fun _ _ => True) ?_ fun a s' _ => hf a s'
  refine (Ensures.of_allRequests (I := fun _ => True) (fun _ _ _ _ _ => trivial)
    (AllRequests.of_forall (P := fun _ => True) (fun _ => trivial) _) trivial).mono ?_
  rintro (e | a) s' - <;> trivial

lemma succeeds_call {q : AuthRequest} (hq : keepsAccess q) (hs : SameAccess db s.db) :
    Succeeds up overrides now (fun r s' => SameAccess db s'.db ∧ ∃ env : AuthEnv, (carryOut env q s).1 = .ok r) (call q)
      s := by
  intro env
  cases hreply : (answering up overrides now env q s).1 with
  | error e => trivial
  | ok r => exact ⟨hs.trans (sameAccess_answering hq env s), env.1.1, answering_ok hreply⟩

lemma succeeds_pure {a : α} {post : α → AuthStore → Prop} (ha : post a s) :
    Succeeds up overrides now post (pure a) s := ha

lemma succeeds_throw {err : AuthError} {post : α → AuthStore → Prop} :
    Succeeds up overrides now post (throw err) s := trivial

lemma succeeds_throw_bind {β : Type} {err : AuthError} {f : β → AuthCall α} {post : α → AuthStore → Prop} :
    Succeeds up overrides now post (throw err >>= f) s := trivial

lemma succeeds_wrapping {context : String} {post : α → AuthStore → Prop} (hx : Succeeds up overrides now post x s) :
    Succeeds up overrides now post (wrapping context x) s := by
  change Ensures _ _ (tryCatch x fun err => throw (.wrap context err)).run s
  rw [run_tryCatch]
  refine Ensures.bind (hx.mono ?_)
  rintro (e | a) s' ha
  · trivial
  · exact ha

/-- The result of a call whose error the caller looks at itself. -/
lemma succeeds_outcome {post : α → AuthStore → Prop} (hx : Succeeds up overrides now post x s) :
    Succeeds up overrides now (fun r s' => ∀ a, r = .ok a → post a s') (outcome x) s := by
  change Ensures _ _ (tryCatch (x >>= fun a => pure (Except.ok a)) fun err => pure (.error err)).run s
  rw [run_tryCatch]
  refine Ensures.bind (Ensures.run_bind (hx.mono ?_))
  rintro (e | a) s' ha
  · rintro _ ⟨⟩
  · rintro _ ⟨⟩
    exact ha

end Calls

/-! ## The permissions of a user -/

omit [Library] [AuthLibrary] in
lemma deciding_congr {l : List ACUserPermissionOverride} {t : Time} (h : SameExpiry l now t) (p : String) :
    deciding t p l = deciding now p l := by
  unfold deciding
  rw [List.filter_congr fun o ho => ?_]
  rw [decides, decides, h o ho]

lemma succeeds_effectivePermissions {s : AuthStore} (hs : SameAccess db s.db) (userID : String) :
    Succeeds up db.overrides now
      (fun perms s' => SameAccess db s'.db ∧ ∀ p, p ∈ perms ↔ (up ∧ cfg.accessControl) ∧ Granted db userID now p)
      (effectivePermissions cfg userID) s := by
  unfold effectivePermissions
  split
  · next hservice =>
    cases up with
    | false =>
      intro env
      refine ⟨hs, fun p => ?_⟩
      exact iff_of_false List.not_mem_nil fun h => absurd h.1.1 Bool.false_ne_true
    | true =>
      intro _ _ _ env
      refine ⟨hs, fun p => ?_⟩
      have hlisted : ∀ o ∈ listOverridesByUser s.db userID, o ∈ db.overrides := by
        intro o ho
        rw [← hs.overrides]
        exact (List.mem_filter.mp ((Library.sortSlice_perm _ _).mem_iff.mp ho)).1
      have hexpiry : SameExpiry (listOverridesByUser s.db userID) now env.1.1.now := fun o ho =>
        env.2 o (hlisted o ho)
      rw [← hs.granted_iff, Granted, ← deciding_congr hexpiry]
      exact mem_effectivePermissions.trans (and_iff_right ⟨rfl, hservice⟩).symm
  · next hservice =>
    refine ⟨hs, fun p => ?_⟩
    exact iff_of_false List.not_mem_nil fun h => hservice h.1.2

-- Else the elaborator runs the programs to see whether a lemma about them has more arguments.
attribute [local irreducible] Program.AllRequests Program.Ensures

/-! ## Issued pairs -/

/-- The claims that an access token carries. -/
def TokenCarries (cfg : AuthConfig) (userID : String) (roles perms : List String) (token : String) : Prop :=
  ∃ claims, token = sign cfg.jwtSecret claims ∧ claims.userID = userID ∧ claims.deniedPermissions = [] ∧
    claims.roles = roles ∧ claims.permissions = perms

lemma succeeds_issuePair (sessionID userID email : String) (roles perms portals : List String)
    (accountType accessLevel : String) (s : AuthStore) :
    Succeeds up overrides now (fun tokens _ => TokenCarries cfg userID roles perms tokens.accessToken)
      (issuePair cfg sessionID userID email roles perms portals accountType accessLevel) s := by
  unfold issuePair
  refine succeeds_bind_any fun now' s₁ => ?_
  refine Succeeds.bind (succeeds_wrapping (succeeds_call trivial (.refl s₁.db))) ?_
  rintro accessToken s₂ ⟨-, env, hsigned⟩
  obtain rfl := Except.ok.inj hsigned
  refine succeeds_bind_any fun refreshToken s₃ => ?_
  exact succeeds_pure ⟨_, rfl, rfl, rfl, rfl, rfl⟩

/-- The names of the roles come from the tables. -/
lemma succeeds_withRoles {find : AuthCall Postgres.AuthUser} {known : Postgres.AuthUser → Prop} {s : AuthStore}
    (hfind : Succeeds up overrides now (fun record s' => SameAccess db s'.db ∧ known record) find s) :
    Succeeds up overrides now
      (fun (user : User) s' =>
        SameAccess db s'.db ∧ known user.toAuthUser ∧ user.roles = loadUserRoleNames db user.id.hex)
      (do
        let record ← find
        let roles ← call (.loadUserRoleNames record.id.hex)
        return { record with roles := roles } : AuthCall User) s := by
  refine hfind.bind fun record s₁ ⟨hs₁, hknown⟩ => ?_
  refine (succeeds_call (q := .loadUserRoleNames _) trivial (.refl s₁.db)).bind ?_
  rintro roles s₂ ⟨hs₂, env, hroles⟩
  obtain rfl := Except.ok.inj hroles
  exact succeeds_pure ⟨hs₁.trans hs₂, hknown, hs₁.loadUserRoleNames_eq _⟩

/-! ## Refreshes -/

omit [Library] in
lemma kept_consumeRefreshToken (req : RefreshRequest) : (consumeRefreshToken cfg req).run.AllRequests keepsAccess := by
  unfold consumeRefreshToken
  refine (allRequests_call trivial).run_bind fun now' => ?_
  split
  · exact allRequests_throw _
  · next claims _ =>
    have hused : (isRefreshTokenUsed cfg claims.userID (hashSHA256 req.refreshToken)).run.AllRequests keepsAccess := by
      unfold isRefreshTokenUsed
      split
      · exact allRequests_pure _
      · exact allRequests_call trivial
    have hmark : (markRefreshTokenUsed cfg claims.userID (hashSHA256 req.refreshToken)
        cfg.refreshTokenTTL).run.AllRequests keepsAccess := by
      unfold markRefreshTokenUsed
      split
      · exact allRequests_pure _
      · exact allRequests_call trivial
    refine (allRequests_orElse hused).run_bind fun used => ?_
    cases used with
    | false => exact (allRequests_orElse hmark).run_bind fun _ => allRequests_pure _
    | true => exact (allRequests_orElse (allRequests_call trivial)).run_bind fun _ => allRequests_throw_bind _ _

lemma succeeds_presentedSession {s : AuthStore} (hs : SameAccess db s.db) (req : RefreshRequest) (claims : JWTClaims) :
    Succeeds up overrides now
      (fun found s' => SameAccess db s'.db ∧ found.1.toAuthUser ∈ db.users.rows ∧
        found.1.roles = loadUserRoleNames db found.1.id.hex)
      (presentedSession req claims) s := by
  unfold presentedSession
  have hrecord : Succeeds up overrides now (fun record s' => SameAccess db s'.db ∧ record ∈ db.users.rows)
      (call (.findUserRecordByID (objectIDOrNil claims.userID))) s := by
    refine (succeeds_call (q := .findUserRecordByID _) trivial hs).mono' ?_
    rintro record s' ⟨hs', env, hfound⟩
    exact ⟨hs', hs.users ▸ List.mem_of_find?_eq_some (found_of_elim hfound)⟩
  refine (succeeds_wrapping (succeeds_withRoles hrecord)).bind fun user s₁ ⟨hs₁, hmem, hroles⟩ => ?_
  have hdrawn : (presentedSessionID claims).run.AllRequests keepsAccess := by
    unfold presentedSessionID
    split
    · exact allRequests_call trivial
    · exact allRequests_pure _
  refine succeeds_bind_kept hdrawn hs₁ fun sessionID s₂ hs₂ => ?_
  refine succeeds_bind_kept ((allRequests_call trivial).run_tryCatch fun _ => allRequests_throw _) hs₂ fun session s₃ hs₃ => ?_
  refine succeeds_bind_kept (allRequests_call trivial) hs₃ fun now' s₄ hs₄ => ?_
  dsimp only
  split
  · exact succeeds_throw_bind
  · split
    · exact succeeds_bind_any fun _ _ => succeeds_throw_bind
    · split
      · exact succeeds_throw_bind
      · exact succeeds_pure ⟨hs₄, hmem, hroles⟩

lemma succeeds_refreshToken {s : AuthStore} (hs : SameAccess db s.db) (req : RefreshRequest) :
    Succeeds up db.overrides now (fun tokens _ => ∃ user ∈ db.users.rows, ∃ claims,
      tokens.accessToken = sign cfg.jwtSecret claims ∧ Carries cfg up db now user.id.hex false claims)
      (refreshToken cfg req) s := by
  unfold refreshToken
  refine succeeds_bind_kept (kept_consumeRefreshToken req) hs fun claims s₁ hs₁ => ?_
  refine (succeeds_presentedSession hs₁ req claims).bind ?_
  rintro ⟨user, sessionID⟩ s₂ ⟨hs₂, hmem, hroles⟩
  have hpair : Succeeds up db.overrides now (fun tokens _ => ∃ user ∈ db.users.rows, ∃ claims,
      tokens.accessToken = sign cfg.jwtSecret claims ∧ Carries cfg up db now user.id.hex false claims)
      (refreshedPair cfg user sessionID) s₂ := by
    unfold refreshedPair
    refine (succeeds_effectivePermissions hs₂ user.id.hex).bind fun perms s₃ ⟨_, hperms⟩ => ?_
    refine (succeeds_wrapping (succeeds_issuePair _ _ _ _ _ _ _ _ s₃)).mono' ?_
    rintro tokens - ⟨issued, hsigned, huser, hdenied, hroles', hperms'⟩
    refine ⟨user.toAuthUser, hmem, issued, hsigned, huser, hdenied, fun h => absurd h Bool.false_ne_true, fun _ => ?_,
      fun _ p => ?_⟩
    · rw [hroles', hroles]
    · rw [hperms']
      exact hperms p
  refine hpair.bind fun tokens s₃ htokens => ?_
  exact succeeds_bind_any fun _ _ => succeeds_bind_any fun _ _ => succeeds_pure htokens

/-! ## Logins -/

lemma succeeds_rejectLogin {post : AuthResponse → AuthStore → Prop} (userID loginEmail : String)
    (sec : LoginSecurityContext) (s : AuthStore) :
    Succeeds up overrides now post (rejectLogin cfg userID loginEmail sec) s := by
  unfold rejectLogin
  refine succeeds_bind_any fun reply s₁ => ?_
  cases reply with
  | error thresholdErr => exact succeeds_bind_any fun _ _ => succeeds_throw
  | ok _ => exact succeeds_bind_any fun _ _ => succeeds_throw

omit [Library] in
lemma grantsAllPermissions_of_mem {roles : List String} (h : "admin" ∈ roles) : grantsAllPermissions roles :=
  List.any_eq_true.mpr ⟨"admin", h, by simp [equalFold]⟩

omit [Library] [AuthLibrary] in
lemma mem_ensureAdminRoles (roles : List String) : "admin" ∈ ensureAdminRoles roles := by
  unfold ensureAdminRoles uniqueNames
  rw [List.mem_eraseDups, List.mem_filter]
  refine ⟨?_, by decide⟩
  by_cases hadmin : "admin" ∈ (roles.filter fun value => value ≠ "").eraseDups
  · exact List.mem_append_left _ hadmin
  · exact List.mem_append_right _ (List.mem_filter.mpr ⟨List.mem_cons_self, decide_eq_true hadmin⟩)

omit [Library] in
/-- The repair leaves the roles of an administrator. -/
lemma grantsAllPermissions_repairedAdmin (user : User) : grantsAllPermissions (repairedAdmin user).roles := by
  unfold repairedAdmin
  dsimp only
  refine grantsAllPermissions_of_mem ?_
  split
  · next hsame =>
    have hmem := mem_ensureAdminRoles user.roles
    unfold sameStringSet at hsame
    have hall := List.all_eq_true.mp (Bool.and_eq_true_iff.mp hsame).2 "admin"
      (List.mem_eraseDups.mpr (List.mem_filter.mpr ⟨hmem, by decide⟩))
    exact (List.mem_filter.mp (List.mem_eraseDups.mp (of_decide_eq_true hall))).1
  · exact mem_ensureAdminRoles user.roles

/-- Only the configured administrator is changed, and is one thereafter. -/
lemma succeeds_repairConfiguredAdmin {s : AuthStore} (hs : SameAccess db s.db) (user : User) :
    Succeeds up overrides now (fun repaired s' => repaired.id = user.id ∧
      (isConfiguredAdminEmail cfg user.email → grantsAllPermissions repaired.roles) ∧
      (¬isConfiguredAdminEmail cfg user.email → repaired = user ∧ SameAccess db s'.db))
      (repairConfiguredAdmin cfg user) s := by
  unfold repairConfiguredAdmin
  dsimp only
  by_cases hadmin : isConfiguredAdminEmail cfg user.email
  · have hdone (s' : AuthStore) : (repairedAdmin user).id = user.id ∧
        (isConfiguredAdminEmail cfg user.email → grantsAllPermissions (repairedAdmin user).roles) ∧
        (¬isConfiguredAdminEmail cfg user.email → repairedAdmin user = user ∧ SameAccess db s'.db) :=
      ⟨rfl, fun _ => grantsAllPermissions_repairedAdmin user, fun hnot => absurd hadmin hnot⟩
    rw [if_neg (by simp [hadmin])]
    split
    · refine succeeds_bind_any fun _ s₁ => ?_
      split
      · exact succeeds_bind_any fun _ s₂ => succeeds_pure (hdone s₂)
      · exact succeeds_pure (hdone s₁)
    · split
      · exact succeeds_bind_any fun _ s₁ => succeeds_pure (hdone s₁)
      · exact succeeds_pure (hdone s)
  · rw [if_pos (by simp [hadmin])]
    exact succeeds_pure ⟨rfl, fun hyes => absurd hyes hadmin, fun _ => ⟨rfl, hs⟩⟩

lemma succeeds_issueTokensForUser (user : User) (sec : LoginSecurityContext) {full : Bool} {s : AuthStore}
    (hfull : full → grantsAllPermissions user.roles)
    (hplain : ¬full → SameAccess db s.db ∧ user.roles = loadUserRoleNames db user.id.hex ∧
      ¬grantsAllPermissions user.roles) :
    Succeeds up db.overrides now (fun resp _ => ∃ claims, resp.accessToken = sign cfg.jwtSecret claims ∧
      Carries cfg up db now user.id.hex full claims) (issueTokensForUser cfg user sec) s := by
  have hperms (s₁ : AuthStore) (hs₁ : SameAccess s.db s₁.db) : Succeeds up db.overrides now
      (fun perms _ => (full → perms = ["*"]) ∧
        (¬full → ∀ p, p ∈ perms ↔ (up ∧ cfg.accessControl) ∧ Granted db user.id.hex now p))
      (permissionsForToken cfg user) s₁ := by
    unfold permissionsForToken
    cases full with
    | true =>
      rw [if_pos (hfull rfl)]
      exact succeeds_pure ⟨fun _ => rfl, fun h => absurd rfl h⟩
    | false =>
      obtain ⟨hs, -, hgrants⟩ := hplain Bool.false_ne_true
      rw [if_neg hgrants]
      exact (succeeds_effectivePermissions (hs.trans hs₁) user.id.hex).mono' fun perms _ h =>
        ⟨fun hfalse => absurd hfalse Bool.false_ne_true, fun _ => h.2⟩
  unfold issueTokensForUser
  refine (succeeds_call (q := .generateSessionID) trivial (.refl s.db)).bind fun sessionID s₁ ⟨hs₁, _⟩ => ?_
  refine (hperms s₁ hs₁).bind fun perms s₂ ⟨hall, hgranted⟩ => ?_
  refine (succeeds_wrapping (succeeds_issuePair _ _ _ _ _ _ _ _ s₂)).bind ?_
  rintro tokens s₃ ⟨claims, hparse, huser, hdenied, hroles, hperms'⟩
  refine succeeds_bind_any fun now' s₄ => ?_
  refine succeeds_bind_any fun _ s₅ => succeeds_pure ?_
  refine ⟨claims, hparse, huser, hdenied, fun h => ?_, fun h => ?_, fun h p => ?_⟩
  · rw [hperms', hall h]
  · rw [hroles, (hplain h).2.1]
  · rw [hperms']
    exact hgranted h p

lemma succeeds_loginUser {s : AuthStore} (hs : SameAccess db s.db) (req : LoginRequest) (loginEmail : String)
    (sec : LoginSecurityContext) (user : User) (hroles : user.roles = loadUserRoleNames db user.id.hex) :
    Succeeds up db.overrides now (fun resp _ => ∃ claims, resp.accessToken = sign cfg.jwtSecret claims ∧
      Carries cfg up db now user.id.hex (isFullAccess cfg db user.toAuthUser) claims)
      (loginUser cfg req loginEmail sec user) s := by
  unfold loginUser
  refine (succeeds_wrapping (succeeds_repairConfiguredAdmin hs user)).bind fun repaired s₁ ⟨hid, hadmin, hother⟩ => ?_
  rw [← hid]
  have hissue (s₂ : AuthStore) (hs₂ : SameAccess s₁.db s₂.db) : Succeeds up db.overrides now
      (fun resp _ => ∃ claims, resp.accessToken = sign cfg.jwtSecret claims ∧
        Carries cfg up db now repaired.id.hex (isFullAccess cfg db user.toAuthUser) claims)
      (issueTokensForUser cfg repaired sec) s₂ := by
    refine succeeds_issueTokensForUser repaired sec (fun hfull => ?_) fun hplain => ?_
    · by_cases hconfigured : isConfiguredAdminEmail cfg user.email
      · exact hadmin hconfigured
      · obtain ⟨rfl, -⟩ := hother hconfigured
        rw [hroles]
        exact (Bool.or_eq_true_iff.mp hfull).resolve_right hconfigured
    · have hneither := not_or.mp (mt Bool.or_eq_true_iff.mpr hplain)
      obtain ⟨rfl, hs₁⟩ := hother hneither.2
      exact ⟨hs₁.trans hs₂, hroles, hroles ▸ hneither.1⟩
  dsimp only
  split
  · exact succeeds_bind_any fun _ _ => succeeds_throw_bind
  · split
    · exact succeeds_bind_any fun _ _ => succeeds_throw_bind
    · split
      · exact succeeds_rejectLogin _ _ _ _
      · exact hissue s₁ (.refl _)

lemma succeeds_findUserByEmail {s : AuthStore} (hs : SameAccess db s.db) (email tenantID : String) :
    Succeeds up overrides now (fun (user : User) s' => SameAccess db s'.db ∧ user.toAuthUser ∈ db.users.rows ∧
      user.roles = loadUserRoleNames db user.id.hex) (findUserByEmail email tenantID) s := by
  refine succeeds_withRoles ((succeeds_call (q := .findUserRecordByEmail email tenantID) trivial hs).mono' ?_)
  rintro record s' ⟨hs', env, hfound⟩
  exact ⟨hs', hs.users ▸ List.mem_of_find?_eq_some (found_of_elim hfound)⟩

lemma succeeds_login {s : AuthStore} (hs : SameAccess db s.db) (req : LoginRequest) (sec : LoginSecurityContext) :
    Succeeds up db.overrides now (fun resp _ => ∃ user ∈ db.users.rows, ∃ claims,
      resp.accessToken = sign cfg.jwtSecret claims ∧
        Carries cfg up db now user.id.hex (isFullAccess cfg db user) claims) (login cfg req sec) s := by
  unfold login
  refine succeeds_bind_kept ((checks_precheckLoginSecurity _ _ _ _).mono fun _ => keepsAccess_of_isLoginCheck) hs fun refused s₁ hs₁ => ?_
  cases refused with
  | some refusal => exact succeeds_bind_any fun _ _ => succeeds_throw
  | none =>
    refine (succeeds_outcome (succeeds_findUserByEmail hs₁ _ _)).bind fun found s₂ hfound => ?_
    cases found with
    | error err =>
      dsimp only
      split
      · exact succeeds_rejectLogin _ _ _ _
      · exact succeeds_throw
    | ok user =>
      obtain ⟨hs₂, hmem, hroles⟩ := hfound user rfl
      exact (succeeds_loginUser hs₂ req _ _ user hroles).mono' fun resp s' hresp => ⟨user.toAuthUser, hmem, hresp⟩

/-! ## Access tokens -/

/-- The claims of a token that has been issued to a user of these tables. -/
structure Holder (cfg : AuthConfig) (up : Bool) (db : Database) (now : Time) (loggedIn : Bool)
    (user : Postgres.AuthUser) (claims : JWTClaims) : Prop where
  member : user ∈ db.users.rows
  named : claims.userID = user.id.hex
  issued : ∃ token, IssuesToken cfg up db now loggedIn token ∧ parse cfg.jwtSecret token = some claims

variable {user : Postgres.AuthUser} {claims : JWTClaims} {loggedIn : Bool}

lemma IssuesToken.carries {token : String} (h : IssuesToken cfg up db now loggedIn token) :
    ∃ user ∈ db.users.rows, ∃ claims, parse cfg.jwtSecret token = some claims ∧
      Carries cfg up db now user.id.hex (loggedIn && isFullAccess cfg db user) claims := by
  cases h with
  | @login req sec s s' resp htables hrun =>
    obtain ⟨user, hmem, claims, hsigned, hcarries⟩ := (succeeds_login htables req sec).sound hrun
    exact ⟨user, hmem, claims, hsigned ▸ parse_sign _ _, hcarries⟩
  | @refresh req s s' tokens htables hrun =>
    obtain ⟨user, hmem, claims, hsigned, hcarries⟩ := (succeeds_refreshToken htables req).sound hrun
    exact ⟨user, hmem, claims, hsigned ▸ parse_sign _ _, hcarries⟩

lemma Holder.carries (h : Holder cfg up db now loggedIn user claims) :
    Carries cfg up db now user.id.hex (loggedIn && isFullAccess cfg db user) claims := by
  obtain ⟨token, hissued, hparse⟩ := h.issued
  obtain ⟨user', hmem, claims', hparse', hcarries⟩ := hissued.carries
  obtain rfl := Option.some.inj (hparse'.symm.trans hparse)
  obtain rfl := List.inj_on_of_nodup_map db.users.id_nodup hmem h.member
    (ObjectID.hex_injective (hcarries.user.symm.trans h.named))
  exact hcarries

/-- A token lets through what the permissions granted to the user or the definitions of the user's roles
cover. An override that denies a permission takes it out of the former and refuses nothing. -/
theorem permission_passed_iff (h : Holder cfg up db now loggedIn user claims)
    (hplain : ¬(loggedIn && isFullAccess cfg db user)) (permission : String) :
    Policy.requireAccessPermission permission (some claims) = .passed ↔
      ∃ candidate ∈ Policy.permissionEquivalents (trimSpace permission), ∃ granted,
        ((up ∧ cfg.accessControl) ∧ Granted db user.id.hex now granted ∨
          granted ∈ Policy.permissionsForRoles (loadUserRoleNames db user.id.hex)) ∧
        Policy.permissionMatches granted candidate := by
  have hcarries := h.carries
  rw [Policy.requireAccessPermission_passed_iff hcarries.denied, hcarries.roles hplain]
  refine exists_congr fun candidate => and_congr_right fun _ => exists_congr fun granted => and_congr_left fun _ => ?_
  rw [List.mem_append, hcarries.granted hplain]

end Permissions

section Sample

attribute [local instance] asciiLibrary plainAuth

namespace Sample

def staffCfg : AuthConfig := { cfg with defaultTenantID := "erg", redis := false }

lemma role_nodup (role : ACRole) : ([role].map ACRole.id).Nodup ∧ ([role].map ACRole.name).Nodup :=
  ⟨List.nodup_singleton _, List.nodup_singleton _⟩

/-- The user administers everything, or may do what the override says. -/
def staffed (userRoles : List UserRole) (overrides : List ACUserPermissionOverride) : AuthStore :=
  { db := { loggedIn.db with
      roles := ⟨[⟨"r", "admin"⟩], (role_nodup _).1, (role_nodup _).2⟩
      userRoles := userRoles
      overrides := overrides } }

def override (permission grantType : String) : ACUserPermissionOverride :=
  { id := permission, userID := user.id.hex, permission := permission, grantType := grantType, createdAt := 0 }

def admin : AuthStore := staffed [⟨user.id.hex, "r"⟩] [override "lms.class.read" "GRANT"]

def teacher : AuthStore := staffed [] [override "lms.class.read" "DENY", override "lms.*" "GRANT"]

/-- The clock stands still, and every request is answered. -/
def steady (overrides : List ACUserPermissionOverride) : SteadyEnv overrides 0 :=
  ⟨({ now := 0 }, .none), fun _ _ => rfl⟩

/-- The call, run alone. -/
def outcomeOf {α : Type} (x : AuthCall α) (s : AuthStore) : Option α :=
  match (x.run.alone (answering true s.db.overrides 0) (steady s.db.overrides) s).1 with
  | .ok a => some a
  | .error _ => none

lemma evaluates_outcomeOf {α : Type} {x : AuthCall α} {s : AuthStore} (h : (outcomeOf x s).isSome) :
    ∃ a s', Evaluates (answering true s.db.overrides 0) x.run s (.ok a) s' := by
  unfold outcomeOf at h
  split at h
  · next a ha =>
    have hrun := evaluates_alone (answering true s.db.overrides 0) (steady s.db.overrides) x.run s
    rw [ha] at hrun
    exact ⟨a, _, hrun⟩
  · cases h

lemma exists_holder {s : AuthStore} (hrows : s.db.users.rows = [user]) {loggedIn : Bool} {token : String}
    (h : IssuesToken staffCfg true s.db 0 loggedIn token) :
    ∃ claims, Holder staffCfg true s.db 0 loggedIn user claims := by
  obtain ⟨user', hmem, claims, hparse, hcarries⟩ := h.carries
  obtain rfl := List.mem_singleton.mp (hrows ▸ hmem)
  exact ⟨claims, hmem, hcarries.user, token, h, hparse⟩

lemma exists_login {s : AuthStore} (hrows : s.db.users.rows = [user])
    (h : (outcomeOf (login staffCfg ⟨user.email, user.passwordHash⟩ {}) s).isSome) :
    ∃ claims, Holder staffCfg true s.db 0 true user claims := by
  obtain ⟨resp, s', hrun⟩ := evaluates_outcomeOf h
  exact exists_holder hrows (.login (.refl _) hrun)

end Sample

/-- A permission that was denied to the user lets through all the same. -/
theorem denied_permission_passed : ∃ claims,
    Holder Sample.staffCfg true Sample.teacher.db 0 true Sample.user claims ∧
    ¬Granted Sample.teacher.db Sample.user.id.hex 0 "lms.class.read" ∧
    Policy.requireAccessPermission "lms.class.read" (some claims) = .passed := by
  obtain ⟨claims, hlogin⟩ := Sample.exists_login (s := Sample.teacher) rfl (by decide)
  have hplain : ¬(true && isFullAccess Sample.staffCfg Sample.teacher.db Sample.user) := by decide
  have hgranted : Granted Sample.teacher.db Sample.user.id.hex 0 "lms.*" := by decide
  refine ⟨claims, hlogin, by decide, ?_⟩
  exact (permission_passed_iff hlogin hplain "lms.class.read").mpr
    ⟨"lms.class.read", by decide, "lms.*", .inl ⟨⟨rfl, rfl⟩, hgranted⟩, by decide⟩

end Sample

end ErgGo.Auth
