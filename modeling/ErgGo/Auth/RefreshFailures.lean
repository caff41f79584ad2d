import ErgGo.Auth.RefreshRuns

/-!
# Refreshes that fail

A refresh marks the presented token as used before the steps that can fail, and none of them
takes the mark back. So after a failure the client can present the token again exactly if the
failing call neither wrote the mark nor carried out a rotation whose reply was lost.
-/

namespace ErgGo.Auth
open Go Documents Concurrent Program Lms Postgres AccessControl AuthLibrary

section Failures

variable [Library] [AuthLibrary] (cfg : AuthConfig) (p : Presented)

/-- Every honest call that presents the token later succeeds. -/
def Exchangeable (w : AuthWorld) : Prop :=
  ∀ envs, let out := (refreshToken cfg (p.request cfg)).run.recorded exec envs (w.1, [])
    (⟨p.token cfg, out.1, out.2.2⟩ : RefreshCall).Honest cfg →
      (∀ d ∈ w.2, ∀ e ∈ out.2.2, d.env.1.now ≤ e.env.1.now) → ∃ tokens, out.1 = .ok tokens

/-- A timely event without a fault. -/
def HonestEvent (h : List AuthEvent) (e : AuthEvent) : Prop :=
  e.env.2 = .none ∧ TimelyEvent (p.claims cfg).expiresAt h e

/-- Every honest call from the store fails. -/
def Refuses (s : AuthStore) : Prop :=
  EnsuresUnder exec (HonestEvent cfg p) (Outcome (fun _ _ => False) (fun _ _ => True))
    (refreshToken cfg (p.request cfg)).run (s, [])

variable {cfg p} {s : AuthStore} {w : AuthWorld}

lemma exchangeable_of_untouched (hw : Untouched cfg p w) : Exchangeable cfg p w := by
  obtain ⟨⟨session, hsession, hholds⟩, hunmarked, -⟩ := hw
  intro envs out hhonest _
  have hparse : parse cfg.jwtRefreshSecret (p.token cfg) = some (p.claims cfg) := parse_sign _ _
  -- The session may have been renewed, under the same id.
  have hclaims : ({ p with session := session } : Presented).claims cfg = p.claims cfg := by
    unfold Presented.claims
    rw [hsession]
  have htoken : ({ p with session := session } : Presented).token cfg = p.token cfg := by
    unfold Presented.token
    rw [hclaims]
  have hspec := attempt_refreshToken hholds (by
    unfold Unmarked Presented.markKey
    rw [htoken]
    exact hunmarked)
  unfold Presented.request at hspec
  rw [htoken] at hspec
  have hout := EnsuresUnder.sound hspec envs (hclaims ▸ hhonest.provenance hparse)
  change Outcome _ _ out.1 out.2 at hout
  cases hresult : out.1 with
  | ok tokens => exact ⟨tokens, rfl⟩
  | error e =>
    rw [hresult] at hout
    obtain ⟨⟨d, hd, hfault⟩, -⟩ := hout
    exact absurd (hhonest.noFaults d hd) hfault

omit [Library] in
lemma RefreshCall.Honest.honestEvents {call : RefreshCall} (h : call.Honest cfg) (htoken : call.presented = p.token cfg) :
    Provenance (HonestEvent cfg p) call.history := by
  intro h₁ e h₂ hsplit
  have hparse : parse cfg.jwtRefreshSecret call.presented = some (p.claims cfg) := htoken ▸ parse_sign _ _
  exact ⟨h.noFaults e (by simp [hsplit]), h.provenance hparse h₁ e h₂ hsplit⟩

/-- At a clock that stands still every call is honest. -/
lemma not_exchangeable_of_refuses (hrefuses : Refuses cfg p w.1) {t : Time} (hlast : ∀ d ∈ w.2, d.env.1.now ≤ t)
    (hlifetime : t < (p.claims cfg).expiresAt * 1000000000) : ¬Exchangeable cfg p w := by
  intro hexchangeable
  let env : AuthEnv × Fault := ({ now := t }, .none)
  have hcall := hexchangeable (fun _ => env)
  dsimp only at hcall
  have henv := fun e => recorded_env exec (fun _ => env) (refreshToken cfg (p.request cfg)).run (w.1, []) (e := e)
  have hrefused := hrefuses.sound (fun _ => env)
  generalize (refreshToken cfg (p.request cfg)).run.recorded exec (fun _ => env) (w.1, []) = out at *
  have hconstant : ∀ e ∈ out.2.2, e.env = env := by
    intro e he
    obtain hempty | ⟨_, henv⟩ := henv e he
    · cases hempty
    · exact henv
  have hhonest : (⟨p.token cfg, out.1, out.2.2⟩ : RefreshCall).Honest cfg := by
    refine ⟨fun e he => by rw [hconstant e he], ?_, ?_⟩
    · refine List.pairwise_of_forall_mem_list fun d hd e he => ?_
      rw [hconstant d hd, hconstant e he]
    · intro presented hpresented e he
      have hparse : parse cfg.jwtRefreshSecret (p.token cfg) = some (p.claims cfg) := parse_sign _ _
      rw [hparse] at hpresented
      cases hpresented
      rw [hconstant e he]
      exact hlifetime
  obtain ⟨tokens, htokens⟩ := hcall hhonest fun d hd e he => by
    rw [hconstant e he]
    exact hlast d hd
  have hnever := hrefused (hhonest.honestEvents rfl)
  rw [htokens] at hnever
  exact hnever

/-- A request in an honest call is answered by the store. -/
lemma honest_call {q : AuthRequest} {post : AuthResult q → AuthWorld → Prop} {err : AuthError → AuthWorld → Prop}
    (h : ∀ env, HonestEvent cfg p w.2 ⟨0, env, q, w.1⟩ → Outcome post err (carryOut env.1 q w.1).1
      ((carryOut env.1 q w.1).2, w.2 ++ [⟨0, env, q, w.1⟩])) :
    EnsuresUnder exec (HonestEvent cfg p) (Outcome post err) (call q).run w := by
  rintro ⟨env, fault⟩ henv
  obtain rfl : fault = .none := henv.1
  have hexec : exec (env, .none) q w.1 = carryOut env q w.1 := by
    unfold exec
    split <;> rfl
  rw [hexec]
  exact h (env, .none) henv

/-- The claims of the token, as an honest call reads them. -/
lemma honest_now {err : AuthError → AuthWorld → Prop} (w : AuthWorld) : EnsuresUnder exec (HonestEvent cfg p)
    (Outcome (fun now w' => validate cfg cfg.jwtRefreshSecret now (p.token cfg) = some (p.claims cfg) ∧ w'.1 = w.1) err)
    (call .now).run w :=
  honest_call fun _ henv => ⟨validate_token henv.2.2, rfl⟩

omit [Library] [AuthLibrary] in
/-- The mark outlives a token that ends with a second within the mark's lifetime. -/
lemma live_usedMark {redis : GoMap RedisEntry} {key : String} {marked now seconds : ℤ}
    (hmark : redis.lookup key = some (usedMark cfg marked))
    (hlifetime : seconds * 1000000000 ≤ marked + cfg.refreshTokenTTL) (hnow : now < seconds * 1000000000) :
    (Redis.live now redis key).isSome := by
  unfold Redis.live
  rw [hmark, Option.filter_some, if_pos]
  · rfl
  · unfold usedMark Redis.unexpired Redis.expiry Redis.milli
    split
    · simp only [Option.all_some, decide_eq_true_eq]
      omega
    · rfl

/-- A marked token is refused. -/
lemma refuses_of_marked (hmarked : Marked cfg p w) (hclock : ∀ e ∈ w.2, p.issuedAt ≤ e.env.1.now) :
    Refuses cfg p w.1 := by
  obtain ⟨hredis, d, hd, hmark⟩ := hmarked
  have hseconds : (p.claims cfg).expiresAt * 1000000000 ≤ p.issuedAt + cfg.refreshTokenTTL :=
    Int.ediv_mul_le _ (by omega)
  have hlifetime : (p.claims cfg).expiresAt * 1000000000 ≤ d.env.1.now + cfg.refreshTokenTTL :=
    hseconds.trans (Int.add_le_add_right (hclock d hd) _)
  have hconsume : EnsuresUnder exec (HonestEvent cfg p) (Outcome (fun _ _ => False) (fun _ _ => True))
      (consumeRefreshToken cfg (p.request cfg)).run (w.1, []) := by
    unfold consumeRefreshToken
    refine (honest_now (w.1, [])).run_bind fun now w₁ _ hpost => ?_
    obtain ⟨hvalidate, hw₁⟩ := hpost
    simp only [Presented.request, hvalidate]
    have hused : EnsuresUnder exec (HonestEvent cfg p) (Outcome (fun used _ => used = true) (fun _ _ => True))
        (orElse false (isRefreshTokenUsed cfg p.user.id.hex (hashSHA256 (p.token cfg)))).run w₁ := by
      have hexists : EnsuresUnder exec (HonestEvent cfg p) (Outcome (fun used _ => used = true) (fun _ _ => False))
          (isRefreshTokenUsed cfg p.user.id.hex (hashSHA256 (p.token cfg))).run w₁ := by
        unfold isRefreshTokenUsed
        simp only [hredis]
        refine honest_call fun env henv => ?_
        have hlive : (Redis.live env.1.now w.1.redis (p.markKey cfg)).isSome :=
          live_usedMark hmark hlifetime henv.2.2
        change (Redis.live env.1.now w₁.1.redis (p.markKey cfg)).isSome = true
        rw [hw₁]
        exact hlive
      exact hexists.run_handle fun _ _ hfalse => hfalse.elim
    refine hused.run_bind fun used w₂ _ hused => ?_
    rw [hused]
    exact (EnsuresUnder.any _ w₂).run_bind fun _ _ _ _ => trivial
  exact hconsume.run_bind fun _ _ _ hfalse => hfalse.elim

/-- A displaced token is refused. -/
lemma refuses_of_displaced (hdisplaced : Displaced cfg p s) : Refuses cfg p s := by
  obtain ⟨hknown, hnamed, session, hstored, hhash⟩ := hdisplaced
  have hconsume : EnsuresUnder exec (HonestEvent cfg p)
      (Outcome (fun claims w' => claims = p.claims cfg ∧ w'.1.db = s.db) (fun _ _ => True))
      (consumeRefreshToken cfg (p.request cfg)).run (s, []) := by
    unfold consumeRefreshToken
    refine (honest_now (s, [])).run_bind fun now w₁ _ hpost => ?_
    obtain ⟨hvalidate, hw₁⟩ := hpost
    simp only [Presented.request, hvalidate]
    have hsame : ∀ {q : AuthRequest} {default : AuthResult q} {w : AuthWorld}, w.1.db = s.db →
        (∀ env s, (carryOut env q s).2.db = s.db) → EnsuresUnder exec (HonestEvent cfg p)
          (Outcome (fun _ w' => w'.1.db = s.db) (fun _ _ => True)) (orElse default (call q)).run w := by
      intro q default w hw hq
      refine ensures_orElse_call (P := fun w' => w'.1.db = s.db) fun env => ?_
      obtain hlost | hdone := exec_store env q w.1
      · exact (congrArg AuthStore.db hlost).trans hw
      · exact (congrArg AuthStore.db hdone).trans ((hq env.1 w.1).trans hw)
    have hused : EnsuresUnder exec (HonestEvent cfg p) (Outcome (fun _ w' => w'.1.db = s.db) (fun _ _ => True))
        (orElse false (isRefreshTokenUsed cfg p.user.id.hex (hashSHA256 (p.token cfg)))).run w₁ := by
      unfold isRefreshTokenUsed
      by_cases hredis : cfg.redis
      · simp only [hredis]
        exact hsame (congrArg AuthStore.db hw₁) fun _ _ => rfl
      · simp only [hredis]
        exact congrArg AuthStore.db hw₁
    refine hused.run_bind fun used w₂ _ hdb => ?_
    by_cases hmarked : used
    · rw [hmarked]
      exact (EnsuresUnder.any _ w₂).run_bind fun _ _ _ _ => trivial
    · rw [Bool.eq_false_iff.mpr hmarked]
      have hmark : EnsuresUnder exec (HonestEvent cfg p) (Outcome (fun _ w' => w'.1.db = s.db) (fun _ _ => True))
          (orElse () (markRefreshTokenUsed cfg p.user.id.hex (hashSHA256 (p.token cfg)) cfg.refreshTokenTTL)).run w₂ := by
        unfold markRefreshTokenUsed
        by_cases hredis : cfg.redis
        · simp only [hredis]
          exact hsame hdb fun _ _ => rfl
        · simp only [hredis]
          exact hdb
      exact hmark.run_bind fun _ w₃ _ hdb => ⟨rfl, hdb⟩
  refine hconsume.run_bind fun claims w₁ _ hpost => ?_
  obtain ⟨hclaims, hdb⟩ := hpost
  rw [hclaims]
  have hsession : EnsuresUnder exec (HonestEvent cfg p) (Outcome (fun _ _ => False) (fun _ _ => True))
      (presentedSession (p.request cfg) (p.claims cfg)).run w₁ := by
    unfold presentedSession
    have huserID : objectIDOrNil (p.claims cfg).userID = p.user.id := by
      change objectIDOrNil p.user.id.hex = p.user.id
      unfold objectIDOrNil
      rw [objectID_hex]
      rfl
    have huser : EnsuresUnder exec (HonestEvent cfg p)
        (Outcome (fun (found : User) w' => found.toAuthUser = p.user ∧ w'.1.db = s.db) (fun _ _ => True))
        (wrapping "auth.service.refreshToken: find user" (findUserByID p.user.id)).run w₁ := by
      have hrecord : EnsuresUnder exec (HonestEvent cfg p)
          (Outcome (fun record w' => record = p.user ∧ w'.1.db = s.db) (fun _ _ => True))
          (call (.findUserRecordByID p.user.id)).run w₁ := by
        refine honest_call fun env _ => ?_
        have hfind : findUserRecordByID w₁.1.db p.user.id = some p.user := hdb ▸ hknown
        unfold carryOut
        dsimp only
        rw [hfind]
        exact ⟨rfl, hdb⟩
      have hfound : EnsuresUnder exec (HonestEvent cfg p)
          (Outcome (fun (found : User) w' => found.toAuthUser = p.user ∧ w'.1.db = s.db) (fun _ _ => True))
          (findUserByID p.user.id).run w₁ := by
        refine hrecord.run_bind fun record w₂ _ hpost => ?_
        obtain ⟨hrecord, hdb⟩ := hpost
        have hroles : EnsuresUnder exec (HonestEvent cfg p) (Outcome (fun _ w' => w'.1.db = s.db) (fun _ _ => True))
            (call (.loadUserRoleNames record.id.hex)).run w₂ := honest_call fun _ _ => hdb
        exact hroles.run_bind fun _ w₃ _ hdb => ⟨hrecord, hdb⟩
      exact hfound.run_handle fun _ _ _ => trivial
    rw [huserID]
    refine huser.run_bind fun found w₂ _ hpost => ?_
    obtain ⟨hfound, hdb₂⟩ := hpost
    have hsessionID : presentedSessionID (p.claims cfg) = pure p.session.sessionID := by
      have hclaims : sessionIDFromClaims (p.claims cfg) = p.session.sessionID := if_pos hnamed
      unfold presentedSessionID
      rw [hclaims, if_neg hnamed]
    rw [hsessionID, pure_bind]
    have hfind : EnsuresUnder exec (HonestEvent cfg p) (Outcome (fun found _ => found = session) (fun _ _ => True))
        (tryCatch (call (.findSessionByID p.session.sessionID found.tenantID)) (fun err => throw
          (if err = .sessionNotFound then .sessionReplaced else .wrap "auth.service.refreshToken: find session" err)) :
          AuthCall AuthSession).run w₂ := by
      have hcall : EnsuresUnder exec (HonestEvent cfg p) (Outcome (fun found _ => found = session) (fun _ _ => True))
          (call (.findSessionByID p.session.sessionID found.tenantID)).run w₂ := by
        refine honest_call fun env _ => ?_
        have hlookup : w₂.1.db.sessions.lookup (p.session.sessionID, found.tenantID) = some session := by
          rw [hdb₂, hfound]
          exact hstored
        unfold carryOut
        dsimp only
        rw [hlookup]
        rfl
      exact hcall.run_handle fun _ _ _ => trivial
    refine hfind.run_bind fun stored w₃ _ hsession => ?_
    refine (EnsuresUnder.any _ w₃).run_bind fun now w₄ _ _ => ?_
    rw [hsession]
    change EnsuresUnder _ _ _ (ExceptT.run (if session.revokedAt.isSome || now > session.expiresAt then _ else _)) _
    split
    · trivial
    · simp only [Presented.request, hhash, ne_eq, not_false_eq_true, ↓reduceIte]
      exact (EnsuresUnder.any _ w₄).run_bind fun _ _ _ _ => trivial
  exact hsession.run_bind fun _ _ _ hfalse => hfalse.elim

variable (cfg p) in
/-- The clock of a call, from the issue of the token to its expiry. -/
structure Timely (h : List AuthEvent) : Prop where
  nondecreasing : h.Pairwise (fun d e => d.env.1.now ≤ e.env.1.now)
  issued : ∀ e ∈ h, p.issuedAt ≤ e.env.1.now
  lifetime : ∀ e ∈ h, e.env.1.now < (p.claims cfg).expiresAt * 1000000000

omit [Library] [AuthLibrary] in
lemma Timely.provenance {h : List AuthEvent} (ht : Timely cfg p h) :
    Provenance (TimelyEvent (p.claims cfg).expiresAt) h := by
  intro h₁ e h₂ hsplit
  have hordered := ht.nondecreasing
  rw [hsplit] at hordered
  refine ⟨fun d hd => ?_, ht.lifetime e (by simp [hsplit])⟩
  exact (List.pairwise_append.mp hordered).2.2 d hd e List.mem_cons_self

lemma not_exchangeable_of_spent (ht : Timely cfg p w.2) (hspent : Spent cfg p w) : ¬Exchangeable cfg p w := by
  have hrefuses : Refuses cfg p w.1 := by
    obtain ⟨hmarked | ⟨-, hdisplaced⟩, -⟩ := hspent
    · exact refuses_of_marked hmarked ht.issued
    · exact refuses_of_displaced hdisplaced
  refine not_exchangeable_of_refuses hrefuses (t := (p.claims cfg).expiresAt * 1000000000 - 1) (fun d hd => ?_) ?_
  · exact Int.le_sub_one_of_lt (ht.lifetime d hd)
  · exact Int.sub_one_lt_of_le le_rfl

/-- What a call that fails leaves: the token as good as before, or spent by the call. -/
lemma untouched_or_spent {envs : ℕ → AuthEnv × Fault} {err : AuthError} (hholds : Holds cfg p s)
    (hunmarked : Unmarked cfg p s)
    (ht : Timely cfg p ((refreshToken cfg (p.request cfg)).run.recorded exec envs (s, [])).2.2)
    (hfails : ((refreshToken cfg (p.request cfg)).run.recorded exec envs (s, [])).1 = .error err) :
    Untouched cfg p ((refreshToken cfg (p.request cfg)).run.recorded exec envs (s, [])).2 ∨
      Spent cfg p ((refreshToken cfg (p.request cfg)).run.recorded exec envs (s, [])).2 := by
  have hout := (attempt_refreshToken hholds hunmarked).sound envs ht.provenance
  rw [hfails] at hout
  exact hout.2 ht.issued

/-- After a failure the token can be exchanged if and only if no event of the failing call has
consumed it. -/
theorem exchangeable_iff {envs : ℕ → AuthEnv × Fault} {err : AuthError} (hholds : Holds cfg p s)
    (hunmarked : Unmarked cfg p s)
    (ht : Timely cfg p ((refreshToken cfg (p.request cfg)).run.recorded exec envs (s, [])).2.2)
    (hfails : ((refreshToken cfg (p.request cfg)).run.recorded exec envs (s, [])).1 = .error err) :
    Exchangeable cfg p ((refreshToken cfg (p.request cfg)).run.recorded exec envs (s, [])).2 ↔
      ∀ e ∈ ((refreshToken cfg (p.request cfg)).run.recorded exec envs (s, [])).2.2, ¬Consumes e := by
  obtain huntouched | hspent := untouched_or_spent hholds hunmarked ht hfails
  · exact ⟨fun _ => huntouched.2.2, fun _ => exchangeable_of_untouched huntouched⟩
  · refine ⟨fun hexchangeable => absurd hexchangeable (not_exchangeable_of_spent ht hspent), fun hnone => ?_⟩
    obtain ⟨-, e, he, hconsumes⟩ := hspent
    exact absurd hconsumes (hnone e he)

end Failures

section Sample

attribute [local instance] asciiLibrary plainAuth
attribute [local irreducible] refreshToken

namespace Sample

/-- Redis is not configured. -/
def withoutRedis : AuthConfig := { cfg with redis := false }

/-- Two seconds after the token was issued; the request of this number is lost. -/
def losing (n : ℕ) : ℕ → AuthEnv × Fault := fun k => ({ now := 2000000000 }, if k = n then .lost else .none)

/-- A refresh that loses a request. -/
abbrev losingRefresh (cfg : AuthConfig) (n : ℕ) :
    Except AuthError TokenResponse × World (AuthEnv × Fault) AuthRequest AuthStore :=
  (refreshToken cfg (presented.request cfg)).run.recorded exec (losing n) (loggedIn, [])

def error (out : Except AuthError TokenResponse × World (AuthEnv × Fault) AuthRequest AuthStore) : Option AuthError :=
  match out.1 with
  | .ok _ => none
  | .error err => some err

lemma eq_error {out : Except AuthError TokenResponse × World (AuthEnv × Fault) AuthRequest AuthStore} {err : AuthError} (h : error out = some err) :
    out.1 = .error err := by
  unfold error at h
  split at h
  · cases h
  · next heq =>
    cases h
    exact heq

lemma timely_losing (cfg : AuthConfig) (x : AuthCall TokenResponse) (s : AuthStore) (n : ℕ)
    (hlifetime : 2 < (presented.claims cfg).expiresAt) :
    Timely cfg presented (x.run.recorded exec (losing n) (s, [])).2.2 := by
  have hnow : ∀ e ∈ (x.run.recorded exec (losing n) (s, [])).2.2, e.env.1.now = 2000000000 := by
    intro e he
    obtain hempty | ⟨k, henv⟩ := recorded_env exec (losing n) x.run (s, []) he
    · cases hempty
    · exact congrArg (fun env => env.1.now) henv
  refine ⟨List.pairwise_of_forall_mem_list fun d hd e he => ?_, fun e he => ?_, fun e he => ?_⟩
  · rw [hnow d hd, hnow e he]
  · rw [hnow e he]
    exact Int.zero_le_ofNat _
  · have hseconds : (2000000000 : ℤ) < (presented.claims cfg).expiresAt * 1000000000 := by omega
    rw [hnow e he]
    exact hseconds

lemma holds_withoutRedis : Holds withoutRedis presented loggedIn := { holds_loggedIn with }

end Sample

/-- Without Redis, a refresh that cannot find the user leaves the token as it was. -/
theorem exchangeable_withoutRedis :
    Exchangeable Sample.withoutRedis Sample.presented (Sample.losingRefresh Sample.withoutRedis 1).2 := by
  have hrun : Sample.error (Sample.losingRefresh Sample.withoutRedis 1) =
      some (.wrap "auth.service.refreshToken: find user" .storeFailure) ∧
      ∀ e ∈ (Sample.losingRefresh Sample.withoutRedis 1).2.2, ¬Consumes e := by decide +kernel
  obtain ⟨hfails, hnone⟩ := hrun
  refine (exchangeable_iff Sample.holds_withoutRedis ?_ (Sample.timely_losing Sample.withoutRedis _ _ 1 (by decide))
    (Sample.eq_error hfails)).mpr hnone
  exact fun hredis => absurd hredis (by decide)

/-- With Redis, the token that a failing refresh has marked is refused. -/
theorem failed_refresh_spends_token : Holds Sample.cfg Sample.presented Sample.loggedIn ∧
    Unmarked Sample.cfg Sample.presented Sample.loggedIn ∧
    (Sample.losingRefresh Sample.cfg 3).1 = .error (.wrap "auth.service.refreshToken: find user" .storeFailure) ∧
    ¬Exchangeable Sample.cfg Sample.presented (Sample.losingRefresh Sample.cfg 3).2 := by
  have hunmarked : Unmarked Sample.cfg Sample.presented Sample.loggedIn := fun _ => rfl
  have hrun : Sample.error (Sample.losingRefresh Sample.cfg 3) =
      some (.wrap "auth.service.refreshToken: find user" .storeFailure) ∧
      ∃ e ∈ (Sample.losingRefresh Sample.cfg 3).2.2, Consumes e := by decide +kernel
  obtain ⟨hfails, hconsumes⟩ := hrun
  have ht := Sample.timely_losing Sample.cfg (refreshToken Sample.cfg (Sample.presented.request Sample.cfg))
    Sample.loggedIn 3 (by decide)
  have hspent : Spent Sample.cfg Sample.presented (Sample.losingRefresh Sample.cfg 3).2 := by
    have hcases := untouched_or_spent Sample.holds_loggedIn hunmarked ht (Sample.eq_error hfails)
    obtain huntouched | hspent := hcases
    · obtain ⟨e, he, hconsumed⟩ := hconsumes
      exact absurd hconsumed (huntouched.2.2 e he)
    · exact hspent
  exact ⟨Sample.holds_loggedIn, hunmarked, Sample.eq_error hfails, not_exchangeable_of_spent ht hspent⟩

end Sample

end ErgGo.Auth
