import ErgGo.Auth.Login

/-!
# The requests of a login's checks

What a login is checked against is read, and an address is blocked; no account, session or attempt is written.
-/

namespace ErgGo.Auth
open Go Concurrent Program Lms Postgres AccessControl

def isLoginCheck : AuthRequest → Prop
  | .now | .redisGet _ | .latestSuccessfulLoginAt _ | .countLoginAttempts .. | .isFirewallRuleActive .. => True
  | .listActiveFirewallRules _ | .upsertFirewallRule .. => True
  | _ => False

section Ends

variable {α β : Type} {P : AuthRequest → Prop}

lemma allRequests_pure (a : α) : (pure a : AuthCall α).run.AllRequests P := trivial

lemma allRequests_throw (err : AuthError) : (throw err : AuthCall α).run.AllRequests P := trivial

lemma allRequests_throw_bind (err : AuthError) (f : β → AuthCall α) :
    (throw err >>= f : AuthCall α).run.AllRequests P := trivial

end Ends

-- Else the elaborator runs the programs to see whether a lemma about them has more arguments.
attribute [local irreducible] Program.AllRequests

section Checks

variable [Library] [AuthLibrary] (cfg : AuthConfig)

omit [Library] [AuthLibrary] in
lemma checks_blockIP (ip reason : String) : (blockIP cfg ip reason).run.AllRequests isLoginCheck := by
  unfold blockIP
  split
  · exact allRequests_pure _
  · refine (allRequests_call trivial).run_bind fun now' => (allRequests_call trivial).run_bind fun blockedAt => ?_
    exact allRequests_orElse (allRequests_call trivial)

omit [Library] [AuthLibrary] in
lemma checks_maxCachedCount (keys : List String) (maxCount : ℤ) :
    (maxCachedCount keys maxCount).run.AllRequests isLoginCheck := by
  induction keys generalizing maxCount with
  | nil => exact allRequests_pure _
  | cons key keys ih =>
    unfold maxCachedCount
    refine (allRequests_outcome (allRequests_call trivial)).run_bind fun reply => ?_
    cases reply with
    | error e => exact allRequests_pure _
    | ok value =>
      dsimp only
      split
      · exact ih maxCount
      · split
        · exact allRequests_pure _
        · exact ih _

omit [Library] [AuthLibrary] in
lemma checks_countFailedLoginAttempts (params : FailedLoginAttemptCountParams) :
    (countFailedLoginAttempts params).run.AllRequests isLoginCheck := by
  unfold countFailedLoginAttempts
  dsimp only
  split
  · exact AllRequests.run_bind (P := isLoginCheck) (allRequests_call (q := .latestSuccessfulLoginAt params) trivial)
      fun _ => allRequests_call (q := .countLoginAttempts _ _) trivial
  · exact allRequests_call (q := .countLoginAttempts _ _) trivial

lemma checks_cachedFailedLoginCount (tenantID email ip : String) :
    (cachedFailedLoginCount cfg tenantID email ip).run.AllRequests isLoginCheck := by
  unfold cachedFailedLoginCount
  by_cases hredis : !cfg.redis
  · rw [if_pos hredis]
    exact allRequests_pure _
  · rw [if_neg hredis]
    generalize (_ ++ _ : List String) = keys
    exact checks_maxCachedCount keys 0

lemma checks_failedLoginCount (tenantID email ip : String) :
    (failedLoginCount cfg tenantID email ip).run.AllRequests isLoginCheck := by
  unfold failedLoginCount
  dsimp only
  generalize (if email ≠ "" then emailHash email else "") = hash
  by_cases hnone : hash = "" ∧ trimSpace ip = ""
  · rw [if_pos hnone]
    exact allRequests_pure _
  · rw [if_neg hnone]
    refine (checks_cachedFailedLoginCount cfg tenantID email (trimSpace ip)).run_bind fun count => ?_
    cases count with
    | some count => exact allRequests_pure _
    | none =>
      exact AllRequests.run_bind (P := isLoginCheck) (allRequests_call (q := .now) trivial) fun now' =>
        checks_countFailedLoginAttempts _

omit [Library] [AuthLibrary] in
/-- Two counts that are held against a limit. -/
lemma checks_limit {emailCount ipCount : AuthCall ℤ} {block : AuthCall Unit} (limit : ℤ)
    (hemail : emailCount.run.AllRequests isLoginCheck) (hip : ipCount.run.AllRequests isLoginCheck)
    (hblock : block.run.AllRequests isLoginCheck) :
    (if 0 < limit then do
      match ← outcome emailCount with
      | .error err => pure (some ("", err))
      | .ok emailCount =>
        match ← outcome ipCount with
        | .error err => pure (some ("", err))
        | .ok ipCount =>
          if emailCount ≥ limit ∨ ipCount ≥ limit then do
            block
            pure (some ("too_many_attempts", AuthError.tooManyAttempts))
          else pure none
    else pure none : AuthCall (Option (String × AuthError))).run.AllRequests isLoginCheck := by
  by_cases hlimit : 0 < limit
  · rw [if_pos hlimit]
    refine AllRequests.run_bind (P := isLoginCheck) (allRequests_outcome hemail) fun emailCount => ?_
    cases emailCount with
    | error err => exact allRequests_pure _
    | ok emailCount =>
      refine AllRequests.run_bind (P := isLoginCheck) (allRequests_outcome hip) fun ipCount => ?_
      cases ipCount with
      | error err => exact allRequests_pure _
      | ok ipCount =>
        dsimp only
        split
        · exact AllRequests.run_bind (P := isLoginCheck) hblock fun _ => allRequests_pure _
        · exact allRequests_pure _
  · rw [if_neg hlimit]
    exact allRequests_pure _

omit [Library] in
lemma checks_isIPBlocked (ip : String) : (isIPBlocked cfg ip).run.AllRequests isLoginCheck := by
  unfold isIPBlocked
  split
  · exact allRequests_pure _
  · split
    · exact allRequests_pure _
    · exact allRequests_call (q := .isFirewallRuleActive _ _) trivial

omit [Library] in
lemma checks_isIPAllowlisted (ip : String) : (isIPAllowlisted ip).run.AllRequests isLoginCheck := by
  unfold isIPAllowlisted
  split
  · exact allRequests_pure _
  · exact AllRequests.run_bind (P := isLoginCheck) (allRequests_call (q := .listActiveFirewallRules _) trivial)
      fun _ => allRequests_pure _

omit [Library] [AuthLibrary] in
/-- A check of the country, which comes before the other one. -/
lemma checks_geo {allowlisted : AuthCall Bool} {block : AuthCall Unit} {counted : AuthCall (Option (String × AuthError))}
    (geo : Bool) (hallowlisted : allowlisted.run.AllRequests isLoginCheck) (hblock : block.run.AllRequests isLoginCheck)
    (hcounted : counted.run.AllRequests isLoginCheck) :
    (if geo = true then do
      let allowlisted ← orElse false allowlisted
      if (!allowlisted) = true then do
        block
        pure (some ("geo_blocked", AuthError.geoBlocked))
      else counted
    else counted : AuthCall (Option (String × AuthError))).run.AllRequests isLoginCheck := by
  split
  · refine AllRequests.run_bind (P := isLoginCheck) (allRequests_orElse hallowlisted) fun allowlisted => ?_
    split
    · exact AllRequests.run_bind (P := isLoginCheck) hblock fun _ => allRequests_pure _
    · exact hcounted
  · exact hcounted

lemma checks_precheckLoginSecurity (tenantID email : String) (sec : LoginSecurityContext) :
    (precheckLoginSecurity cfg tenantID email sec).run.AllRequests isLoginCheck := by
  have hlimit := checks_limit cfg.maxFailedLogin (checks_failedLoginCount cfg tenantID email "")
    (checks_failedLoginCount cfg tenantID "" sec.ipAddress)
    (checks_blockIP cfg sec.ipAddress "too_many_attempts")
  have hgeo := checks_geo (shouldBlockByGeo cfg sec) (checks_isIPAllowlisted sec.ipAddress)
    (checks_blockIP cfg sec.ipAddress "geo_blocked") hlimit
  unfold precheckLoginSecurity
  dsimp only
  by_cases hip : sec.ipAddress ≠ ""
  · rw [if_pos hip]
    refine AllRequests.run_bind (P := isLoginCheck) (allRequests_orElse (checks_isIPBlocked cfg sec.ipAddress)) ?_
    rintro (_ | _)
    · exact hgeo
    · exact allRequests_pure _
  · rw [if_neg hip]
    exact hgeo

end Checks

end ErgGo.Auth
