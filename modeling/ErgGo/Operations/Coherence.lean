import ErgGo.Operations.Firewall

/-!
# Coherence of the firewall

The request firewall and the login agree as long as every block is automatic, nothing is
unblocked that the rules table still blocks, and no address is allowlisted that the login
could refuse for its location. An unblocked address then stays unblocked.
-/

namespace ErgGo.Operations
open Go Documents Concurrent Program Lms Postgres Auth

/-! ## What the checks look at -/

section Checks

variable [Library] [FirewallLibrary] (cfg : AuthConfig) (now : Time) (s : AuthStore)

lemma runAt_isIPBlocked (ip : String) : ∃ b, runAt now s (orElse false (Auth.isIPBlocked cfg ip)) = (.ok b, s) := by
  unfold Auth.isIPBlocked
  split
  · exact ⟨false, rfl⟩
  · split
    · exact ⟨false, rfl⟩
    · exact ⟨_, rfl⟩

/-- The reason a check gives for its refusal. -/
def refusal (r : Except AuthError (Option (String × AuthError))) : Option String := r.toOption.join.map Prod.fst

omit [Library] [FirewallLibrary] in
/-- The failure counts are never a refusal for the location. -/
lemma returns_counts {α : Type} (x y : AuthCall (Except AuthError ℤ)) (b : Prop) [Decidable b] (p : ℤ → ℤ → Prop)
    [∀ m n, Decidable (p m n)] (blocking : AuthCall α) :
    (if b then do
      match ← x with
        | .error err => return some ("", err)
        | .ok emailCount =>
          match ← y with
          | .error err => return some ("", err)
          | .ok ipCount =>
            if p emailCount ipCount then
              let _ ← blocking
              return some ("too_many_attempts", AuthError.tooManyAttempts)
            else return none
     else pure none : AuthCall (Option (String × AuthError))).run.Returns (fun r => refusal r ≠ some "geo_blocked") := by
  have herror (e : AuthError) : refusal (.error e) ≠ some "geo_blocked" := by
    intro h
    cases h
  have hcount (e : AuthError) : refusal (.ok (some ("", e))) ≠ some "geo_blocked" := by
    intro h
    exact (by decide : ("" : String) ≠ "geo_blocked") (Option.some.inj h)
  have hnone : refusal (.ok none) ≠ some "geo_blocked" := by
    intro h
    cases h
  split
  · refine Returns.run_bind x herror fun emails => ?_
    cases emails with
    | error err => exact hcount err
    | ok emailCount =>
      refine Returns.run_bind y herror fun ips => ?_
      cases ips with
      | error err => exact hcount err
      | ok ipCount =>
        dsimp only
        split
        · refine Returns.run_bind blocking herror fun _ h => absurd (Option.some.inj h) (by decide)
        · exact hnone
  · exact hnone

lemma locationRefused {sec : LoginSecurityContext} (h : LocationRefused cfg now s sec) :
    shouldBlockByGeo cfg sec ∧ (runAt now s (orElse false (isIPAllowlisted sec.ipAddress))).1 ≠ .ok true := by
  obtain ⟨tenantID, email, h⟩ := h
  have h : refusal (runAt now s (precheckLoginSecurity cfg tenantID email sec)).1 = some "geo_blocked" := congrArg refusal h
  have hgeo : sec.ipAddress = "" → shouldBlockByGeo cfg sec = false := by
    intro hip
    simp [shouldBlockByGeo, hip]
  unfold precheckLoginSecurity at h
  dsimp only at h
  by_cases hip : sec.ipAddress ≠ ""
  · obtain ⟨blocked, hblocked⟩ := runAt_isIPBlocked cfg now s sec.ipAddress
    rw [if_pos hip, runAt, alone_run_bind hblocked] at h
    cases blocked with
    | true =>
      rw [if_pos rfl] at h
      exact absurd (Option.some.inj h) (by decide)
    | false =>
      rw [if_neg Bool.false_ne_true] at h
      by_cases hgeo : shouldBlockByGeo cfg sec
      · refine ⟨hgeo, fun hallowed => ?_⟩
        cases hreply : runAt now s (orElse false (isIPAllowlisted sec.ipAddress)) with
        | mk answer s' =>
          rw [hreply] at hallowed
          obtain rfl : answer = .ok true := hallowed
          rw [if_pos hgeo, alone_run_bind hreply] at h
          exact absurd h ((returns_counts _ _ _ _ _).alone _ _)
      · rw [if_neg hgeo] at h
        exact absurd h ((returns_counts _ _ _ _ _).alone _ _)
  · rw [if_neg hip, runAt, alone_run_bind rfl, if_neg Bool.false_ne_true, hgeo (not_not.mp hip), if_neg Bool.false_ne_true] at h
    exact absurd h ((returns_counts _ _ _ _ _).alone _ _)


lemma runAt_isIPAllowlisted {ip : String} (hip : trimSpace ip ≠ "") {rule : FirewallRule} (hrule : rule ∈ s.db.firewallRules)
    (hactive : activeFirewallRule now rule) (htype : rule.ruleType = "allowlist")
    (hmatches : AuthLibrary.ipMatchesAllowlistEntry (trimSpace ip) rule.entry) :
    (runAt now s (orElse false (isIPAllowlisted ip))).1 = .ok true := by
  unfold isIPAllowlisted
  rw [if_neg hip]
  refine congrArg Except.ok (List.any_eq_true.mpr ⟨rule, ?_, hmatches⟩)
  refine (Library.sortSlice_perm _ _).mem_iff.mpr (List.mem_filter.mpr ⟨hrule, ?_⟩)
  rw [hactive, htype]
  rfl

/-- An active block in the rules table. -/
def SQLBlocked (t : Time) (s : AuthStore) (ip : String) : Prop :=
  ∃ rule ∈ s.db.firewallRules, activeFirewallRule t rule ∧ rule.ruleType = "block" ∧ rule.entry = ip

lemma loginRefuses_iff (ip : String) : loginRefuses cfg now s ip ↔
    trimSpace ip ≠ "" ∧ (cfg.production ∨ AuthLibrary.isPrivateOrLoopbackIP (trimSpace ip) = false) ∧ SQLBlocked now s (trimSpace ip) := by
  unfold loginRefuses Auth.isIPBlocked
  by_cases hip : trimSpace ip = ""
  · rw [if_pos hip]
    refine iff_of_false (fun h => ?_) (fun h => h.1 hip)
    cases h
  · rw [if_neg hip]
    by_cases hexempt : !cfg.production && AuthLibrary.isPrivateOrLoopbackIP (trimSpace ip)
    · rw [if_pos hexempt]
      refine iff_of_false (fun h => by cases h) (fun h => ?_)
      simp only [Bool.and_eq_true, Bool.not_eq_true'] at hexempt
      simp [hexempt] at h
    · rw [if_neg hexempt]
      have hanswer : (runAt now s (call (.isFirewallRuleActive "block" (trimSpace ip)))).1 =
          .ok (s.db.firewallRules.any (fun rule =>
            activeFirewallRule now rule && rule.ruleType = trimSpace "block" && rule.entry = trimSpace (trimSpace ip))) := rfl
      have htype : trimSpace "block" = "block" := by decide
      rw [hanswer, trimSpace_trimSpace, htype, Except.ok.injEq, List.any_eq_true, and_iff_right hip, and_iff_right]
      · simp only [Bool.and_eq_true, decide_eq_true_eq, and_assoc]
        rfl
      · simpa [or_iff_not_imp_left] using hexempt

omit [FirewallLibrary] in
lemma exec_none [AuthLibrary] (env : AuthEnv) (q : AuthRequest) : exec (env, .none) q s = carryOut env q s := by
  unfold exec
  split
  · rfl
  · rfl

lemma runAt_orElse_call (q : AuthRequest) (default : AuthResult q) :
    (runAt now s (orElse default (call q))).2 = (carryOut ⟨now, "", .nil⟩ q s).2 := by
  rw [runAt, orElse, run_tryCatch, run_call, alone_bind, alone_send, exec_none]
  cases (carryOut ⟨now, "", .nil⟩ q s).1 <;> rfl

lemma runAt_blockIP (ip reason : String) : (runAt now s (Auth.blockIP cfg ip reason)).2 =
    if trimSpace ip = "" then s else
      { s with db := (upsertFirewallRule s.db now
        { entry := trimSpace ip, ruleType := "block", reason := trimSpace reason, source := "auth",
          expiresAt := some (now + blockDuration cfg), createdAt := now, updatedAt := now }).2 } := by
  have hnow : (call .now).run.alone exec (⟨now, "", .nil⟩, .none) s = (.ok now, s) := rfl
  unfold Auth.blockIP
  by_cases hip : trimSpace ip = ""
  · rw [if_pos hip, if_pos hip]
    rfl
  · have htype : trimSpace "block" = "block" := by decide
    have hsource : trimSpace "auth" = "auth" := by decide
    rw [if_neg hip, if_neg hip, runAt, alone_run_bind hnow, alone_run_bind hnow]
    have hcall := runAt_orElse_call now s
      (.upsertFirewallRule (trimSpace ip) "block" (trimSpace reason) "auth" (some (now + blockDuration cfg)) now) ()
    rw [runAt] at hcall
    rw [hcall, carryOut, trimSpace_trimSpace, trimSpace_trimSpace, htype, hsource]

omit [Library] [FirewallLibrary] in
/-- After an automatic block the address is blocked until the block ends, and others are as before. -/
lemma sqlBlocked_upsert (rule : FirewallRule) (hentry : rule.entry ≠ "") (htype : rule.ruleType = "block")
    (hactive : rule.active) (t : Time) (x : String) :
    SQLBlocked t { s with db := (upsertFirewallRule s.db now rule).2 } x ↔
      if x = rule.entry then (rule.expiresAt.all (fun e => e / 1000 > t / 1000) : Prop) else SQLBlocked t s x := by
  have hmem (stored : FirewallRule) : stored ∈ (upsertFirewallRule s.db now rule).2.firewallRules ↔
      (∃ old ∈ s.db.firewallRules, (if old.ruleType = rule.ruleType && old.entry = rule.entry && old.active then
        { old with active := false, revokedAt := some now, updatedAt := now } else old) = stored) ∨ stored = rule := by
    unfold upsertFirewallRule
    rw [if_neg (by simp [hentry, htype])]
    simp only [List.mem_append, List.mem_map, List.mem_singleton]
  unfold SQLBlocked
  simp only [hmem]
  split
  · next hx =>
    constructor
    · rintro ⟨stored, ⟨old, -, rfl⟩ | rfl, hlive, hblock, hstored⟩
      · split at hlive
        · simp [activeFirewallRule] at hlive
        · next hold =>
          rw [if_neg hold] at hblock hstored
          have hactive : old.active := (Bool.and_eq_true _ _ ▸ hlive : _ ∧ _).1
          exact absurd (by simp [htype, hblock, hstored, hx, hactive]) hold
      · exact (Bool.and_eq_true _ _ ▸ hlive : _ ∧ _).2
    · intro hexpiry
      exact ⟨rule, .inr rfl, by simp [activeFirewallRule, hactive, hexpiry], htype, hx.symm⟩
  · next hx =>
    constructor
    · rintro ⟨stored, ⟨old, hold, rfl⟩ | rfl, hlive, hblock, hstored⟩
      · split at hlive
        · simp [activeFirewallRule] at hlive
        · next hkept =>
          rw [if_neg hkept] at hblock hstored
          exact ⟨old, hold, hlive, hblock, hstored⟩
      · exact absurd hstored.symm hx
    · rintro ⟨old, hold, hlive, hblock, hstored⟩
      have hkept : ¬(old.ruleType = rule.ruleType && old.entry = rule.entry && old.active) := by
        simp [hstored, hx]
      exact ⟨old, .inl ⟨old, hold, if_neg hkept⟩, hlive, hblock, hstored⟩

def RedisBlocked (t : Time) (s : AuthStore) (ip : String) : Prop := (Redis.live t s.redis (ipBlockedKey ip)).isSome

variable {cfg now s}

omit [Library] in
lemma firewallRefuses_iff (hredis : cfg.redis) (ip : String) :
    firewallRefuses cfg now s ip ↔ FirewallLibrary.isLoopbackIP ip = false ∧ RedisBlocked now s (trimSpace ip) := by
  unfold firewallRefuses Service.isIPBlocked
  rw [hredis]
  by_cases hloopback : FirewallLibrary.isLoopbackIP ip
  · simp [hloopback]
  · simp [hloopback, RedisBlocked]

/-- An address that is neither private nor of this host. -/
def Public (ip : String) : Prop := trimSpace ip ≠ "" ∧ AuthLibrary.isPrivateOrLoopbackIP (trimSpace ip) = false

omit [Library] in
lemma firewallRefuses_public (hredis : cfg.redis) {ip : String} (hip : Public ip) :
    firewallRefuses cfg now s ip ↔ RedisBlocked now s (trimSpace ip) := by
  rw [firewallRefuses_iff hredis, and_iff_right]
  by_contra hloopback
  have := FirewallLibrary.isLoopbackIP_private ip (by simpa using hloopback)
  exact absurd (hip.2.symm.trans this) Bool.false_ne_true

lemma loginRefuses_public {ip : String} (hip : Public ip) : loginRefuses cfg now s ip ↔ SQLBlocked now s (trimSpace ip) := by
  rw [loginRefuses_iff, and_iff_right hip.1, and_iff_right (.inr hip.2)]

omit [Library] [FirewallLibrary] in
lemma sqlBlocked_of_le {t t' : Time} (hle : t ≤ t') {ip : String} (h : SQLBlocked t' s ip) : SQLBlocked t s ip := by
  obtain ⟨rule, hrule, hactive, hblock, hentry⟩ := h
  refine ⟨rule, hrule, ?_, hblock, hentry⟩
  simp only [activeFirewallRule, Bool.and_eq_true, Option.all_eq_true, decide_eq_true_eq] at hactive ⊢
  exact ⟨hactive.1, fun e he => lt_of_le_of_lt (Int.ediv_le_ediv (by decide) hle) (hactive.2 e he)⟩

/-- The login does not refuse the address for its location. -/
def Exempt (cfg : AuthConfig) (t : Time) (s : AuthStore) (ip : String) : Prop :=
  cfg.geoBlockEnabled = false ∨ AuthLibrary.isPrivateOrLoopbackIP ip ∨
    ∃ rule ∈ s.db.firewallRules, activeFirewallRule t rule ∧ rule.ruleType = "allowlist" ∧
      AuthLibrary.ipMatchesAllowlistEntry (trimSpace ip) rule.entry

lemma not_locationRefused {sec : LoginSecurityContext} (hip : trimSpace sec.ipAddress ≠ "")
    (h : Exempt cfg now s sec.ipAddress) : ¬LocationRefused cfg now s sec := by
  intro hrefused
  obtain ⟨hgeo, hallowlist⟩ := locationRefused cfg now s hrefused
  obtain hdisabled | hprivate | ⟨rule, hrule, hactive, htype, hmatches⟩ := h
  · simp [shouldBlockByGeo, hdisabled] at hgeo
  · simp [shouldBlockByGeo, hprivate] at hgeo
  · exact hallowlist (runAt_isIPAllowlisted now s hip hrule hactive htype hmatches)

end Checks

/-! ## One step -/

section Keys

lemma ipBlockedKey_injective {a b : String} (h : ipBlockedKey a = ipBlockedKey b) : a = b := by
  have hlist := congrArg String.toList h
  simp only [ipBlockedKey, String.toList_append, List.append_cancel_left_eq] at hlist
  exact String.toList_inj.mp hlist

lemma ipAllowlistKey_injective {a b : String} (h : ipAllowlistKey a = ipAllowlistKey b) : a = b := by
  have hlist := congrArg String.toList h
  simp only [ipAllowlistKey, String.toList_append, List.append_cancel_left_eq] at hlist
  exact String.toList_inj.mp hlist

lemma ipAllowlistKey_ne (a b : String) : ipAllowlistKey a ≠ ipBlockedKey b := by
  intro h
  have hlist := congrArg String.toList h
  simp [ipAllowlistKey, ipBlockedKey, String.toList_append] at hlist

end Keys

section Steps

variable [Library] [FirewallLibrary] {cfg : AuthConfig} {s : AuthStore}

/-- The call blocks the address. -/
def FirewallOperation.Blocks (ip : String) : FirewallOperation → Prop
  | .blockIP ip' _ _ _ => trimSpace ip' = ip
  | .automaticBlock ip' _ => trimSpace ip' = ip
  | _ => False

/-- An allowlist entry that has not expired. -/
def AllowlistLive (t : Time) (s : AuthStore) (entry : String) : Prop := (Redis.live t s.redis (ipAllowlistKey entry)).isSome

omit [Library] [FirewallLibrary] in
lemma redisBlocked_put {t : Time} {x ip value : String} {expiresAt : Option ℤ} :
    (Redis.live t (Redis.put s.redis (ipBlockedKey ip) value expiresAt) (ipBlockedKey x)).isSome ↔
      if x = ip then (Redis.unexpired t expiresAt : Prop) else RedisBlocked t s x := by
  split
  · next hx => rw [hx, Redis.isSome_live_put]
  · next hx =>
    rw [Redis.live_put_of_ne _ _ (fun h => hx (ipBlockedKey_injective h))]
    rfl

lemma blockIP_db (now : Time) (ip reason : String) (hip : trimSpace ip ≠ "") :
    (blockIP cfg now s ip reason).db = (upsertFirewallRule s.db now
      { entry := trimSpace ip, ruleType := "block", reason := trimSpace reason, source := "auth",
        expiresAt := some (now + blockDuration cfg), createdAt := now, updatedAt := now }).2 := by
  have hblocked := runAt_blockIP cfg now s ip reason
  rw [if_neg hip] at hblocked
  unfold blockIP
  rw [hblocked]
  dsimp only
  split <;> rfl

lemma blockIP_redis (hredis : cfg.redis) (now : Time) (ip reason : String) (hip : trimSpace ip ≠ "") :
    ∃ value, (blockIP cfg now s ip reason).redis =
      Redis.set now s.redis (ipBlockedKey (trimSpace ip)) value (blockDuration cfg) := by
  have hblocked := runAt_blockIP cfg now s ip reason
  rw [if_neg hip] at hblocked
  unfold blockIP
  rw [hblocked]
  dsimp only
  rw [if_neg (by simp [hip, hredis])]
  exact ⟨_, rfl⟩

lemma blockIP_blank (now : Time) (ip reason : String) (hip : trimSpace ip = "") : blockIP cfg now s ip reason = s := by
  have hblocked := runAt_blockIP cfg now s ip reason
  rw [if_pos hip] at hblocked
  unfold blockIP
  rw [hblocked]
  dsimp only
  rw [if_pos (.inl hip)]

omit [Library] [FirewallLibrary] in
lemma redisBlocked_del (t : Time) (x ip : String) :
    (Redis.live t (Redis.del s.redis [ipBlockedKey ip]) (ipBlockedKey x)).isSome ↔ x ≠ ip ∧ RedisBlocked t s x := by
  by_cases hx : x = ip
  · rw [hx, Redis.live_del_singleton]
    simp
  · rw [Redis.live_del_of_ne _ _ (fun h => hx (ipBlockedKey_injective h)), and_iff_right hx]
    rfl

/-- What a call leaves of the blocks in Redis. -/
lemma redisBlocked_step (hredis : cfg.redis) (t : Time) (x : String) (call : Time × FirewallOperation) :
    RedisBlocked t (step cfg s call) x ↔ match call.2 with
      | .blockIP ip duration _ _ =>
        if x = trimSpace ip then (Redis.unexpired t (Redis.expiry call.1 (Service.effectiveDuration duration)) : Prop)
        else RedisBlocked t s x
      | .unblockIP ip => x ≠ trimSpace ip ∧ RedisBlocked t s x
      | .automaticBlock ip _ =>
        if x = trimSpace ip ∧ trimSpace ip ≠ "" then
          (Redis.unexpired t (Redis.expiry call.1 (blockDuration cfg)) : Prop)
        else RedisBlocked t s x
      | _ => RedisBlocked t s x := by
  obtain ⟨now, op⟩ := call
  cases op with
  | blockIP ip duration reason source =>
    simp only [step, Service.blockIPWithMetadata, hredis, Bool.not_true, Bool.false_eq_true, if_false, withRedis]
    exact redisBlocked_put
  | unblockIP ip =>
    simp only [step, Service.unblockIP, hredis, Bool.not_true, Bool.false_eq_true, if_false, withRedis]
    exact redisBlocked_del t x (trimSpace ip)
  | allowlistIP entry reason duration =>
    simp only [step, Service.allowlistIP, hredis, Bool.not_true, Bool.false_eq_true, if_false]
    split
    · rfl
    · simp only [withRedis, RedisBlocked]
      rw [Redis.live_put_of_ne _ _ (ipAllowlistKey_ne _ _).symm]
  | removeAllowlistIP entry =>
    simp only [step, Service.removeAllowlistIP, hredis, Bool.not_true, Bool.false_eq_true, if_false, withRedis, RedisBlocked]
    rw [Redis.live_del_of_ne _ _ (ipAllowlistKey_ne _ _).symm]
  | automaticBlock ip reason =>
    dsimp only [step]
    by_cases hip : trimSpace ip = ""
    · rw [blockIP_blank now ip reason hip, if_neg (fun h => h.2 hip)]
    · obtain ⟨value, hvalue⟩ := blockIP_redis (s := s) hredis now ip reason hip
      rw [RedisBlocked, hvalue, Redis.set, redisBlocked_put]
      simp only [hip, ne_eq, not_false_eq_true, and_true]

/-- The rules table changes only by an automatic block. -/
lemma sqlBlocked_step (t : Time) (x : String) (call : Time × FirewallOperation) :
    SQLBlocked t (step cfg s call) x ↔ match call.2 with
      | .automaticBlock ip _ =>
        if x = trimSpace ip ∧ trimSpace ip ≠ "" then t / 1000 < (call.1 + blockDuration cfg) / 1000 else SQLBlocked t s x
      | _ => SQLBlocked t s x := by
  have hrules (result : Except String RedisData) : (withRedis s result).db = s.db := by
    cases result <;> rfl
  obtain ⟨now, op⟩ := call
  cases op with
  | automaticBlock ip reason =>
    dsimp only [step]
    by_cases hip : trimSpace ip = ""
    · rw [blockIP_blank now ip reason hip, if_neg (fun h => h.2 hip)]
    · have hblocked := sqlBlocked_upsert now s
        { entry := trimSpace ip, ruleType := "block", reason := trimSpace reason, source := "auth",
          expiresAt := some (now + blockDuration cfg), createdAt := now, updatedAt := now } hip rfl rfl t x
      rw [SQLBlocked, blockIP_db now ip reason hip]
      refine Iff.trans hblocked ?_
      simp only [hip, ne_eq, not_false_eq_true, and_true, Option.all_some, decide_eq_true_eq, gt_iff_lt]
  | _ =>
    rw [SQLBlocked, step, hrules]
    rfl

/-- An entry that is live after a call was live before, or the call has allowlisted it. -/
lemma allowlistLive_step (hredis : cfg.redis) {t : Time} {entry : String} {call : Time × FirewallOperation}
    (h : AllowlistLive t (step cfg s call) entry) : AllowlistLive t s entry ∨
      ∃ entry' reason duration, call.2 = .allowlistIP entry' reason duration ∧ trimSpace entry' = entry ∧
        FirewallLibrary.isValidIPOrCIDR entry ∧
        Redis.unexpired t (Service.allowlistExpiry call.1 (ipAllowlistKey entry) duration s.redis) := by
  obtain ⟨now, op⟩ := call
  cases op with
  | blockIP ip duration reason source =>
    simp only [step, Service.blockIPWithMetadata, hredis, Bool.not_true, Bool.false_eq_true, if_false, withRedis,
      AllowlistLive] at h
    rw [Redis.set, Redis.live_put_of_ne _ _ (ipAllowlistKey_ne _ _)] at h
    exact .inl h
  | unblockIP ip =>
    simp only [step, Service.unblockIP, hredis, Bool.not_true, Bool.false_eq_true, if_false, withRedis, AllowlistLive] at h
    rw [Redis.live_del_of_ne _ _ (ipAllowlistKey_ne _ _)] at h
    exact .inl h
  | allowlistIP entry' reason duration =>
    simp only [step, Service.allowlistIP, hredis, Bool.not_true, Bool.false_eq_true, if_false] at h
    by_cases hvalid : FirewallLibrary.isValidIPOrCIDR (trimSpace entry')
    · simp only [hvalid, Bool.not_true, Bool.false_eq_true, if_false, withRedis, AllowlistLive] at h
      by_cases hentry : trimSpace entry' = entry
      · subst hentry
        exact .inr ⟨entry', reason, duration, rfl, rfl, hvalid, Redis.isSome_live_put .. ▸ h⟩
      · rw [Redis.live_put_of_ne _ _ (fun h => hentry (ipAllowlistKey_injective h).symm)] at h
        exact .inl h
    · simp only [hvalid, Bool.not_false, if_true, withRedis] at h
      exact .inl h
  | removeAllowlistIP entry' =>
    simp only [step, Service.removeAllowlistIP, hredis, Bool.not_true, Bool.false_eq_true, if_false, withRedis,
      AllowlistLive] at h
    by_cases hentry : entry = trimSpace entry'
    · rw [hentry, Redis.live_del_singleton] at h
      cases h
    · rw [Redis.live_del_of_ne _ _ (fun h => hentry (ipAllowlistKey_injective h))] at h
      exact .inl h
  | automaticBlock ip reason =>
    dsimp only [step] at h
    by_cases hip : trimSpace ip = ""
    · rw [blockIP_blank now ip reason hip] at h
      exact .inl h
    · obtain ⟨value, hvalue⟩ := blockIP_redis (s := s) hredis now ip reason hip
      rw [AllowlistLive, hvalue, Redis.set, Redis.live_put_of_ne _ _ (ipAllowlistKey_ne _ _)] at h
      exact .inl h

/-- A block does not touch the allowlist rules of the table. -/
lemma exempt_step {t : Time} {ip : String} (h : Exempt cfg t s ip) (call : Time × FirewallOperation) :
    Exempt cfg t (step cfg s call) ip := by
  have hrules (result : Except String RedisData) : (withRedis s result).db = s.db := by
    cases result <;> rfl
  obtain hdisabled | hprivate | ⟨rule, hrule, hactive, htype, hmatches⟩ := h
  · exact .inl hdisabled
  · exact .inr (.inl hprivate)
  · refine .inr (.inr ⟨rule, ?_, hactive, htype, hmatches⟩)
    obtain ⟨now, op⟩ := call
    cases op with
    | automaticBlock ip' reason =>
      dsimp only [step]
      by_cases hip : trimSpace ip' = ""
      · rwa [blockIP_blank now ip' reason hip]
      · rw [blockIP_db now ip' reason hip, upsertFirewallRule, if_neg (by simp [hip])]
        refine List.mem_append_left _ (List.mem_map.mpr ⟨rule, hrule, if_neg ?_⟩)
        simp [htype]
    | _ =>
      rw [step, hrules]
      exact hrule

/-! ## Runs -/

/-- What a call may do without taking the two sides apart at the time of the checks. -/
def Condition (cfg : AuthConfig) (t : Time) (s : AuthStore) (call : Time × FirewallOperation) : Prop :=
  match call.2 with
  | .blockIP ip duration _ _ => Public ip →
    -- The rules table already blocks the address then, or the block is over.
    (SQLBlocked t s (trimSpace ip) ↔ Redis.unexpired t (Redis.expiry call.1 (Service.effectiveDuration duration)))
  | .unblockIP ip => ¬loginRefuses cfg call.1 s ip
  | .allowlistIP entry _ duration => FirewallLibrary.isValidIPOrCIDR (trimSpace entry) →
    ∀ ip, trimSpace ip ≠ "" → AuthLibrary.ipMatchesAllowlistEntry (trimSpace ip) (trimSpace entry) →
      Redis.unexpired t (Service.allowlistExpiry call.1 (ipAllowlistKey (trimSpace entry)) duration s.redis) →
        Exempt cfg t s ip
  | .removeAllowlistIP _ => True
  | .automaticBlock ip _ => Public ip →
    -- Redis counts milliseconds and the table microseconds: the checks are not made between the two ends.
    (Redis.unexpired t (Redis.expiry call.1 (blockDuration cfg)) ↔ t / 1000 < (call.1 + blockDuration cfg) / 1000)

/-- At the time `t` the two lists of blocks agree, and allowlisted addresses are exempt. -/
structure Coherent (cfg : AuthConfig) (t : Time) (s : AuthStore) : Prop where
  agree : ∀ ip, Public ip → (RedisBlocked t s (trimSpace ip) ↔ SQLBlocked t s (trimSpace ip))
  exempt : ∀ entry, AllowlistLive t s entry → ∀ ip, trimSpace ip ≠ "" →
    AuthLibrary.ipMatchesAllowlistEntry (trimSpace ip) entry → Exempt cfg t s ip

lemma Coherent.step (hredis : cfg.redis) {t : Time} (h : Coherent cfg t s) {call : Time × FirewallOperation}
    (hle : call.1 ≤ t) (hcall : Condition cfg t s call) : Coherent cfg t (step cfg s call) where
  agree ip hip := by
    have hbefore := h.agree ip hip
    have hpublic : ∀ ip', trimSpace ip = trimSpace ip' → Public ip' := by
      intro ip' hsame
      unfold Public
      rw [← hsame]
      exact hip
    rw [redisBlocked_step hredis, sqlBlocked_step]
    obtain ⟨now, op⟩ := call
    cases op with
    | blockIP ip' duration reason source =>
      dsimp only
      split
      · next hsame =>
        rw [hsame]
        exact (hcall (hpublic ip' hsame)).symm
      · exact hbefore
    | unblockIP ip' =>
      dsimp only
      rw [hbefore, and_iff_right_iff_imp]
      intro hblocked hsame
      exact hcall ((loginRefuses_public (hpublic ip' hsame)).mpr (hsame ▸ sqlBlocked_of_le hle hblocked))
    | allowlistIP entry reason duration => exact hbefore
    | removeAllowlistIP entry => exact hbefore
    | automaticBlock ip' reason =>
      dsimp only
      split
      · next hsame => exact hcall (hpublic ip' hsame.1)
      · exact hbefore
  exempt entry hentry ip hip hmatches := by
    apply exempt_step
    obtain hbefore | ⟨entry', reason, duration, hop, rfl, hvalid, hlive⟩ := allowlistLive_step hredis hentry
    · exact h.exempt entry hbefore ip hip hmatches
    · unfold Condition at hcall
      rw [hop] at hcall
      exact hcall hvalid ip hip hmatches hlive

def run (cfg : AuthConfig) (s : AuthStore) (calls : List (Time × FirewallOperation)) : AuthStore :=
  calls.foldl (Operations.step cfg) s

lemma Coherent.run (hredis : cfg.redis) {t : Time} {calls : List (Time × FirewallOperation)} (h : Coherent cfg t s)
    (hlast : ∀ call ∈ calls, call.1 ≤ t) (hcalls : Runs.Throughout (Operations.step cfg) (Condition cfg t) s calls) :
    Coherent cfg t (run cfg s calls) := by
  induction calls generalizing s with
  | nil => exact h
  | cons call calls ih =>
    exact ih (h.step hredis (hlast call List.mem_cons_self) hcalls.1)
      (fun call' hcall' => hlast call' (List.mem_cons_of_mem _ hcall')) hcalls.2

/-- At the time `t` nothing refuses the address. -/
def Free (cfg : AuthConfig) (t : Time) (s : AuthStore) (ip : String) : Prop :=
  ¬RedisBlocked t s (trimSpace ip) ∧ ¬loginRefuses cfg t s ip

lemma Free.run (hredis : cfg.redis) {t : Time} {ip : String} {calls : List (Time × FirewallOperation)}
    (h : Free cfg t s ip) (hcalls : ∀ call ∈ calls, ¬call.2.Blocks (trimSpace ip)) : Free cfg t (run cfg s calls) ip := by
  induction calls generalizing s with
  | nil => exact h
  | cons call calls ih =>
    refine ih ?_ (fun call' hcall' => hcalls call' (List.mem_cons_of_mem _ hcall'))
    obtain ⟨hredisFree, hloginFree⟩ := h
    have hother := hcalls call List.mem_cons_self
    unfold Free
    rw [loginRefuses_iff] at hloginFree ⊢
    rw [redisBlocked_step hredis, sqlBlocked_step]
    obtain ⟨now, op⟩ := call
    cases op with
    | blockIP ip' duration reason source =>
      dsimp only
      rw [if_neg (Ne.symm hother)]
      exact ⟨hredisFree, hloginFree⟩
    | unblockIP ip' => exact ⟨fun hblocked => hredisFree hblocked.2, hloginFree⟩
    | allowlistIP entry reason duration => exact ⟨hredisFree, hloginFree⟩
    | removeAllowlistIP entry => exact ⟨hredisFree, hloginFree⟩
    | automaticBlock ip' reason =>
      dsimp only
      rw [if_neg (fun hsame => hother hsame.1.symm), if_neg (fun hsame => hother hsame.1.symm)]
      exact ⟨hredisFree, hloginFree⟩

lemma free_unblockIP (hredis : cfg.redis) {t now : Time} {ip ip' : String} (hle : now ≤ t)
    (hsame : trimSpace ip' = trimSpace ip) (hcall : Condition cfg t s (now, .unblockIP ip')) :
    Free cfg t (step cfg s (now, .unblockIP ip')) ip := by
  have hfree : ¬loginRefuses cfg now s ip := by
    intro hrefused
    refine hcall ?_
    rw [loginRefuses_iff] at hrefused ⊢
    rwa [hsame]
  unfold Free
  rw [loginRefuses_iff] at hfree ⊢
  rw [redisBlocked_step hredis, sqlBlocked_step]
  refine ⟨fun hblocked => hblocked.1 hsame.symm, fun hrefused => hfree ⟨hrefused.1, hrefused.2.1, ?_⟩⟩
  exact sqlBlocked_of_le hle hrefused.2.2

lemma run_append (calls₁ calls₂ : List (Time × FirewallOperation)) :
    run cfg s (calls₁ ++ calls₂) = run cfg (run cfg s calls₁) calls₂ :=
  List.foldl_append

/-- In every run whose calls meet the condition for a time from its last call on, at that time: the
request firewall and the login agree on public addresses, neither refuses an address that
was unblocked and not blocked again, and no allowlisted address is refused for its location. -/
theorem coherent_run (hredis : cfg.redis) {t : Time} {calls : List (Time × FirewallOperation)} (h : Coherent cfg t s)
    (hlast : ∀ call ∈ calls, call.1 ≤ t) (hcalls : Runs.Throughout (step cfg) (Condition cfg t) s calls) :
    (∀ ip, Public ip → (firewallRefuses cfg t (run cfg s calls) ip ↔ loginRefuses cfg t (run cfg s calls) ip)) ∧
    (∀ before now ip' after ip, calls = before ++ (now, .unblockIP ip') :: after → trimSpace ip' = trimSpace ip →
      (∀ call ∈ after, ¬call.2.Blocks (trimSpace ip)) →
        ¬firewallRefuses cfg t (run cfg s calls) ip ∧ ¬loginRefuses cfg t (run cfg s calls) ip) ∧
    (∀ sec, trimSpace sec.ipAddress ≠ "" → Allowlisted t (run cfg s calls) sec.ipAddress →
      ¬LocationRefused cfg t (run cfg s calls) sec) := by
  have hcoherent := h.run hredis hlast hcalls
  refine ⟨fun ip hip => ?_, ?_, fun sec hip hallowlisted => ?_⟩
  · rw [firewallRefuses_public hredis hip, loginRefuses_public hip]
    exact hcoherent.agree ip hip
  · rintro before now ip' after ip rfl hsame hother
    have hcondition := (Runs.Throughout.of_append hcalls).1
    obtain ⟨hredisFree, hloginFree⟩ :=
      (free_unblockIP hredis (hlast (now, .unblockIP ip') (by simp)) hsame hcondition).run hredis hother
    rw [run_append]
    exact ⟨fun hrefused => hredisFree ((firewallRefuses_iff hredis ip).mp hrefused).2, hloginFree⟩
  · obtain ⟨entry, hentry, hmatches⟩ := hallowlisted
    exact not_locationRefused hip (hcoherent.exempt entry hentry _ hip hmatches)

omit [Library] in
lemma coherent_empty (cfg : AuthConfig) (t : Time) : Coherent cfg t ⟨.empty, ∅⟩ where
  agree ip _ := by
    refine iff_of_false (fun h => ?_) (fun ⟨rule, hrule, _⟩ => ?_)
    · cases h
    · cases hrule
  exempt entry hentry := by
    cases hentry

end Steps

namespace Sample

@[reducible] def firewall : FirewallLibrary where
  toAuthLibrary := { plainAuth with isPrivateOrLoopbackIP := fun ip => ip = "127.0.0.1" }
  isLoopbackIP ip := ip = "127.0.0.1"
  isLoopbackIP_private ip h := by
    rw [of_decide_eq_true h]
    decide
  isValidIPOrCIDR _ := true
  marshal _ := "{}"

def cfg : AuthConfig := { jwtSecret := "", jwtRefreshSecret := "", accessTokenTTL := 0, refreshTokenTTL := 0, geoBlockEnabled := true }

def empty : AuthStore := ⟨.empty, ∅⟩

def abroad : LoginSecurityContext := { ipAddress := "8.8.8.8", continentCode := "NA" }

end Sample

/-- An automatic block, checked in its first second. -/
theorem coherent_sample :
    letI := asciiLibrary
    letI := Sample.firewall
    let calls : List (Time × FirewallOperation) := [(0, .automaticBlock "8.8.8.8" "too_many_attempts"), (1, .removeAllowlistIP "8.8.8.8")]
    let s := run Sample.cfg Sample.empty calls
    (∀ ip, Public ip → (firewallRefuses Sample.cfg 1000000000 s ip ↔ loginRefuses Sample.cfg 1000000000 s ip)) ∧
    (∀ before now ip' after ip, calls = before ++ (now, .unblockIP ip') :: after → trimSpace ip' = trimSpace ip →
      (∀ call ∈ after, ¬call.2.Blocks (trimSpace ip)) →
        ¬firewallRefuses Sample.cfg 1000000000 s ip ∧ ¬loginRefuses Sample.cfg 1000000000 s ip) ∧
    (∀ sec, trimSpace sec.ipAddress ≠ "" → Allowlisted 1000000000 s sec.ipAddress →
      ¬LocationRefused Sample.cfg 1000000000 s sec) :=
  let := asciiLibrary
  let := Sample.firewall
  coherent_run rfl (coherent_empty Sample.cfg 1000000000) (by decide) ⟨fun _ => by decide, trivial, trivial⟩

/-- An address blocked by hand is refused by the request firewall alone; an address blocked
automatically and then unblocked is still refused at login; an automatic block is over at login
when Redis still has it; and an allowlisted address is refused for its location. -/
theorem firewall_incoherent :
    letI := asciiLibrary
    letI := Sample.firewall
    let blocked := run Sample.cfg Sample.empty [(0, .blockIP "8.8.8.8" 0 "manual" "operations")]
    let automatic := run Sample.cfg Sample.empty [(0, .automaticBlock "8.8.8.8" "too_many_attempts")]
    let unblocked := run Sample.cfg Sample.empty [(0, .automaticBlock "8.8.8.8" "too_many_attempts"), (1, .unblockIP "8.8.8.8")]
    let allowlisted := run Sample.cfg Sample.empty [(0, .allowlistIP "8.8.8.8" "" 0)]
    (Public "8.8.8.8" ∧ firewallRefuses Sample.cfg 1 blocked "8.8.8.8" ∧ ¬loginRefuses Sample.cfg 1 blocked "8.8.8.8") ∧
    (firewallRefuses Sample.cfg 900000000000 automatic "8.8.8.8" ∧
      ¬loginRefuses Sample.cfg 900000000000 automatic "8.8.8.8") ∧
    loginRefuses Sample.cfg 2 unblocked "8.8.8.8" ∧
    Allowlisted 1 allowlisted "8.8.8.8" ∧ LocationRefused Sample.cfg 1 allowlisted Sample.abroad := by
  let := asciiLibrary
  let := Sample.firewall
  refine ⟨⟨by unfold Public; decide, by decide, by unfold loginRefuses; decide⟩,
    ⟨by decide, by unfold loginRefuses; decide⟩, ?_, ?_, ?_⟩
  · unfold loginRefuses
    decide
  · exact ⟨"8.8.8.8", by decide, by decide⟩
  · exact ⟨"", "", by decide⟩

end ErgGo.Operations
