import ErgGo.Auth.LoginSecurity
import ErgGo.Lib.Runs

/-!
# The firewall

Blocks live in Redis, where the request firewall looks, and in the rules table, where the
login looks. The operations service writes Redis alone, and only an automatic block of the
login code writes both. Calls are made one after another, each at one time.
-/

namespace ErgGo.Operations
open Go Documents Concurrent Program Lms Postgres Auth

/-- A block or allowlist record, as it is kept in Redis. -/
structure FirewallRecord where
  ip : String := ""
  entry : String := ""
  reason : String
  source : String
  createdAt : Option Time := none
  blockedAt : Option Time := none
  expiresAt : Option Time := none

class FirewallLibrary extends AuthLibrary where
  /-- `netip.ParseAddr` gives a loopback address. -/
  isLoopbackIP : String → Bool
  isLoopbackIP_private : ∀ ip, isLoopbackIP ip → isPrivateOrLoopbackIP (trimSpace ip)
  /-- `netip.ParseAddr` or `netip.ParsePrefix` succeeds. -/
  isValidIPOrCIDR : String → Bool
  /-- `json.Marshal` of a record. -/
  marshal : FirewallRecord → String

open FirewallLibrary

def ipBlockedKey (ip : String) : String := "ip_blocked:" ++ ip
def ipAllowlistKey (entry : String) : String := "ip_allowlisted:" ++ entry

abbrev RedisData := GoMap RedisEntry

namespace Service

variable [FirewallLibrary] (cfg : AuthConfig) (now : Time)

/-- One year where no duration is given. -/
def effectiveDuration (duration : Time) : Time := if duration ≤ 0 then 31536000000000000 else duration

def blockIPWithMetadata (ip : String) (duration : Time) (reason source : String) (redis : RedisData) :
    Except String RedisData :=
  if !cfg.redis then .error "operations: redis client unavailable"
  else .ok (Redis.set now redis (ipBlockedKey (trimSpace ip))
    (marshal
      { ip := trimSpace ip, reason := trimSpace reason, source := trimSpace source, blockedAt := some now,
        expiresAt := some (now + effectiveDuration duration) })
    (effectiveDuration duration))

def blockIP (ip : String) (duration : Time) (redis : RedisData) : Except String RedisData :=
  blockIPWithMetadata cfg now ip duration "manual" "operations" redis

def unblockIP (ip : String) (redis : RedisData) : Except String RedisData :=
  if !cfg.redis then .error "operations: redis client unavailable"
  else .ok (Redis.del redis [ipBlockedKey (trimSpace ip)])

def isIPBlocked (ip : String) (redis : RedisData) : Except String Bool :=
  if !cfg.redis then .error "operations: redis client unavailable"
  else .ok (Redis.live now redis (ipBlockedKey (trimSpace ip))).isSome

/-- The client takes a lifetime of −1 as the request to keep the one that the key has. -/
def allowlistExpiry (key : String) (duration : Time) (redis : RedisData) : Option ℤ :=
  if duration = -1 then (Redis.live now redis key).bind RedisEntry.expiresAt else Redis.expiry now duration

def allowlistIP (entry reason : String) (duration : Time) (redis : RedisData) : Except String RedisData :=
  if !cfg.redis then .error "operations: redis client unavailable"
  else if !isValidIPOrCIDR (trimSpace entry) then .error ("operations: invalid allowlist entry " ++ (trimSpace entry).quote)
  else .ok (Redis.put redis (ipAllowlistKey (trimSpace entry))
    (marshal
      { entry := trimSpace entry, reason := trimSpace reason, source := "operations", createdAt := some now,
        expiresAt := if 0 < duration then some (now + duration) else none })
    (allowlistExpiry now (ipAllowlistKey (trimSpace entry)) duration redis))

def removeAllowlistIP (entry : String) (redis : RedisData) : Except String RedisData :=
  if !cfg.redis then .error "operations: redis client unavailable"
  else .ok (Redis.del redis [ipAllowlistKey (trimSpace entry)])

end Service

section Checks

variable [Library] [FirewallLibrary] (cfg : AuthConfig) (now : Time) (s : AuthStore)

/-- `FirewallMiddleware` answers IP_BLOCKED. -/
def firewallRefuses (ip : String) : Bool :=
  if isLoopbackIP ip then false
  else match Service.isIPBlocked cfg now ip s.redis with
    | .error _ => false
    | .ok blocked => blocked

/-- A call of the login code at one time, without failures. -/
def runAt {α : Type} (x : AuthCall α) : Except AuthError α × AuthStore := x.run.alone exec (⟨now, "", .nil⟩, .none) s

/-- `isIPBlocked` of the login code. -/
def loginRefuses (ip : String) : Prop := (runAt now s (Auth.isIPBlocked cfg ip)).1 = .ok true

/-- A login is refused for its location. -/
def LocationRefused (sec : LoginSecurityContext) : Prop :=
  ∃ tenantID email, (runAt now s (precheckLoginSecurity cfg tenantID email sec)).1 = .ok (some ("geo_blocked", .geoBlocked))

/-- `IsIPAllowlisted` of the operations service. -/
def Allowlisted (ip : String) : Prop :=
  ∃ entry, (Redis.live now s.redis (ipAllowlistKey entry)).isSome ∧ AuthLibrary.ipMatchesAllowlistEntry (trimSpace ip) entry

/-- `blockIP` of the login code, with the record it puts into Redis. -/
def blockIP (ip reason : String) : AuthStore :=
  let blocked := (runAt now s (Auth.blockIP cfg ip reason)).2
  let record : FirewallRecord :=
    { ip := trimSpace ip, reason := trimSpace reason, source := "auth", blockedAt := some now,
      expiresAt := some (now + blockDuration cfg) }
  if trimSpace ip = "" ∨ !cfg.redis then blocked
  else
    let redis := Redis.set now blocked.redis (ipBlockedKey (trimSpace ip)) (marshal record) (blockDuration cfg)
    { blocked with redis := redis }

end Checks

inductive FirewallOperation where
  | blockIP (ip : String) (duration : Time) (reason source : String)
  | unblockIP (ip : String)
  | allowlistIP (entry reason : String) (duration : Time)
  | removeAllowlistIP (entry : String)
  | automaticBlock (ip reason : String)

section Steps

variable [Library] [FirewallLibrary] (cfg : AuthConfig)

def withRedis (s : AuthStore) (result : Except String RedisData) : AuthStore :=
  match result with
  | .error _ => s
  | .ok redis => { s with redis := redis }

def step (s : AuthStore) (call : Time × FirewallOperation) : AuthStore :=
  match call.2 with
  | .blockIP ip duration reason source =>
    withRedis s (Service.blockIPWithMetadata cfg call.1 ip duration reason source s.redis)
  | .unblockIP ip => withRedis s (Service.unblockIP cfg ip s.redis)
  | .allowlistIP entry reason duration => withRedis s (Service.allowlistIP cfg call.1 entry reason duration s.redis)
  | .removeAllowlistIP entry => withRedis s (Service.removeAllowlistIP cfg entry s.redis)
  | .automaticBlock ip reason => blockIP cfg call.1 s ip reason

end Steps

end ErgGo.Operations
