import ErgGo.Lib.GoRuntime
import ErgGo.Lib.SortedSet
import Mathlib.Data.Int.Basic
import Mathlib.Logic.Function.Basic

/-!
# Rate limiting

The in-memory limiter of one process, and the limiter that all processes share over Redis.
Clock readings are nanoseconds since 1970. The clock of the Redis server is that of the
callers, and a script runs at the time its caller has read.
-/

namespace ErgGo.Middleware
open Go Redis

structure RateLimitPolicy where
  name : String
  limit : ℤ
  burst : ℤ := 0
  window : ℤ
  failOpen : Bool := false

structure RateLimitDecision where
  allowed : Bool
  limit : ℤ
  remaining : ℤ := 0
  retryAfter : ℤ := 0
  resetAfter : ℤ := 0
  err : Option String := none
  backend : String
  deriving DecidableEq

def millisecond : ℤ := 1000000

def defaultRateLimitWindow : ℤ := 60000 * millisecond

def normalizeRateLimitPolicy (policy : RateLimitPolicy) : RateLimitPolicy :=
  { policy with
    name := if policy.name = "" then "default" else policy.name
    limit := if policy.limit ≤ 0 then 60 else policy.limit
    window := if policy.window ≤ 0 then defaultRateLimitWindow else policy.window
    burst := if policy.burst < 0 then 0 else policy.burst }

/-- The sum is a 64-bit `int`. -/
def effectiveRateLimit (policy : RateLimitPolicy) : ℤ :=
  let policy := normalizeRateLimitPolicy policy
  (policy.limit + policy.burst).bmod (2 ^ 64)

lemma normalizeRateLimitPolicy_positive (policy : RateLimitPolicy) :
    0 < (normalizeRateLimitPolicy policy).limit ∧ 0 < (normalizeRateLimitPolicy policy).window ∧
      0 ≤ (normalizeRateLimitPolicy policy).burst := by
  have hwindow : 0 < defaultRateLimitWindow := by decide
  unfold normalizeRateLimitPolicy
  dsimp only
  refine ⟨?_, ?_, ?_⟩ <;> split <;> omega

/-- A normalised policy stays as it is. -/
lemma normalizeRateLimitPolicy_idem (policy : RateLimitPolicy) :
    normalizeRateLimitPolicy (normalizeRateLimitPolicy policy) = normalizeRateLimitPolicy policy := by
  obtain ⟨hlimit, hwindow, hburst⟩ := normalizeRateLimitPolicy_positive policy
  have hname : (normalizeRateLimitPolicy policy).name ≠ "" := by
    unfold normalizeRateLimitPolicy
    dsimp only
    split
    · decide
    · assumption
  generalize normalizeRateLimitPolicy policy = normalized at *
  unfold normalizeRateLimitPolicy
  rw [if_neg hname, if_neg (by omega), if_neg (by omega), if_neg (by omega)]

lemma effectiveRateLimit_normalize (policy : RateLimitPolicy) :
    effectiveRateLimit (normalizeRateLimitPolicy policy) = effectiveRateLimit policy := by
  unfold effectiveRateLimit
  rw [normalizeRateLimitPolicy_idem]

/-- The limit and the burst of a policy, unless their sum overflows. -/
lemma effectiveRateLimit_eq {policy : RateLimitPolicy}
    (h : (normalizeRateLimitPolicy policy).limit + (normalizeRateLimitPolicy policy).burst < 2 ^ 63) :
    effectiveRateLimit policy = (normalizeRateLimitPolicy policy).limit + (normalizeRateLimitPolicy policy).burst := by
  obtain ⟨hlimit, -, hburst⟩ := normalizeRateLimitPolicy_positive policy
  unfold effectiveRateLimit
  dsimp only
  rw [Int.bmod_eq_of_le] <;> omega

/-! ## In memory -/

structure RateLimiter where
  requests : GoMap (List ℤ) := ∅

/-- A call that reads `now`, under the mutex. -/
def RateLimiter.allow (rl : RateLimiter) (now : ℤ) (key : String) (policy : RateLimitPolicy) :
    RateLimitDecision × RateLimiter :=
  let policy := normalizeRateLimitPolicy policy
  let compoundKey := policy.name ++ ":" ++ key
  let windowStart := now - policy.window
  let valid := ((rl.requests.lookup compoundKey).getD []).filter (fun t => windowStart < t)
  let limit := effectiveRateLimit policy
  if (valid.length : ℤ) ≥ limit then
    let retryAfter := match valid with
      | [] => policy.window
      | oldest :: _ => max 0 (policy.window - (now - oldest))
    ({ allowed := false, limit := limit, retryAfter := retryAfter, resetAfter := retryAfter, backend := "memory" },
      { rl with requests := rl.requests.insert compoundKey valid })
  else
    ({ allowed := true, limit := limit, remaining := limit - (valid ++ [now]).length, resetAfter := policy.window,
       backend := "memory" }, { rl with requests := rl.requests.insert compoundKey (valid ++ [now]) })

/-! ## Redis -/

/-- The script, on the sorted set under its key: the reply and the set it leaves. -/
def rateLimitScript (now window limit : ℤ) (member : String) (set : SortedSet) : List ℤ × SortedSet :=
  let set := set.withinWindow window now
  let current := set.zCard
  if current < limit then
    ([1, limit - current - 1, 0, window], (set.zAdd now member).pExpire now window)
  else
    let retryAfter := match set.zRangeFirst with
      | some (score, _) => max 0 (window - (now - score))
      | none => window
    ([0, 0, retryAfter, window], set)

def int64Result (values : List ℤ) (index : ℕ) : ℤ := values.getD index 0

/-- `hashRateLimitPart`: half of a SHA-256 digest of the trimmed text, in hexadecimal. -/
class RateLimitHash where
  hashRateLimitPart : String → String

export RateLimitHash (hashRateLimitPart)

/-- What the processes share, and how far each has counted its members. -/
structure RedisRateLimiter where
  keys : GoMap SortedSet := ∅
  rateLimitMemberSeq : ℕ → UInt64 := fun _ => 0

def unixMilli (now : ℤ) : ℤ := now / millisecond

def rateLimitMember (now : ℤ) (seq : UInt64) : String := toString (unixMilli now) ++ ":" ++ toString seq.toNat

/-- The decision on a reply, or without one. -/
def redisDecision (policy : RateLimitPolicy) (limit : ℤ) : Except String (List ℤ) → RateLimitDecision
  | .ok values =>
    { allowed := int64Result values 0 = 1, limit := limit, remaining := int64Result values 1,
      retryAfter := int64Result values 2 * millisecond, resetAfter := int64Result values 3 * millisecond,
      backend := "redis" }
  | .error err => { allowed := policy.failOpen, limit := limit, err := some err, backend := "redis" }

/-- Why there is no reply: no client, or an error, after which the script may have run. -/
inductive RedisFailure where
  | unavailable
  | error (err : String) (ran : Bool)

/-- A call of one process that reads `now`. -/
def RedisRateLimiter.allow [RateLimitHash] (r : RedisRateLimiter) (process : ℕ) (now : ℤ) (key : String)
    (policy : RateLimitPolicy) (failure : Option RedisFailure) : RateLimitDecision × RedisRateLimiter :=
  let policy := normalizeRateLimitPolicy policy
  let limit := effectiveRateLimit policy
  let seq := r.rateLimitMemberSeq process + 1
  let keyName := "ratelimit:v2:" ++ policy.name ++ ":" ++ hashRateLimitPart key
  let (values, set) := rateLimitScript (unixMilli now) (policy.window / millisecond) limit (rateLimitMember now seq)
    ((r.keys.lookup keyName).getD {})
  let counted := { r with rateLimitMemberSeq := Function.update r.rateLimitMemberSeq process seq }
  let answered := { counted with keys := r.keys.insert keyName set }
  match failure with
  | none => (redisDecision policy limit (.ok values), answered)
  | some .unavailable => (redisDecision policy limit (.error "redis rate limiter unavailable"), r)
  | some (.error err ran) => (redisDecision policy limit (.error err), if ran then answered else counted)

end ErgGo.Middleware
