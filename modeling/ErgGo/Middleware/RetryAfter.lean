import ErgGo.Lib.Durations
import ErgGo.Middleware.RateLimitRuns

/-!
# When to try again

A denied call is told after how many seconds to come back. The oldest admitted call leaves the
window after a time that is cut off to whole seconds, one at least, so a caller that believes the
answer may come back before it has left.
-/

namespace ErgGo.Middleware
open Go SlidingWindow

/-! ## The response -/

structure RateLimitHeaders where
  retryAfter : Option ℤ := none
  limit : Option ℤ := none
  remaining : Option ℤ := none
  reset : Option ℤ := none

structure RateLimitedResponse where
  headers : RateLimitHeaders
  status : ℕ := 429
  code : String := "ERR_RATE_LIMITED"
  message : String := "too many requests; please retry later"

/-- The headers of a decision, written at `now`. -/
def addRateLimitHeaders (now : ℤ) (decision : RateLimitDecision) (headers : RateLimitHeaders) : RateLimitHeaders :=
  { headers with
    limit := if decision.limit > 0 then some decision.limit else headers.limit
    remaining := if decision.remaining ≥ 0 then some decision.remaining else headers.remaining
    reset := if decision.resetAfter > 0 then some ((now + decision.resetAfter) / second) else headers.reset }

def writeRateLimited (now : ℤ) (decision : RateLimitDecision) : RateLimitedResponse where
  headers := addRateLimitHeaders now decision
    { retryAfter :=
        if decision.retryAfter > 0 then some (max 1 (wholeSeconds decision.retryAfter.toNat)) else none }

/-! ## Calls under many keys -/

structure KeyedCall where
  now : ℤ
  key : String
  policy : RateLimitPolicy

def RateLimiter.afterCalls (rl : RateLimiter) (calls : List KeyedCall) : RateLimiter :=
  calls.foldl (fun rl call => (rl.allow call.now call.key call.policy).2) rl

/-- The admitted calls that a limiter remembers of a key. -/
def RateLimiter.log (rl : RateLimiter) (key : String) (policy : RateLimitPolicy) : List ℤ :=
  (rl.requests.lookup (compoundKey key policy)).getD []

/-- Who is denied at `now` and comes back after the advertised seconds, or later, is admitted. -/
def AdmittedAfterWait (rl : RateLimiter) (now : ℤ) (key : String) (policy : RateLimitPolicy) : Prop :=
  ∃ seconds, (writeRateLimited now (rl.allow now key policy).1).headers.retryAfter = some seconds ∧
    ∀ later, now + seconds * second ≤ later → ((rl.allow now key policy).2.allow later key policy).1.allowed = true

/-- The oldest call in the window leaves it after whole seconds, or within the first one. -/
def LeavesOnTheSecond (window now : ℤ) (log : List ℤ) : Prop :=
  ∃ oldest, (recent window log now).head? = some oldest ∧
    ((second : ℤ) ∣ oldest + window - now ∨ oldest + window - now ≤ second)

/-- A log in order, of no more calls than the limit. -/
structure Kept (limit : ℤ) (log : List ℤ) (last : ℤ) : Prop where
  sorted : log.Pairwise (· ≤ ·)
  past : ∀ t ∈ log, t ≤ last
  few : (log.length : ℤ) ≤ max 0 limit

variable {limit window now last : ℤ} {log : List ℤ} {rl : RateLimiter} {key : String} {policy : RateLimitPolicy}

lemma Kept.later (h : Kept limit log last) (hle : last ≤ now) : Kept limit log now :=
  ⟨h.sorted, fun t ht => (h.past t ht).trans hle, h.few⟩

lemma Kept.recent (window now : ℤ) (h : Kept limit log last) : Kept limit (recent window log now) last :=
  ⟨h.sorted.filter _, fun t ht => h.past t (List.mem_filter.mp ht).1,
    (Int.ofNat_le.mpr (List.length_filter_le _ log)).trans h.few⟩

lemma Kept.next (h : Kept limit log now) : Kept limit (next limit window log now) now := by
  have hrecent := h.recent window now
  unfold SlidingWindow.next
  split
  · next hadmits =>
    have hfew : ((SlidingWindow.recent window log now).length : ℤ) < limit := by simpa [admits] using hadmits
    refine ⟨?_, ?_, ?_⟩
    · refine List.pairwise_append.mpr ⟨hrecent.sorted, List.pairwise_singleton .., fun t ht t' ht' => ?_⟩
      rw [List.mem_singleton.mp ht']
      exact hrecent.past t ht
    · intro t ht
      obtain ht | ht := List.mem_append.mp ht
      · exact hrecent.past t ht
      · exact (List.mem_singleton.mp ht).le
    · rw [List.length_append, List.length_singleton]
      push_cast
      omega
  · exact hrecent

lemma log_allow (rl : RateLimiter) (now : ℤ) (key : String) (policy : RateLimitPolicy) :
    (rl.allow now key policy).2.log key policy =
      next (effectiveRateLimit policy) (normalizeRateLimitPolicy policy).window (rl.log key policy) now := by
  unfold RateLimiter.log
  rw [(allow_memory rl now key policy).2]
  rfl

/-- The policies count alike, whatever their names and whatever they do without Redis. -/
def CountsAs (policy' policy : RateLimitPolicy) : Prop :=
  policy'.limit = policy.limit ∧ policy'.burst = policy.burst ∧ policy'.window = policy.window

lemma CountsAs.limit_eq {policy' : RateLimitPolicy} (h : CountsAs policy' policy) :
    effectiveRateLimit policy' = effectiveRateLimit policy := by
  unfold effectiveRateLimit normalizeRateLimitPolicy
  rw [h.1, h.2.1]

lemma CountsAs.window_eq {policy' : RateLimitPolicy} (h : CountsAs policy' policy) :
    (normalizeRateLimitPolicy policy').window = (normalizeRateLimitPolicy policy).window := by
  unfold normalizeRateLimitPolicy
  rw [h.2.2]

lemma log_allow_same {call : KeyedCall} (hsame : compoundKey call.key call.policy = compoundKey key policy)
    (hcounts : CountsAs call.policy policy) : (rl.allow call.now call.key call.policy).2.log key policy =
      next (effectiveRateLimit policy) (normalizeRateLimitPolicy policy).window (rl.log key policy) call.now := by
  have hlog : ∀ rl : RateLimiter, rl.log key policy = rl.log call.key call.policy := by
    intro rl
    unfold RateLimiter.log
    rw [hsame]
  rw [hlog, hlog, log_allow, hcounts.limit_eq, hcounts.window_eq]

/-- A call under another key leaves the log alone. -/
lemma log_allow_other {call : KeyedCall} (hother : compoundKey call.key call.policy ≠ compoundKey key policy) :
    (rl.allow call.now call.key call.policy).2.log key policy = rl.log key policy := by
  have hlookup : ∀ times : List ℤ, (rl.requests.insert (compoundKey call.key call.policy) times).lookup
      (compoundKey key policy) = rl.requests.lookup (compoundKey key policy) :=
    fun times => AList.lookup_insert_ne hother.symm
  unfold RateLimiter.log RateLimiter.allow
  dsimp only
  split <;> exact congrArg (Option.getD · []) (hlookup _)

/-- The log of a key that is always called with the same limit, burst and window. -/
lemma kept_afterCalls {calls : List KeyedCall} (hkept : Kept (effectiveRateLimit policy) (rl.log key policy) last)
    (hsorted : (last :: calls.map KeyedCall.now).Pairwise (· ≤ ·))
    (hpolicy : ∀ call ∈ calls, compoundKey call.key call.policy = compoundKey key policy →
      CountsAs call.policy policy)
    (hnow : ∀ t ∈ last :: calls.map KeyedCall.now, t ≤ now) :
    Kept (effectiveRateLimit policy) ((rl.afterCalls calls).log key policy) now := by
  induction calls generalizing rl last with
  | nil => exact hkept.later (hnow last List.mem_cons_self)
  | cons call calls ih =>
    obtain ⟨hlast, hsorted⟩ := List.pairwise_cons.mp hsorted
    have hle : last ≤ call.now := hlast _ (by simp)
    refine ih ?_ hsorted (fun call hcall => hpolicy call (List.mem_cons_of_mem _ hcall))
      fun t ht => hnow t (List.mem_cons_of_mem _ ht)
    by_cases hsame : compoundKey call.key call.policy = compoundKey key policy
    · dsimp only
      rw [log_allow_same hsame (hpolicy call List.mem_cons_self hsame)]
      exact (hkept.later hle).next
    · rw [log_allow_other hsame]
      exact hkept.later hle

/-! ## Coming back -/

section Denied

variable {oldest : ℤ}

lemma denied_length (hkept : Kept limit log now) (hdenied : admits limit window log now = false) (hlimit : 0 < limit) :
    ((recent window log now).length : ℤ) = limit := by
  have hfull : limit ≤ ((recent window log now).length : ℤ) := by simpa [admits] using hdenied
  have hfew := (hkept.recent window now).few
  omega

/-- A full log in order admits a call exactly if its oldest call has left the window. -/
lemma admits_iff_oldest (hsorted : log.Pairwise (· ≤ ·)) (hfull : (log.length : ℤ) = limit)
    (holdest : log.head? = some oldest) (later : ℤ) :
    admits limit window log later = true ↔ oldest ≤ later - window := by
  obtain ⟨rest, rfl⟩ : ∃ rest, log = oldest :: rest := List.head?_eq_some_iff.mp holdest
  unfold admits
  rw [decide_eq_true_eq, ← hfull]
  constructor
  · intro hfewer
    by_contra hstays
    have hall : recent window (oldest :: rest) later = oldest :: rest := by
      refine List.filter_eq_self.mpr fun t ht => decide_eq_true ?_
      obtain rfl | ht := List.mem_cons.mp ht
      · omega
      · have hle := List.rel_of_pairwise_cons hsorted ht
        omega
    rw [hall] at hfewer
    exact lt_irrefl _ hfewer
  · intro hleft
    have hdropped : recent window (oldest :: rest) later = recent window rest later :=
      List.filter_cons_of_neg (by simpa using hleft)
    rw [hdropped, List.length_cons]
    have hle : (recent window rest later).length ≤ rest.length := List.length_filter_le _ rest
    push_cast
    omega

/-- Cutting off leaves enough seconds exactly for whole ones and for less than one. -/
lemma le_wholeSeconds_iff {d : ℕ} (hd : d ≤ 60 * second) :
    (d : ℤ) ≤ max 1 (wholeSeconds d) * second ↔ (second : ℤ) ∣ d ∨ (d : ℤ) ≤ second := by
  rw [wholeSeconds_eq hd, Int.natCast_dvd_natCast]
  unfold second
  constructor
  · intro hle
    omega
  · rintro (hdvd | hle)
    · omega
    · omega

end Denied

lemma allowed_eq (rl : RateLimiter) (now : ℤ) (key : String) (policy : RateLimitPolicy) :
    (rl.allow now key policy).1.allowed =
      admits (effectiveRateLimit policy) (normalizeRateLimitPolicy policy).window (rl.log key policy) now :=
  (allow_memory rl now key policy).1

/-- What a denied call is told. -/
lemma retryAfter_of_denied {oldest : ℤ} (hdenied : (rl.allow now key policy).1.allowed = false)
    (holdest : (recent (normalizeRateLimitPolicy policy).window (rl.log key policy) now).head? = some oldest) :
    (rl.allow now key policy).1.retryAfter = max 0 ((normalizeRateLimitPolicy policy).window - (now - oldest)) := by
  have hvalid : ((rl.requests.lookup ((normalizeRateLimitPolicy policy).name ++ ":" ++ key)).getD []).filter
      (fun t => now - (normalizeRateLimitPolicy policy).window < t) =
        recent (normalizeRateLimitPolicy policy).window (rl.log key policy) now := rfl
  unfold RateLimiter.allow at hdenied ⊢
  dsimp only at hdenied ⊢
  rw [hvalid] at hdenied ⊢
  obtain ⟨rest, hrest⟩ := List.head?_eq_some_iff.mp holdest
  rw [hrest] at hdenied ⊢
  split at hdenied
  · rename_i hfull
    rw [if_pos hfull]
  · cases hdenied

lemma kept_of_calls {calls : List KeyedCall} (hsorted : (calls.map KeyedCall.now ++ [now]).Pairwise (· ≤ ·))
    (hpolicy : ∀ call ∈ calls, compoundKey call.key call.policy = compoundKey key policy →
      CountsAs call.policy policy) :
    Kept (effectiveRateLimit policy) ((({} : RateLimiter).afterCalls calls).log key policy) now := by
  have hempty : ∀ last, Kept (effectiveRateLimit policy) (({} : RateLimiter).log key policy) last :=
    fun last => ⟨.nil, fun t ht => absurd ht List.not_mem_nil, le_max_left 0 _⟩
  obtain ⟨htimes, -, hnow⟩ := List.pairwise_append.mp hsorted
  cases calls with
  | nil => exact hempty now
  | cons call calls =>
    have hle : ∀ t ∈ (call :: calls).map KeyedCall.now, t ≤ now := fun t ht => hnow t ht now List.mem_cons_self
    refine kept_afterCalls (hempty call.now) ?_ hpolicy ?_
    · refine List.pairwise_cons.mpr ⟨fun t ht => ?_, htimes⟩
      obtain rfl | ht := List.mem_cons.mp ht
      · exact le_rfl
      · exact List.rel_of_pairwise_cons htimes ht
    · intro t ht
      obtain rfl | ht := List.mem_cons.mp ht
      · exact hle _ List.mem_cons_self
      · exact hle t ht

/-- The advertised seconds are enough exactly if the oldest admitted call leaves the window on the
second or within the first one. -/
theorem admitted_after_wait_iff {calls : List KeyedCall}
    (hwindow : (normalizeRateLimitPolicy policy).window = defaultRateLimitWindow)
    (hpolicy : ∀ call ∈ calls, compoundKey call.key call.policy = compoundKey key policy →
      CountsAs call.policy policy)
    (hsorted : (calls.map KeyedCall.now ++ [now]).Pairwise (· ≤ ·))
    (hdenied : ((({} : RateLimiter).afterCalls calls).allow now key policy).1.allowed = false) :
    AdmittedAfterWait (({} : RateLimiter).afterCalls calls) now key policy ↔
      LeavesOnTheSecond (normalizeRateLimitPolicy policy).window now
        ((({} : RateLimiter).afterCalls calls).log key policy) := by
  have hkept := kept_of_calls hsorted hpolicy
  generalize ({} : RateLimiter).afterCalls calls = rl at hkept hdenied ⊢
  have hadmits := hdenied
  rw [allowed_eq] at hadmits
  unfold AdmittedAfterWait LeavesOnTheSecond
  -- the next call finds what this one has left
  have hlater : ∀ later, ((rl.allow now key policy).2.allow later key policy).1.allowed =
      admits (effectiveRateLimit policy) (normalizeRateLimitPolicy policy).window
        (recent (normalizeRateLimitPolicy policy).window (rl.log key policy) now) later := by
    intro later
    rw [allowed_eq, log_allow, SlidingWindow.next, hadmits]
    rfl
  simp only [hlater]
  by_cases hlimit : 0 < effectiveRateLimit policy
  · have hfull := denied_length hkept hadmits hlimit
    have hrecent := hkept.recent (normalizeRateLimitPolicy policy).window now
    obtain ⟨oldest, holdest⟩ : ∃ oldest,
        (recent (normalizeRateLimitPolicy policy).window (rl.log key policy) now).head? = some oldest := by
      cases hlog : recent (normalizeRateLimitPolicy policy).window (rl.log key policy) now with
      | nil =>
        rw [hlog, List.length_nil] at hfull
        omega
      | cons oldest rest => exact ⟨oldest, rfl⟩
    have hmem := List.mem_of_head? holdest
    have hpast : oldest ≤ now := hrecent.past oldest hmem
    have hwithin : now - (normalizeRateLimitPolicy policy).window < oldest :=
      of_decide_eq_true (List.mem_filter.mp hmem).2
    obtain ⟨d, hd⟩ := Int.eq_ofNat_of_zero_le
      (show 0 ≤ oldest + (normalizeRateLimitPolicy policy).window - now by omega)
    have hsmall : d ≤ 60 * second := by
      have hminute : defaultRateLimitWindow = ((60 * second : ℕ) : ℤ) := by decide
      omega
    have hretry : (rl.allow now key policy).1.retryAfter = d := by
      rw [retryAfter_of_denied hdenied holdest]
      omega
    have hheader : (writeRateLimited now (rl.allow now key policy).1).headers.retryAfter =
        some (max 1 (wholeSeconds d)) := by
      unfold writeRateLimited addRateLimitHeaders
      rw [hretry, if_pos (by omega), Int.toNat_natCast]
    have hcomes : ∀ later, admits (effectiveRateLimit policy) (normalizeRateLimitPolicy policy).window
        (recent (normalizeRateLimitPolicy policy).window (rl.log key policy) now) later = true ↔ now + d ≤ later := by
      intro later
      rw [admits_iff_oldest hrecent.sorted hfull holdest]
      omega
    simp only [hheader, hcomes, holdest, Option.some.injEq, exists_eq_left', hd]
    rw [← le_wholeSeconds_iff hsmall]
    constructor
    · intro h
      have hexact := h _ le_rfl
      omega
    · intro h later hwait
      omega
  · have hnone : rl.log key policy = [] := by
      have hfew := hkept.few
      exact List.length_eq_zero_iff.mp (by omega)
    rw [hnone]
    constructor
    · rintro ⟨seconds, -, hadmitted⟩
      have hever := hadmitted _ le_rfl
      exact absurd (of_decide_eq_true hever) hlimit
    · rintro ⟨oldest, holdest, -⟩
      cases holdest

section Sample

/-- Two calls of a kind of which two a minute are allowed, the second of a method that fails open. -/
def Sample.twice : List KeyedCall :=
  [⟨0, "ip", Sample.twicePerMinute⟩, ⟨0, "ip", { Sample.twicePerMinute with failOpen := true }⟩]

lemma Sample.twice_policy : ∀ call ∈ Sample.twice,
    compoundKey call.key call.policy = compoundKey "ip" Sample.twicePerMinute →
      CountsAs call.policy Sample.twicePerMinute := by
  intro call hcall _
  obtain rfl | hcall := List.mem_cons.mp hcall
  · exact ⟨rfl, rfl, rfl⟩
  · rw [List.mem_singleton.mp hcall]
    exact ⟨rfl, rfl, rfl⟩

/-- The third call, ten seconds after the others, is told to come back after fifty. -/
theorem admitted_after_fifty_seconds :
    AdmittedAfterWait (({} : RateLimiter).afterCalls Sample.twice) 10000000000 "ip" Sample.twicePerMinute := by
  refine (admitted_after_wait_iff (by decide) Sample.twice_policy (by decide) (by decide)).mpr ?_
  exact ⟨0, by decide, .inl (by decide)⟩

/-- Half a second after the others it is told to come back after fifty-nine seconds, and is denied. -/
theorem denied_after_wait :
    ((({} : RateLimiter).afterCalls Sample.twice).allow 500000000 "ip" Sample.twicePerMinute).1.allowed = false ∧
    (writeRateLimited 500000000
      (({} : RateLimiter).afterCalls Sample.twice |>.allow 500000000 "ip" Sample.twicePerMinute).1).headers.retryAfter =
        some 59 ∧
    ¬AdmittedAfterWait (({} : RateLimiter).afterCalls Sample.twice) 500000000 "ip" Sample.twicePerMinute := by
  have hretry : ((({} : RateLimiter).afterCalls Sample.twice).allow 500000000 "ip" Sample.twicePerMinute).1.retryAfter =
      59500000000 := by decide
  have hheader : (writeRateLimited 500000000
      (({} : RateLimiter).afterCalls Sample.twice |>.allow 500000000 "ip" Sample.twicePerMinute).1).headers.retryAfter =
        some 59 := by
    unfold writeRateLimited addRateLimitHeaders
    rw [hretry, if_pos (by decide), wholeSeconds_eq (by decide)]
    rfl
  refine ⟨by decide, hheader, ?_⟩
  rintro ⟨seconds, hseconds, hadmitted⟩
  rw [hheader, Option.some.injEq] at hseconds
  have hearly := hadmitted 59500000000 (by rw [← hseconds]; decide)
  revert hearly
  decide

end Sample

end ErgGo.Middleware
