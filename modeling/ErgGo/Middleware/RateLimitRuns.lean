import ErgGo.Lib.SlidingWindow
import ErgGo.Middleware.RateLimit

/-!
# Sequences of calls under one key

The slice of the in-memory limiter is a sliding-window log, and so are the scores of the sorted
set, as long as every call adds a member of its own. Two processes that have counted equally
far add the same member in one millisecond, and Redis counts their calls once.
-/

namespace ErgGo.Middleware
open Go Redis SlidingWindow

/-- A call, by the process that serves it and the clock it reads. -/
structure RateLimitCall where
  process : ℕ
  now : ℕ

def memoryDecisions (key : String) (policy : RateLimitPolicy) (rl : RateLimiter) :
    List RateLimitCall → List RateLimitDecision
  | [] => []
  | call :: calls =>
    let (decision, rl) := rl.allow call.now key policy
    decision :: memoryDecisions key policy rl calls

section Redis

variable [RateLimitHash]

def redisDecisions (key : String) (policy : RateLimitPolicy) (r : RedisRateLimiter) :
    List RateLimitCall → List RateLimitDecision
  | [] => []
  | call :: calls =>
    let (decision, r) := r.allow call.process call.now key policy none
    decision :: redisDecisions key policy r calls

end Redis

/-- The members that calls add. -/
def members (seqs : ℕ → UInt64) : List RateLimitCall → List String
  | [] => []
  | call :: calls =>
    let seq := seqs call.process + 1
    rateLimitMember call.now seq :: members (Function.update seqs call.process seq) calls

/-! ## The in-memory limiter -/

def compoundKey (key : String) (policy : RateLimitPolicy) : String := (normalizeRateLimitPolicy policy).name ++ ":" ++ key

/-- One call is one step of the log. -/
lemma allow_memory (rl : RateLimiter) (now : ℤ) (key : String) (policy : RateLimitPolicy) :
    let log := (rl.requests.lookup (compoundKey key policy)).getD []
    let window := (normalizeRateLimitPolicy policy).window
    (rl.allow now key policy).1.allowed = admits (effectiveRateLimit policy) window log now ∧
      (rl.allow now key policy).2.requests.lookup (compoundKey key policy) =
        some (next (effectiveRateLimit policy) window log now) := by
  intro log window
  have hvalid : ((rl.requests.lookup ((normalizeRateLimitPolicy policy).name ++ ":" ++ key)).getD []).filter
      (fun t => now - (normalizeRateLimitPolicy policy).window < t) = recent window log now := rfl
  unfold RateLimiter.allow
  dsimp only
  rw [effectiveRateLimit_normalize, hvalid]
  by_cases hfull : ((recent window log now).length : ℤ) ≥ effectiveRateLimit policy
  · have hdenied : admits (effectiveRateLimit policy) window log now = false := decide_eq_false (not_lt.mpr hfull)
    rw [SlidingWindow.next, hdenied, if_pos hfull]
    exact ⟨rfl, AList.lookup_insert _⟩
  · have hadmitted : admits (effectiveRateLimit policy) window log now = true := decide_eq_true (not_le.mp hfull)
    rw [SlidingWindow.next, hadmitted, if_neg hfull]
    exact ⟨rfl, AList.lookup_insert _⟩

lemma memoryDecisions_eq (key : String) (policy : RateLimitPolicy) (rl : RateLimiter) (calls : List RateLimitCall) :
    (memoryDecisions key policy rl calls).map RateLimitDecision.allowed =
      decisions (effectiveRateLimit policy) (normalizeRateLimitPolicy policy).window
        ((rl.requests.lookup (compoundKey key policy)).getD []) (calls.map (fun call => (call.now : ℤ))) := by
  induction calls generalizing rl with
  | nil => rfl
  | cons call calls ih =>
    obtain ⟨hallowed, hlog⟩ := allow_memory rl call.now key policy
    rw [memoryDecisions, List.map_cons, ih, hlog, hallowed]
    rfl

/-! ## The script -/

/-- The set counts, from `last` on, what the log counts, and its members have been seen. -/
structure Counts (window : ℤ) (set : SortedSet) (log : List ℤ) (last : ℤ) (seen : List String) : Prop where
  tracks : ∀ later, last ≤ later → (set.withinWindow window later).scores = recent window log later
  bounds : ∀ score ∈ set.scores, 0 ≤ score ∧ score ≤ last
  members : ∀ member ∈ set.entries.map Prod.snd, member ∈ seen

variable {window now last : ℤ} {set : SortedSet} {log : List ℤ} {seen : List String} {member : String}

lemma Counts.empty (window : ℤ) (seen : List String) : Counts window {} [] 0 seen :=
  ⟨fun _ _ => rfl, by simp [SortedSet.scores], by simp⟩

lemma Counts.withinWindow (h : Counts window set log last seen) (hle : last ≤ now) :
    Counts window (set.withinWindow window now) (recent window log now) now seen := by
  have hsub : ∀ entry ∈ (set.withinWindow window now).entries, entry ∈ set.entries := by
    intro entry hentry
    rw [SortedSet.withinWindow_entries] at hentry
    split at hentry
    · cases hentry
    · exact (List.mem_filter.mp hentry).1
  refine ⟨fun later hlater => ?_, fun score hscore => ?_, fun m hm => ?_⟩
  · rw [recent_recent hlater, ← h.tracks later (hle.trans hlater)]
    exact congrArg (List.map Prod.fst) (SortedSet.withinWindow_withinWindow hlater)
  · obtain ⟨entry, hentry, rfl⟩ := List.mem_map.mp hscore
    have hbound := h.bounds entry.1 (List.mem_map_of_mem (hsub entry hentry))
    omega
  · obtain ⟨entry, hentry, rfl⟩ := List.mem_map.mp hm
    exact h.members entry.2 (List.mem_map_of_mem (hsub entry hentry))

/-- Adding a new member is adding a time to the log. -/
lemma Counts.add (h : Counts window set log now seen) (hlog : set.scores = log) (hnow : 0 ≤ now) (hmember : member ∉ seen) :
    Counts window ((set.zAdd now member).pExpire now window) (log ++ [now]) now (member :: seen) := by
  have hnew : member ∉ set.entries.map Prod.snd := fun hm => hmember (h.members member hm)
  refine ⟨fun later hlater => ?_, fun score hscore => ?_, fun m hm => ?_⟩
  · rw [SortedSet.scores_zAdd_pExpire hnew hnow h.bounds hlater, hlog]
    rfl
  · obtain ⟨entry, hentry, rfl⟩ := List.mem_map.mp hscore
    unfold SortedSet.pExpire at hentry
    split at hentry
    · cases hentry
    · rw [SortedSet.zAdd_new hnew] at hentry
      obtain hentry | hentry := List.mem_append.mp hentry
      · exact h.bounds entry.1 (List.mem_map_of_mem hentry)
      · rw [List.mem_singleton.mp hentry]
        exact ⟨hnow, le_refl now⟩
  · unfold SortedSet.pExpire at hm
    split at hm
    · cases hm
    · obtain rfl | hm := SortedSet.members_zAdd hm
      · exact List.mem_cons_self
      · exact List.mem_cons_of_mem member (h.members m hm)

/-- One run of the script is one step of the log. -/
lemma rateLimitScript_counts (limit : ℤ) (h : Counts window set log last seen) (hle : last ≤ now) (hnow : 0 ≤ now)
    (hmember : member ∉ seen) :
    decide (int64Result (rateLimitScript now window limit member set).1 0 = 1) = admits limit window log now ∧
      Counts window (rateLimitScript now window limit member set).2 (next limit window log now) now (member :: seen) := by
  have hwithin := h.withinWindow hle
  have hscores : (set.withinWindow window now).scores = recent window log now := h.tracks now hle
  have hcard : (set.withinWindow window now).zCard = (recent window log now).length := by
    rw [← hscores, SortedSet.zCard, SortedSet.scores, List.length_map]
  unfold rateLimitScript SlidingWindow.next admits
  dsimp only
  rw [← hcard]
  by_cases hfew : (set.withinWindow window now).zCard < limit
  · rw [if_pos hfew, if_pos (decide_eq_true hfew)]
    refine ⟨?_, hwithin.add hscores hnow hmember⟩
    simp [int64Result, hfew]
  · rw [if_neg hfew, if_neg (by simpa using hfew)]
    refine ⟨?_, hwithin.tracks, hwithin.bounds, fun m hm => List.mem_cons_of_mem member (hwithin.members m hm)⟩
    simp [int64Result, hfew]

section Redis

variable [RateLimitHash]

def keyName (key : String) (policy : RateLimitPolicy) : String :=
  "ratelimit:v2:" ++ (normalizeRateLimitPolicy policy).name ++ ":" ++ hashRateLimitPart key

/-- A call runs the script on the set under its key. -/
lemma allow_redis (r : RedisRateLimiter) (process : ℕ) (now : ℤ) (key : String) (policy : RateLimitPolicy) :
    let outcome := rateLimitScript (unixMilli now) ((normalizeRateLimitPolicy policy).window / millisecond)
      (effectiveRateLimit policy) (rateLimitMember now (r.rateLimitMemberSeq process + 1))
      ((r.keys.lookup (keyName key policy)).getD {})
    (r.allow process now key policy none).1.allowed = decide (int64Result outcome.1 0 = 1) ∧
      ((r.allow process now key policy none).2.keys.lookup (keyName key policy)).getD {} = outcome.2 ∧
      (r.allow process now key policy none).2.rateLimitMemberSeq =
        Function.update r.rateLimitMemberSeq process (r.rateLimitMemberSeq process + 1) := by
  intro outcome
  unfold RedisRateLimiter.allow
  dsimp only
  rw [effectiveRateLimit_normalize]
  have hinsert : ∀ (keys : GoMap SortedSet) (name : String) (set : SortedSet),
      ((keys.insert name set).lookup name).getD {} = set := by
    intro keys name set
    rw [AList.lookup_insert]
    rfl
  exact ⟨rfl, hinsert _ _ _, rfl⟩

lemma redisDecisions_eq (key : String) (policy : RateLimitPolicy) {r : RedisRateLimiter} {calls : List RateLimitCall}
    (hcounts : Counts ((normalizeRateLimitPolicy policy).window / millisecond)
      ((r.keys.lookup (keyName key policy)).getD {}) log last seen)
    (hsorted : (last :: calls.map (fun call => unixMilli call.now)).Pairwise (· ≤ ·))
    (hmembers : (members r.rateLimitMemberSeq calls).Nodup)
    (hseen : ∀ member ∈ members r.rateLimitMemberSeq calls, member ∉ seen) :
    (redisDecisions key policy r calls).map RateLimitDecision.allowed =
      decisions (effectiveRateLimit policy) ((normalizeRateLimitPolicy policy).window / millisecond) log
        (calls.map (fun call => unixMilli call.now)) := by
  induction calls generalizing r log last seen with
  | nil => rfl
  | cons call calls ih =>
    obtain ⟨hallowed, hset, hseq⟩ := allow_redis r call.process call.now key policy
    obtain ⟨hlast, hsorted⟩ := List.pairwise_cons.mp hsorted
    obtain ⟨hnew, hmembers⟩ := List.nodup_cons.mp hmembers
    have hle : last ≤ unixMilli call.now := hlast _ (by simp)
    have hnow : 0 ≤ unixMilli call.now := Int.ediv_nonneg (Int.natCast_nonneg _) (by decide)
    obtain ⟨hadmits, hcounts'⟩ := rateLimitScript_counts (effectiveRateLimit policy) hcounts hle hnow
      (hseen _ List.mem_cons_self)
    rw [← hset] at hcounts'
    rw [redisDecisions, List.map_cons, List.map_cons, decisions, hallowed, hadmits]
    refine congrArg _ (ih hcounts' hsorted ?_ ?_)
    · rw [hseq]
      exact hmembers
    · rw [hseq]
      intro member hmember hmem
      obtain rfl | hmem := List.mem_cons.mp hmem
      · exact hnew hmember
      · exact hseen member (List.mem_cons_of_mem _ hmember) hmem

end Redis

/-! ## Both limiters -/

section Limits

variable [RateLimitHash]

def memoryAllowed (key : String) (policy : RateLimitPolicy) (calls : List RateLimitCall) : List Bool :=
  (memoryDecisions key policy {} calls).map RateLimitDecision.allowed

def redisAllowed (key : String) (policy : RateLimitPolicy) (calls : List RateLimitCall) : List Bool :=
  (redisDecisions key policy {} calls).map RateLimitDecision.allowed

omit [RateLimitHash] in
lemma memoryAllowed_eq (key : String) (policy : RateLimitPolicy) (calls : List RateLimitCall) :
    memoryAllowed key policy calls = decisions (effectiveRateLimit policy) (normalizeRateLimitPolicy policy).window []
      (calls.map (fun call => (call.now : ℤ))) :=
  memoryDecisions_eq key policy {} calls

lemma redisAllowed_eq (key : String) (policy : RateLimitPolicy) {calls : List RateLimitCall}
    (hsorted : (calls.map (fun call => unixMilli call.now)).Pairwise (· ≤ ·))
    (hmembers : (members (fun _ => 0) calls).Nodup) :
    redisAllowed key policy calls = decisions (effectiveRateLimit policy)
      ((normalizeRateLimitPolicy policy).window / millisecond) [] (calls.map (fun call => unixMilli call.now)) := by
  refine redisDecisions_eq key policy (Counts.empty _ []) ?_ hmembers (by simp)
  refine List.pairwise_cons.mpr ⟨fun time htime => ?_, hsorted⟩
  obtain ⟨call, -, rfl⟩ := List.mem_map.mp htime
  exact Int.ediv_nonneg (Int.natCast_nonneg _) (by decide)

omit [RateLimitHash] in
lemma unixMilli_mono {s t : ℤ} (h : s ≤ t) : unixMilli s ≤ unixMilli t := Int.ediv_le_ediv (by decide) h

/-- Both limiters keep to the limit and the burst of a policy, the one in Redis on calls that add distinct
members and whose milliseconds keep those of a window together, and they agree in whole milliseconds. -/
theorem limiters_keep_limit (key : String) (policy : RateLimitPolicy) {calls : List RateLimitCall}
    (hsorted : (calls.map RateLimitCall.now).Pairwise (· ≤ ·))
    (hfits : (normalizeRateLimitPolicy policy).limit + (normalizeRateLimitPolicy policy).burst < 2 ^ 63) :
    Limits ((normalizeRateLimitPolicy policy).limit + (normalizeRateLimitPolicy policy).burst)
      (normalizeRateLimitPolicy policy).window (calls.map (fun call => (call.now : ℤ)))
      (memoryAllowed key policy calls) ∧
    ((members (fun _ => 0) calls).Nodup →
      (KeepsWindow unixMilli (normalizeRateLimitPolicy policy).window
          ((normalizeRateLimitPolicy policy).window / millisecond) (calls.map (fun call => (call.now : ℤ))) →
        Limits ((normalizeRateLimitPolicy policy).limit + (normalizeRateLimitPolicy policy).burst)
          (normalizeRateLimitPolicy policy).window (calls.map (fun call => (call.now : ℤ)))
          (redisAllowed key policy calls)) ∧
      (millisecond ∣ (normalizeRateLimitPolicy policy).window → (∀ call ∈ calls, millisecond ∣ (call.now : ℤ)) →
        memoryAllowed key policy calls = redisAllowed key policy calls)) := by
  obtain ⟨hlimit, -, hburst⟩ := normalizeRateLimitPolicy_positive policy
  have hnonneg : 0 ≤ effectiveRateLimit policy := by
    rw [effectiveRateLimit_eq hfits]
    omega
  have htimes : (calls.map (fun call => (call.now : ℤ))).Pairwise (· ≤ ·) := by
    rw [List.pairwise_map] at hsorted ⊢
    exact hsorted.imp fun hle => Int.ofNat_le.mpr hle
  have hmillis : (calls.map (fun call => unixMilli call.now)).Pairwise (· ≤ ·) := by
    rw [List.pairwise_map] at htimes ⊢
    exact htimes.imp fun hle => unixMilli_mono hle
  rw [← effectiveRateLimit_eq hfits]
  refine ⟨?_, fun hmembers => ⟨fun hkeeps => ?_, fun hwindow hwhole => ?_⟩⟩
  · rw [memoryAllowed_eq]
    exact limits_decisions hnonneg htimes
  · have hclock : calls.map (fun call => unixMilli call.now) =
        (calls.map (fun call => (call.now : ℤ))).map unixMilli := by rw [List.map_map]; rfl
    have hlimits : Limits (effectiveRateLimit policy) ((normalizeRateLimitPolicy policy).window / millisecond)
        ((calls.map (fun call => (call.now : ℤ))).map unixMilli) (redisAllowed key policy calls) := by
      rw [redisAllowed_eq key policy hmillis hmembers, ← hclock]
      exact limits_decisions hnonneg hmillis
    refine hlimits.of_clock hnonneg htimes unixMilli_mono hkeeps fun s t hlate => ?_
    unfold unixMilli millisecond at hlate
    omega
  · have hscaled : (calls.map (fun call => (call.now : ℤ))) =
        (calls.map (fun call => unixMilli call.now)).map (millisecond * ·) := by
      rw [List.map_map]
      refine List.map_congr_left fun call hcall => ?_
      exact (Int.mul_ediv_cancel' (hwhole call hcall)).symm
    have hmillisWindow := (Int.mul_ediv_cancel' hwindow).symm
    rw [memoryAllowed_eq, redisAllowed_eq key policy hmillis hmembers, hscaled]
    exact (congrArg (fun window => decisions _ window [] _) hmillisWindow).trans (decisions_scale (by decide) [] _)

end Limits

section Sample

/-- A hash for computing examples. -/
@[reducible] def Sample.plainHash : RateLimitHash := ⟨id⟩

attribute [local instance] Sample.plainHash

def Sample.twicePerMinute : RateLimitPolicy := { name := "sample", limit := 2, window := defaultRateLimitWindow }

/-- Four calls of one process, the last a minute after the others. -/
def Sample.oneProcess : List RateLimitCall := [⟨0, 5000000⟩, ⟨0, 5000000⟩, ⟨0, 5000000⟩, ⟨0, 60005000000⟩]

/-- Three calls in one millisecond, the second of another process. -/
def Sample.twoProcesses : List RateLimitCall := [⟨0, 5000000⟩, ⟨1, 5000000⟩, ⟨0, 5000000⟩]

theorem limiters_keep_limit_one_process :
    Limits 2 defaultRateLimitWindow (Sample.oneProcess.map (fun call => (call.now : ℤ)))
        (redisAllowed "ip" Sample.twicePerMinute Sample.oneProcess) ∧
      memoryAllowed "ip" Sample.twicePerMinute Sample.oneProcess =
        redisAllowed "ip" Sample.twicePerMinute Sample.oneProcess := by
  have hsorted : (Sample.oneProcess.map RateLimitCall.now).Pairwise (· ≤ ·) := by decide
  have hkept := limiters_keep_limit "ip" Sample.twicePerMinute hsorted (by decide)
  obtain ⟨hlimits, hsame⟩ := hkept.2 (by decide)
  exact ⟨hlimits (by decide), hsame (by decide) (by decide)⟩

def Sample.oncePerMinute : RateLimitPolicy := { name := "sample", limit := 1, window := defaultRateLimitWindow }

/-- Two calls of one process, 0.8 milliseconds less than a minute apart. -/
def Sample.withinMinute : List RateLimitCall := [⟨0, 900000⟩, ⟨0, 60000100000⟩]

/-- Two processes that have served no call before add the same member, and two calls within a minute are a
minute apart in whole milliseconds. -/
theorem redis_limit_exceeded :
    ((Sample.twoProcesses.map RateLimitCall.now).Pairwise (· ≤ ·) ∧
      ¬Limits 2 defaultRateLimitWindow (Sample.twoProcesses.map (fun call => (call.now : ℤ)))
        (redisAllowed "ip" Sample.twicePerMinute Sample.twoProcesses)) ∧
    ((Sample.withinMinute.map RateLimitCall.now).Pairwise (· ≤ ·) ∧
      ¬Limits 1 defaultRateLimitWindow (Sample.withinMinute.map (fun call => (call.now : ℤ)))
        (redisAllowed "ip" Sample.oncePerMinute Sample.withinMinute)) := by
  have hprocesses : redisAllowed "ip" Sample.twicePerMinute Sample.twoProcesses = [true, true, true] := by decide
  have hminute : redisAllowed "ip" Sample.oncePerMinute Sample.withinMinute = [true, true] := by decide
  refine ⟨⟨by decide, fun h => ?_⟩, ⟨by decide, fun h => ?_⟩⟩
  · obtain ⟨hbound, -⟩ := h.bounded 5000000
    rw [hprocesses] at hbound
    revert hbound
    decide
  · obtain ⟨hbound, -⟩ := h.bounded 900000
    rw [hminute] at hbound
    revert hbound
    decide

end Sample

end ErgGo.Middleware
