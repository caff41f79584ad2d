import ErgGo.Lib.GoRuntime
import ErgGo.Lib.Interleaving

/-!
# The circuit breaker of the HTTP client

`Do` asks the breaker before its first attempt and records the outcome of every attempt that
reached the network. Each load, addition and store of an atomic, each section under the mutex
and each write of the time of the last failure is one request. What building and sending a
request and waiting for a retry come to is up to the environment.
-/

namespace ErgGo.HTTPClient
open Go Concurrent Program

inductive CircuitState where
  | closed
  | halfOpen
  | open
  deriving DecidableEq

def maxRetries : ℕ := 3
def threshold : ℤ := 5
def openTimeout : Time := 30000000000
def retryCodes : List ℤ := [500, 502, 503, 504, 408, 429]

def isRetryable (code : ℤ) : Bool := code ∈ retryCodes

/-- Arithmetic of `int32`. -/
def int32 (n : ℤ) : ℤ := n.bmod (2 ^ 32)

/-- The state of the breaker in a `Client`. -/
structure Client where
  circuitState : CircuitState := .closed
  failureCount : ℤ := 0
  lastFailure : Time := 0
  halfOpenRetries : ℤ := 0
  deriving DecidableEq

inductive ClientRequest where
  | loadCircuitState
  /-- The section of `allowRequest` under the mutex. It is one step here, although `recordFailure`
  and `recordSuccess` write the time of the last failure and the state outside the mutex. -/
  | tryHalfOpen
  | loadHalfOpenRetries
  | addHalfOpenRetries
  /-- Waiting before a retry, until the time is over or the context is done. -/
  | wait
  | newRequest
  /-- One attempt: the status of the response, or none for a transport error. -/
  | send
  | addFailureCount
  | setLastFailure
  | storeOpen
  | resetFailureCount
  | storeClosed
  deriving DecidableEq

abbrev ClientReply : ClientRequest → Type
  | .loadCircuitState => CircuitState
  | .tryHalfOpen => Bool
  | .loadHalfOpenRetries => ℤ
  | .wait => Bool
  | .newRequest => Bool
  | .send => Option ℤ
  | .addFailureCount => ℤ
  | _ => Unit

structure ClientEnv where
  now : Time
  /-- The context is done before the waiting time is over. -/
  cancelled : Bool := false
  /-- The request can be built. -/
  wellFormed : Bool := true
  status : Option ℤ := some 200

def exec (env : ClientEnv) (q : ClientRequest) (c : Client) : ClientReply q × Client :=
  match q with
  | .loadCircuitState => (c.circuitState, c)
  | .tryHalfOpen =>
    if env.now - c.lastFailure > openTimeout then (true, { c with circuitState := .halfOpen }) else (false, c)
  | .loadHalfOpenRetries => (c.halfOpenRetries, c)
  | .addHalfOpenRetries => ((), { c with halfOpenRetries := int32 (c.halfOpenRetries + 1) })
  | .wait => (env.cancelled, c)
  | .newRequest => (env.wellFormed, c)
  | .send => (env.status, c)
  | .addFailureCount => (int32 (c.failureCount + 1), { c with failureCount := int32 (c.failureCount + 1) })
  | .setLastFailure => ((), { c with lastFailure := env.now })
  | .storeOpen => ((), { c with circuitState := .open })
  | .resetFailureCount => ((), { c with failureCount := 0 })
  | .storeClosed => ((), { c with circuitState := .closed })

abbrev ClientProgram := Program ClientRequest ClientReply

def request (q : ClientRequest) : ClientProgram (ClientReply q) := .send q

inductive DoResult where
  | response (status : ℤ)
  | circuitOpen
  | contextDone
  | invalidRequest
  | maxRetriesExceeded (lastStatus : Option ℤ)
  deriving DecidableEq

def allowRequest : ClientProgram Bool := do
  match ← request .loadCircuitState with
  | .closed => return true
  | .open => request .tryHalfOpen
  | .halfOpen =>
    let retries ← request .loadHalfOpenRetries
    if retries < 3 then
      request .addHalfOpenRetries
      return true
    else return false

def recordFailure : ClientProgram Unit := do
  let failures ← request .addFailureCount
  request .setLastFailure
  if failures ≥ threshold then request .storeOpen else return ()

def recordSuccess : ClientProgram Unit := do
  request .resetFailureCount
  request .storeClosed

/-- Whether the context is done when the attempt can begin. -/
def awaitAttempt (retry : Bool) : ClientProgram Bool := if retry then request .wait else pure false

/-- The attempts that are left, the first of them a retry or not. -/
def attempts (retry : Bool) (lastStatus : Option ℤ) : ℕ → ClientProgram DoResult
  | 0 => return .maxRetriesExceeded lastStatus
  | left + 1 => do
    let cancelled ← awaitAttempt retry
    if cancelled then return .contextDone
    let wellFormed ← request .newRequest
    if !wellFormed then return .invalidRequest
    match ← request .send with
    | some status =>
      if !isRetryable status then
        recordSuccess
        return .response status
      recordFailure
      attempts true (some status) left
    | none =>
      recordFailure
      attempts true none left

def doRequest : ClientProgram DoResult := do
  let allowed ← allowRequest
  if !allowed then return .circuitOpen
  attempts false none (maxRetries + 1)

/-- A request that only an admitted call sends. -/
def ClientRequest.admitted : ClientRequest → Bool
  | loadCircuitState | tryHalfOpen | loadHalfOpenRetries | addHalfOpenRetries => false
  | _ => true

/-- The call was admitted and has not returned. -/
def inFlight : ClientProgram DoResult → Bool
  | .done _ => false
  | .request q _ => q.admitted

abbrev ClientConfig := Config ClientEnv ClientRequest ClientReply Client DoResult

/-- The calls, interleaved, on a new client. -/
abbrev clientRun (calls : ℕ) (schedule : List (ℕ × ClientEnv)) : ClientConfig :=
  (start {} (List.replicate calls doRequest)).run exec schedule

def Quiet (c : ClientConfig) : Prop := ∀ p ∈ c.threads, inFlight p = false

/-- With no call in flight and the time since the last failure over, the next call is admitted. -/
def NotWedged (c : ClientConfig) : Prop :=
  Quiet c → ∀ env : ClientEnv, env.now - c.store.lastFailure > openTimeout → (allowRequest.alone exec env c.store).1 = true

/-- Half-open, with the trials spent. -/
def TrialsSpent (s : Client) : Prop := s.circuitState = .halfOpen ∧ 3 ≤ s.halfOpenRetries

/-- The last call in flight returns from a half-open breaker whose trials are spent, and its
last act is neither to open nor to close the breaker. -/
def LeavesHalfOpen (c : ClientConfig) (choice : ℕ × ClientEnv) : Prop :=
  ∃ q k, c.threads[choice.1]? = some (.request q k) ∧ q.admitted ∧ q ≠ .storeOpen ∧ q ≠ .storeClosed ∧
    inFlight (k (exec choice.2 q c.store).1) = false ∧
    (∀ j p, c.threads[j]? = some p → j ≠ choice.1 → inFlight p = false) ∧ TrialsSpent c.store

/-! ## The breaker, request by request -/

/-- What the breaker answers to a call that no other interferes with. -/
lemma alone_allowRequest (env : ClientEnv) (s : Client) : (allowRequest.alone exec env s).1 =
    match s.circuitState with
    | .closed => true
    | .open => decide (env.now - s.lastFailure > openTimeout)
    | .halfOpen => decide (s.halfOpenRetries < 3) := by
  obtain ⟨state, failures, last, retries⟩ := s
  cases state with
  | closed => rfl
  | «open» =>
    change (if env.now - last > openTimeout then (true, _) else (false, _)).1 = decide (env.now - last > openTimeout)
    by_cases helapsed : env.now - last > openTimeout
    · rw [if_pos helapsed, decide_eq_true helapsed]
    · rw [if_neg helapsed, decide_eq_false helapsed]
  | halfOpen =>
    change (alone exec env (if retries < 3 then _ else .done false) _).1 = decide (retries < 3)
    by_cases hretries : retries < 3
    · rw [if_pos hretries, decide_eq_true hretries]
      rfl
    · rw [if_neg hretries, decide_eq_false hretries]
      rfl

lemma notWedged_iff {c : ClientConfig} : NotWedged c ↔ ¬(Quiet c ∧ TrialsSpent c.store) := by
  unfold NotWedged TrialsSpent
  constructor
  · rintro hadmitted ⟨hquiet, hstate, hretries⟩
    have helapsed : c.store.lastFailure + openTimeout + 1 - c.store.lastFailure > openTimeout := by
      rw [add_assoc, add_sub_cancel_left]
      exact lt_add_one openTimeout
    have htrue := hadmitted hquiet { now := c.store.lastFailure + openTimeout + 1 } helapsed
    rw [alone_allowRequest, hstate] at htrue
    have hless : c.store.halfOpenRetries < 3 := of_decide_eq_true htrue
    omega
  · intro hnot hquiet env helapsed
    rw [alone_allowRequest]
    cases hstate : c.store.circuitState with
    | closed => rfl
    | «open» => exact decide_eq_true helapsed
    | halfOpen =>
      refine decide_eq_true ?_
      by_contra hretries
      exact hnot ⟨hquiet, hstate, not_lt.mp hretries⟩

/-- A request that lets the call through the breaker is followed by one of an admitted call. -/
def Enters : (q : ClientRequest) → (ClientReply q → ClientProgram DoResult) → Prop
  | .tryHalfOpen, k => inFlight (k true)
  | .addHalfOpenRetries, k => inFlight (k ())
  | _, _ => True

def Shaped : ClientProgram DoResult → Prop
  | .done _ => True
  | .request q k => Enters q k ∧ ∀ r, Shaped (k r)

lemma Shaped.bind {α : Type} {p : ClientProgram α} {f : α → ClientProgram DoResult}
    (hp : p.AllRequests (fun q => q.admitted)) (hf : ∀ a, Shaped (f a)) : Shaped (p.bind f) := by
  induction p with
  | done a => exact hf a
  | request q k ih =>
    refine ⟨?_, fun r => ih r (hp.2 r)⟩
    cases q with
    | tryHalfOpen => cases hp.1
    | addHalfOpenRetries => cases hp.1
    | _ => trivial

lemma admitted_recordFailure : recordFailure.AllRequests (fun q => q.admitted) := by
  refine .send_bind rfl fun failures => .send_bind rfl fun _ => ?_
  exact .ite ⟨rfl, fun _ => trivial⟩ trivial

lemma shaped_attempts (retry : Bool) (lastStatus : Option ℤ) (left : ℕ) : Shaped (attempts retry lastStatus left) := by
  induction left generalizing retry lastStatus with
  | zero => trivial
  | succ left ih =>
    have hwait : (awaitAttempt retry).AllRequests (fun q => q.admitted) := .ite ⟨rfl, fun _ => trivial⟩ trivial
    refine Shaped.bind hwait fun cancelled => ?_
    cases cancelled with
    | true => trivial
    | false =>
      have hbuild : (request .newRequest).AllRequests (fun q => q.admitted) := ⟨rfl, fun _ => trivial⟩
      refine Shaped.bind hbuild fun wellFormed => ?_
      cases wellFormed with
      | false => trivial
      | true =>
        have hsend : (request .send).AllRequests (fun q => q.admitted) := ⟨rfl, fun _ => trivial⟩
        refine Shaped.bind hsend fun status => ?_
        cases status with
        | none => exact Shaped.bind admitted_recordFailure fun _ => ih true none
        | some status =>
          dsimp only
          by_cases hretry : isRetryable status
          · simp only [hretry]
            exact Shaped.bind admitted_recordFailure fun _ => ih true (some status)
          · simp only [hretry]
            have hsuccess : recordSuccess.AllRequests (fun q => q.admitted) :=
              .send_bind rfl fun _ => ⟨rfl, fun _ => trivial⟩
            exact Shaped.bind hsuccess fun _ => trivial

lemma shaped_doRequest : Shaped doRequest := by
  have hattempts := shaped_attempts false none (maxRetries + 1)
  refine ⟨trivial, fun state => ?_⟩
  cases state with
  | closed => exact hattempts
  | «open» =>
    refine ⟨rfl, fun allowed => ?_⟩
    cases allowed with
    | false => trivial
    | true => exact hattempts
  | halfOpen =>
    refine ⟨trivial, fun retries => ?_⟩
    dsimp only [done_bind]
    by_cases hretries : retries < 3
    · rw [if_pos hretries]
      exact ⟨rfl, fun _ => hattempts⟩
    · rw [if_neg hretries]
      trivial

lemma shaped_clientRun (calls : ℕ) (schedule : List (ℕ × ClientEnv)) :
    ∀ p ∈ (clientRun calls schedule).threads, Shaped p := by
  refine run_induction (motive := fun c : ClientConfig => ∀ p ∈ c.threads, Shaped p) exec ?_ ?_ schedule
  · intro c i env q k hi hc p hp
    obtain hp | rfl := List.mem_or_eq_of_mem_set hp
    · exact hc p hp
    · exact (hc _ (List.mem_of_getElem? hi)).2 _
  · intro p hp
    rw [List.eq_of_mem_replicate hp]
    exact shaped_doRequest

/-- Only opening and closing the breaker or entering it touches what `TrialsSpent` reads. -/
lemma trialsSpent_exec {q : ClientRequest} (hadmitted : q.admitted) (hopen : q ≠ .storeOpen) (hclosed : q ≠ .storeClosed)
    (env : ClientEnv) (s : Client) : TrialsSpent (exec env q s).2 ↔ TrialsSpent s := by
  cases q with
  | loadCircuitState => cases hadmitted
  | tryHalfOpen => cases hadmitted
  | loadHalfOpenRetries => cases hadmitted
  | addHalfOpenRetries => cases hadmitted
  | storeOpen => exact absurd rfl hopen
  | storeClosed => exact absurd rfl hclosed
  | wait => rfl
  | newRequest => rfl
  | send => rfl
  | addFailureCount => rfl
  | setLastFailure => rfl
  | resetFailureCount => rfl

/-- A call that is not admitted yet gets into flight, or leaves the breaker as it is. -/
lemma exec_of_not_admitted {q : ClientRequest} {k : ClientReply q → ClientProgram DoResult} (henters : Enters q k)
    (hadmitted : q.admitted = false) (env : ClientEnv) (s : Client) :
    inFlight (k (exec env q s).1) ∨ (exec env q s).2 = s := by
  cases q with
  | loadCircuitState => exact .inr rfl
  | loadHalfOpenRetries => exact .inr rfl
  | addHalfOpenRetries => exact .inl henters
  | tryHalfOpen =>
    unfold exec
    dsimp only
    split
    · exact .inl henters
    · exact .inr rfl
  | _ => cases hadmitted

/-- The configuration after the chosen call's next request. -/
def stepped (c : ClientConfig) (choice : ℕ × ClientEnv) (q : ClientRequest) (k : ClientReply q → ClientProgram DoResult) :
    ClientConfig :=
  ⟨(exec choice.2 q c.store).2, c.threads.set choice.1 (k (exec choice.2 q c.store).1),
    c.history ++ [⟨choice.1, choice.2, q, c.store⟩]⟩

section Step

variable {c : ClientConfig} {choice : ℕ × ClientEnv} {q : ClientRequest} {k : ClientReply q → ClientProgram DoResult}

lemma quiet_stepped (hchosen : c.threads[choice.1]? = some (.request q k)) :
    Quiet (stepped c choice q k) ↔ inFlight (k (exec choice.2 q c.store).1) = false ∧
      ∀ j p, c.threads[j]? = some p → j ≠ choice.1 → inFlight p = false := by
  obtain ⟨hlength, -⟩ := List.getElem?_eq_some_iff.mp hchosen
  unfold Quiet stepped
  constructor
  · intro hquiet
    refine ⟨hquiet _ (List.mem_set hlength _), fun j p hj hne => hquiet p ?_⟩
    refine List.mem_of_getElem? (i := j) ?_
    rw [List.getElem?_set_ne hne.symm, hj]
  · rintro ⟨hreturned, hothers⟩ p hp
    obtain ⟨j, hj⟩ := List.getElem?_of_mem hp
    by_cases hne : j = choice.1
    · rw [hne, List.getElem?_set_self hlength] at hj
      cases hj
      exact hreturned
    · rw [List.getElem?_set_ne (Ne.symm hne)] at hj
      exact hothers j p hj hne

/-- One request: a client that is not wedged is wedged by leaving it half-open, and by nothing else. -/
lemma notWedged_stepped (hchosen : c.threads[choice.1]? = some (.request q k)) (hshaped : Shaped (.request q k))
    (hc : NotWedged c) : NotWedged (stepped c choice q k) ↔ ¬LeavesHalfOpen c choice := by
  rw [notWedged_iff, not_iff_not, quiet_stepped hchosen]
  rw [notWedged_iff] at hc
  constructor
  · rintro ⟨⟨hreturned, hothers⟩, hspent⟩
    have hspent' : TrialsSpent (exec choice.2 q c.store).2 := hspent
    have hadmitted : q.admitted = true := by
      by_contra hnot
      rw [Bool.not_eq_true] at hnot
      obtain hflies | hsame := exec_of_not_admitted hshaped.1 hnot choice.2 c.store
      · rw [hflies] at hreturned
        cases hreturned
      · refine hc ⟨fun p hp => ?_, hsame ▸ hspent'⟩
        obtain ⟨j, hj⟩ := List.getElem?_of_mem hp
        by_cases hne : j = choice.1
        · rw [hne, hchosen] at hj
          cases hj
          exact hnot
        · exact hothers j p hj hne
    have hopen : q ≠ .storeOpen := by
      rintro rfl
      cases hspent'.1
    have hclosed : q ≠ .storeClosed := by
      rintro rfl
      cases hspent'.1
    exact ⟨q, k, hchosen, hadmitted, hopen, hclosed, hreturned, hothers,
      (trialsSpent_exec hadmitted hopen hclosed choice.2 c.store).mp hspent'⟩
  · rintro ⟨q', k', hchosen', hadmitted, hopen, hclosed, hreturned, hothers, hspent⟩
    rw [hchosen] at hchosen'
    cases hchosen'
    exact ⟨⟨hreturned, hothers⟩, (trialsSpent_exec hadmitted hopen hclosed choice.2 c.store).mpr hspent⟩

end Step

/-- One step of a run. -/
lemma notWedged_step {c : ClientConfig} (choice : ℕ × ClientEnv) (hshaped : ∀ p ∈ c.threads, Shaped p) (hc : NotWedged c) :
    NotWedged (c.step exec choice) ↔ ¬LeavesHalfOpen c choice := by
  unfold Config.step
  cases hchosen : c.threads[choice.1]? with
  | none =>
    refine iff_of_true hc ?_
    rintro ⟨q, k, hchosen', -⟩
    rw [hchosen] at hchosen'
    cases hchosen'
  | some p =>
    cases p with
    | done r =>
      refine iff_of_true hc ?_
      rintro ⟨q, k, hchosen', -⟩
      rw [hchosen] at hchosen'
      cases hchosen'
    | request q k => exact notWedged_stepped hchosen (hshaped _ (List.mem_of_getElem? hchosen)) hc

lemma notWedged_start (calls : ℕ) : NotWedged (clientRun calls []) := by
  rw [notWedged_iff]
  rintro ⟨-, hstate, -⟩
  cases hstate

/-- The breaker admits the next call in every quiet state of a run, once the time is over, if
and only if no call of the run is the last in flight to leave it half-open with its trials spent. -/
theorem notWedged_throughout_iff (calls : ℕ) (schedule : List (ℕ × ClientEnv)) :
    (∀ done, done <+: schedule → NotWedged (clientRun calls done)) ↔
      ∀ done choice, done ++ [choice] <+: schedule → ¬LeavesHalfOpen (clientRun calls done) choice := by
  have hstep : ∀ done choice, clientRun calls (done ++ [choice]) = (clientRun calls done).step exec choice :=
    fun done choice => run_append _ done [choice]
  constructor
  · intro hnever done choice hbegin
    have hbefore := hnever done ((List.prefix_append done [choice]).trans hbegin)
    have hafter := hnever (done ++ [choice]) hbegin
    rw [hstep] at hafter
    exact (notWedged_step choice (shaped_clientRun calls done) hbefore).mp hafter
  · intro hleaves done hbegin
    induction done using List.reverseRecOn with
    | nil => exact notWedged_start calls
    | append_singleton done choice ih =>
      have hbefore := ih ((List.prefix_append done [choice]).trans hbegin)
      rw [hstep]
      exact (notWedged_step choice (shaped_clientRun calls done) hbefore).mpr (hleaves done choice hbegin)

section Sample

namespace Sample

/-- The next step of a call, at this second. -/
def failing (second : ℤ) (call : ℕ) : ℕ × ClientEnv := (call, { now := second * 1000000000, status := none })

/-- The same with a request that cannot be built. -/
def unbuildable (second : ℤ) (call : ℕ) : ℕ × ClientEnv := (call, { now := second * 1000000000, wellFormed := false })

/-- Two calls in vain, the first with four attempts, the second with one and a cancelled wait.
After the timeout come four requests that cannot be built. -/
def schedule : List (ℕ × ClientEnv) :=
  List.replicate 20 (failing 1 0) ++ List.replicate 6 (failing 2 1) ++ [(1, { now := 2000000000, cancelled := true })] ++
    List.replicate 3 (unbuildable 40 2) ++ List.replicate 4 (unbuildable 41 3) ++ List.replicate 4 (unbuildable 42 4) ++
    List.replicate 4 (unbuildable 43 5)

end Sample

/-- No call is in flight any more, and no later call is admitted. -/
theorem requests_that_cannot_be_built_wedge : ¬NotWedged (clientRun 6 Sample.schedule) := by
  have hstore : (clientRun 6 Sample.schedule).store.circuitState = .halfOpen ∧
      (clientRun 6 Sample.schedule).store.halfOpenRetries = 3 := by decide
  have hquiet : (clientRun 6 Sample.schedule).threads.map inFlight = List.replicate 6 false := by decide
  rw [notWedged_iff, not_not]
  refine ⟨fun p hp => ?_, hstore.1, hstore.2.ge⟩
  have hmem := List.mem_map_of_mem (f := inFlight) hp
  rw [hquiet] at hmem
  exact List.eq_of_mem_replicate hmem

end Sample

end ErgGo.HTTPClient
