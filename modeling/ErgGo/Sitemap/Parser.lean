import ErgGo.Lib.Channel
import ErgGo.Lib.GoRuntime
import Mathlib.Data.Set.Basic

/-!
# Fetching all sitemaps

The goroutines of `FetchAll`: five workers, the one that closes the channels, and the caller.
The mutex is held from its lock to its unlock without a blocking operation in between, so the
section is one step. The workers read and write `seen` outside of it as well, one access a step.
-/

namespace ErgGo.Sitemaps
open Go

structure URL where
  loc : String
  lastMod : Time := 0
  changeFreq : String := ""
  priority : Float64
  parentURL : String := ""

structure Sitemap where
  urls : List URL := []
  isIndex : Bool := false
  children : List String := []
  parent : String := ""

structure FetchJob where
  url : String
  depth : ℕ
  parent : String := ""

/-- Where a worker is in its loop. -/
inductive Worker where
  | receiving
  | fetching (job : FetchJob)
  | failed (job : FetchJob) (err : String)
  | storing (job : FetchJob) (sitemap : Sitemap)
  | children (job : FetchJob) (sitemap : Sitemap) (rest : List String)
  | marking (job : FetchJob) (sitemap : Sitemap) (child : String) (rest : List String)
  | sending (job : FetchJob) (sitemap : Sitemap) (child : String) (rest : List String)
  | reporting (job : FetchJob) (sitemap : Sitemap)
  | exited

def Worker.hasExited : Worker → Bool
  | .exited => true
  | _ => false

/-- What the goroutines share. -/
structure Shared where
  jobs : Channel FetchJob := { capacity := 100 }
  results : Channel (List URL) := { capacity := 50 }
  errors : Channel String := { capacity := 50 }
  seen : List String := []
  allURLs : List URL := []

/-- The loop under the mutex. -/
def Shared.store (urls : List URL) (shared : Shared) : Shared :=
  urls.foldl (fun shared u =>
    if u.loc ∈ shared.seen then shared
    else { shared with seen := u.loc :: shared.seen, allURLs := shared.allURLs ++ [u] }) shared

/-- The next step of a worker, where a fetch answers `response`. -/
def Worker.step (maxDepth : ℕ) (response : Except String Sitemap) (shared : Shared) :
    Worker → Option (Worker × Shared)
  | .receiving => shared.jobs.next.map (fun (job, jobs) =>
      (job.elim .exited .fetching, { shared with jobs := jobs }))
  | .fetching job => match response with
    | .error err => some (.failed job err, shared)
    | .ok sitemap => some (.storing job sitemap, shared)
  | .failed job err =>
    some (.receiving, { shared with errors := shared.errors.offer ("sitemap: fetch " ++ job.url ++ ": " ++ err) })
  | .storing job sitemap =>
    some (if job.depth < maxDepth && sitemap.isIndex then .children job sitemap sitemap.children
      else .reporting job sitemap, shared.store sitemap.urls)
  | .children job sitemap [] => some (.reporting job sitemap, shared)
  | .children job sitemap (child :: rest) =>
    some (if child ∈ shared.seen then .children job sitemap rest else .marking job sitemap child rest, shared)
  | .marking job sitemap child rest =>
    some (.sending job sitemap child rest, { shared with seen := child :: shared.seen })
  | .sending job sitemap child rest =>
    (shared.jobs.send { url := child, depth := job.depth + 1 }).map (fun jobs =>
      (.children job sitemap rest, { shared with jobs := jobs }))
  | .reporting _ sitemap => some (.receiving, { shared with results := shared.results.offer sitemap.urls })
  | .exited => none

/-- The goroutine that waits for the workers and closes the channels. -/
inductive Closer where
  | notStarted
  | waiting
  | closingErrors
  | done
  deriving DecidableEq

/-- The caller. -/
inductive Caller where
  | sendingRoot
  | startingCloser
  | drainingResults
  | drainingErrors
  | returned
  deriving DecidableEq

structure State where
  shared : Shared := {}
  workers : List Worker := List.replicate 5 .receiving
  closer : Closer := .notStarted
  caller : Caller := .sendingRoot

structure FetchAll where
  sitemapURL : String
  maxDepth : ℤ
  /-- What a fetch of a sitemap can answer; a cancelled one fails. -/
  responses : String → Set (Except String Sitemap)

namespace FetchAll

variable (p : FetchAll)

def depthLimit : ℕ := if p.maxDepth ≤ 0 then 3 else p.maxDepth.toNat

/-- A goroutine takes a step; the response is for a worker that fetches. -/
inductive Turn where
  | caller
  | closer
  | worker (i : ℕ) (response : Except String Sitemap)

def callerStep (s : State) : Option State :=
  match s.caller with
  | .sendingRoot => (s.shared.jobs.send { url := p.sitemapURL, depth := 0 }).map (fun jobs =>
      { s with shared := { s.shared with jobs := jobs }, caller := .startingCloser })
  | .startingCloser => some { s with closer := .waiting, caller := .drainingResults }
  | .drainingResults => s.shared.results.next.map (fun (result, results) =>
      { s with shared := { s.shared with results := results },
               caller := if result.isSome then .drainingResults else .drainingErrors })
  | .drainingErrors => s.shared.errors.next.map (fun (err, errors) =>
      { s with shared := { s.shared with errors := errors },
               caller := if err.isSome then .drainingErrors else .returned })
  | .returned => none

def closerStep (s : State) : Option State :=
  match s.closer with
  | .notStarted => none
  | .waiting =>
    if s.workers.all Worker.hasExited then
      some { s with shared := { s.shared with results := s.shared.results.close }, closer := .closingErrors }
    else none
  | .closingErrors =>
    some { s with shared := { s.shared with errors := s.shared.errors.close }, closer := .done }
  | .done => none

def workerStep (i : ℕ) (response : Except String Sitemap) (s : State) : Option State := do
  let worker ← s.workers[i]?
  let (worker, shared) ← worker.step p.depthLimit response s.shared
  return { s with shared := shared, workers := s.workers.set i worker }

def step (s : State) : Turn → Option State
  | .caller => p.callerStep s
  | .closer => closerStep s
  | .worker i response => p.workerStep i response s

/-- A worker that fetches gets a response of its sitemap. -/
def Admits (s : State) : Turn → Prop
  | .worker i response => ∀ job, s.workers[i]? = some (.fetching job) → response ∈ p.responses job.url
  | _ => True

/-- Some goroutine takes a step. -/
def Step (s s' : State) : Prop := ∃ turn, p.Admits s turn ∧ p.step s turn = some s'

/-- The job that a turn sends on the channel. -/
def enqueued (s : State) : Turn → List FetchJob
  | .caller => if s.caller = .sendingRoot then [{ url := p.sitemapURL, depth := 0 }] else []
  | .closer => []
  | .worker i _ => match s.workers[i]? with
    | some (.sending job _ child _) => [{ url := child, depth := job.depth + 1 }]
    | _ => []

/-- The job that a turn is done with. -/
def processed (s : State) : Turn → List FetchJob
  | .worker i _ => match s.workers[i]? with
    | some (.failed job _) => [job]
    | some (.reporting job _) => [job]
    | _ => []
  | _ => []

/-- A state that is reached, with the jobs sent and the jobs done on the way. -/
inductive Run : State → List FetchJob → List FetchJob → Prop
  | start : Run {} [] []
  | step {s s' : State} {sent done : List FetchJob} (turn : Turn) (hs : Run s sent done) (hadmits : p.Admits s turn)
      (hstep : p.step s turn = some s') : Run s' (sent ++ p.enqueued s turn) (done ++ processed s turn)

/-- `FetchAll` has not returned, and no goroutine can take a step. -/
def Stuck (s : State) : Prop := s.caller ≠ .returned ∧ ∀ s', ¬p.Step s s'

/-- There is no stuck state, and every job is done once when `FetchAll` returns. -/
structure FetchesAll : Prop where
  progress : ∀ s sent done, p.Run s sent done → ¬p.Stuck s
  processed : ∀ s sent done, p.Run s sent done → s.caller = .returned → done.Perm sent

end FetchAll

end ErgGo.Sitemaps
