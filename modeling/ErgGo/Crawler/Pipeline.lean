import ErgGo.Lib.GoRuntime
import Mathlib.Logic.Function.Basic

/-!
# The crawl pipeline

A run takes a URL through twelve steps and ends at the first gate that fails. While it goes on, the
job's state is kept for `ActivePipelines`; a deferred call closes that state with the result, and the
crawl history keeps the step. What the repository, the fetcher, the URL parser and the analysis of
the page return is given by `Externals`.
-/

namespace ErgGo.Crawler.Pipeline
open Go

inductive Stage where
  | discover
  | scrape
  | process
  | seo
  | publish
  deriving DecidableEq

/-- The stage's place in the pipeline. -/
def Stage.rank : Stage → ℕ
  | .discover => 0
  | .scrape => 1
  | .process => 2
  | .seo => 3
  | .publish => 4

inductive JobStatus where
  | pending
  | processing
  | completed
  | failed
  deriving DecidableEq

def JobStatus.terminal : JobStatus → Bool
  | .completed | .failed => true
  | _ => false

/-- An entry of `ActivePipelines`. -/
structure ActivePipelineResponse where
  jobID : String
  url : String
  source : String
  status : JobStatus
  currentStep : Stage
  progress : ℕ
  timeStarted : String
  message : String
  qualityScore : Float64
  deriving DecidableEq

inductive CrawlStatus where
  | pending
  | success
  | failed
  | duplicate
  | blacklisted
  deriving DecidableEq

def CrawlStatus.text : CrawlStatus → String
  | .pending => "pending"
  | .success => "success"
  | .failed => "failed"
  | .duplicate => "duplicate"
  | .blacklisted => "blacklisted"

/-- A crawl history record; `step` is 0 until it is recorded. -/
structure CrawlHistory where
  id : String
  url : String
  feedID : String
  jobID : String
  status : CrawlStatus
  httpStatus : ℤ
  responseSize : ℕ
  durationMS : ℤ
  errorMsg : String
  qualityScore : Float64
  step : ℕ
  title : String
  description : String
  deriving DecidableEq

structure PipelineResult where
  success : Bool
  status : Option CrawlStatus
  step : ℕ
  title : String
  description : String
  qualityScore : Float64
  tags : List String
  language : String
  errorMsg : String
  duration : ℤ
  deriving DecidableEq

structure Job where
  url : String
  feedID : String
  jobID : String

structure FetchResult where
  error : Option String
  statusCode : ℤ
  bodyLen : ℕ
  durationMS : ℤ

/-- What is read off the fetched page. -/
structure Page where
  score : Float64
  title : String
  description : String
  tags : List String
  language : String
  contentHash : String
  simHash : UInt64

/-- What the external steps of one run return. A check that fails counts as not blocked, not to be
skipped, not a duplicate. -/
structure Externals where
  startedAt : String
  /-- The new record's ID, and whether its insertion succeeded. -/
  historyID : String
  historyCreated : Bool
  blocked : Bool
  /-- The URL's host name, or why it does not parse. -/
  parsedURL : Except String String
  skip : Bool
  fetchResult : FetchResult
  page : Page
  isDup : Bool
  metadataSaved : Bool
  statusSaved : Bool
  eventBus : Bool
  elapsed : ℤ

/-- Further writes of a run, whose failures are only logged. -/
inductive Effect where
  | updateDomainReputation (domain : String) (success : Bool) (durationMS : ℤ) (blocked : Bool)
  | storeFingerprint (url : String) (simHash : UInt64) (sha256 : String)
  | updateFeedLastItem (feedID : String)
  | publish (eventType : String) (payload : List (String × String))

/-- The service's jobs and the run's history record. `observed` has the states of the job in the
order in which `ActivePipelines` could show them, and `reached` the last step the run came to. -/
structure Run where
  pipes : String → Option ActivePipelineResponse
  history : Option CrawlHistory
  effects : List Effect
  observed : List ActivePipelineResponse
  reached : ℕ

def start (pipes : String → Option ActivePipelineResponse) : Run := ⟨pipes, none, [], [], 0⟩

def publishThreshold : Float64 := ⟨70⟩

def pipelineSource (feedID : String) : String := if feedID ≠ "" then "RSS" else "MANUAL"

def pipelineStepLabel (step : ℕ) : Stage :=
  if step ≤ 2 then .discover
  else if step ≤ 4 then .scrape
  else if step ≤ 8 then .process
  else if step ≤ 11 then .seo
  else .publish

def pipelineProgress (step : ℕ) : ℕ :=
  if step ≤ 1 then 10
  else if step = 2 then 20
  else if step ≤ 4 then 40
  else if step ≤ 8 then 65
  else if step ≤ 11 then 85
  else 100

/-- `%.1f`. -/
def formatTenths (x : Float64) : String :=
  let tenths := (roundHalfEven (|x.val| * 10)).natAbs
  (if x.val < 0 then "-" else "") ++ toString (tenths / 10) ++ "." ++ toString (tenths % 10)

/-! ## The job's state -/

/-- `s.pipes[jobID] = item`. -/
def Run.set (jobID : String) (item : ActivePipelineResponse) (w : Run) : Run :=
  { w with pipes := Function.update w.pipes jobID (some item), observed := w.observed ++ [item] }

def beginPipeline (job : Job) (startedAt : String) (w : Run) : Run :=
  let item : ActivePipelineResponse :=
    { jobID := job.jobID, url := job.url, source := pipelineSource job.feedID, status := .pending,
      currentStep := pipelineStepLabel 1, progress := 5, timeStarted := startedAt,
      message := "Dang khoi tao pipeline", qualityScore := 0 }
  { w.set job.jobID item with reached := 1 }

def updatePipeline (jobID : String) (step : ℕ) (message : String) (w : Run) : Run :=
  match w.pipes jobID with
  | none => w
  | some item =>
    w.set jobID { item with
      status := .processing
      currentStep := pipelineStepLabel step
      progress := pipelineProgress step
      message := message }

def finishPipeline (jobID : String) (result : PipelineResult) (w : Run) : Run :=
  match w.pipes jobID with
  | none => w
  | some item =>
    let item := { item with
      currentStep := pipelineStepLabel result.step
      progress := 100
      qualityScore := result.qualityScore }
    if result.success then
      w.set jobID { item with status := .completed, message := "Pipeline complete" }
    else
      w.set jobID { item with
        status := .failed
        message := if result.errorMsg ≠ "" then result.errorMsg else "Pipeline failed" }

/-- The step begins; the event for the job's SSE client is left out. -/
def broadcast (jobID : String) (step : ℕ) (message : String) (w : Run) : Run :=
  { updatePipeline jobID step message w with reached := step }

/-! ## The run -/

def createCrawlHistory (env : Externals) (job : Job) (w : Run) : Run :=
  let history : CrawlHistory :=
    { id := env.historyID, url := job.url, feedID := job.feedID, jobID := job.jobID, status := .pending,
      httpStatus := 0, responseSize := 0, durationMS := 0, errorMsg := "", qualityScore := 0, step := 0,
      title := "", description := "" }
  { w with history := if env.historyCreated then some history else none }

def updateHistory (env : Externals) (result : PipelineResult) (w : Run) : Run :=
  let status := result.status.getD .failed
  let errMsg := if result.errorMsg = "" ∧ ¬result.success then "unknown error" else result.errorMsg
  if env.statusSaved then
    { w with history := w.history.map fun h => { h with status := status, step := result.step, errorMsg := errMsg } }
  else w

def updateCrawlMetadata (env : Externals) (w : Run) : Run :=
  if env.metadataSaved then
    { w with
      history := w.history.map fun h => { h with
        status := .success
        title := env.page.title
        description := env.page.description
        qualityScore := env.page.score
        httpStatus := env.fetchResult.statusCode
        responseSize := env.fetchResult.bodyLen
        durationMS := env.fetchResult.durationMS } }
  else w

def Run.emit (effect : Effect) (w : Run) : Run := { w with effects := w.effects ++ [effect] }

def publishResult (env : Externals) (job : Job) (result : PipelineResult) (w : Run) : Run :=
  let eventType := if result.success then "crawl.success" else "crawl.failed"
  let payload := [("url", job.url), ("feed_id", job.feedID), ("job_id", job.jobID),
    ("status", (result.status.map CrawlStatus.text).getD ""),
    ("quality_score", formatTenths result.qualityScore), ("title", result.title)]
  let payload := if result.errorMsg ≠ "" then payload ++ [("error", result.errorMsg)] else payload
  if env.eventBus then w.emit (.publish eventType payload) else w

/-- Steps 7 to 12, after which nothing stops the run. -/
def publishContent (env : Externals) (job : Job) (domain : String) (result : PipelineResult) (w : Run) :
    Run × PipelineResult :=
  let w := broadcast job.jobID 7 "Extracting metadata" w
  let w := broadcast job.jobID 8 "Analyzing content" w
  let result := { result with tags := env.page.tags, language := env.page.language }
  let w := broadcast job.jobID 10 "Saving to database" w
  let w := updateCrawlMetadata env w
  let w := w.emit (.storeFingerprint job.url env.page.simHash env.page.contentHash)
  let w := if job.feedID ≠ "" then w.emit (.updateFeedLastItem job.feedID) else w
  let w := w.emit (.updateDomainReputation domain true env.fetchResult.durationMS false)
  let w := broadcast job.jobID 12 "Pipeline complete" w
  -- `result.Step` is still the 1 it was set to at the start.
  let result := { result with
    success := true
    status := some .success
    title := env.page.title
    description := env.page.description
    duration := env.elapsed }
  (publishResult env job result (updateHistory env result w), result)

/-- Steps 5 and 6. -/
def checkContent (env : Externals) (job : Job) (domain : String) (result : PipelineResult) (w : Run) :
    Run × PipelineResult :=
  let w := broadcast job.jobID 5 "Scoring content quality" w
  let score := env.page.score
  let result := { result with qualityScore := score }
  if score < publishThreshold then
    let result := { result with
      status := some .failed
      errorMsg := "quality score " ++ formatTenths score ++ " below threshold " ++ formatTenths publishThreshold
      step := 5 }
    (updateHistory env result w, result)
  else
    let w := broadcast job.jobID 6 "Checking for duplicates" w
    if env.isDup then
      let result := { result with
        status := some .duplicate
        errorMsg := "duplicate content detected"
        step := 6 }
      (updateHistory env result w, result)
    else publishContent env job domain result w

/-- Steps 3 and 4: `Fetch` also checks robots.txt. -/
def fetchContent (env : Externals) (job : Job) (domain : String) (result : PipelineResult) (w : Run) :
    Run × PipelineResult :=
  let w := broadcast job.jobID 3 "Fetching content" w
  let fetchResult := env.fetchResult
  match fetchResult.error with
  | some errStr =>
    let robots := contains errStr "disallowed by robots.txt"
    let result := { result with
      status := some .failed
      errorMsg := if robots then "disallowed by robots.txt" else errStr
      step := 3 }
    let w := if robots then w else w.emit (.updateDomainReputation domain false fetchResult.durationMS true)
    (updateHistory env result w, result)
  | none =>
    let w := { w with reached := 4 }
    if fetchResult.statusCode ≠ 200 then
      let result := { result with
        status := some .failed
        errorMsg := "HTTP " ++ toString fetchResult.statusCode
        step := 4 }
      ((updateHistory env result w).emit (.updateDomainReputation domain false fetchResult.durationMS true), result)
    else checkContent env job domain result w

/-- Steps 1 and 2, and from there the rest of the pipeline. -/
def runSteps [Library] (env : Externals) (job : Job) (result : PipelineResult) (w : Run) : Run × PipelineResult :=
  let w := createCrawlHistory env job w
  let w := broadcast job.jobID 1 "Creating crawl record" w
  let w := broadcast job.jobID 1 "Checking blacklist" w
  if env.blocked then
    let result := { result with status := some .blacklisted, errorMsg := "URL is blacklisted", step := 1 }
    (publishResult env job result (updateHistory env result w), result)
  else
    match env.parsedURL with
    | .error err =>
      let result := { result with status := some .failed, errorMsg := "parse URL: " ++ err, step := 1 }
      (updateHistory env result w, result)
    | .ok hostname =>
      let domain := toLower hostname
      let w := broadcast job.jobID 2 "Checking domain reputation" w
      if env.skip then
        let result := { result with
          status := some .failed
          errorMsg := "domain " ++ domain ++ " has low reputation score"
          step := 2 }
        (updateHistory env result w, result)
      else fetchContent env job domain result w

/-- `finishPipeline` is deferred: it runs on every return. -/
def runPipeline [Library] (env : Externals) (job : Job) (w : Run) : Run × PipelineResult :=
  let result : PipelineResult :=
    { success := false, status := none, step := 1, title := "", description := "", qualityScore := 0, tags := [],
      language := "", errorMsg := "", duration := 0 }
  let (w, result) := runSteps env job result (beginPipeline job env.startedAt w)
  (finishPipeline job.jobID result w, result)

/-! ## What a run must look like -/

/-- The job's stage and progress never move backwards, it ends in its one terminal status, which is
`COMPLETED` exactly for a success, and a recorded step is the last step reached. -/
structure Orderly (r : Run × PipelineResult) : Prop where
  stages : r.1.observed.Pairwise (fun p q => p.currentStep.rank ≤ q.currentStep.rank)
  progress : r.1.observed.Pairwise (fun p q => p.progress ≤ q.progress)
  terminal : ∃ before last, r.1.observed = before ++ [last] ∧ last.status.terminal ∧
    ∀ p ∈ before, ¬p.status.terminal
  completed : (∃ p ∈ r.1.observed, p.status = .completed) ↔ r.2.success
  recorded : ∀ h ∈ r.1.history, h.step ≠ 0 → h.step = r.1.reached

/-- No gate stops the run. -/
structure Externals.Passes (env : Externals) : Prop where
  unblocked : ¬env.blocked
  parsed : ∃ hostname, env.parsedURL = .ok hostname
  reputable : ¬env.skip
  fetched : env.fetchResult.error = none
  statusOK : env.fetchResult.statusCode = 200
  score : ¬env.page.score < publishThreshold
  fresh : ¬env.isDup

/-- The state of a run that came to step `n` and is not finished; `pipes` are the jobs at its start. -/
structure Running (pipes : String → Option ActivePipelineResponse) (jobID : String) (n : ℕ) (w : Run) : Prop where
  current : ∃ item, w.pipes jobID = some item ∧ item ∈ w.observed ∧ item.currentStep = pipelineStepLabel n
  active : ∀ p ∈ w.observed, ¬p.status.terminal
  stage_le : ∀ p ∈ w.observed, p.currentStep.rank ≤ (pipelineStepLabel n).rank
  progress_le : ∀ p ∈ w.observed, p.progress ≤ pipelineProgress n
  stages : w.observed.Pairwise (fun p q => p.currentStep.rank ≤ q.currentStep.rank)
  progress : w.observed.Pairwise (fun p q => p.progress ≤ q.progress)
  reached : w.reached = n
  others : ∀ j ≠ jobID, w.pipes j = pipes j

/-- The step recorded so far, if any, is `n`. -/
def RecordedStep (n : ℕ) (w : Run) : Prop := ∀ h ∈ w.history, h.step ≠ 0 → h.step = n

/-- A run that a gate stopped, its result not yet shown. -/
def Stopped (pipes : String → Option ActivePipelineResponse) (jobID : String) (r : Run × PipelineResult) : Prop :=
  Running pipes jobID r.2.step r.1 ∧ RecordedStep r.2.step r.1 ∧ ¬r.2.success

/-- A run that passed every gate, its result not yet shown. -/
def Published (pipes : String → Option ActivePipelineResponse) (jobID : String) (r : Run × PipelineResult) : Prop :=
  Running pipes jobID 12 r.1 ∧ r.2.step = 1 ∧ r.2.success

/-- A run, or the rest of one, with the gates `passes` ahead. -/
def Outcome (pipes : String → Option ActivePipelineResponse) (jobID : String) (passes : Prop)
    (r : Run × PipelineResult) : Prop :=
  passes ∧ Published pipes jobID r ∨ ¬passes ∧ Stopped pipes jobID r

lemma Outcome.running {pipes : String → Option ActivePipelineResponse} {jobID : String} {passes : Prop}
    {r : Run × PipelineResult} (h : Outcome pipes jobID passes r) : ∃ n, Running pipes jobID n r.1 := by
  obtain ⟨-, hpublished⟩ | ⟨-, hstopped⟩ := h
  · exact ⟨12, hpublished.1⟩
  · exact ⟨r.2.step, hstopped.1⟩

/-! ## The steps -/

lemma pipelineStepLabel_mono {n m : ℕ} (h : n ≤ m) : (pipelineStepLabel n).rank ≤ (pipelineStepLabel m).rank := by
  unfold pipelineStepLabel
  split_ifs <;> first | omega | decide

lemma pipelineProgress_mono {n m : ℕ} (h : n ≤ m) : pipelineProgress n ≤ pipelineProgress m := by
  unfold pipelineProgress
  split_ifs <;> omega

lemma pipelineProgress_le (n : ℕ) : pipelineProgress n ≤ 100 := by
  unfold pipelineProgress
  split_ifs <;> omega

lemma pairwise_snoc {α : Type} {f : α → ℕ} {l : List α} {a : α} (h : l.Pairwise (fun p q => f p ≤ f q))
    (ha : ∀ p ∈ l, f p ≤ f a) : (l ++ [a]).Pairwise (fun p q => f p ≤ f q) := by
  refine List.pairwise_append.mpr ⟨h, List.pairwise_singleton _ _, fun p hp q hq => ?_⟩
  rw [List.mem_singleton.mp hq]
  exact ha p hp

section Steps

variable {pipes : String → Option ActivePipelineResponse} {jobID : String} {n m : ℕ} {w : Run}

/-- Of a run, `Running` reads only the job's states and the step. -/
lemma Running.congr {w' : Run} (h : Running pipes jobID n w) (hpipes : w'.pipes = w.pipes)
    (hobserved : w'.observed = w.observed) (hreached : w'.reached = w.reached) : Running pipes jobID n w' := by
  obtain ⟨current, active, stage_le, progress_le, stages, progress, reached, others⟩ := h
  rw [← hpipes, ← hobserved] at current
  rw [← hobserved] at active stage_le progress_le stages progress
  rw [← hpipes] at others
  exact ⟨current, active, stage_le, progress_le, stages, progress, hreached.trans reached, others⟩

lemma Running.emit (h : Running pipes jobID n w) (effect : Effect) : Running pipes jobID n (w.emit effect) :=
  h.congr rfl rfl rfl

lemma running_beginPipeline (job : Job) (startedAt : String) (pipes : String → Option ActivePipelineResponse) :
    Running pipes job.jobID 1 (beginPipeline job startedAt (start pipes)) := by
  refine ⟨⟨_, Function.update_self .., List.mem_singleton_self _, rfl⟩, ?_, ?_, ?_,
    List.pairwise_singleton _ _, List.pairwise_singleton _ _, rfl, fun j hj => Function.update_of_ne hj ..⟩
  · intro p hp
    rw [List.mem_singleton.mp hp]
    exact Bool.false_ne_true
  · intro p hp
    rw [List.mem_singleton.mp hp]
  · intro p hp
    rw [List.mem_singleton.mp hp]
    show 5 ≤ 10
    omega

lemma Running.broadcast (h : Running pipes jobID n w) (hnm : n ≤ m) (message : String) :
    Running pipes jobID m (broadcast jobID m message w) := by
  obtain ⟨item, hitem, -, -⟩ := h.current
  have hupdate : updatePipeline jobID m message w = w.set jobID { item with
      status := .processing
      currentStep := pipelineStepLabel m
      progress := pipelineProgress m
      message := message } := by
    simp only [updatePipeline, hitem]
  have hstage : ∀ p ∈ w.observed, p.currentStep.rank ≤ (pipelineStepLabel m).rank :=
    fun p hp => (h.stage_le p hp).trans (pipelineStepLabel_mono hnm)
  have hprogress : ∀ p ∈ w.observed, p.progress ≤ pipelineProgress m :=
    fun p hp => (h.progress_le p hp).trans (pipelineProgress_mono hnm)
  unfold Pipeline.broadcast
  rw [hupdate]
  refine ⟨⟨_, Function.update_self .., List.mem_append_right _ (List.mem_singleton_self _), rfl⟩, ?_, ?_, ?_,
    pairwise_snoc h.stages hstage, pairwise_snoc h.progress hprogress, rfl,
    fun j hj => (Function.update_of_ne hj ..).trans (h.others j hj)⟩
  · intro p hp
    obtain hp | hp := List.mem_append.mp hp
    · exact h.active p hp
    · rw [List.mem_singleton.mp hp]
      exact Bool.false_ne_true
  · intro p hp
    obtain hp | hp := List.mem_append.mp hp
    · exact hstage p hp
    · rw [List.mem_singleton.mp hp]
  · intro p hp
    obtain hp | hp := List.mem_append.mp hp
    · exact hprogress p hp
    · rw [List.mem_singleton.mp hp]

/-- The fetch's second step has no broadcast of its own. -/
lemma Running.fetched (h : Running pipes jobID 3 w) : Running pipes jobID 4 { w with reached := 4 } :=
  ⟨h.current, h.active, h.stage_le, h.progress_le, h.stages, h.progress, rfl, h.others⟩

lemma Running.updateHistory (h : Running pipes jobID n w) (env : Externals) (result : PipelineResult) :
    Running pipes jobID n (updateHistory env result w) := by
  unfold Pipeline.updateHistory
  dsimp only
  split
  · exact h.congr rfl rfl rfl
  · exact h

lemma Running.updateCrawlMetadata (h : Running pipes jobID n w) (env : Externals) :
    Running pipes jobID n (updateCrawlMetadata env w) := by
  unfold Pipeline.updateCrawlMetadata
  split
  · exact h.congr rfl rfl rfl
  · exact h

lemma Running.publishResult (h : Running pipes jobID n w) (env : Externals) (job : Job) (result : PipelineResult) :
    Running pipes jobID n (publishResult env job result w) := by
  unfold Pipeline.publishResult
  dsimp only
  split
  · exact h.emit _
  · exact h

@[simp] lemma history_broadcast (step : ℕ) (message : String) :
    (broadcast jobID step message w).history = w.history := by
  unfold broadcast updatePipeline
  split <;> rfl

@[simp] lemma history_finishPipeline (result : PipelineResult) :
    (finishPipeline jobID result w).history = w.history := by
  unfold finishPipeline
  dsimp only
  split
  · rfl
  · split <;> rfl

/-- Nothing is recorded before the run ends. -/
def Unrecorded (w : Run) : Prop := ∀ h ∈ w.history, h.step = 0

lemma unrecorded_createCrawlHistory (env : Externals) (job : Job) : Unrecorded (createCrawlHistory env job w) := by
  intro h hh
  unfold createCrawlHistory at hh
  dsimp only at hh
  split at hh
  · rw [← Option.some.inj hh]
  · cases hh

lemma Unrecorded.broadcast (h : Unrecorded w) (step : ℕ) (message : String) :
    Unrecorded (broadcast jobID step message w) := by
  intro record hrecord
  rw [history_broadcast] at hrecord
  exact h record hrecord

lemma recordedStep_updateHistory (h : Unrecorded w) (env : Externals) (result : PipelineResult) :
    RecordedStep result.step (updateHistory env result w) := by
  intro record hrecord hstep
  unfold updateHistory at hrecord
  dsimp only at hrecord
  split at hrecord
  · obtain ⟨before, -, rfl⟩ := Option.mem_map.mp hrecord
    rfl
  · exact absurd (h record hrecord) hstep

lemma stopped_updateHistory (env : Externals) {result : PipelineResult} (h : Running pipes jobID result.step w)
    (hhistory : Unrecorded w) (hresult : ¬result.success) : Stopped pipes jobID (updateHistory env result w, result) :=
  ⟨h.updateHistory env result, recordedStep_updateHistory hhistory env result, hresult⟩

lemma Stopped.emit {result : PipelineResult} (h : Stopped pipes jobID (w, result)) (effect : Effect) :
    Stopped pipes jobID (w.emit effect, result) :=
  ⟨h.1.emit effect, h.2.1, h.2.2⟩

lemma Stopped.publishResult {result : PipelineResult} (h : Stopped pipes jobID (w, result)) (env : Externals)
    (job : Job) (event : PipelineResult) : Stopped pipes jobID (publishResult env job event w, result) := by
  unfold Pipeline.publishResult
  dsimp only
  split
  · exact h.emit _
  · exact h

end Steps

/-! ## The gates -/

section Gates

variable {pipes : String → Option ActivePipelineResponse} (env : Externals) {job : Job} (domain : String)
  {result : PipelineResult} {w : Run}

/-- Steps 7 to 12 have no gate. -/
lemma published_publishContent (h : Running pipes job.jobID 6 w) (hresult : result.step = 1) :
    Published pipes job.jobID (publishContent env job domain result w) := by
  have h8 := (h.broadcast (m := 7) (by omega) "Extracting metadata").broadcast (m := 8) (by omega) "Analyzing content"
  have h10 := (h8.broadcast (m := 10) (by omega) "Saving to database").updateCrawlMetadata env
  have hprint := h10.emit (.storeFingerprint job.url env.page.simHash env.page.contentHash)
  unfold publishContent
  dsimp only
  refine ⟨Running.publishResult (Running.updateHistory ?_ _ _) _ _ _, hresult, rfl⟩
  refine Running.broadcast (n := 10) (Running.emit ?_ _) (by omega) _
  split
  · exact hprint.emit _
  · exact hprint

lemma checkContent_outcome (h : Running pipes job.jobID 4 w) (hhistory : Unrecorded w) (hresult : result.step = 1)
    (hopen : ¬result.success) :
    Outcome pipes job.jobID (¬env.page.score < publishThreshold ∧ ¬env.isDup)
      (checkContent env job domain result w) := by
  have h5 := h.broadcast (m := 5) (by omega) "Scoring content quality"
  have hhistory5 : Unrecorded (broadcast job.jobID 5 "Scoring content quality" w) := hhistory.broadcast _ _
  unfold checkContent
  dsimp only
  by_cases hscore : env.page.score < publishThreshold
  · rw [if_pos hscore]
    exact .inr ⟨fun hpass => hpass.1 hscore, stopped_updateHistory env h5 hhistory5 hopen⟩
  rw [if_neg hscore]
  have h6 := h5.broadcast (m := 6) (by omega) "Checking for duplicates"
  by_cases hdup : env.isDup
  · rw [if_pos hdup]
    exact .inr ⟨fun hpass => hpass.2 hdup, stopped_updateHistory env h6 (hhistory5.broadcast _ _) hopen⟩
  · rw [if_neg hdup]
    exact .inl ⟨⟨hscore, hdup⟩, published_publishContent env domain h6 hresult⟩

lemma fetchContent_outcome (h : Running pipes job.jobID 2 w) (hhistory : Unrecorded w) (hresult : result.step = 1)
    (hopen : ¬result.success) :
    Outcome pipes job.jobID
      (env.fetchResult.error = none ∧ env.fetchResult.statusCode = 200 ∧
        ¬env.page.score < publishThreshold ∧ ¬env.isDup)
      (fetchContent env job domain result w) := by
  have h3 := h.broadcast (m := 3) (by omega) "Fetching content"
  have hhistory3 : Unrecorded (broadcast job.jobID 3 "Fetching content" w) := hhistory.broadcast _ _
  unfold fetchContent
  dsimp only
  cases herror : env.fetchResult.error with
  | some errStr =>
    refine .inr ⟨fun hpass => Option.some_ne_none errStr hpass.1, ?_⟩
    dsimp only
    split
    · exact stopped_updateHistory env h3 hhistory3 hopen
    · exact stopped_updateHistory env (h3.emit _) hhistory3 hopen
  | none =>
    dsimp only
    by_cases hstatus : env.fetchResult.statusCode = 200
    · rw [if_neg (not_not.mpr hstatus)]
      obtain ⟨hpass, hrun⟩ | ⟨hstop, hrun⟩ :=
        checkContent_outcome env domain h3.fetched hhistory3 hresult hopen
      · exact .inl ⟨⟨rfl, hstatus, hpass⟩, hrun⟩
      · exact .inr ⟨fun hpass => hstop hpass.2.2, hrun⟩
    · rw [if_pos hstatus]
      refine .inr ⟨fun hpass => hstatus hpass.2.1, Stopped.emit ?_ _⟩
      exact stopped_updateHistory env h3.fetched hhistory3 hopen

lemma runSteps_outcome [Library] (h : Running pipes job.jobID 1 w) (hresult : result.step = 1)
    (hopen : ¬result.success) : Outcome pipes job.jobID env.Passes (runSteps env job result w) := by
  have hcreated : Running pipes job.jobID 1 (createCrawlHistory env job w) := h.congr rfl rfl rfl
  have h1 := (hcreated.broadcast le_rfl "Creating crawl record").broadcast le_rfl "Checking blacklist"
  have hhistory1 : Unrecorded (broadcast job.jobID 1 "Checking blacklist"
      (broadcast job.jobID 1 "Creating crawl record" (createCrawlHistory env job w))) :=
    ((unrecorded_createCrawlHistory env job).broadcast _ _).broadcast _ _
  unfold runSteps
  dsimp only
  by_cases hblocked : env.blocked
  · rw [if_pos hblocked]
    refine .inr ⟨fun hpass => hpass.unblocked hblocked, Stopped.publishResult ?_ _ _ _⟩
    exact stopped_updateHistory env h1 hhistory1 hopen
  rw [if_neg hblocked]
  cases hparsed : env.parsedURL with
  | error err =>
    refine .inr ⟨fun hpass => ?_, stopped_updateHistory env h1 hhistory1 hopen⟩
    obtain ⟨hostname, hok⟩ := hpass.parsed
    rw [hparsed] at hok
    cases hok
  | ok hostname =>
    dsimp only
    have h2 := h1.broadcast (m := 2) (by omega) "Checking domain reputation"
    by_cases hskip : env.skip
    · rw [if_pos hskip]
      exact .inr ⟨fun hpass => hpass.reputable hskip, stopped_updateHistory env h2 (hhistory1.broadcast _ _) hopen⟩
    · rw [if_neg hskip]
      obtain ⟨⟨hfetched, hstatus, hscore, hdup⟩, hrun⟩ | ⟨hstop, hrun⟩ :=
        fetchContent_outcome env (toLower hostname) h2 (hhistory1.broadcast _ _) hresult hopen
      · exact .inl ⟨⟨hblocked, ⟨hostname, hparsed⟩, hskip, hfetched, hstatus, hscore, hdup⟩, hrun⟩
      · exact .inr ⟨fun hpass => hstop ⟨hpass.fetched, hpass.statusOK, hpass.score, hpass.fresh⟩, hrun⟩

end Gates

/-! ## The whole run -/

section Finish

variable {pipes : String → Option ActivePipelineResponse} {jobID : String} {w : Run} {result : PipelineResult}

/-- The last state shows the result: its step's stage, the whole progress and a terminal status. -/
lemma observed_finishPipeline {n : ℕ} (h : Running pipes jobID n w) (result : PipelineResult) :
    ∃ last, (finishPipeline jobID result w).observed = w.observed ++ [last] ∧
      last.currentStep = pipelineStepLabel result.step ∧ last.progress = 100 ∧
      last.status = if result.success then .completed else .failed := by
  obtain ⟨item, hitem, -, -⟩ := h.current
  simp only [finishPipeline, hitem]
  cases result.success
  · exact ⟨_, rfl, rfl, rfl, rfl⟩
  · exact ⟨_, rfl, rfl, rfl, rfl⟩

@[simp] lemma reached_finishPipeline (result : PipelineResult) :
    (finishPipeline jobID result w).reached = w.reached := by
  unfold finishPipeline
  dsimp only
  split
  · rfl
  · split <;> rfl

lemma terminal_finishPipeline {n : ℕ} (h : Running pipes jobID n w) (result : PipelineResult) :
    ∃ before last, (finishPipeline jobID result w).observed = before ++ [last] ∧ last.status.terminal ∧
      ∀ p ∈ before, ¬p.status.terminal := by
  obtain ⟨last, hobserved, -, -, hstatus⟩ := observed_finishPipeline h result
  refine ⟨w.observed, last, hobserved, ?_, h.active⟩
  rw [hstatus]
  cases result.success <;> rfl

lemma progress_finishPipeline {n : ℕ} (h : Running pipes jobID n w) (result : PipelineResult) :
    (finishPipeline jobID result w).observed.Pairwise (fun p q => p.progress ≤ q.progress) := by
  obtain ⟨last, hobserved, -, hprogress, -⟩ := observed_finishPipeline h result
  rw [hobserved]
  refine pairwise_snoc h.progress fun p hp => ?_
  rw [hprogress]
  exact (h.progress_le p hp).trans (pipelineProgress_le n)

lemma completed_finishPipeline {n : ℕ} (h : Running pipes jobID n w) (result : PipelineResult) :
    (∃ p ∈ (finishPipeline jobID result w).observed, p.status = .completed) ↔ result.success := by
  obtain ⟨last, hobserved, -, -, hstatus⟩ := observed_finishPipeline h result
  rw [hobserved]
  constructor
  · rintro ⟨p, hp, hcompleted⟩
    obtain hp | hp := List.mem_append.mp hp
    · exact absurd (by rw [hcompleted]; rfl) (h.active p hp)
    · rw [List.mem_singleton.mp hp, hstatus] at hcompleted
      by_contra hfailed
      rw [if_neg hfailed] at hcompleted
      cases hcompleted
  · intro hsuccess
    rw [if_pos hsuccess] at hstatus
    exact ⟨last, List.mem_append_right _ (List.mem_singleton_self _), hstatus⟩

lemma others_finishPipeline {n : ℕ} (h : Running pipes jobID n w) (result : PipelineResult) :
    ∀ j ≠ jobID, (finishPipeline jobID result w).pipes j = pipes j := by
  intro j hj
  obtain ⟨item, hitem, -, -⟩ := h.current
  simp only [finishPipeline, hitem]
  split <;> exact (Function.update_of_ne hj ..).trans (h.others j hj)

lemma orderly_of_stopped (h : Stopped pipes jobID (w, result)) :
    Orderly (finishPipeline jobID result w, result) := by
  obtain ⟨hrun, hrecorded, -⟩ := h
  dsimp only at hrun hrecorded
  refine ⟨?_, progress_finishPipeline hrun result, terminal_finishPipeline hrun result,
    completed_finishPipeline hrun result, ?_⟩
  · obtain ⟨last, hobserved, hstep, -, -⟩ := observed_finishPipeline hrun result
    rw [hobserved]
    exact pairwise_snoc hrun.stages fun p hp => hstep ▸ hrun.stage_le p hp
  · intro record hrecord hstep
    rw [history_finishPipeline] at hrecord
    rw [reached_finishPipeline, hrun.reached]
    exact hrecorded record hrecord hstep

/-- A success shows the last stage and then, from the result's step, the first. -/
lemma not_orderly_of_published (h : Published pipes jobID (w, result)) :
    ¬Orderly (finishPipeline jobID result w, result) := by
  intro horderly
  obtain ⟨hrun, hstep, -⟩ := h
  dsimp only at hrun hstep
  obtain ⟨last, hobserved, hlast, -, -⟩ := observed_finishPipeline hrun result
  obtain ⟨item, -, hitem, hpublish⟩ := hrun.current
  have hstages := horderly.stages
  dsimp only at hstages
  rw [hobserved] at hstages
  have hbackwards := (List.pairwise_append.mp hstages).2.2 item hitem last (List.mem_singleton_self _)
  rw [hpublish, hlast, hstep] at hbackwards
  exact absurd hbackwards (by decide)

end Finish

section Runs

variable [Library] (env : Externals) (job : Job) (pipes : String → Option ActivePipelineResponse)

/-- A run is what its steps leave, finished with their result. -/
lemma runPipeline_outcome : ∃ r, runPipeline env job (start pipes) = (finishPipeline job.jobID r.2 r.1, r.2) ∧
    Outcome pipes job.jobID env.Passes r := by
  have hresult : ∃ result : PipelineResult, result.step = 1 ∧ ¬result.success ∧
      runPipeline env job (start pipes) =
        let r := runSteps env job result (beginPipeline job env.startedAt (start pipes))
        (finishPipeline job.jobID r.2 r.1, r.2) := ⟨_, rfl, Bool.false_ne_true, rfl⟩
  obtain ⟨result, hstep, hopen, hrun⟩ := hresult
  exact ⟨_, hrun, runSteps_outcome env (running_beginPipeline job env.startedAt pipes) hstep hopen⟩

/-- Whatever its gates, a run's progress never moves backwards, and it ends in one terminal status, which is
`COMPLETED` exactly for a success. Other jobs are left alone. -/
theorem runPipeline_finishes :
    let r := runPipeline env job (start pipes)
    r.1.observed.Pairwise (fun p q => p.progress ≤ q.progress) ∧
      (∃ before last, r.1.observed = before ++ [last] ∧ last.status.terminal ∧ ∀ p ∈ before, ¬p.status.terminal) ∧
      ((∃ p ∈ r.1.observed, p.status = .completed) ↔ r.2.success) ∧
      ∀ j ≠ job.jobID, r.1.pipes j = pipes j := by
  obtain ⟨r, hrun, houtcome⟩ := runPipeline_outcome env job pipes
  obtain ⟨n, hrunning⟩ := houtcome.running
  rw [hrun]
  exact ⟨progress_finishPipeline hrunning r.2, terminal_finishPipeline hrunning r.2,
    completed_finishPipeline hrunning r.2, others_finishPipeline hrunning r.2⟩

/-- A run is orderly exactly if a gate stops it. -/
theorem orderly_iff : Orderly (runPipeline env job (start pipes)) ↔ ¬env.Passes := by
  obtain ⟨r, hrun, ⟨hpass, hpublished⟩ | ⟨hstop, hstopped⟩⟩ := runPipeline_outcome env job pipes
  · rw [hrun]
    exact iff_of_false (not_orderly_of_published hpublished) (not_not.mpr hpass)
  · rw [hrun]
    exact iff_of_true (orderly_of_stopped hstopped) hstop

end Runs

section Sample

def Sample.job : Job := ⟨"https://example.org/post", "", "job-1"⟩

/-- A fetched page that passes every gate. -/
def Sample.externals : Externals where
  startedAt := "2025-01-01T00:00:00Z"
  historyID := "1"
  historyCreated := true
  blocked := false
  parsedURL := .ok "example.org"
  skip := false
  fetchResult := ⟨none, 200, 4096, 120⟩
  page := ⟨⟨80⟩, "A post", "", [], "en", "", 0⟩
  isDup := false
  metadataSaved := true
  statusSaved := true
  eventBus := true
  elapsed := 250

attribute [local instance] asciiLibrary

/-- The job shows `PUBLISH` and then `DISCOVER`, and the record has step 1 of 12. -/
theorem success_moves_backwards :
    ¬∀ (env : Externals) (job : Job) (pipes : String → Option ActivePipelineResponse),
      Orderly (runPipeline env job (start pipes)) := by
  intro h
  have hscore : ¬Sample.externals.page.score < publishThreshold := by
    show ¬(80 : ℚ) < 70
    norm_num
  have hpass : Sample.externals.Passes :=
    ⟨Bool.false_ne_true, ⟨_, rfl⟩, Bool.false_ne_true, rfl, rfl, hscore, Bool.false_ne_true⟩
  obtain ⟨r, hrun, ⟨-, hpublished⟩ | ⟨hstop, -⟩⟩ := runPipeline_outcome Sample.externals Sample.job fun _ => none
  · have horderly := h Sample.externals Sample.job fun _ => none
    rw [hrun] at horderly
    exact not_orderly_of_published hpublished horderly
  · exact hstop hpass

end Sample

end ErgGo.Crawler.Pipeline
