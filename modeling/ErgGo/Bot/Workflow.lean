import ErgGo.Lib.Bson
import ErgGo.Lms.Entities

/-!
# The workflow engine

An execution is a document that every call reads by its id, works on and writes back in part.
How the id of a call is compared with the `_id` of a document is a parameter: the calls carry a
string, the documents an object id.
-/

namespace ErgGo.Bot
open Go Documents Bson Lms

inductive WorkflowStatus where
  | pending
  | running
  | paused
  | completed
  | failed
  | cancelled
  deriving DecidableEq

def WorkflowStatus.text : WorkflowStatus → String
  | .pending => "pending"
  | .running => "running"
  | .paused => "paused"
  | .completed => "completed"
  | .failed => "failed"
  | .cancelled => "cancelled"

structure WorkflowStep where
  name : String
  type : String
  onSuccess : String := ""
  onFail : String := ""
  onTimeout : String := ""
  onComplete : String := ""
  deriving DecidableEq

structure WorkflowStepLog where
  step : String
  status : String
  input : String := ""
  output : String := ""
  error : String := ""
  duration : Time
  executedAt : Time
  deriving DecidableEq

/-- A `map[string]any`, which may be nil. -/
abbrev WorkflowData := Option (GoMap JsonValue)

/-- An execution, with its data as `D` in memory or in the collection. -/
structure WorkflowExecution (D : Type) where
  id : ObjectID
  workflowID : String
  convID : String
  userID : String
  status : WorkflowStatus
  currentStep : String
  steps : List WorkflowStep
  stepHistory : List WorkflowStepLog
  data : D
  retryCount : ℤ
  maxRetries : ℤ
  error : String
  startedAt : Time
  updatedAt : Time
  completedAt : Option Time

abbrev StoredExecution := WorkflowExecution (BsonField (GoMap JsonValue))

def executionID (e : StoredExecution) : ObjectID := e.id

abbrev Executions := Collection executionID

/-- Reading a document: what is missing is nil. -/
def StoredExecution.decode (e : StoredExecution) : WorkflowExecution WorkflowData := { e with data := e.data.get? }

/-- `step_history` with the times of BSON. -/
def storedHistory (history : List WorkflowStepLog) : List WorkflowStepLog :=
  history.map (fun log => { log with executedAt := dateTime log.executedAt })

/-- The document `InsertOne` writes: an empty map is left out. -/
def WorkflowExecution.inserted (e : WorkflowExecution WorkflowData) : StoredExecution where
  id := e.id
  workflowID := e.workflowID
  convID := e.convID
  userID := e.userID
  status := e.status
  currentStep := e.currentStep
  steps := e.steps
  stepHistory := storedHistory e.stepHistory
  data := (e.data.filter (fun m => m.len ≠ 0)).elim .missing .value
  retryCount := e.retryCount
  maxRetries := e.maxRetries
  error := e.error
  startedAt := dateTime e.startedAt
  updatedAt := dateTime e.updatedAt
  completedAt := e.completedAt.map dateTime

/-- What a step handler does: it may change the data it is given. -/
structure HandlerReply where
  data : GoMap JsonValue
  output : Option (GoMap JsonValue) := none
  nextStep : String := ""
  err : Option String := none

/-- What one call meets: a new object id, clock readings, failures, the registered handlers. -/
structure WorkflowEnv where
  newID : ObjectID := .nil
  clock : ℕ → Time := fun _ => 0
  findError : Option String := none
  writeError : Option String := none
  handlers : String → Option (WorkflowStep → WorkflowData → HandlerReply) := fun _ => none

inductive EngineFailure where
  | error (text : String)
  /-- An assignment to a nil map. -/
  | panic
  deriving DecidableEq

def errWorkflowNotFound : EngineFailure := .error "workflow: not found"
def errWorkflowStepNotFound : EngineFailure := .error "workflow: step not found"

/-- What a call returned, the collection it left and the execution it ran a handler for. -/
structure EngineResult (α : Type) where
  reply : Except EngineFailure α
  store : Executions
  ran : Option ObjectID := none

/-- `data[k] = v` for all `kvs`. -/
def mergeInput (data : WorkflowData) (kvs : List (String × JsonValue)) : Option WorkflowData :=
  match data with
  | some m => some (some (m.setAll kvs))
  | none => if kvs = [] then some none else none

/-- `output[key].(string)`, or `""`. -/
def outputString (output : Option (GoMap JsonValue)) (key : String) : String :=
  match output.bind (fun m => m.lookup key) with
  | some (.string s) => s
  | _ => ""

/-! ## What the calls write -/

def setResumed (now : Time) : Update executionID := ⟨fun e => { e with status := .running, updatedAt := dateTime now }, fun _ => rfl⟩

def setAdvanced (exec : WorkflowExecution WorkflowData) (now : Time) : Update executionID where
  apply e := { e with
    currentStep := exec.currentStep
    status := .running
    updatedAt := dateTime now
    data := exec.data.elim .null .value
    stepHistory := storedHistory exec.stepHistory }
  key_apply _ := rfl

def setRetried (exec : WorkflowExecution WorkflowData) (now : Time) : Update executionID where
  apply e := { e with
    currentStep := exec.currentStep
    retryCount := exec.retryCount
    stepHistory := storedHistory exec.stepHistory
    updatedAt := dateTime now }
  key_apply _ := rfl

def setFailed (exec : WorkflowExecution WorkflowData) (now completed : Time) : Update executionID where
  apply e := { e with
    status := .failed
    error := exec.error
    currentStep := exec.currentStep
    retryCount := exec.retryCount
    stepHistory := storedHistory exec.stepHistory
    updatedAt := dateTime now
    completedAt := some (dateTime completed) }
  key_apply _ := rfl

def setCompleted (exec : WorkflowExecution WorkflowData) (now completed : Time) : Update executionID where
  apply e := { e with
    status := .completed
    updatedAt := dateTime now
    completedAt := some (dateTime completed)
    stepHistory := storedHistory exec.stepHistory }
  key_apply _ := rfl

def setStatus (status : WorkflowStatus) (now : Time) : Update executionID :=
  ⟨fun e => { e with status := status, updatedAt := dateTime now }, fun _ => rfl⟩

/-! ## The engine -/

namespace WorkflowEngine

/-- `UpdateOne` by the object id of the execution that was read. -/
def updateExecution (env : WorkflowEnv) (context : String) (exec : WorkflowExecution WorkflowData) (u : Update executionID)
    (s : Executions) (ran : Option ObjectID) : EngineResult (WorkflowExecution WorkflowData) :=
  match env.writeError with
  | some e => ⟨.error (.error (context ++ e)), s, ran⟩
  | none => ⟨.ok exec, s.updateOne (fun d => d.id = exec.id) u, ran⟩

def startWorkflow (env : WorkflowEnv) (workflowID convID userID : String) (steps : List WorkflowStep) (s : Executions) :
    EngineResult (WorkflowExecution WorkflowData) :=
  match steps with
  | [] => ⟨.error (.error "workflow: at least one step is required"), s, none⟩
  | first :: _ =>
    let exec : WorkflowExecution WorkflowData :=
      { id := env.newID, workflowID := workflowID, convID := convID, userID := userID, status := .running,
        currentStep := first.name, steps := steps, stepHistory := [], data := some ∅, retryCount := 0, maxRetries := 3,
        error := "", startedAt := env.clock 0, updatedAt := env.clock 1, completedAt := none }
    match env.writeError with
    | some e => ⟨.error (.error ("workflow: insert execution: " ++ e)), s, none⟩
    | none =>
      match s.insertOne exec.inserted with
      | none => ⟨.error (.error "workflow: insert execution: duplicate key"), s, none⟩
      | some s' => ⟨.ok exec, s', none⟩

def completeWorkflow (env : WorkflowEnv) (exec : WorkflowExecution WorkflowData) (s : Executions) (ran : Option ObjectID) :
    EngineResult (WorkflowExecution WorkflowData) :=
  let exec := { exec with status := .completed, completedAt := some (env.clock 2), updatedAt := env.clock 3 }
  updateExecution env "workflow: complete: " exec (setCompleted exec (env.clock 4) (env.clock 2)) s ran

def handleStepFailure (env : WorkflowEnv) (exec : WorkflowExecution WorkflowData) (step : WorkflowStep) (stepErr : String)
    (s : Executions) (ran : Option ObjectID) : EngineResult (WorkflowExecution WorkflowData) :=
  let log : WorkflowStepLog :=
    { step := step.name, status := "fail", error := stepErr, executedAt := env.clock 0, duration := env.clock 1 - env.clock 0 }
  let exec := { exec with retryCount := exec.retryCount + 1, stepHistory := exec.stepHistory ++ [log] }
  if exec.retryCount ≤ exec.maxRetries then
    let nextStep := if step.onFail = "" then step.name else step.onFail
    let exec := { exec with currentStep := nextStep, updatedAt := env.clock 2 }
    updateExecution env "workflow: retry update: " exec (setRetried exec (env.clock 3)) s ran
  else
    let exec := { exec with status := .failed, error := stepErr, currentStep := step.onTimeout, completedAt := some (env.clock 2),
                            updatedAt := env.clock 3 }
    updateExecution env "workflow: mark failed: " exec (setFailed exec (env.clock 4) (env.clock 2)) s ran

/-- The end of `ExecuteNextStep`, once the step has succeeded. -/
def advanceWorkflow (env : WorkflowEnv) (exec : WorkflowExecution WorkflowData) (step : WorkflowStep)
    (output : Option (GoMap JsonValue)) (nextStep : String) (s : Executions) (ran : Option ObjectID) :
    EngineResult (WorkflowExecution WorkflowData) :=
  let log : WorkflowStepLog :=
    { step := step.name, status := "success", input := outputString output "input", output := outputString output "output",
      executedAt := env.clock 0, duration := env.clock 1 - env.clock 0 }
  let exec := { exec with stepHistory := exec.stepHistory ++ [log] }
  if nextStep = "" ∨ nextStep = step.onComplete then completeWorkflow env exec s ran
  else
    let exec := { exec with currentStep := nextStep, updatedAt := env.clock 2, status := .running }
    updateExecution env "workflow: advance step: " exec (setAdvanced exec (env.clock 3)) s ran

section Lookups

-- how `FindOne` and `UpdateOne` compare the id of a call with the `_id` of a document
variable (matchesID : String → ObjectID → Bool)

def findExecution (env : WorkflowEnv) (context execID : String) (s : Executions) :
    Except EngineFailure (WorkflowExecution WorkflowData) :=
  match env.findError with
  | some e => .error (.error (context ++ e))
  | none =>
    match s.find (fun d => matchesID execID d.id) with
    | none => .error (.error (context ++ "mongo: no documents in result"))
    | some d => .ok d.decode

def resumeWorkflow (env : WorkflowEnv) (execID : String) (s : Executions) : EngineResult (WorkflowExecution WorkflowData) :=
  match findExecution matchesID env "workflow: load execution: " execID s with
  | .error e => ⟨.error e, s, none⟩
  | .ok exec =>
    if exec.status ≠ .paused ∧ exec.status ≠ .failed then
      ⟨.error (.error ("workflow: cannot resume: status is " ++ exec.status.text)), s, none⟩
    else
      updateExecution env "workflow: resume update: " { exec with status := .running, updatedAt := env.clock 0 }
        (setResumed (env.clock 1)) s none

def executeNextStep (env : WorkflowEnv) (execID : String) (stepInput : List (String × JsonValue)) (s : Executions) :
    EngineResult (WorkflowExecution WorkflowData) :=
  match findExecution matchesID env "workflow: load execution: " execID s with
  | .error e => ⟨.error e, s, none⟩
  | .ok exec =>
    match mergeInput exec.data stepInput with
    | none => ⟨.error .panic, s, none⟩
    | some data =>
      match exec.steps.find? (fun step => step.name = exec.currentStep) with
      | none => ⟨.error errWorkflowStepNotFound, s, none⟩
      | some step =>
        match env.handlers step.type with
        | none => advanceWorkflow env { exec with data := data } step none step.onSuccess s none
        | some handler =>
          let reply := handler step data
          -- the handler has been given the map itself
          let exec := { exec with data := data.map (fun _ => reply.data) }
          match reply.err with
          | some stepErr => handleStepFailure env exec step stepErr s (some exec.id)
          | none => advanceWorkflow env exec step reply.output reply.nextStep s (some exec.id)

def pauseWorkflow (env : WorkflowEnv) (execID : String) (s : Executions) : EngineResult Unit :=
  match env.writeError with
  | some e => ⟨.error (.error ("workflow: pause: " ++ e)), s, none⟩
  | none =>
    match s.find (fun d => matchesID execID d.id && d.status = .running) with
    | none => ⟨.error errWorkflowNotFound, s, none⟩
    | some _ => ⟨.ok (), s.updateOne (fun d => matchesID execID d.id && d.status = .running) (setStatus .paused (env.clock 0)), none⟩

def cancelWorkflow (env : WorkflowEnv) (execID : String) (s : Executions) : EngineResult Unit :=
  match env.writeError with
  | some e => ⟨.error (.error e), s, none⟩
  | none => ⟨.ok (), s.updateOne (fun d => matchesID execID d.id) (setStatus .cancelled (env.clock 0)), none⟩

end Lookups

end WorkflowEngine

/-! ## Calls -/

inductive WorkflowCall where
  | start (workflowID convID userID : String) (steps : List WorkflowStep)
  | execute (execID : String) (stepInput : List (String × JsonValue))
  | pause (execID : String)
  | resume (execID : String)
  | cancel (execID : String)
  | get (execID : String)

def EngineResult.map {α β : Type} (f : α → β) (r : EngineResult α) : EngineResult β := ⟨r.reply.map f, r.store, r.ran⟩

/-- The call, with the execution it returned, if it returns one. -/
def perform (matchesID : String → ObjectID → Bool) (env : WorkflowEnv) (call : WorkflowCall) (s : Executions) :
    EngineResult (Option (WorkflowExecution WorkflowData)) :=
  match call with
  | .start workflowID convID userID steps => (WorkflowEngine.startWorkflow env workflowID convID userID steps s).map some
  | .execute execID stepInput => (WorkflowEngine.executeNextStep matchesID env execID stepInput s).map some
  | .pause execID => (WorkflowEngine.pauseWorkflow matchesID env execID s).map (fun _ => none)
  | .resume execID => (WorkflowEngine.resumeWorkflow matchesID env execID s).map some
  | .cancel execID => (WorkflowEngine.cancelWorkflow matchesID env execID s).map (fun _ => none)
  | .get execID => ⟨(WorkflowEngine.findExecution matchesID env "workflow: get: " execID s).map some, s, none⟩

end ErgGo.Bot
