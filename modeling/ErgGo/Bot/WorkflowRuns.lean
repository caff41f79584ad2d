import ErgGo.Bot.Workflow
import ErgGo.Lib.Runs

/-!
# The life cycle of executions

Runs of the engine in which the look-ups find the execution a call names. `PauseWorkflow` and
`ResumeWorkflow` look at the status of an execution, `ExecuteNextStep` and `CancelWorkflow` do
not, and no call looks at the names of the steps it moves to.
-/

namespace ErgGo.Bot
open Go Documents Bson Lms Runs

/-- Look-ups that find the execution. -/
def hexMatches (execID : String) (id : ObjectID) : Bool := id.hex = execID

def Names (e : StoredExecution) (name : String) : Prop := ∃ step ∈ e.steps, step.name = name

instance (e : StoredExecution) (name : String) : Decidable (Names e name) :=
  inferInstanceAs (Decidable (∃ step ∈ e.steps, step.name = name))

def advanceTarget (step : WorkflowStep) (next : String) : Option String :=
  if next = "" ∨ next = step.onComplete then none else some next

/-- Where the step, run on `data`, leads. -/
def stepTarget (env : WorkflowEnv) (e : StoredExecution) (step : WorkflowStep) (data : WorkflowData) : Option String :=
  match env.handlers step.type with
  | none => advanceTarget step step.onSuccess
  | some handler =>
    if (handler step data).err.isNone then advanceTarget step (handler step data).nextStep
    else if e.retryCount + 1 ≤ e.maxRetries then some (if step.onFail = "" then step.name else step.onFail)
    else none

/-- The step that `ExecuteNextStep` makes the current one, if it does not end the execution. -/
def moveTarget (env : WorkflowEnv) (e : StoredExecution) (stepInput : List (String × JsonValue)) : Option String := do
  let data ← mergeInput e.data.get? stepInput
  let step ← e.steps.find? (fun step => step.name = e.currentStep)
  stepTarget env e step data

structure WorkflowConfig where
  executions : Executions
  /-- The executions that were paused or failed and have not been resumed since. -/
  suspended : List ObjectID

/-- The execution that a call has resumed. -/
def resumedBy (call : WorkflowCall) (reply : Except EngineFailure (Option (WorkflowExecution WorkflowData))) : Option ObjectID :=
  match call, reply with
  | .resume _, .ok (some exec) => some exec.id
  | _, _ => none

def performed (c : WorkflowConfig) (call : WorkflowEnv × WorkflowCall) :
    EngineResult (Option (WorkflowExecution WorkflowData)) :=
  perform hexMatches call.1 call.2 c.executions

def workflowStep (c : WorkflowConfig) (call : WorkflowEnv × WorkflowCall) : WorkflowConfig :=
  let r := performed c call
  ⟨r.store, c.suspended.filter (fun id => resumedBy call.2 r.reply ≠ some id) ++
    (r.store.docs.filter (fun e => e.status = .paused ∨ e.status = .failed)).map (·.id)⟩

def noWorkflows : WorkflowConfig := ⟨.empty, []⟩

/-- What the life cycle asks of one call. -/
structure LifeCycle (c : WorkflowConfig) (call : WorkflowEnv × WorkflowCall) : Prop where
  /-- A completed or cancelled execution keeps its status. -/
  final : ∀ id e, c.executions.lookup id = some e → e.status = .completed ∨ e.status = .cancelled →
    ((performed c call).store.lookup id).map (·.status) = some e.status
  /-- No handler runs for an execution that is paused or failed and not resumed. -/
  suspended : ∀ id, (performed c call).ran = some id → id ∉ c.suspended
  /-- The current step of a running execution is one of its steps. -/
  current : ∀ id e, (performed c call).store.lookup id = some e → e.status = .running → Names e e.currentStep

/-- Steps are executed only of running executions and move on to steps that exist, completed
executions are not cancelled, and a failed execution is resumed only at a step. -/
def Guarded (c : WorkflowConfig) (call : WorkflowEnv × WorkflowCall) : Prop :=
  match call.2 with
  | .execute execID stepInput => ∀ e ∈ c.executions.docs, e.id.hex = execID →
      e.status = .running ∧ ∀ next ∈ moveTarget call.1 e stepInput, Names e next
  | .resume execID => ∀ e ∈ c.executions.docs, e.id.hex = execID → e.status = .failed → Names e e.currentStep
  | .cancel execID => ∀ e ∈ c.executions.docs, e.id.hex = execID → e.status ≠ .completed
  | .start .. | .pause _ | .get _ => True

/-! ## What one call does to an execution -/

/-- How `call` may change an execution it finds. -/
def Moves (env : WorkflowEnv) (call : WorkflowCall) (reply : Except EngineFailure (Option (WorkflowExecution WorkflowData)))
    (e e' : StoredExecution) : Prop :=
  match call with
  | .execute execID stepInput => e.id.hex = execID ∧
      ((e'.status = .running ∨ e'.status = e.status) ∧ moveTarget env e stepInput = some e'.currentStep ∨
        e'.status = .completed ∨ e'.status = .failed)
  | .pause execID => e.id.hex = execID ∧ e.status = .running ∧ e'.status = .paused ∧ e'.currentStep = e.currentStep
  | .resume execID => e.id.hex = execID ∧ (e.status = .paused ∨ e.status = .failed) ∧ e'.status = .running ∧
      e'.currentStep = e.currentStep ∧ resumedBy call reply = some e.id
  | .cancel execID => e.id.hex = execID ∧ e'.status = .cancelled
  | .start .. | .get _ => False

/-- What a call leaves of the execution `id`: the same, an execution moved on, or a new one. -/
inductive Leaves (env : WorkflowEnv) (call : WorkflowCall) (s : Executions) (id : ObjectID) : Prop
  | same (h : (perform hexMatches env call s).store.lookup id = s.lookup id)
  | moved (e e' : StoredExecution) (he : s.lookup id = some e)
      (he' : (perform hexMatches env call s).store.lookup id = some e') (hsteps : e'.steps = e.steps)
      (hmoves : Moves env call (perform hexMatches env call s).reply e e')
  | started (e' : StoredExecution) (he : s.lookup id = none) (he' : (perform hexMatches env call s).store.lookup id = some e')
      (hrunning : e'.status = .running) (hnames : Names e' e'.currentStep)

namespace WorkflowEngine

/-- An update through a filter on the hexadecimal id changes at most that execution. -/
lemma lookup_updateOne_hex {execID : String} {p : StoredExecution → Bool} (hp : ∀ d, p d → d.id.hex = execID)
    (u : Update executionID) (s : Executions) (id : ObjectID) :
    (s.updateOne p u).lookup id = s.lookup id ∨
      ∃ d, s.lookup id = some d ∧ p d ∧ (s.updateOne p u).lookup id = some (u.apply d) := by
  cases hfind : s.find p with
  | none =>
    rw [Collection.updateOne_of_find_eq_none u hfind]
    exact .inl rfl
  | some e =>
    have hpinned : Pinned executionID p e.id := by
      intro d hd
      exact ObjectID.hex_injective ((hp d hd).trans (hp e (List.find?_some hfind)).symm)
    rw [Collection.lookup_updateOne hpinned]
    cases hlookup : s.lookup id with
    | none => exact .inl rfl
    | some d =>
      rw [Option.map_some]
      by_cases hd : id = e.id ∧ p d
      · rw [if_pos hd]
        exact .inr ⟨d, rfl, hd.2, rfl⟩
      · rw [if_neg hd]
        exact .inl rfl

lemma findExecution_eq_ok {env : WorkflowEnv} {context execID : String} {s : Executions} {exec : WorkflowExecution WorkflowData}
    (h : findExecution hexMatches env context execID s = .ok exec) :
    ∃ e : StoredExecution, s.lookup e.id = some e ∧ e.id.hex = execID ∧ exec = e.decode := by
  unfold findExecution at h
  cases henv : env.findError with
  | some text =>
    rw [henv] at h
    cases h
  | none =>
    rw [henv] at h
    dsimp only at h
    cases hfind : s.find (fun d => hexMatches execID d.id) with
    | none =>
      rw [hfind] at h
      cases h
    | some e =>
      rw [hfind, Except.ok.injEq] at h
      have hmem : e ∈ s.docs := List.mem_of_find?_eq_some hfind
      have hmatch := List.find?_some hfind
      exact ⟨e, Collection.lookup_eq_some_iff.mpr ⟨hmem, rfl⟩, of_decide_eq_true hmatch, h.symm⟩

/-- The writes by object id: nothing, or the update of that execution. -/
lemma updateExecution_cases (env : WorkflowEnv) (context : String) (exec : WorkflowExecution WorkflowData)
    (u : Update executionID) (s : Executions) (ran : Option ObjectID) (id : ObjectID) :
    let r := updateExecution env context exec u s ran
    r.store.lookup id = s.lookup id ∨
      id = exec.id ∧ r.reply = .ok exec ∧ r.store.lookup id = (s.lookup id).map u.apply := by
  unfold updateExecution
  cases env.writeError with
  | some e => exact .inl rfl
  | none =>
    dsimp only
    have hpinned : Pinned executionID (fun d => decide (d.id = exec.id)) exec.id := fun d hd => of_decide_eq_true hd
    rw [Collection.lookup_updateOne hpinned]
    by_cases hid : id = exec.id
    · refine .inr ⟨hid, rfl, ?_⟩
      refine Option.map_congr fun d hd => if_pos ⟨hid, decide_eq_true ?_⟩
      rw [← hid]
      exact Collection.key_of_lookup hd
    · refine .inl ?_
      simp [hid]

lemma ran_updateExecution (env : WorkflowEnv) (context : String) (exec : WorkflowExecution WorkflowData)
    (u : Update executionID) (s : Executions) (ran : Option ObjectID) : (updateExecution env context exec u s ran).ran = ran := by
  unfold updateExecution
  cases env.writeError with
  | some e => rfl
  | none => rfl

/-- The writes to the execution `e` that was read. -/
lemma updateExecution_found {e : StoredExecution} {s : Executions} {r : EngineResult (WorkflowExecution WorkflowData)}
    {env : WorkflowEnv} {context : String} {exec : WorkflowExecution WorkflowData} {u : Update executionID}
    {ran : Option ObjectID} (hr : r = updateExecution env context exec u s ran) (he : s.lookup e.id = some e)
    (hexec : exec.id = e.id) (id : ObjectID) :
    r.store.lookup id = s.lookup id ∨ id = e.id ∧ r.reply = .ok exec ∧ r.store.lookup id = some (u.apply e) := by
  rw [hr]
  obtain hsame | ⟨hid, hreply, hwritten⟩ := updateExecution_cases env context exec u s ran id
  · exact .inl hsame
  · rw [hexec] at hid
    refine .inr ⟨hid, hreply, ?_⟩
    rw [hwritten, hid, he]
    rfl

section Outcomes

variable {e : StoredExecution} {s : Executions} (he : s.lookup e.id = some e) {r : EngineResult (WorkflowExecution WorkflowData)}
  {env : WorkflowEnv} {exec : WorkflowExecution WorkflowData} {ran : Option ObjectID}
include he

lemma completeWorkflow_cases (hr : r = completeWorkflow env exec s ran) (hexec : exec.id = e.id) (id : ObjectID) :
    r.store.lookup id = s.lookup id ∨
    id = e.id ∧ ∃ e', r.store.lookup id = some e' ∧ e'.steps = e.steps ∧ e'.status = .completed := by
  have hr : r = updateExecution env _ _ _ s ran := hr
  obtain hsame | ⟨hid, -, hwritten⟩ := updateExecution_found hr he hexec id
  · exact .inl hsame
  · exact .inr ⟨hid, _, hwritten, rfl, rfl⟩

lemma advanceWorkflow_cases {step : WorkflowStep} {output : Option (GoMap JsonValue)} {next : String}
    (hr : r = advanceWorkflow env exec step output next s ran) (hexec : exec.id = e.id) (id : ObjectID) :
    r.store.lookup id = s.lookup id ∨ id = e.id ∧ ∃ e', r.store.lookup id = some e' ∧ e'.steps = e.steps ∧
      (e'.status = .running ∧ advanceTarget step next = some e'.currentStep ∨ e'.status = .completed) := by
  by_cases hend : next = "" ∨ next = step.onComplete
  · have hr : r = completeWorkflow env _ s ran := hr.trans (if_pos hend)
    obtain hsame | ⟨hid, e', hwritten, hsteps, hstatus⟩ := completeWorkflow_cases he hr hexec id
    · exact .inl hsame
    · exact .inr ⟨hid, e', hwritten, hsteps, .inr hstatus⟩
  · have hr : r = updateExecution env _ _ _ s ran := hr.trans (if_neg hend)
    obtain hsame | ⟨hid, -, hwritten⟩ := updateExecution_found hr he hexec id
    · exact .inl hsame
    · exact .inr ⟨hid, _, hwritten, rfl, .inl ⟨rfl, if_neg hend⟩⟩

lemma handleStepFailure_cases {step : WorkflowStep} {stepErr : String}
    (hr : r = handleStepFailure env exec step stepErr s ran) (hexec : exec.id = e.id) (id : ObjectID) :
    r.store.lookup id = s.lookup id ∨ id = e.id ∧ ∃ e', r.store.lookup id = some e' ∧ e'.steps = e.steps ∧
      (e'.status = e.status ∧ exec.retryCount + 1 ≤ exec.maxRetries ∧
          e'.currentStep = (if step.onFail = "" then step.name else step.onFail) ∨
        e'.status = .failed) := by
  by_cases hretry : exec.retryCount + 1 ≤ exec.maxRetries
  · have hr : r = updateExecution env _ _ _ s ran := hr.trans (if_pos hretry)
    obtain hsame | ⟨hid, -, hwritten⟩ := updateExecution_found hr he hexec id
    · exact .inl hsame
    · exact .inr ⟨hid, _, hwritten, rfl, .inl ⟨rfl, hretry, rfl⟩⟩
  · have hr : r = updateExecution env _ _ _ s ran := hr.trans (if_neg hretry)
    obtain hsame | ⟨hid, -, hwritten⟩ := updateExecution_found hr he hexec id
    · exact .inl hsame
    · exact .inr ⟨hid, _, hwritten, rfl, .inr rfl⟩

end Outcomes

/-- What `ExecuteNextStep` does to an execution. -/
lemma executeNextStep_cases (env : WorkflowEnv) (execID : String) (stepInput : List (String × JsonValue)) (s : Executions)
    (id : ObjectID) : let r := executeNextStep hexMatches env execID stepInput s
    r.store.lookup id = s.lookup id ∨ ∃ e e', s.lookup id = some e ∧ e.id.hex = execID ∧ r.store.lookup id = some e' ∧
      e'.steps = e.steps ∧ ((e'.status = .running ∨ e'.status = e.status) ∧ moveTarget env e stepInput = some e'.currentStep ∨
        e'.status = .completed ∨ e'.status = .failed) := by
  intro r
  have hr : r = executeNextStep hexMatches env execID stepInput s := rfl
  unfold executeNextStep at hr
  cases hfind : findExecution hexMatches env "workflow: load execution: " execID s with
  | error e =>
    rw [hr, hfind]
    exact .inl rfl
  | ok exec =>
    obtain ⟨e, he, hhex, rfl⟩ := findExecution_eq_ok hfind
    rw [hfind] at hr
    dsimp only at hr
    cases hdata : mergeInput e.decode.data stepInput with
    | none =>
      rw [hr, hdata]
      exact .inl rfl
    | some data =>
      rw [hdata] at hr
      dsimp only at hr
      cases hstep : e.decode.steps.find? (fun step => step.name = e.decode.currentStep) with
      | none =>
        rw [hr, hstep]
        exact .inl rfl
      | some step =>
        rw [hstep] at hr
        dsimp only at hr
        have htarget : stepTarget env e step data = moveTarget env e stepInput := by
          have hdata' : mergeInput e.data.get? stepInput = some data := hdata
          have hstep' : e.steps.find? (fun step => step.name = e.currentStep) = some step := hstep
          unfold moveTarget
          rw [hdata', hstep']
          rfl
        unfold stepTarget at htarget
        cases hhandler : env.handlers step.type with
        | none =>
          rw [hhandler] at hr htarget
          obtain hsame | ⟨rfl, e', hwritten, hsteps, hstatus⟩ := advanceWorkflow_cases he hr rfl id
          · exact .inl hsame
          · obtain ⟨hrunning, hnext⟩ | hcompleted := hstatus
            · exact .inr ⟨e, e', he, hhex, hwritten, hsteps, .inl ⟨.inl hrunning, htarget.symm.trans hnext⟩⟩
            · exact .inr ⟨e, e', he, hhex, hwritten, hsteps, .inr (.inl hcompleted)⟩
        | some handler =>
          rw [hhandler] at hr htarget
          dsimp only at hr htarget
          cases herr : (handler step data).err with
          | some stepErr =>
            rw [herr] at hr htarget
            rw [if_neg (by simp)] at htarget
            obtain hsame | ⟨rfl, e', hwritten, hsteps, hstatus⟩ := handleStepFailure_cases he hr rfl id
            · exact .inl hsame
            · obtain ⟨hkept, hretry, hcurrent⟩ | hfailed := hstatus
              · have hretry : e.retryCount + 1 ≤ e.maxRetries := hretry
                rw [if_pos hretry, ← hcurrent] at htarget
                exact .inr ⟨e, e', he, hhex, hwritten, hsteps, .inl ⟨.inr hkept, htarget.symm⟩⟩
              · exact .inr ⟨e, e', he, hhex, hwritten, hsteps, .inr (.inr hfailed)⟩
          | none =>
            rw [herr] at hr htarget
            rw [if_pos Option.isNone_none] at htarget
            obtain hsame | ⟨rfl, e', hwritten, hsteps, hstatus⟩ := advanceWorkflow_cases he hr rfl id
            · exact .inl hsame
            · obtain ⟨hrunning, hnext⟩ | hcompleted := hstatus
              · exact .inr ⟨e, e', he, hhex, hwritten, hsteps, .inl ⟨.inl hrunning, htarget.symm.trans hnext⟩⟩
              · exact .inr ⟨e, e', he, hhex, hwritten, hsteps, .inr (.inl hcompleted)⟩

lemma ran_advanceWorkflow (env : WorkflowEnv) (exec : WorkflowExecution WorkflowData) (step : WorkflowStep)
    (output : Option (GoMap JsonValue)) (next : String) (s : Executions) (ran : Option ObjectID) :
    (advanceWorkflow env exec step output next s ran).ran = ran := by
  unfold advanceWorkflow completeWorkflow
  dsimp only
  by_cases hend : next = "" ∨ next = step.onComplete
  · rw [if_pos hend, ran_updateExecution]
  · rw [if_neg hend, ran_updateExecution]

lemma ran_handleStepFailure (env : WorkflowEnv) (exec : WorkflowExecution WorkflowData) (step : WorkflowStep)
    (stepErr : String) (s : Executions) (ran : Option ObjectID) : (handleStepFailure env exec step stepErr s ran).ran = ran := by
  unfold handleStepFailure
  dsimp only
  by_cases hretry : exec.retryCount + 1 ≤ exec.maxRetries
  · rw [if_pos hretry, ran_updateExecution]
  · rw [if_neg hretry, ran_updateExecution]

/-- A handler runs for the execution that the call names. -/
lemma ran_executeNextStep {env : WorkflowEnv} {execID : String} {stepInput : List (String × JsonValue)} {s : Executions}
    {id : ObjectID} (h : (executeNextStep hexMatches env execID stepInput s).ran = some id) :
    ∃ e, s.lookup id = some e ∧ e.id.hex = execID := by
  unfold executeNextStep at h
  cases hfind : findExecution hexMatches env "workflow: load execution: " execID s with
  | error e =>
    rw [hfind] at h
    cases h
  | ok exec =>
    obtain ⟨e, he, hhex, rfl⟩ := findExecution_eq_ok hfind
    have hid : ∀ id, some e.decode.id = some id → ∃ e, s.lookup id = some e ∧ e.id.hex = execID := by
      intro id hid
      rw [← Option.some.inj hid]
      exact ⟨e, he, hhex⟩
    rw [hfind] at h
    dsimp only at h
    split at h
    · cases h
    · split at h
      · cases h
      · split at h
        · rw [ran_advanceWorkflow] at h
          cases h
        · split at h
          · rw [ran_handleStepFailure] at h
            exact hid id h
          · rw [ran_advanceWorkflow] at h
            exact hid id h

lemma resumeWorkflow_cases (env : WorkflowEnv) (execID : String) (s : Executions) (id : ObjectID) :
    let r := resumeWorkflow hexMatches env execID s
    r.store.lookup id = s.lookup id ∨ ∃ e e', s.lookup id = some e ∧ e.id.hex = execID ∧ r.store.lookup id = some e' ∧
      e'.steps = e.steps ∧ (e.status = .paused ∨ e.status = .failed) ∧ e'.status = .running ∧
      e'.currentStep = e.currentStep ∧ ∃ exec, r.reply = .ok exec ∧ exec.id = e.id := by
  intro r
  have hr : r = resumeWorkflow hexMatches env execID s := rfl
  unfold resumeWorkflow at hr
  cases hfind : findExecution hexMatches env "workflow: load execution: " execID s with
  | error e =>
    rw [hr, hfind]
    exact .inl rfl
  | ok exec =>
    obtain ⟨e, he, hhex, rfl⟩ := findExecution_eq_ok hfind
    rw [hfind] at hr
    by_cases hstatus : e.status ≠ .paused ∧ e.status ≠ .failed
    · have hr : r = _ := hr.trans (if_pos hstatus)
      rw [hr]
      exact .inl rfl
    · have hr : r = updateExecution env _ _ _ s none := hr.trans (if_neg hstatus)
      obtain hsame | ⟨rfl, hreply, hwritten⟩ := updateExecution_found hr he rfl id
      · exact .inl hsame
      · have hresumable : e.status = .paused ∨ e.status = .failed := by
          by_contra hneither
          exact hstatus (not_or.mp hneither)
        exact .inr ⟨e, _, he, hhex, hwritten, rfl, hresumable, rfl, rfl, _, hreply, rfl⟩

lemma pauseWorkflow_cases (env : WorkflowEnv) (execID : String) (s : Executions) (id : ObjectID) :
    let r := pauseWorkflow hexMatches env execID s
    r.store.lookup id = s.lookup id ∨ ∃ e e', s.lookup id = some e ∧ e.id.hex = execID ∧ r.store.lookup id = some e' ∧
      e'.steps = e.steps ∧ e.status = .running ∧ e'.status = .paused ∧ e'.currentStep = e.currentStep := by
  intro r
  have hr : r = pauseWorkflow hexMatches env execID s := rfl
  unfold pauseWorkflow at hr
  cases hwrite : env.writeError with
  | some e =>
    rw [hr, hwrite]
    exact .inl rfl
  | none =>
    rw [hwrite] at hr
    dsimp only at hr
    cases hfind : s.find (fun d => hexMatches execID d.id && d.status = .running) with
    | none =>
      rw [hr, hfind]
      exact .inl rfl
    | some _ =>
      rw [hfind] at hr
      have hmatch : ∀ d : StoredExecution, (hexMatches execID d.id && decide (d.status = .running)) →
          d.id.hex = execID ∧ d.status = .running := by
        intro d hd
        rw [Bool.and_eq_true] at hd
        exact ⟨of_decide_eq_true hd.1, of_decide_eq_true hd.2⟩
      rw [hr]
      obtain hsame | ⟨d, hd, hpd, hwritten⟩ := lookup_updateOne_hex (fun d hd => (hmatch d hd).1)
        (setStatus .paused (env.clock 0)) s id
      · exact .inl hsame
      · exact .inr ⟨d, _, hd, (hmatch d hpd).1, hwritten, rfl, (hmatch d hpd).2, rfl, rfl⟩

lemma cancelWorkflow_cases (env : WorkflowEnv) (execID : String) (s : Executions) (id : ObjectID) :
    let r := cancelWorkflow hexMatches env execID s
    r.store.lookup id = s.lookup id ∨ ∃ e e', s.lookup id = some e ∧ e.id.hex = execID ∧ r.store.lookup id = some e' ∧
      e'.steps = e.steps ∧ e'.status = .cancelled := by
  intro r
  have hr : r = cancelWorkflow hexMatches env execID s := rfl
  unfold cancelWorkflow at hr
  cases hwrite : env.writeError with
  | some e =>
    rw [hr, hwrite]
    exact .inl rfl
  | none =>
    rw [hwrite] at hr
    rw [hr]
    obtain hsame | ⟨d, hd, hpd, hwritten⟩ := lookup_updateOne_hex (p := fun d => hexMatches execID d.id)
      (fun d hd => of_decide_eq_true hd) (setStatus .cancelled (env.clock 0)) s id
    · exact .inl hsame
    · exact .inr ⟨d, _, hd, of_decide_eq_true hpd, hwritten, rfl, rfl⟩

lemma startWorkflow_cases (env : WorkflowEnv) (workflowID convID userID : String) (steps : List WorkflowStep)
    (s : Executions) (id : ObjectID) : let r := startWorkflow env workflowID convID userID steps s
    r.ran = none ∧ (r.store.lookup id = s.lookup id ∨ s.lookup id = none ∧ ∃ e', r.store.lookup id = some e' ∧
      e'.status = .running ∧ Names e' e'.currentStep) := by
  intro r
  have hr : r = startWorkflow env workflowID convID userID steps s := rfl
  unfold startWorkflow at hr
  cases steps with
  | nil =>
    rw [hr]
    exact ⟨rfl, .inl rfl⟩
  | cons first rest =>
    dsimp only at hr
    cases hwrite : env.writeError with
    | some e =>
      rw [hr, hwrite]
      exact ⟨rfl, .inl rfl⟩
    | none =>
      rw [hwrite] at hr
      dsimp only at hr
      split at hr
      · rw [hr]
        exact ⟨rfl, .inl rfl⟩
      · next s' hinsert =>
        rw [hr]
        refine ⟨rfl, ?_⟩
        rw [Collection.lookup_insertOne hinsert]
        split_ifs with hid
        · refine .inr ⟨?_, _, rfl, rfl, first, List.mem_cons_self, rfl⟩
          rw [← hid]
          exact Collection.lookup_of_insertOne hinsert
        · exact .inl rfl

end WorkflowEngine

open WorkflowEngine

lemma leaves (env : WorkflowEnv) (call : WorkflowCall) (s : Executions) (id : ObjectID) : Leaves env call s id := by
  cases call with
  | start workflowID convID userID steps =>
    obtain ⟨-, hsame | ⟨hfree, e', he', hrunning, hnames⟩⟩ := startWorkflow_cases env workflowID convID userID steps s id
    · exact .same hsame
    · exact .started e' hfree he' hrunning hnames
  | execute execID stepInput =>
    obtain hsame | ⟨e, e', he, hhex, he', hsteps, hmoves⟩ := executeNextStep_cases env execID stepInput s id
    · exact .same hsame
    · exact .moved e e' he he' hsteps ⟨hhex, hmoves⟩
  | pause execID =>
    obtain hsame | ⟨e, e', he, hhex, he', hsteps, hmoves⟩ := pauseWorkflow_cases env execID s id
    · exact .same hsame
    · exact .moved e e' he he' hsteps ⟨hhex, hmoves⟩
  | resume execID =>
    obtain hsame | ⟨e, e', he, hhex, he', hsteps, hstatus, hrunning, hcurrent, exec, hreply, hid⟩ :=
      resumeWorkflow_cases env execID s id
    · exact .same hsame
    · have hresumed : resumedBy (.resume execID) (perform hexMatches env (.resume execID) s).reply = some e.id := by
        have hperform : (perform hexMatches env (.resume execID) s).reply =
            (resumeWorkflow hexMatches env execID s).reply.map some := rfl
        rw [hperform, hreply, ← hid]
        rfl
      exact .moved e e' he he' hsteps ⟨hhex, hstatus, hrunning, hcurrent, hresumed⟩
  | cancel execID =>
    obtain hsame | ⟨e, e', he, hhex, he', hsteps, hmoves⟩ := cancelWorkflow_cases env execID s id
    · exact .same hsame
    · exact .moved e e' he he' hsteps ⟨hhex, hmoves⟩
  | get execID => exact .same rfl

/-- Handlers run in `ExecuteNextStep` only. -/
lemma ran_perform {env : WorkflowEnv} {call : WorkflowCall} {s : Executions} {id : ObjectID}
    (h : (perform hexMatches env call s).ran = some id) :
    ∃ execID stepInput e, call = .execute execID stepInput ∧ s.lookup id = some e ∧ e.id.hex = execID := by
  have hpause : ∀ execID, (pauseWorkflow hexMatches env execID s).ran = none := by
    intro execID
    unfold pauseWorkflow
    split
    · rfl
    · split
      · rfl
      · rfl
  have hresume : ∀ execID, (resumeWorkflow hexMatches env execID s).ran = none := by
    intro execID
    unfold resumeWorkflow
    split
    · rfl
    · split_ifs
      · rfl
      · exact ran_updateExecution ..
  have hcancel : ∀ execID, (cancelWorkflow hexMatches env execID s).ran = none := by
    intro execID
    unfold cancelWorkflow
    split
    · rfl
    · rfl
  cases call with
  | start workflowID convID userID steps =>
    have hran := (startWorkflow_cases env workflowID convID userID steps s id).1
    cases h.symm.trans hran
  | execute execID stepInput =>
    obtain ⟨e, he, hhex⟩ := ran_executeNextStep h
    exact ⟨execID, stepInput, e, rfl, he, hhex⟩
  | pause execID => cases h.symm.trans (hpause execID)
  | resume execID => cases h.symm.trans (hresume execID)
  | cancel execID => cases h.symm.trans (hcancel execID)
  | get execID => cases h

/-! ## Runs -/

/-- A running or paused execution stands at one of its steps, and what is suspended is not
running. -/
structure InOrder (c : WorkflowConfig) : Prop where
  current : ∀ id e, c.executions.lookup id = some e → e.status = .running ∨ e.status = .paused → Names e e.currentStep
  suspended : ∀ id ∈ c.suspended, ∃ e, c.executions.lookup id = some e ∧ e.status ≠ .running

lemma names_congr {e e' : StoredExecution} (hsteps : e'.steps = e.steps) (name : String) : Names e' name ↔ Names e name := by
  rw [Names, Names, hsteps]

section Step

variable {c : WorkflowConfig} {call : WorkflowEnv × WorkflowCall}

lemma mem_docs {s : Executions} {id : ObjectID} {e : StoredExecution} (he : s.lookup id = some e) : e ∈ s.docs ∧ e.id = id :=
  Collection.lookup_eq_some_iff.mp he

/-- In order, a guarded call lets an execution end up at one of its steps. -/
lemma InOrder.current_step (hc : InOrder c) (hguard : Guarded c call) {id : ObjectID} {e' : StoredExecution}
    (he' : (performed c call).store.lookup id = some e') (hstatus : e'.status = .running ∨ e'.status = .paused) :
    Names e' e'.currentStep := by
  obtain ⟨env, call⟩ := call
  cases leaves env call c.executions id with
  | same h =>
    refine hc.current id e' ?_ hstatus
    rw [← h]
    exact he'
  | started e'' he hlookup hrunning hnames =>
    cases Option.some.inj (he'.symm.trans hlookup)
    exact hnames
  | moved e e'' he hlookup hsteps hmoves =>
    cases Option.some.inj (he'.symm.trans hlookup)
    rw [names_congr hsteps]
    obtain ⟨hmem, rfl⟩ := mem_docs he
    cases call with
    | start => exact hmoves.elim
    | get => exact hmoves.elim
    | execute execID stepInput =>
      obtain ⟨hhex, ⟨-, htarget⟩ | hcompleted | hfailed⟩ := hmoves
      · exact (hguard e hmem hhex).2 _ htarget
      · simp [hcompleted] at hstatus
      · simp [hfailed] at hstatus
    | pause execID =>
      obtain ⟨-, hrunning, -, hcurrent⟩ := hmoves
      rw [hcurrent]
      exact hc.current _ e he (.inl hrunning)
    | resume execID =>
      obtain ⟨hhex, hsuspended, -, hcurrent, -⟩ := hmoves
      rw [hcurrent]
      obtain hpaused | hfailed := hsuspended
      · exact hc.current _ e he (.inr hpaused)
      · exact hguard e hmem hhex hfailed
    | cancel execID =>
      obtain ⟨-, hcancelled⟩ := hmoves
      simp [hcancelled] at hstatus

/-- A guarded call leaves an execution that is not running as it is, unless it resumes it. -/
lemma status_step (hguard : Guarded c call) {id : ObjectID} {e : StoredExecution} (he : c.executions.lookup id = some e)
    (hstatus : e.status ≠ .running) : ∃ e', (performed c call).store.lookup id = some e' ∧
      (e'.status ≠ .running ∨ resumedBy call.2 (performed c call).reply = some id) ∧
      (e.status = .completed ∨ e.status = .cancelled → e'.status = e.status) := by
  obtain ⟨env, call⟩ := call
  cases leaves env call c.executions id with
  | same h => exact ⟨e, h.trans he, .inl hstatus, fun _ => rfl⟩
  | started e' hfree => cases he.symm.trans hfree
  | moved e₀ e' he₀ he' hsteps hmoves =>
    cases Option.some.inj (he.symm.trans he₀)
    obtain ⟨hmem, rfl⟩ := mem_docs he
    refine ⟨e', he', ?_⟩
    cases call with
    | start => exact hmoves.elim
    | get => exact hmoves.elim
    | execute execID stepInput => exact absurd (hguard e hmem hmoves.1).1 hstatus
    | pause execID => exact absurd hmoves.2.1 hstatus
    | resume execID =>
      obtain ⟨hhex, hsuspended, -, -, hresumed⟩ := hmoves
      refine ⟨.inr hresumed, fun hfinal => ?_⟩
      obtain hpaused | hfailed := hsuspended
      · simp [hpaused] at hfinal
      · simp [hfailed] at hfinal
    | cancel execID =>
      obtain ⟨hhex, hcancelled⟩ := hmoves
      refine ⟨.inl (by simp [hcancelled]), fun hfinal => ?_⟩
      obtain hcompleted | hbefore := hfinal
      · exact absurd hcompleted (hguard e hmem hhex)
      · rw [hcancelled, hbefore]

lemma InOrder.step (hc : InOrder c) (hguard : Guarded c call) : InOrder (workflowStep c call) where
  current id e he hstatus := hc.current_step hguard he hstatus
  suspended id hid := by
    obtain hid | hid := List.mem_append.mp hid
    · obtain ⟨hid, hnot⟩ := List.mem_filter.mp hid
      obtain ⟨e, he, hstatus⟩ := hc.suspended id hid
      obtain ⟨e', he', hstatus' | hresumed, -⟩ := status_step hguard he hstatus
      · exact ⟨e', he', hstatus'⟩
      · exact absurd hresumed (of_decide_eq_true hnot)
    · obtain ⟨e, he, rfl⟩ := List.mem_map.mp hid
      obtain ⟨hmem, hstatus⟩ := List.mem_filter.mp he
      refine ⟨e, Collection.lookup_eq_some_iff.mpr ⟨hmem, rfl⟩, fun hrunning => ?_⟩
      simp [hrunning] at hstatus

lemma InOrder.lifeCycle (hc : InOrder c) (hguard : Guarded c call) : LifeCycle c call where
  final id e he hfinal := by
    have hstatus : e.status ≠ .running := by
      obtain h | h := hfinal
      · simp [h]
      · simp [h]
    obtain ⟨e', he', -, hkept⟩ := status_step hguard he hstatus
    rw [he', Option.map_some, hkept hfinal]
  suspended id hran hid := by
    obtain ⟨e, he, hstatus⟩ := hc.suspended id hid
    obtain ⟨execID, stepInput, e', hcall, he', hhex⟩ := ran_perform hran
    cases Option.some.inj (he.symm.trans he')
    unfold Guarded at hguard
    rw [hcall] at hguard
    exact hstatus (hguard e (mem_docs he).1 hhex).1
  current id e he hrunning := hc.current_step hguard he (.inl hrunning)

end Step

/-- In a run of guarded calls every call keeps the life cycle. -/
theorem lifeCycle_throughout {calls : List (WorkflowEnv × WorkflowCall)}
    (hguard : Throughout workflowStep Guarded noWorkflows calls) : Throughout workflowStep LifeCycle noWorkflows calls := by
  have hstart : InOrder noWorkflows := by
    constructor
    · intro id e he
      cases he
    · intro id hid
      cases hid
  exact hguard.of_invariant (fun _ _ hc hcall => hc.step hcall) (fun _ _ hc hcall => hc.lifeCycle hcall) hstart

namespace Sample

def crawlStep : WorkflowStep := { name := "crawl", type := "crawl", onSuccess := "notify" }
def notifyStep : WorkflowStep := { name := "notify", type := "notification" }

def startCall (steps : List WorkflowStep) : WorkflowEnv × WorkflowCall :=
  ({ newID := Lms.Sample.id 1 }, .start "digest" "chat" "user" steps)

def executeCall : WorkflowEnv × WorkflowCall := ({}, .execute (Lms.Sample.id 1).hex [])

def cancelCall : WorkflowEnv × WorkflowCall := ({}, .cancel (Lms.Sample.id 1).hex)

end Sample

section Sample
open Sample

/-- Two steps, each executed while the workflow runs. -/
theorem two_steps_keep_the_life_cycle :
    Throughout workflowStep LifeCycle noWorkflows [startCall [crawlStep, notifyStep], executeCall, executeCall] := by
  refine lifeCycle_throughout ⟨trivial, ?_, ?_, trivial⟩
  · show ∀ e ∈ _, _
    decide
  · show ∀ e ∈ _, _
    decide

/-- A completed workflow is cancelled. -/
theorem completed_workflow_is_cancelled :
    ¬Throughout workflowStep LifeCycle noWorkflows [startCall [notifyStep], executeCall, cancelCall] := by
  rintro ⟨-, -, hcancel, -⟩
  have hkept := hcancel.final (Lms.Sample.id 1) _ rfl (.inl rfl)
  have hstatus : ((performed (workflowStep (workflowStep noWorkflows (startCall [notifyStep])) executeCall)
      cancelCall).store.lookup (Lms.Sample.id 1)).map (·.status) = some .cancelled := by decide
  cases hstatus.symm.trans hkept

end Sample

end ErgGo.Bot
