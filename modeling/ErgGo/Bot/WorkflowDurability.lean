import ErgGo.Bot.Workflow
import ErgGo.Lib.Runs

/-!
# Stored executions

The documents carry their `_id` as an object id, the calls look for a string. Values of
different BSON types are never equal, so no call finds an execution.
-/

namespace ErgGo.Bot
open Go Documents Bson Lms Runs

/-- `{_id: execID}` with a string, where the documents have object ids. -/
def bsonMatches (_execID : String) (_id : ObjectID) : Bool := false

/-- An operation on an execution that has been started. -/
inductive WorkflowOperation where
  | execute (stepInput : List (String × JsonValue))
  | pause
  | resume
  | cancel
  | get

/-- The operation as a call with the id of the execution. -/
def WorkflowOperation.call (execID : String) : WorkflowOperation → WorkflowCall
  | .execute stepInput => .execute execID stepInput
  | .pause => .pause execID
  | .resume => .resume execID
  | .cancel => .cancel execID
  | .get => .get execID

abbrev OperationResult := EngineResult (Option (WorkflowExecution WorkflowData))

def operate (id : ObjectID) (operation : WorkflowEnv × WorkflowOperation) (s : Executions) : OperationResult :=
  perform bsonMatches operation.1 (operation.2.call id.hex) s

/-- The operation finds the document, writes into no nil map and returns what it has stored. -/
structure Durable (id : ObjectID) (s : Executions) (operation : WorkflowEnv × WorkflowOperation) : Prop where
  finds : ∃ d, s.find (fun d => bsonMatches id.hex d.id) = some d
  noNilWrite : (operate id operation s).reply ≠ .error .panic
  stored : ∀ exec, (operate id operation s).reply = .ok (some exec) →
    ((operate id operation s).store.lookup id).map StoredExecution.decode = some exec

def operated (id : ObjectID) (s : Executions) (operation : WorkflowEnv × WorkflowOperation) : Executions :=
  (operate id operation s).store

/-- The execution that `StartWorkflow` returned stays durable through the operations on it. -/
def StartedDurably (started : EngineResult (WorkflowExecution WorkflowData)) (operations : List (WorkflowEnv × WorkflowOperation)) :
    Prop :=
  ∀ exec, started.reply = .ok exec → Throughout (operated exec.id) (Durable exec.id) started.store operations

lemma find_bsonMatches (execID : String) (s : Executions) : s.find (fun d => bsonMatches execID d.id) = none :=
  List.find?_eq_none.mpr (fun _ _ => Bool.false_ne_true)

/-- No operation finds the execution: it is durable as long as there is none. -/
theorem startedDurably_iff (env : WorkflowEnv) (workflowID convID userID : String) (steps : List WorkflowStep)
    (s : Executions) (operations : List (WorkflowEnv × WorkflowOperation)) :
    StartedDurably (WorkflowEngine.startWorkflow env workflowID convID userID steps s) operations ↔
      (∀ exec, (WorkflowEngine.startWorkflow env workflowID convID userID steps s).reply ≠ .ok exec) ∨ operations = [] := by
  constructor
  · intro hdurable
    by_contra hneither
    obtain ⟨hstarted, hoperations⟩ := not_or.mp hneither
    obtain ⟨exec, hexec⟩ := not_forall_not.mp hstarted
    have hthroughout := hdurable exec hexec
    obtain ⟨operation, rest, rfl⟩ := List.exists_cons_of_ne_nil hoperations
    obtain ⟨d, hd⟩ := hthroughout.1.finds
    cases (find_bsonMatches _ _).symm.trans hd
  · rintro (hnone | rfl) exec hexec
    · exact absurd hexec (hnone exec)
    · trivial

section Sample

/-- A workflow of one step is started and its step executed. -/
theorem started_workflow_is_not_found : ¬StartedDurably
    (WorkflowEngine.startWorkflow {} "digest" "chat" "user" [{ name := "notify", type := "notification" }] .empty)
    [({}, .execute [])] := by
  intro hdurable
  obtain ⟨d, hd⟩ := (hdurable _ rfl).1.finds
  cases hd

end Sample

end ErgGo.Bot
