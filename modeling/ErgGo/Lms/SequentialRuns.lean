import ErgGo.Lms.MemoryRepository
import ErgGo.Lms.MongoRepository
import ErgGo.Lms.RuntimeCalls

/-!
# Calls one after another

Runs of calls that do not overlap, on either repository, and the rule by which an
invariant of the records holds in every state they reach.
-/

namespace ErgGo.Lms
open Go Documents Concurrent Program

def Store : Backend → Type
  | .memory => MemoryStore
  | .mongo => MongoStore

variable [Library]

def repository [MongoServer] : (b : Backend) → Repository (Store b)
  | .memory => memoryRepository
  | .mongo => mongoRepository

def Store.roster : (b : Backend) → Store b → Roster
  | .memory => MemoryStore.roster
  | .mongo => MongoStore.roster

/-- The states reached from `s₀` by calls that run one after another; whether a call is
allowed may depend on the records it meets and on whether it succeeds. -/
inductive Reachable {σ : Type} (r : Repository σ) (Allowed : RuntimeCall → Records → Bool → Prop) (s₀ : σ) :
    σ → Prop
  | start : Reachable r Allowed s₀ s₀
  | call {s s' : σ} (call : RuntimeCall) (resp : Except LmsError RuntimeResponse) :
      Reachable r Allowed s₀ s → Allowed call (r.records s) resp.isOk →
      Evaluates r.exec call.program.run s resp s' → Reachable r Allowed s₀ s'

lemma effect_of_evaluates {σ : Type} {r : Repository σ} {call : RuntimeCall} {s s' : σ}
    {resp : Except LmsError RuntimeResponse} (h : Evaluates r.exec call.program.run s resp s') :
    Effect call (r.records s) resp.isOk (r.records s') :=
  (call.effect s).sound h

/-- An invariant of the records kept by every allowed effect holds in every reachable state. -/
theorem Reachable.invariant {σ : Type} {r : Repository σ} {Allowed : RuntimeCall → Records → Bool → Prop}
    {s₀ s : σ} {I : Records → Prop} (h₀ : I (r.records s₀))
    (hstep : ∀ call R ok R', Allowed call R ok → Effect call R ok R' → I R → I R')
    (h : Reachable r Allowed s₀ s) : I (r.records s) := by
  induction h with
  | start => exact h₀
  | call call resp _ hallowed heval ih => exact hstep call _ _ _ hallowed (effect_of_evaluates heval) ih

/-- Runs the calls one after another, as long as they succeed. -/
def Repository.runAll {σ : Type} (r : Repository σ) : List (Env × RuntimeCall) → σ → Option σ
  | [], s => some s
  | (env, call) :: rest, s =>
    match call.program.run.alone r.exec env s with
    | (.ok _, s') => r.runAll rest s'
    | (.error _, _) => none

lemma reachable_runAll {σ : Type} {r : Repository σ} {Allowed : RuntimeCall → Records → Bool → Prop}
    {s₀ s s' : σ} {calls : List (Env × RuntimeCall)} (hrun : r.runAll calls s = some s')
    (hallowed : ∀ call ∈ calls, ∀ R, Allowed call.2 R true) (hs : Reachable r Allowed s₀ s) :
    Reachable r Allowed s₀ s' := by
  induction calls generalizing s with
  | nil =>
    cases hrun
    exact hs
  | cons head rest ih =>
    obtain ⟨env, call⟩ := head
    have heval := evaluates_alone r.exec env call.program.run s
    unfold Repository.runAll at hrun
    generalize call.program.run.alone r.exec env s = outcome at hrun heval
    obtain ⟨resp, s₁⟩ := outcome
    cases resp with
    | error e => cases hrun
    | ok resp =>
      refine ih hrun (fun call' hcall' => hallowed call' (List.mem_cons_of_mem _ hcall')) ?_
      exact hs.call call (.ok resp) (hallowed (env, call) (by simp) _) heval

namespace Sample

/-! A tenant with one assignment of quiz 3 to student 4. -/

def assignment : Assignment :=
  { id := id 1, tenantID := "erg", classID := id 2, quizID := id 3, studentIDs := [id 4], status := "open" }

def roster : Roster := ⟨.empty, .empty, .empty, []⟩

def memoryStore : MemoryStore := ⟨roster, [], [assignment], []⟩

def mongoStore : MongoStore := ⟨roster, .empty, ⟨[assignment], by simp⟩, .empty⟩

/-- Student 4 starts the assignment with a quiz. -/
def start (quiz : ℕ) : RuntimeCall :=
  .startAttempt "erg" ⟨(id 4).hex, []⟩ ⟨(id 1).hex, (id quiz).hex, "package", "hash"⟩

def save (attempt : ℕ) (question : String) (answer : String) : RuntimeCall :=
  .saveAnswer "erg" (id attempt).hex question { answer := .string answer }

def submit (attempt : ℕ) : RuntimeCall := .submitAttempt "erg" (id attempt).hex 0 {}

def sync (attempt : ℕ) (status : String) : RuntimeCall :=
  .syncAttempt "erg" (id attempt).hex { packageHash := "hash", attempt := [("status", .string status)] }

/-- The environment in which the next id is this one. -/
def env (next : ℕ) : Env := ⟨0, id next⟩
end Sample

/-- A synchronisation that passes its checks and writes this status. -/
def RuntimeCall.SyncsStatus (call : RuntimeCall) (R : Records) (status : String) : Prop :=
  ∃ a req, call.syncs R = some (a, req) ∧ Service.syncStatus req a = some status

omit [Library] in
lemma syncStatus_some {req : AttemptSyncRequest} {a : Attempt} {status : String}
    (h : Service.syncStatus req a = some status) : a.status ≠ "submitted" := by
  unfold Service.syncStatus at h
  split at h
  · split at h
    · next hcond =>
      simp only [Bool.and_eq_true, decide_eq_true_eq] at hcond
      exact hcond.2
    · cases h
  · cases h

lemma kind_of_syncs {call : RuntimeCall} {R : Records} {a : Attempt} {req : AttemptSyncRequest}
    (h : call.syncs R = some (a, req)) : call.kind = .sync := by
  cases call with
  | syncAttempt tenantID attemptID req => rfl
  | syncAttemptForActor tenantID actor attemptID req => rfl
  | _ => cases h

lemma not_syncsStatus {call : RuntimeCall} {R : Records} {status : String} (h : call.kind ≠ .sync) :
    ¬call.SyncsStatus R status := by
  rintro ⟨a, req, hsyncs, -⟩
  exact h (kind_of_syncs hsyncs)

omit [Library] in
lemma kind_of_starts {call : RuntimeCall} {R : Records} {x : Assignment × ObjectID × ObjectID}
    (h : call.starts R = some x) : call.kind = .start := by
  cases call with
  | startAttempt tenantID actor req => rfl
  | _ => cases h

/-- A successful synchronisation writes what it has checked. -/
lemma effect_sync {call : RuntimeCall} {R R' : Records} {a : Attempt} {req : AttemptSyncRequest}
    (hsyncs : call.syncs R = some (a, req)) (h : Effect call R true R') :
    ∃ tenantID id now, R.getAttempt tenantID id = some a ∧
      R' = R.modifyAttempt tenantID id ((Service.syncUpdate req a).apply now) := by
  have hkind := kind_of_syncs hsyncs
  cases h with
  | assigned _ created hcall => simp [hkind] at hcall
  | resumed assignment tenantID assignmentID quizID studentID active hstarts _ _ =>
    simp [kind_of_starts hstarts] at hkind
  | started created hstarts =>
    obtain ⟨assignment, hchecks, _⟩ := hstarts.checks
    simp [kind_of_starts hchecks] at hkind
  | edited _ tenantID id u now hcall _ => simp [hkind] at hcall
  | synced _ tenantID id a' req' now hsyncs' hget =>
    rw [hsyncs] at hsyncs'
    cases hsyncs'
    exact ⟨tenantID, id, now, hget, rfl⟩
  | alreadySubmitted hcall => simp [hkind] at hcall
  | scored _ tenantID id submittedAt answers now now' a' hcall _ _ => simp [hkind] at hcall

end ErgGo.Lms
