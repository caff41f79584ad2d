import ErgGo.Lms.ConcurrentAttempts

/-!
# What concurrent saves and submissions can rely on

Calls other than synchronisations never touch what is submitted. On this every call can
rely between its own operations, and from it follows what a response says about the store:
an acknowledged answer was written, and every response to a submission is the grading of
the answers that were submitted.
-/

namespace ErgGo.Lms
open Go Documents Concurrent Program

section Saving

variable [Library] [MongoServer]

/-- Stores keep `I`, histories grow, and submitted attempts are frozen. -/
def evolving (I : MongoStore → Prop) : Protocol MongoEnv MongoRequest MongoStore where
  Inv w := I w.1
  Rely w w' := w.2 <+: w'.2 ∧ ∀ id, FrozenAt id w.1 w'.1
  refl w := ⟨List.prefix_rfl, fun id => .refl id w.1⟩
  trans h₁ h₂ := ⟨h₁.1.trans h₂.1, fun id => (h₁.2 id).trans (h₂.2 id)⟩

section Operations

variable {I : MongoStore → Prop} {i : ℕ}

lemma evolving_step {q : MongoRequest} (hq : q.Guarded) (env : MongoEnv) (w : MongoWorld) :
    (evolving I).Rely w ((serve env q w.1).2, w.2 ++ [⟨i, env, q, w.1⟩]) :=
  ⟨List.prefix_append _ _, fun id => frozenAt_serve hq env w.1 id⟩

lemma serve_findAttempt (env : MongoEnv) (tenantID : String) (id : ObjectID) (s : MongoStore) :
    (serve env (.findAttempt tenantID id) s).2 = s ∧
      ∀ found, (serve env (.findAttempt tenantID id) s).1 = .ok found →
        found = s.attempts.find (Attempt.named tenantID id) := by
  obtain ⟨env, fault⟩ := env
  cases fault <;> simp [serve, withFaults, MongoStore.exec]

/-- Reading an attempt returns it as it is stored then. -/
lemma safe_getAttempt (tenantID id : String) (w : MongoWorld) :
    (evolving I).Safe serve i (OnSuccess (fun found w' => I w'.1 ∧ ∃ oid, objectID id = .ok oid ∧
      found = w'.1.attempts.find (Attempt.named tenantID oid)))
      (MongoRepository.getAttempt tenantID id).run w := by
  apply Protocol.Safe.lift_bind
  intro oid hoid w' hI hR env
  have hguarded : (MongoRequest.findAttempt tenantID oid).Guarded := trivial
  obtain ⟨hstore, hreply⟩ := serve_findAttempt env tenantID oid w'.1
  refine ⟨?_, evolving_step hguarded env w', ?_⟩
  · show I (serve env (.findAttempt tenantID oid) w'.1).2
    rw [hstore]
    exact hI
  · cases hfound : (serve env (.findAttempt tenantID oid) w'.1).1 with
    | error e => trivial
    | ok found =>
      refine ⟨?_, oid, hoid, ?_⟩
      · show I (serve env (.findAttempt tenantID oid) w'.1).2
        rw [hstore]
        exact hI
      · show found = (serve env (.findAttempt tenantID oid) w'.1).2.attempts.find _
        rw [hstore]
        exact hreply found hfound

/-- A guarded update: its reply tells whether an attempt matched, and one that did is updated. -/
lemma safe_update {filter : AttemptFilter} {set : AttemptUpdate} {w : MongoWorld}
    (hq : (MongoRequest.updateAttempt filter set).Guarded)
    (hI : ∀ w', I w'.1 → (evolving I).Rely w w' → ∀ env, I (serve env (.updateAttempt filter set) w'.1).2) :
    (evolving I).Safe serve i (OnSuccess (fun matched w'' => ∃ w' env, (evolving I).Rely w w' ∧
      w'' = ((serve env (.updateAttempt filter set) w'.1).2,
        w'.2 ++ [⟨i, env, .updateAttempt filter set, w'.1⟩]) ∧
      matched = (w'.1.attempts.find filter.matches).isSome ∧
      ∀ a, w'.1.attempts.find filter.matches = some a → Applies env filter set w'.1 a))
      (mongo (.updateAttempt filter set)).run w := by
  intro w' hI' hR env
  refine ⟨hI w' hI' hR env, evolving_step hq env w', ?_⟩
  cases hreply : (serve env (.updateAttempt filter set) w'.1).1 with
  | error e => trivial
  | ok matched =>
    refine ⟨w', env, hR, rfl, ?_⟩
    have harrives : env.2 ≠ .lost := by
      rintro hlost
      obtain ⟨env, fault⟩ := env
      obtain rfl : fault = .lost := hlost
      simp [serve, withFaults] at hreply
    have hexec := (withFaults_ok hreply).1
    simp only [MongoStore.exec] at hexec
    obtain ⟨hadmits, h⟩ | ⟨a, -, -, h⟩ := w'.1.updateAttempt_cases env.1 filter set
    · rw [h] at hexec
      refine ⟨(Except.ok.inj hexec).symm, fun a ha => ?_⟩
      obtain ⟨hstored, hmatched⟩ := stored_of_find ha
      exact ⟨hstored, hmatched, harrives, hadmits a ha⟩
    · rw [h] at hexec
      cases hexec

omit [Library] [MongoServer] in
lemma find_named_eq_some {s : MongoStore} {tenantID : String} {id : ObjectID} {a : Attempt} :
    s.attempts.find (Attempt.named tenantID id) = some a ↔
      s.attempts.lookup id = some a ∧ a.tenantID = tenantID := by
  rw [Collection.find_of_pinned (Attempt.pinned_named tenantID id), Option.filter_eq_some_iff]
  refine and_congr_right fun hstored => ?_
  simp [Attempt.named, Collection.key_of_lookup hstored]

/-- A call starts by reading an attempt, which must exist. -/
lemma safe_readAttempt {α : Type} {tenantID id : String} {f : Attempt → Call α}
    {post : α → MongoWorld → Prop} {w : MongoWorld}
    (hf : ∀ a oid w', (evolving I).Rely w w' → I w'.1 → objectID id = .ok oid →
      w'.1.attempts.lookup oid = some a → a.tenantID = tenantID →
      (evolving I).Safe serve i (OnSuccess post) ((f a).run.interp MongoRepository.handle) w') :
    (evolving I).Safe serve i (OnSuccess post)
      ((do f (← required (← repo (.getAttempt tenantID id)))).run.interp MongoRepository.handle) w := by
  apply Protocol.Safe.interp_run_bind
  · rw [run_repo, interp_send]
    exact safe_getAttempt tenantID id w
  · rintro found w' hR ⟨hI, oid, hoid, hfound⟩
    apply Protocol.Safe.interp_lift_bind
    intro a ha
    obtain ⟨hstored, htenant⟩ := find_named_eq_some.mp (hfound.symm.trans (required_ok ha))
    exact hf a oid w' hR hI hoid hstored htenant

/-- The reading that follows an update. -/
def ReadsAfter (w : MongoWorld) (env : MongoEnv) (q : MongoRequest) (tenantID : String) (oid : ObjectID)
    (found : Option Attempt) (w' : MongoWorld) : Prop :=
  (evolving I).Rely ((serve env q w.1).2, w.2 ++ [⟨i, env, q, w.1⟩]) w' ∧ I w'.1 ∧
    found = w'.1.attempts.find (Attempt.named tenantID oid)

omit [Library] [MongoServer] in
lemma matches_unsubmitted {tenantID : String} {id : ObjectID} {s : MongoStore} {a : Attempt}
    (hstored : s.attempts.lookup id = some a) (htenant : a.tenantID = tenantID)
    (hunsubmitted : a.status ≠ "submitted") : (AttemptFilter.mk tenantID id true).matches a := by
  have hid : a.id = id := Collection.key_of_lookup hstored
  simp [AttemptFilter.matches, Attempt.named, hid, htenant, hunsubmitted]

/-- Where an attempt was stored and is unsubmitted after a guarded update, the update found it
unsubmitted. -/
lemma unsubmitted_before {w w₁ w' : MongoWorld} {env : MongoEnv} {q : MongoRequest} {oid : ObjectID}
    {a updated : Attempt} (hq : q.Guarded) (hR : (evolving I).Rely w w₁)
    (hR' : (evolving I).Rely ((serve env q w₁.1).2, w₁.2 ++ [⟨i, env, q, w₁.1⟩]) w')
    (ha : w.1.attempts.lookup oid = some a) (hupdated : w'.1.attempts.lookup oid = some updated)
    (hunsubmitted : updated.status ≠ "submitted") :
    ∃ a₁, w₁.1.attempts.lookup oid = some a₁ ∧ a₁.tenantID = a.tenantID ∧ a₁.status ≠ "submitted" := by
  obtain ⟨a₁, ha₁, htenant, -⟩ := hR.2 oid a ha
  refine ⟨a₁, ha₁, htenant, fun hsubmitted => ?_⟩
  have hafter := ((frozenAt_serve hq env w₁.1 oid).trans (hR'.2 oid)).submitted ⟨a₁, ha₁, hsubmitted⟩
  obtain ⟨a', ha', hsubmitted'⟩ := hafter
  rw [hupdated] at ha'
  cases ha'
  exact hunsubmitted hsubmitted'

end Operations

/-- The thread has returned this response. -/
def Returned (c : Config MongoEnv MongoRequest MongoReply MongoStore (Except LmsError RuntimeResponse))
    (i : ℕ) (resp : RuntimeResponse) : Prop :=
  c.threads[i]? = some (.done (.ok resp))

/-! ## Acknowledged answers -/

/-- The thread has written the answer into the attempt. -/
def Written (i : ℕ) (tenantID attemptID questionID : String) (req : SaveAnswerRequest)
    (history : List MongoEvent) : Prop :=
  ∃ oid field h₁ e h₂ a, objectID attemptID = .ok oid ∧ answerField questionID = .ok field ∧
    history = h₁ ++ e :: h₂ ∧ e.thread = i ∧
    e.req = .updateAttempt ⟨tenantID, oid, true⟩
      { answers := [(field, Service.attemptAnswer questionID req)] } ∧
    Applies e.env ⟨tenantID, oid, true⟩ { answers := [(field, Service.attemptAnswer questionID req)] }
      e.before a

omit [Library] [MongoServer] in
lemma Written.mono {i : ℕ} {tenantID attemptID questionID : String} {req : SaveAnswerRequest}
    {h h' : List MongoEvent} (hextends : h <+: h') (hw : Written i tenantID attemptID questionID req h) :
    Written i tenantID attemptID questionID req h' := by
  obtain ⟨oid, field, h₁, e, h₂, a, hoid, hfield, rfl, hrest⟩ := hw
  obtain ⟨h₃, rfl⟩ := hextends
  exact ⟨oid, field, h₁, e, h₂ ++ h₃, a, hoid, hfield, by simp, hrest⟩

omit [Library] [MongoServer] in
lemma guarded_of_unsubmitted {filter : AttemptFilter} (h : filter.unsubmitted = true) (set : AttemptUpdate) :
    (MongoRequest.updateAttempt filter set).Guarded := .inl h

/-- The repository updates the attempt and reads it again. -/
lemma safe_saveAttemptAnswer {i : ℕ} {tenantID attemptID questionID : String} {answer : AttemptAnswer}
    (w : MongoWorld) :
    (evolving (fun _ => True)).Safe serve i (OnSuccess (fun found w' => ∃ oid field w₁ env,
      objectID attemptID = .ok oid ∧ answerField questionID = .ok field ∧
      (evolving (fun _ => True)).Rely w w₁ ∧
      (∀ a, w₁.1.attempts.find (AttemptFilter.mk tenantID oid true).matches = some a →
        Applies env ⟨tenantID, oid, true⟩ { answers := [(field, answer)] } w₁.1 a) ∧
      ReadsAfter (I := fun _ => True) (i := i) w₁ env
        (.updateAttempt ⟨tenantID, oid, true⟩ { answers := [(field, answer)] }) tenantID oid found w'))
      (MongoRepository.saveAttemptAnswer tenantID attemptID questionID answer).run w := by
  apply Protocol.Safe.lift_bind
  intro field hfield
  apply Protocol.Safe.lift_bind
  intro oid hoid
  apply Protocol.Safe.run_bind (safe_update (guarded_of_unsubmitted rfl _) (fun _ _ _ _ => trivial))
  rintro matched w₁' _ ⟨w₁, env, hR₁, rfl, -, happlies⟩
  refine (safe_getAttempt tenantID attemptID _).mono ?_
  rintro (e | found) w₂ hR₂ hfound
  · trivial
  · obtain ⟨-, oid', hoid', hfound⟩ := hfound
    obtain rfl : oid = oid' := Except.ok.inj (hoid.symm.trans hoid')
    exact ⟨oid, field, w₁, env, hoid, hfield, hR₁, happlies, hR₂, trivial, hfound⟩

/-- A save that succeeds has written its answer. -/
lemma safe_saveAnswer {i : ℕ} {tenantID attemptID questionID : String} {req : SaveAnswerRequest}
    (w : MongoWorld) :
    (evolving (fun _ => True)).Safe serve i
      (OnSuccess (fun _ w' => Written i tenantID attemptID questionID req w'.2))
      ((Service.saveAnswer tenantID attemptID questionID req).run.interp MongoRepository.handle) w := by
  apply Protocol.Safe.interp_lift_bind
  intro _ _
  apply safe_readAttempt
  intro a oid w₁ _ _ hoid ha htenant
  apply Protocol.Safe.interp_lift_bind
  intro _ _
  apply Protocol.Safe.interp_run_bind
  · rw [run_repo, interp_send]
    exact safe_saveAttemptAnswer w₁
  · rintro found w₃ _ ⟨oid', field, w₂, env, hoid', hfield, hR₂, happlies, hR₃, -, hfound⟩
    obtain rfl : oid = oid' := Except.ok.inj (hoid.symm.trans hoid')
    apply Protocol.Safe.interp_lift_bind
    intro updated hupdated
    apply Protocol.Safe.interp_lift_bind
    intro _ hreject
    have hunsubmitted : updated.status ≠ "submitted" := by simpa using rejectIf_ok hreject
    obtain ⟨hstored, -⟩ := find_named_eq_some.mp (hfound.symm.trans (required_ok hupdated))
    obtain ⟨a₂, ha₂, htenant₂, hunsubmitted₂⟩ :=
      unsubmitted_before (guarded_of_unsubmitted rfl _) hR₂ hR₃ ha hstored hunsubmitted
    have hfind := find_of_matches ha₂ (matches_unsubmitted ha₂ (htenant₂.trans htenant) hunsubmitted₂)
    refine Written.mono hR₃.1 ?_
    exact ⟨oid, field, w₂.2, _, [], a₂, hoid, hfield, rfl, rfl, rfl, happlies a₂ hfind⟩

/-- The call saves this answer. -/
def RuntimeCall.SavesAnswer (tenantID attemptID questionID : String) (req : SaveAnswerRequest) :
    RuntimeCall → Prop
  | .saveAnswer t a q r => t = tenantID ∧ a = attemptID ∧ q = questionID ∧ r = req
  | .saveAnswerForActor t _ a q r => t = tenantID ∧ a = attemptID ∧ q = questionID ∧ r = req
  | _ => False

/-- Every call other than a synchronisation keeps to the protocol. -/
lemma safe_operations {i : ℕ} {call : RuntimeCall} (hkind : call.kind ≠ .sync) (w : MongoWorld) :
    (evolving (fun _ => True)).Safe serve i (fun _ _ => True) call.operations w := by
  refine Protocol.Safe.of_allRequests (Q := MongoRequest.Guarded) ?_ ?_ w
  · exact fun q hq w _ env => ⟨trivial, evolving_step hq env w⟩
  · exact call.sendsOperations.mono (fun _ hq => guarded_of_sendsOperation hkind hq)

lemma safe_savesAnswer {i : ℕ} {call : RuntimeCall} {tenantID attemptID questionID : String}
    {req : SaveAnswerRequest} (hcall : call.SavesAnswer tenantID attemptID questionID req) (w : MongoWorld) :
    (evolving (fun _ => True)).Safe serve i
      (OnSuccess (fun _ w' => Written i tenantID attemptID questionID req w'.2)) call.operations w := by
  cases call with
  | saveAnswer t a q r =>
    obtain ⟨rfl, rfl, rfl, rfl⟩ := hcall
    exact Protocol.Safe.interp_run_bind (safe_saveAnswer w) (fun _ _ _ h => h)
  | saveAnswerForActor t actor a q r =>
    obtain ⟨rfl, rfl, rfl, rfl⟩ := hcall
    refine Protocol.Safe.interp_run_bind ?_ (fun _ _ _ h => h)
    apply safe_readAttempt
    intro attempt oid w₁ _ _ _ _ _
    apply Protocol.Safe.interp_lift_bind
    exact fun _ _ => safe_saveAnswer w₁
  | _ => exact hcall.elim

/-- The answer stored for a question of an attempt. -/
def MongoStore.answer (s : MongoStore) (id : ObjectID) (field : String) : Option AttemptAnswer :=
  (s.attempts.lookup id).bind (fun a => a.answers.lookup field)

/-- The event writes an answer under this key. -/
def WritesAnswer (id : ObjectID) (field : String) (e : MongoEvent) : Prop :=
  ∃ filter set a, e.req = .updateAttempt filter set ∧ filter.id = id ∧ Applies e.env filter set e.before a ∧
    field ∈ set.answers.map Prod.fst

lemma answer_event {id : ObjectID} {field : String} {answer : AttemptAnswer} {e : MongoEvent}
    (hwrites : ¬WritesAnswer id field e) (h : e.before.answer id field = some answer) :
    (e.after serve).answer id field = some answer := by
  unfold MongoStore.answer at h ⊢
  obtain ⟨a, ha, hanswer⟩ := Option.bind_eq_some_iff.mp h
  obtain hsame | ⟨filter, set, a', hreq, rfl, happlies, hafter⟩ | ⟨a', -, hnone, -⟩ :=
    lookup_serve e.env e.req e.before id
  · rw [show (e.after serve).attempts.lookup id = _ from hsame]
    exact h
  · obtain rfl : a = a' := Option.some.inj (ha.symm.trans happlies.stored)
    rw [show (e.after serve).attempts.lookup filter.id = _ from hafter, Option.bind_some]
    rw [AttemptUpdate.stored_answers, GoMap.lookup_setAll_of_notMem]
    · exact hanswer
    · rw [List.map_map]
      exact fun hfield => hwrites ⟨filter, set, a, hreq, rfl, happlies, hfield⟩
  · rw [ha] at hnone
    cases hnone

lemma answer_of_written {filter : AttemptFilter} {field : String} {answer : AttemptAnswer} {e : MongoEvent}
    {a : Attempt} (hreq : e.req = .updateAttempt filter { answers := [(field, answer)] })
    (happlies : Applies e.env filter { answers := [(field, answer)] } e.before a) :
    (e.after serve).answer filter.id field = some (answer.kept Bson.dateTime) := by
  have hafter := lookup_serve_applies happlies
  rw [← hreq] at hafter
  unfold MongoStore.answer
  rw [show (e.after serve).attempts.lookup filter.id = _ from hafter, Option.bind_some]
  exact GoMap.lookup_setAll_singleton a.answers field (answer.kept Bson.dateTime)

/-- A written answer stays until a later event writes the same question. -/
lemma answer_stays {id : ObjectID} {field : String} {answer : AttemptAnswer} {s s' : MongoStore}
    {h : List MongoEvent} (hreplays : Replays serve s h s') (hs : s.answer id field = some answer) :
    s'.answer id field = some answer ∨ ∃ e ∈ h, WritesAnswer id field e := by
  by_cases hlater : ∃ e ∈ h, WritesAnswer id field e
  · exact .inr hlater
  · left
    refine hreplays.preserves (I := fun s => s.answer id field = some answer) hs ?_
    exact fun e he hbefore => answer_event (fun hwrites => hlater ⟨e, he, hwrites⟩) hbefore

/-- When a save has returned, its write is in the history. -/
lemma written_of_returned {s : MongoStore} {calls : List RuntimeCall} {schedule : List (Nat × MongoEnv)}
    (hcalls : ∀ call ∈ calls, call.kind ≠ .sync) {i : ℕ} {call : RuntimeCall}
    {tenantID attemptID questionID : String} {req : SaveAnswerRequest} {resp : RuntimeResponse}
    (hcall : calls[i]? = some call) (hsaves : call.SavesAnswer tenantID attemptID questionID req)
    (hreturned : Returned (interleave s calls schedule) i resp) :
    Written i tenantID attemptID questionID req (interleave s calls schedule).history := by
  have hrun := Protocol.safe_run (evolving (fun _ => True)) serve (fun j resp w => j = i →
      OnSuccess (fun _ w' => Written i tenantID attemptID questionID req w'.2) resp w)
    s (calls.map RuntimeCall.operations) trivial ?_ schedule
  · obtain ⟨-, hposts⟩ := hrun
    obtain ⟨w, hR, hw⟩ := hposts i (.ok resp) hreturned
    exact Written.mono hR.1 (hw rfl)
  · intro j p hp
    rw [List.getElem?_map, Option.map_eq_some_iff] at hp
    obtain ⟨call', hcall', rfl⟩ := hp
    by_cases hij : j = i
    · subst hij
      obtain rfl : call = call' := Option.some.inj (hcall.symm.trans hcall')
      exact (safe_savesAnswer hsaves _).mono (fun _ _ _ h _ => h)
    · exact (safe_operations (hcalls call' (List.mem_of_getElem? hcall')) _).mono
        (fun _ _ _ _ h => absurd h hij)

/-- Every acknowledged answer was written, its time in whole milliseconds, and is stored at the end
unless a later event of this kind wrote the same question. -/
def AnswersKept (s : MongoStore) (calls : List RuntimeCall) (schedule : List (Nat × MongoEnv)) (id : ObjectID)
    (Excused : MongoEvent → Prop) : Prop :=
  ∀ i call tenantID attemptID questionID req resp, calls[i]? = some call →
    call.SavesAnswer tenantID attemptID questionID req → objectID attemptID = .ok id →
    Returned (interleave s calls schedule) i (.answer resp) → resp.saved = true →
    ∃ field h₁ e h₂, answerField questionID = .ok field ∧
      (interleave s calls schedule).history = h₁ ++ e :: h₂ ∧ e.thread = i ∧
      (e.after serve).answer id field = some ((Service.attemptAnswer questionID req).kept Bson.dateTime) ∧
      ((interleave s calls schedule).store.answer id field =
          some ((Service.attemptAnswer questionID req).kept Bson.dateTime) ∨
        ∃ e' ∈ h₂, WritesAnswer id field e' ∧ Excused e')

/-- An event of a save. -/
def SavedBy (calls : List RuntimeCall) (e : MongoEvent) : Prop :=
  ∃ call, calls[e.thread]? = some call ∧ call.kind = .save

/-- Only saves and the submission write answers. -/
lemma savedBy_or_submitsAt {calls : List RuntimeCall} {id : ObjectID} {field : String} {e : MongoEvent}
    {call : RuntimeCall} (hthread : calls[e.thread]? = some call)
    (hkind : call.kind = .save ∨ call.kind = .submit) (hsends : call.SendsOperation e.req)
    (hwrites : WritesAnswer id field e) : SavedBy calls e ∨ SubmitsAt id e := by
  obtain hkind | hkind := hkind
  · exact .inl ⟨call, hthread, hkind⟩
  · right
    obtain ⟨filter, set, a, hreq, rfl, happlies, hfield⟩ := hwrites
    rw [hreq] at hsends
    simp only [RuntimeCall.SendsOperation, hkind] at hsends
    obtain ⟨hfilter, submittedAt, answers, rfl⟩ | ⟨answers, rfl⟩ := hsends
    · have hafter := lookup_serve_applies happlies
      rw [← hreq] at hafter
      refine ⟨⟨a, happlies.stored, ?_⟩, _, hafter, rfl⟩
      exact fun hsubmitted => not_matches_submitted hfilter hsubmitted happlies.matched
    · cases hfield

/-- Saves and submissions in any interleaving: one submission at most submits the attempt, what
is submitted is frozen from then on, and an acknowledged answer is in the store until a later
save, or the submission, writes the same question. -/
theorem saves_and_submissions (s : MongoStore) (calls : List RuntimeCall)
    (hcalls : ∀ call ∈ calls, call.kind = .save ∨ call.kind = .submit)
    (schedule : List (Nat × MongoEnv)) (id : ObjectID) :
    (∀ h₁ e h₂, (interleave s calls schedule).history = h₁ ++ e :: h₂ → SubmitsAt id e →
      (∃ call, calls[e.thread]? = some call ∧ call.kind = .submit) ∧
        ∀ e' ∈ h₁ ++ h₂, ¬SubmitsAt id e') ∧
    (∀ h₁ h₂ h₃ s₁ s₂, (interleave s calls schedule).history = h₁ ++ h₂ ++ h₃ → Replays serve s h₁ s₁ →
      Replays serve s₁ h₂ s₂ → FrozenAt id s₁ s₂) ∧
    AnswersKept s calls schedule id (fun e => SavedBy calls e ∨ SubmitsAt id e) := by
  have hsync : ∀ call ∈ calls, call.kind ≠ .sync := by
    intro call hcall
    obtain hkind | hkind := hcalls call hcall <;> simp [hkind]
  have hfrozen := frozenAt_event s schedule hsync id
  have hreplays := interleave_replays s calls schedule
  have hsent := history_calls s calls schedule
  refine ⟨?_, ?_, ?_⟩
  · intro h₁ e h₂ hsplit he
    rw [hsplit] at hreplays hfrozen hsent
    refine ⟨?_, fun e' he' => ?_⟩
    · obtain ⟨call, hthread, hsends⟩ := hsent e (by simp)
      have hmem := List.mem_of_getElem? hthread
      have hstart : call.kind ≠ .start := by
        obtain hkind | hkind := hcalls call hmem <;> simp [hkind]
      exact ⟨call, hthread, kind_of_submitsAt (hsync call hmem) hsends hstart he⟩
    · obtain he' | he' := List.mem_append.mp he'
      · intro hsubmits
        obtain ⟨h₃, h₄, rfl⟩ := List.append_of_mem he'
        rw [List.append_assoc, List.cons_append] at hreplays
        refine submitsAt_unique hreplays ?_ hsubmits e (by simp) he
        exact fun e'' he'' => hfrozen e'' (by simp at he'' ⊢; tauto)
      · exact submitsAt_unique hreplays (fun e'' he'' => hfrozen e'' (by simp [he''])) he e' he'
  · intro h₁ h₂ h₃ s₁ s₂ hsplit _ hs₂
    refine hs₂.preserves (I := fun s => FrozenAt id s₁ s) (.refl id s₁) ?_
    intro e he hbefore
    exact hbefore.trans (hfrozen e (by simp [hsplit, he]))
  · intro i call tenantID attemptID questionID req resp hcall hsaves hid hreturned _
    obtain ⟨oid, field, h₁, e, h₂, a, hoid, hfield, hsplit, hthread, hreq, happlies⟩ :=
      written_of_returned hsync hcall hsaves hreturned
    obtain rfl : id = oid := Except.ok.inj (hid.symm.trans hoid)
    have hanswer := answer_of_written hreq happlies
    rw [hsplit, replays_append] at hreplays
    obtain ⟨s₁, -, -, hrest⟩ := hreplays
    refine ⟨field, h₁, e, h₂, hfield, hsplit, hthread, hanswer, ?_⟩
    obtain hstays | ⟨e', he', hwrites⟩ := answer_stays hrest hanswer
    · exact .inl hstays
    · right
      obtain ⟨call', hthread', hsends⟩ := hsent e' (by simp [hsplit, he'])
      have hkind := hcalls call' (List.mem_of_getElem? hthread')
      exact ⟨e', he', hwrites, savedBy_or_submitsAt hthread' hkind hsends hwrites⟩

end Saving

section Sample

attribute [local instance] asciiLibrary Sample.server

/-- The store in which attempt 5 is in progress. -/
def Sample.startedStore : MongoStore :=
  (interleave Sample.mongoStore [Sample.start 3] (Sample.steps 0 3)).store

/-- A submission takes only object ids as questions. -/
def Sample.question : String := (Sample.id 7).hex

def Sample.submitWith (attempt : ℕ) (question : String) (answer : String) : RuntimeCall :=
  .submitAttempt "erg" (Sample.id attempt).hex 0
    { answers := some (AList.singleton question (.string answer)) }

theorem saves_and_submissions_sample :
    (interleave Sample.startedStore [Sample.save 5 Sample.question "answer", Sample.submit 5]
      (Sample.steps 1 1 ++ Sample.steps 0 3 ++ Sample.steps 1 4)).store.submitted (Sample.id 5) ∧
    AnswersKept Sample.startedStore [Sample.save 5 Sample.question "answer", Sample.submit 5]
      (Sample.steps 1 1 ++ Sample.steps 0 3 ++ Sample.steps 1 4) (Sample.id 5)
      (fun e => SavedBy [Sample.save 5 Sample.question "answer", Sample.submit 5] e ∨
        SubmitsAt (Sample.id 5) e) := by
  constructor
  · rw [submitted_iff_status]
    decide
  · refine (saves_and_submissions _ _ ?_ _ _).2.2
    intro call hcall
    simp only [List.mem_cons, List.not_mem_nil, or_false] at hcall
    obtain rfl | rfl := hcall <;> decide

/-- The thread of an event, whether it updates, and whether the question has an answer after it. -/
def Sample.view (e : MongoEvent) : ℕ × Bool × Bool :=
  (e.thread, (match e.req with | .updateAttempt .. => true | _ => false),
    ((e.after serve).answer (Sample.id 5) Sample.question).isSome)

def Sample.text : JsonValue → Option String
  | .string s => some s
  | _ => none

def Sample.response : Program MongoRequest MongoReply (Except LmsError RuntimeResponse) → Option RuntimeResponse
  | .done (.ok resp) => some resp
  | _ => none

lemma Sample.returned_of_response
    {c : Config MongoEnv MongoRequest MongoReply MongoStore (Except LmsError RuntimeResponse)} {i : ℕ}
    {resp : RuntimeResponse} (h : c.threads[i]?.bind Sample.response = some resp) : Returned c i resp := by
  obtain ⟨p, hthread, hp⟩ := Option.bind_eq_some_iff.mp h
  unfold Sample.response at hp
  split at hp
  · cases hp
    exact hthread
  · cases hp

def Sample.acknowledges : RuntimeResponse → Bool
  | .answer resp => resp.saved
  | _ => false

/-- An answer is saved and acknowledged, and then the submission carries another one. -/
theorem submission_overwrites_answer : ¬AnswersKept Sample.startedStore
    [Sample.save 5 Sample.question "answer", Sample.submitWith 5 Sample.question "other"]
    (Sample.steps 0 3 ++ Sample.steps 1 5) (Sample.id 5)
    (SavedBy [Sample.save 5 Sample.question "answer", Sample.submitWith 5 Sample.question "other"]) := by
  generalize hcalls : [Sample.save 5 Sample.question "answer", Sample.submitWith 5 Sample.question "other"] = calls
  generalize hschedule : Sample.steps 0 3 ++ Sample.steps 1 5 = schedule
  intro hkept
  have hsaved : ((interleave Sample.startedStore calls schedule).threads[0]?.bind Sample.response).map
      Sample.acknowledges = some true := by
    rw [← hcalls, ← hschedule]
    decide
  have hlast : ((interleave Sample.startedStore calls schedule).store.answer (Sample.id 5) Sample.question).map
      (fun a => Sample.text a.answer) = some (some "other") := by
    rw [← hcalls, ← hschedule]
    decide
  have hlater : ((interleave Sample.startedStore calls schedule).history.map Sample.view).Pairwise
      (fun x y => x.2.2 = true → y.2.1 = true → y.1 = 1) := by
    rw [← hcalls, ← hschedule]
    decide
  obtain ⟨resp, hresponse, hsaved⟩ := Option.map_eq_some_iff.mp hsaved
  have hreturned := Sample.returned_of_response hresponse
  obtain ⟨resp, rfl⟩ : ∃ answer, resp = .answer answer := by
    cases resp with
    | answer resp => exact ⟨resp, rfl⟩
    | _ => cases hsaved
  obtain ⟨field, h₁, e, h₂, hfield, hsplit, -, hanswer, hend⟩ := hkept 0 (Sample.save 5 Sample.question "answer")
    _ _ _ _ resp (by rw [← hcalls]; rfl) ⟨rfl, rfl, rfl, rfl⟩ (objectID_hex _) hreturned hsaved
  have hquestion : answerField Sample.question = .ok Sample.question := by decide
  obtain rfl : Sample.question = field := Except.ok.inj (hquestion.symm.trans hfield)
  obtain hend | ⟨e', he', ⟨filter, set, a, hreq, -⟩, call, hthread, hkind⟩ := hend
  · rw [hend] at hlast
    simp [Service.attemptAnswer, AttemptAnswer.kept, Sample.text] at hlast
  · rw [hsplit, List.map_append, List.map_cons, List.pairwise_append, List.pairwise_cons] at hlater
    have hsubmission : e'.thread = 1 := by
      refine hlater.2.1.1 (Sample.view e') (List.mem_map_of_mem he') ?_ ?_
      · simp [Sample.view, hanswer]
      · simp [Sample.view, hreq]
    rw [hsubmission, ← hcalls] at hthread
    cases hthread
    cases hkind

end Sample

/-! ## Responses to submissions -/

section Submitting

variable [Library] [MongoServer]

/-- The response the grading of a number of answers gives. -/
def Service.gradedResult (answers : ℕ) : AttemptSubmitResponse :=
  let (score, percent) := Service.attemptScore answers
  ⟨score, Service.maxScore, percent, percent ≥ 50⟩

/-- The grading fields as `StartAttempt` leaves them. -/
def Attempt.Unscored (a : Attempt) : Prop :=
  a.score = 0 ∧ a.maxScore = 100 ∧ a.percent = 0 ∧ a.passed = false

/-- The grading fields as `UpdateAttemptScore` leaves them. -/
def Attempt.Scored (a : Attempt) : Prop :=
  a.status = "submitted" ∧
    (⟨a.score, a.maxScore, a.percent, a.passed⟩ : AttemptSubmitResponse) = Service.gradedResult a.answers.len

/-- The stored grading is no response to a submission with these or more answers, unless it is their
grading. -/
def Attempt.Ungraded (a : Attempt) : Prop :=
  ∀ answers ≥ a.answers.len, 0 < a.maxScore ∧ (0 < a.score ∨ answers = 0) →
    (⟨a.score, a.maxScore, a.percent, a.passed⟩ : AttemptSubmitResponse) = Service.gradedResult answers

omit [Library] [MongoServer] in
lemma gradedResult_zero : Service.gradedResult 0 = ⟨0, 100, 0, false⟩ := by
  have hmax : ¬(100 : Float64) < 0 := not_lt_of_gt (α := ℚ) (Float64.ofLen_pos (by norm_num : 0 < 100))
  have hpass : ¬(50 : Float64) ≤ 0 := not_le_of_gt (α := ℚ) (Float64.ofLen_pos (by norm_num : 0 < 50))
  simp [Service.gradedResult, Service.attemptScore, Service.maxScore, hmax, hpass]

omit [Library] [MongoServer] in
lemma Attempt.Unscored.ungraded {a : Attempt} (h : a.Unscored) : a.Ungraded := by
  obtain ⟨hscore, hmax, hpercent, hpassed⟩ := h
  have hzero : ¬(0 : Float64) < 0 := lt_irrefl (0 : ℚ)
  rintro answers - ⟨-, hpositive | rfl⟩
  · rw [hscore] at hpositive
    exact absurd hpositive hzero
  · rw [gradedResult_zero, hscore, hmax, hpercent, hpassed]

omit [Library] [MongoServer] in
/-- Whatever grading is stored, the response is the grading of the stored answers. -/
lemma attemptSubmitResult_eq {a : Attempt} (h : a.Ungraded ∨ a.Scored) :
    Service.attemptSubmitResult a = Service.gradedResult a.answers.len := by
  unfold Service.attemptSubmitResult
  split
  · next hstored =>
    obtain hungraded | hscored := h
    · exact hungraded _ le_rfl hstored
    · exact hscored.2
  · rfl

omit [Library] [MongoServer] in
/-- An update that leaves the grading alone does not take answers away. -/
lemma ungraded_stored {u : AttemptUpdate} {env : Env} {a : Attempt} (ha : a.Ungraded)
    (hu : u.score = none ∧ u.maxScore = none ∧ u.percent = none ∧ u.passed = none) :
    ((u.stored env).apply a).Ungraded := by
  obtain ⟨hscore, hmax, hpercent, hpassed⟩ := hu
  have hlen : a.answers.len ≤ ((u.stored env).apply a).answers.len := by
    rw [AttemptUpdate.stored_answers]
    exact GoMap.len_le_setAll _ _
  intro answers hanswers
  have hgrading := ha answers (hlen.trans hanswers)
  simpa [AttemptUpdate.stored, AttemptUpdate.toUpdate, AttemptUpdate.kept, AttemptUpdate.apply, hscore, hmax,
    hpercent, hpassed] using hgrading

/-- From a store on, an attempt that was submitted there stays as it is, and another is ungraded, or
submitted and graded by its answers. -/
structure Grading (s₀ : MongoStore) (id : ObjectID) (s : MongoStore) : Prop where
  kept : s₀.submitted id → s.attempts.lookup id = s₀.attempts.lookup id
  graded : ¬s₀.submitted id → ∀ a, s.attempts.lookup id = some a → a.Ungraded ∨ a.Scored

section Gradings

variable {s₀ s : MongoStore} {id : ObjectID}

omit [Library] [MongoServer] in
/-- Where an attempt is found unsubmitted, it was not submitted before. -/
lemma Grading.not_submitted (h : Grading s₀ id s) {a : Attempt} (ha : s.attempts.lookup id = some a)
    (hunsubmitted : a.status ≠ "submitted") : ¬s₀.submitted id := by
  rintro ⟨a₀, ha₀, hsubmitted⟩
  obtain rfl : a = a₀ := Option.some.inj (ha.symm.trans ((h.kept ⟨a₀, ha₀, hsubmitted⟩).trans ha₀))
  exact hunsubmitted hsubmitted

omit [Library] [MongoServer] in
/-- The response for an attempt does not change once it is submitted. -/
lemma Grading.attemptSubmitResult_stays {s' : MongoStore} (h : Grading s₀ id s) (h' : Grading s₀ id s')
    (hfrozen : FrozenAt id s s') {a : Attempt} (ha : s.attempts.lookup id = some a) (hsubmitted : a.status = "submitted") :
    ∃ a', s'.attempts.lookup id = some a' ∧ a'.status = "submitted" ∧
      Service.attemptSubmitResult a = Service.attemptSubmitResult a' := by
  by_cases hs₀ : s₀.submitted id
  · exact ⟨a, (h'.kept hs₀).trans ((h.kept hs₀).symm.trans ha), hsubmitted, rfl⟩
  · obtain ⟨a', ha', -, hfrozen⟩ := hfrozen a ha
    obtain ⟨hsubmitted', hanswers, -⟩ := hfrozen hsubmitted
    refine ⟨a', ha', hsubmitted', ?_⟩
    rw [attemptSubmitResult_eq (h.graded hs₀ a ha), attemptSubmitResult_eq (h'.graded hs₀ a' ha'), hanswers]

lemma grading_update {env : MongoEnv} {filter : AttemptFilter} {set : AttemptUpdate} (h : Grading s₀ id s)
    (hset : filter.id = id → ∀ a, Applies env filter set s a → ¬s₀.submitted id ∧
      (((set.stored env.1).apply a).Ungraded ∨ ((set.stored env.1).apply a).Scored)) :
    Grading s₀ id (serve env (.updateAttempt filter set) s).2 := by
  obtain hsame | ⟨filter', set', a', hreq, rfl, happlies, hafter⟩ | ⟨a', hreq, -, -⟩ :=
    lookup_serve env (.updateAttempt filter set) s id
  · exact ⟨fun hs₀ => hsame.trans (h.kept hs₀), fun hs₀ a ha => h.graded hs₀ a (hsame.symm.trans ha)⟩
  · cases hreq
    obtain ⟨hs₀, hgrading⟩ := hset rfl a' happlies
    refine ⟨fun hsubmitted => absurd hsubmitted hs₀, fun _ a ha => ?_⟩
    rw [hafter] at ha
    cases ha
    exact hgrading
  · cases hreq

/-- Saving or submitting an attempt that can be edited leaves its grading right. -/
lemma grading_updateUnsubmitted {env : MongoEnv} {filter : AttemptFilter} {set : AttemptUpdate} (h : Grading s₀ id s)
    (hfilter : filter.unsubmitted = true)
    (hset : set.score = none ∧ set.maxScore = none ∧ set.percent = none ∧ set.passed = none) :
    Grading s₀ id (serve env (.updateAttempt filter set) s).2 := by
  refine grading_update h fun hid a ha => ?_
  subst hid
  have hunsubmitted : a.status ≠ "submitted" := fun hs => not_matches_submitted hfilter hs ha.matched
  have hs₀ := h.not_submitted ha.stored hunsubmitted
  obtain hungraded | hscored := h.graded hs₀ a ha.stored
  · exact ⟨hs₀, .inl (ungraded_stored hungraded hset)⟩
  · exact absurd hscored.1 hunsubmitted

/-- Starts and saves leave the grading of an attempt right. -/
lemma grading_serve {call : RuntimeCall} {q : MongoRequest} (hsync : call.kind ≠ .sync)
    (hsubmit : call.kind ≠ .submit) (hq : call.SendsOperation q) (env : MongoEnv)
    (h : Grading s₀ id s) : Grading s₀ id (serve env q s).2 := by
  cases q with
  | updateAttempt filter set =>
    cases hk : call.kind with
    | save =>
      simp only [RuntimeCall.SendsOperation, hk] at hq
      obtain ⟨hfilter, -, -, hcontent⟩ := hq
      exact grading_updateUnsubmitted h hfilter hcontent
    | submit => exact absurd hk hsubmit
    | sync => exact absurd hk hsync
    | assign => simp [RuntimeCall.SendsOperation, hk] at hq
    | start => simp [RuntimeCall.SendsOperation, hk] at hq
  | insertAttempt created =>
    obtain hsame | ⟨filter, set, a', hreq, -, -, -⟩ | ⟨a', hreq, hnone, hafter⟩ :=
      lookup_serve env (.insertAttempt created) s id
    · exact ⟨fun hs₀ => hsame.trans (h.kept hs₀), fun hs₀ a ha => h.graded hs₀ a (hsame.symm.trans ha)⟩
    · cases hreq
    · cases hreq
      constructor
      · rintro ⟨a₀, ha₀, hsubmitted⟩
        rw [h.kept ⟨a₀, ha₀, hsubmitted⟩, ha₀] at hnone
        cases hnone
      · intro _ a ha
        rw [hafter] at ha
        cases ha
        obtain ⟨-, -, -, -, hunscored⟩ := hq
        have hkept : Attempt.Unscored ((created.created env.1).kept Bson.dateTime) := hunscored
        exact .inl hkept.ungraded
  | _ =>
    obtain hsame | ⟨filter, set, a', hreq, -⟩ | ⟨a', hreq, -⟩ := lookup_serve env _ s id
    · exact ⟨fun hs₀ => hsame.trans (h.kept hs₀), fun hs₀ a ha => h.graded hs₀ a (hsame.symm.trans ha)⟩
    · cases hreq
    · cases hreq

end Gradings

section Responses

variable {s₀ : MongoStore} {id : ObjectID}

/-- The world in which a submission responds. -/
def Responds (s₀ : MongoStore) (id oid : ObjectID) (response : AttemptSubmitResponse) (w : MongoWorld) : Prop :=
  Grading s₀ id w.1 ∧ ∃ a, w.1.attempts.lookup oid = some a ∧ a.status = "submitted" ∧
    response = Service.attemptSubmitResult a

/-- The repository submits the attempt unless it is submitted, and reads it again. -/
lemma safe_repositorySubmit {i : ℕ} {tenantID attemptID : String}
    {answers : List (String × AttemptAnswer)} {submittedAt : Time} (w : MongoWorld) :
    (evolving (Grading s₀ id)).Safe serve i (OnSuccess (fun reply w' => ∃ oid fields w₁ env,
      objectID attemptID = .ok oid ∧ (evolving (Grading s₀ id)).Rely w w₁ ∧
      (∀ a, w₁.1.attempts.find (AttemptFilter.mk tenantID oid true).matches = some a →
        Applies env ⟨tenantID, oid, true⟩ (.submit submittedAt fields) w₁.1 a) ∧
      ReadsAfter (I := Grading s₀ id) (i := i) w₁ env
        (.updateAttempt ⟨tenantID, oid, true⟩ (.submit submittedAt fields)) tenantID oid reply.1 w'))
      (MongoRepository.submitAttempt tenantID attemptID answers submittedAt).run w := by
  apply Protocol.Safe.lift_bind
  intro oid hoid
  apply Protocol.Safe.lift_bind
  intro fields _
  have hgrading : ∀ w', Grading s₀ id w'.1 → (evolving (Grading s₀ id)).Rely w w' → ∀ env,
      Grading s₀ id (serve env (.updateAttempt ⟨tenantID, oid, true⟩ (.submit submittedAt fields)) w'.1).2 :=
    fun w' hI _ env => grading_updateUnsubmitted hI rfl ⟨rfl, rfl, rfl, rfl⟩
  apply Protocol.Safe.run_bind (safe_update (guarded_of_unsubmitted rfl _) hgrading)
  rintro matched w₁' _ ⟨w₁, env, hR₁, rfl, -, happlies⟩
  apply Protocol.Safe.run_bind (safe_getAttempt tenantID attemptID _)
  rintro found w₂ hR₂ ⟨hI, oid', hoid', hfound⟩
  obtain rfl : oid = oid' := Except.ok.inj (hoid.symm.trans hoid')
  exact ⟨oid, fields, w₁, env, hoid, hR₁, happlies, hR₂, hI, hfound⟩

/-- Scoring an attempt by its answers, which this call has found unsubmitted and then submitted, and
reading it again. -/
lemma safe_score {i : ℕ} {tenantID attemptID : String} {oid : ObjectID} {updated : Attempt} {w : MongoWorld}
    (hoid : objectID attemptID = .ok oid) (hopen : oid = id → ¬s₀.submitted id)
    (hstored : w.1.attempts.lookup oid = some updated) (hsubmitted : updated.status = "submitted") :
    (evolving (Grading s₀ id)).Safe serve i (OnSuccess (fun found w' => Grading s₀ id w'.1 ∧
      found = w'.1.attempts.find (Attempt.named tenantID oid)))
      (MongoRepository.updateAttempt tenantID attemptID
        (Service.scoreUpdate updated.answers.len)).run w := by
  apply Protocol.Safe.lift_bind
  intro oid' hoid'
  obtain rfl : oid = oid' := Except.ok.inj (hoid.symm.trans hoid')
  have hgrading : ∀ w', Grading s₀ id w'.1 → (evolving (Grading s₀ id)).Rely w w' → ∀ env, Grading s₀ id (serve env
      (.updateAttempt ⟨tenantID, oid, false⟩ (Service.scoreUpdate updated.answers.len)) w'.1).2 := by
    intro w' hI hR env
    refine grading_update hI fun hid a ha => ⟨hopen hid, ?_⟩
    obtain ⟨a', ha', -, hfrozen⟩ := hR.2 oid updated hstored
    obtain rfl : a' = a := Option.some.inj (ha'.symm.trans ha.stored)
    obtain ⟨hs, hanswers, -⟩ := hfrozen hsubmitted
    right
    rw [← hanswers]
    exact ⟨hs, rfl⟩
  apply Protocol.Safe.run_bind (safe_update (.inr ⟨rfl, rfl, rfl⟩) hgrading)
  rintro matched w₁ _ -
  refine (safe_getAttempt tenantID attemptID _).mono ?_
  rintro (e | found) w₂ _ hfound
  · trivial
  · obtain ⟨hI, oid', hoid', hfound⟩ := hfound
    obtain rfl : oid = oid' := Except.ok.inj (hoid.symm.trans hoid')
    exact ⟨hI, hfound⟩

/-- A submission responds for the attempt it names. -/
def RespondsTo (s₀ : MongoStore) (id : ObjectID) (attemptID : String) (response : AttemptSubmitResponse)
    (w : MongoWorld) : Prop :=
  ∃ oid, objectID attemptID = .ok oid ∧ Responds s₀ id oid response w

lemma safe_submitAttempt {i : ℕ} {tenantID attemptID : String} {now : Time} {req : SubmitAttemptRequest}
    (w : MongoWorld) : (evolving (Grading s₀ id)).Safe serve i (OnSuccess (RespondsTo s₀ id attemptID))
      ((Service.submitAttempt tenantID attemptID now req).run.interp MongoRepository.handle) w := by
  apply Protocol.Safe.interp_lift_bind
  intro _ _
  apply safe_readAttempt
  intro a oid w₁ _ hI hoid ha htenant
  by_cases hsubmitted : a.status = "submitted"
  · rw [if_pos hsubmitted]
    exact ⟨oid, hoid, hI, a, ha, hsubmitted, rfl⟩
  · rw [if_neg hsubmitted]
    have hopen : oid = id → ¬s₀.submitted id := by
      rintro rfl
      exact hI.not_submitted ha hsubmitted
    apply Protocol.Safe.interp_run_bind
    · rw [run_repo, interp_send]
      exact safe_repositorySubmit w₁
    rintro ⟨found, didSubmit⟩ w₃ hR ⟨oid', fields, w₂, env, hoid', hR₂, happlies, hR₃, hI₃, hfound⟩
    obtain rfl : oid = oid' := Except.ok.inj (hoid.symm.trans hoid')
    apply Protocol.Safe.interp_lift_bind
    intro updated hupdated
    obtain ⟨hstored, -⟩ := find_named_eq_some.mp (hfound.symm.trans (required_ok hupdated))
    have hdone : updated.status = "submitted" := by
      by_contra hunsubmitted
      obtain ⟨a₂, ha₂, htenant₂, hunsubmitted₂⟩ :=
        unsubmitted_before (guarded_of_unsubmitted rfl _) hR₂ hR₃ ha hstored hunsubmitted
      have hfind := find_of_matches ha₂ (matches_unsubmitted ha₂ (htenant₂.trans htenant) hunsubmitted₂)
      have hafter := lookup_serve_applies (happlies a₂ hfind)
      obtain ⟨a₃, ha₃, hsubmitted₃⟩ := (hR₃.2 oid).submitted ⟨_, hafter, rfl⟩
      rw [hstored] at ha₃
      cases ha₃
      exact hunsubmitted hsubmitted₃
    split
    · exact ⟨oid, hoid, hI₃, updated, hstored, hdone, rfl⟩
    · apply Protocol.Safe.interp_run_bind
      · unfold Service.scoreSubmittedAttempt
        rw [run_repo, interp_send]
        exact safe_score hoid hopen hstored hdone
      · rintro found' w₄ hR₄ ⟨hI₄, hfound'⟩
        apply Protocol.Safe.interp_lift_bind
        intro scored hscored
        obtain ⟨a₄, ha₄, -, hfrozen⟩ := hR₄.2 oid updated hstored
        have hscored' : found' = some scored := by
          cases found' with
          | none => cases hscored
          | some b =>
            cases hscored
            rfl
        obtain ⟨hstored₄, -⟩ := find_named_eq_some.mp (hfound'.symm.trans hscored')
        obtain rfl : a₄ = scored := Option.some.inj (ha₄.symm.trans hstored₄)
        exact ⟨oid, hoid, hI₄, a₄, hstored₄, (hfrozen hdone).1, rfl⟩

lemma safe_submitAttemptForActor {i : ℕ} {tenantID attemptID : String} {actor : Actor} {now : Time}
    {req : SubmitAttemptRequest} (w : MongoWorld) :
    (evolving (Grading s₀ id)).Safe serve i (OnSuccess (RespondsTo s₀ id attemptID))
      ((Service.submitAttemptForActor tenantID actor attemptID now req).run.interp MongoRepository.handle)
      w := by
  apply safe_readAttempt
  intro a oid w₁ _ hI hoid ha _
  apply Protocol.Safe.interp_lift_bind
  intro _ _
  by_cases hsubmitted : a.status = "submitted"
  · rw [if_pos hsubmitted]
    exact ⟨oid, hoid, hI, a, ha, hsubmitted, rfl⟩
  · rw [if_neg hsubmitted]
    exact safe_submitAttempt w₁

/-- The call submits this attempt. -/
def RuntimeCall.SubmitsAttempt (oid : ObjectID) : RuntimeCall → Prop
  | .submitAttempt _ attemptID _ _ | .submitAttemptForActor _ _ attemptID _ _ =>
    objectID attemptID = .ok oid
  | _ => False

/-- What a call returns when it submits the attempt. -/
def RuntimeCall.Reports (s₀ : MongoStore) (id : ObjectID) (call : RuntimeCall) (resp : RuntimeResponse)
    (w : MongoWorld) : Prop :=
  call.SubmitsAttempt id → ∃ submission, resp = .submission submission ∧ Responds s₀ id id submission w

omit [Library] [MongoServer] in
lemma RespondsTo.responds {attemptID : String} {submission : AttemptSubmitResponse} {w : MongoWorld}
    (h : RespondsTo s₀ id attemptID submission w) (hid : objectID attemptID = .ok id) :
    Responds s₀ id id submission w := by
  obtain ⟨oid, hoid, h⟩ := h
  obtain rfl : id = oid := Except.ok.inj (hid.symm.trans hoid)
  exact h

/-- Every call other than a synchronisation keeps the grading right, and a submission returns what is
stored. -/
lemma safe_reports {i : ℕ} {call : RuntimeCall} (hsync : call.kind ≠ .sync) (w : MongoWorld) :
    (evolving (Grading s₀ id)).Safe serve i (OnSuccess (call.Reports s₀ id)) call.operations w := by
  by_cases hsubmit : call.kind = .submit
  · cases call with
    | submitAttempt tenantID attemptID now req =>
      refine Protocol.Safe.interp_run_bind (safe_submitAttempt w) ?_
      exact fun submission w' _ h hid => ⟨submission, rfl, h.responds hid⟩
    | submitAttemptForActor tenantID actor attemptID now req =>
      refine Protocol.Safe.interp_run_bind (safe_submitAttemptForActor w) ?_
      exact fun submission w' _ h hid => ⟨submission, rfl, h.responds hid⟩
    | _ => cases hsubmit
  · have hsafe : (evolving (Grading s₀ id)).Safe serve i (fun _ _ => True) call.operations w := by
      refine Protocol.Safe.of_allRequests (Q := call.SendsOperation) ?_ call.sendsOperations w
      intro q hq w' hI env
      exact ⟨grading_serve hsync hsubmit hq env hI, evolving_step (guarded_of_sendsOperation hsync hq) env w'⟩
    refine hsafe.mono ?_
    rintro (e | resp) w' _ -
    · trivial
    · intro hsubmits
      cases call with
      | submitAttempt => exact absurd rfl hsubmit
      | submitAttemptForActor => exact absurd rfl hsubmit
      | _ => exact hsubmits.elim

end Responses

/-- A store from which submissions of the attempt agree: it is submitted, or nothing in its grading stands
for a response. -/
def MongoStore.GradesFresh (s : MongoStore) (id : ObjectID) : Prop :=
  ∀ a, s.attempts.lookup id = some a → a.status = "submitted" ∨ a.Ungraded

omit [Library] [MongoServer] in
lemma MongoStore.GradesFresh.grading {s : MongoStore} {id : ObjectID} (h : s.GradesFresh id) : Grading s id s where
  kept _ := rfl
  graded hs a ha := .inl ((h a ha).resolve_left fun hsubmitted => hs ⟨a, ha, hsubmitted⟩)

/-- The successful submissions of an attempt in the interleaving return one response. -/
def SubmissionsAgree (s : MongoStore) (calls : List RuntimeCall) (schedule : List (Nat × MongoEnv)) (id : ObjectID) :
    Prop :=
  ∀ i j call call' resp resp', calls[i]? = some call → calls[j]? = some call' → call.SubmitsAttempt id →
    call'.SubmitsAttempt id → Returned (interleave s calls schedule) i resp →
    Returned (interleave s calls schedule) j resp' → resp = resp'

/-- Each returns what the attempt, which is submitted in the end, is stored with. -/
lemma submission_of_returned {s : MongoStore} {id : ObjectID} (hs : s.GradesFresh id) {calls : List RuntimeCall}
    (hcalls : ∀ call ∈ calls, call.kind ≠ .sync) {schedule : List (Nat × MongoEnv)} {i : ℕ} {call : RuntimeCall}
    {resp : RuntimeResponse} (hcall : calls[i]? = some call) (hsubmits : call.SubmitsAttempt id)
    (hreturned : Returned (interleave s calls schedule) i resp) :
    ∃ a, (interleave s calls schedule).store.attempts.lookup id = some a ∧ a.status = "submitted" ∧
      resp = .submission (Service.attemptSubmitResult a) := by
  have hrun := Protocol.safe_run (evolving (Grading s id)) serve
    (fun i resp w => ∀ call, calls[i]? = some call → OnSuccess (call.Reports s id) resp w)
    s (calls.map RuntimeCall.operations) hs.grading ?_ schedule
  · obtain ⟨hend, hposts⟩ := hrun
    obtain ⟨w, hR, hreports⟩ := hposts i (.ok resp) hreturned
    obtain ⟨submission, rfl, hI, a, ha, hsubmitted, rfl⟩ := hreports call hcall hsubmits
    obtain ⟨a', ha', hsubmitted', hsame⟩ := hI.attemptSubmitResult_stays hend (hR.2 id) ha hsubmitted
    exact ⟨a', ha', hsubmitted', by rw [hsame]⟩
  · intro i p hp
    rw [List.getElem?_map, Option.map_eq_some_iff] at hp
    obtain ⟨call, hcall, rfl⟩ := hp
    refine (safe_reports (hcalls call (List.mem_of_getElem? hcall)) _).mono ?_
    intro resp w _ h call' hcall'
    obtain rfl : call = call' := Option.some.inj (hcall.symm.trans hcall')
    exact h

/-- From such a store, the successful submissions of the attempt agree in every interleaving of calls other
than synchronisations. -/
theorem submissions_agree (s : MongoStore) (id : ObjectID) (hs : s.GradesFresh id) (calls : List RuntimeCall)
    (hcalls : ∀ call ∈ calls, call.kind ≠ .sync) (schedule : List (Nat × MongoEnv)) :
    SubmissionsAgree s calls schedule id := by
  intro i j call call' resp resp' hcall hcall' hsubmits hsubmits' hreturned hreturned'
  obtain ⟨a, ha, -, rfl⟩ := submission_of_returned hs hcalls hcall hsubmits hreturned
  obtain ⟨a', ha', -, rfl⟩ := submission_of_returned hs hcalls hcall' hsubmits' hreturned'
  obtain rfl : a = a' := Option.some.inj (ha.symm.trans ha')
  rfl

/-! Calls one after another, among them synchronisations, lead only to such stores. -/

/-- The records of a store whose gradings are right. -/
def ScoringRecords (R : Records) : Prop := ∀ a ∈ R.attempts, a.Unscored ∨ a.Scored

omit [Library] [MongoServer] in
lemma unscored_apply {u : AttemptUpdate} {now : Time} {a : Attempt} (ha : a.Unscored)
    (hu : u.score = none ∧ u.maxScore = none ∧ u.percent = none ∧ u.passed = none) :
    (u.apply now a).Unscored := by
  obtain ⟨hscore, hmax, hpercent, hpassed⟩ := hu
  simpa [Attempt.Unscored, AttemptUpdate.apply, hscore, hmax, hpercent, hpassed] using ha

omit [MongoServer] in
lemma scoringRecords_effect {call : RuntimeCall} {R R' : Records} {ok : Bool} (he : Effect call R ok R')
    (h : ScoringRecords R) : ScoringRecords R' := by
  have hunscored : ∀ a ∈ R.attempts, a.status ≠ "submitted" → a.Unscored := by
    intro a ha hunsubmitted
    obtain hunscored | hscored := h a ha
    · exact hunscored
    · exact absurd hscored.1 hunsubmitted
  cases he with
  | failed => exact h
  | assigned _ created _ => exact h
  | resumed => exact h
  | alreadySubmitted => exact h
  | started created hstarts =>
    intro a ha
    rw [List.mem_append, List.mem_singleton] at ha
    obtain ha | rfl := ha
    · exact h a ha
    · exact .inl hstarts.ungraded
  | edited _ tenantID id u now _ hcontent =>
    refine forall_modifyFirst h ?_
    intro a ha
    have hmem := List.mem_of_find?_eq_some ha
    unfold AttemptUpdate.applyUnsubmitted
    split
    · exact h a hmem
    · next hunsubmitted => exact .inl (unscored_apply (hunscored a hmem hunsubmitted) hcontent.2.2)
  | synced _ tenantID id a req now hsyncs hget =>
    refine forall_modifyFirst h ?_
    intro a' ha'
    obtain rfl : a = a' := Option.some.inj (hget.symm.trans ha')
    obtain hunscored | ⟨hsubmitted, hscored⟩ := h a (List.mem_of_find?_eq_some hget)
    · exact .inl (unscored_apply hunscored ⟨rfl, rfl, rfl, rfl⟩)
    · have hstatus : Service.syncStatus req a = none := by
        by_contra hne
        obtain ⟨status, hst⟩ := Option.ne_none_iff_exists'.mp hne
        exact syncStatus_some hst hsubmitted
      right
      exact ⟨by simp [Service.syncUpdate, hstatus, hsubmitted], hscored⟩
  | submitted tenantID id submittedAt answers now _ =>
    refine forall_modifyFirst h ?_
    intro a ha
    have hmem := List.mem_of_find?_eq_some ha
    unfold AttemptUpdate.applyUnsubmitted
    split
    · exact h a hmem
    · next hunsubmitted =>
      exact .inl (unscored_apply (hunscored a hmem hunsubmitted) ⟨rfl, rfl, rfl, rfl⟩)
  | scored _ tenantID id submittedAt answers now now' a _ hget _ =>
    refine forall_modifyFirst h ?_
    exact fun a' _ => .inr ⟨rfl, rfl⟩

theorem gradesFresh_of_reachable {s₀ s : MongoStore} (h₀ : s₀.attempts.docs = [])
    (hs : Reachable mongoRepository (fun _ _ _ => True) s₀ s) (id : ObjectID) : s.GradesFresh id := by
  have hrecords : ScoringRecords (mongoRepository.records s) := by
    refine hs.invariant ?_ (fun call R ok R' _ he h => scoringRecords_effect he h)
    intro a ha
    rw [show (mongoRepository.records s₀).attempts = [] from h₀] at ha
    cases ha
  intro a ha
  obtain hunscored | hscored := hrecords a (Collection.lookup_eq_some_iff.mp ha).1
  · exact .inr hunscored.ungraded
  · exact .inl hscored.1

end Submitting

section Sample

attribute [local instance] asciiLibrary Sample.server

lemma Sample.gradesFresh_started : Sample.startedStore.GradesFresh (Sample.id 5) := by
  have hunscored : (Sample.startedStore.attempts.lookup (Sample.id 5)).map
      (fun a => (a.score, a.maxScore, a.percent, a.passed)) = some (0, 100, 0, false) := rfl
  intro a ha
  rw [ha, Option.map_some, Option.some.injEq, Prod.mk.injEq, Prod.mk.injEq, Prod.mk.injEq] at hunscored
  exact .inr (Attempt.Unscored.ungraded hunscored)

/-- Two submissions, one of which reads before the other has been scored. -/
theorem submissions_agree_sample : ∃ resp, ∀ i ∈ [1, 2], Returned (interleave Sample.startedStore
    [Sample.save 5 Sample.question "answer", Sample.submit 5, Sample.submit 5]
    (Sample.steps 0 3 ++ Sample.steps 1 2 ++ Sample.steps 2 1 ++ Sample.steps 1 3)) i resp := by
  generalize hcalls : [Sample.save 5 Sample.question "answer", Sample.submit 5, Sample.submit 5] = calls
  generalize hschedule : Sample.steps 0 3 ++ Sample.steps 1 2 ++ Sample.steps 2 1 ++ Sample.steps 1 3 = schedule
  have hreturned : ∀ i ∈ [1, 2], ((interleave Sample.startedStore calls schedule).threads[i]?.bind
      Sample.response).isSome := by
    rw [← hcalls, ← hschedule]
    decide
  have hkinds : ∀ call ∈ calls, call.kind ≠ .sync := by
    rw [← hcalls]
    intro call hcall
    simp only [List.mem_cons, List.not_mem_nil, or_false] at hcall
    obtain rfl | rfl | rfl := hcall <;> decide
  have hagree := submissions_agree Sample.startedStore (Sample.id 5) Sample.gradesFresh_started calls hkinds schedule
  obtain ⟨resp, hresp⟩ := Option.isSome_iff_exists.mp (hreturned 1 (by simp))
  refine ⟨resp, fun i hi => ?_⟩
  obtain ⟨resp', hresp'⟩ := Option.isSome_iff_exists.mp (hreturned i hi)
  have hsubmits : calls[i]? = some (Sample.submit 5) := by
    rw [← hcalls]
    simp only [List.mem_cons, List.not_mem_nil, or_false] at hi
    obtain rfl | rfl := hi <;> rfl
  have hsubmits₁ : calls[1]? = some (Sample.submit 5) := by
    rw [← hcalls]
    rfl
  rw [hagree 1 i _ _ resp resp' hsubmits₁ hsubmits (objectID_hex _) (objectID_hex _)
    (Sample.returned_of_response hresp) (Sample.returned_of_response hresp')]
  exact Sample.returned_of_response hresp'

/-- The store in which a synchronisation that had read the attempt in progress has reopened it after it was
submitted with one answer and graded. -/
def Sample.reopenedStore : MongoStore :=
  (interleave Sample.mongoStore
    [Sample.start 3, Sample.sync 5 "in_progress", Sample.submitWith 5 Sample.question "answer"]
    (Sample.steps 0 3 ++ Sample.steps 1 1 ++ Sample.steps 2 5 ++ Sample.steps 1 2)).store

def Sample.otherQuestion : String := (Sample.id 8).hex

/-- The response for an attempt graded by this many answers. -/
lemma Sample.score_of_graded {a : Attempt} {answers : ℕ} (hpositive : 0 < answers) (hle : answers ≤ 100)
    (hscore : a.score = (Service.attemptScore answers).1) (hmax : a.maxScore = Service.maxScore) :
    (Service.attemptSubmitResult a).score.val = answers := by
  have hval : ∀ n ≤ 100, (Float64.ofLen n).val = n := fun n hn => Float64.val_ofLen (by omega)
  have hgraded : a.score = Float64.ofLen answers := by
    rw [hscore, Service.attemptScore]
    refine if_neg (not_lt_of_ge (α := ℚ) ?_)
    rw [hval answers hle, show Service.maxScore.val = ((100 : ℕ) : ℚ) from hval 100 le_rfl]
    exact_mod_cast hle
  have hstored : a.maxScore > 0 ∧ (a.score > 0 ∨ a.answers.len = 0) := by
    rw [hmax, hgraded]
    exact ⟨Float64.ofLen_pos (by norm_num), .inl (Float64.ofLen_pos hpositive)⟩
  rw [Service.attemptSubmitResult, if_pos hstored]
  exact (congrArg Float64.val hgraded).trans (hval answers hle)

/-- A submission with a second answer, and one that returns the old score before the new one is written. -/
theorem stale_score_returned : ¬SubmissionsAgree Sample.reopenedStore
    [Sample.submitWith 5 Sample.otherQuestion "other", Sample.submit 5]
    (Sample.steps 0 2 ++ Sample.steps 1 1 ++ Sample.steps 0 3) (Sample.id 5) := by
  intro hagree
  obtain ⟨a, ha, hscore, hmax⟩ : ∃ a, ((interleave Sample.reopenedStore
      [Sample.submitWith 5 Sample.otherQuestion "other", Sample.submit 5]
      (Sample.steps 0 2 ++ Sample.steps 1 1 ++ Sample.steps 0 3)).threads[0]?.bind Sample.response) =
        some (.submission (Service.attemptSubmitResult a)) ∧ a.score = (Service.attemptScore 2).1 ∧
          a.maxScore = Service.maxScore := ⟨_, rfl, rfl, rfl⟩
  obtain ⟨b, hb, hscore', hmax'⟩ : ∃ b, ((interleave Sample.reopenedStore
      [Sample.submitWith 5 Sample.otherQuestion "other", Sample.submit 5]
      (Sample.steps 0 2 ++ Sample.steps 1 1 ++ Sample.steps 0 3)).threads[1]?.bind Sample.response) =
        some (.submission (Service.attemptSubmitResult b)) ∧ b.score = (Service.attemptScore 1).1 ∧
          b.maxScore = Service.maxScore := ⟨_, rfl, rfl, rfl⟩
  have hsame := hagree 0 1 _ _ _ _ rfl rfl (objectID_hex _) (objectID_hex _) (Sample.returned_of_response ha)
    (Sample.returned_of_response hb)
  have htwo := Sample.score_of_graded (by decide) (by decide) hscore hmax
  have hone := Sample.score_of_graded (by decide) (by decide) hscore' hmax'
  rw [RuntimeResponse.submission.inj hsame, hone] at htwo
  norm_num at htwo

end Sample

end ErgGo.Lms
