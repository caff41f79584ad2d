import ErgGo.Lms.SequentialRuns

/-!
# Attempt calls on MongoDB, interleaved

Any number of calls run at once. Each is refined into the operations its repository
methods send to the server, and these interleave in any order, over a connection that can
lose a request or its reply.
-/

namespace ErgGo.Lms
open Go Documents Concurrent Program

abbrev MongoEnv := Env × Fault

abbrev MongoEvent := Event MongoEnv MongoRequest MongoStore

abbrev MongoWorld := World MongoEnv MongoRequest MongoStore

section Operations

variable [Library] [MongoServer]

/-- The server behind the connection. -/
def serve : MongoEnv → (q : MongoRequest) → MongoStore → MongoReply q × MongoStore :=
  withFaults .storeFailure MongoStore.exec

def RuntimeCall.operations (call : RuntimeCall) :
    Program MongoRequest MongoReply (Except LmsError RuntimeResponse) :=
  call.program.run.interp MongoRepository.handle

/-- The calls after the steps of a schedule. -/
def interleave (s : MongoStore) (calls : List RuntimeCall) (schedule : List (Nat × MongoEnv)) :
    Config MongoEnv MongoRequest MongoReply MongoStore (Except LmsError RuntimeResponse) :=
  (start s (calls.map RuntimeCall.operations)).run serve schedule

/-- An update that finds this attempt, arrives, and is admitted by the index. -/
structure Applies (env : MongoEnv) (filter : AttemptFilter) (set : AttemptUpdate) (s : MongoStore)
    (a : Attempt) : Prop where
  stored : s.attempts.lookup filter.id = some a
  matched : filter.matches a
  arrives : env.2 ≠ .lost
  admitted : s.indexAdmits (set.apply env.1.now a)

omit [Library] [MongoServer] in
lemma find_of_matches {filter : AttemptFilter} {s : MongoStore} {a : Attempt}
    (hstored : s.attempts.lookup filter.id = some a) (hmatched : filter.matches a) :
    s.attempts.find filter.matches = some a := by
  rw [Collection.find_of_pinned filter.pinned_matches, hstored, Option.filter_some, if_pos hmatched]

omit [Library] [MongoServer] in
lemma stored_of_find {filter : AttemptFilter} {s : MongoStore} {a : Attempt}
    (h : s.attempts.find filter.matches = some a) :
    s.attempts.lookup filter.id = some a ∧ filter.matches a := by
  rw [Collection.find_of_pinned filter.pinned_matches, Option.filter_eq_some_iff] at h
  exact h

omit [Library] [MongoServer] in
lemma updateAttempt_of_find {env : Env} {filter : AttemptFilter} {set : AttemptUpdate} {s : MongoStore}
    {a : Attempt} (hfind : s.attempts.find filter.matches = some a)
    (hadmits : s.indexAdmits (set.apply env.now a)) :
    s.updateAttempt env filter set = (.ok true,
      { s with attempts := s.attempts.updateOne filter.matches (set.stored env) }) := by
  simp [MongoStore.updateAttempt, hfind, hadmits]

omit [Library] [MongoServer] in
lemma lookup_updateOne_of_stored {filter : AttemptFilter} {set : AttemptUpdate} {s : MongoStore}
    {a : Attempt} {env : Env} (hstored : s.attempts.lookup filter.id = some a)
    (hmatched : filter.matches a) :
    (s.attempts.updateOne filter.matches (set.stored env)).lookup filter.id =
      some ((set.stored env).apply a) := by
  rw [Collection.lookup_updateOne filter.pinned_matches, hstored]
  simp [hmatched]

lemma lookup_serve_applies {env : MongoEnv} {filter : AttemptFilter} {set : AttemptUpdate}
    {s : MongoStore} {a : Attempt} (h : Applies env filter set s a) :
    (serve env (.updateAttempt filter set) s).2.attempts.lookup filter.id =
      some ((set.stored env.1).apply a) := by
  have hexec := updateAttempt_of_find (find_of_matches h.stored h.matched) h.admitted
  obtain ⟨-, hlost⟩ | ⟨hstore, -⟩ :=
    withFaults_store LmsError.storeFailure MongoStore.exec env (.updateAttempt filter set) s
  · exact absurd hlost h.arrives
  · unfold serve
    rw [hstore]
    simp only [MongoStore.exec]
    rw [hexec]
    exact lookup_updateOne_of_stored h.stored h.matched

/-- What one operation can do to the attempt under an id. -/
theorem lookup_serve (env : MongoEnv) (q : MongoRequest) (s : MongoStore) (id : ObjectID) :
    (serve env q s).2.attempts.lookup id = s.attempts.lookup id ∨
      (∃ filter set a, q = .updateAttempt filter set ∧ filter.id = id ∧ Applies env filter set s a ∧
        (serve env q s).2.attempts.lookup id = some ((set.stored env.1).apply a)) ∨
      ∃ a, q = .insertAttempt a ∧ s.attempts.lookup id = none ∧
        (serve env q s).2.attempts.lookup id = some ((a.created env.1).kept Bson.dateTime) := by
  obtain ⟨hstore, -⟩ | ⟨hstore, harrives⟩ := withFaults_store LmsError.storeFailure MongoStore.exec env q s
  · left
    unfold serve
    rw [hstore]
  · cases q with
    | updateAttempt filter set =>
      cases hfind : s.attempts.find filter.matches with
      | none =>
        left
        unfold serve
        rw [hstore]
        simp [MongoStore.exec, MongoStore.updateAttempt, hfind]
      | some a =>
        obtain ⟨hstored, hmatched⟩ := stored_of_find hfind
        by_cases hadmits : s.indexAdmits (set.apply env.1.now a)
        · have happlies : Applies env filter set s a := ⟨hstored, hmatched, harrives, hadmits⟩
          by_cases hid : filter.id = id
          · subst hid
            exact .inr (.inl ⟨filter, set, a, rfl, rfl, happlies, lookup_serve_applies happlies⟩)
          · left
            unfold serve
            rw [hstore]
            simp only [MongoStore.exec, updateAttempt_of_find hfind hadmits]
            rw [Collection.lookup_updateOne filter.pinned_matches]
            simp [Ne.symm hid]
        · left
          unfold serve
          rw [hstore]
          simp [MongoStore.exec, MongoStore.updateAttempt, hfind, hadmits]
    | insertAttempt a =>
      obtain ⟨attempts, hinsert, h⟩ | h := s.insertAttempt_cases env.1 a
      · by_cases hid : ((a.created env.1).kept Bson.dateTime).id = id
        · right
          right
          refine ⟨a, rfl, hid ▸ Collection.lookup_of_insertOne hinsert, ?_⟩
          unfold serve
          rw [hstore]
          simp only [MongoStore.exec, h]
          rw [Collection.lookup_insertOne hinsert, if_pos hid]
        · left
          unfold serve
          rw [hstore]
          simp only [MongoStore.exec, h]
          rw [Collection.lookup_insertOne hinsert, if_neg hid]
      · left
        unfold serve
        rw [hstore]
        simp only [MongoStore.exec, h]
    | insertAssignment assignment =>
      left
      unfold serve
      rw [hstore]
      simp only [MongoStore.exec, MongoStore.insertAssignment]
      split <;> rfl
    | _ =>
      left
      unfold serve
      rw [hstore]
      rfl

/-- The operations a call may send. -/
def RuntimeCall.SendsOperation (call : RuntimeCall) : MongoRequest → Prop
  | .updateAttempt filter set =>
    match call.kind with
    | .save => filter.unsubmitted = true ∧ set.ContentOnly
    | .submit => (filter.unsubmitted = true ∧ ∃ submittedAt answers, set = .submit submittedAt answers) ∨
        ∃ answers, set = Service.scoreUpdate answers
    | .sync => ∃ req a, set = Service.syncUpdate req a
    | _ => False
  | .insertAttempt a => call.kind = .start ∧ (RepoRequest.createAttempt a).StartsAttempt
  | _ => True

omit [Library] [MongoServer] in
/-- The methods on one attempt end by reading it. -/
lemma getAttempt_operations {P : MongoRequest → Prop} {tenantID id : String}
    (hfind : ∀ oid, P (.findAttempt tenantID oid)) :
    (MongoRepository.getAttempt tenantID id).run.AllRequests P := by
  apply AllRequests.lift_bind
  exact fun oid _ => ⟨hfind oid, fun _ => trivial⟩

omit [Library] [MongoServer] in
lemma update_operations {P : MongoRequest → Prop} {α : Type} {filter : AttemptFilter} {set : AttemptUpdate}
    {f : Bool → Mongo α} (hupdate : P (.updateAttempt filter set)) (hf : ∀ b, (f b).run.AllRequests P) :
    (do f (← mongo (.updateAttempt filter set))).run.AllRequests P :=
  AllRequests.run_bind ⟨hupdate, fun _ => trivial⟩ hf

omit [Library] [MongoServer] in
/-- The handlers send, for the requests of a call, only operations of that call. -/
lemma handle_operations {call : RuntimeCall} {q : RepoRequest} (hq : call.Sends q) :
    (MongoRepository.handle q).AllRequests call.SendsOperation := by
  cases q with
  | getClass tenantID id =>
    apply AllRequests.lift_bind
    exact fun oid _ => ⟨trivial, fun _ => trivial⟩
  | getCenter tenantID id =>
    apply AllRequests.lift_bind
    exact fun oid _ => ⟨trivial, fun _ => trivial⟩
  | listStudents tenantID req centerIDs classIDs => exact ⟨trivial, fun _ => trivial⟩
  | getQuiz tenantID id =>
    apply AllRequests.lift_bind
    exact fun oid _ => ⟨trivial, fun _ => trivial⟩
  | createAssignment assignment => exact ⟨trivial, fun _ => trivial⟩
  | getAssignment tenantID id =>
    apply AllRequests.lift_bind
    exact fun oid _ => ⟨trivial, fun _ => trivial⟩
  | createAttempt attempt =>
    have hsends : call.SendsOperation (.insertAttempt attempt) := by
      cases call with
      | startAttempt tenantID actor req => exact ⟨rfl, hq⟩
      | _ => simp [RuntimeCall.Sends, RepoRequest.Assigns] at hq
    exact ⟨hsends, fun _ => trivial⟩
  | getAttempt tenantID id => exact getAttempt_operations (fun _ => trivial)
  | findActiveAttempt tenantID assignmentID quizID studentID =>
    apply AllRequests.run_tryCatch
    · exact ⟨trivial, fun _ => trivial⟩
    · exact fun _ => trivial
  | saveAttemptAnswer tenantID id questionID answer =>
    have hkind : call.kind = .save := by
      cases call with
      | saveAnswer | saveAnswerForActor | saveAttemptDraft => rfl
      | _ => simp [RuntimeCall.Sends, RepoRequest.Assigns, RepoRequest.StartsAttempt] at hq
    apply AllRequests.lift_bind
    intro field _
    apply AllRequests.lift_bind
    intro oid _
    apply update_operations
    · simp only [RuntimeCall.SendsOperation, hkind]
      exact ⟨trivial, rfl, rfl, rfl, rfl, rfl, rfl⟩
    · exact fun _ => getAttempt_operations (fun _ => trivial)
  | saveAttemptDraft tenantID id req =>
    have hkind : call.kind = .save := by
      cases call with
      | saveAnswer | saveAnswerForActor | saveAttemptDraft => rfl
      | _ => simp [RuntimeCall.Sends, RepoRequest.Assigns, RepoRequest.StartsAttempt] at hq
    apply AllRequests.lift_bind
    intro oid _
    apply AllRequests.lift_bind
    intro fields _
    apply update_operations
    · simp only [RuntimeCall.SendsOperation, hkind]
      exact ⟨trivial, rfl, rfl, rfl, rfl, rfl, rfl⟩
    · exact fun _ => getAttempt_operations (fun _ => trivial)
  | submitAttempt tenantID id answers submittedAt =>
    have hkind : call.kind = .submit := by
      cases call with
      | submitAttempt | submitAttemptForActor => rfl
      | _ => simp [RuntimeCall.Sends, RepoRequest.Assigns, RepoRequest.StartsAttempt] at hq
    apply AllRequests.lift_bind
    intro oid _
    apply AllRequests.lift_bind
    intro fields _
    apply update_operations
    · simp only [RuntimeCall.SendsOperation, hkind]
      exact .inl ⟨trivial, submittedAt, fields, rfl⟩
    · intro matched
      exact (getAttempt_operations (fun _ => trivial)).run_bind (fun _ => trivial)
  | updateAttempt tenantID id update =>
    apply AllRequests.lift_bind
    intro oid _
    apply update_operations
    · cases call with
      | submitAttempt | submitAttemptForActor =>
        simp only [RuntimeCall.Sends, reduceCtorEq, RepoRequest.updateAttempt.injEq, false_or,
          exists_const] at hq
        obtain ⟨answers, -, -, rfl⟩ := hq
        exact .inr ⟨answers, rfl⟩
      | syncAttempt tenantID attemptID req | syncAttemptForActor tenantID actor attemptID req =>
        simp only [RuntimeCall.Sends, reduceCtorEq, RepoRequest.updateAttempt.injEq, false_or] at hq
        obtain ⟨a, -, -, rfl⟩ := hq
        exact ⟨req, a, rfl⟩
      | _ => simp [RuntimeCall.Sends, RepoRequest.Assigns, RepoRequest.StartsAttempt] at hq
    · exact fun _ => getAttempt_operations (fun _ => trivial)

omit [MongoServer] in
theorem RuntimeCall.sendsOperations (call : RuntimeCall) :
    call.operations.AllRequests call.SendsOperation :=
  AllRequests.interp (fun _ hq => handle_operations hq) call.sends

lemma interleave_replays (s : MongoStore) (calls : List RuntimeCall) (schedule : List (Nat × MongoEnv)) :
    Replays serve s (interleave s calls schedule).history (interleave s calls schedule).store :=
  run_replays s _ schedule

/-- Every executed operation belongs to the call of its thread. -/
lemma history_calls (s : MongoStore) (calls : List RuntimeCall) (schedule : List (Nat × MongoEnv)) :
    ∀ e ∈ (interleave s calls schedule).history,
      ∃ call, calls[e.thread]? = some call ∧ call.SendsOperation e.req := by
  refine history_sent (P := fun i q => ∃ call, calls[i]? = some call ∧ call.SendsOperation q) s ?_ schedule
  intro i p hp
  rw [List.getElem?_map, Option.map_eq_some_iff] at hp
  obtain ⟨call, hcall, rfl⟩ := hp
  exact call.sendsOperations.mono (fun q hq => ⟨call, hcall, hq⟩)

end Operations

/-! ## Submitted attempts stay submitted -/

section Submitted

variable [Library] [MongoServer]

def MongoStore.submitted (s : MongoStore) (id : ObjectID) : Prop :=
  ∃ a, s.attempts.lookup id = some a ∧ a.status = "submitted"

/-- Updates that do not match submitted attempts, or leave what is submitted alone. -/
def MongoRequest.Guarded : MongoRequest → Prop
  | .updateAttempt filter set => filter.unsubmitted = true ∨
      set.status = none ∧ set.submittedAt = none ∧ set.answers = []
  | _ => True

omit [Library] [MongoServer] in
lemma guarded_of_sendsOperation {call : RuntimeCall} {q : MongoRequest} (hkind : call.kind ≠ .sync)
    (hq : call.SendsOperation q) : q.Guarded := by
  cases q with
  | updateAttempt filter set =>
    cases hk : call.kind with
    | save =>
      simp only [RuntimeCall.SendsOperation, hk] at hq
      exact .inl hq.1
    | submit =>
      simp only [RuntimeCall.SendsOperation, hk] at hq
      obtain ⟨hfilter, -⟩ | ⟨answers, rfl⟩ := hq
      · exact .inl hfilter
      · exact .inr ⟨rfl, rfl, rfl⟩
    | sync => exact absurd hk hkind
    | assign => simp [RuntimeCall.SendsOperation, hk] at hq
    | start => simp [RuntimeCall.SendsOperation, hk] at hq
  | _ => trivial

/-- No event of the history, taken in order, takes the status `submitted` away. -/
def StaysSubmitted (s : MongoStore) (history : List MongoEvent) : Prop :=
  ∀ id h₁ h₂ h₃ s₁ s₂, history = h₁ ++ h₂ ++ h₃ → Replays serve s h₁ s₁ → Replays serve s₁ h₂ s₂ →
    s₁.submitted id → s₂.submitted id

/-- A synchronisation writes another status on an attempt that is submitted by then. -/
def Reopens (calls : List RuntimeCall) (e : MongoEvent) : Prop :=
  ∃ call filter set a status, calls[e.thread]? = some call ∧ call.kind = .sync ∧
    e.req = .updateAttempt filter set ∧ Applies e.env filter set e.before a ∧
    a.status = "submitted" ∧ set.status = some status ∧ status ≠ "submitted"

omit [Library] [MongoServer] in
lemma not_matches_submitted {filter : AttemptFilter} {a : Attempt} (hfilter : filter.unsubmitted = true)
    (ha : a.status = "submitted") : ¬filter.matches a := by
  simp [AttemptFilter.matches, hfilter, ha]

lemma submitted_of_event {calls : List RuntimeCall} {e : MongoEvent} (id : ObjectID)
    (hcall : ∃ call, calls[e.thread]? = some call ∧ call.SendsOperation e.req)
    (hreopens : ¬Reopens calls e) (h : e.before.submitted id) : (e.after serve).submitted id := by
  obtain ⟨a, ha, hsubmitted⟩ := h
  obtain hsame | ⟨filter, set, a', hreq, rfl, happlies, hafter⟩ | ⟨a', hreq, hnone, -⟩ :=
    lookup_serve e.env e.req e.before id
  · exact ⟨a, hsame.trans ha, hsubmitted⟩
  · obtain rfl : a = a' := Option.some.inj (ha.symm.trans happlies.stored)
    refine ⟨_, hafter, ?_⟩
    cases hstatus : set.status with
    | none => simpa [hstatus] using hsubmitted
    | some status =>
      by_contra hne
      obtain ⟨call, hthread, hsends⟩ := hcall
      have hne' : status ≠ "submitted" := by simpa [hstatus] using hne
      by_cases hkind : call.kind = .sync
      · exact hreopens ⟨call, filter, set, a, status, hthread, hkind, hreq, happlies, hsubmitted,
          hstatus, hne'⟩
      · have hguarded := guarded_of_sendsOperation hkind hsends
        rw [hreq] at hguarded
        obtain hfilter | ⟨hnone, -⟩ := hguarded
        · exact not_matches_submitted hfilter hsubmitted happlies.matched
        · rw [hstatus] at hnone
          cases hnone
  · rw [ha] at hnone
    cases hnone

/-- In an interleaving of calls the status `submitted` is final exactly if no synchronisation
writes another status on an attempt submitted in the meantime. -/
theorem staysSubmitted_iff (s : MongoStore) (calls : List RuntimeCall) (schedule : List (Nat × MongoEnv)) :
    StaysSubmitted s (interleave s calls schedule).history ↔
      ∀ e ∈ (interleave s calls schedule).history, ¬Reopens calls e := by
  constructor
  · rintro hstays e he ⟨call, filter, set, a, status, -, -, hreq, happlies, hsubmitted, hstatus, hne⟩
    obtain ⟨h₁, h₃, hsplit⟩ := List.append_of_mem he
    have hreplays := interleave_replays s calls schedule
    rw [hsplit, replays_append] at hreplays
    obtain ⟨s₁, hs₁, rfl, -⟩ := hreplays
    have hafter := hstays filter.id h₁ [e] h₃ e.before (e.after serve) (by simp [hsplit]) hs₁ ⟨rfl, rfl⟩
      ⟨a, happlies.stored, hsubmitted⟩
    obtain ⟨a', ha', hsubmitted'⟩ := hafter
    have hlookup := lookup_serve_applies happlies
    rw [← hreq] at hlookup
    obtain rfl : (set.stored e.env.1).apply a = a' := Option.some.inj (hlookup.symm.trans ha')
    exact hne (by simpa [hstatus] using hsubmitted')
  · intro hreopens id h₁ h₂ h₃ s₁ s₂ hsplit _ hs₂ hsubmitted
    refine hs₂.preserves (I := fun s => s.submitted id) hsubmitted ?_
    intro e he hbefore
    have hmem : e ∈ (interleave s calls schedule).history := by
      rw [hsplit]
      simp [he]
    exact submitted_of_event id (history_calls s calls schedule e hmem) (hreopens e hmem) hbefore

lemma not_staysSubmitted {s : MongoStore} {calls : List RuntimeCall}
    {schedule₁ schedule₂ : List (Nat × MongoEnv)} (id : ObjectID)
    (h₁ : (interleave s calls schedule₁).store.submitted id)
    (h₂ : ¬(interleave s calls (schedule₁ ++ schedule₂)).store.submitted id) :
    ¬StaysSubmitted s (interleave s calls (schedule₁ ++ schedule₂)).history := by
  intro hstays
  unfold interleave at h₁ h₂ hstays
  rw [run_append] at h₂ hstays
  obtain ⟨h, hhistory, hreplays⟩ := run_extends
    ((start s (calls.map RuntimeCall.operations)).run serve schedule₁) schedule₂
  refine h₂ (hstays id _ h [] _ _ ?_ (run_replays s _ schedule₁) hreplays h₁)
  rw [hhistory, List.append_nil]

omit [Library] [MongoServer] in
lemma submitted_iff_status {s : MongoStore} {id : ObjectID} :
    s.submitted id ↔ (s.attempts.lookup id).map Attempt.status = some "submitted" := by
  simp [MongoStore.submitted]

end Submitted

section Sample

attribute [local instance] asciiLibrary Sample.server

/-- The thread takes a number of steps without faults. -/
def Sample.steps (thread n : ℕ) : List (Nat × MongoEnv) := List.replicate n (thread, (Sample.env 5, .none))

/-- A synchronisation reads the attempt in progress, the attempt is submitted, and then the
synchronisation writes. -/
theorem sync_reopens_submitted : ¬StaysSubmitted Sample.mongoStore (interleave Sample.mongoStore
    [Sample.start 3, Sample.sync 5 "in_progress", Sample.submit 5]
    ((Sample.steps 0 3 ++ Sample.steps 1 1 ++ Sample.steps 2 2) ++ Sample.steps 1 1)).history := by
  apply not_staysSubmitted (Sample.id 5)
  · rw [submitted_iff_status]
    decide
  · rw [submitted_iff_status]
    decide

end Sample

/-! ## Saving and submitting -/

section Saving

variable [Library] [MongoServer]

/-- The attempt stays stored, and once it is submitted its answers and its submission time
stay as they are. -/
def FrozenAt (id : ObjectID) (s s' : MongoStore) : Prop :=
  ∀ a, s.attempts.lookup id = some a → ∃ a', s'.attempts.lookup id = some a' ∧ a'.tenantID = a.tenantID ∧
    (a.status = "submitted" →
      a'.status = "submitted" ∧ a'.answers = a.answers ∧ a'.submittedAt = a.submittedAt)

omit [Library] [MongoServer] in
lemma FrozenAt.refl (id : ObjectID) (s : MongoStore) : FrozenAt id s s :=
  fun a ha => ⟨a, ha, rfl, fun h => ⟨h, rfl, rfl⟩⟩

omit [Library] [MongoServer] in
lemma FrozenAt.trans {id : ObjectID} {s₁ s₂ s₃ : MongoStore} (h₁ : FrozenAt id s₁ s₂)
    (h₂ : FrozenAt id s₂ s₃) : FrozenAt id s₁ s₃ := by
  intro a ha
  obtain ⟨a', ha', htenant, hsubmitted⟩ := h₁ a ha
  obtain ⟨a'', ha'', htenant', hsubmitted'⟩ := h₂ a' ha'
  refine ⟨a'', ha'', htenant'.trans htenant, fun h => ?_⟩
  obtain ⟨hs, hanswers, htime⟩ := hsubmitted h
  obtain ⟨hs', hanswers', htime'⟩ := hsubmitted' hs
  exact ⟨hs', hanswers'.trans hanswers, htime'.trans htime⟩

omit [Library] [MongoServer] in
lemma FrozenAt.submitted {id : ObjectID} {s s' : MongoStore} (h : FrozenAt id s s') (hs : s.submitted id) :
    s'.submitted id := by
  obtain ⟨a, ha, hsubmitted⟩ := hs
  obtain ⟨a', ha', -, hfrozen⟩ := h a ha
  exact ⟨a', ha', (hfrozen hsubmitted).1⟩

/-- A guarded operation freezes what is submitted. -/
lemma frozenAt_serve {q : MongoRequest} (hq : q.Guarded) (env : MongoEnv) (s : MongoStore) (id : ObjectID) :
    FrozenAt id s (serve env q s).2 := by
  intro a ha
  obtain hsame | ⟨filter, set, a', rfl, rfl, happlies, hafter⟩ | ⟨a', rfl, hnone, -⟩ :=
    lookup_serve env q s id
  · exact ⟨a, hsame.trans ha, rfl, fun h => ⟨h, rfl, rfl⟩⟩
  · obtain rfl : a = a' := Option.some.inj (ha.symm.trans happlies.stored)
    refine ⟨_, hafter, rfl, fun hsubmitted => ?_⟩
    obtain hfilter | ⟨hstatus, htime, hanswers⟩ := hq
    · exact absurd happlies.matched (not_matches_submitted hfilter hsubmitted)
    · simp [AttemptUpdate.stored, AttemptUpdate.toUpdate, AttemptUpdate.kept, AttemptUpdate.apply, hstatus, htime,
        hanswers, hsubmitted]
  · rw [ha] at hnone
    cases hnone

/-- The event submits the attempt. -/
def SubmitsAt (id : ObjectID) (e : MongoEvent) : Prop :=
  (∃ a, e.before.attempts.lookup id = some a ∧ a.status ≠ "submitted") ∧ (e.after serve).submitted id

/-- Among events that freeze submitted attempts, at most one submits. -/
lemma submitsAt_unique {id : ObjectID} {s s' : MongoStore} {h₁ h₂ : List MongoEvent} {e : MongoEvent}
    (hreplays : Replays serve s (h₁ ++ e :: h₂) s')
    (hfrozen : ∀ e' ∈ h₂, FrozenAt id e'.before (e'.after serve)) (he : SubmitsAt id e) :
    ∀ e' ∈ h₂, ¬SubmitsAt id e' := by
  rintro e' he' ⟨⟨a, ha, hunsubmitted⟩, -⟩
  obtain ⟨s₁, -, -, hrest⟩ := replays_append.mp hreplays
  obtain ⟨h₃, h₄, rfl⟩ := List.append_of_mem he'
  obtain ⟨s₂, hs₂, rfl, -⟩ := replays_append.mp hrest
  have hsubmitted : e'.before.submitted id := by
    refine hs₂.preserves (I := fun s => s.submitted id) he.2 ?_
    intro e'' he'' hbefore
    exact (hfrozen e'' (by simp [he''])).submitted hbefore
  obtain ⟨a', ha', hsubmitted'⟩ := hsubmitted
  obtain rfl : a = a' := Option.some.inj (ha.symm.trans ha')
  exact hunsubmitted hsubmitted'

/-- An event of a run without synchronisations freezes submitted attempts. -/
lemma frozenAt_event (s : MongoStore) {calls : List RuntimeCall} (schedule : List (Nat × MongoEnv))
    (hcalls : ∀ call ∈ calls, call.kind ≠ .sync) (id : ObjectID) :
    ∀ e ∈ (interleave s calls schedule).history, FrozenAt id e.before (e.after serve) := by
  intro e he
  obtain ⟨call, hthread, hsends⟩ := history_calls s calls schedule e he
  have hguarded := guarded_of_sendsOperation (hcalls call (List.mem_of_getElem? hthread)) hsends
  exact frozenAt_serve hguarded e.env e.before id

/-- Only a submission changes the status of an attempt to `submitted`. -/
lemma kind_of_submitsAt {id : ObjectID} {e : MongoEvent} {call : RuntimeCall} (hkind : call.kind ≠ .sync)
    (hsends : call.SendsOperation e.req) (hstart : call.kind ≠ .start) (he : SubmitsAt id e) :
    call.kind = .submit := by
  obtain ⟨⟨a, ha, hunsubmitted⟩, a', ha', hsubmitted⟩ := he
  obtain hsame | ⟨filter, set, a'', hreq, rfl, happlies, hafter⟩ | ⟨a'', hreq, hnone, -⟩ :=
    lookup_serve e.env e.req e.before id
  · rw [show (e.after serve).attempts.lookup id = _ from hsame, ha] at ha'
    cases ha'
    exact absurd hsubmitted hunsubmitted
  · obtain rfl : a = a'' := Option.some.inj (ha.symm.trans happlies.stored)
    rw [show (e.after serve).attempts.lookup filter.id = _ from hafter] at ha'
    cases ha'
    rw [hreq] at hsends
    cases hk : call.kind with
    | submit => rfl
    | save =>
      simp only [RuntimeCall.SendsOperation, hk] at hsends
      rw [AttemptUpdate.stored_status, hsends.2.1] at hsubmitted
      exact absurd hsubmitted hunsubmitted
    | sync => exact absurd hk hkind
    | start => exact absurd hk hstart
    | assign => simp [RuntimeCall.SendsOperation, hk] at hsends
  · rw [ha] at hnone
    cases hnone

end Saving

end ErgGo.Lms
