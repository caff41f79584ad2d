import ErgGo.Lms.AttemptService

/-!
# Runtime calls run alone

The calls of the runtime service as one type, and what each of them can do to the stored
records when it runs alone on a repository that meets the contract.
-/

namespace ErgGo.Lms
open Go Documents Concurrent Program

inductive RuntimeCall where
  | createAssignment (tenantID : String) (actor : Actor) (req : CreateAssignmentRequest)
  | startAttempt (tenantID : String) (actor : Actor) (req : StartAttemptRequest)
  | saveAnswer (tenantID attemptID questionID : String) (req : SaveAnswerRequest)
  | saveAnswerForActor (tenantID : String) (actor : Actor) (attemptID questionID : String)
      (req : SaveAnswerRequest)
  | saveAttemptDraft (tenantID : String) (actor : Actor) (attemptID : String) (req : AttemptDraftRequest)
  | submitAttempt (tenantID attemptID : String) (now : Time) (req : SubmitAttemptRequest)
  | submitAttemptForActor (tenantID : String) (actor : Actor) (attemptID : String) (now : Time)
      (req : SubmitAttemptRequest)
  | syncAttempt (tenantID attemptID : String) (req : AttemptSyncRequest)
  | syncAttemptForActor (tenantID : String) (actor : Actor) (attemptID : String) (req : AttemptSyncRequest)

inductive CallKind where
  | assign
  | start
  | save
  | submit
  | sync
  deriving DecidableEq

def RuntimeCall.kind : RuntimeCall → CallKind
  | .createAssignment .. => .assign
  | .startAttempt .. => .start
  | .saveAnswer .. | .saveAnswerForActor .. | .saveAttemptDraft .. => .save
  | .submitAttempt .. | .submitAttemptForActor .. => .submit
  | .syncAttempt .. | .syncAttemptForActor .. => .sync

inductive RuntimeResponse where
  | assignments (response : AssignmentBatchResponse)
  | attempt (response : AttemptResponse)
  | answer (response : AnswerResultResponse)
  | submission (response : AttemptSubmitResponse)
  | sync (response : AttemptSyncResponse)

variable [Library]

def RuntimeCall.program : RuntimeCall → Call RuntimeResponse
  | .createAssignment tenantID actor req =>
    return .assignments (← Service.createAssignment tenantID actor req)
  | .startAttempt tenantID actor req => return .attempt (← Service.startAttempt tenantID actor req)
  | .saveAnswer tenantID attemptID questionID req =>
    return .answer (← Service.saveAnswer tenantID attemptID questionID req)
  | .saveAnswerForActor tenantID actor attemptID questionID req =>
    return .answer (← Service.saveAnswerForActor tenantID actor attemptID questionID req)
  | .saveAttemptDraft tenantID actor attemptID req =>
    return .attempt (← Service.saveAttemptDraft tenantID actor attemptID req)
  | .submitAttempt tenantID attemptID now req =>
    return .submission (← Service.submitAttempt tenantID attemptID now req)
  | .submitAttemptForActor tenantID actor attemptID now req =>
    return .submission (← Service.submitAttemptForActor tenantID actor attemptID now req)
  | .syncAttempt tenantID attemptID req => return .sync (← Service.syncAttempt tenantID attemptID req)
  | .syncAttemptForActor tenantID actor attemptID req =>
    return .sync (← Service.syncAttemptForActor tenantID actor attemptID req)

/-- The requests of `CreateAssignment`, which never touch an attempt. -/
def RepoRequest.Assigns : RepoRequest → Prop
  | .getClass .. | .getCenter .. | .listStudents .. | .getQuiz .. | .createAssignment .. => True
  | _ => False

/-- The requests of `StartAttempt`. -/
def RepoRequest.StartsAttempt : RepoRequest → Prop
  | .getAssignment .. | .findActiveAttempt .. => True
  | .createAttempt a => a.status = "" ∧ a.submittedAt = none ∧ a.answers = ∅ ∧
    a.score = 0 ∧ a.maxScore = 100 ∧ a.percent = 0 ∧ a.passed = false
  | _ => False

/-- The requests a call may send. -/
def RuntimeCall.Sends : RuntimeCall → RepoRequest → Prop
  | .createAssignment .., q => q.Assigns
  | .startAttempt .., q => q.StartsAttempt
  | .saveAnswer tenantID attemptID questionID req, q
  | .saveAnswerForActor tenantID _ attemptID questionID req, q =>
    q = .getAttempt tenantID attemptID ∨
      q = .saveAttemptAnswer tenantID attemptID questionID (Service.attemptAnswer questionID req)
  | .saveAttemptDraft tenantID _ attemptID req, q =>
    q = .getAttempt tenantID attemptID ∨ q = .saveAttemptDraft tenantID attemptID req
  | .submitAttempt tenantID attemptID _ _, q | .submitAttemptForActor tenantID _ attemptID _ _, q =>
    q = .getAttempt tenantID attemptID ∨
      (∃ answers submittedAt, q = .submitAttempt tenantID attemptID answers submittedAt) ∨
      ∃ answers, q = .updateAttempt tenantID attemptID (Service.scoreUpdate answers)
  | .syncAttempt tenantID attemptID req, q | .syncAttemptForActor tenantID _ attemptID req, q =>
    q = .getAttempt tenantID attemptID ∨
      ∃ a, q = .updateAttempt tenantID attemptID (Service.syncUpdate req a)

section Requests

omit [Library] in
lemma allRequests_repo_bind {α : Type} {P : RepoRequest → Prop} {q : RepoRequest}
    {f : RepoResult q → Call α} (hq : P q) (hf : ∀ a, (f a).run.AllRequests P) :
    (repo q >>= f).run.AllRequests P :=
  AllRequests.run_bind ⟨hq, fun _ => trivial⟩ hf

lemma canManageClass_sends {P : RepoRequest → Prop} {tenantID : String} (hP : ∀ id, P (.getCenter tenantID id))
    (actor : Actor) (class' : Class) : (Service.canManageClass tenantID actor class').AllRequests P := by
  apply AllRequests.ite
  · trivial
  apply AllRequests.ite
  · trivial
  apply AllRequests.send_bind (hP _)
  rintro (e | _ | center)
  · trivial
  · trivial
  · dsimp only
    generalize (decide (centerType center = "school") && !center.parentID.isZero) = isSchool
    apply AllRequests.ite
    · trivial
    apply AllRequests.ite
    · apply AllRequests.send_bind (hP _)
      rintro (e | _ | parent) <;> trivial
    · trivial

lemma createAssignment_sends (tenantID : String) (actor : Actor) (req : CreateAssignmentRequest) :
    (Service.createAssignment tenantID actor req).run.AllRequests RepoRequest.Assigns := by
  apply allRequests_repo_bind
  · trivial
  intro found
  apply AllRequests.lift_bind
  intro class' _
  refine AllRequests.run_bind ?_ ?_
  · exact (canManageClass_sends (fun _ => trivial) actor class').bind (fun _ => trivial)
  intro allowed
  apply AllRequests.lift_bind
  intro _ _
  refine AllRequests.run_bind ?_ ?_
  · unfold Service.assignmentRecipients
    split_ifs
    · apply allRequests_repo_bind
      · trivial
      · exact fun _ => trivial
    · trivial
  intro recipients
  apply AllRequests.lift_bind
  intro _ _
  refine AllRequests.run_bind (AllRequests.run_mapM ?_) (fun _ => trivial)
  intro quizID
  apply allRequests_repo_bind
  · trivial
  intro quiz
  apply AllRequests.lift_bind
  intro quiz' _
  apply allRequests_repo_bind
  · trivial
  · exact fun _ => trivial

omit [Library] in
/-- The calls on one attempt start by reading it. -/
lemma allRequests_getAttempt {α : Type} {P : RepoRequest → Prop} {tenantID id : String}
    {f : Attempt → Call α} (hq : P (.getAttempt tenantID id)) (hf : ∀ a, (f a).run.AllRequests P) :
    (do f (← required (← repo (.getAttempt tenantID id)))).run.AllRequests P := by
  apply allRequests_repo_bind hq
  intro found
  apply AllRequests.lift_bind
  exact fun a _ => hf a

omit [Library] in
lemma startAttempt_sends (tenantID : String) (actor : Actor) (req : StartAttemptRequest) :
    (Service.startAttempt tenantID actor req).run.AllRequests RepoRequest.StartsAttempt := by
  have hfind : ∀ assignmentID quizID studentID, (Service.findActive tenantID assignmentID quizID
      studentID).run.AllRequests RepoRequest.StartsAttempt := by
    intro assignmentID quizID studentID
    apply AllRequests.run_tryCatch
    · exact ⟨trivial, fun _ => trivial⟩
    · exact fun _ => trivial
  apply allRequests_repo_bind
  · trivial
  intro found
  apply AllRequests.lift_bind
  intro assignment _
  apply AllRequests.lift_bind
  intro studentID _
  apply AllRequests.lift_bind
  intro _ _
  apply AllRequests.lift_bind
  intro quizID _
  apply (hfind _ _ _).run_bind
  rintro (_ | active)
  · apply AllRequests.run_tryCatch
    · apply allRequests_repo_bind
      · exact ⟨rfl, rfl, rfl, rfl, rfl, rfl, rfl⟩
      · exact fun _ => trivial
    · intro err
      apply (hfind _ _ _).run_bind
      rintro (_ | active) <;> trivial
  · trivial

variable {P : RepoRequest → Prop} {tenantID attemptID : String} (hread : P (.getAttempt tenantID attemptID))
include hread

lemma saveAnswer_sends {questionID : String} {req : SaveAnswerRequest}
    (hsave : P (.saveAttemptAnswer tenantID attemptID questionID (Service.attemptAnswer questionID req))) :
    (Service.saveAnswer tenantID attemptID questionID req).run.AllRequests P := by
  apply AllRequests.lift_bind
  intro _ _
  apply allRequests_getAttempt hread
  intro a
  apply AllRequests.lift_bind
  intro _ _
  apply allRequests_repo_bind hsave
  intro found
  apply AllRequests.lift_bind
  intro updated _
  apply AllRequests.lift_bind
  exact fun _ _ => trivial

lemma saveAttemptDraft_sends {actor : Actor} {req : AttemptDraftRequest}
    (hsave : P (.saveAttemptDraft tenantID attemptID req)) :
    (Service.saveAttemptDraft tenantID actor attemptID req).run.AllRequests P := by
  apply AllRequests.lift_bind
  intro _ _
  apply allRequests_getAttempt hread
  intro a
  apply AllRequests.lift_bind
  intro _ _
  apply AllRequests.lift_bind
  intro _ _
  apply AllRequests.lift_bind
  intro _ _
  apply allRequests_repo_bind hsave
  intro found
  apply AllRequests.lift_bind
  intro updated _
  apply AllRequests.lift_bind
  exact fun _ _ => trivial

lemma submitAttempt_sends {now : Time} {req : SubmitAttemptRequest}
    (hsubmit : ∀ answers submittedAt, P (.submitAttempt tenantID attemptID answers submittedAt))
    (hscore : ∀ answers, P (.updateAttempt tenantID attemptID (Service.scoreUpdate answers))) :
    (Service.submitAttempt tenantID attemptID now req).run.AllRequests P := by
  apply AllRequests.lift_bind
  intro _ _
  apply allRequests_getAttempt hread
  intro a
  split_ifs
  · trivial
  · apply allRequests_repo_bind (hsubmit _ _)
    rintro ⟨found, didSubmit⟩
    apply AllRequests.lift_bind
    intro updated _
    split_ifs
    · trivial
    · apply allRequests_repo_bind (hscore _)
      intro scored
      apply AllRequests.lift_bind
      exact fun _ _ => trivial

lemma syncAttempt_sends {req : AttemptSyncRequest}
    (hsync : ∀ a, P (.updateAttempt tenantID attemptID (Service.syncUpdate req a))) :
    (Service.syncAttempt tenantID attemptID req).run.AllRequests P := by
  apply AllRequests.lift_bind
  intro _ _
  apply allRequests_getAttempt hread
  intro a
  apply AllRequests.lift_bind
  intro _ _
  apply allRequests_repo_bind (hsync a)
  intro found
  apply AllRequests.lift_bind
  exact fun _ _ => trivial

omit hread in
theorem RuntimeCall.sends (call : RuntimeCall) : call.program.run.AllRequests call.Sends := by
  cases call with
  | createAssignment tenantID actor req =>
    exact (createAssignment_sends tenantID actor req).run_bind (fun _ => trivial)
  | startAttempt tenantID actor req =>
    exact (startAttempt_sends tenantID actor req).run_bind (fun _ => trivial)
  | saveAnswer tenantID attemptID questionID req =>
    exact (saveAnswer_sends (.inl rfl) (.inr rfl)).run_bind (fun _ => trivial)
  | saveAnswerForActor tenantID actor attemptID questionID req =>
    apply AllRequests.run_bind
    · apply allRequests_getAttempt (.inl rfl)
      intro a
      apply AllRequests.lift_bind
      exact fun _ _ => saveAnswer_sends (.inl rfl) (.inr rfl)
    · exact fun _ => trivial
  | saveAttemptDraft tenantID actor attemptID req =>
    exact (saveAttemptDraft_sends (.inl rfl) (.inr rfl)).run_bind (fun _ => trivial)
  | submitAttempt tenantID attemptID now req =>
    exact (submitAttempt_sends (.inl rfl) (fun _ _ => .inr (.inl ⟨_, _, rfl⟩))
      (fun _ => .inr (.inr ⟨_, rfl⟩))).run_bind (fun _ => trivial)
  | submitAttemptForActor tenantID actor attemptID now req =>
    apply AllRequests.run_bind
    · apply allRequests_getAttempt (.inl rfl)
      intro a
      apply AllRequests.lift_bind
      intro _ _
      split_ifs
      · trivial
      · exact submitAttempt_sends (.inl rfl) (fun _ _ => .inr (.inl ⟨_, _, rfl⟩))
          (fun _ => .inr (.inr ⟨_, rfl⟩))
    · exact fun _ => trivial
  | syncAttempt tenantID attemptID req =>
    exact (syncAttempt_sends (.inl rfl) (fun _ => .inr ⟨_, rfl⟩)).run_bind (fun _ => trivial)
  | syncAttemptForActor tenantID actor attemptID req =>
    apply AllRequests.run_bind
    · apply allRequests_getAttempt (.inl rfl)
      intro a
      apply AllRequests.lift_bind
      exact fun _ _ => syncAttempt_sends (.inl rfl) (fun _ => .inr ⟨_, rfl⟩)
    · exact fun _ => trivial

end Requests

/-- The attempt that passes every check of a synchronisation, with the request. -/
def RuntimeCall.syncs (s : Records) : RuntimeCall → Option (Attempt × AttemptSyncRequest)
  | .syncAttempt tenantID attemptID req => check tenantID attemptID req (fun _ => .ok ())
  | .syncAttemptForActor tenantID actor attemptID req =>
    check tenantID attemptID req (Service.ensureActorCanAccessAttempt actor)
  | _ => none
where
  check (tenantID attemptID : String) (req : AttemptSyncRequest) (access : Attempt → Except LmsError Unit) :
      Option (Attempt × AttemptSyncRequest) := do
    let oid ← (objectID attemptID).toOption
    let attempt ← s.getAttempt tenantID oid
    (access attempt).toOption
    (validateAttemptPayload none req.events req.client).toOption
    if attempt.packageHash = req.packageHash then some (attempt, req) else none

/-- The assignment, the student and the quiz of a `StartAttempt` that passes its checks. -/
def RuntimeCall.starts (s : Records) : RuntimeCall → Option (Assignment × ObjectID × ObjectID)
  | .startAttempt tenantID actor req => do
    let oid ← (objectID req.assignmentID).toOption
    let assignment ← s.getAssignment tenantID oid
    let studentID ← (objectID actor.userID).toOption
    let quizID ← (objectID req.quizID).toOption
    if Service.assignmentIncludesStudent assignment studentID then some (assignment, studentID, quizID)
    else none
  | _ => none

/-- A new attempt as `StartAttempt` creates it for a recipient of an assignment, when it has
found none in progress. -/
structure Starts (s : Records) (call : RuntimeCall) (created : Attempt) : Prop where
  checks : ∃ assignment, call.starts s = some (assignment, created.studentID, created.quizID) ∧
    s.getAssignment created.tenantID created.assignmentID = some assignment
  alone : s.attempts.find? (Attempt.activeFor created.activeKey) = none
  status : created.status = "in_progress"
  submittedAt : created.submittedAt = none
  answers : created.answers = ∅
  ungraded : created.score = 0 ∧ created.maxScore = 100 ∧ created.percent = 0 ∧ created.passed = false

/-- What a call can do to the records, and whether it succeeds. -/
inductive Effect (call : RuntimeCall) (s : Records) : Bool → Records → Prop
  | failed : Effect call s false s
  | assigned (ok : Bool) (created : List Assignment) : call.kind = .assign →
      Effect call s ok { s with assignments := s.assignments ++ created }
  | resumed (assignment : Assignment) (tenantID : String) (assignmentID quizID studentID : ObjectID)
      (active : Attempt) : call.starts s = some (assignment, studentID, quizID) →
      s.getAssignment tenantID assignmentID = some assignment →
      s.attempts.find? (Attempt.activeFor (tenantID, assignmentID, quizID, studentID)) = some active →
      Effect call s true s
  | started (created : Attempt) : Starts s call created →
      Effect call s true { s with attempts := s.attempts ++ [created] }
  | edited (ok : Bool) (tenantID : String) (id : ObjectID) (u : AttemptUpdate) (now : Time) :
      call.kind = .save → u.ContentOnly →
      Effect call s ok (s.modifyAttempt tenantID id (u.applyUnsubmitted now))
  | synced (ok : Bool) (tenantID : String) (id : ObjectID) (a : Attempt) (req : AttemptSyncRequest)
      (now : Time) : call.syncs s = some (a, req) → s.getAttempt tenantID id = some a →
      Effect call s ok (s.modifyAttempt tenantID id ((Service.syncUpdate req a).apply now))
  | alreadySubmitted : call.kind = .submit → Effect call s true s
  | submitted (tenantID : String) (id : ObjectID) (submittedAt : Time)
      (answers : List (String × AttemptAnswer)) (now : Time) : call.kind = .submit →
      Effect call s false (s.modifyAttempt tenantID id
        ((AttemptUpdate.submit submittedAt answers).applyUnsubmitted now))
  | scored (ok : Bool) (tenantID : String) (id : ObjectID) (submittedAt : Time)
      (answers : List (String × AttemptAnswer)) (now now' : Time) (a : Attempt) :
      call.kind = .submit → s.getAttempt tenantID id = some a → a.status ≠ "submitted" →
      Effect call s ok (s.modifyAttempt tenantID id (fun a =>
        let a := (AttemptUpdate.submit submittedAt answers).apply now a
        (Service.scoreUpdate a.answers.len).apply now' a))

section Alone

variable {σ : Type} (r : Repository σ)

omit [Library] in
/-- One request, then the rest of the call. -/
lemma ensures_repo_bind {α : Type} {q : RepoRequest} {f : RepoResult q → Call α}
    {post : Except LmsError α → σ → Prop} {s : σ}
    (herror : ∀ env e s', Contract r.keeps env (r.records s) (r.records s') q (.error e) → post (.error e) s')
    (hok : ∀ env a s', Contract r.keeps env (r.records s) (r.records s') q (.ok a) →
      Ensures r.exec post (f a).run s') : Ensures r.exec post (repo q >>= f).run s := by
  apply Ensures.run_bind
  intro env
  have h := r.contract env q s
  cases hreply : (r.exec env q s).1 with
  | ok a =>
    rw [hreply] at h
    exact hok env a _ h
  | error e =>
    rw [hreply] at h
    exact herror env e _ h

variable (call : RuntimeCall) (R : Records)

/-- The effect of a call or of a part of it. -/
def Leads {α : Type} : Except LmsError α → σ → Prop := fun resp s' => Effect call R resp.isOk (r.records s')

variable {r call R}

lemma Leads.failed {α : Type} {e : LmsError} {s : σ} (hs : r.records s = R) :
    Leads r call R (.error e : Except LmsError α) s := by
  rw [Leads, hs]
  exact Effect.failed

lemma Leads.alreadySubmitted {α : Type} {resp : α} {s : σ} (hcall : call.kind = .submit)
    (hs : r.records s = R) : Leads r call R (.ok resp) s := by
  rw [Leads, hs]
  exact Effect.alreadySubmitted hcall

/-- Reading an attempt, which must exist. -/
lemma leads_getAttempt {α : Type} {tenantID id : String} {f : Attempt → Call α} {s : σ}
    (hs : r.records s = R)
    (hf : ∀ a oid s', r.records s' = R → objectID id = .ok oid → R.getAttempt tenantID oid = some a →
      Ensures r.exec (Leads r call R) (f a).run s') :
    Ensures r.exec (Leads r call R) (do f (← required (← repo (.getAttempt tenantID id)))).run s := by
  apply ensures_repo_bind
  · intro env e s' h
    exact .failed (h.trans hs)
  · rintro env found s' ⟨h, oid, hid, hfound⟩
    rw [hs] at h hfound
    apply Ensures.lift_bind
    · exact fun e _ => .failed h
    · intro a ha
      exact hf a oid s' h hid (hfound.symm.trans (required_ok ha))

/-- A check that changes nothing. -/
lemma leads_check {α β : Type} {x : Except LmsError α} {f : α → Call β} {s : σ} (hs : r.records s = R)
    (hf : ∀ a, x = .ok a → Ensures r.exec (Leads r call R) (f a).run s) :
    Ensures r.exec (Leads r call R) ((liftM x : Call α) >>= f).run s :=
  Ensures.lift_bind (fun _ _ => .failed hs) hf

lemma saveAnswer_leads {tenantID attemptID questionID : String} {req : SaveAnswerRequest} {s : σ}
    (hcall : call.kind = .save) (hs : r.records s = R) :
    Ensures r.exec (Leads r call R) (Service.saveAnswer tenantID attemptID questionID req).run s := by
  apply leads_check hs
  intro _ _
  apply leads_getAttempt hs
  intro a oid s₁ hs₁ _ _
  apply leads_check hs₁
  intro _ _
  apply ensures_repo_bind
  · intro env e s' h
    exact .failed (h.trans hs₁)
  · rintro env found s' ⟨oid', field, hid', hfound, h⟩
    rw [hs₁] at h
    have hedit : ∀ ok, Effect call R ok (r.records s') := by
      intro ok
      rw [h]
      exact .edited ok tenantID oid' _ (r.keeps env.now) hcall ⟨rfl, rfl, rfl, rfl, rfl, rfl⟩
    apply Ensures.lift_bind
    · exact fun e _ => hedit _
    · intro a' _
      apply Ensures.lift_bind
      · exact fun e _ => hedit _
      · exact fun _ _ => hedit _

lemma saveAttemptDraft_leads {tenantID attemptID : String} {actor : Actor} {req : AttemptDraftRequest}
    {s : σ} (hcall : call.kind = .save) (hs : r.records s = R) :
    Ensures r.exec (Leads r call R) (Service.saveAttemptDraft tenantID actor attemptID req).run s := by
  apply leads_check hs
  intro _ _
  apply leads_getAttempt hs
  intro a oid s₁ hs₁ _ _
  apply leads_check hs₁
  intro _ _
  apply leads_check hs₁
  intro _ _
  apply leads_check hs₁
  intro _ _
  apply ensures_repo_bind
  · intro env e s' h
    exact .failed (h.trans hs₁)
  · rintro env found s' ⟨oid', u, hid', hfound, hcontent, h⟩
    rw [hs₁] at h
    have hedit : ∀ ok, Effect call R ok (r.records s') := by
      intro ok
      rw [h]
      exact .edited ok tenantID oid' u (r.keeps env.now) hcall hcontent
    apply Ensures.lift_bind
    · exact fun e _ => hedit _
    · intro a' _
      apply Ensures.lift_bind
      · exact fun e _ => hedit _
      · exact fun _ _ => hedit _

lemma submitAttempt_leads {tenantID attemptID : String} {now : Time} {req : SubmitAttemptRequest} {s : σ}
    (hcall : call.kind = .submit) (hs : r.records s = R) :
    Ensures r.exec (Leads r call R) (Service.submitAttempt tenantID attemptID now req).run s := by
  apply leads_check hs
  intro _ _
  apply leads_getAttempt hs
  intro a oid s₁ hs₁ hid ha
  by_cases hsubmitted : a.status = "submitted"
  · rw [if_pos hsubmitted]
    exact .alreadySubmitted hcall hs₁
  · rw [if_neg hsubmitted]
    apply ensures_repo_bind
    · intro env e s' h
      exact .failed (h.trans hs₁)
    · rintro env ⟨found, didSubmit⟩ s₂ ⟨oid', fields, hid', hfound, hdid, h⟩
      obtain rfl : oid = oid' := Except.ok.inj (hid.symm.trans hid')
      rw [hs₁] at h hdid
      obtain ⟨u, hu⟩ : ∃ u, AttemptUpdate.submit (r.keeps (req.submittedAt.getD now)) fields = u := ⟨_, rfl⟩
      rw [hu] at h
      have happly : R.modifyAttempt tenantID oid (u.applyUnsubmitted (r.keeps env.now)) =
          R.modifyAttempt tenantID oid (u.apply (r.keeps env.now)) := by
        apply Records.modifyAttempt_congr
        intro a' ha'
        obtain rfl : a = a' := Option.some.inj (ha.symm.trans ha')
        exact if_neg hsubmitted
      have hfound' : found = some (u.apply (r.keeps env.now) a) := by
        rw [hfound, h, happly, Records.getAttempt_modifyAttempt _ _ _ (by simp), ha]
        rfl
      have hpartial : Effect call R false (r.records s₂) := by
        rw [h, ← hu]
        exact .submitted tenantID oid _ fields (r.keeps env.now) hcall
      subst hfound'
      apply Ensures.lift_bind
      · exact fun e _ => hpartial
      · intro updated hupdated
        obtain rfl : u.apply (r.keeps env.now) a = updated := Option.some.inj (required_ok hupdated)
        have hdid' : didSubmit = true := by
          rw [hdid, ha]
          simpa using hsubmitted
        rw [hdid', Bool.not_true, Bool.false_and, if_neg (by simp)]
        apply ensures_repo_bind
        · intro env' e s' h'
          rw [Leads, show r.records s' = r.records s₂ from h']
          exact hpartial
        · rintro env' found' s₃ ⟨oid', hid₃, hfound₃, h₃⟩
          obtain rfl : oid = oid' := Except.ok.inj (hid.symm.trans hid₃)
          have hscored : ∀ ok, Effect call R ok (r.records s₃) := by
            intro ok
            have heq : r.records s₃ = R.modifyAttempt tenantID oid (fun a =>
                (Service.scoreUpdate (u.apply (r.keeps env.now) a).answers.len).apply (r.keeps env'.now)
                  (u.apply (r.keeps env.now) a)) := by
              rw [h₃, h, happly, Records.modifyAttempt_modifyAttempt _ _ _ (by simp)]
              apply Records.modifyAttempt_congr
              intro a' ha'
              obtain rfl : a = a' := Option.some.inj (ha.symm.trans ha')
              rfl
            rw [heq, ← hu]
            exact .scored ok tenantID oid _ fields (r.keeps env.now) (r.keeps env'.now) a hcall ha hsubmitted
          apply Ensures.lift_bind
          · exact fun e _ => hscored _
          · exact fun _ _ => hscored _

lemma syncAttempt_leads {tenantID attemptID : String} {req : AttemptSyncRequest} {s : σ}
    (hs : r.records s = R)
    (hsyncs : ∀ a oid, objectID attemptID = .ok oid → R.getAttempt tenantID oid = some a →
      validateAttemptPayload none req.events req.client = .ok () → a.packageHash = req.packageHash →
      call.syncs R = some (a, req)) :
    Ensures r.exec (Leads r call R) (Service.syncAttempt tenantID attemptID req).run s := by
  apply leads_check hs
  intro _ hvalid
  apply leads_getAttempt hs
  intro a oid s₁ hs₁ hid ha
  apply leads_check hs₁
  intro _ hhash
  have hhash' : a.packageHash = req.packageHash := by simpa using rejectIf_ok hhash
  apply ensures_repo_bind
  · intro env e s' h
    exact .failed (h.trans hs₁)
  · rintro env found s' ⟨oid', hid', hfound, h⟩
    obtain rfl : oid = oid' := Except.ok.inj (hid.symm.trans hid')
    rw [hs₁] at h
    have hsynced : ∀ ok, Effect call R ok (r.records s') := by
      intro ok
      rw [h]
      exact .synced ok tenantID oid a req (r.keeps env.now) (hsyncs a oid hid ha hvalid hhash') ha
    apply Ensures.lift_bind
    · exact fun e _ => hsynced _
    · exact fun _ _ => hsynced _

lemma leads_findActive {α : Type} {tenantID : String} {assignmentID quizID studentID : ObjectID}
    {f : Option Attempt → Call α} {s : σ} (hs : r.records s = R)
    (hf : ∀ s', r.records s' = R → Ensures r.exec (Leads r call R) (f (R.attempts.find?
      (Attempt.activeFor (tenantID, assignmentID, quizID, studentID)))).run s') :
    Ensures r.exec (Leads r call R) (Service.findActive tenantID assignmentID quizID studentID >>= f).run s := by
  apply Ensures.run_bind
  unfold Service.findActive
  rw [run_tryCatch]
  apply Ensures.bind
  intro env
  obtain ⟨hrecords, hreply⟩ :=
    r.contract env (.findActiveAttempt tenantID assignmentID quizID studentID) s
  rw [hreply, hs]
  exact hf _ (hrecords.trans hs)

lemma startAttempt_leads {tenantID : String} {actor : Actor} {req : StartAttemptRequest} {s : σ}
    (hcall : call = .startAttempt tenantID actor req) (hs : r.records s = R) :
    Ensures r.exec (Leads r call R) (Service.startAttempt tenantID actor req).run s := by
  apply ensures_repo_bind
  · intro env e s' h
    exact .failed (h.trans hs)
  rintro env found s₁ ⟨hs₁, oid, hid, hfound⟩
  rw [hs] at hs₁ hfound
  apply leads_check hs₁
  intro assignment hassignment
  apply leads_check hs₁
  intro studentID hstudentID
  apply leads_check hs₁
  intro _ hincludes
  apply leads_check hs₁
  intro quizID hquizID
  have hassignment' : R.getAssignment tenantID oid = some assignment :=
    hfound.symm.trans (required_ok hassignment)
  have hstudentID' : objectID actor.userID = .ok studentID := by
    cases h : objectID actor.userID with
    | ok id =>
      rw [h] at hstudentID
      exact hstudentID
    | error e =>
      rw [h] at hstudentID
      cases hstudentID
  have hincludes' : Service.assignmentIncludesStudent assignment studentID = true :=
    by
    simpa only [Bool.not_eq_eq_eq_not, Bool.not_false] using rejectIf_ok hincludes
  have hstarts : (RuntimeCall.startAttempt tenantID actor req).starts R =
      some (assignment, studentID, quizID) := by
    simp [RuntimeCall.starts, hid, hassignment', hstudentID', hquizID, hincludes', Except.toOption]
  have hassignmentID : (objectID req.assignmentID).toOption.getD .nil = oid := by
    rw [hid]
    rfl
  generalize (objectID req.assignmentID).toOption.getD .nil = assignmentID at hassignmentID
  subst hassignmentID
  apply leads_findActive hs₁
  intro s₂ hs₂
  cases hactive : R.attempts.find? (Attempt.activeFor (tenantID, assignmentID, quizID, studentID)) with
  | some active =>
    show Effect call R true (r.records s₂)
    rw [hs₂]
    exact .resumed assignment tenantID assignmentID quizID studentID active (hcall ▸ hstarts)
      hassignment' hactive
  | none =>
    dsimp only
    rw [run_tryCatch]
    apply Ensures.bind
    apply ensures_repo_bind
    · intro env e s₃ h
      apply leads_findActive (h.trans hs₂)
      intro s₄ hs₄
      rw [hactive]
      exact .failed hs₄
    · rintro env created s₃ ⟨h, startedAt, hcreated⟩
      rw [hs₂] at h
      have hcreates : Starts R call (created.kept r.keeps) := by
        subst hcreated
        exact
          { checks := ⟨assignment, hcall ▸ hstarts, hassignment'⟩
            alone := hactive
            status := rfl
            submittedAt := rfl
            answers := rfl
            ungraded := ⟨rfl, rfl, rfl, rfl⟩ }
      show Effect call R true (r.records s₃)
      rw [h]
      exact .started (created.kept r.keeps) hcreates

omit [Library] in
/-- A request that cannot touch an attempt only adds assignments. -/
lemma assigns_step {q : RepoRequest} (hq : q.Assigns) (env : Env) (s : σ)
    (h : ∃ created, r.records s = { R with assignments := R.assignments ++ created }) :
    ∃ created, r.records (r.exec env q s).2 = { R with assignments := R.assignments ++ created } := by
  obtain ⟨created, hs⟩ := h
  have hcontract := r.contract env q s
  have hsame : r.records (r.exec env q s).2 = r.records s ∨
      ∃ a, r.records (r.exec env q s).2 =
        { r.records s with assignments := (r.records s).assignments ++ [a] } := by
    cases q with
    | createAssignment assignment =>
      cases hreply : (r.exec env (.createAssignment assignment) s).1 with
      | ok a =>
        rw [hreply] at hcontract
        exact .inr ⟨a.kept r.keeps, hcontract.2⟩
      | error e =>
        rw [hreply] at hcontract
        exact .inl hcontract
    | getClass tenantID id => exact .inl hcontract
    | getCenter tenantID id => exact .inl hcontract
    | listStudents tenantID req centerIDs classIDs => exact .inl hcontract
    | getQuiz tenantID id => exact .inl hcontract
    | _ => exact hq.elim
  obtain h | ⟨a, h⟩ := hsame
  · exact ⟨created, h.trans hs⟩
  · refine ⟨created ++ [a], ?_⟩
    rw [h, hs, List.append_assoc]

lemma createAssignment_leads {tenantID : String} {actor : Actor} {req : CreateAssignmentRequest} {s : σ}
    (hcall : call.kind = .assign) (hs : r.records s = R) :
    Ensures r.exec (Leads r call R) (Service.createAssignment tenantID actor req).run s := by
  have hstart : ∃ created, r.records s = { R with assignments := R.assignments ++ created } :=
    ⟨[], by rw [hs, List.append_nil]⟩
  have hrun := Ensures.of_allRequests (fun env q s hq => assigns_step hq env s)
    (createAssignment_sends tenantID actor req) hstart
  refine hrun.mono ?_
  rintro resp s' ⟨created, hs'⟩
  rw [Leads, hs']
  exact .assigned _ created hcall

/-- Wrapping the response changes nothing. -/
lemma leads_return {α : Type} {m : Call α} {g : α → RuntimeResponse} {s : σ}
    (h : Ensures r.exec (Leads r call R) m.run s) :
    Ensures r.exec (Leads r call R) (do return g (← m)).run s := by
  apply Ensures.run_bind
  refine h.mono ?_
  rintro (e | a) s' hs'
  · exact hs'
  · exact hs'

/-- What a call can do when it runs alone. -/
theorem RuntimeCall.effect (call : RuntimeCall) (s : σ) :
    Ensures r.exec (Leads r call (r.records s)) call.program.run s := by
  cases call with
  | createAssignment tenantID actor req => exact leads_return (createAssignment_leads rfl rfl)
  | startAttempt tenantID actor req => exact leads_return (startAttempt_leads rfl rfl)
  | saveAnswer tenantID attemptID questionID req => exact leads_return (saveAnswer_leads rfl rfl)
  | saveAnswerForActor tenantID actor attemptID questionID req =>
    apply leads_return
    apply leads_getAttempt rfl
    intro a oid s₁ hs₁ _ _
    apply leads_check hs₁
    exact fun _ _ => saveAnswer_leads rfl hs₁
  | saveAttemptDraft tenantID actor attemptID req => exact leads_return (saveAttemptDraft_leads rfl rfl)
  | submitAttempt tenantID attemptID now req => exact leads_return (submitAttempt_leads rfl rfl)
  | submitAttemptForActor tenantID actor attemptID now req =>
    apply leads_return
    apply leads_getAttempt rfl
    intro a oid s₁ hs₁ _ _
    apply leads_check hs₁
    intro _ _
    split_ifs
    · exact .alreadySubmitted rfl hs₁
    · exact submitAttempt_leads rfl hs₁
  | syncAttempt tenantID attemptID req =>
    apply leads_return
    apply syncAttempt_leads rfl
    intro a oid hid ha hvalid hhash
    simp [RuntimeCall.syncs, RuntimeCall.syncs.check, hid, ha, hvalid, hhash, Except.toOption]
  | syncAttemptForActor tenantID actor attemptID req =>
    apply leads_return
    apply leads_getAttempt rfl
    intro a oid s₁ hs₁ hid ha
    apply leads_check hs₁
    intro _ haccess
    apply syncAttempt_leads hs₁
    intro a' oid' hid' ha' hvalid hhash
    obtain rfl : oid = oid' := Except.ok.inj (hid.symm.trans hid')
    obtain rfl : a = a' := Option.some.inj (ha.symm.trans ha')
    simp [RuntimeCall.syncs, RuntimeCall.syncs.check, hid, ha, hvalid, hhash, haccess, Except.toOption]

end Alone

end ErgGo.Lms
