import ErgGo.Lms.SequentialRuns

/-!
# Invariants of the stored attempts

Over runs of calls that do not overlap: submitted attempts are graded, at most one attempt
is in progress for a key, and an attempt is for the quiz of its assignment. Each invariant
comes with the one kind of call that breaks it.
-/

namespace ErgGo.Lms
open Go Documents Concurrent Program

/-! ## Grading -/

section Grading

variable [Library]

/-- The grading of an attempt is the one computed from its stored answers. -/
def Attempt.Graded (a : Attempt) : Prop :=
  a.submittedAt.isSome ∧ a.score = (Service.attemptScore a.answers.len).1 ∧
    a.percent = (Service.attemptScore a.answers.len).2 ∧ a.passed = decide (a.percent ≥ 50)

def SubmittedGraded (R : Records) : Prop := ∀ a ∈ R.attempts, a.status = "submitted" → a.Graded

/-- Only submission sets the submission time. -/
def UnsubmittedUntimed (R : Records) : Prop :=
  ∀ a ∈ R.attempts, a.status ≠ "submitted" → a.submittedAt = none

lemma submittedGraded_effect {call : RuntimeCall} {R R' : Records}
    (hsync : ¬call.SyncsStatus R "submitted") (he : Effect call R true R') (h : SubmittedGraded R) :
    SubmittedGraded R' := by
  cases he with
  | assigned _ created _ => exact h
  | resumed => exact h
  | alreadySubmitted => exact h
  | started created hstarts =>
    intro a ha hsubmitted
    rw [List.mem_append, List.mem_singleton] at ha
    obtain ha | rfl := ha
    · exact h a ha hsubmitted
    · rw [hstarts.status] at hsubmitted
      simp at hsubmitted
  | edited _ tenantID id u now _ hcontent =>
    refine forall_modifyFirst h ?_
    intro a ha hsubmitted
    unfold AttemptUpdate.applyUnsubmitted at hsubmitted ⊢
    by_cases ha' : a.status = "submitted"
    · rw [if_pos ha']
      exact h a (List.mem_of_find?_eq_some ha) ha'
    · rw [if_neg ha', AttemptUpdate.apply_status, hcontent.1] at hsubmitted
      exact absurd hsubmitted ha'
  | synced _ tenantID id a req now hsyncs hget =>
    refine forall_modifyFirst h ?_
    intro a' ha' hsubmitted
    obtain rfl : a = a' := Option.some.inj (hget.symm.trans ha')
    have hstatus : Service.syncStatus req a = none := by
      cases hst : Service.syncStatus req a with
      | none => rfl
      | some st =>
        have : st = "submitted" := by simpa [Service.syncUpdate, hst] using hsubmitted
        exact absurd ⟨a, req, hsyncs, this ▸ hst⟩ hsync
    rw [AttemptUpdate.apply_status, Service.syncUpdate, hstatus] at hsubmitted
    exact h a (List.mem_of_find?_eq_some hget) hsubmitted
  | scored _ tenantID id submittedAt answers now now' a _ hget _ =>
    refine forall_modifyFirst h ?_
    intro a' ha' hsubmitted
    exact ⟨rfl, rfl, rfl, rfl⟩

lemma unsubmittedUntimed_effect {call : RuntimeCall} {R R' : Records} (he : Effect call R true R')
    (h : UnsubmittedUntimed R) : UnsubmittedUntimed R' := by
  cases he with
  | assigned _ created _ => exact h
  | resumed => exact h
  | alreadySubmitted => exact h
  | started created hstarts =>
    intro a ha hunsubmitted
    rw [List.mem_append, List.mem_singleton] at ha
    obtain ha | rfl := ha
    · exact h a ha hunsubmitted
    · exact hstarts.submittedAt
  | edited _ tenantID id u now _ hcontent =>
    refine forall_modifyFirst h ?_
    intro a ha hunsubmitted
    unfold AttemptUpdate.applyUnsubmitted at hunsubmitted ⊢
    by_cases ha' : a.status = "submitted"
    · rw [if_pos ha'] at hunsubmitted
      exact absurd ha' hunsubmitted
    · rw [if_neg ha']
      simp [AttemptUpdate.apply, hcontent.2.1, h a (List.mem_of_find?_eq_some ha) ha']
  | synced _ tenantID id a req now hsyncs hget =>
    refine forall_modifyFirst h ?_
    intro a' ha' hunsubmitted
    obtain rfl : a = a' := Option.some.inj (hget.symm.trans ha')
    apply h a (List.mem_of_find?_eq_some hget)
    cases hst : Service.syncStatus req a with
    | none => simpa [Service.syncUpdate, hst] using hunsubmitted
    | some st => exact syncStatus_some hst
  | scored _ tenantID id submittedAt answers now now' a _ hget _ =>
    refine forall_modifyFirst h ?_
    intro a' ha' hunsubmitted
    exact absurd rfl hunsubmitted

/-- Submitted attempts stay graded in every run of successful calls in which no
synchronisation writes the status `submitted`; one that does leaves its attempt ungraded. -/
theorem submittedGraded_of_reachable [MongoServer] (b : Backend) (s₀ : Store b)
    (h₀ : ((repository b).records s₀).attempts = []) :
    (∀ s, Reachable (repository b) (fun call R ok => ok = true ∧ ¬call.SyncsStatus R "submitted") s₀ s →
      SubmittedGraded ((repository b).records s)) ∧
    ∀ s (call : RuntimeCall) resp s', Reachable (repository b) (fun _ _ ok => ok = true) s₀ s →
      call.SyncsStatus ((repository b).records s) "submitted" →
      Evaluates (repository b).exec call.program.run s (.ok resp) s' →
      ¬SubmittedGraded ((repository b).records s') := by
  constructor
  · intro s hs
    refine hs.invariant ?_ ?_
    · simp [SubmittedGraded, h₀]
    · rintro call R ok R' ⟨rfl, hsync⟩ he h
      exact submittedGraded_effect hsync he h
  · rintro s call resp s' hs ⟨a, req, hsyncs, hstatus⟩ heval hgraded
    have huntimed : UnsubmittedUntimed ((repository b).records s) := by
      refine hs.invariant ?_ ?_
      · simp [UnsubmittedUntimed, h₀]
      · rintro call R ok R' rfl he h
        exact unsubmittedUntimed_effect he h
    obtain ⟨tenantID, id, now, hget, hR'⟩ := effect_sync hsyncs (effect_of_evaluates heval)
    have hmem : (Service.syncUpdate req a).apply now a ∈ ((repository b).records s').attempts := by
      rw [hR']
      exact mem_modifyFirst_of_find? hget _
    have htime := (hgraded _ hmem (by simp [Service.syncUpdate, hstatus])).1
    have hnone := huntimed a (List.mem_of_find?_eq_some hget) (syncStatus_some hstatus)
    simp [AttemptUpdate.apply, Service.syncUpdate, hnone] at htime

omit [Library] in
lemma not_submittedGraded {R : Records}
    (h : ("submitted", none) ∈ R.attempts.map (fun a => (a.status, a.submittedAt))) : ¬SubmittedGraded R := by
  intro hgraded
  obtain ⟨a, ha, hfields⟩ := List.mem_map.mp h
  rw [Prod.mk.injEq] at hfields
  have htime := (hgraded a ha hfields.1).1
  rw [hfields.2] at htime
  cases htime

end Grading

section Sample

attribute [local instance] asciiLibrary Sample.server

theorem submittedGraded_sample : ∃ m, memoryRepository.runAll
      [(Sample.env 5, Sample.start 3), (Sample.env 6, Sample.save 5 "question" "answer"),
        (Sample.env 6, Sample.submit 5)] Sample.memoryStore = some m ∧
    m.attempts.map Attempt.status = ["submitted"] ∧ SubmittedGraded m.records := by
  generalize hrun : memoryRepository.runAll _ Sample.memoryStore = outcome
  have hstatus : outcome.map (fun m => m.attempts.map Attempt.status) = some ["submitted"] := by
    rw [← hrun]
    decide
  cases outcome with
  | none => cases hstatus
  | some m =>
    refine ⟨m, rfl, Option.some.inj hstatus, ?_⟩
    refine (submittedGraded_of_reachable .memory Sample.memoryStore rfl).1 m ?_
    refine reachable_runAll hrun ?_ .start
    intro call hcall R
    refine ⟨rfl, not_syncsStatus ?_⟩
    simp only [List.mem_cons, List.not_mem_nil, or_false] at hcall
    obtain rfl | rfl | rfl := hcall <;> decide

/-- A synchronisation carrying the status `submitted` leaves a submitted attempt without a
submission time. -/
theorem sync_submits_ungraded : ∃ m, Sample.memoryStore.attempts = [] ∧
    Reachable memoryRepository (fun _ _ ok => ok = true) Sample.memoryStore m ∧
    ¬SubmittedGraded m.records := by
  generalize hrun : memoryRepository.runAll [(Sample.env 5, Sample.start 3),
    (Sample.env 6, Sample.sync 5 "submitted")] Sample.memoryStore = outcome
  have hfields : outcome.map (fun m => m.attempts.map (fun a => (a.status, a.submittedAt))) =
      some [("submitted", none)] := by
    rw [← hrun]
    decide
  cases outcome with
  | none => cases hfields
  | some m =>
    refine ⟨m, rfl, reachable_runAll hrun (fun _ _ _ => rfl) .start, not_submittedGraded ?_⟩
    rw [show m.records.attempts.map _ = _ from Option.some.inj hfields]
    simp

end Sample

/-! ## Attempts in progress -/

section Active

variable [Library]

/-- At most one attempt in progress for each key, the law of the unique partial index. -/
def AtMostOneActive (R : Records) : Prop := ∀ key, R.attempts.countP (Attempt.activeFor key) ≤ 1

/-- A synchronisation that puts an attempt back in progress beside another one of its key. -/
def RuntimeCall.ResumesBeside (call : RuntimeCall) (R : Records) : Prop :=
  ∃ a req, call.syncs R = some (a, req) ∧ Service.syncStatus req a = some "in_progress" ∧
    a.active = false ∧ ∃ other ∈ R.attempts, other.activeFor a.activeKey

omit [Library] in
lemma AtMostOneActive.modify {R : Records} {tenantID : String} {id : ObjectID} {f : Attempt → Attempt}
    (h : AtMostOneActive R) (hf : ∀ a key, R.getAttempt tenantID id = some a →
      (f a).activeFor key → a.activeFor key ∨ R.attempts.countP (Attempt.activeFor key) = 0) :
    AtMostOneActive (R.modifyAttempt tenantID id f) := by
  intro key
  have hcount := countP_modifyFirst (Attempt.activeFor key) (Attempt.named tenantID id) f R.attempts
  have hone := h key
  show (modifyFirst _ f R.attempts).countP _ ≤ 1
  cases hget : R.attempts.find? (Attempt.named tenantID id) with
  | none =>
    simp only [hget, Option.elim_none] at hcount
    omega
  | some a =>
    simp only [hget, Option.elim_some] at hcount
    cases hfa : (f a).activeFor key with
    | false =>
      simp only [hfa, Bool.toNat_false] at hcount
      omega
    | true =>
      obtain ha | hzero := hf a key hget hfa
      · simp only [hfa, ha] at hcount
        omega
      · have hle : (f a |>.activeFor key).toNat ≤ 1 := Bool.toNat_le _
        omega

omit [Library] in
lemma activeFor_of_status {a a' : Attempt} {key : String × ObjectID × ObjectID × ObjectID}
    (hkey : a'.activeKey = a.activeKey) (hstatus : a'.status = a.status) (h : a'.activeFor key) :
    a.activeFor key := by
  simp only [Attempt.activeFor, Attempt.active, hkey, hstatus] at h ⊢
  exact h

omit [Library] in
lemma not_activeFor {a : Attempt} {key : String × ObjectID × ObjectID × ObjectID}
    (hstatus : a.status ≠ "in_progress") : ¬a.activeFor key := by
  simp [Attempt.activeFor, Attempt.active, hstatus]

lemma atMostOneActive_effect {call : RuntimeCall} {R R' : Records} {ok : Bool}
    (hsync : ¬call.ResumesBeside R) (he : Effect call R ok R') (h : AtMostOneActive R) :
    AtMostOneActive R' := by
  cases he with
  | failed => exact h
  | assigned _ created _ => exact h
  | resumed => exact h
  | alreadySubmitted => exact h
  | started created hstarts =>
    intro key
    show (R.attempts ++ [created]).countP (Attempt.activeFor key) ≤ 1
    rw [List.countP_append, List.countP_singleton]
    split
    · next hactive =>
      have hkey : created.activeKey = key := by
        simp only [Attempt.activeFor, Bool.and_eq_true, decide_eq_true_eq] at hactive
        exact hactive.1
      have hzero : R.attempts.countP (Attempt.activeFor key) = 0 := by
        rw [List.countP_eq_zero, ← hkey]
        exact List.find?_eq_none.mp hstarts.alone
      omega
    · have := h key
      omega
  | edited _ tenantID id u now _ hcontent =>
    apply h.modify
    intro a key _ hactive
    left
    unfold AttemptUpdate.applyUnsubmitted at hactive
    by_cases ha : a.status = "submitted"
    · rw [if_pos ha] at hactive
      exact hactive
    · rw [if_neg ha] at hactive
      have hkey : (u.apply now a).activeKey = a.activeKey := rfl
      exact activeFor_of_status hkey (by simp [hcontent.1]) hactive
  | synced _ tenantID id a req now hsyncs hget =>
    apply h.modify
    intro a' key hget' hactive
    obtain rfl : a = a' := Option.some.inj (hget.symm.trans hget')
    cases hst : Service.syncStatus req a with
    | none =>
      left
      have hkey : ((Service.syncUpdate req a).apply now a).activeKey = a.activeKey := rfl
      exact activeFor_of_status hkey (by simp [Service.syncUpdate, hst]) hactive
    | some st =>
      by_cases ha : a.activeFor key
      · exact .inl ha
      · right
        simp only [Attempt.activeFor, Attempt.active, AttemptUpdate.apply_activeKey,
          AttemptUpdate.apply_status, Service.syncUpdate, hst, Option.getD_some, Bool.and_eq_true,
          decide_eq_true_eq] at hactive
        obtain ⟨rfl, rfl⟩ := hactive
        have hinactive : a.active = false := by simpa [Attempt.activeFor] using ha
        rw [List.countP_eq_zero]
        intro other hother hbeside
        exact hsync ⟨a, req, hsyncs, hst, hinactive, other, hother, hbeside⟩
  | submitted tenantID id submittedAt answers now _ =>
    apply h.modify
    intro a key _ hactive
    left
    unfold AttemptUpdate.applyUnsubmitted at hactive
    by_cases ha : a.status = "submitted"
    · rw [if_pos ha] at hactive
      exact hactive
    · rw [if_neg ha] at hactive
      exact absurd hactive (not_activeFor (by simp [AttemptUpdate.submit]))
  | scored _ tenantID id submittedAt answers now now' a _ hget _ =>
    apply h.modify
    intro a' key _ hactive
    exact absurd hactive (not_activeFor (by simp [AttemptUpdate.submit, Service.scoreUpdate]))

/-- The in-memory repository keeps at most one attempt in progress for each key in every run
in which no synchronisation resumes an attempt beside another one of its key; one that
does leaves two. -/
theorem atMostOneActive_of_reachable [MongoServer] (m₀ : MemoryStore) (h₀ : m₀.attempts = []) :
    (∀ m, Reachable memoryRepository (fun call R _ => ¬call.ResumesBeside R) m₀ m →
      AtMostOneActive m.records) ∧
    ∀ (m : MemoryStore) (call : RuntimeCall) resp m', call.ResumesBeside m.records →
      Evaluates memoryRepository.exec call.program.run m (.ok resp) m' →
      ¬AtMostOneActive m'.records := by
  constructor
  · intro m hm
    refine hm.invariant ?_ ?_
    · intro key
      simp [memoryRepository, MemoryStore.records, h₀]
    · intro call R ok R' hsync he h
      exact atMostOneActive_effect hsync he h
  · rintro m call resp m' ⟨a, req, hsyncs, hstatus, hinactive, other, hother, hbeside⟩ heval hone
    obtain ⟨tenantID, id, now, hget, hR'⟩ := effect_sync hsyncs (effect_of_evaluates heval)
    have hcount := countP_modifyFirst (Attempt.activeFor a.activeKey) (Attempt.named tenantID id)
      ((Service.syncUpdate req a).apply now) m.records.attempts
    have hafter : ((Service.syncUpdate req a).apply now a).activeFor a.activeKey = true := by
      simp [Attempt.activeFor, Attempt.active, Service.syncUpdate, hstatus]
    have hbefore : a.activeFor a.activeKey = false := by simp [Attempt.activeFor, hinactive]
    have hpos : 0 < m.records.attempts.countP (Attempt.activeFor a.activeKey) :=
      List.countP_pos_iff.mpr ⟨other, hother, hbeside⟩
    have hget' : m.records.attempts.find? (Attempt.named tenantID id) = some a := hget
    simp only [hget', Option.elim_some, hafter, hbefore, Bool.toNat_true, Bool.toNat_false] at hcount
    have hle := hone a.activeKey
    have hR'' : m'.records = m.records.modifyAttempt tenantID id ((Service.syncUpdate req a).apply now) := hR'
    rw [hR''] at hle
    unfold Records.modifyAttempt at hle
    dsimp only at hle
    omega

lemma not_resumesBeside {call : RuntimeCall} {R : Records} (h : call.kind ≠ .sync) :
    ¬call.ResumesBeside R := by
  rintro ⟨a, req, hsyncs, -⟩
  exact h (kind_of_syncs hsyncs)

omit [Library] in
lemma not_atMostOneActive {R : Records} {key : String × ObjectID × ObjectID × ObjectID}
    (h : (R.attempts.filter (Attempt.activeFor key)).length = 2) : ¬AtMostOneActive R := by
  intro hone
  have := hone key
  rw [List.countP_eq_length_filter, h] at this
  omega

end Active

section Sample

attribute [local instance] asciiLibrary Sample.server

theorem atMostOneActive_sample : ∃ m, memoryRepository.runAll
      [(Sample.env 5, Sample.start 3), (Sample.env 6, Sample.submit 5), (Sample.env 6, Sample.start 3)]
      Sample.memoryStore = some m ∧
    m.attempts.map Attempt.status = ["submitted", "in_progress"] ∧ AtMostOneActive m.records := by
  generalize hrun : memoryRepository.runAll _ Sample.memoryStore = outcome
  have hstatus : outcome.map (fun m => m.attempts.map Attempt.status) =
      some ["submitted", "in_progress"] := by
    rw [← hrun]
    decide
  cases outcome with
  | none => cases hstatus
  | some m =>
    refine ⟨m, rfl, Option.some.inj hstatus, ?_⟩
    refine (atMostOneActive_of_reachable Sample.memoryStore rfl).1 m ?_
    refine reachable_runAll hrun ?_ .start
    intro call hcall R
    apply not_resumesBeside
    simp only [List.mem_cons, List.not_mem_nil, or_false] at hcall
    obtain rfl | rfl | rfl := hcall <;> decide

/-- An attempt is paused, a second one is started, and the first is resumed. -/
theorem sync_resumes_beside : ∃ m, Sample.memoryStore.attempts = [] ∧
    Reachable memoryRepository (fun _ _ _ => True) Sample.memoryStore m ∧ ¬AtMostOneActive m.records := by
  generalize hrun : memoryRepository.runAll [(Sample.env 5, Sample.start 3),
    (Sample.env 6, Sample.sync 5 "paused"), (Sample.env 6, Sample.start 3),
    (Sample.env 7, Sample.sync 5 "in_progress")] Sample.memoryStore = outcome
  have hactive : outcome.map (fun m => (m.attempts.filter (Attempt.activeFor
      ("erg", Sample.id 1, Sample.id 3, Sample.id 4))).length) = some 2 := by
    rw [← hrun]
    decide
  cases outcome with
  | none => cases hactive
  | some m =>
    refine ⟨m, rfl, reachable_runAll hrun (fun _ _ _ => trivial) .start, ?_⟩
    exact not_atMostOneActive (Option.some.inj hactive)

end Sample

/-! ## The quiz of an assignment -/

section Quizzes

variable [Library]

/-- Every attempt names an assignment that it fits. -/
def AttemptsFit (P : Assignment → Attempt → Prop) (R : Records) : Prop :=
  ∀ a ∈ R.attempts, ∃ assignment, R.getAssignment a.tenantID a.assignmentID = some assignment ∧ P assignment a

/-- Every attempt is for the quiz of the assignment it names. -/
def QuizzesMatch (R : Records) : Prop :=
  ∀ a ∈ R.attempts, ∃ assignment, R.getAssignment a.tenantID a.assignmentID = some assignment ∧
    assignment.quizID = a.quizID

/-- A `StartAttempt` that passes its checks and names another quiz than the assignment's. -/
def RuntimeCall.StartsOtherQuiz (call : RuntimeCall) (R : Records) : Prop :=
  ∃ assignment studentID quizID, call.starts R = some (assignment, studentID, quizID) ∧
    quizID ≠ assignment.quizID

section Fit

variable {P : Assignment → Attempt → Prop}
  (hP : ∀ assignment (a a' : Attempt), a'.activeKey = a.activeKey → P assignment a → P assignment a')
include hP

omit [Library] in
lemma AttemptsFit.modify {R : Records} {tenantID : String} {id : ObjectID} {f : Attempt → Attempt}
    (h : AttemptsFit P R) (hf : ∀ a, (f a).activeKey = a.activeKey) :
    AttemptsFit P (R.modifyAttempt tenantID id f) := by
  refine forall_modifyFirst h ?_
  intro a ha
  obtain ⟨assignment, hassignment, hfits⟩ := h a (List.mem_of_find?_eq_some ha)
  have hkey := hf a
  have hfits' := hP assignment a (f a) hkey hfits
  simp only [Attempt.activeKey, Prod.mk.injEq] at hkey
  rw [hkey.1, hkey.2.1]
  exact ⟨assignment, hassignment, hfits'⟩

/-- A call keeps the attempts fitting, if the one it starts fits. -/
lemma attemptsFit_effect {call : RuntimeCall} {R R' : Records} {ok : Bool}
    (hstart : ∀ created assignment, call.starts R = some (assignment, created.studentID, created.quizID) →
      R.getAssignment created.tenantID created.assignmentID = some assignment → P assignment created)
    (he : Effect call R ok R') (h : AttemptsFit P R) : AttemptsFit P R' := by
  cases he with
  | failed => exact h
  | resumed => exact h
  | alreadySubmitted => exact h
  | assigned _ created _ =>
    intro a ha
    obtain ⟨assignment, hassignment, hfits⟩ := h a ha
    refine ⟨assignment, ?_, hfits⟩
    unfold Records.getAssignment at hassignment ⊢
    rw [List.find?_append, hassignment]
    rfl
  | started created hstarts =>
    intro a ha
    rw [List.mem_append, List.mem_singleton] at ha
    obtain ha | rfl := ha
    · exact h a ha
    · obtain ⟨assignment, hchecks, hassignment⟩ := hstarts.checks
      exact ⟨assignment, hassignment, hstart a assignment hchecks hassignment⟩
  | edited _ tenantID id u now _ _ =>
    apply h.modify hP
    intro a
    unfold AttemptUpdate.applyUnsubmitted
    split <;> rfl
  | synced _ tenantID id a req now _ _ => exact h.modify hP (fun _ => rfl)
  | submitted tenantID id submittedAt answers now _ =>
    apply h.modify hP
    intro a
    unfold AttemptUpdate.applyUnsubmitted
    split <;> rfl
  | scored _ tenantID id submittedAt answers now now' a _ _ _ => exact h.modify hP (fun _ => rfl)

end Fit

lemma quizzesMatch_effect {call : RuntimeCall} {R R' : Records} {ok : Bool}
    (hstart : ¬call.StartsOtherQuiz R) (he : Effect call R ok R') (h : QuizzesMatch R) :
    QuizzesMatch R' := by
  have hkey : ∀ (assignment : Assignment) (a a' : Attempt), a'.activeKey = a.activeKey →
      assignment.quizID = a.quizID → assignment.quizID = a'.quizID := by
    intro assignment a a' hkey hquiz
    simp only [Attempt.activeKey, Prod.mk.injEq] at hkey
    rw [hquiz, hkey.2.2.1]
  refine attemptsFit_effect hkey ?_ he h
  intro created assignment hchecks _
  by_contra hquiz
  exact hstart ⟨assignment, _, _, hchecks, fun heq => hquiz heq.symm⟩

/-- A successful start either returns the attempt in progress or creates one. -/
lemma effect_start {call : RuntimeCall} {R R' : Records} {assignment : Assignment}
    {studentID quizID : ObjectID} (hstarts : call.starts R = some (assignment, studentID, quizID))
    (h : Effect call R true R') : ∃ a ∈ R'.attempts, a.quizID = quizID ∧
      R'.getAssignment a.tenantID a.assignmentID = some assignment := by
  have hkind := kind_of_starts hstarts
  cases h with
  | assigned _ created hcall => simp [hkind] at hcall
  | resumed assignment' tenantID assignmentID quizID' studentID' active hstarts' hassignment hactive =>
    rw [hstarts] at hstarts'
    cases hstarts'
    have hkey := List.find?_some hactive
    simp only [Attempt.activeFor, Attempt.activeKey, Bool.and_eq_true, decide_eq_true_eq,
      Prod.mk.injEq] at hkey
    obtain ⟨⟨rfl, rfl, rfl, rfl⟩, -⟩ := hkey
    exact ⟨active, List.mem_of_find?_eq_some hactive, rfl, hassignment⟩
  | started created hcreates =>
    obtain ⟨assignment', hchecks, hassignment⟩ := hcreates.checks
    rw [hstarts] at hchecks
    cases hchecks
    exact ⟨created, by simp, rfl, hassignment⟩
  | edited _ tenantID id u now hcall _ => simp [hkind] at hcall
  | synced _ tenantID id a req now hsyncs _ => simp [kind_of_syncs hsyncs] at hkind
  | alreadySubmitted hcall => simp [hkind] at hcall
  | scored _ tenantID id submittedAt answers now now' a hcall _ _ => simp [hkind] at hcall

/-- Attempts are for the quiz of their assignment in every run in which no start names another
quiz; a successful start that does leaves a mismatch. -/
theorem quizzesMatch_of_reachable [MongoServer] (b : Backend) (s₀ : Store b)
    (h₀ : ((repository b).records s₀).attempts = []) :
    (∀ s, Reachable (repository b) (fun call R _ => ¬call.StartsOtherQuiz R) s₀ s →
      QuizzesMatch ((repository b).records s)) ∧
    ∀ (s : Store b) (call : RuntimeCall) resp s', call.StartsOtherQuiz ((repository b).records s) →
      Evaluates (repository b).exec call.program.run s (.ok resp) s' →
      ¬QuizzesMatch ((repository b).records s') := by
  constructor
  · intro s hs
    refine hs.invariant ?_ ?_
    · simp [QuizzesMatch, h₀]
    · intro call R ok R' hstart he h
      exact quizzesMatch_effect hstart he h
  · rintro s call resp s' ⟨assignment, studentID, quizID, hstarts, hother⟩ heval hmatch
    obtain ⟨a, ha, rfl, hassignment⟩ := effect_start hstarts (effect_of_evaluates heval)
    obtain ⟨assignment', hassignment', hquiz⟩ := hmatch a ha
    rw [hassignment] at hassignment'
    cases hassignment'
    exact hother hquiz.symm

end Quizzes

section Sample

attribute [local instance] asciiLibrary Sample.server

/-- The outcome of starting the assignment with a quiz. -/
def Sample.started (quiz : ℕ) : Except LmsError RuntimeResponse × MongoStore :=
  (Sample.start quiz).program.run.alone mongoRepository.exec (Sample.env 5) Sample.mongoStore

theorem quizzesMatch_sample :
    (Sample.started 3).2.attempts.docs.map Attempt.quizID = [Sample.id 3] ∧
      QuizzesMatch (Sample.started 3).2.records := by
  refine ⟨by decide, ?_⟩
  refine (quizzesMatch_of_reachable .mongo Sample.mongoStore rfl).1 _ ?_
  refine Reachable.start.call (Sample.start 3) _ ?_ (evaluates_alone _ (Sample.env 5) _ _)
  rintro ⟨assignment, studentID, quizID, hstarts, hother⟩
  have hchecks : (Sample.start 3).starts (mongoRepository.records Sample.mongoStore) =
      some (Sample.assignment, Sample.id 4, Sample.id 3) := by rfl
  rw [show repository .mongo = mongoRepository from rfl, hchecks] at hstarts
  cases hstarts
  exact hother rfl

/-- Student 4 starts the assignment of quiz 3 with quiz 7. -/
theorem start_other_quiz : Sample.mongoStore.attempts.docs = [] ∧
    Reachable mongoRepository (fun _ _ _ => True) Sample.mongoStore (Sample.started 7).2 ∧
    ¬QuizzesMatch (Sample.started 7).2.records := by
  refine ⟨rfl, Reachable.start.call (Sample.start 7) _ trivial (evaluates_alone _ (Sample.env 5) _ _), ?_⟩
  intro hmatch
  have hchecks : (Sample.start 7).starts (mongoRepository.records Sample.mongoStore) =
      some (Sample.assignment, Sample.id 4, Sample.id 7) := by rfl
  have heffect : Effect (Sample.start 7) (mongoRepository.records Sample.mongoStore)
      (Sample.started 7).1.isOk (mongoRepository.records (Sample.started 7).2) :=
    effect_of_evaluates (evaluates_alone _ (Sample.env 5) _ _)
  have hok : (Sample.started 7).1.isOk = true := by decide
  rw [hok] at heffect
  obtain ⟨a, ha, hquiz, hassignment⟩ := effect_start hchecks heffect
  obtain ⟨assignment, hassignment', hquiz'⟩ := hmatch a ha
  have hsame : Sample.assignment = assignment := Option.some.inj (hassignment.symm.trans hassignment')
  rw [hquiz, ← hsame] at hquiz'
  exact absurd hquiz' (by decide)

end Sample

end ErgGo.Lms
