import ErgGo.Lms.ContentRuns

/-!
# Validity of stored questions

An update is validated together with the question as it was read, and writes only the fields
it names. Questions stay valid as long as what the write leaves alone is what was validated.
-/

namespace ErgGo.Lms
open Go Documents Concurrent Program

inductive QuestionOperation where
  | createQuestion (tenantID : String) (actor : Actor) (req : CreateQuestionRequest)
  | updateQuestion (tenantID : String) (actor : Actor) (id : String) (req : UpdateQuestionRequest)

section Updates

variable [Library]

def QuestionOperation.call (b : Backend) : QuestionOperation → ContentCall QuestionResponse
  | .createQuestion tenantID actor req => ContentService.createQuestion tenantID actor req
  | .updateQuestion tenantID actor id req => ContentService.updateQuestion b tenantID actor id req

/-- The fields of a question that its validation looks at. -/
def Question.payload (q : Question) : String × String × List QuestionChoice × JsonValue × Option JsonObject :=
  (q.type, q.stem, q.choices, q.answer, q.metadata)

def ValidQuestion (q : Question) : Prop :=
  validateQuestionPayload q.type q.stem q.choices q.answer q.metadata = .ok ()

instance (q : Question) : Decidable (ValidQuestion q) :=
  decidable_of_iff ((validateQuestionPayload q.type q.stem q.choices q.answer q.metadata).isOk = true) (by
    unfold ValidQuestion
    cases validateQuestionPayload q.type q.stem q.choices q.answer q.metadata <;> simp [Except.isOk, Except.toBool])

lemma ValidQuestion.of_payload {q q' : Question} (hq : ValidQuestion q) (h : q'.payload = q.payload) :
    ValidQuestion q' := by
  simp only [Question.payload, Prod.mk.injEq] at h
  obtain ⟨htype, hstem, hchoices, hanswer, hmetadata⟩ := h
  unfold ValidQuestion
  rw [htype, hstem, hchoices, hanswer, hmetadata]
  exact hq

/-- What an update checks is the question it would make of the one it has read. -/
lemma validQuestion_apply {existing : Question} {update : QuestionUpdate} :
    validateQuestionUpdate existing update = .ok () ↔ ∀ now, ValidQuestion (update.apply now existing) :=
  ⟨fun h _ => h, fun h => h 0⟩

/-- A new question is valid, and an update is valid for the question its call has read. -/
def ValidatedOrigin (h : List ContentEvent) (d : ContentEvent) : Prop :=
  (∀ q, d.req = .insertQuestion q → ValidQuestion q) ∧
  ∀ tenantID id set, d.req = .updateQuestion tenantID id set →
    ∃ r ∈ h, r.thread = d.thread ∧ r.req = .findQuestion tenantID id ∧
      ∃ existing, r.before.findQuestion tenantID id = some existing ∧ validateQuestionUpdate existing set = .ok ()

/-- A request that stores no question. -/
def StoresNoQuestion (q : ContentRequest) : Prop :=
  (∀ question, q ≠ .insertQuestion question) ∧ ∀ tenantID id set, q ≠ .updateQuestion tenantID id set

omit [Library] in
lemma storesNoQuestion_findCenter (tenantID : String) (id : ObjectID) : StoresNoQuestion (.findCenter tenantID id) :=
  ⟨fun _ h => (nomatch h), fun _ _ _ h => (nomatch h)⟩

omit [Library] in
lemma storesNoQuestion_findQuestion (tenantID : String) (id : ObjectID) :
    StoresNoQuestion (.findQuestion tenantID id) :=
  ⟨fun _ h => (nomatch h), fun _ _ _ h => (nomatch h)⟩

lemma validatedOrigin_of_storesNoQuestion {h : List ContentEvent} {d : ContentEvent} (hd : StoresNoQuestion d.req) :
    ValidatedOrigin h d :=
  ⟨fun q hq => absurd hq (hd.1 q), fun tenantID id set hset => absurd hset (hd.2 tenantID id set)⟩

abbrev validations : Protocol (ContentEnv × Fault) ContentRequest ContentStore :=
  provenance (fun _ => True) ValidatedOrigin

variable [MongoServer] {b : Backend} {i : Nat} {w : ContentWorld}

lemma safe_storesNoQuestion {α : Type} {x : ContentCall α} (hx : x.run.AllRequests StoresNoQuestion) :
    validations.Safe (contentExec b) i (OnSuccess (fun _ _ => True)) x.run w := by
  have hsafe : validations.Safe (contentExec b) i (fun _ _ => True) x.run w := by
    refine Protocol.Safe.of_allRequests ?_ hx w
    intro q hq w hw env
    exact ⟨⟨trivial, hw.2.concat (validatedOrigin_of_storesNoQuestion hq)⟩, List.prefix_append _ _⟩
  refine hsafe.mono fun r _ _ _ => ?_
  cases r <;> trivial

lemma safe_scope (tenantID : String) (actor : Actor) (scope : ContentScope) :
    validations.Safe (contentExec b) i (OnSuccess (fun _ _ => True))
      (ContentService.validateContentScope tenantID actor scope).run w :=
  safe_storesNoQuestion (validateContentScope_sends storesNoQuestion_findCenter tenantID actor scope)

lemma safe_newScope (tenantID : String) (actor : Actor) (scope : Option ContentScope) :
    validations.Safe (contentExec b) i (OnSuccess (fun _ _ => True))
      (ContentService.validateNewScope tenantID actor scope).run w := by
  cases scope with
  | none => exact trivial
  | some scope => exact safe_scope tenantID actor scope

/-- A question that was read, and the event that read it. -/
lemma safe_getQuestion (tenantID id : String) :
    validations.Safe (contentExec b) i (OnSuccess (fun found w' => ∃ oid, objectID id = .ok oid ∧
      ∃ r ∈ w'.2, r.thread = i ∧ r.req = .findQuestion tenantID oid ∧ found = r.before.findQuestion tenantID oid))
      (ContentRepository.getQuestion tenantID id).run w := by
  unfold ContentRepository.getQuestion
  refine Protocol.Safe.lift_bind fun oid hid => ?_
  refine safe_send (fun _ _ _ => trivial) ?_ ?_
  · exact fun h env s _ _ => validatedOrigin_of_storesNoQuestion (storesNoQuestion_findQuestion tenantID oid)
  · intro h env s _ _
    cases hreply : (contentExec b env (.findQuestion tenantID oid) s).1 with
    | error e => trivial
    | ok found =>
      have hfound : found = s.findQuestion tenantID oid := by
        obtain ⟨hexec, -⟩ := withFaults_ok hreply
        cases hexec
        rfl
      exact ⟨oid, hid, _, List.mem_append_right h (List.mem_singleton.mpr rfl), rfl, rfl, hfound⟩

/-- Only a validated question is inserted. -/
lemma safe_createQuestion (tenantID : String) (actor : Actor) (req : CreateQuestionRequest) :
    validations.Safe (contentExec b) i (OnSuccess (fun _ _ => True))
      (ContentService.createQuestion tenantID actor req).run w := by
  unfold ContentService.createQuestion
  refine (safe_scope tenantID actor req.scope).run_bind fun _ w₁ _ _ => ?_
  refine Protocol.Safe.lift_bind fun kind _ => Protocol.Safe.lift_bind fun _ hvalid => ?_
  refine Protocol.Safe.lift_bind fun subjectID _ => Protocol.Safe.lift_bind fun levelID _ => ?_
  refine Protocol.Safe.lift_bind fun topicID _ => ?_
  set q : Question :=
    { tenantID := tenantID, scope := req.scope, subjectID := subjectID, levelID := levelID,
      topicID := topicID.getD .nil, type := kind, stem := req.stem, choices := req.choices, answer := req.answer,
      metadata := req.metadata } with hq
  have hinsert : validations.Safe (contentExec b) i (OnSuccess (fun _ _ => True))
      (ContentRepository.createQuestion q).run w₁ := by
    refine safe_send (fun _ _ _ => trivial) ?_ ?_
    · intro h env s _ _
      refine ⟨fun question hquestion => ?_, fun _ _ _ hset => (nomatch hset)⟩
      rw [← ContentRequest.insertQuestion.inj hquestion]
      exact hvalid
    · intro h env s _ _
      cases (contentExec b env (.insertQuestion q) s).1 <;> trivial
  exact hinsert.run_bind fun _ _ _ _ => trivial

/-- Only an update that is valid for the question read is written. -/
lemma safe_updateQuestion (tenantID : String) (actor : Actor) (id : String) (req : UpdateQuestionRequest) :
    validations.Safe (contentExec b) i (OnSuccess (fun _ _ => True))
      (ContentService.updateQuestion b tenantID actor id req).run w := by
  unfold ContentService.updateQuestion
  refine (safe_getQuestion tenantID id).run_bind ?_
  rintro found w₁ - ⟨oid, hid, r, hr, hthread, hreq, rfl⟩
  refine Protocol.Safe.lift_bind fun existing hexisting => ?_
  have hread := required_ok hexisting
  refine (safe_scope tenantID actor existing.scope).run_bind fun _ w₂ h₂ _ => ?_
  refine (safe_newScope tenantID actor req.scope).run_bind fun _ w₃ h₃ _ => ?_
  have hkept : r ∈ w₃.2 := (h₂.trans h₃).subset hr
  refine Protocol.Safe.lift_bind fun update _ => Protocol.Safe.lift_bind fun _ hvalid => ?_
  have hwrite : validations.Safe (contentExec b) i (OnSuccess (fun _ _ => True))
      (content (.updateQuestion tenantID oid update)).run w₃ := by
    refine safe_send (fun _ _ _ => trivial) ?_ ?_
    · intro h env s hrely _
      refine ⟨fun _ hinsert => (nomatch hinsert), fun tenantID' id' set hset => ?_⟩
      cases hset
      exact ⟨r, hrely.subset hkept, hthread, hreq, existing, hread, hvalid⟩
    · intro h env s _ _
      cases (contentExec b env (.updateQuestion tenantID oid update) s).1 <;> trivial
  have hupdated : validations.Safe (contentExec b) i (OnSuccess (fun _ _ => True))
      (ContentRepository.updateQuestion b tenantID id update).run w₃ := by
    unfold ContentRepository.updateQuestion
    refine Protocol.Safe.lift_bind fun oid' hid' => ?_
    rw [hid] at hid'
    cases hid'
    refine hwrite.run_bind fun found w₄ _ _ => ?_
    cases b with
    | memory => exact trivial
    | mongo =>
      refine (safe_getQuestion tenantID id).mono fun reply _ _ _ => ?_
      cases reply <;> trivial
  exact hupdated.run_bind fun _ _ _ _ => Protocol.Safe.lift_bind fun _ _ => trivial

lemma safe_questionCall (op : QuestionOperation) :
    validations.Safe (contentExec b) i (OnSuccess (fun _ _ => True)) (op.call b).run w := by
  cases op with
  | createQuestion tenantID actor req => exact safe_createQuestion tenantID actor req
  | updateQuestion tenantID actor id req => exact safe_updateQuestion tenantID actor id req

end Updates

section Runs

variable [Library] [MongoServer] {b : Backend}

/-- The operations, interleaved. -/
abbrev questionRun (b : Backend) (s : ContentStore) (ops : List QuestionOperation)
    (schedule : List (Nat × (ContentEnv × Fault))) :
    Config (ContentEnv × Fault) ContentRequest ContentReply ContentStore (Except LmsError QuestionResponse) :=
  (start s (ops.map (fun op => (op.call b).run))).run (contentExec b) schedule

lemma questionRun_validated (b : Backend) (s : ContentStore) (ops : List QuestionOperation)
    (schedule : List (Nat × (ContentEnv × Fault))) :
    Provenance ValidatedOrigin (questionRun b s ops schedule).history := by
  obtain ⟨-, hprovenance, -⟩ := provenance_run (contentExec b) (fun _ => True) ValidatedOrigin
    (fun _ => OnSuccess (fun _ _ => True)) s (ops.map (fun op => (op.call b).run)) trivial (by
      intro i p hp
      rw [List.getElem?_map, Option.map_eq_some_iff] at hp
      obtain ⟨op, -, rfl⟩ := hp
      exact safe_questionCall op) schedule
  exact hprovenance

def QuestionsValid (s : ContentStore) : Prop := ∀ q ∈ s.questions, ValidQuestion q

instance (s : ContentStore) : Decidable (QuestionsValid s) :=
  inferInstanceAs (Decidable (∀ q ∈ s.questions, ValidQuestion q))

/-- What a write does not set is stored as its call has read it. -/
def MergesWithRead (h : List ContentEvent) : Prop :=
  ∀ h₁ r h₂ e h₃, h = h₁ ++ r :: (h₂ ++ e :: h₃) → r.thread = e.thread → e.env.2 ≠ .lost →
    ∀ tenantID id set existing stored, r.req = .findQuestion tenantID id → e.req = .updateQuestion tenantID id set →
      r.before.findQuestion tenantID id = some existing → e.before.findQuestion tenantID id = some stored →
      (set.apply e.env.1.now stored).payload = (set.apply e.env.1.now existing).payload

/-- An event keeps questions valid if what it inserts is valid, and what it updates is valid
afterwards. -/
lemma questionsValid_after {e : ContentEvent} (hbefore : QuestionsValid e.before)
    (hinsert : ∀ q, e.req = .insertQuestion q → ValidQuestion q)
    (hupdate : ∀ tenantID id set stored, e.req = .updateQuestion tenantID id set → e.env.2 ≠ .lost →
      e.before.findQuestion tenantID id = some stored → ValidQuestion (set.apply e.env.1.now stored)) :
    QuestionsValid (Event.after (contentExec b) e) := by
  obtain ⟨hafter, -⟩ | ⟨hafter, harrived⟩ := after_cases (b := b) e
  · rw [hafter]
    exact hbefore
  · rw [hafter]
    obtain ⟨thread, env, q, s⟩ := e
    cases q with
    | insertQuestion question =>
      change QuestionsValid (insertQuestion b (question.created env.1.toEnv) s).2
      unfold insertQuestion
      split
      · exact hbefore
      · intro q hq
        obtain hq | hq := List.mem_append.mp hq
        · exact hbefore q hq
        · rw [List.mem_singleton.mp hq]
          exact (hinsert question rfl).of_payload rfl
    | updateQuestion tenantID id set =>
      exact forall_modifyFirst (f := set.apply env.1.now) hbefore
        (fun stored hstored => hupdate tenantID id set stored rfl harrived hstored)
    | insertQuiz quiz =>
      change QuestionsValid (insertQuiz b (quiz.created env.1.toEnv) s).2
      unfold insertQuiz
      split <;> exact hbefore
    | _ => exact hbefore

/-- In every interleaving in which each write meets, in what it does not set, the question its
call has read, all stored questions are valid. -/
theorem questionsValid_of_mergesWithRead {s : ContentStore} (hs : QuestionsValid s) {ops : List QuestionOperation}
    {schedule : List (Nat × (ContentEnv × Fault))} (hmerges : MergesWithRead (questionRun b s ops schedule).history) :
    QuestionsValid (questionRun b s ops schedule).store := by
  have horigin := questionRun_validated b s ops schedule
  refine (run_replays s _ schedule).persists hs ?_
  intro h₁ e h₂ hsplit _ hbefore
  obtain ⟨hinserted, hupdated⟩ := horigin h₁ e h₂ hsplit
  refine questionsValid_after hbefore hinserted ?_
  intro tenantID id set stored hreq harrived hstored
  obtain ⟨r, hr, hthread, hread, existing, hexisting, hvalid⟩ := hupdated tenantID id set hreq
  obtain ⟨g₁, g₂, rfl⟩ := List.append_of_mem hr
  have hsplit' : (questionRun b s ops schedule).history = g₁ ++ r :: (g₂ ++ e :: h₂) := by
    rw [hsplit, List.append_assoc, List.cons_append]
  have hmerged := hmerges g₁ r g₂ e h₂ hsplit' hthread harrived tenantID id set existing stored hread hreq
    hexisting hstored
  exact (validQuestion_apply.mp hvalid e.env.1.now).of_payload hmerged

end Runs

section Sample

attribute [local instance] asciiLibrary Sample.server

namespace Sample

def admin : Actor := ⟨"admin", ["admin"]⟩

def questionBank : ContentStore where
  centers := .empty
  questions := [{ id := Sample.id 1, tenantID := "erg", type := "short_answer", stem := "2 + 2", status := "active" }]

/-- Turns the question into one with choices. -/
def toSingleChoice : QuestionOperation :=
  .updateQuestion "erg" admin (Sample.id 1).hex
    { type := some "single_choice", choices := some [⟨"a", "4", true⟩, ⟨"b", "5", false⟩] }

/-- Takes all choices away. -/
def withoutChoices : QuestionOperation :=
  .updateQuestion "erg" admin (Sample.id 1).hex { choices := some [] }

def twoUpdates (threads : List ℕ) :
    Config (ContentEnv × Fault) ContentRequest ContentReply ContentStore (Except LmsError QuestionResponse) :=
  questionRun .memory questionBank [withoutChoices, toSingleChoice]
    (threads.map (fun i => (i, ({ now := 0, newID := .nil }, .none))))

/-- The first and the last of three events are of one thread. -/
def interrupts : List ContentEvent → Bool
  | [r, _, e] => r.thread = e.thread
  | _ => false

lemma mergesWithRead_of_uninterrupted {s s' : ContentStore} {h : List ContentEvent}
    (hr : Replays (@contentExec asciiLibrary server .memory) s h s')
    (hnone : ∀ events ∈ h.sublistsLen 3, interrupts events = false) : MergesWithRead h := by
  intro h₁ r h₂ e h₃ hsplit hthread _ tenantID id set existing stored hread _ hexisting hstored
  cases h₂ with
  | cons d h₂ =>
    have hsub : List.Sublist [r, d, e] h := by
      rw [hsplit]
      have htail : List.Sublist ([] ++ [e]) (h₂ ++ e :: h₃) :=
        (List.nil_sublist h₂).append (List.singleton_sublist.mpr (by simp))
      exact ((htail.cons_cons d).cons_cons r).trans (List.sublist_append_right h₁ _)
    have huninterrupted := hnone _ (List.mem_sublistsLen.mpr ⟨hsub, rfl⟩)
    simp [interrupts, hthread] at huninterrupted
  | nil =>
    rw [hsplit] at hr
    have hafter : r.after (@contentExec asciiLibrary server .memory) = e.before := hr.between
    have hsame : r.before = e.before := by
      obtain ⟨hafter', -⟩ | ⟨hafter', -⟩ := @after_cases asciiLibrary server .memory r
      · exact hafter'.symm.trans hafter
      · rw [hread] at hafter'
        exact hafter'.symm.trans hafter
    rw [hsame, hstored] at hexisting
    cases hexisting
    rfl

end Sample

/-- Updates one after the other. -/
theorem questionsValid_one_after_the_other :
    QuestionsValid (Sample.twoUpdates [0, 0, 1, 1]).store := by
  have huninterrupted : ∀ events ∈ (Sample.twoUpdates [0, 0, 1, 1]).history.sublistsLen 3,
      Sample.interrupts events = false := by decide +kernel
  exact questionsValid_of_mergesWithRead (by decide)
    (Sample.mergesWithRead_of_uninterrupted (run_replays Sample.questionBank _ _) huninterrupted)

/-- Both updates read the question before either writes. -/
theorem question_without_choices :
    QuestionsValid Sample.questionBank ∧ ¬QuestionsValid (Sample.twoUpdates [0, 1, 1, 0]).store := by
  exact ⟨by decide +kernel, by decide +kernel⟩

end Sample

end ErgGo.Lms
