import ErgGo.Lib.Runs
import ErgGo.Lms.ContentScopes

/-!
# Whose questions and quizzes are changed

Updating and archiving a question is checked against its stored scope, and moving it against
the new scope as well. Updating and publishing a quiz take no actor and check no scope.
-/

namespace ErgGo.Lms
open Go Documents Concurrent Program

/-- The requests that change stored questions and quizzes. -/
inductive ContentMutation where
  | updateQuestion (tenantID id : String) (req : UpdateQuestionRequest)
  | archiveQuestion (tenantID id : String)
  | updateQuiz (tenantID id : String) (req : UpdateQuizRequest)
  | publishQuiz (tenantID id : String)

section Integrity

variable [Library] [MongoServer] [ContentHash] (b : Backend) (actor : Actor)

omit [MongoServer] in
/-- The call of a request made by the actor. -/
def ContentMutation.call : ContentMutation → ContentCall Unit
  | .updateQuestion tenantID id req => do
    let _ ← ContentService.updateQuestion b tenantID actor id req
  | .archiveQuestion tenantID id => do
    let _ ← ContentService.archiveQuestion b tenantID actor id
  | .updateQuiz tenantID id req => do
    let _ ← ContentService.updateQuiz b tenantID id req
  | .publishQuiz tenantID id => do
    let _ ← ContentService.publishQuiz b tenantID id

/-- A request made in `s` can leave `s'`, whatever the clock reads and whichever of its
requests to the store get lost. -/
def ContentMutation.Outcome (s : ContentStore) (mutation : ContentMutation) (s' : ContentStore) : Prop :=
  ∃ r, Evaluates (contentExec b) (mutation.call b actor).run s r s'

/-- `validateContentScope` succeeds for the actor. -/
def InScope (s : ContentStore) (tenantID : String) (scope : ContentScope) : Prop :=
  ∀ env, ScopeAllowed b env s tenantID actor scope

/-- Every document that differs has a scope of the actor, before and after. -/
structure ScopesKept (s s' : ContentStore) : Prop where
  questions : List.Forall₂ (fun q q' => q' = q ∨ InScope b actor s q.tenantID q.scope ∧
    InScope b actor s' q'.tenantID q'.scope) s.questions s'.questions
  quizzes : List.Forall₂ (fun q q' => q' = q ∨ InScope b actor s q.tenantID q.scope ∧
    InScope b actor s' q'.tenantID q'.scope) s.quizzes s'.quizzes

/-- A quiz that the request would change has a scope of the actor. -/
def ContentMutation.QuizInScope (s : ContentStore) : ContentMutation → Prop
  | .updateQuiz tenantID id req => ∀ oid quiz, objectID id = .ok oid → s.findQuiz tenantID oid = some quiz →
    validateQuizPayload quiz.title req.slides req.settings req.result req.theme = .ok () →
      InScope b actor s tenantID quiz.scope
  | .publishQuiz tenantID id => ∀ oid quiz, objectID id = .ok oid → s.findQuiz tenantID oid = some quiz →
    InScope b actor s tenantID quiz.scope
  | _ => True

variable {b actor} {s s' : ContentStore} {tenantID id : String}

omit [ContentHash]

lemma ScopesKept.refl (s : ContentStore) : ScopesKept b actor s s :=
  ⟨List.forall₂_same.mpr fun _ _ => .inl rfl, List.forall₂_same.mpr fun _ _ => .inl rfl⟩

/-- Scopes are about centers. -/
lemma InScope.of_centers {scope : ContentScope} (h : InScope b actor s tenantID scope)
    (hcenters : s'.centers = s.centers) : InScope b actor s' tenantID scope := by
  have hsame : ∀ {α : Type} (p : Program ContentRequest ContentReply α) (env : ContentEnv),
      p.AllRequests (fun q => ∃ tenantID id, q = .findCenter tenantID id) →
        (p.alone (ContentStore.exec b) env s').1 = (p.alone (ContentStore.exec b) env s).1 := by
    intro α p env hp
    induction p with
    | done a => rfl
    | request q k ih =>
      obtain ⟨⟨tenantID, id, rfl⟩, hk⟩ := hp
      have hreply : (ContentStore.exec b env (.findCenter tenantID id) s').1 =
          (ContentStore.exec b env (.findCenter tenantID id) s).1 := by
        simp only [ContentStore.exec, ContentStore.findCenter, hcenters]
      change ((k _).alone (ContentStore.exec b) env s').1 = ((k _).alone (ContentStore.exec b) env s).1
      rw [hreply]
      exact ih _ (hk _)
  intro env
  unfold ScopeAllowed
  rw [hsame _ env (validateContentScope_sends (fun tenantID id => ⟨tenantID, id, rfl⟩) tenantID actor scope)]
  exact h env

/-! ## Reading -/

/-- The call leaves the store, and what it returns is what it returns where nothing is lost. -/
def ReadsTruly {α : Type} (b : Backend) (s : ContentStore) (p : Program ContentRequest ContentReply α) (a : α) : Prop :=
  ∀ env, p.alone (ContentStore.exec b) env s = (a, s)

lemma ensures_content {q : ContentRequest} (hread : ∀ env, (ContentStore.exec b env q s).2 = s) :
    Ensures (contentExec b) (fun r s' => s' = s ∧ ∀ a, r = .ok a →
      ∃ env, (ContentStore.exec b env q s).1 = .ok a) (content q).run s := by
  rintro ⟨env, fault⟩
  cases fault with
  | none => exact ⟨hread env, fun a ha => ⟨env, ha⟩⟩
  | lost => exact ⟨rfl, fun a ha => by cases ha⟩
  | unacknowledged => exact ⟨hread env, fun a ha => by cases ha⟩

lemma ensures_getCenter :
    Ensures (contentExec b) (fun r s' => s' = s ∧ ∀ center, r = .ok (some center) →
      ReadsTruly b s (ContentRepository.getCenter tenantID id).run (.ok (some center)))
      (ContentRepository.getCenter tenantID id).run s := by
  unfold ContentRepository.getCenter ReadsTruly
  cases hoid : objectID id with
  | error e => exact ⟨rfl, fun center h => by cases h⟩
  | ok oid =>
    have hread := ensures_content (b := b) (q := .findCenter tenantID oid) (s := s) (fun _ => rfl)
    refine hread.mono fun r s' hr => ⟨hr.1, fun center hcenter env => ?_⟩
    obtain ⟨env', hfound⟩ := hr.2 _ hcenter
    exact Prod.ext hfound rfl

lemma ReadsTruly.bind {α β : Type} {p : Program ContentRequest ContentReply α} {a : α}
    {f : α → Program ContentRequest ContentReply β} {c : β} (hp : ReadsTruly b s p a) (hf : ReadsTruly b s (f a) c) :
    ReadsTruly b s (p.bind f) c := by
  intro env
  rw [alone_bind, hp env]
  exact hf env

/-- The answer is `a` only if it is where nothing is lost. -/
structure AnswersTruly {α : Type} (b : Backend) (s : ContentStore) (p : Program ContentRequest ContentReply α) (a : α) :
    Prop where
  ensures : Ensures (contentExec b) (fun r s' => s' = s ∧ (r = a → ReadsTruly b s p a)) p s

lemma answersTruly_done {α : Type} (r a : α) : AnswersTruly b s (.done r) a :=
  ⟨rfl, fun hr _ => congrArg (·, s) hr⟩

/-- A center that is missing or could not be read gives no access. -/
def onCenter (k : Center → Program ContentRequest ContentReply Bool) :
    Except LmsError (Option Center) → Program ContentRequest ContentReply Bool
  | .ok (some center) => k center
  | _ => .done false

lemma answersTruly_getCenter {k : Center → Program ContentRequest ContentReply Bool}
    (hk : ∀ center, AnswersTruly b s (k center) true) :
    AnswersTruly b s ((ContentRepository.getCenter tenantID id).run.bind (onCenter k)) true := by
  refine ⟨Ensures.bind (ensures_getCenter.mono fun r s' hr => ?_)⟩
  obtain ⟨rfl, hread⟩ := hr
  rcases r with e | _ | center
  · exact ⟨rfl, fun h => by cases h⟩
  · exact ⟨rfl, fun h => by cases h⟩
  · exact (hk center).ensures.mono fun allowed s'' h => ⟨h.1, fun hallowed => (hread center rfl).bind (h.2 hallowed)⟩

omit [MongoServer] in
lemma canAccessCenter_eq (hactor : actor.canAccessGlobal = false) :
    ContentService.canAccessCenter tenantID actor id =
      (ContentRepository.getCenter tenantID id).run.bind (onCenter fun center =>
        if center.managerUserID = actor.userID then .done true
        else if centerType center = "school" && !center.parentID.isZero then
          (ContentRepository.getCenter tenantID center.parentID.hex).run.bind (onCenter fun parent =>
            .done (parent.managerUserID = actor.userID))
        else .done false) := by
  unfold ContentService.canAccessCenter Lms.canAccessCenter
  simp only [hactor, Bool.false_eq_true, ↓reduceIte]
  refine congrArg (Program.bind _) (funext fun r => ?_)
  rcases r with e | _ | center
  · rfl
  · rfl
  · unfold onCenter
    dsimp only
    refine ite_congr rfl (fun _ => rfl) fun _ => ite_congr rfl (fun _ => ?_) fun _ => rfl
    refine congrArg (Program.bind _) (funext fun r => ?_)
    rcases r with e | _ | parent <;> rfl

/-- Access is given on centers that were read, so it is given where nothing is lost. -/
lemma answersTruly_canAccessCenter (hactor : actor.canAccessGlobal = false) :
    AnswersTruly b s (ContentService.canAccessCenter tenantID actor id) true := by
  rw [canAccessCenter_eq hactor]
  refine answersTruly_getCenter fun center => ?_
  split
  · exact answersTruly_done true true
  · split
    · exact answersTruly_getCenter fun parent => answersTruly_done _ true
    · exact answersTruly_done false true

omit [MongoServer] in
lemma validateContentScope_eq (hactor : actor.canAccessGlobal = false) (scope : ContentScope) :
    (ContentService.validateContentScope tenantID actor scope).run =
      if scope.type = "center" ∧ scope.centerID ≠ "" then
        (ContentService.canAccessCenter tenantID actor scope.centerID).bind fun allowed =>
          .done (if allowed then .ok () else .error .scopeForbidden)
      else .done (.error .scopeForbidden) := by
  unfold ContentService.validateContentScope
  rw [hactor]
  by_cases hglobal : scope.type = "global"
  · have hcenter : ¬(scope.type = "center" ∧ scope.centerID ≠ "") := fun h => by simp [h.1] at hglobal
    rw [if_pos hglobal, if_neg hcenter]
    rfl
  · rw [if_neg hglobal]
    split
    · rw [Program.run_bind]
      change (Program.bind (Program.bind _ _) _) = _
      rw [Program.bind_assoc]
      refine congrArg (Program.bind _) (funext fun allowed => ?_)
      cases allowed <;> rfl
    · rfl

/-- A scope that passes, passes where nothing is lost. -/
lemma answersTruly_validateContentScope (hactor : actor.canAccessGlobal = false) (scope : ContentScope) :
    AnswersTruly b s (ContentService.validateContentScope tenantID actor scope).run (.ok ()) := by
  rw [validateContentScope_eq hactor]
  split
  · refine ⟨Ensures.bind ((answersTruly_canAccessCenter hactor).ensures.mono fun allowed s' hr => ?_)⟩
    obtain ⟨rfl, htruly⟩ := hr
    cases allowed with
    | false => exact ⟨rfl, fun h => by cases h⟩
    | true => exact ⟨rfl, fun _ => (htruly rfl).bind fun env => alone_done env _ _⟩
  · exact answersTruly_done _ _

lemma ensures_validateContentScope (hactor : actor.canAccessGlobal = false) (scope : ContentScope) :
    Ensures (contentExec b) (fun r s' => s' = s ∧ (r = .ok () → InScope b actor s tenantID scope))
      (ContentService.validateContentScope tenantID actor scope).run s :=
  (answersTruly_validateContentScope hactor scope).ensures.mono fun _ _ hr =>
    ⟨hr.1, fun hpassed env => congrArg Prod.fst (hr.2 hpassed env)⟩

/-! ## What one request changes -/

lemma ensures_getQuestion :
    Ensures (contentExec b) (fun r s' => s' = s ∧ ∀ q, r = .ok (some q) →
      ∃ oid, objectID id = .ok oid ∧ s.findQuestion tenantID oid = some q)
      (ContentRepository.getQuestion tenantID id).run s := by
  refine Ensures.lift_bind (fun e _ => ⟨rfl, fun q h => by cases h⟩) fun oid hoid => ?_
  have hread := ensures_content (b := b) (q := .findQuestion tenantID oid) (s := s) (fun _ => rfl)
  refine hread.mono fun r s' hr => ⟨hr.1, fun q hq => ?_⟩
  obtain ⟨env, hfound⟩ := hr.2 _ hq
  exact ⟨oid, hoid, Except.ok.inj hfound⟩

lemma ensures_getQuiz :
    Ensures (contentExec b) (fun r s' => s' = s ∧ ∀ q, r = .ok (some q) →
      ∃ oid, objectID id = .ok oid ∧ s.findQuiz tenantID oid = some q)
      (ContentRepository.getQuiz tenantID id).run s := by
  refine Ensures.lift_bind (fun e _ => ⟨rfl, fun q h => by cases h⟩) fun oid hoid => ?_
  have hread := ensures_content (b := b) (q := .findQuiz tenantID oid) (s := s) (fun _ => rfl)
  refine hread.mono fun r s' hr => ⟨hr.1, fun q hq => ?_⟩
  obtain ⟨env, hfound⟩ := hr.2 _ hq
  exact ⟨oid, hoid, Except.ok.inj hfound⟩

/-- The update arrives or it does not. -/
lemma ensures_updateQuestion {update : QuestionUpdate} {P : ContentStore → Prop} (hs : P s)
    (hupdated : ∀ oid now, objectID id = .ok oid → P (s.updateQuestion tenantID oid (update.apply now))) :
    Ensures (contentExec b) (fun _ s' => P s') (ContentRepository.updateQuestion b tenantID id update).run s := by
  refine Ensures.lift_bind (fun _ _ => hs) fun oid hoid => Ensures.run_bind ?_
  rintro ⟨env, fault⟩
  cases fault with
  | none =>
    cases b with
    | memory => exact hupdated oid env.now hoid
    | mongo => exact ensures_getQuestion.mono fun _ s' h => h.1 ▸ hupdated oid env.now hoid
  | lost => exact hs
  | unacknowledged => exact hupdated oid env.now hoid

lemma ensures_updateQuiz {update : QuizUpdate} {P : ContentStore → Prop} (hs : P s)
    (hupdated : ∀ oid now, objectID id = .ok oid → P (s.updateQuiz tenantID oid (update.apply now))) :
    Ensures (contentExec b) (fun _ s' => P s') (ContentRepository.updateQuiz b tenantID id update).run s := by
  refine Ensures.lift_bind (fun _ _ => hs) fun oid hoid => Ensures.run_bind ?_
  rintro ⟨env, fault⟩
  cases fault with
  | none =>
    cases b with
    | memory => exact hupdated oid env.now hoid
    | mongo => exact ensures_getQuiz.mono fun _ s' h => h.1 ▸ hupdated oid env.now hoid
  | lost => exact hs
  | unacknowledged => exact hupdated oid env.now hoid

lemma scopesKept_updateQuestion {oid : ObjectID} {update : QuestionUpdate} {now : Time}
    (h : ∀ q, s.findQuestion tenantID oid = some q → InScope b actor s tenantID q.scope ∧
      InScope b actor s tenantID (update.scope.getD q.scope)) :
    ScopesKept b actor s (s.updateQuestion tenantID oid (update.apply now)) := by
  refine ⟨forall₂_modifyFirst (fun q => .inl rfl) fun q hq => ?_, List.forall₂_same.mpr fun _ _ => .inl rfl⟩
  obtain ⟨hbefore, hafter⟩ := h q hq
  have hnamed := List.find?_some hq
  simp only [Question.named, Bool.and_eq_true, decide_eq_true_eq] at hnamed
  rw [← hnamed.1] at hbefore hafter
  exact .inr ⟨hbefore, hafter.of_centers rfl⟩

lemma scopesKept_updateQuiz {oid : ObjectID} {update : QuizUpdate} {now : Time}
    (h : ∀ quiz, s.findQuiz tenantID oid = some quiz → InScope b actor s tenantID quiz.scope) :
    ScopesKept b actor s (s.updateQuiz tenantID oid (update.apply now)) := by
  refine ⟨List.forall₂_same.mpr fun _ _ => .inl rfl, forall₂_modifyFirst (fun q => .inl rfl) fun quiz hquiz => ?_⟩
  have hbefore := h quiz hquiz
  have hnamed := List.find?_some hquiz
  simp only [QuizDocument.named, Bool.and_eq_true, decide_eq_true_eq] at hnamed
  rw [← hnamed.1] at hbefore
  exact .inr ⟨hbefore, hbefore.of_centers rfl⟩

/-- The check of the new scope, where there is one. -/
lemma ensures_validateNewScope (hactor : actor.canAccessGlobal = false) (scope : Option ContentScope) :
    Ensures (contentExec b) (fun r s' => s' = s ∧ (r = .ok () → ∀ new, scope = some new →
      InScope b actor s tenantID new)) (ContentService.validateNewScope tenantID actor scope).run s := by
  cases scope with
  | none => exact ⟨rfl, fun _ new h => by cases h⟩
  | some scope =>
    refine (ensures_validateContentScope hactor scope).mono fun r s' hr => ⟨hr.1, fun hpassed new hnew => ?_⟩
    cases hnew
    exact hr.2 hpassed

omit [MongoServer] in
lemma questionUpdate_scope {req : UpdateQuestionRequest} {update : QuestionUpdate}
    (h : questionUpdate req = .ok update) : update.scope = req.scope := by
  have hscope : ∀ (type : Except LmsError (Option String)) (f : Option String → QuestionUpdate),
      (∀ t, (f t).scope = req.scope) → (type >>= fun t => pure (f t)) = .ok update → update.scope = req.scope := by
    intro type f hf h
    obtain ⟨t, -, h⟩ := except_bind_eq_ok.mp h
    cases h
    exact hf t
  unfold questionUpdate at h
  dsimp only at h
  split at h
  · obtain ⟨topicID, -, h⟩ := except_bind_eq_ok.mp h
    split at h
    · exact hscope _ _ (fun _ => rfl) h
    · exact hscope _ _ (fun _ => rfl) h
  · split at h
    · obtain ⟨topicID, -, h⟩ := except_bind_eq_ok.mp h
      split at h
      · exact hscope _ _ (fun _ => rfl) h
      · exact hscope _ _ (fun _ => rfl) h
    · obtain ⟨topicID, -, h⟩ := except_bind_eq_ok.mp h
      split at h
      · exact hscope _ _ (fun _ => rfl) h
      · exact hscope _ _ (fun _ => rfl) h

lemma ensures_updateQuestion_scopesKept (hactor : actor.canAccessGlobal = false) (req : UpdateQuestionRequest) :
    Ensures (contentExec b) (fun _ s' => ScopesKept b actor s s')
      (ContentService.updateQuestion b tenantID actor id req).run s := by
  have hsame : ScopesKept b actor s s := .refl s
  refine Ensures.run_bind (ensures_getQuestion.mono fun found s₁ h => ?_)
  obtain ⟨rfl, hfound⟩ := h
  cases found with
  | error e => exact hsame
  | ok found =>
  refine Ensures.lift_bind (fun _ _ => hsame) fun existing hexisting => ?_
  obtain ⟨oid, hoid, hexisting⟩ := hfound existing (congrArg _ (required_ok hexisting))
  refine Ensures.run_bind ((ensures_validateContentScope hactor existing.scope).mono fun r s₂ h => ?_)
  obtain ⟨rfl, hscope⟩ := h
  cases r with
  | error e => exact hsame
  | ok u =>
  refine Ensures.run_bind ((ensures_validateNewScope hactor req.scope).mono fun r s₃ h => ?_)
  obtain ⟨rfl, hnew⟩ := h
  cases r with
  | error e => exact hsame
  | ok u =>
  refine Ensures.lift_bind (fun _ _ => hsame) fun update hupdate => ?_
  refine Ensures.lift_bind (fun _ _ => hsame) fun _ _ => Ensures.run_bind ?_
  refine (ensures_updateQuestion hsame fun oid' now hoid' => scopesKept_updateQuestion fun q hq => ?_).mono ?_
  · -- the same document is found again
    cases hoid.symm.trans hoid'
    cases hexisting.symm.trans hq
    refine ⟨hscope rfl, ?_⟩
    rw [questionUpdate_scope hupdate]
    cases hreq : req.scope with
    | none => exact hscope rfl
    | some new => exact hnew rfl new hreq
  · intro r s' hkept
    cases r with
    | error e => exact hkept
    | ok found => exact Ensures.lift_bind (fun _ _ => hkept) fun _ _ => hkept

lemma ensures_archiveQuestion_scopesKept (hactor : actor.canAccessGlobal = false) :
    Ensures (contentExec b) (fun _ s' => ScopesKept b actor s s')
      (ContentService.archiveQuestion b tenantID actor id).run s := by
  have hsame : ScopesKept b actor s s := .refl s
  refine Ensures.run_bind (ensures_getQuestion.mono fun found s₁ h => ?_)
  obtain ⟨rfl, hfound⟩ := h
  cases found with
  | error e => exact hsame
  | ok found =>
  refine Ensures.lift_bind (fun _ _ => hsame) fun existing hexisting => ?_
  obtain ⟨oid, hoid, hexisting⟩ := hfound existing (congrArg _ (required_ok hexisting))
  refine Ensures.run_bind ((ensures_validateContentScope hactor existing.scope).mono fun r s₂ h => ?_)
  obtain ⟨rfl, hscope⟩ := h
  cases r with
  | error e => exact hsame
  | ok u =>
  refine Ensures.run_bind ((ensures_content (q := .now) fun _ => rfl).mono fun now s₃ h => ?_)
  obtain ⟨rfl, -⟩ := h
  cases now with
  | error e => exact hsame
  | ok now =>
  refine Ensures.run_bind ?_
  refine (ensures_updateQuestion hsame fun oid' now' hoid' => scopesKept_updateQuestion fun q hq => ?_).mono ?_
  · cases hoid.symm.trans hoid'
    cases hexisting.symm.trans hq
    exact ⟨hscope rfl, hscope rfl⟩
  · intro r s' hkept
    cases r <;> exact hkept

lemma ensures_updateQuiz_scopesKept {req : UpdateQuizRequest}
    (hquiz : (ContentMutation.updateQuiz tenantID id req).QuizInScope b actor s) :
    Ensures (contentExec b) (fun _ s' => ScopesKept b actor s s')
      (ContentService.updateQuiz b tenantID id req).run s := by
  have hsame : ScopesKept b actor s s := .refl s
  refine Ensures.run_bind (ensures_getQuiz.mono fun found s₁ h => ?_)
  obtain ⟨rfl, hfound⟩ := h
  cases found with
  | error e => exact hsame
  | ok found =>
  refine Ensures.lift_bind (fun _ _ => hsame) fun existing hexisting => ?_
  obtain ⟨oid, hoid, hexisting⟩ := hfound existing (congrArg _ (required_ok hexisting))
  refine Ensures.lift_bind (fun _ _ => hsame) fun _ hvalid => Ensures.run_bind ?_
  refine (ensures_updateQuiz hsame fun oid' now hoid' => scopesKept_updateQuiz fun quiz hfind => ?_).mono ?_
  · cases hoid.symm.trans hoid'
    cases hexisting.symm.trans hfind
    exact hquiz oid existing hoid hexisting hvalid
  · intro r s' hkept
    cases r with
    | error e => exact hkept
    | ok found => exact Ensures.lift_bind (fun _ _ => hkept) fun _ _ => hkept

lemma ensures_publishQuiz_scopesKept [ContentHash]
    (hquiz : (ContentMutation.publishQuiz tenantID id).QuizInScope b actor s) :
    Ensures (contentExec b) (fun _ s' => ScopesKept b actor s s')
      (ContentService.publishQuiz b tenantID id).run s := by
  have hsame : ScopesKept b actor s s := .refl s
  refine Ensures.run_bind (ensures_getQuiz.mono fun found s₁ h => ?_)
  obtain ⟨rfl, hfound⟩ := h
  cases found with
  | error e => exact hsame
  | ok found =>
  refine Ensures.lift_bind (fun _ _ => hsame) fun existing hexisting => ?_
  obtain ⟨oid, hoid, hexisting⟩ := hfound existing (congrArg _ (required_ok hexisting))
  refine Ensures.run_bind ((ensures_content (q := .now) fun _ => rfl).mono fun now s₂ h => ?_)
  obtain ⟨rfl, -⟩ := h
  cases now with
  | error e => exact hsame
  | ok now =>
  refine Ensures.run_bind ((ensures_content (q := .now) fun _ => rfl).mono fun now' s₃ h => ?_)
  obtain ⟨rfl, -⟩ := h
  cases now' with
  | error e => exact hsame
  | ok now' =>
  refine Ensures.run_bind ?_
  refine (ensures_updateQuiz hsame fun oid' _ hoid' => scopesKept_updateQuiz fun quiz hfind => ?_).mono ?_
  · cases hoid.symm.trans hoid'
    cases hexisting.symm.trans hfind
    exact hquiz oid existing hoid hexisting
  · intro r s' hkept
    cases r <;> exact hkept

/-! ## What a changed quiz shows -/

/-- The update of a quiz at one time, nothing lost. -/
lemma alone_updateQuiz {oid : ObjectID} (hoid : objectID id = .ok oid) (update : QuizUpdate) (env : ContentEnv) :
    ((ContentRepository.updateQuiz b tenantID id update).run.alone (ContentStore.exec b) env s).2 =
      s.updateQuiz tenantID oid (update.apply env.now) := by
  unfold ContentRepository.updateQuiz
  rw [alone_lift_bind hoid]
  cases b with
  | memory => rfl
  | mongo =>
    change ((ContentRepository.getQuiz tenantID id).run.alone (ContentStore.exec .mongo) env _).2 = _
    unfold ContentRepository.getQuiz
    rw [alone_lift_bind hoid]
    rfl

lemma alone_getQuiz {oid : ObjectID} {quiz : QuizDocument} (hoid : objectID id = .ok oid)
    (hquiz : s.findQuiz tenantID oid = some quiz) (env : ContentEnv) :
    (ContentRepository.getQuiz tenantID id).run.alone (ContentStore.exec b) env s = (.ok (some quiz), s) := by
  unfold ContentRepository.getQuiz
  rw [alone_lift_bind hoid]
  exact Prod.ext (congrArg Except.ok hquiz) rfl

/-- What follows an update sends nothing. -/
lemma alone_bind_store {α β : Type} {x : ContentCall α} {f : α → ContentCall β} {env : ContentEnv}
    (hf : ∀ a, (f a).run.AllRequests (fun _ => False)) :
    ((x >>= f).run.alone (ContentStore.exec b) env s).2 = (x.run.alone (ContentStore.exec b) env s).2 := by
  rw [Program.run_bind, alone_bind]
  refine alone_of_allRequests (P := fun _ => False) (fun _ _ h => h.elim) ?_ _
  cases (x.run.alone (ContentStore.exec b) env s).1 with
  | error e => trivial
  | ok a => exact hf a

lemma outcome_alone [ContentHash] (mutation : ContentMutation) (env : ContentEnv) :
    mutation.Outcome b actor s ((mutation.call b actor).run.alone (ContentStore.exec b) env s).2 :=
  ⟨_, (evaluates_alone (ContentStore.exec b) env _ s).of_comp (g := fun env => (env, Fault.none))⟩

lemma inScope_of_scopesKept {oid : ObjectID} {quiz : QuizDocument} {update : QuizUpdate} {now : Time}
    (hquiz : s.findQuiz tenantID oid = some quiz) (hnow : now ≠ quiz.updatedAt)
    (h : ScopesKept b actor s (s.updateQuiz tenantID oid (update.apply now))) :
    InScope b actor s tenantID quiz.scope := by
  have hnamed := List.find?_some hquiz
  simp only [QuizDocument.named, Bool.and_eq_true, decide_eq_true_eq] at hnamed
  obtain hsame | ⟨hbefore, -⟩ := forall₂_modifyFirst_found h.quizzes hquiz
  · exact absurd (congrArg QuizDocument.updatedAt hsame) hnow
  · rwa [hnamed.1] at hbefore

/-- One request keeps to the scopes of the actor exactly if a quiz that it changes is in one. -/
lemma scopesKept_iff [ContentHash] (hactor : actor.canAccessGlobal = false) (mutation : ContentMutation) :
    (∀ s', mutation.Outcome b actor s s' → ScopesKept b actor s s') ↔ mutation.QuizInScope b actor s := by
  have hensured : ∀ {α : Type} {x : ContentCall α},
      Ensures (contentExec b) (fun _ s' => ScopesKept b actor s s') x.run s →
      ∀ s', (∃ r, Evaluates (contentExec b) (do let _ ← x : ContentCall Unit).run s r s') → ScopesKept b actor s s' := by
    intro α x hx s' hs'
    obtain ⟨r, he⟩ := hs'
    have hcall : Ensures (contentExec b) (fun _ s' => ScopesKept b actor s s')
        (x >>= fun _ => (pure () : ContentCall Unit)).run s := by
      refine Ensures.run_bind (hx.mono fun r s' hkept => ?_)
      cases r <;> exact hkept
    exact hcall.sound he
  cases mutation with
  | updateQuestion tenantID id req =>
    exact iff_of_true (hensured (ensures_updateQuestion_scopesKept hactor req)) trivial
  | archiveQuestion tenantID id =>
    exact iff_of_true (hensured (ensures_archiveQuestion_scopesKept hactor)) trivial
  | updateQuiz tenantID id req =>
    refine ⟨fun h oid quiz hoid hquiz hvalid => ?_, fun h => hensured (ensures_updateQuiz_scopesKept h)⟩
    have hkept := h _ (outcome_alone (.updateQuiz tenantID id req) { now := quiz.updatedAt + 1, newID := .nil })
    unfold ContentMutation.call at hkept
    rw [alone_bind_store (f := fun _ => pure ()) fun _ => trivial] at hkept
    unfold ContentService.updateQuiz at hkept
    rw [alone_run_bind (alone_getQuiz hoid hquiz _), alone_lift_bind (y := required (some quiz)) rfl,
      alone_lift_bind hvalid, alone_bind_store ?_, alone_updateQuiz hoid] at hkept
    · exact inScope_of_scopesKept hquiz (by simp) hkept
    · exact fun _ => AllRequests.lift_bind fun _ _ => trivial
  | publishQuiz tenantID id =>
    refine ⟨fun h oid quiz hoid hquiz => ?_, fun h => hensured (ensures_publishQuiz_scopesKept h)⟩
    have hkept := h _ (outcome_alone (.publishQuiz tenantID id) { now := quiz.updatedAt + 1, newID := .nil })
    unfold ContentMutation.call at hkept
    rw [alone_bind_store (f := fun _ => pure ()) fun _ => trivial] at hkept
    unfold ContentService.publishQuiz at hkept
    rw [alone_run_bind (alone_getQuiz hoid hquiz _), alone_lift_bind (y := required (some quiz)) rfl,
      alone_run_bind rfl, alone_run_bind rfl, alone_bind_store ?_, alone_updateQuiz hoid] at hkept
    · exact inScope_of_scopesKept hquiz (by simp) hkept
    · exact fun _ => trivial

end Integrity

section Runs

variable [Library] [MongoServer] [ContentHash]

/-- Whatever is lost in a run, its requests change only what is in a scope of the actor, exactly
if every quiz they update or publish is. -/
theorem scopesKept_run (b : Backend) (actor : Actor) (hactor : actor.canAccessGlobal = false) (s : ContentStore)
    (mutations : List ContentMutation) :
    Runs.Always (ContentMutation.Outcome b actor) (fun s _ s' => ScopesKept b actor s s') s mutations ↔
      Runs.Always (ContentMutation.Outcome b actor)
        (fun s mutation _ => ContentMutation.QuizInScope b actor s mutation) s mutations := by
  refine Runs.Always.congr (fun s mutation => ?_) s mutations
  rw [scopesKept_iff hactor]
  exact ⟨fun h _ _ => h, fun h => h _ (outcome_alone mutation { now := 0, newID := .nil })⟩

end Runs

section Sample

attribute [local instance] asciiLibrary Sample.server

/-- A hash that stands for all content. -/
@[reducible] def Sample.contentHash : ContentHash where
  hashAny _ := "hash"

attribute [local instance] Sample.contentHash

lemma Sample.inScope_boss : InScope .memory ⟨"boss", []⟩ Sample.centerBank "erg" ⟨"center", (Sample.id 1).hex⟩ := by
  intro env
  rfl

theorem scopesKept_boss :
    Runs.Always (ContentMutation.Outcome .memory ⟨"boss", []⟩)
      (fun s _ s' => ScopesKept .memory ⟨"boss", []⟩ s s') Sample.centerBank
      [.publishQuiz "erg" (Sample.id 3).hex] := by
  refine (scopesKept_run .memory ⟨"boss", []⟩ rfl Sample.centerBank _).mpr fun s' _ => ⟨?_, trivial⟩
  intro oid quiz hoid hquiz
  obtain rfl : quiz = Sample.centerBank.quizzes.head (by decide) := by
    have hmem := List.mem_of_find?_eq_some hquiz
    exact List.mem_singleton.mp hmem
  exact Sample.inScope_boss

/-- Somebody who runs no center publishes the quiz of one. -/
theorem foreign_quiz_published :
    ¬Runs.Always (ContentMutation.Outcome .memory ⟨"stranger", []⟩)
      (fun s _ s' => ScopesKept .memory ⟨"stranger", []⟩ s s') Sample.centerBank
      [.publishQuiz "erg" (Sample.id 3).hex] := by
  intro h
  have hkept := (scopesKept_iff rfl _).mp fun s' hs' => (h s' hs').1
  exact Sample.not_scopeAllowed_stranger (hkept (Sample.id 3) _ rfl rfl Sample.clock)

end Sample

end ErgGo.Lms
