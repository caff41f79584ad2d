import ErgGo.Lms.ContentRuns

/-!
# Published versions and packages

Publishing reads the version of a quiz and writes the next one, together with a hash of the
publication. Two publications that overlap write the same version. The hash is not renewed by
`UpdateQuiz`, so packages of one publication can differ in their settings.
-/

namespace ErgGo.Lms
open Go Documents Concurrent Program

inductive QuizOperation where
  | createQuiz (tenantID : String) (actor : Actor) (req : CreateQuizRequest)
  | createQuizFromQuestions (tenantID : String) (actor : Actor) (req : CreateQuizFromQuestionsRequest)
  | createRandomQuiz (tenantID : String) (actor : Actor) (req : CreateRandomQuizRequest)
  | updateQuiz (tenantID id : String) (req : UpdateQuizRequest)
  | publishQuiz (tenantID id : String)
  | quizPackage (tenantID id : String)

inductive QuizResult where
  | created (quiz : QuizResponse)
  | updated (detail : QuizDetailResponse)
  | published (resp : PublishQuizResponse)
  | package (resp : QuizPackageResponse)

def QuizOperation.call [Library] [ContentHash] (b : Backend) : QuizOperation → ContentCall QuizResult
  | .createQuiz tenantID actor req => return .created (← ContentService.createQuiz tenantID actor req)
  | .createQuizFromQuestions tenantID actor req =>
    return .created (← ContentService.createQuizFromQuestions tenantID actor req)
  | .createRandomQuiz tenantID actor req => return .created (← ContentService.createRandomQuiz tenantID actor req)
  | .updateQuiz tenantID id req => return .updated (← ContentService.updateQuiz b tenantID id req)
  | .publishQuiz tenantID id => return .published (← ContentService.publishQuiz b tenantID id)
  | .quizPackage tenantID id => return .package (← ContentService.quizPackage tenantID id)

/-- The quiz and the version that a request publishes. -/
def publication : ContentRequest → Option (String × ObjectID × ℤ)
  | .updateQuiz tenantID id set => set.version.map (fun version => (tenantID, id, version))
  | _ => none

/-- The version an event gives to the quiz, where its request arrives. -/
def publishedVersion (tenantID : String) (id : ObjectID) (e : ContentEvent) : Option ℤ :=
  match publication e.req with
  | some (tenantID', id', version) =>
    if tenantID' = tenantID ∧ id' = id ∧ e.env.2 ≠ .lost then some version else none
  | none => none

/-- A publication is computed from the version its call has read. -/
def PublicationOrigin (h : List ContentEvent) (d : ContentEvent) : Prop :=
  ∀ tenantID id version, publication d.req = some (tenantID, id, version) →
    ∃ r ∈ h, r.thread = d.thread ∧ r.req = .findQuiz tenantID id ∧
      ∃ quiz, r.before.findQuiz tenantID id = some quiz ∧ version = quiz.version + 1

lemma publication_of_publishedVersion {tenantID : String} {id : ObjectID} {e : ContentEvent} {version : ℤ}
    (h : publishedVersion tenantID id e = some version) :
    publication e.req = some (tenantID, id, version) ∧ e.env.2 ≠ .lost := by
  unfold publishedVersion at h
  split at h
  · next tenantID' id' version' hreq =>
    split at h
    · next hsame =>
      obtain ⟨rfl, rfl, harrived⟩ := hsame
      rw [Option.some.inj h] at hreq
      exact ⟨hreq, harrived⟩
    · cases h
  · cases h

lemma update_of_publication {q : ContentRequest} {tenantID : String} {id : ObjectID} {version : ℤ}
    (h : publication q = some (tenantID, id, version)) :
    ∃ set, q = .updateQuiz tenantID id set ∧ set.version = some version := by
  cases q with
  | updateQuiz tenantID' id' set =>
    obtain ⟨version', hversion, heq⟩ := Option.map_eq_some_iff.mp h
    cases heq
    exact ⟨set, rfl, hversion⟩
  | _ => cases h

section Packages

variable [ContentHash]

/-- Stored package hashes are `old` ones or hashes of publications. -/
def HashesPublications (old : Set String) (s : ContentStore) : Prop :=
  ∀ quiz ∈ s.quizzes, quiz.packageHash = "" ∨ quiz.packageHash ∈ old ∨
    ∃ id version questions time, quiz.packageHash = hashAny (.publication id version questions time)

/-- What a package is answered from. -/
def PackageOf (old : Set String) (h : List ContentEvent) (thread : Nat) (tenantID : String) (id : ObjectID)
    (resp : QuizPackageResponse) : Prop :=
  ∃ r ∈ h, r.thread = thread ∧ r.req = .findQuiz tenantID id ∧ HashesPublications old r.before ∧
    ∃ quiz, r.before.findQuiz tenantID id = some quiz ∧ resp = quizPackageFromQuiz quiz

/-- A request that keeps `HashesPublications`. -/
def SetsPublicationHash : ContentRequest → Prop
  | .insertQuiz quiz => quiz.packageHash = ""
  | .updateQuiz _ _ set => ∀ hash, set.packageHash = some hash →
      ∃ id version questions time, hash = hashAny (.publication id version questions time)
  | _ => True

end Packages

section Safe

variable [Library] [MongoServer] [ContentHash] {b : Backend} {i : Nat} {w : ContentWorld} {old : Set String}

lemma hashesPublications_exec {s : ContentStore} (hs : HashesPublications old s) {q : ContentRequest}
    (hq : SetsPublicationHash q) (env : ContentEnv) : HashesPublications old (ContentStore.exec b env q s).2 := by
  cases q with
  | insertQuiz new =>
    change HashesPublications old (insertQuiz b (new.created env.toEnv) s).2
    unfold insertQuiz
    split
    · exact hs
    · intro quiz hquiz
      obtain hquiz | hquiz := List.mem_append.mp hquiz
      · exact hs quiz hquiz
      · rw [List.mem_singleton.mp hquiz]
        exact .inl hq
  | updateQuiz tenantID id set =>
    refine forall_modifyFirst (f := set.apply env.now) hs (fun quiz hquiz => ?_)
    have hbefore := hs quiz (List.mem_of_find?_eq_some hquiz)
    change set.packageHash.getD quiz.packageHash = "" ∨ set.packageHash.getD quiz.packageHash ∈ old ∨
      ∃ id version questions time,
        set.packageHash.getD quiz.packageHash = hashAny (.publication id version questions time)
    cases hset : set.packageHash with
    | none => exact hbefore
    | some hash => exact .inr (.inr (hq hash hset))
  | insertQuestion question =>
    change HashesPublications old (insertQuestion b (question.created env.toEnv) s).2
    unfold insertQuestion
    split <;> exact hs
  | _ => exact hs

lemma hashesPublications_after {s : ContentStore} (hs : HashesPublications old s) {q : ContentRequest}
    (hq : SetsPublicationHash q) (env : ContentEnv × Fault) : HashesPublications old (contentExec b env q s).2 := by
  unfold contentExec
  obtain ⟨hafter, -⟩ | ⟨hafter, -⟩ := withFaults_store LmsError.storeFailure (ContentStore.exec b) env q s
  · rw [hafter]
    exact hs
  · rw [hafter]
    exact hashesPublications_exec hs hq env.1

/-- A request that neither publishes nor stores a package hash. -/
def PublishesNothing (q : ContentRequest) : Prop := publication q = none ∧ SetsPublicationHash q

/-- What the calls of a run keep to. -/
abbrev publications (old : Set String) : Protocol (ContentEnv × Fault) ContentRequest ContentStore :=
  provenance (HashesPublications old) PublicationOrigin

lemma safe_quiet_content {α : Type} {x : ContentCall α} (hx : x.run.AllRequests PublishesNothing) :
    (publications old).Safe (contentExec b) i (OnSuccess (fun _ _ => True)) x.run w := by
  have hsafe : (publications old).Safe (contentExec b) i (fun _ _ => True) x.run w := by
    refine Protocol.Safe.of_allRequests ?_ hx w
    intro q hq w hw env
    refine ⟨⟨hashesPublications_after hw.1 hq.2 env, hw.2.concat ?_⟩, List.prefix_append _ _⟩
    intro tenantID id version hpublication
    rw [hq.1] at hpublication
    cases hpublication
  refine hsafe.mono fun r _ _ _ => ?_
  cases r <;> trivial

/-- A quiz that was read, and the event that read it. -/
lemma safe_getQuiz (tenantID id : String) :
    (publications old).Safe (contentExec b) i (OnSuccess (fun found w' => ∃ oid, objectID id = .ok oid ∧
      ∃ r ∈ w'.2, r.thread = i ∧ r.req = .findQuiz tenantID oid ∧ HashesPublications old r.before ∧
        found = r.before.findQuiz tenantID oid))
      (ContentRepository.getQuiz tenantID id).run w := by
  unfold ContentRepository.getQuiz
  refine Protocol.Safe.lift_bind fun oid hid => ?_
  refine safe_send (fun env s hs => hashesPublications_after (q := .findQuiz tenantID oid) hs trivial env) ?_ ?_
  · intro h env s _ _ tenantID' id' version hpublication
    cases hpublication
  · intro h env s _ hs
    cases hreply : (contentExec b env (.findQuiz tenantID oid) s).1 with
    | error e => trivial
    | ok found =>
      have hfound : found = s.findQuiz tenantID oid := by
        obtain ⟨hexec, -⟩ := withFaults_ok hreply
        cases hexec
        rfl
      exact ⟨oid, hid, _, List.mem_append_right h (List.mem_singleton.mpr rfl), rfl, rfl, hs, hfound⟩

/-- A successful publication has written the version it returns. -/
lemma safe_publishQuiz (tenantID id : String) :
    (publications old).Safe (contentExec b) i (OnSuccess (fun resp w' => ∃ oid, objectID id = .ok oid ∧
      ∃ e ∈ w'.2, e.thread = i ∧ publishedVersion tenantID oid e = some resp.version))
      (ContentService.publishQuiz b tenantID id).run w := by
  unfold ContentService.publishQuiz
  refine (safe_getQuiz tenantID id).run_bind ?_
  rintro found w₁ - ⟨oid, hid, r, hr, hthread, hreq, -, rfl⟩
  refine Protocol.Safe.lift_bind fun quiz hquiz => ?_
  have hread := required_ok hquiz
  have hclock : ∀ w, (publications old).Safe (contentExec b) i (OnSuccess (fun _ _ => True)) (content .now).run w :=
    fun w => safe_quiet_content ⟨⟨rfl, trivial⟩, fun _ => trivial⟩
  refine (hclock w₁).run_bind fun time w₂ h₂ _ => ?_
  refine (hclock w₂).run_bind fun now w₃ h₃ _ => ?_
  have hkept : r ∈ w₃.2 := (h₂.trans h₃).subset hr
  set update : QuizUpdate :=
    { status := some "published", version := some (quiz.version + 1),
      packageHash := some (hashQuiz quiz (quiz.version + 1) time), publishedAt := some now } with hupdate
  have hwrite : (publications old).Safe (contentExec b) i (OnSuccess (fun _ w' => ∃ e ∈ w'.2, e.thread = i ∧
      publishedVersion tenantID oid e = some (quiz.version + 1))) (content (.updateQuiz tenantID oid update)).run w₃ := by
    have hhash : SetsPublicationHash (.updateQuiz tenantID oid update) := by
      intro hash heq
      rw [← Option.some.inj heq]
      exact ⟨_, _, _, _, rfl⟩
    refine safe_send (fun env s hs => hashesPublications_after hs hhash env) ?_ ?_
    · intro h env s hrely _ tenantID' id' version hpublication
      cases hpublication
      exact ⟨r, hrely.subset hkept, hthread, hreq, quiz, hread, rfl⟩
    · intro h env s _ _
      cases hreply : (contentExec b env (.updateQuiz tenantID oid update) s).1 with
      | error e => trivial
      | ok found =>
        refine ⟨_, List.mem_append_right h (List.mem_singleton.mpr rfl), rfl, ?_⟩
        have harrived : env.2 ≠ .lost := by
          intro hlost
          obtain ⟨env, fault⟩ := env
          subst hlost
          cases hreply
        exact if_pos ⟨rfl, rfl, harrived⟩
  have hupdated : (publications old).Safe (contentExec b) i (OnSuccess (fun _ w' => ∃ e ∈ w'.2, e.thread = i ∧
      publishedVersion tenantID oid e = some (quiz.version + 1)))
      (ContentRepository.updateQuiz b tenantID id update).run w₃ := by
    unfold ContentRepository.updateQuiz
    refine Protocol.Safe.lift_bind fun oid' hid' => ?_
    rw [hid] at hid'
    cases hid'
    refine hwrite.run_bind fun found w₄ _ hwritten => ?_
    cases b with
    | memory => exact hwritten
    | mongo =>
      refine (safe_getQuiz tenantID id).mono fun reply w₅ h₅ _ => ?_
      obtain ⟨e, he, hversion⟩ := hwritten
      cases reply with
      | error e => trivial
      | ok _ => exact ⟨e, h₅.subset he, hversion⟩
  exact hupdated.run_bind fun _ w₄ _ hwritten => ⟨oid, hid, hwritten⟩

lemma safe_quizPackage (tenantID id : String) :
    (publications old).Safe (contentExec b) i (OnSuccess (fun resp w' => ∃ oid, objectID id = .ok oid ∧
      PackageOf old w'.2 i tenantID oid resp)) (ContentService.quizPackage tenantID id).run w := by
  unfold ContentService.quizPackage
  refine (safe_getQuiz tenantID id).run_bind ?_
  rintro found w₁ - ⟨oid, hid, r, hr, hthread, hreq, hhashes, rfl⟩
  refine Protocol.Safe.lift_bind fun quiz hquiz => ?_
  exact ⟨oid, hid, r, hr, hthread, hreq, hhashes, quiz, required_ok hquiz, rfl⟩

omit [MongoServer] in
lemma publishesNothing_scope (tenantID : String) (actor : Actor) (scope : ContentScope) :
    (ContentService.validateContentScope tenantID actor scope).run.AllRequests PublishesNothing :=
  validateContentScope_sends (fun _ _ => ⟨rfl, trivial⟩) tenantID actor scope

omit [Library] [MongoServer] in
lemma publishesNothing_createQuiz {quiz : QuizDocument} (hquiz : quiz.packageHash = "") :
    (ContentRepository.createQuiz quiz).run.AllRequests PublishesNothing :=
  ⟨⟨rfl, hquiz⟩, fun _ => trivial⟩

omit [MongoServer] in
lemma publishesNothing_create (tenantID : String) (actor : Actor) (req : CreateQuizRequest) :
    (ContentService.createQuiz tenantID actor req).run.AllRequests PublishesNothing := by
  unfold ContentService.createQuiz
  refine (publishesNothing_scope tenantID actor req.scope).run_bind fun _ => ?_
  refine AllRequests.lift_bind fun _ _ => AllRequests.lift_bind fun quiz hquiz => ?_
  have hhash : quiz.packageHash = "" := by
    unfold quizFromCreateReq at hquiz
    obtain ⟨subjectID, -, hquiz⟩ := except_bind_eq_ok.mp hquiz
    obtain ⟨levelID, -, hquiz⟩ := except_bind_eq_ok.mp hquiz
    cases hquiz
    rfl
  exact (publishesNothing_createQuiz hhash).run_bind fun _ => trivial

omit [MongoServer] in
lemma publishesNothing_createFromQuestions (tenantID : String) (actor : Actor) (req : CreateQuizFromQuestionsRequest) :
    (ContentService.createQuizFromQuestions tenantID actor req).run.AllRequests PublishesNothing := by
  unfold ContentService.createQuizFromQuestions
  split
  · trivial
  · next firstID _ _ =>
    have hget : (ContentRepository.getQuestion tenantID firstID).run.AllRequests PublishesNothing :=
      AllRequests.lift_bind (fun _ _ => ⟨⟨rfl, trivial⟩, fun _ => trivial⟩)
    refine hget.run_bind fun found => AllRequests.lift_bind fun first _ => ?_
    refine (publishesNothing_scope tenantID actor first.scope).run_bind fun _ => ?_
    refine AllRequests.lift_bind fun _ _ => ?_
    exact (publishesNothing_createQuiz rfl).run_bind fun _ => trivial

omit [MongoServer] in
lemma publishesNothing_createRandom (tenantID : String) (actor : Actor) (req : CreateRandomQuizRequest) :
    (ContentService.createRandomQuiz tenantID actor req).run.AllRequests PublishesNothing := by
  unfold ContentService.createRandomQuiz
  refine AllRequests.run_bind (AllRequests.run_mapM fun rule => ?_)
    (fun picked => publishesNothing_create tenantID actor _)
  unfold ContentService.randomPickQuestions
  exact AllRequests.lift_bind fun filter _ => ⟨⟨rfl, trivial⟩, fun _ => trivial⟩

omit [MongoServer] in
lemma publishesNothing_update (b : Backend) (tenantID id : String) (req : UpdateQuizRequest) :
    (ContentService.updateQuiz b tenantID id req).run.AllRequests PublishesNothing := by
  have hget : (ContentRepository.getQuiz tenantID id).run.AllRequests PublishesNothing :=
    AllRequests.lift_bind (fun _ _ => ⟨⟨rfl, trivial⟩, fun _ => trivial⟩)
  have hupdate : ∀ set : QuizUpdate, set.version = none → set.packageHash = none →
      (ContentRepository.updateQuiz b tenantID id set).run.AllRequests PublishesNothing := by
    intro set hversion hhash
    unfold ContentRepository.updateQuiz
    refine AllRequests.lift_bind fun oid _ => ?_
    have hquiet : PublishesNothing (.updateQuiz tenantID oid set) := by
      refine ⟨?_, fun hash heq => ?_⟩
      · rw [publication, hversion]
        rfl
      · rw [hhash] at heq
        cases heq
    refine AllRequests.run_bind ⟨hquiet, fun _ => trivial⟩ fun found => ?_
    cases b with
    | memory => trivial
    | mongo => exact hget
  unfold ContentService.updateQuiz
  refine hget.run_bind fun found => AllRequests.lift_bind fun existing _ => AllRequests.lift_bind fun _ _ => ?_
  exact (hupdate _ rfl rfl).run_bind fun found => AllRequests.lift_bind fun _ _ => trivial

/-- What the result of an operation says about the history. -/
def Reported (old : Set String) (op : QuizOperation) (i : Nat) (h : List ContentEvent) : QuizResult → Prop
  | .published resp => ∀ tenantID id oid, op = .publishQuiz tenantID id → objectID id = .ok oid →
      ∃ e ∈ h, e.thread = i ∧ publishedVersion tenantID oid e = some resp.version
  | .package resp => ∀ tenantID id oid, op = .quizPackage tenantID id → objectID id = .ok oid →
      PackageOf old h i tenantID oid resp
  | _ => True

omit [Library] [MongoServer] in
lemma Reported.mono {op : QuizOperation} {h h' : List ContentEvent} {result : QuizResult}
    (hresult : Reported old op i h result) (hextends : h <+: h') : Reported old op i h' result := by
  cases result with
  | published resp =>
    intro tenantID id oid hop hid
    obtain ⟨e, he, hversion⟩ := hresult tenantID id oid hop hid
    exact ⟨e, hextends.subset he, hversion⟩
  | package resp =>
    intro tenantID id oid hop hid
    obtain ⟨r, hr, hread⟩ := hresult tenantID id oid hop hid
    exact ⟨r, hextends.subset hr, hread⟩
  | _ => trivial

lemma safe_quizCall (op : QuizOperation) :
    (publications old).Safe (contentExec b) i (OnSuccess (fun result w' => Reported old op i w'.2 result)) (op.call b).run w := by
  cases op with
  | createQuiz tenantID actor req =>
    exact (safe_quiet_content (publishesNothing_create tenantID actor req)).run_bind fun _ _ _ _ => trivial
  | createQuizFromQuestions tenantID actor req =>
    exact (safe_quiet_content (publishesNothing_createFromQuestions tenantID actor req)).run_bind fun _ _ _ _ => trivial
  | createRandomQuiz tenantID actor req =>
    exact (safe_quiet_content (publishesNothing_createRandom tenantID actor req)).run_bind fun _ _ _ _ => trivial
  | updateQuiz tenantID id req =>
    exact (safe_quiet_content (publishesNothing_update b tenantID id req)).run_bind fun _ _ _ _ => trivial
  | publishQuiz tenantID id =>
    refine (safe_publishQuiz tenantID id).run_bind ?_
    rintro resp w₁ - ⟨oid, hid, hwritten⟩ tenantID' id' oid' hop hid'
    cases hop
    rw [hid] at hid'
    cases hid'
    exact hwritten
  | quizPackage tenantID id =>
    refine (safe_quizPackage tenantID id).run_bind ?_
    rintro resp w₁ - ⟨oid, hid, hpackage⟩ tenantID' id' oid' hop hid'
    cases hop
    rw [hid] at hid'
    cases hid'
    exact hpackage

end Safe

section Runs

variable [Library] [MongoServer] [ContentHash]

/-- The operations, interleaved. -/
abbrev quizRun (b : Backend) (s : ContentStore) (ops : List QuizOperation)
    (schedule : List (Nat × (ContentEnv × Fault))) :
    Config (ContentEnv × Fault) ContentRequest ContentReply ContentStore (Except LmsError QuizResult) :=
  (start s (ops.map (fun op => (op.call b).run))).run (contentExec b) schedule

lemma quizRun_publications (b : Backend) {s : ContentStore} {old : Set String} (hs : HashesPublications old s) (ops : List QuizOperation)
    (schedule : List (Nat × (ContentEnv × Fault))) :
    Provenance PublicationOrigin (quizRun b s ops schedule).history ∧
      ∀ i op result, ops[i]? = some op → (quizRun b s ops schedule).threads[i]? = some (.done (.ok result)) →
        Reported old op i (quizRun b s ops schedule).history result := by
  obtain ⟨-, hprovenance, hresults⟩ := provenance_run (contentExec b) (HashesPublications old) PublicationOrigin
    (fun i => OnSuccess (fun result w => ∀ op, ops[i]? = some op → Reported old op i w.2 result)) s
    (ops.map (fun op => (op.call b).run)) hs (by
      intro i p hp
      rw [List.getElem?_map, Option.map_eq_some_iff] at hp
      obtain ⟨op, hop, rfl⟩ := hp
      refine (safe_quizCall op).mono fun r w _ hr => ?_
      cases r with
      | error e => trivial
      | ok result =>
        intro op' hop'
        rw [hop] at hop'
        cases hop'
        exact hr) schedule
  refine ⟨hprovenance, fun i op result hop hdone => ?_⟩
  obtain ⟨w, hextends, hreported⟩ := hresults i _ hdone
  exact (hreported op hop).mono hextends

/-- No publication of the quiz is written between a publication and the read it is computed
from. -/
def NoPublicationBetween (tenantID : String) (id : ObjectID) (h : List ContentEvent) : Prop :=
  ∀ h₁ r h₂ e h₃, h = h₁ ++ r :: (h₂ ++ e :: h₃) → r.thread = e.thread → r.req = .findQuiz tenantID id →
    (publishedVersion tenantID id e).isSome → ∀ d ∈ h₂, publishedVersion tenantID id d = none

/-- Versions increase in the order in which they are written, each successful publication
returns a version that it has written, and no two return the same. -/
structure PublishedInOrder (ops : List QuizOperation)
    (c : Config (ContentEnv × Fault) ContentRequest ContentReply ContentStore (Except LmsError QuizResult))
    (tenantID : String) (id : ObjectID) : Prop where
  increasing : (c.history.filterMap (publishedVersion tenantID id)).Pairwise (· < ·)
  written : ∀ (i : ℕ) (idText : String) (resp : PublishQuizResponse),
    ops[i]? = some (QuizOperation.publishQuiz tenantID idText) → objectID idText = .ok id →
    c.threads[i]? = some (Program.done (.ok (.published resp))) →
    ∃ e ∈ c.history, e.thread = i ∧ publishedVersion tenantID id e = some resp.version
  distinct : ∀ (i j : ℕ) (idText idText' : String) (resp resp' : PublishQuizResponse),
    ops[i]? = some (QuizOperation.publishQuiz tenantID idText) →
    ops[j]? = some (QuizOperation.publishQuiz tenantID idText') → objectID idText = .ok id → objectID idText' = .ok id →
    c.threads[i]? = some (Program.done (.ok (.published resp))) →
    c.threads[j]? = some (Program.done (.ok (.published resp'))) → i ≠ j → resp.version ≠ resp'.version

variable {b : Backend} {s : ContentStore} {tenantID : String} {id : ObjectID} {h : List ContentEvent}

omit [ContentHash] in
/-- The version of a stored quiz after an event. -/
lemma version_after (e : ContentEvent) {quiz : QuizDocument} (hquiz : e.before.findQuiz tenantID id = some quiz) :
    ∃ quiz', (Event.after (contentExec b) e).findQuiz tenantID id = some quiz' ∧
      quiz'.version = (publishedVersion tenantID id e).getD quiz.version := by
  obtain ⟨set, hreq, harrived, hafter⟩ | ⟨hlost, hafter⟩ := findQuiz_after (b := b) e hquiz
  · refine ⟨_, hafter, ?_⟩
    change set.version.getD quiz.version = _
    unfold publishedVersion
    rw [hreq]
    cases hversion : set.version with
    | none => simp [publication, hversion]
    | some version => simp [publication, hversion, harrived]
  · refine ⟨quiz, hafter, ?_⟩
    cases hversion : publishedVersion tenantID id e with
    | none => rfl
    | some version =>
      obtain ⟨hpublication, harrived⟩ := publication_of_publishedVersion hversion
      obtain ⟨set, hreq, -⟩ := update_of_publication hpublication
      exact absurd (hlost set hreq) harrived

omit [ContentHash] in
/-- Without publications in between, a publication writes the version that follows the stored one. -/
lemma version_of_publication {s' : ContentStore} (hr : Replays (contentExec b) s h s')
    (horigin : Provenance PublicationOrigin h) (hbetween : NoPublicationBetween tenantID id h)
    {h₁ h₂ : List ContentEvent} {e : ContentEvent} (hsplit : h = h₁ ++ e :: h₂) {version : ℤ}
    (he : publishedVersion tenantID id e = some version) :
    ∃ quiz, e.before.findQuiz tenantID id = some quiz ∧ version = quiz.version + 1 := by
  obtain ⟨hpublication, -⟩ := publication_of_publishedVersion he
  obtain ⟨r, hmem, hthread, hreq, quiz, hread, rfl⟩ := horigin h₁ e h₂ hsplit tenantID id version hpublication
  obtain ⟨g₁, g₂, rfl⟩ := List.append_of_mem hmem
  have hsplit' : h = g₁ ++ r :: (g₂ ++ e :: h₂) := by
    rw [hsplit, List.append_assoc, List.cons_append]
  have hquiet : ∀ d ∈ r :: g₂, publishedVersion tenantID id d = none := by
    intro d hd
    obtain rfl | hd := List.mem_cons.mp hd
    · rw [publishedVersion, hreq]
      rfl
    · exact hbetween g₁ r g₂ e h₂ hsplit' hthread hreq (by rw [he]; rfl) d hd
  rw [hsplit'] at hr
  have hpath : Replays (contentExec b) r.before (r :: g₂) e.before := ⟨rfl, hr.between⟩
  have hkept : ∃ found, e.before.findQuiz tenantID id = some found ∧ found.version = quiz.version := by
    refine hpath.preserves (I := fun s => ∃ found, s.findQuiz tenantID id = some found ∧
      found.version = quiz.version) ⟨quiz, hread, rfl⟩ ?_
    rintro d hd ⟨found, hfound, hversion⟩
    obtain ⟨found', hfound', hversion'⟩ := version_after (b := b) d hfound
    rw [hquiet d hd] at hversion'
    exact ⟨found', hfound', hversion'.trans hversion⟩
  obtain ⟨found, hfound, hversion⟩ := hkept
  exact ⟨found, hfound, by rw [hversion]⟩

omit [ContentHash] in
/-- So the versions written increase. -/
lemma versions_increase {s' : ContentStore} (hr : Replays (contentExec b) s h s')
    (horigin : Provenance PublicationOrigin h) (hbetween : NoPublicationBetween tenantID id h) :
    (h.filterMap (publishedVersion tenantID id)).Pairwise (· < ·) := by
  rw [List.pairwise_filterMap]
  refine pairwise_of_splits fun h₁ d h₂ e h₃ hsplit v hd v' he => ?_
  obtain ⟨quiz, hquiz, rfl⟩ := version_of_publication hr horigin hbetween hsplit hd
  have hsplit' : h = (h₁ ++ d :: h₂) ++ e :: h₃ := by
    rw [hsplit, List.append_assoc, List.cons_append]
  obtain ⟨last, hlast, rfl⟩ := version_of_publication hr horigin hbetween hsplit' he
  obtain ⟨written, hwritten, hversion⟩ := version_after (b := b) d hquiz
  rw [hd, Option.getD_some] at hversion
  have hpath : Replays (contentExec b) (Event.after (contentExec b) d) h₂ e.before := by
    rw [hsplit] at hr
    exact hr.between
  have hgrown : ∃ found, e.before.findQuiz tenantID id = some found ∧ quiz.version + 1 ≤ found.version := by
    refine hpath.preserves (I := fun s => ∃ found, s.findQuiz tenantID id = some found ∧
      quiz.version + 1 ≤ found.version) ⟨written, hwritten, hversion.ge⟩ ?_
    rintro x hx ⟨found, hfound, hle⟩
    obtain ⟨found', hfound', hversion'⟩ := version_after (b := b) x hfound
    refine ⟨found', hfound', ?_⟩
    cases hpublished : publishedVersion tenantID id x with
    | none =>
      rw [hpublished, Option.getD_none] at hversion'
      exact hversion' ▸ hle
    | some version =>
      obtain ⟨g₁, g₂, rfl⟩ := List.append_of_mem hx
      have hsplit'' : h = (h₁ ++ d :: g₁) ++ x :: (g₂ ++ e :: h₃) := by
        rw [hsplit]
        simp
      obtain ⟨stored, hstored, rfl⟩ := version_of_publication hr horigin hbetween hsplit'' hpublished
      rw [hfound] at hstored
      cases hstored
      rw [hpublished, Option.getD_some] at hversion'
      omega
  obtain ⟨found, hfound, hle⟩ := hgrown
  rw [hlast] at hfound
  cases hfound
  omega

/-- In every interleaving in which no publication is written between another and its read, the
versions published are distinct and increase in the order of their writes. -/
theorem publishedInOrder_of_noneBetween {ops : List QuizOperation}
    {schedule : List (Nat × (ContentEnv × Fault))}
    (hbetween : NoPublicationBetween tenantID id (quizRun b s ops schedule).history) :
    PublishedInOrder ops (quizRun b s ops schedule) tenantID id := by
  have hstored : HashesPublications (fun _ => True) s := fun _ _ => .inr (.inl trivial)
  obtain ⟨horigin, hreported⟩ := quizRun_publications b hstored ops schedule
  have hincreasing := versions_increase (run_replays s _ schedule) horigin hbetween
  have hwritten : ∀ (i : ℕ) (idText : String) (resp : PublishQuizResponse),
      ops[i]? = some (QuizOperation.publishQuiz tenantID idText) → objectID idText = .ok id →
      (quizRun b s ops schedule).threads[i]? = some (Program.done (.ok (.published resp))) →
      ∃ e ∈ (quizRun b s ops schedule).history, e.thread = i ∧ publishedVersion tenantID id e = some resp.version :=
    fun i idText resp hop hid hdone => hreported i _ _ hop hdone tenantID idText id rfl hid
  refine ⟨hincreasing, hwritten, ?_⟩
  intro i j idText idText' resp resp' hop hop' hid hid' hdone hdone' hne heq
  obtain ⟨e, he, rfl, hversion⟩ := hwritten i idText resp hop hid hdone
  obtain ⟨e', he', rfl, hversion'⟩ := hwritten j idText' resp' hop' hid' hdone'
  rw [heq] at hversion
  exact hne (congrArg Event.thread (eq_of_filterMap_increasing hincreasing he he' hversion hversion'))

end Runs

section Sample

attribute [local instance] asciiLibrary Sample.server

namespace Sample

/-- A hash for computing examples. -/
@[reducible] def publicationHash : ContentHash where
  hashAny
    | .detail detail => "detail of " ++ detail.quiz.title
    | .publication _ version _ _ => "publication " ++ toString version

attribute [local instance] publicationHash

/-- Whether the questions of a quiz are shuffled. -/
def shuffling (shuffle : Bool) : JsonObject := [("shuffleQuestions", .bool shuffle)]

def quizBank : ContentStore where
  centers := ⟨[], by simp⟩
  quizzes := [{ id := Sample.id 1, tenantID := "erg", subjectID := .nil, title := "Fractions",
                settings := some (shuffling false) }]

def publish : QuizOperation := .publishQuiz "erg" (Sample.id 1).hex

/-- The thread of each request, at increasing times. -/
def turns (threads : List ℕ) : List (ℕ × (ContentEnv × Fault)) :=
  threads.zipIdx.map (fun (thread, time) => (thread, ({ now := time, newID := .nil }, .none)))

def publishedTwice (threads : List ℕ) :
    Config (ContentEnv × Fault) ContentRequest ContentReply ContentStore (Except LmsError QuizResult) :=
  quizRun .memory quizBank [publish, publish] (turns threads)

/-- The thread of an event, whether it reads the quiz, and the version it writes. -/
def summary (e : ContentEvent) : ℕ × Bool × Option ℤ :=
  (e.thread, match e.req with
    | .findQuiz tenantID id => tenantID = "erg" ∧ id = Sample.id 1
    | _ => false, publishedVersion "erg" (Sample.id 1) e)

def version : Program ContentRequest ContentReply (Except LmsError QuizResult) → Option ℤ
  | .done (.ok (.published resp)) => some resp.version
  | _ => none

/-- Three events, of which the second publishes between a read and a publication of one thread. -/
def publishesBetween : List (ℕ × Bool × Option ℤ) → Bool
  | [r, d, e] => r.1 = e.1 && r.2.1 && e.2.2.isSome && d.2.2.isSome
  | _ => false

lemma noPublicationBetween_of_summaries {h : List ContentEvent}
    (hnone : ∀ events ∈ (h.map summary).sublistsLen 3, publishesBetween events = false) :
    NoPublicationBetween "erg" (Sample.id 1) h := by
  rintro h₁ r h₂ e h₃ rfl hthread hreq hwrites d hd
  have hsub : List.Sublist [r, d, e] (h₁ ++ r :: (h₂ ++ e :: h₃)) := by
    have htail : List.Sublist ([d] ++ [e]) (h₂ ++ e :: h₃) :=
      (List.singleton_sublist.mpr hd).append (List.singleton_sublist.mpr (by simp))
    exact (htail.cons_cons r).trans (List.sublist_append_right h₁ _)
  have hquiet := hnone _ (List.mem_sublistsLen.mpr ⟨hsub.map summary, rfl⟩)
  have hread : (summary r).2.1 = true := by simp [summary, hreq]
  have hthread' : (summary r).1 = (summary e).1 := hthread
  have hwrites' : (summary e).2.2.isSome = true := hwrites
  simp only [List.map_cons, List.map_nil, publishesBetween, hthread', hread, hwrites', decide_true, Bool.true_and,
    Option.isSome_eq_false_iff, Option.isNone_iff_eq_none] at hquiet
  exact hquiet

end Sample

attribute [local instance] Sample.publicationHash

/-- Publications one after the other. -/
theorem publishedInOrder_one_after_the_other :
    PublishedInOrder [Sample.publish, Sample.publish] (Sample.publishedTwice [0, 0, 0, 0, 1, 1, 1, 1]) "erg"
      (Sample.id 1) := by
  refine publishedInOrder_of_noneBetween (Sample.noPublicationBetween_of_summaries ?_)
  have hsummaries : (quizRun .memory Sample.quizBank [Sample.publish, Sample.publish]
      (Sample.turns [0, 0, 0, 0, 1, 1, 1, 1])).history.map Sample.summary =
      [(0, true, none), (0, false, none), (0, false, none), (0, false, some 1), (1, true, none), (1, false, none),
        (1, false, none), (1, false, some 2)] := by decide
  rw [hsummaries]
  decide

/-- Both calls read the quiz before either writes. -/
theorem versions_published_twice :
    (Sample.publishedTwice [0, 1, 0, 0, 0, 1, 1, 1]).threads.map Sample.version = [some 1, some 1] ∧
    ¬PublishedInOrder [Sample.publish, Sample.publish] (Sample.publishedTwice [0, 1, 0, 0, 0, 1, 1, 1]) "erg"
      (Sample.id 1) := by
  refine ⟨by decide, ?_⟩
  have hversions : (Sample.publishedTwice [0, 1, 0, 0, 0, 1, 1, 1]).history.filterMap
      (publishedVersion "erg" (Sample.id 1)) = [1, 1] := by decide
  intro h
  have hincreasing := h.increasing
  rw [hversions] at hincreasing
  simp at hincreasing

end Sample

end ErgGo.Lms
