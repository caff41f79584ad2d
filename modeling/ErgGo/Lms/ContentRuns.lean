import ErgGo.Lib.Provenance
import ErgGo.Lms.ContentService

/-!
# Runs of content calls

Calls on questions and quizzes, interleaved over a store whose connection can fail, and what
a single event does to the quiz or question of an id.
-/

namespace ErgGo.Lms
open Go Documents Concurrent Program

abbrev ContentEvent := Event (ContentEnv × Fault) ContentRequest ContentStore

abbrev ContentWorld := World (ContentEnv × Fault) ContentRequest ContentStore

section Events

variable [Library] [MongoServer] {b : Backend} {tenantID : String} {id : ObjectID}

/-- The store behind a connection that can fail. -/
def contentExec (b : Backend) : ContentEnv × Fault → (q : ContentRequest) → ContentStore → ContentReply q × ContentStore :=
  withFaults .storeFailure (ContentStore.exec b)

/-- An event leaves the store its request leads to, or a lost request leaves it as it was. -/
lemma after_cases (e : ContentEvent) : Event.after (contentExec b) e = e.before ∧ e.env.2 = .lost ∨
    Event.after (contentExec b) e = (ContentStore.exec b e.env.1 e.req e.before).2 ∧ e.env.2 ≠ .lost :=
  withFaults_store LmsError.storeFailure (ContentStore.exec b) e.env e.req e.before

omit [Library] [MongoServer] in
lemma findQuiz_updateQuiz (s : ContentStore) (u : QuizUpdate) (now : Time) :
    (s.updateQuiz tenantID id (u.apply now)).findQuiz tenantID id = (s.findQuiz tenantID id).map (u.apply now) :=
  find?_modifyFirst (f := u.apply now) (fun _ => rfl) s.quizzes

omit [Library] [MongoServer] in
lemma findQuiz_updateQuiz_ne {tenantID' : String} {id' : ObjectID} (hne : ¬(tenantID' = tenantID ∧ id' = id))
    (s : ContentStore) (u : QuizUpdate) (now : Time) :
    (s.updateQuiz tenantID' id' (u.apply now)).findQuiz tenantID id = s.findQuiz tenantID id := by
  refine find?_modifyFirst_disjoint (fun quiz hquiz => ?_) s.quizzes
  have hother : quiz.named tenantID id = false := by
    rw [Bool.eq_false_iff]
    intro hnamed
    simp only [QuizDocument.named, Bool.and_eq_true, decide_eq_true_eq] at hquiz hnamed
    exact hne ⟨hquiz.1.symm.trans hnamed.1, hquiz.2.symm.trans hnamed.2⟩
  exact ⟨hother, hother⟩

omit [Library] [MongoServer] in
/-- A new quiz goes to the end, so a quiz that is there stays the one that is found. -/
lemma findQuiz_insertQuiz {s : ContentStore} {quiz : QuizDocument} (hquiz : s.findQuiz tenantID id = some quiz)
    (new : QuizDocument) : (insertQuiz b new s).2.findQuiz tenantID id = some quiz := by
  unfold insertQuiz
  split
  · exact hquiz
  · change (s.quizzes ++ [new]).find? (QuizDocument.named tenantID id) = some quiz
    have hfind : s.quizzes.find? (QuizDocument.named tenantID id) = some quiz := hquiz
    rw [List.find?_append, hfind, Option.some_or]

/-- What a request makes of a stored quiz: the update of this quiz, or nothing. -/
lemma findQuiz_exec {s : ContentStore} {quiz : QuizDocument} (hquiz : s.findQuiz tenantID id = some quiz)
    (env : ContentEnv) (q : ContentRequest) :
    (∃ set, q = .updateQuiz tenantID id set ∧
      (ContentStore.exec b env q s).2.findQuiz tenantID id = some (set.apply env.now quiz)) ∨
    ((∀ set, q ≠ .updateQuiz tenantID id set) ∧ (ContentStore.exec b env q s).2.findQuiz tenantID id = some quiz) := by
  cases q with
  | updateQuiz tenantID' id' set =>
    by_cases hsame : tenantID' = tenantID ∧ id' = id
    · obtain ⟨rfl, rfl⟩ := hsame
      left
      refine ⟨set, rfl, ?_⟩
      change (s.updateQuiz tenantID' id' (set.apply env.now)).findQuiz tenantID' id' = _
      rw [findQuiz_updateQuiz, hquiz, Option.map_some]
    · right
      refine ⟨fun set' heq => hsame ?_, ?_⟩
      · cases heq
        exact ⟨rfl, rfl⟩
      · change (s.updateQuiz tenantID' id' (set.apply env.now)).findQuiz tenantID id = _
        rw [findQuiz_updateQuiz_ne hsame, hquiz]
  | insertQuiz new => exact .inr ⟨fun _ heq => (nomatch heq), findQuiz_insertQuiz hquiz _⟩
  | insertQuestion question =>
    refine .inr ⟨fun _ heq => (nomatch heq), ?_⟩
    change (insertQuestion b (question.created env.toEnv) s).2.findQuiz tenantID id = some quiz
    unfold insertQuestion
    split <;> exact hquiz
  | _ => exact .inr ⟨fun _ heq => (nomatch heq), hquiz⟩

/-- The same for an event, whose request may get lost. -/
lemma findQuiz_after (e : ContentEvent) {quiz : QuizDocument} (hquiz : e.before.findQuiz tenantID id = some quiz) :
    (∃ set, e.req = .updateQuiz tenantID id set ∧ e.env.2 ≠ .lost ∧
      (Event.after (contentExec b) e).findQuiz tenantID id = some (set.apply e.env.1.now quiz)) ∨
    ((∀ set, e.req = .updateQuiz tenantID id set → e.env.2 = .lost) ∧
      (Event.after (contentExec b) e).findQuiz tenantID id = some quiz) := by
  obtain ⟨hafter, hlost⟩ | ⟨hafter, harrived⟩ := after_cases (b := b) e
  · rw [hafter]
    exact .inr ⟨fun _ _ => hlost, hquiz⟩
  · rw [hafter]
    obtain ⟨set, hreq, hset⟩ | ⟨hreq, hkept⟩ := findQuiz_exec (b := b) hquiz e.env.1 e.req
    · exact .inl ⟨set, hreq, harrived, hset⟩
    · exact .inr ⟨fun set heq => absurd heq (hreq set), hkept⟩

end Events

section Sends

variable [Library] {P : ContentRequest → Prop}

omit [Library] in
lemma getCenter_sends (hP : ∀ tenantID id, P (.findCenter tenantID id)) (tenantID id : String) :
    (ContentRepository.getCenter tenantID id).run.AllRequests P :=
  AllRequests.lift_bind (fun _ _ => ⟨hP _ _, fun _ => trivial⟩)

lemma canAccessCenter_sends (hP : ∀ tenantID id, P (.findCenter tenantID id)) (tenantID : String) (actor : Actor)
    (centerID : String) : (ContentService.canAccessCenter tenantID actor centerID).AllRequests P := by
  apply AllRequests.ite
  · trivial
  apply (getCenter_sends hP tenantID centerID).bind
  rintro (e | _ | center)
  · trivial
  · trivial
  · dsimp only
    generalize (decide (centerType center = "school") && !center.parentID.isZero) = isSchool
    apply AllRequests.ite
    · trivial
    apply AllRequests.ite
    · apply (getCenter_sends hP tenantID center.parentID.hex).bind
      rintro (e | _ | parent) <;> trivial
    · trivial

lemma validateContentScope_sends (hP : ∀ tenantID id, P (.findCenter tenantID id)) (tenantID : String) (actor : Actor)
    (scope : ContentScope) : (ContentService.validateContentScope tenantID actor scope).run.AllRequests P := by
  unfold ContentService.validateContentScope
  split
  · trivial
  · split
    · exact AllRequests.run_bind ((canAccessCenter_sends hP tenantID actor scope.centerID).bind fun _ => trivial)
        (fun _ => trivial)
    · trivial

end Sends

end ErgGo.Lms
