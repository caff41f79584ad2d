import ErgGo.Lms.ContentRuns

/-!
# Whose questions and quizzes are listed

A list with a scope returns documents of exactly that scope, which has been validated. Without
a scope the filter admits the documents of every center.
-/

namespace ErgGo.Lms
open Go Documents Concurrent Program

section Scopes

variable [Library] [MongoServer]

/-- `validateContentScope` succeeds. -/
def ScopeAllowed (b : Backend) (env : ContentEnv) (s : ContentStore) (tenantID : String) (actor : Actor)
    (scope : ContentScope) : Prop :=
  ((ContentService.validateContentScope tenantID actor scope).run.alone (ContentStore.exec b) env s).1 = .ok ()

variable {b : Backend} {env : ContentEnv} {s : ContentStore} {tenantID : String} {actor : Actor}

lemma exec_findCenter (q : ContentRequest) (s : ContentStore) (hq : ∃ tenantID id, q = .findCenter tenantID id) :
    (ContentStore.exec b env q s).2 = s := by
  obtain ⟨tenantID, id, rfl⟩ := hq
  rfl

/-- The validation of a scope reads only centers. -/
lemma validateContentScope_store (scope : ContentScope) :
    ((ContentService.validateContentScope tenantID actor scope).run.alone (ContentStore.exec b) env s).2 = s :=
  alone_of_allRequests exec_findCenter
    (validateContentScope_sends (fun tenantID id => ⟨tenantID, id, rfl⟩) tenantID actor scope) s

/-- Without global access only a center can be a valid scope. -/
lemma ScopeAllowed.center (hactor : actor.canAccessGlobal = false) {scope : ContentScope}
    (h : ScopeAllowed b env s tenantID actor scope) : scope.type = "center" ∧ scope.centerID ≠ "" := by
  unfold ScopeAllowed ContentService.validateContentScope at h
  rw [hactor] at h
  split at h
  · cases h
  · split at h
    · next hcenter => exact hcenter
    · cases h

/-- What a request restricts the scopes to. -/
lemma applyScopeFilter_ok (hactor : actor.canAccessGlobal = false) {scope : ContentScope}
    {restricted : Option String × Option String}
    (h : ((ContentService.applyScopeFilter tenantID actor scope).run.alone (ContentStore.exec b) env s).1 =
      .ok restricted) :
    ((ContentService.applyScopeFilter tenantID actor scope).run.alone (ContentStore.exec b) env s).2 = s ∧
      (scope.type ≠ "" → restricted = (some scope.type, some scope.centerID) ∧
        ScopeAllowed b env s tenantID actor scope) := by
  unfold ContentService.applyScopeFilter at h ⊢
  by_cases htype : scope.type ≠ ""
  · rw [if_pos htype] at h ⊢
    obtain ⟨u, hvalid, hrestricted⟩ := alone_run_bind_ok h
    have hallowed : ScopeAllowed b env s tenantID actor scope := hvalid
    have hstore : (ContentService.validateContentScope tenantID actor scope).run.alone (ContentStore.exec b) env s =
        (.ok u, s) := Prod.ext hvalid (validateContentScope_store scope)
    rw [alone_run_bind hstore]
    cases hrestricted
    rw [if_pos (hallowed.center hactor).2]
    exact ⟨rfl, fun _ => ⟨rfl, hallowed⟩⟩
  · rw [if_neg htype]
    exact ⟨rfl, fun h => absurd h htype⟩

omit [Library] [MongoServer] in
lemma mem_pageCursor {α : Type} {items : List α} {cursor : String} {limit : ℤ} {a : α}
    (h : a ∈ (pageCursor b items cursor limit).1) : a ∈ items := by
  cases b with
  | memory =>
    unfold pageCursor at h
    dsimp only at h
    split at h
    · cases h
    · exact List.mem_of_mem_drop (List.mem_of_mem_take h)
  | mongo => exact List.mem_of_mem_drop (List.mem_of_mem_take h)

omit [Library] [MongoServer] in
lemma pageCursor_singleton {α : Type} (b : Backend) (a : α) : pageCursor b [a] "" 0 = ([a], 1, "") := by
  have hoffset : cursorOffset "" = 0 := rfl
  unfold pageCursor
  rw [hoffset]
  cases b <;> rfl

/-! ## Questions -/

/-- Whatever questions are stored, every question on any page has a scope that the actor may
use. -/
def QuestionsInScope (b : Backend) (s : ContentStore) (tenantID : String) (actor : Actor)
    (req : QuestionListRequest) : Prop :=
  ∀ (env : ContentEnv) (questions : List Question) (cursor : String) (limit : ℤ) (resp : QuestionListResponse),
    ((ContentService.listQuestions tenantID actor { req with cursor := cursor, limit := limit }).run.alone
      (ContentStore.exec b) env { s with questions := questions }).1 = .ok resp →
    ∀ item ∈ resp.items, ScopeAllowed b env { s with questions := questions } tenantID actor item.scope

/-- The request is well formed and its keyword matches some text. -/
def QuestionListRequest.Answerable (b : Backend) (req : QuestionListRequest) : Prop :=
  ∃ filter textMatches, questionFilter req = .ok filter ∧ keywordMatcher b filter.keyword = .ok textMatches ∧
    (filter.keyword = "" ∨ ∃ text, textMatches text)

omit [MongoServer] in
lemma questionFilter_ok {req : QuestionListRequest} {f : QuestionFilter} (h : questionFilter req = .ok f) :
    f.topicIDs = none ∧ f.excludedIDs = none := by
  unfold questionFilter at h
  obtain ⟨subjectID, -, h⟩ := except_bind_eq_ok.mp h
  obtain ⟨levelID, -, h⟩ := except_bind_eq_ok.mp h
  obtain ⟨topicID, -, h⟩ := except_bind_eq_ok.mp h
  dsimp only at h
  split at h
  · cases h
    exact ⟨rfl, rfl⟩
  · obtain ⟨type, -, h⟩ := except_bind_eq_ok.mp h
    cases h
    exact ⟨rfl, rfl⟩

/-- A question made for a filter. -/
def QuestionFilter.sample (f : QuestionFilter) (tenantID text : String) (scope : ContentScope) : Question :=
  { tenantID := tenantID, scope := scope, subjectID := f.subjectID.getD .nil, levelID := f.levelID.getD .nil,
    topicID := f.topicID.getD .nil, type := f.type.getD "", stem := text }

omit [Library] [MongoServer] in
lemma QuestionFilter.matches_sample {f : QuestionFilter} {textMatches : String → Bool} {text : String}
    (htopics : f.topicIDs = none) (hexcluded : f.excludedIDs = none) (htext : f.keyword = "" ∨ textMatches text)
    (tenantID : String) (scope : ContentScope) :
    { f with scopeType := some scope.type, scopeCenterID := none : QuestionFilter }.matches textMatches
      (f.sample tenantID text scope) := by
  unfold QuestionFilter.matches QuestionFilter.sample
  cases f.subjectID <;> cases f.levelID <;> cases f.topicID <;> cases f.type <;>
    simpa [htopics, hexcluded] using htext

lemma mem_listQuestions {f : QuestionFilter} {cursor : String} {limit : ℤ} {result : List Question × ℤ × String}
    (h : listQuestions b tenantID f cursor limit s = .ok result) :
    ∃ textMatches, keywordMatcher b f.keyword = .ok textMatches ∧
      ∀ q ∈ result.1, q ∈ s.questions ∧ f.matches textMatches q := by
  unfold listQuestions matchingQuestions at h
  obtain ⟨items, hitems, h⟩ := except_bind_eq_ok.mp h
  obtain ⟨textMatches, hmatcher, hitems⟩ := except_bind_eq_ok.mp hitems
  cases h
  cases hitems
  refine ⟨textMatches, hmatcher, fun q hq => ?_⟩
  have hmem := (Library.sortSlice_perm _ _).mem_iff.mp (mem_pageCursor hq)
  obtain ⟨hstored, hmatches⟩ := List.mem_filter.mp hmem
  simp only [Bool.and_eq_true] at hmatches
  exact ⟨hstored, hmatches.2⟩

/-- A listed question answers the request, and has its scope if it names one. -/
lemma listQuestions_ok (hactor : actor.canAccessGlobal = false) {req : QuestionListRequest}
    {resp : QuestionListResponse}
    (h : ((ContentService.listQuestions tenantID actor req).run.alone (ContentStore.exec b) env s).1 = .ok resp) :
    ∀ item ∈ resp.items, req.Answerable b ∧
      (req.scope.type ≠ "" → ScopeAllowed b env s tenantID actor item.scope) := by
  unfold ContentService.listQuestions at h
  obtain ⟨filter, hfilter, h⟩ := alone_lift_bind_ok h
  obtain ⟨⟨type, centerID⟩, hscope, h⟩ := alone_run_bind_ok h
  obtain ⟨hstore, hrestricted⟩ := applyScopeFilter_ok hactor hscope
  rw [hstore] at h
  obtain ⟨⟨items, total, next⟩, hitems, h⟩ := alone_run_bind_ok h
  cases h
  obtain ⟨textMatches, hmatcher, hmatches⟩ := mem_listQuestions hitems
  intro item hitem
  obtain ⟨q, hq, rfl⟩ := List.mem_map.mp hitem
  have hmatch := (hmatches q hq).2
  simp only [QuestionFilter.matches, Bool.and_eq_true, Bool.or_eq_true, decide_eq_true_eq] at hmatch
  obtain ⟨⟨⟨-, hkeyword⟩, htype⟩, hcenter⟩ := hmatch
  refine ⟨⟨filter, textMatches, hfilter, hmatcher, hkeyword.imp_right (fun htext => ⟨q.stem, htext⟩)⟩, ?_⟩
  intro hnamed
  obtain ⟨heq, hallowed⟩ := hrestricted hnamed
  cases heq
  simp only [Option.all_some, decide_eq_true_eq] at htype hcenter
  have hsame : (questionToDTO q).scope = req.scope := ContentScope.ext htype hcenter
  rw [hsame]
  exact hallowed

lemma listQuestions_singleton {keyword : String} {textMatches : String → Bool}
    (hmatcher : keywordMatcher b keyword = .ok textMatches) {q : Question} (htenant : q.tenantID = tenantID)
    (hstatus : q.status ≠ "archived") {f : QuestionFilter} (hmatches : f.matches textMatches q)
    (hkeyword : f.keyword = keyword) :
    listQuestions b tenantID f "" 0 { s with questions := [q] } = .ok ([q], 1, "") := by
  have hsorted : Library.sortSlice (fun a c : Question => decide (a.createdAt > c.createdAt)) [q] = [q] :=
    List.perm_singleton.mp (Library.sortSlice_perm _ _)
  have hfiltered : [q].filter (fun q => q.tenantID = tenantID && q.status ≠ "archived" &&
      f.matches textMatches q) = [q] := by
    rw [List.filter_cons_of_pos (by simp [hmatches, htenant, hstatus]), List.filter_nil]
  unfold listQuestions matchingQuestions
  rw [hkeyword, hmatcher]
  simp only [Bind.bind, Except.bind, Pure.pure, Except.pure, hfiltered, hsorted, pageCursor_singleton]

/-- Without a scope a question without a center is listed. -/
lemma listQuestions_unscoped (hactor : actor.canAccessGlobal = false) {req : QuestionListRequest}
    (hreq : req.Answerable b) (hscope : req.scope.type = "") (hcursor : req.cursor = "") (hlimit : req.limit = 0) :
    ∃ q : Question, q.scope = { type := "center" } ∧
      ((ContentService.listQuestions tenantID actor req).run.alone (ContentStore.exec b) env
        { s with questions := [q] }).1 = .ok ⟨[questionToDTO q], 1, ""⟩ := by
  obtain ⟨filter, textMatches, hfilter, hmatcher, hkeyword⟩ := hreq
  obtain ⟨text, htext⟩ : ∃ text, filter.keyword = "" ∨ textMatches text := by
    obtain hempty | ⟨text, htext⟩ := hkeyword
    · exact ⟨"", .inl hempty⟩
    · exact ⟨text, .inr htext⟩
  obtain ⟨htopics, hexcluded⟩ := questionFilter_ok hfilter
  have hmatches := QuestionFilter.matches_sample htopics hexcluded htext tenantID { type := "center" }
  refine ⟨filter.sample tenantID text { type := "center" }, rfl, ?_⟩
  have htenant : (filter.sample tenantID text { type := "center" }).tenantID = tenantID := rfl
  have hactive : (filter.sample tenantID text { type := "center" }).status ≠ "archived" := by
    simp [QuestionFilter.sample]
  generalize filter.sample tenantID text { type := "center" } = q at *
  have hlist := listQuestions_singleton (s := s) hmatcher htenant hactive hmatches rfl
  have hunscoped : (ContentService.applyScopeFilter tenantID actor req.scope).run.alone (ContentStore.exec b) env
      { s with questions := [q] } = (.ok (some "center", none), { s with questions := [q] }) := by
    unfold ContentService.applyScopeFilter
    rw [if_neg (by simp [hscope]), hactor]
    rfl
  have hpage : (content (.listQuestions tenantID { filter with scopeType := some "center", scopeCenterID := none }
      "" 0)).run.alone (ContentStore.exec b) env { s with questions := [q] } =
      (.ok ([q], 1, ""), { s with questions := [q] }) := Prod.ext hlist rfl
  unfold ContentService.listQuestions
  rw [alone_lift_bind hfilter, alone_run_bind hunscoped, hcursor, hlimit, alone_run_bind hpage]
  rfl

/-- A scope without a center is not for actors without global access. -/
lemma not_scopeAllowed_unnamed (hactor : actor.canAccessGlobal = false) :
    ¬ScopeAllowed b env s tenantID actor { type := "center" } :=
  fun h => (h.center hactor).2 rfl

lemma questionsInScope_iff (hactor : actor.canAccessGlobal = false) (req : QuestionListRequest) :
    QuestionsInScope b s tenantID actor req ↔ (req.Answerable b → req.scope.type ≠ "") := by
  constructor
  · intro h hreq hscope
    have hfirst : { req with cursor := "", limit := 0 : QuestionListRequest }.Answerable b := hreq
    obtain ⟨q, hcenter, hlisted⟩ := listQuestions_unscoped hactor hfirst hscope rfl rfl
    have hallowed := h { now := 0, newID := .nil } [q] "" 0 _ hlisted (questionToDTO q) (List.mem_singleton_self _)
    rw [show (questionToDTO q).scope = _ from hcenter] at hallowed
    exact not_scopeAllowed_unnamed hactor hallowed
  · intro h env questions cursor limit resp hresp item hitem
    obtain ⟨hreq, hallowed⟩ := listQuestions_ok hactor hresp item hitem
    exact hallowed (h hreq)

/-! ## Quizzes -/

/-- Whatever quizzes are stored, every quiz on any page has a scope that the actor may use. -/
def QuizzesInScope (b : Backend) (s : ContentStore) (tenantID : String) (actor : Actor) (req : QuizListRequest) :
    Prop :=
  ∀ (env : ContentEnv) (quizzes : List QuizDocument) (cursor : String) (limit : ℤ) (resp : QuizListResponse),
    ((ContentService.listQuizzes tenantID actor { req with cursor := cursor, limit := limit }).run.alone
      (ContentStore.exec b) env { s with quizzes := quizzes }).1 = .ok resp →
    ∀ item ∈ resp.items, ScopeAllowed b env { s with quizzes := quizzes } tenantID actor item.scope

def QuizListRequest.Answerable (b : Backend) (req : QuizListRequest) : Prop :=
  ∃ filter textMatches, quizFilter req = .ok filter ∧ keywordMatcher b filter.keyword = .ok textMatches ∧
    (filter.keyword = "" ∨ ∃ text, textMatches text)

/-- A quiz made for a filter. -/
def QuizFilter.sample (f : QuizFilter) (tenantID text : String) (scope : ContentScope) : QuizDocument :=
  { id := .nil, tenantID := tenantID, subjectID := f.subjectID.getD .nil, scope := scope, title := text,
    kind := f.kind.getD "", levelID := f.levelID.getD .nil }

omit [Library] [MongoServer] in
lemma QuizFilter.matches_sample {f : QuizFilter} {textMatches : String → Bool} {text : String}
    (htext : f.keyword = "" ∨ textMatches text) (tenantID : String) (scope : ContentScope) :
    { f with scopeType := some scope.type, scopeCenterID := none : QuizFilter }.matches textMatches
      (f.sample tenantID text scope) := by
  unfold QuizFilter.matches QuizFilter.sample
  cases f.subjectID <;> cases f.levelID <;> cases f.kind <;> simpa using htext

lemma mem_listQuizzes {f : QuizFilter} {cursor : String} {limit : ℤ} {result : List QuizDocument × ℤ × String}
    (h : listQuizzes b tenantID f cursor limit s = .ok result) :
    ∃ textMatches, keywordMatcher b f.keyword = .ok textMatches ∧
      ∀ q ∈ result.1, q ∈ s.quizzes ∧ f.matches textMatches q := by
  unfold listQuizzes at h
  obtain ⟨textMatches, hmatcher, h⟩ := except_bind_eq_ok.mp h
  cases h
  refine ⟨textMatches, hmatcher, fun q hq => ?_⟩
  have hmem := (Library.sortSlice_perm _ _).mem_iff.mp (mem_pageCursor hq)
  obtain ⟨hstored, hmatches⟩ := List.mem_filter.mp hmem
  simp only [Bool.and_eq_true] at hmatches
  exact ⟨hstored, hmatches.2⟩

lemma listQuizzes_singleton {keyword : String} {textMatches : String → Bool}
    (hmatcher : keywordMatcher b keyword = .ok textMatches) {q : QuizDocument} (htenant : q.tenantID = tenantID)
    {f : QuizFilter} (hmatches : f.matches textMatches q) (hkeyword : f.keyword = keyword) :
    listQuizzes b tenantID f "" 0 { s with quizzes := [q] } = .ok ([q], 1, "") := by
  have hsorted : Library.sortSlice (fun a c : QuizDocument => decide (a.createdAt > c.createdAt)) [q] = [q] :=
    List.perm_singleton.mp (Library.sortSlice_perm _ _)
  have hfiltered : [q].filter (fun q => q.tenantID = tenantID && f.matches textMatches q) = [q] := by
    rw [List.filter_cons_of_pos (by simp [hmatches, htenant]), List.filter_nil]
  unfold listQuizzes
  rw [hkeyword, hmatcher]
  simp only [Bind.bind, Except.bind, Pure.pure, Except.pure, hfiltered, hsorted, pageCursor_singleton]

lemma listQuizzes_ok (hactor : actor.canAccessGlobal = false) {req : QuizListRequest} {resp : QuizListResponse}
    (h : ((ContentService.listQuizzes tenantID actor req).run.alone (ContentStore.exec b) env s).1 = .ok resp) :
    ∀ item ∈ resp.items, req.Answerable b ∧
      (req.scope.type ≠ "" → ScopeAllowed b env s tenantID actor item.scope) := by
  unfold ContentService.listQuizzes at h
  obtain ⟨filter, hfilter, h⟩ := alone_lift_bind_ok h
  obtain ⟨⟨type, centerID⟩, hscope, h⟩ := alone_run_bind_ok h
  obtain ⟨hstore, hrestricted⟩ := applyScopeFilter_ok hactor hscope
  rw [hstore] at h
  obtain ⟨⟨items, total, next⟩, hitems, h⟩ := alone_run_bind_ok h
  cases h
  obtain ⟨textMatches, hmatcher, hmatches⟩ := mem_listQuizzes hitems
  intro item hitem
  obtain ⟨q, hq, rfl⟩ := List.mem_map.mp hitem
  have hmatch := (hmatches q hq).2
  simp only [QuizFilter.matches, Bool.and_eq_true, Bool.or_eq_true, decide_eq_true_eq] at hmatch
  obtain ⟨⟨⟨-, hkeyword⟩, htype⟩, hcenter⟩ := hmatch
  refine ⟨⟨filter, textMatches, hfilter, hmatcher, hkeyword.imp_right (fun htext => ⟨q.title, htext⟩)⟩, ?_⟩
  intro hnamed
  obtain ⟨heq, hallowed⟩ := hrestricted hnamed
  cases heq
  simp only [Option.all_some, decide_eq_true_eq] at htype hcenter
  have hsame : (quizToDTO q).scope = req.scope := ContentScope.ext htype hcenter
  rw [hsame]
  exact hallowed

lemma listQuizzes_unscoped (hactor : actor.canAccessGlobal = false) {req : QuizListRequest}
    (hreq : req.Answerable b) (hscope : req.scope.type = "") (hcursor : req.cursor = "") (hlimit : req.limit = 0) :
    ∃ q : QuizDocument, q.scope = { type := "center" } ∧
      ((ContentService.listQuizzes tenantID actor req).run.alone (ContentStore.exec b) env
        { s with quizzes := [q] }).1 = .ok ⟨[quizToDTO q], 1, ""⟩ := by
  obtain ⟨filter, textMatches, hfilter, hmatcher, hkeyword⟩ := hreq
  obtain ⟨text, htext⟩ : ∃ text, filter.keyword = "" ∨ textMatches text := by
    obtain hempty | ⟨text, htext⟩ := hkeyword
    · exact ⟨"", .inl hempty⟩
    · exact ⟨text, .inr htext⟩
  have hmatches := QuizFilter.matches_sample htext tenantID { type := "center" }
  refine ⟨filter.sample tenantID text { type := "center" }, rfl, ?_⟩
  have htenant : (filter.sample tenantID text { type := "center" }).tenantID = tenantID := rfl
  generalize filter.sample tenantID text { type := "center" } = q at *
  have hlist := listQuizzes_singleton (s := s) hmatcher htenant hmatches rfl
  have hunscoped : (ContentService.applyScopeFilter tenantID actor req.scope).run.alone (ContentStore.exec b) env
      { s with quizzes := [q] } = (.ok (some "center", none), { s with quizzes := [q] }) := by
    unfold ContentService.applyScopeFilter
    rw [if_neg (by simp [hscope]), hactor]
    rfl
  have hpage : (content (.listQuizzes tenantID { filter with scopeType := some "center", scopeCenterID := none }
      "" 0)).run.alone (ContentStore.exec b) env { s with quizzes := [q] } =
      (.ok ([q], 1, ""), { s with quizzes := [q] }) := Prod.ext hlist rfl
  unfold ContentService.listQuizzes
  rw [alone_lift_bind hfilter, alone_run_bind hunscoped, hcursor, hlimit, alone_run_bind hpage]
  rfl

lemma quizzesInScope_iff (hactor : actor.canAccessGlobal = false) (req : QuizListRequest) :
    QuizzesInScope b s tenantID actor req ↔ (req.Answerable b → req.scope.type ≠ "") := by
  constructor
  · intro h hreq hscope
    have hfirst : { req with cursor := "", limit := 0 : QuizListRequest }.Answerable b := hreq
    obtain ⟨q, hcenter, hlisted⟩ := listQuizzes_unscoped hactor hfirst hscope rfl rfl
    have hallowed := h { now := 0, newID := .nil } [q] "" 0 _ hlisted (quizToDTO q) (List.mem_singleton_self _)
    rw [show (quizToDTO q).scope = _ from hcenter] at hallowed
    exact not_scopeAllowed_unnamed hactor hallowed
  · intro h env quizzes cursor limit resp hresp item hitem
    obtain ⟨hreq, hallowed⟩ := listQuizzes_ok hactor hresp item hitem
    exact hallowed (h hreq)

/-- Without global access, exactly the requests with a scope list only what the actor may use,
next to those that nothing can answer. -/
theorem contentInScope_iff (b : Backend) (s : ContentStore) (tenantID : String) (actor : Actor)
    (hactor : actor.canAccessGlobal = false) :
    (∀ req : QuestionListRequest, QuestionsInScope b s tenantID actor req ↔ (req.Answerable b → req.scope.type ≠ "")) ∧
      ∀ req : QuizListRequest, QuizzesInScope b s tenantID actor req ↔ (req.Answerable b → req.scope.type ≠ "") :=
  ⟨questionsInScope_iff hactor, quizzesInScope_iff hactor⟩

end Scopes

section Sample

attribute [local instance] asciiLibrary Sample.server

namespace Sample

/-- A center run by `boss`, with a question and a quiz. -/
def centerBank : ContentStore where
  centers := .singleton { id := Sample.id 1, tenantID := "erg", managerUserID := "boss" }
  questions := [{ id := Sample.id 2, tenantID := "erg", scope := ⟨"center", (Sample.id 1).hex⟩, type := "essay",
                  stem := "Why?", status := "active" }]
  quizzes := [{ id := Sample.id 3, tenantID := "erg", subjectID := .nil, scope := ⟨"center", (Sample.id 1).hex⟩,
                title := "Fractions" }]

def clock : ContentEnv := { now := 0, newID := .nil }

end Sample

theorem contentInScope_boss :
    QuestionsInScope .mongo Sample.centerBank "erg" ⟨"boss", []⟩ { scope := ⟨"center", (Sample.id 1).hex⟩ } ∧
      QuizzesInScope .mongo Sample.centerBank "erg" ⟨"boss", []⟩ { scope := ⟨"center", (Sample.id 1).hex⟩ } := by
  obtain ⟨hquestions, hquizzes⟩ := contentInScope_iff .mongo Sample.centerBank "erg" ⟨"boss", []⟩ rfl
  exact ⟨(hquestions _).mpr fun _ => by decide, (hquizzes _).mpr fun _ => by decide⟩

lemma Sample.not_scopeAllowed_stranger :
    ¬ScopeAllowed .memory Sample.clock Sample.centerBank "erg" ⟨"stranger", []⟩ ⟨"center", (Sample.id 1).hex⟩ := by
  have hrefused : ((ContentService.validateContentScope "erg" ⟨"stranger", []⟩ ⟨"center", (Sample.id 1).hex⟩).run.alone
      (ContentStore.exec .memory) Sample.clock Sample.centerBank).1.isOk = false := by decide
  intro hallowed
  rw [show _ = _ from hallowed] at hrefused
  cases hrefused

/-- Somebody who runs no center lists the questions and quizzes of all centers. -/
theorem foreign_content_listed :
    ¬QuestionsInScope .memory Sample.centerBank "erg" ⟨"stranger", []⟩ {} ∧
      ¬QuizzesInScope .memory Sample.centerBank "erg" ⟨"stranger", []⟩ {} := by
  constructor
  · intro h
    have hlisted : ((ContentService.listQuestions "erg" ⟨"stranger", []⟩ {}).run.alone (ContentStore.exec .memory)
        Sample.clock Sample.centerBank).1.map (fun resp => resp.items.map QuestionResponse.scope) =
        .ok [⟨"center", (Sample.id 1).hex⟩] := by decide
    obtain ⟨resp, hresp, hitems⟩ := except_map_eq_ok.mp hlisted
    obtain ⟨item, hitem, hscope⟩ := List.mem_map.mp (hitems ▸ List.mem_singleton_self _)
    have hallowed := h Sample.clock Sample.centerBank.questions "" 0 resp hresp item hitem
    rw [hscope] at hallowed
    exact Sample.not_scopeAllowed_stranger hallowed
  · intro h
    have hlisted : ((ContentService.listQuizzes "erg" ⟨"stranger", []⟩ {}).run.alone (ContentStore.exec .memory)
        Sample.clock Sample.centerBank).1.map (fun resp => resp.items.map QuizResponse.scope) =
        .ok [⟨"center", (Sample.id 1).hex⟩] := by decide
    obtain ⟨resp, hresp, hitems⟩ := except_map_eq_ok.mp hlisted
    obtain ⟨item, hitem, hscope⟩ := List.mem_map.mp (hitems ▸ List.mem_singleton_self _)
    have hallowed := h Sample.clock Sample.centerBank.quizzes "" 0 resp hresp item hitem
    rw [hscope] at hallowed
    exact Sample.not_scopeAllowed_stranger hallowed

end Sample

end ErgGo.Lms
