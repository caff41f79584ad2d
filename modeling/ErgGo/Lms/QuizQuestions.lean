import ErgGo.Lms.ContentIntegrity

/-!
# The questions of new quizzes

A quiz made from chosen questions takes all of them, but only the first one is looked up. A
random quiz picks for one rule after another, so a question of a topic that two rules name can
be picked twice.
-/

namespace ErgGo.Lms
open Go Documents Concurrent Program

/-! ## Picking -/

/-- A request may leave the id out. -/
def namesID (id : String) (oid : ObjectID) : Bool := id = "" || (objectID id).toOption = some oid

def RandomQuizTopicRule.matches (rule : RandomQuizTopicRule) (tenantID : String) (req : CreateRandomQuizRequest)
    (q : Question) : Bool :=
  q.tenantID = tenantID && q.status ≠ "archived" && namesID req.subjectID q.subjectID &&
    namesID req.levelID q.levelID && (objectID rule.topicID).toOption = some q.topicID

def RandomQuizTopicRule.pick (rule : RandomQuizTopicRule) (req : CreateRandomQuizRequest) :
    RandomPickQuestionsRequest where
  subjectID := req.subjectID
  levelID := req.levelID
  topicIDs := [rule.topicID]
  count := rule.count

section Picking

variable {b : Backend} {env : ContentEnv} {s : ContentStore} {tenantID : String} {req : CreateRandomQuizRequest}
  {rule : RandomQuizTopicRule}

lemma filterID_ok {id : String} {filter : Option ObjectID} (h : filterID id = .ok filter) (oid : ObjectID) :
    filter.all (fun id => oid = id) = namesID id oid := by
  unfold filterID at h
  unfold namesID
  by_cases hempty : id = ""
  · rw [if_pos hempty] at h
    cases h
    rw [decide_eq_true hempty]
    rfl
  · rw [if_neg hempty] at h
    obtain ⟨named, hnamed, rfl⟩ := except_map_eq_ok.mp h
    rw [decide_eq_false hempty, hnamed, Bool.false_or]
    simp [Except.toOption, eq_comm]

lemma mem_objectIDsOrNil_singleton {id : String} {oid : ObjectID} :
    oid ∈ objectIDsOrNil [id] ↔ (objectID id).toOption = some oid := by
  unfold objectIDsOrNil
  rw [List.mem_filterMap]
  simp

lemma objectIDsOrNil_hex (ids : List ObjectID) : objectIDsOrNil (ids.map ObjectID.hex) = ids := by
  unfold objectIDsOrNil
  rw [List.filterMap_map]
  simp [Function.comp_def, objectID_hex, Except.toOption]

/-- The filter of a rule finds the questions that match it. -/
lemma matchingQuestions_pick [Library] [MongoServer] (tenantID : String) {filter : QuestionFilter}
    (h : randomQuestionFilter (rule.pick req) = .ok filter) :
    matchingQuestions b tenantID filter s = .ok (s.questions.filter (rule.matches tenantID req)) := by
  unfold randomQuestionFilter questionFilter at h
  obtain ⟨base, hbase, h⟩ := except_bind_eq_ok.mp h
  obtain ⟨subjectID, hsubject, hbase⟩ := except_bind_eq_ok.mp hbase
  obtain ⟨levelID, hlevel, hbase⟩ := except_bind_eq_ok.mp hbase
  obtain ⟨topicID, htopic, hbase⟩ := except_bind_eq_ok.mp hbase
  cases htopic
  cases hbase
  cases h
  obtain ⟨textMatches, hmatcher⟩ := keywordMatcher_empty b
  unfold matchingQuestions
  rw [hmatcher]
  refine congrArg (fun p => Except.ok (s.questions.filter p)) (funext fun q => ?_)
  have hs := filterID_ok hsubject q.subjectID
  have hl := filterID_ok hlevel q.levelID
  simp only [RandomQuizTopicRule.pick, RandomQuizTopicRule.matches, QuestionFilter.matches] at hs hl ⊢
  simp [hs, hl, mem_objectIDsOrNil_singleton, Bool.and_assoc]

/-- The order in which the questions of a rule are picked from: the newest first, or as they
are stored. -/
def pickingOrder [Library] (b : Backend) (items : List Question) : List Question :=
  match b with
  | .memory => Library.sortSlice (fun a c => a.createdAt > c.createdAt) items
  | .mongo => items

lemma pickingOrder_perm [Library] (b : Backend) (items : List Question) : (pickingOrder b items).Perm items := by
  cases b with
  | memory => exact Library.sortSlice_perm _ _
  | mongo => exact List.Perm.refl _

lemma pageCursor_first {α : Type} (b : Backend) (items : List α) (limit : ℤ) :
    ∃ n, 0 < n ∧ (pageCursor b items "" limit).1 = items.take n := by
  have hoffset : cursorOffset "" = 0 := rfl
  refine ⟨if limit ≤ 0 ∨ limit > 100 then 20 else limit.toNat, ?_, ?_⟩
  · split
    · decide
    · omega
  unfold pageCursor
  rw [hoffset]
  generalize (if limit ≤ 0 ∨ limit > 100 then 20 else limit.toNat) = n
  cases b with
  | memory =>
    have hle : ¬0 > items.length := by omega
    dsimp only
    rw [if_neg hle, List.drop_zero, Nat.sub_zero, Nat.zero_add, ← List.take_eq_take_min]
  | mongo => rfl

/-- What a rule picks: the first page of the in-memory repository, or a sample. -/
lemma sampleQuestions_pick [Library] [MongoServer] {filter : QuestionFilter} {picked : List Question}
    (hfilter : randomQuestionFilter (rule.pick req) = .ok filter)
    (h : sampleQuestions b env tenantID filter rule.count s = .ok picked) :
    (b = .memory ∧ ∃ n, 0 < n ∧ picked = (pickingOrder b (s.questions.filter (rule.matches tenantID req))).take n) ∨
      (b = .mongo ∧ 0 < rule.count ∧ picked = (env.sample.filterMap
        fun i => (pickingOrder b (s.questions.filter (rule.matches tenantID req)))[i]?).take rule.count.toNat) := by
  have hitems := matchingQuestions_pick (b := b) (s := s) tenantID hfilter
  unfold sampleQuestions at h
  cases b with
  | memory =>
    left
    obtain ⟨page, hpage, h⟩ := except_bind_eq_ok.mp h
    unfold listQuestions at hpage
    rw [hitems] at hpage
    cases hpage
    cases h
    obtain ⟨n, hn, htake⟩ := pageCursor_first .memory
      (pickingOrder .memory (s.questions.filter (rule.matches tenantID req))) rule.count
    exact ⟨rfl, n, hn, htake⟩
  | mongo =>
    right
    rw [hitems] at h
    by_cases hcount : rule.count ≤ 0
    · simp [hcount] at h
      cases h
    · simp [hcount] at h
      cases h
      exact ⟨rfl, by omega, rfl⟩

/-- What is known of the picks of a rule. A sample may repeat a question only if `repeats`. -/
structure Picked (b : Backend) (repeats : Bool) (s : ContentStore) (tenantID : String) (req : CreateRandomQuizRequest)
    (rule : RandomQuizTopicRule) (picked : List Question) : Prop where
  matching : ∀ q ∈ picked, q ∈ s.questions ∧ rule.matches tenantID req q
  positive : b = .mongo → 0 < rule.count
  distinct : ¬(repeats ∧ b = .mongo ∧ 2 ≤ rule.count) → (s.questions.map Question.id).Nodup →
    (picked.map Question.id).Nodup

lemma nodup_sampled {items : List Question} (hitems : (items.map Question.id).Nodup) {sample : List ℕ}
    (hsample : sample.Nodup) : ((sample.filterMap fun i => items[i]?).map Question.id).Nodup := by
  rw [List.map_filterMap]
  refine hsample.filterMap ?_
  intro i j id hi hj
  rw [Option.mem_def, ← List.getElem?_map] at hi hj
  have hlt : i < (items.map Question.id).length := (List.getElem?_eq_some_iff.mp hi).1
  exact (List.getElem?_inj hlt hitems).mp (hi.trans hj.symm)

lemma picked_of_sampled [Library] [MongoServer] {repeats : Bool} {filter : QuestionFilter} {picked : List Question}
    (hfilter : randomQuestionFilter (rule.pick req) = .ok filter) (hfair : repeats ∨ env.sample.Nodup)
    (h : sampleQuestions b env tenantID filter rule.count s = .ok picked) :
    Picked b repeats s tenantID req rule picked := by
  have hperm := pickingOrder_perm b (s.questions.filter (rule.matches tenantID req))
  have hdistinct : (s.questions.map Question.id).Nodup →
      ((pickingOrder b (s.questions.filter (rule.matches tenantID req))).map Question.id).Nodup := fun hnodup =>
    (hperm.map Question.id).nodup_iff.mpr (hnodup.sublist (List.filter_sublist.map Question.id))
  have hmem : ∀ q ∈ pickingOrder b (s.questions.filter (rule.matches tenantID req)),
      q ∈ s.questions ∧ rule.matches tenantID req q := fun q hq => List.mem_filter.mp (hperm.mem_iff.mp hq)
  obtain ⟨hb, n, -, hpicked⟩ | ⟨hb, hcount, hpicked⟩ := sampleQuestions_pick hfilter h
  · generalize pickingOrder b (s.questions.filter (rule.matches tenantID req)) = items at hdistinct hmem hpicked
    subst hpicked
    refine ⟨fun q hq => hmem q (List.mem_of_mem_take hq), fun hmongo => ?_, fun _ hnodup => ?_⟩
    · rw [hb] at hmongo
      cases hmongo
    · exact (hdistinct hnodup).sublist ((List.take_sublist n items).map Question.id)
  · generalize pickingOrder b (s.questions.filter (rule.matches tenantID req)) = items at hdistinct hmem hpicked
    subst hpicked
    refine ⟨fun q hq => ?_, fun _ => hcount, fun hsingle hnodup => ?_⟩
    · obtain ⟨i, -, hi⟩ := List.mem_filterMap.mp (List.mem_of_mem_take hq)
      exact hmem q (List.mem_of_getElem? hi)
    · obtain hrepeats | hsample := hfair
      · have hone : rule.count.toNat ≤ 1 := by
          have hnot : ¬2 ≤ rule.count := fun htwo => hsingle ⟨hrepeats, hb, htwo⟩
          omega
        refine List.nodup_iff_count_le_one.mpr fun id => List.count_le_length.trans ?_
        rw [List.length_map, List.length_take]
        omega
      · exact (nodup_sampled (hdistinct hnodup) hsample).sublist ((List.take_sublist _ _).map Question.id)

lemma sampleQuestions_total [Library] [MongoServer] (env : ContentEnv) (tenantID : String) {filter : QuestionFilter}
    (hfilter : randomQuestionFilter (rule.pick req) = .ok filter) (hpositive : b = .mongo → 0 < rule.count) :
    ∃ picked, sampleQuestions b env tenantID filter rule.count s = .ok picked := by
  have hitems := matchingQuestions_pick (b := b) (s := s) tenantID hfilter
  unfold sampleQuestions
  cases b with
  | memory =>
    unfold listQuestions
    rw [hitems]
    exact ⟨_, rfl⟩
  | mongo =>
    rw [hitems]
    have hcount : ¬rule.count ≤ 0 := not_le.mpr (hpositive rfl)
    exact ⟨(env.sample.filterMap fun i => (s.questions.filter (rule.matches tenantID req))[i]?).take rule.count.toNat,
      by simp [hcount]⟩

/-- A sample of all questions in their order, the first of them twice if samples may repeat. -/
def firstSample (repeats : Bool) (s : ContentStore) : List ℕ :=
  if repeats then 0 :: List.range s.questions.length else List.range s.questions.length

lemma count_first [Library] [MongoServer] {repeats : Bool} {filter : QuestionFilter} {x : Question}
    {rest picked : List Question} (hfilter : randomQuestionFilter (rule.pick req) = .ok filter)
    (horder : pickingOrder b (s.questions.filter (rule.matches tenantID req)) = x :: rest)
    (hsample : env.sample = firstSample repeats s)
    (h : sampleQuestions b env tenantID filter rule.count s = .ok picked) :
    1 ≤ (picked.map Question.id).count x.id ∧
      (repeats → b = .mongo → 2 ≤ rule.count → 2 ≤ (picked.map Question.id).count x.id) := by
  have hstored : x ∈ s.questions := by
    have hx : x ∈ pickingOrder b (s.questions.filter (rule.matches tenantID req)) := horder ▸ List.mem_cons_self
    exact (List.mem_filter.mp ((pickingOrder_perm b _).mem_iff.mp hx)).1
  obtain ⟨n, hlength⟩ : ∃ n, s.questions.length = n + 1 :=
    Nat.exists_eq_add_one.mpr (List.length_pos_of_mem hstored)
  obtain ⟨hb, n, hn, hpicked⟩ | ⟨hb, hcount, hpicked⟩ := sampleQuestions_pick hfilter h
  · rw [horder] at hpicked
    subst hpicked
    obtain ⟨n, rfl⟩ := Nat.exists_eq_add_one.mpr hn
    refine ⟨by simp, fun _ hmongo => ?_⟩
    rw [hb] at hmongo
    cases hmongo
  · rw [horder, hsample] at hpicked
    subst hpicked
    cases repeats with
    | false =>
      obtain ⟨count, hcount⟩ := Nat.exists_eq_add_one.mpr (show 0 < rule.count.toNat by omega)
      refine ⟨?_, fun h => by cases h⟩
      simp [firstSample, hlength, List.range_succ_eq_map, hcount]
    | true =>
      obtain ⟨count, hcount⟩ := Nat.exists_eq_add_one.mpr (show 0 < rule.count.toNat by omega)
      refine ⟨by simp [firstSample, hcount], fun _ _ htwo => ?_⟩
      obtain ⟨count, hcount⟩ := Nat.exists_eq_add_of_le (show 2 ≤ rule.count.toNat by omega)
      rw [Nat.add_comm] at hcount
      simp [firstSample, hlength, List.range_succ_eq_map, hcount]

end Picking

/-! ## Random quizzes -/

section Random

variable [Library] [MongoServer] {b : Backend} {repeats : Bool} {s : ContentStore} {tenantID : String} {actor : Actor}
  {req : CreateRandomQuizRequest}

/-- The store behind a connection that can fail. A sample holds a question once, unless `repeats`. -/
def samplingExec (b : Backend) (repeats : Bool) (env : {env : ContentEnv × Fault // repeats ∨ env.1.sample.Nodup}) :
    (q : ContentRequest) → ContentStore → ContentReply q × ContentStore :=
  contentExec b env.1

/-- The call gets as far as storing a quiz. -/
structure StoresRandomQuiz (b : Backend) (actor : Actor) (req : CreateRandomQuizRequest) (s : ContentStore) : Prop where
  actor : actor.canAccessGlobal
  settings : validateQuizPayload "Random quiz" none req.settings none none = .ok ()
  subject : ∃ oid, objectID req.subjectID = .ok oid
  level : ∃ oid, objectID req.levelID = .ok oid
  counts : b = .mongo → ∀ rule ∈ req.topicRules, 0 < rule.count
  room : b = .mongo → ∃ id, id ∉ s.quizzes.map fun quiz => quiz.id

lemma randomPickQuestions_picked (rule : RandomQuizTopicRule) :
    Ensures (samplingExec b repeats)
      (fun r s' => s' = s ∧ ∀ picked, r = .ok picked → Picked b repeats s tenantID req rule picked)
      (ContentService.randomPickQuestions tenantID (rule.pick req)).run s := by
  refine Ensures.lift_bind (fun _ _ => ⟨rfl, fun _ h => by cases h⟩) fun filter hfilter => ?_
  rintro ⟨⟨env, fault⟩, hfair⟩
  cases fault with
  | none => exact ⟨rfl, fun picked hpicked => picked_of_sampled hfilter hfair hpicked⟩
  | lost => exact ⟨rfl, fun _ h => by cases h⟩
  | unacknowledged => exact ⟨rfl, fun _ h => by cases h⟩

/-- The loop over the rules leaves the store alone. -/
lemma randomPicks_picked (rules : List RandomQuizTopicRule) :
    Ensures (samplingExec b repeats)
      (fun r s' => s' = s ∧ ∀ picks, r = .ok picks → List.Forall₂ (Picked b repeats s tenantID req) rules picks)
      (rules.mapM fun rule => ContentService.randomPickQuestions tenantID (rule.pick req)).run s := by
  induction rules with
  | nil => exact ⟨rfl, fun picks h => Except.ok.inj h ▸ .nil⟩
  | cons rule rules ih =>
    rw [List.mapM_cons]
    refine Ensures.run_bind ((randomPickQuestions_picked rule).mono ?_)
    rintro (err | picked) s₁ ⟨rfl, hpicked⟩
    · exact ⟨rfl, fun _ h => by cases h⟩
    refine Ensures.run_bind (ih.mono ?_)
    rintro (err | picks) s₂ ⟨rfl, hpicks⟩
    · exact ⟨rfl, fun _ h => by cases h⟩
    · exact ⟨rfl, fun _ h => Except.ok.inj h ▸ .cons (hpicked _ rfl) (hpicks _ rfl)⟩

/-- The insertion of a new quiz, whatever becomes of its reply. -/
lemma insertQuiz_cases (env : ContentEnv × Fault) (quiz : QuizDocument) (hid : quiz.id.isZero) :
    (contentExec b env (.insertQuiz quiz) s).2 = s ∨ (b = .mongo → ∃ id, id ∉ s.quizzes.map fun quiz => quiz.id) ∧
      (contentExec b env (.insertQuiz quiz) s).2.quizzes = s.quizzes ++ [quiz.created env.1.toEnv] := by
  obtain ⟨hstore, -⟩ | ⟨hstore, -⟩ :=
    withFaults_store LmsError.storeFailure (ContentStore.exec b) env (.insertQuiz quiz) s
  · exact .inl hstore
  have hafter : (contentExec b env (.insertQuiz quiz) s).2 = (insertQuiz b (quiz.created env.1.toEnv) s).2 := hstore
  rw [hafter]
  unfold insertQuiz
  have hnew : (quiz.created env.1.toEnv).id = env.1.newID := if_pos hid
  split
  · exact .inl rfl
  · next hfree => exact .inr ⟨fun hmongo => ⟨env.1.newID, fun hmem => hfree ⟨hmongo, hnew ▸ hmem⟩⟩, rfl⟩

/-- The request of the last step. -/
def randomQuizRequest (req : CreateRandomQuizRequest) (picks : List (List Question)) : CreateQuizRequest where
  scope := { type := "global" }
  title := "Random quiz"
  kind := req.kind
  subjectID := req.subjectID
  levelID := req.levelID
  topicIDs := req.topicRules.map RandomQuizTopicRule.topicID
  questionIDs := picks.flatten.map fun q => q.id.hex
  settings := req.settings

omit [MongoServer] in
lemma createRandomQuiz_eq (tenantID : String) (actor : Actor) (req : CreateRandomQuizRequest) :
    ContentService.createRandomQuiz tenantID actor req = (do
      let picks ← req.topicRules.mapM fun rule => ContentService.randomPickQuestions tenantID (rule.pick req)
      ContentService.createQuiz tenantID actor (randomQuizRequest req picks)) := rfl

omit [MongoServer] in
lemma createQuiz_eq (tenantID : String) (actor : Actor) (req : CreateRandomQuizRequest) (picks : List (List Question)) :
    ContentService.createQuiz tenantID actor (randomQuizRequest req picks) = (do
      rejectIf (!actor.canAccessGlobal) .scopeForbidden
      validateQuizPayload "Random quiz" none req.settings none none
      let quiz ← quizFromCreateReq tenantID (randomQuizRequest req picks)
      let quiz ← content (.insertQuiz quiz)
      return quizToDTO quiz) := by
  have hscope : ContentService.validateContentScope tenantID actor { type := "global" } =
      (rejectIf (!actor.canAccessGlobal) .scopeForbidden : Except LmsError Unit) := by
    unfold ContentService.validateContentScope
    rw [if_pos rfl]
  rw [← hscope]
  rfl

/-- What a call does: nothing, or it stores a quiz of its picks. -/
def RandomOutcome (b : Backend) (repeats : Bool) (s : ContentStore) (tenantID : String) (actor : Actor)
    (req : CreateRandomQuizRequest) (s' : ContentStore) : Prop :=
  s'.quizzes = s.quizzes ∨ StoresRandomQuiz b actor req s ∧ ∃ quiz picks, s'.quizzes = s.quizzes ++ [quiz] ∧
    quiz.questionIDs = picks.flatten.map Question.id ∧
    List.Forall₂ (Picked b repeats s tenantID req) req.topicRules picks

omit [Library] [MongoServer] in
lemma quizFromCreateReq_ok {picks : List (List Question)} {quiz : QuizDocument}
    (h : quizFromCreateReq tenantID (randomQuizRequest req picks) = .ok quiz) :
    quiz.id.isZero ∧ quiz.questionIDs = picks.flatten.map Question.id ∧
      (∃ oid, objectID req.subjectID = .ok oid) ∧ ∃ oid, objectID req.levelID = .ok oid := by
  unfold quizFromCreateReq at h
  obtain ⟨subjectID, hsubject, h⟩ := except_bind_eq_ok.mp h
  obtain ⟨levelID, hlevel, h⟩ := except_bind_eq_ok.mp h
  obtain rfl := Except.ok.inj h
  refine ⟨rfl, ?_, ⟨subjectID, hsubject⟩, levelID, hlevel⟩
  change objectIDsOrNil (picks.flatten.map fun q => q.id.hex) = _
  rw [← objectIDsOrNil_hex (picks.flatten.map Question.id), List.map_map]
  rfl

lemma createQuiz_outcome {picks : List (List Question)}
    (hpicks : List.Forall₂ (Picked b repeats s tenantID req) req.topicRules picks) :
    Ensures (samplingExec b repeats) (fun _ s' => RandomOutcome b repeats s tenantID actor req s')
      (ContentService.createQuiz tenantID actor (randomQuizRequest req picks)).run s := by
  rw [createQuiz_eq]
  refine Ensures.lift_bind (fun _ _ => .inl rfl) fun _ hactor => ?_
  refine Ensures.lift_bind (fun _ _ => .inl rfl) fun _ hsettings => ?_
  refine Ensures.lift_bind (fun _ _ => .inl rfl) fun quiz hquiz => ?_
  obtain ⟨hid, hquestions, hsubject, hlevel⟩ := quizFromCreateReq_ok hquiz
  have hcounts : b = .mongo → ∀ rule ∈ req.topicRules, 0 < rule.count := by
    intro hmongo rule hrule
    obtain ⟨i, hi, rfl⟩ := List.getElem_of_mem hrule
    exact (hpicks.get hi (hpicks.length_eq ▸ hi)).positive hmongo
  refine Ensures.run_bind fun env => ?_
  have houtcome : RandomOutcome b repeats s tenantID actor req (samplingExec b repeats env (.insertQuiz quiz) s).2 := by
    obtain hkept | ⟨hroom, hstored⟩ := insertQuiz_cases (b := b) (s := s) env.1 quiz hid
    · exact .inl (congrArg ContentStore.quizzes hkept)
    · have hglobal : actor.canAccessGlobal := by simpa using rejectIf_ok hactor
      exact .inr ⟨⟨hglobal, hsettings, hsubject, hlevel, hcounts, hroom⟩, _, picks, hstored, hquestions, hpicks⟩
  cases (samplingExec b repeats env (.insertQuiz quiz) s).1 <;> exact houtcome

lemma createRandomQuiz_outcome : Ensures (samplingExec b repeats)
    (fun _ s' => RandomOutcome b repeats s tenantID actor req s')
    (ContentService.createRandomQuiz tenantID actor req).run s := by
  rw [createRandomQuiz_eq]
  refine Ensures.run_bind ((randomPicks_picked req.topicRules).mono ?_)
  rintro (err | picks) s₁ ⟨rfl, hpicks⟩
  · exact .inl rfl
  · exact createQuiz_outcome (hpicks picks rfl)

/-! ### Picking twice -/

/-- Some question can be picked twice: by two rules, or by one where samples may repeat. -/
def PicksTwice (b : Backend) (repeats : Bool) (tenantID : String) (req : CreateRandomQuizRequest) (s : ContentStore) :
    Prop :=
  (∃ q ∈ s.questions, 2 ≤ req.topicRules.countP fun rule => rule.matches tenantID req q) ∨
    repeats ∧ b = .mongo ∧ ∃ rule ∈ req.topicRules, 2 ≤ rule.count ∧ ∃ q ∈ s.questions, rule.matches tenantID req q

omit [Library] [MongoServer] in
/-- A question that is picked at most once by each rule is picked at most once by each that it matches. -/
lemma count_picks_le {rules : List RandomQuizTopicRule} {picks : List (List Question)}
    (hpicks : List.Forall₂ (Picked b repeats s tenantID req) rules picks) (hids : (s.questions.map Question.id).Nodup)
    (hsingle : ∀ rule ∈ rules,
      ¬(repeats ∧ b = .mongo ∧ 2 ≤ rule.count ∧ ∃ q ∈ s.questions, rule.matches tenantID req q))
    {q : Question} (hq : q ∈ s.questions) :
    (picks.flatten.map Question.id).count q.id ≤ rules.countP fun rule => rule.matches tenantID req q := by
  induction hpicks with
  | nil => exact Nat.zero_le _
  | @cons rule picked rules picks hpicked _ ih =>
    have hrest := ih fun rule hrule => hsingle rule (List.mem_cons_of_mem _ hrule)
    have hfirst : (picked.map Question.id).count q.id ≤ if rule.matches tenantID req q then 1 else 0 := by
      by_cases hmem : q.id ∈ picked.map Question.id
      · obtain ⟨q', hq', hid⟩ := List.mem_map.mp hmem
        obtain ⟨hstored, hmatches⟩ := hpicked.matching q' hq'
        obtain rfl : q' = q := List.inj_on_of_nodup_map hids hstored hq hid
        rw [if_pos hmatches]
        have hdistinct := hpicked.distinct
          (fun h => hsingle rule List.mem_cons_self ⟨h.1, h.2.1, h.2.2, q', hq, hmatches⟩) hids
        exact List.nodup_iff_count_le_one.mp hdistinct q'.id
      · rw [List.count_eq_zero_of_not_mem hmem]
        exact Nat.zero_le _
    rw [List.flatten_cons, List.map_append, List.count_append, List.countP_cons]
    omega

omit [Library] [MongoServer] in
lemma nodup_picks {picks : List (List Question)}
    (hpicks : List.Forall₂ (Picked b repeats s tenantID req) req.topicRules picks)
    (hids : (s.questions.map Question.id).Nodup) (hsafe : ¬PicksTwice b repeats tenantID req s) :
    (picks.flatten.map Question.id).Nodup := by
  refine List.nodup_iff_count_le_one.mpr fun id => ?_
  by_cases hmem : id ∈ picks.flatten.map Question.id
  · obtain ⟨q, hq, rfl⟩ := List.mem_map.mp hmem
    obtain ⟨picked, hpicked, hq⟩ := List.mem_flatten.mp hq
    obtain ⟨i, hi, rfl⟩ := List.getElem_of_mem hpicked
    have hstored := ((hpicks.get (hpicks.length_eq ▸ hi) hi).matching q hq).1
    have hle := count_picks_le hpicks hids (fun rule hrule h =>
      hsafe (.inr ⟨h.1, h.2.1, rule, hrule, h.2.2⟩)) hstored
    have hone : ¬2 ≤ req.topicRules.countP fun rule => rule.matches tenantID req q := fun htwo =>
      hsafe (.inl ⟨q, hstored, htwo⟩)
    omega
  · rw [List.count_eq_zero_of_not_mem hmem]
    exact Nat.zero_le _

/-- A rule with its picks in an environment. -/
def SampledIn (b : Backend) (env : ContentEnv) (s : ContentStore) (tenantID : String) (req : CreateRandomQuizRequest)
    (rule : RandomQuizTopicRule) (picked : List Question) : Prop :=
  ∃ filter, randomQuestionFilter (rule.pick req) = .ok filter ∧
    sampleQuestions b env tenantID filter rule.count s = .ok picked

omit [Library] [MongoServer] in
lemma matches_congr {rule rule' : RandomQuizTopicRule} {q : Question} (h : rule.matches tenantID req q)
    (h' : rule'.matches tenantID req q) : rule.matches tenantID req = rule'.matches tenantID req := by
  unfold RandomQuizTopicRule.matches at h h' ⊢
  simp only [Bool.and_eq_true, decide_eq_true_eq] at h h'
  rw [h.2, h'.2]

/-- The question that comes first for a rule is picked by every rule that it matches. -/
lemma le_count_picks {env : ContentEnv} (hsample : env.sample = firstSample repeats s)
    {rules : List RandomQuizTopicRule} {picks : List (List Question)}
    (hpicks : List.Forall₂ (SampledIn b env s tenantID req) rules picks) {first : RandomQuizTopicRule} {x : Question}
    {rest : List Question} (horder : pickingOrder b (s.questions.filter (first.matches tenantID req)) = x :: rest)
    {q : Question} (hq : first.matches tenantID req q) :
    (rules.countP fun rule => rule.matches tenantID req q) ≤ (picks.flatten.map Question.id).count x.id := by
  induction hpicks with
  | nil => exact Nat.zero_le _
  | @cons rule picked rules picks hpicked _ ih =>
    obtain ⟨filter, hfilter, hpicked⟩ := hpicked
    have hfirst : (if rule.matches tenantID req q then 1 else 0) ≤ (picked.map Question.id).count x.id := by
      split
      · next hrule =>
        rw [matches_congr hq hrule] at horder
        exact (count_first hfilter horder hsample hpicked).1
      · exact Nat.zero_le _
    rw [List.flatten_cons, List.map_append, List.count_append, List.countP_cons]
    omega

omit [MongoServer] in
lemma exists_first_match {rule : RandomQuizTopicRule} {q : Question} (hq : q ∈ s.questions)
    (hrule : rule.matches tenantID req q) :
    ∃ x rest, pickingOrder b (s.questions.filter (rule.matches tenantID req)) = x :: rest := by
  have hmem : q ∈ pickingOrder b (s.questions.filter (rule.matches tenantID req)) :=
    (pickingOrder_perm b _).mem_iff.mpr (List.mem_filter.mpr ⟨hq, hrule⟩)
  exact List.exists_cons_of_ne_nil (List.ne_nil_of_mem hmem)

/-- Where a question can be picked twice, the samples in the stored order do so. -/
lemma not_nodup_picks {env : ContentEnv} (hsample : env.sample = firstSample repeats s)
    {picks : List (List Question)} (hpicks : List.Forall₂ (SampledIn b env s tenantID req) req.topicRules picks)
    (htwice : PicksTwice b repeats tenantID req s) : ¬(picks.flatten.map Question.id).Nodup := by
  intro hnodup
  have hone := List.nodup_iff_count_le_one.mp hnodup
  obtain ⟨q, hq, htwo⟩ | ⟨hrepeats, hmongo, rule, hrule, hcount, q, hq, hmatches⟩ := htwice
  · obtain ⟨rule, -, hmatches⟩ := List.countP_pos_iff.mp (show 0 < req.topicRules.countP fun rule =>
      rule.matches tenantID req q by omega)
    obtain ⟨x, rest, horder⟩ := exists_first_match (b := b) hq hmatches
    have hle := le_count_picks hsample hpicks horder hmatches
    have hx := hone x.id
    omega
  · obtain ⟨x, rest, horder⟩ := exists_first_match (b := b) hq hmatches
    obtain ⟨i, hi, rfl⟩ := List.getElem_of_mem hrule
    have hi' : i < picks.length := hpicks.length_eq ▸ hi
    obtain ⟨filter, hfilter, hpicked⟩ := hpicks.get hi hi'
    have hle := (count_first hfilter horder hsample hpicked).2 hrepeats hmongo hcount
    have hsublist := (List.sublist_flatten_of_mem (List.getElem_mem hi')).map Question.id
    have hx := (hsublist.count_le x.id).trans (hone x.id)
    exact absurd (hle.trans hx) (by omega)

omit [MongoServer] in
lemma filter_ok (hcreates : StoresRandomQuiz b actor req s) (rule : RandomQuizTopicRule) :
    ∃ filter, randomQuestionFilter (rule.pick req) = .ok filter := by
  obtain ⟨subjectID, hsubject⟩ := hcreates.subject
  obtain ⟨levelID, hlevel⟩ := hcreates.level
  have hid : ∀ {id : String} {oid : ObjectID}, objectID id = .ok oid → filterID id = .ok (some oid) := by
    intro id oid h
    unfold filterID
    split
    · next hempty =>
      rw [hempty, objectID_empty] at h
      cases h
    · rw [h]
      rfl
  unfold randomQuestionFilter questionFilter RandomQuizTopicRule.pick
  simp only [hid hsubject, hid hlevel]
  exact ⟨_, rfl⟩

omit [Library] [MongoServer] in
lemma evaluates_content {Env' : Type}
    (exec : Env' → (q : ContentRequest) → ContentStore → ContentReply q × ContentStore) (env : Env')
    (q : ContentRequest) (s : ContentStore) :
    Evaluates exec (content q).run s (exec env q s).1 (exec env q s).2 :=
  .request env (.done _ _)

/-- The environment of the first sample. -/
def firstEnv (repeats : Bool) (s : ContentStore) (newID : ObjectID) :
    {env : ContentEnv × Fault // repeats ∨ env.1.sample.Nodup} :=
  ⟨({ now := 0, newID := newID, sample := firstSample repeats s }, .none), by
    cases repeats with
    | true => exact .inl rfl
    | false => exact .inr List.nodup_range⟩

lemma randomPicks_evaluates (repeats : Bool) (tenantID : String) (newID : ObjectID)
    (hcreates : StoresRandomQuiz b actor req s) {rules : List RandomQuizTopicRule} (hrules : rules ⊆ req.topicRules) :
    ∃ picks, List.Forall₂ (SampledIn b (firstEnv repeats s newID).1.1 s tenantID req) rules picks ∧
      Evaluates (samplingExec b repeats)
        (rules.mapM fun rule => ContentService.randomPickQuestions tenantID (rule.pick req)).run s (.ok picks) s := by
  induction rules with
  | nil => exact ⟨[], .nil, .done _ _⟩
  | cons rule rules ih =>
    obtain ⟨picks, hpicks, hrest⟩ := ih fun rule h => hrules (List.mem_cons_of_mem _ h)
    obtain ⟨filter, hfilter⟩ := filter_ok hcreates rule
    obtain ⟨picked, hpicked⟩ := sampleQuestions_total (s := s) (firstEnv repeats s newID).1.1 tenantID
      hfilter fun hmongo => hcreates.counts hmongo rule (hrules List.mem_cons_self)
    have hexec : samplingExec b repeats (firstEnv repeats s newID) (.sampleQuestions tenantID filter rule.count) s =
        (.ok picked, s) := Prod.ext hpicked rfl
    have hsend := evaluates_content (samplingExec b repeats) (firstEnv repeats s newID)
      (.sampleQuestions tenantID filter rule.count) s
    rw [hexec] at hsend
    have hturn : Evaluates (samplingExec b repeats) (ContentService.randomPickQuestions tenantID (rule.pick req)).run s
        (.ok picked) s := .lift_bind hfilter hsend
    refine ⟨picked :: picks, .cons ⟨filter, hfilter, hpicked⟩ hpicks, ?_⟩
    rw [List.mapM_cons]
    exact hturn.run_bind (hrest.run_bind (.done _ _))

lemma insertQuiz_free (repeats : Bool) {newID : ObjectID}
    (hnew : b = .mongo → newID ∉ s.quizzes.map fun quiz => quiz.id) {quiz : QuizDocument} (hid : quiz.id.isZero) :
    ∃ created, created.questionIDs = quiz.questionIDs ∧
      samplingExec b repeats (firstEnv repeats s newID) (.insertQuiz quiz) s =
        (.ok created, { s with quizzes := s.quizzes ++ [created] }) := by
  refine ⟨quiz.created (firstEnv repeats s newID).1.1.toEnv, rfl, ?_⟩
  have hcreated : (quiz.created (firstEnv repeats s newID).1.1.toEnv).id = newID := if_pos hid
  change insertQuiz b (quiz.created _) s = _
  unfold insertQuiz
  rw [if_neg fun h => hnew h.1 (hcreated ▸ h.2)]
  rfl

/-- A call that can store a quiz stores one of the first sample. -/
lemma createRandomQuiz_evaluates (repeats : Bool) (tenantID : String) (hcreates : StoresRandomQuiz b actor req s) :
    ∃ env picks r s' quiz, env.sample = firstSample repeats s ∧
      List.Forall₂ (SampledIn b env s tenantID req) req.topicRules picks ∧
      Evaluates (samplingExec b repeats) (ContentService.createRandomQuiz tenantID actor req).run s r s' ∧
      s'.quizzes = s.quizzes ++ [quiz] ∧ quiz.questionIDs = picks.flatten.map Question.id := by
  obtain ⟨newID, hnew⟩ : ∃ id, b = .mongo → id ∉ s.quizzes.map fun quiz => quiz.id := by
    cases b with
    | memory => exact ⟨.nil, fun h => by cases h⟩
    | mongo => exact (hcreates.room rfl).imp fun id h _ => h
  obtain ⟨picks, hpicks, hloop⟩ := randomPicks_evaluates repeats tenantID newID hcreates (List.Subset.refl _)
  obtain ⟨subjectID, hsubject⟩ := hcreates.subject
  obtain ⟨levelID, hlevel⟩ := hcreates.level
  obtain ⟨quiz, hquiz⟩ : ∃ quiz, quizFromCreateReq tenantID (randomQuizRequest req picks) = .ok quiz := by
    unfold quizFromCreateReq randomQuizRequest
    simp only [hsubject, hlevel]
    exact ⟨_, rfl⟩
  obtain ⟨hid, hquestions, -⟩ := quizFromCreateReq_ok hquiz
  obtain ⟨created, hcreated, hinsert⟩ := insertQuiz_free repeats hnew hid
  have hactor : rejectIf (!actor.canAccessGlobal) .scopeForbidden = .ok () := by
    rw [hcreates.actor]
    rfl
  have hsend := evaluates_content (samplingExec b repeats) (firstEnv repeats s newID) (.insertQuiz quiz) s
  rw [hinsert] at hsend
  refine ⟨_, picks, .ok (quizToDTO created), { s with quizzes := s.quizzes ++ [created] }, created, rfl, hpicks, ?_,
    rfl, hcreated.trans hquestions⟩
  rw [createRandomQuiz_eq]
  refine hloop.run_bind ?_
  rw [createQuiz_eq]
  exact .lift_bind hactor (.lift_bind hcreates.settings (.lift_bind hquiz (Evaluates.run_bind hsend (.done _ _))))

/-- The questions of each new random quiz are distinct, and each matches a rule. -/
def PicksDistinct (b : Backend) (repeats : Bool) (tenantID : String) (actor : Actor) (req : CreateRandomQuizRequest)
    (s : ContentStore) : Prop :=
  ∀ r s' quiz, Evaluates (samplingExec b repeats) (ContentService.createRandomQuiz tenantID actor req).run s r s' →
    s'.quizzes = s.quizzes ++ [quiz] → quiz.questionIDs.Nodup ∧
      ∀ id ∈ quiz.questionIDs, ∃ rule ∈ req.topicRules, ∃ q ∈ s.questions, q.id = id ∧ rule.matches tenantID req q

lemma picksDistinct_iff (hids : (s.questions.map Question.id).Nodup) (req : CreateRandomQuizRequest) :
    PicksDistinct b repeats tenantID actor req s ↔
      ¬(StoresRandomQuiz b actor req s ∧ PicksTwice b repeats tenantID req s) := by
  constructor
  · rintro hdistinct ⟨hcreates, htwice⟩
    obtain ⟨env, picks, r, s', quiz, hsample, hpicks, hrun, hstored, hquestions⟩ :=
      createRandomQuiz_evaluates repeats tenantID hcreates
    have hnodup := (hdistinct r s' quiz hrun hstored).1
    rw [hquestions] at hnodup
    exact not_nodup_picks hsample hpicks htwice hnodup
  · intro hsafe r s' quiz hrun hstored
    obtain hkept | ⟨hcreates, quiz', picks, hstored', hquestions, hpicks⟩ := createRandomQuiz_outcome.sound hrun
    · rw [hkept] at hstored
      simp at hstored
    obtain rfl : quiz' = quiz := by simpa using hstored'.symm.trans hstored
    rw [hquestions]
    refine ⟨nodup_picks hpicks hids fun htwice => hsafe ⟨hcreates, htwice⟩, fun id hid => ?_⟩
    obtain ⟨q, hq, rfl⟩ := List.mem_map.mp hid
    obtain ⟨picked, hpicked, hq⟩ := List.mem_flatten.mp hq
    obtain ⟨i, hi, rfl⟩ := List.getElem_of_mem hpicked
    have hi' : i < req.topicRules.length := hpicks.length_eq ▸ hi
    obtain ⟨hmem, hmatches⟩ := (hpicks.get hi' hi).matching q hq
    exact ⟨req.topicRules[i], List.getElem_mem hi', q, hmem, rfl, hmatches⟩

end Random

/-! ## Quizzes of chosen questions -/

section Chosen

variable [Library] [MongoServer] {b : Backend} {s s' : ContentStore} {tenantID : String} {actor : Actor}
  {req : CreateQuizFromQuestionsRequest}

/-- The id names a question with a scope of the actor. -/
def Usable (b : Backend) (s : ContentStore) (tenantID : String) (actor : Actor) (id : ObjectID) : Prop :=
  ∃ q, s.findQuestion tenantID id = some q ∧ InScope b actor s tenantID q.scope

omit [MongoServer] in
lemma validateContentScope_run (tenantID : String) (hactor : actor.canAccessGlobal = true) (scope : ContentScope) :
    (ContentService.validateContentScope tenantID actor scope).run = .done (.ok ()) := by
  unfold ContentService.validateContentScope
  split
  · rw [hactor]
    rfl
  split
  · unfold ContentService.canAccessCenter canAccessCenter
    rw [if_pos hactor, hactor]
    rfl
  · rw [hactor]
    rfl

lemma ensures_scope (scope : ContentScope) :
    Ensures (contentExec b) (fun r s' => s' = s ∧ (r = .ok () → InScope b actor s tenantID scope))
      (ContentService.validateContentScope tenantID actor scope).run s := by
  cases hactor : actor.canAccessGlobal with
  | false => exact ensures_validateContentScope hactor scope
  | true =>
    have hrun := validateContentScope_run tenantID hactor scope
    rw [hrun]
    refine ⟨rfl, fun _ env => ?_⟩
    unfold ScopeAllowed
    rw [hrun]
    rfl

/-- The quiz that is stored. -/
def chosenQuiz (tenantID : String) (req : CreateQuizFromQuestionsRequest) (first : Question) : QuizDocument where
  id := .nil
  tenantID := tenantID
  subjectID := first.subjectID
  scope := first.scope
  title := req.title
  kind := req.kind
  levelID := first.levelID
  questionIDs := objectIDsOrNil req.questionIDs
  settings := req.settings

omit [MongoServer] in
lemma createQuizFromQuestions_cons {first : String} {rest : List String} (hids : req.questionIDs = first :: rest) :
    ContentService.createQuizFromQuestions tenantID actor req = (do
      let found ← ContentRepository.getQuestion tenantID first
      let question ← required found
      ContentService.validateContentScope tenantID actor question.scope
      validateQuizPayload req.title none req.settings none none
      let quiz ← content (.insertQuiz (chosenQuiz tenantID req question))
      return quizToDTO quiz) := by
  unfold ContentService.createQuizFromQuestions
  split
  · next hnone =>
    rw [hids] at hnone
    cases hnone
  · next first' rest' hcons =>
    rw [hids] at hcons
    cases hcons
    rfl

/-- What a call does: nothing, or it stores a quiz of the requested ids, of which it has looked up the first. -/
lemma createQuizFromQuestions_cases : Ensures (contentExec b) (fun _ s' => s'.quizzes = s.quizzes ∨
    ∃ quiz first rest, s'.quizzes = s.quizzes ++ [quiz] ∧ quiz.questionIDs = objectIDsOrNil req.questionIDs ∧
      req.questionIDs = first :: rest ∧ ∃ oid, objectID first = .ok oid ∧ Usable b s tenantID actor oid)
    (ContentService.createQuizFromQuestions tenantID actor req).run s := by
  cases hids : req.questionIDs with
  | nil =>
    unfold ContentService.createQuizFromQuestions
    rw [hids]
    exact .inl rfl
  | cons first rest =>
    rw [createQuizFromQuestions_cons hids, ← hids]
    refine Ensures.run_bind (ensures_getQuestion.mono ?_)
    rintro (err | found) s₁ ⟨rfl, hfound⟩
    · exact .inl rfl
    refine Ensures.lift_bind (fun _ _ => .inl rfl) fun question hquestion => ?_
    obtain ⟨oid, hoid, hstored⟩ := hfound question (congrArg Except.ok (required_ok hquestion))
    refine Ensures.run_bind ((ensures_scope question.scope).mono ?_)
    rintro (err | u) s₂ ⟨rfl, hscope⟩
    · exact .inl rfl
    refine Ensures.lift_bind (fun _ _ => .inl rfl) fun _ _ => Ensures.run_bind fun env => ?_
    have hinsert := insertQuiz_cases (s := s₂) (b := b) env (chosenQuiz tenantID req question) rfl
    have houtcome := hinsert.imp (congrArg ContentStore.quizzes) fun hadded =>
      (⟨_, first, rest, hadded.2, rfl, hids, oid, hoid, question, hstored, hscope rfl⟩ : ∃ quiz first rest,
        (contentExec b env (.insertQuiz (chosenQuiz tenantID req question)) s₂).2.quizzes = s₂.quizzes ++ [quiz] ∧
        quiz.questionIDs = objectIDsOrNil req.questionIDs ∧ req.questionIDs = first :: rest ∧
        ∃ oid, objectID first = .ok oid ∧ Usable b s₂ tenantID actor oid)
    cases (contentExec b env (.insertQuiz (chosenQuiz tenantID req question)) s₂).1 <;> exact houtcome

/-- The questions of a new quiz are usable exactly if those after the first one are. -/
lemma chosenUsable_iff {r : Except LmsError QuizResponse} {quiz : QuizDocument}
    (hcall : Evaluates (contentExec b) (ContentService.createQuizFromQuestions tenantID actor req).run s r s')
    (hquiz : s'.quizzes = s.quizzes ++ [quiz]) :
    (∀ id ∈ quiz.questionIDs, Usable b s tenantID actor id) ↔
      ∀ id ∈ objectIDsOrNil req.questionIDs.tail, Usable b s tenantID actor id := by
  obtain hkept | ⟨quiz', first, rest, hstored, hquestions, hids, oid, hoid, husable⟩ :=
    createQuizFromQuestions_cases.sound hcall
  · rw [hkept] at hquiz
    simp at hquiz
  obtain rfl : quiz' = quiz := by simpa using hstored.symm.trans hquiz
  have hcons : objectIDsOrNil (first :: rest) = oid :: objectIDsOrNil rest := by
    unfold objectIDsOrNil
    rw [List.filterMap_cons, hoid]
    rfl
  rw [hquestions, hids, hcons, List.tail_cons, List.forall_mem_cons]
  exact and_iff_right husable

end Chosen

/-- The questions a new quiz is made of: of chosen ones all are usable exactly if those after the
first one are, and of a random quiz they are distinct exactly if none can be picked twice. -/
theorem newQuizQuestions_iff [Library] [MongoServer] (b : Backend) (repeats : Bool) (tenantID : String) (actor : Actor)
    {s : ContentStore} (hids : (s.questions.map Question.id).Nodup) :
    (∀ req r s' quiz,
      Evaluates (contentExec b) (ContentService.createQuizFromQuestions tenantID actor req).run s r s' →
      s'.quizzes = s.quizzes ++ [quiz] → ((∀ id ∈ quiz.questionIDs, Usable b s tenantID actor id) ↔
        ∀ id ∈ objectIDsOrNil req.questionIDs.tail, Usable b s tenantID actor id)) ∧
    ∀ req, PicksDistinct b repeats tenantID actor req s ↔
      ¬(StoresRandomQuiz b actor req s ∧ PicksTwice b repeats tenantID req s) :=
  ⟨fun _ _ _ _ hcall hquiz => chosenUsable_iff hcall hquiz, fun req => picksDistinct_iff hids req⟩

section Sample

attribute [local instance] asciiLibrary Sample.server

namespace Sample

/-- Question 2 belongs to the center of `boss`, question 3 is global. Their topics are 7 and 8. -/
def topicBank : ContentStore where
  centers := .singleton { id := id 1, tenantID := "erg", managerUserID := "boss" }
  questions := [{ id := id 2, tenantID := "erg", scope := ⟨"center", (id 1).hex⟩, subjectID := id 5, levelID := id 6,
                  topicID := id 7, type := "essay", stem := "Why?", status := "active" },
                { id := id 3, tenantID := "erg", scope := ⟨"global", ""⟩, subjectID := id 5, levelID := id 6,
                  topicID := id 8, type := "essay", stem := "How?", status := "active" }]

def chooseBoth : CreateQuizFromQuestionsRequest := ⟨[(id 2).hex, (id 3).hex], "Both", "practice", none⟩

/-- One question of each topic. -/
def pickTopics (topics : List ℕ) : CreateRandomQuizRequest where
  subjectID := (id 5).hex
  levelID := (id 6).hex
  topicRules := topics.map fun topic => ⟨(id topic).hex, 1⟩
  kind := "practice"

end Sample

/-- An administrator picks from two topics. -/
theorem picksDistinct_topics :
    PicksDistinct .memory false "erg" ⟨"admin", ["admin"]⟩ (Sample.pickTopics [7, 8]) Sample.topicBank := by
  have hiff := newQuizQuestions_iff .memory false "erg" ⟨"admin", ["admin"]⟩ (s := Sample.topicBank) (by decide)
  refine (hiff.2 (Sample.pickTopics [7, 8])).mpr ?_
  rintro ⟨-, htwice⟩
  revert htwice
  unfold PicksTwice
  decide

lemma Sample.global_not_usable : ¬Usable .memory Sample.topicBank "erg" ⟨"boss", []⟩ (Sample.id 3) := by
  rintro ⟨q, hq, hscope⟩
  have hglobal : (Sample.topicBank.findQuestion "erg" (Sample.id 3)).map Question.scope = some ⟨"global", ""⟩ := by
    decide
  rw [hq, Option.map_some, Option.some_inj] at hglobal
  have hallowed := hscope Sample.clock
  rw [hglobal] at hallowed
  have hrefused : ((ContentService.validateContentScope "erg" ⟨"boss", []⟩ ⟨"global", ""⟩).run.alone
      (ContentStore.exec .memory) Sample.clock Sample.topicBank).1.isOk = false := by decide
  rw [show _ = _ from hallowed] at hrefused
  cases hrefused

/-- `boss` makes a quiz with a question that only administrators may use, and an administrator who
names a topic twice gets its question twice. -/
theorem unchecked_questions :
    (∃ r s' quiz, Evaluates (contentExec .memory)
        (ContentService.createQuizFromQuestions "erg" ⟨"boss", []⟩ Sample.chooseBoth).run Sample.topicBank r s' ∧
      s'.quizzes = Sample.topicBank.quizzes ++ [quiz] ∧
      ¬∀ id ∈ quiz.questionIDs, Usable .memory Sample.topicBank "erg" ⟨"boss", []⟩ id) ∧
    ¬PicksDistinct .memory false "erg" ⟨"admin", ["admin"]⟩ (Sample.pickTopics [7, 7]) Sample.topicBank := by
  constructor
  · generalize hrun : (ContentService.createQuizFromQuestions "erg" ⟨"boss", []⟩ Sample.chooseBoth).run.alone
      (contentExec .memory) (Sample.clock, .none) Sample.topicBank = outcome
    have heval := evaluates_alone (contentExec .memory) (Sample.clock, .none)
      (ContentService.createQuizFromQuestions "erg" ⟨"boss", []⟩ Sample.chooseBoth).run Sample.topicBank
    have hquizzes : outcome.2.quizzes.map QuizDocument.questionIDs = [[Sample.id 2, Sample.id 3]] := by
      rw [← hrun]
      decide
    rw [hrun] at heval
    obtain ⟨quiz, hquiz, hquestions⟩ := List.map_eq_singleton_iff.mp hquizzes
    refine ⟨_, _, quiz, heval, hquiz, fun h => Sample.global_not_usable (h _ ?_)⟩
    rw [hquestions]
    simp
  · intro h
    generalize hrun : (ContentService.createRandomQuiz "erg" ⟨"admin", ["admin"]⟩ (Sample.pickTopics [7, 7])).run.alone
      (samplingExec .memory false) ⟨(Sample.clock, .none), .inr List.nodup_nil⟩ Sample.topicBank = outcome
    have heval := evaluates_alone (samplingExec .memory false) ⟨(Sample.clock, .none), .inr List.nodup_nil⟩
      (ContentService.createRandomQuiz "erg" ⟨"admin", ["admin"]⟩ (Sample.pickTopics [7, 7])).run Sample.topicBank
    have hquizzes : outcome.2.quizzes.map QuizDocument.questionIDs = [[Sample.id 2, Sample.id 2]] := by
      rw [← hrun]
      decide
    rw [hrun] at heval
    obtain ⟨quiz, hquiz, hquestions⟩ := List.map_eq_singleton_iff.mp hquizzes
    have hnodup := (h _ _ quiz heval hquiz).1
    rw [hquestions] at hnodup
    revert hnodup
    decide

end Sample

end ErgGo.Lms
