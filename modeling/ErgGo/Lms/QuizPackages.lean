import ErgGo.Lms.QuizPublications

/-!
# Packages by their hash

A package carries the hash of the last publication, or of its own content as long as the quiz
is not published. A client that keeps packages by their hash gets the same questions and title
again, and the same settings if no update has changed them in between.
-/

namespace ErgGo.Lms
open Go Documents Concurrent Program

section Packages

variable [Library] [MongoServer] {b : Backend} {s : ContentStore} {tenantID : String} {id : ObjectID}
  {h : List ContentEvent}

/-- A request for a package reads the quiz. -/
def ReadsForPackage (ops : List QuizOperation) (tenantID : String) (id : ObjectID) (e : ContentEvent) : Prop :=
  (∃ idText, ops[e.thread]? = some (.quizPackage tenantID idText)) ∧ e.req = .findQuiz tenantID id

/-- An update that arrives sets the settings it finds. -/
def KeepsSettings (tenantID : String) (id : ObjectID) (e : ContentEvent) : Prop :=
  ∀ quiz set settings, e.before.findQuiz tenantID id = some quiz → e.req = .updateQuiz tenantID id set →
    e.env.2 ≠ .lost → set.settings = some settings → settings = quiz.settings

/-- No update changes the settings between two requests for a package that find the same hash
of a publication. -/
def SettingsKept (ops : List QuizOperation) (tenantID : String) (id : ObjectID) (h : List ContentEvent) : Prop :=
  ∀ h₁ r h₂ r' h₃, h = h₁ ++ r :: (h₂ ++ r' :: h₃) → ReadsForPackage ops tenantID id r →
    ReadsForPackage ops tenantID id r' → ∀ quiz quiz', r.before.findQuiz tenantID id = some quiz →
    r'.before.findQuiz tenantID id = some quiz' → quiz.packageHash = quiz'.packageHash → quiz.packageHash ≠ "" →
    ∀ e ∈ h₂, KeepsSettings tenantID id e

/-- No update assigns the questions or the title. -/
lemma questions_after (e : ContentEvent) {quiz : QuizDocument} (hquiz : e.before.findQuiz tenantID id = some quiz) :
    ∃ quiz', (Event.after (contentExec b) e).findQuiz tenantID id = some quiz' ∧
      quiz'.questionIDs = quiz.questionIDs ∧ quiz'.title = quiz.title := by
  obtain ⟨set, -, -, hafter⟩ | ⟨-, hafter⟩ := findQuiz_after (b := b) e hquiz
  · exact ⟨_, hafter, rfl, rfl⟩
  · exact ⟨quiz, hafter, rfl, rfl⟩

lemma settings_after {e : ContentEvent} {quiz : QuizDocument} (hquiz : e.before.findQuiz tenantID id = some quiz)
    (he : KeepsSettings tenantID id e) :
    ∃ quiz', (Event.after (contentExec b) e).findQuiz tenantID id = some quiz' ∧ quiz'.settings = quiz.settings := by
  obtain ⟨set, hreq, harrived, hafter⟩ | ⟨-, hafter⟩ := findQuiz_after (b := b) e hquiz
  · refine ⟨_, hafter, ?_⟩
    change set.settings.getD quiz.settings = quiz.settings
    cases hsettings : set.settings with
    | none => rfl
    | some settings => exact he quiz set settings hquiz hreq harrived hsettings
  · exact ⟨quiz, hafter, rfl⟩

/-- What two packages of one hash have in common. -/
def SameContent (quiz quiz' : QuizDocument) : Prop :=
  quiz.questionIDs = quiz'.questionIDs ∧ quiz.title = quiz'.title ∧ quiz.settings = quiz'.settings

/-- Reads that find the same published hash find the same content. -/
lemma sameContent_of_settingsKept {s' : ContentStore} (hr : Replays (contentExec b) s h s')
    {ops : List QuizOperation} (hkept : SettingsKept ops tenantID id h) {h₁ h₂ h₃ : List ContentEvent}
    {r r' : ContentEvent} (hsplit : h = h₁ ++ r :: (h₂ ++ r' :: h₃)) (hreads : ReadsForPackage ops tenantID id r)
    (hreads' : ReadsForPackage ops tenantID id r') {quiz quiz' : QuizDocument}
    (hquiz : r.before.findQuiz tenantID id = some quiz) (hquiz' : r'.before.findQuiz tenantID id = some quiz')
    (hhash : quiz.packageHash = quiz'.packageHash) (hpublished : quiz.packageHash ≠ "") : SameContent quiz quiz' := by
  have hkeeps : ∀ e ∈ r :: h₂, KeepsSettings tenantID id e := by
    intro e he
    obtain rfl | he := List.mem_cons.mp he
    · intro _ set settings _ hreq
      rw [hreads.2] at hreq
      cases hreq
    · exact hkept h₁ r h₂ r' h₃ hsplit hreads hreads' quiz quiz' hquiz hquiz' hhash hpublished e he
  rw [hsplit] at hr
  have hpath : Replays (contentExec b) r.before (r :: h₂) r'.before := ⟨rfl, hr.between⟩
  have hsame : ∃ found, r'.before.findQuiz tenantID id = some found ∧ SameContent quiz found := by
    refine hpath.preserves (I := fun s => ∃ found, s.findQuiz tenantID id = some found ∧ SameContent quiz found)
      ⟨quiz, hquiz, rfl, rfl, rfl⟩ ?_
    rintro e he ⟨found, hfound, hquestions, htitle, hsettings⟩
    obtain ⟨found', hfound', hquestions', htitle'⟩ := questions_after (b := b) e hfound
    obtain ⟨found'', hfound'', hsettings'⟩ := settings_after (b := b) hfound (hkeeps e he)
    rw [hfound'] at hfound''
    cases hfound''
    exact ⟨found', hfound', hquestions.trans hquestions'.symm, htitle.trans htitle'.symm,
      hsettings.trans hsettings'.symm⟩
  obtain ⟨found, hfound, hcontent⟩ := hsame
  rw [hquiz'] at hfound
  cases hfound
  exact hcontent

/-- Packages whose reads are one event, or which follow on one another. -/
lemma sameContent_of_reads {s' : ContentStore} (hr : Replays (contentExec b) s h s') {ops : List QuizOperation}
    (hkept : SettingsKept ops tenantID id h) {r r' : ContentEvent} (hmem : r ∈ h) (hmem' : r' ∈ h)
    (hreads : ReadsForPackage ops tenantID id r) (hreads' : ReadsForPackage ops tenantID id r')
    {quiz quiz' : QuizDocument} (hquiz : r.before.findQuiz tenantID id = some quiz)
    (hquiz' : r'.before.findQuiz tenantID id = some quiz') (hhash : quiz.packageHash = quiz'.packageHash)
    (hpublished : quiz.packageHash ≠ "") : SameContent quiz quiz' := by
  obtain rfl | ⟨h₁, h₂, h₃, hsplit⟩ | ⟨h₁, h₂, h₃, hsplit⟩ := order_of_mem hmem hmem'
  · rw [hquiz] at hquiz'
    cases hquiz'
    exact ⟨rfl, rfl, rfl⟩
  · exact sameContent_of_settingsKept hr hkept hsplit hreads hreads' hquiz hquiz' hhash hpublished
  · obtain ⟨hquestions, htitle, hsettings⟩ := sameContent_of_settingsKept hr hkept hsplit hreads' hreads hquiz' hquiz
      hhash.symm (hhash ▸ hpublished)
    exact ⟨hquestions.symm, htitle.symm, hsettings.symm⟩

end Packages

section Runs

variable [Library] [MongoServer] [ContentHash]

/-- Packages of one quiz with the same content hash have the same questions, title and
settings. -/
def PackagesAgree (ops : List QuizOperation)
    (c : Config (ContentEnv × Fault) ContentRequest ContentReply ContentStore (Except LmsError QuizResult))
    (tenantID : String) (id : ObjectID) : Prop :=
  ∀ (i j : ℕ) (idText idText' : String) (resp resp' : QuizPackageResponse),
    ops[i]? = some (QuizOperation.quizPackage tenantID idText) →
    ops[j]? = some (QuizOperation.quizPackage tenantID idText') → objectID idText = .ok id → objectID idText' = .ok id →
    c.threads[i]? = some (Program.done (.ok (.package resp))) →
    c.threads[j]? = some (Program.done (.ok (.package resp'))) → resp.contentHash = resp'.contentHash →
    resp.quiz.quiz.questionIDs = resp'.quiz.quiz.questionIDs ∧ resp.quiz.quiz.title = resp'.quiz.quiz.title ∧
      resp.quiz.settings = resp'.quiz.settings

/-- The hash tells the content of a returned package from all other content. -/
def DistinguishesPackages
    (c : Config (ContentEnv × Fault) ContentRequest ContentReply ContentStore (Except LmsError QuizResult)) : Prop :=
  ∀ (i : ℕ) (resp : QuizPackageResponse), c.threads[i]? = some (Program.done (.ok (.package resp))) →
    resp.quiz.quiz.packageHash = "" → ∀ content, hashAny content = hashAny (.detail resp.quiz) → content = .detail resp.quiz

omit [Library] [MongoServer] in
/-- The stored hashes are hashes of publications, so they are not the hash of a package. -/
lemma packageHash_ne_detail {s : ContentStore} (hs : HashesPublications ∅ s) {quiz : QuizDocument}
    (hquiz : quiz ∈ s.quizzes) (hpublished : quiz.packageHash ≠ "") {detail : QuizDetailResponse}
    (hdetail : ∀ content, hashAny content = hashAny (.detail detail) → content = .detail detail) :
    quiz.packageHash ≠ hashAny (.detail detail) := by
  obtain hempty | hold | ⟨quizID, version, questions, time, hpublication⟩ := hs quiz hquiz
  · exact absurd hempty hpublished
  · exact absurd hold (Set.notMem_empty _)
  · intro heq
    cases hdetail _ (hpublication.symm.trans heq)

/-- In every run in which no update changes the settings between two packages of one
publication, packages agree as their hashes do. -/
theorem packagesAgree_of_settingsKept {b : Backend} {s : ContentStore} (hs : HashesPublications ∅ s)
    {ops : List QuizOperation} {schedule : List (Nat × (ContentEnv × Fault))} {tenantID : String} {id : ObjectID}
    (hhash : DistinguishesPackages (quizRun b s ops schedule))
    (hkept : SettingsKept ops tenantID id (quizRun b s ops schedule).history) :
    PackagesAgree ops (quizRun b s ops schedule) tenantID id := by
  obtain ⟨-, hreported⟩ := quizRun_publications b hs ops schedule
  have hreplays : Replays (contentExec b) s (quizRun b s ops schedule).history (quizRun b s ops schedule).store :=
    run_replays s (ops.map (fun op => (op.call b).run)) schedule
  intro i j idText idText' resp resp' hop hop' hid hid' hdone hdone' heq
  obtain ⟨r, hr, rfl, hreq, hstored, quiz, hquiz, rfl⟩ := hreported i _ _ hop hdone tenantID idText id rfl hid
  obtain ⟨r', hr', rfl, hreq', hstored', quiz', hquiz', rfl⟩ := hreported j _ _ hop' hdone' tenantID idText' id rfl hid'
  have hdetail := hhash _ _ hdone
  have hdetail' := hhash _ _ hdone'
  change (if quiz.packageHash = "" then hashAny (.detail (quizDetailToDTO quiz)) else quiz.packageHash) =
    (if quiz'.packageHash = "" then hashAny (.detail (quizDetailToDTO quiz')) else quiz'.packageHash) at heq
  have hmem : quiz ∈ r.before.quizzes := List.mem_of_find?_eq_some hquiz
  have hmem' : quiz' ∈ r'.before.quizzes := List.mem_of_find?_eq_some hquiz'
  by_cases hempty : quiz.packageHash = ""
  · rw [if_pos hempty] at heq
    by_cases hempty' : quiz'.packageHash = ""
    · rw [if_pos hempty'] at heq
      have hsame : quizDetailToDTO quiz = quizDetailToDTO quiz' := HashedContent.detail.inj (hdetail' hempty' _ heq)
      exact ⟨congrArg (fun detail => detail.quiz.questionIDs) hsame, congrArg (fun detail => detail.quiz.title) hsame,
        congrArg QuizDetailResponse.settings hsame⟩
    · rw [if_neg hempty'] at heq
      exact absurd heq.symm (packageHash_ne_detail hstored' hmem' hempty' (hdetail hempty))
  · rw [if_neg hempty] at heq
    by_cases hempty' : quiz'.packageHash = ""
    · rw [if_pos hempty'] at heq
      exact absurd heq (packageHash_ne_detail hstored hmem hempty (hdetail' hempty'))
    · rw [if_neg hempty'] at heq
      obtain ⟨hquestions, htitle, hsettings⟩ := sameContent_of_reads hreplays hkept hr hr' ⟨⟨idText, hop⟩, hreq⟩
        ⟨⟨idText', hop'⟩, hreq'⟩ hquiz hquiz' heq hempty
      exact ⟨congrArg (List.map ObjectID.hex) hquestions, htitle, hsettings⟩

end Runs

section Sample

attribute [local instance] asciiLibrary Sample.server Sample.publicationHash

namespace Sample

def package : QuizOperation := .quizPackage "erg" (Sample.id 1).hex

/-- Publish, read a package, update the quiz, read a package. -/
def editedQuiz (shuffle : Bool) : List QuizOperation :=
  [publish, package, .updateQuiz "erg" (Sample.id 1).hex { settings := some (shuffling shuffle), theme := some [] }, package]

def editedRun (shuffle : Bool) :
    Config (ContentEnv × Fault) ContentRequest ContentReply ContentStore (Except LmsError QuizResult) :=
  quizRun .memory quizBank (editedQuiz shuffle) (turns [0, 0, 0, 0, 1, 2, 2, 3])

/-- A package with the hash of a publication, or no package. -/
def published : Program ContentRequest ContentReply (Except LmsError QuizResult) → Bool
  | .done (.ok (.package resp)) => resp.quiz.quiz.packageHash ≠ ""
  | _ => true

def shuffled : Option JsonObject → Option Bool
  | some [("shuffleQuestions", .bool shuffle)] => some shuffle
  | _ => none

lemma eq_of_shuffled {settings : Option JsonObject} {shuffle : Bool} (h : shuffled settings = some shuffle) :
    settings = some (shuffling shuffle) := by
  unfold shuffled at h
  split at h
  · cases h
    rfl
  · cases h

/-- The hash of a package and its settings. -/
def packaged : Program ContentRequest ContentReply (Except LmsError QuizResult) → Option (String × Option Bool)
  | .done (.ok (.package resp)) => some (resp.contentHash, shuffled resp.quiz.settings)
  | _ => none

/-- The questions are not shuffled, and an update leaves it at that. -/
def neverShuffled (e : ContentEvent) : Bool :=
  match e.req, e.before.findQuiz "erg" (Sample.id 1) with
  | .updateQuiz _ _ set, some quiz =>
    shuffled quiz.settings = some false && set.settings.all (fun settings => shuffled settings = some false)
  | _, _ => true

lemma keepsSettings_of_neverShuffled {e : ContentEvent} (he : neverShuffled e = true) :
    KeepsSettings "erg" (Sample.id 1) e := by
  intro quiz set settings hquiz hreq _ hsettings
  simp only [neverShuffled, hreq, hquiz, hsettings, Option.all_some, Bool.and_eq_true, decide_eq_true_eq] at he
  rw [eq_of_shuffled he.1, eq_of_shuffled he.2]

lemma distinguishes_of_published
    {c : Config (ContentEnv × Fault) ContentRequest ContentReply ContentStore (Except LmsError QuizResult)}
    (hc : c.threads.all published = true) : @DistinguishesPackages publicationHash c := by
  intro i resp hdone hempty
  have hpublished := List.all_eq_true.mp hc _ (List.mem_of_getElem? hdone)
  exact absurd hempty (by simpa [published] using hpublished)

lemma hashesPublications_quizBank : @HashesPublications publicationHash ∅ quizBank := by
  intro quiz hquiz
  rw [List.mem_singleton.mp hquiz]
  exact .inl rfl

end Sample

/-- An update that sends the settings as they are. -/
theorem packagesAgree_theme_updated :
    PackagesAgree (Sample.editedQuiz false) (Sample.editedRun false) "erg" (Sample.id 1) := by
  refine packagesAgree_of_settingsKept Sample.hashesPublications_quizBank
    (Sample.distinguishes_of_published (by decide)) ?_
  intro h₁ r h₂ r' h₃ hsplit _ _ _ _ _ _ _ _ e he
  have hquiet : (Sample.editedRun false).history.all Sample.neverShuffled = true := by decide
  refine Sample.keepsSettings_of_neverShuffled (List.all_eq_true.mp hquiet e ?_)
  change e ∈ (quizRun .memory Sample.quizBank (Sample.editedQuiz false) (Sample.turns [0, 0, 0, 0, 1, 2, 2, 3])).history
  rw [hsplit]
  simp [he]

/-- After an update of the settings the package keeps its hash. -/
theorem package_hash_stale_settings :
    HashesPublications ∅ Sample.quizBank ∧ DistinguishesPackages (Sample.editedRun true) ∧
      ¬PackagesAgree (Sample.editedQuiz true) (Sample.editedRun true) "erg" (Sample.id 1) := by
  refine ⟨Sample.hashesPublications_quizBank, Sample.distinguishes_of_published (by decide), ?_⟩
  have hpackaged : (Sample.editedRun true).threads.map Sample.packaged =
      [none, some ("publication 1", some false), none, some ("publication 1", some true)] := by decide
  generalize Sample.editedRun true = c at hpackaged
  have hpackage : ∀ (i : ℕ) (hash : String) (shuffle : Option Bool),
      (c.threads.map Sample.packaged)[i]? = some (some (hash, shuffle)) →
      ∃ resp : QuizPackageResponse, c.threads[i]? = some (Program.done (.ok (.package resp))) ∧ resp.contentHash = hash ∧
        Sample.shuffled resp.quiz.settings = shuffle := by
    intro i hash shuffle hi
    rw [List.getElem?_map, Option.map_eq_some_iff] at hi
    obtain ⟨thread, hthread, hi⟩ := hi
    unfold Sample.packaged at hi
    split at hi
    · next resp =>
      cases hi
      exact ⟨resp, hthread, rfl, rfl⟩
    · cases hi
  rw [hpackaged] at hpackage
  obtain ⟨resp, hdone, hhash, hshuffled⟩ := hpackage 1 _ _ rfl
  obtain ⟨resp', hdone', hhash', hshuffled'⟩ := hpackage 3 _ _ rfl
  intro hagree
  obtain ⟨-, -, hsame⟩ := hagree 1 3 _ _ resp resp' rfl rfl (by decide) (by decide) hdone hdone'
    (hhash.trans hhash'.symm)
  rw [hsame, hshuffled'] at hshuffled
  cases hshuffled

end Sample

end ErgGo.Lms
