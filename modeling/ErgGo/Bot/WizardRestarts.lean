import ErgGo.Bot.WizardStates

/-!
# Restarts during the RSS wizard

Two services get the same input, one of which is restarted from time to time. What was persisted
is the wizard as the user left it except for its expiry, which an input extends in memory even
when it is not accepted, and which is stored in whole milliseconds.
-/

namespace ErgGo.Bot
open Go Documents Bson Runs ConversationService

/-- A call during which MongoDB answers. -/
structure AnsweringEnv extends WizardEnv where
  finds : findError = none
  writes : writeError = none

inductive ChatEvent where
  | input (env : AnsweringEnv) (text : String)
  | restart

section Twins

variable [Library] (convID : String)

/-- The service that is restarted, and the one that is not. -/
abbrev Twins := ConversationService × ConversationService

def answer (env : AnsweringEnv) (text : String) (s : ConversationService) : Outcome InputReply × ConversationService :=
  handleWizardInput env.toWizardEnv (some ⟨convID, text⟩) s

def twinStep (t : Twins) (event : ChatEvent) : Twins :=
  match event with
  | .input env text => ((answer convID env text t.1).2, (answer convID env text t.2).2)
  | .restart => (t.1.restart, t.2)

/-- The same response, and the same data collected. -/
def Transparent (t : Twins) (event : ChatEvent) : Prop :=
  match event with
  | .input env text => (answer convID env text t.1).1 = (answer convID env text t.2).1 ∧
      (answer convID env text t.1).2.conversations = (answer convID env text t.2).2.conversations
  | .restart => True

/-- An input that is the first after a restart comes before both expiries of the wizard, the
persisted one and the one in the memory of the other service, or after both. -/
def OnTime (t : Twins) (event : ChatEvent) : Prop :=
  match event with
  | .input env _ => ∀ stored held, t.1.wizards.lookup convID = none → pendingWizard t.1 convID = some stored →
      t.2.wizards.lookup convID = some (some held) → (stored.expiresAt < env.clock 0 ↔ held.expiresAt < env.clock 0)
  | .restart => True

/-- The service after the wizard has been started. -/
def startedRSS (env : AnsweringEnv) (userID platform firstStep : String) (conversations : Conversations) : ConversationService :=
  (startWizard env.toWizardEnv convID userID platform firstStep registerRSSWizard { conversations }).2

/-! ## What the two services share -/

/-- The same wizard, but for its times. -/
def SameWizard (wiz wiz' : WizardState) : Prop := wiz' = { wiz with startedAt := wiz'.startedAt, expiresAt := wiz'.expiresAt }

/-- The wizard runs: in memory, unless lost, and as persisted. -/
structure Running (t : Twins) (wiz : WizardState) : Prop where
  steps : wiz.steps = registerRSSWizard
  conv : wiz.convID = convID
  held : t.2.wizards.lookup convID = some (some wiz)
  stored : ∃ wiz', pendingWizard t.1 convID = some wiz' ∧ SameWizard wiz wiz'
  restarted : t.1.wizards.lookup convID = none ∨
    ∃ wiz', t.1.wizards.lookup convID = some (some wiz') ∧ SameWizard wiz wiz' ∧ wiz'.expiresAt = wiz.expiresAt

/-- The wizard has ended: what is in memory, if anything, is nil. -/
structure Ended (t : Twins) : Prop where
  stored : pendingWizard t.1 convID = none
  first : t.1.wizards.lookup convID = none ∨ t.1.wizards.lookup convID = some none
  second : t.2.wizards.lookup convID = none ∨ t.2.wizards.lookup convID = some none

structure TwinInv (t : Twins) : Prop where
  conversations : t.1.conversations = t.2.conversations
  wizard : (∃ wiz, Running convID t wiz) ∨ Ended convID t

variable {convID}

omit [Library] in
lemma SameWizard.refl (wiz : WizardState) : SameWizard wiz wiz := rfl

/-- A wizard of the RSS template is restored as it was persisted. -/
lemma wizardOf_persisted {conv : BotConversation} {wiz : WizardState} (hsteps : wiz.steps = registerRSSWizard)
    (hconv : wiz.convID = convID) (huser : conv.userID = wiz.userID) (hplatform : conv.platform = wiz.platform)
    (hstep : conv.wizardStep = wiz.step) (hdata : conv.wizardData = some wiz.data)
    (htemplate : conv.template = some (detectWizardTemplate wiz.steps)) : SameWizard wiz (wizardOf convID conv) := by
  have hdetect : detectWizardTemplate wiz.steps = "rss_add" := by
    rw [hsteps, detectWizardTemplate, if_pos]
    simp [sameWizardSteps]
  have hrestore : restoreWizardSteps conv = wiz.steps := by
    unfold restoreWizardSteps
    rw [htemplate, hdetect, hsteps]
    rfl
  unfold SameWizard wizardOf
  rw [hrestore, huser, hplatform, hstep, hdata, hconv]
  rfl

/-- After the wizard has been persisted. -/
lemma pendingWizard_persistWizard (env : AnsweringEnv) {wiz : WizardState} (hsteps : wiz.steps = registerRSSWizard)
    (hconv : wiz.convID = convID) (now : Time) (s : ConversationService) :
    ∃ wiz', pendingWizard (persistWizard env.toWizardEnv wiz now s) convID = some wiz' ∧ SameWizard wiz wiz' := by
  have hconversations : (persistWizard env.toWizardEnv wiz now s).conversations =
      upsertKey s.conversations (setWizard wiz now) (newConversation wiz now) := by
    unfold persistWizard
    rw [env.writes]
    rfl
  have hkey : convID = (newConversation wiz now).platformConvID := hconv.symm
  rw [pendingWizard_eq, hconversations, lookup_upsertKey, if_pos hkey]
  cases s.conversations.lookup convID with
  | none => exact ⟨_, rfl, wizardOf_persisted hsteps hconv rfl rfl rfl rfl rfl⟩
  | some conv => exact ⟨_, rfl, wizardOf_persisted hsteps hconv rfl rfl rfl rfl rfl⟩

lemma mem_of_pendingWizard {s : ConversationService} {wiz : WizardState} (h : pendingWizard s convID = some wiz) :
    convID ∈ s.conversations.docs.map BotConversation.platformConvID := by
  rw [pendingWizard_eq] at h
  by_contra hnone
  rw [Collection.lookup_eq_none_iff.mpr hnone] at h
  cases h

/-- Where the conversation has a document, the time the wizard was started is not written. -/
lemma conversations_persistWizard_startedAt (env : WizardEnv) {wiz : WizardState} (now startedAt : Time)
    {a b : ConversationService} (hconversations : a.conversations = b.conversations)
    (hmem : wiz.convID ∈ b.conversations.docs.map BotConversation.platformConvID) :
    (persistWizard env { wiz with startedAt } now a).conversations = (persistWizard env wiz now b).conversations := by
  unfold persistWizard
  split_ifs
  · exact hconversations
  · have hfirst : upsertKey a.conversations (setWizard { wiz with startedAt } now) (newConversation { wiz with startedAt } now) =
        a.conversations.updateOne (fun conv => conv.platformConvID = wiz.convID) (setWizard wiz now) := by
      refine upsertKey_of_mem _ ?_
      rw [hconversations]
      exact hmem
    have hsecond : upsertKey b.conversations (setWizard wiz now) (newConversation wiz now) =
        b.conversations.updateOne (fun conv => conv.platformConvID = wiz.convID) (setWizard wiz now) := upsertKey_of_mem _ hmem
    dsimp only
    rw [hfirst, hsecond, hconversations]

lemma pendingWizard_congr {a b : ConversationService} (h : a.conversations = b.conversations) :
    pendingWizard a convID = pendingWizard b convID := by
  rw [pendingWizard, pendingWizard, h]

section Input

variable (env : AnsweringEnv) (text : String) {a b : ConversationService} (wiz : WizardState)
  (hconversations : a.conversations = b.conversations) (hsteps : wiz.steps = registerRSSWizard) (hconv : wiz.convID = convID)
  (hstored : ∃ wiz', pendingWizard a convID = some wiz' ∧ SameWizard wiz wiz')

omit [Library] in
lemma lookup_put (wiz : WizardState) (s : ConversationService) : (put wiz convID s).wizards.lookup convID = some (some wiz) :=
  AList.lookup_insert _

include hconversations in
/-- Both services have forgotten the wizard. -/
lemma twinInv_forget : TwinInv convID (forget env.toWizardEnv convID a, forget env.toWizardEnv convID b) where
  conversations := by
    dsimp only
    rw [conversations_forget env.writes, conversations_forget env.writes, hconversations]
  wizard := by
    refine .inr ⟨pendingWizard_forget env.writes convID, .inl ?_, .inl ?_⟩
    · rw [wizards_forget]
      exact AList.lookup_erase _ _
    · rw [wizards_forget]
      exact AList.lookup_erase _ _

include hconversations hsteps hconv hstored

/-- Both services hold the wizard, as it was persisted before. -/
lemma twinInv_put (startedAt : Time) : TwinInv convID (put { wiz with startedAt } convID a, put wiz convID b) where
  conversations := hconversations
  wizard := .inl ⟨wiz, hsteps, hconv, lookup_put _ _, hstored, .inr ⟨_, lookup_put _ _, rfl, rfl⟩⟩

/-- Both services have persisted another step or other data of the wizard. -/
lemma twinInv_persist (startedAt : Time) (moved : WizardState) (hmoved : moved.steps = wiz.steps) (hmovedConv : moved.convID = wiz.convID)
    (now : Time) : TwinInv convID (persistWizard env.toWizardEnv { moved with startedAt } now (put { moved with startedAt } convID a),
      persistWizard env.toWizardEnv moved now (put moved convID b)) where
  conversations := by
    refine conversations_persistWizard_startedAt _ _ _ hconversations ?_
    obtain ⟨wiz', hwiz', -⟩ := hstored
    rw [hmovedConv, hconv, put, ← hconversations]
    exact mem_of_pendingWizard hwiz'
  wizard := by
    refine .inl ⟨moved, hmoved.trans hsteps, hmovedConv.trans hconv, ?_, ?_, .inr ⟨{ moved with startedAt }, ?_, rfl, rfl⟩⟩
    · rw [wizards_persistWizard, lookup_put]
    · have hsteps' : ({ moved with startedAt } : WizardState).steps = registerRSSWizard := hmoved.trans hsteps
      have hconv' : ({ moved with startedAt } : WizardState).convID = convID := hmovedConv.trans hconv
      obtain ⟨wiz', hwiz', hsame⟩ := pendingWizard_persistWizard env hsteps' hconv' now (put { moved with startedAt } convID a)
      exact ⟨wiz', hwiz', hsame⟩
    · rw [wizards_persistWizard, lookup_put]

/-- The same input at the same step. -/
lemma handleStep_twins (startedAt : Time) (currentStep : WizardStep) :
    let first := handleStep env.toWizardEnv ⟨convID, text⟩ { wiz with startedAt } currentStep a
    let second := handleStep env.toWizardEnv ⟨convID, text⟩ wiz currentStep b
    first.1 = second.1 ∧ TwinInv convID (first.2, second.2) := by
  unfold handleStep
  cases currentStep.validate.bind (fun validate => validate text) with
  | some err => exact ⟨rfl, twinInv_put wiz hconversations hsteps hconv hstored startedAt⟩
  | none =>
    dsimp only
    split_ifs
    · exact ⟨rfl, twinInv_forget env hconversations⟩
    · exact ⟨rfl, twinInv_forget env hconversations⟩
    · refine ⟨rfl, ?_⟩
      exact twinInv_persist env wiz hconversations hsteps hconv hstored startedAt
        { wiz with data := wiz.data.insert wiz.step text, step := currentStep.nextStep } rfl rfl _

/-- The same input to the same wizard, expired for both services or for neither. -/
lemma handleWizard_twins {wiz' : WizardState} (hsame : SameWizard wiz wiz')
    (hexpiry : wiz'.expiresAt < env.clock 0 ↔ wiz.expiresAt < env.clock 0) :
    let first := handleWizard env.toWizardEnv ⟨convID, text⟩ wiz' a
    let second := handleWizard env.toWizardEnv ⟨convID, text⟩ wiz b
    first.1 = second.1 ∧ TwinInv convID (first.2, second.2) := by
  unfold handleWizard
  by_cases hexpired : wiz.expiresAt < env.clock 0
  · rw [if_pos hexpired, if_pos (hexpiry.mpr hexpired)]
    exact ⟨rfl, twinInv_forget env hconversations⟩
  · rw [if_neg hexpired, if_neg (fun h => hexpired (hexpiry.mp h))]
    rw [hsame]
    dsimp only
    cases wiz.steps.find? (fun step => step.name = wiz.step) with
    | none =>
      exact ⟨rfl, twinInv_put { wiz with expiresAt := env.clock 1 + wizardTTL } hconversations hsteps hconv hstored
        wiz'.startedAt⟩
    | some currentStep =>
      exact handleStep_twins env text { wiz with expiresAt := env.clock 1 + wizardTTL } hconversations hsteps hconv hstored
        wiz'.startedAt currentStep

end Input

omit [Library] in
lemma complete_ne_expired (parts : String) : "✅ Wizard complete!\n" ++ parts ≠ "⏰ Wizard expired. Please start again." := by
  intro hsame
  have hfirst := congrArg (fun s => s.toList.head?) hsame
  simp [String.toList_append] at hfirst

/-- A wizard that has not expired is not answered as an expired one. -/
lemma handleWizard_ne_expired {env : WizardEnv} {update : PlatformUpdate} {wiz wiz' : WizardState} {a b : ConversationService}
    (hexpired : wiz'.expiresAt < env.clock 0) (hunexpired : ¬wiz.expiresAt < env.clock 0) :
    (handleWizard env update wiz' a).1 ≠ (handleWizard env update wiz b).1 := by
  have hfirst : (handleWizard env update wiz' a).1 = { response := "⏰ Wizard expired. Please start again.", active := false } := by
    rw [handleWizard, if_pos hexpired]
  rw [hfirst, handleWizard, if_neg hunexpired]
  dsimp only
  cases wiz.steps.find? (fun step => step.name = wiz.step) with
  | none => simp
  | some currentStep =>
    dsimp only
    unfold handleStep
    cases currentStep.validate.bind (fun validate => validate update.rawText) with
    | some err => simp
    | none =>
      dsimp only
      split_ifs
      · intro hsame
        exact complete_ne_expired _ (congrArg InputReply.response hsame).symm
      · simp
      · simp

lemma answer_held (env : AnsweringEnv) (text : String) {s : ConversationService} {wiz : Option WizardState}
    (h : s.wizards.lookup convID = some wiz) : answer convID env text s = handleFound env.toWizardEnv ⟨convID, text⟩ wiz s := by
  unfold answer handleWizardInput
  dsimp only
  rw [h]

/-- A wizard that is not in memory is loaded, be it nil. -/
lemma answer_loaded (env : AnsweringEnv) (text : String) {s : ConversationService} (h : s.wizards.lookup convID = none) :
    answer convID env text s = handleFound env.toWizardEnv ⟨convID, text⟩ (pendingWizard s convID)
      { s with wizards := s.wizards.insert convID (pendingWizard s convID) } := by
  have hload : loadWizard env.toWizardEnv convID s = .ok (pendingWizard s convID) := by
    unfold loadWizard
    rw [env.finds]
    rfl
  unfold answer handleWizardInput
  dsimp only
  rw [h, hload]

/-- After the end every input panics. -/
lemma answer_ended {s : ConversationService} (hstored : pendingWizard s convID = none)
    (hheld : s.wizards.lookup convID = none ∨ s.wizards.lookup convID = some none) (env : AnsweringEnv) (text : String) :
    (answer convID env text s).1 = .panic ∧ (answer convID env text s).2.conversations = s.conversations ∧
      (answer convID env text s).2.wizards.lookup convID = some none := by
  obtain hnone | hnil := hheld
  · rw [answer_loaded env text hnone, hstored]
    exact ⟨rfl, rfl, AList.lookup_insert _⟩
  · rw [answer_held env text hnil]
    exact ⟨rfl, rfl, hnil⟩

/-- The wizard that the restarted service finds, in memory or in MongoDB. -/
lemma Running.found {t : Twins} {wiz : WizardState} (h : Running convID t wiz) (env : AnsweringEnv) (text : String) :
    ∃ wiz' a, answer convID env text t.1 = (.returned (handleWizard env.toWizardEnv ⟨convID, text⟩ wiz' a).1,
        (handleWizard env.toWizardEnv ⟨convID, text⟩ wiz' a).2) ∧ a.conversations = t.1.conversations ∧ SameWizard wiz wiz' ∧
      (OnTime convID t (.input env text) ↔ (wiz'.expiresAt < env.clock 0 ↔ wiz.expiresAt < env.clock 0)) := by
  obtain hlost | ⟨wiz', hwiz', hsame, hexpires⟩ := h.restarted
  · obtain ⟨stored, hstored, hsame⟩ := h.stored
    refine ⟨stored, { t.1 with wizards := t.1.wizards.insert convID (some stored) }, ?_, rfl, hsame, ?_⟩
    · rw [answer_loaded env text hlost, hstored]
      rfl
    · constructor
      · exact fun hontime => hontime stored wiz hlost hstored h.held
      · intro hexpiry stored' held _ hstored' hheld
        cases hstored.symm.trans hstored'
        cases h.held.symm.trans hheld
        exact hexpiry
  · refine ⟨wiz', t.1, ?_, rfl, hsame, ?_⟩
    · rw [answer_held env text hwiz']
      rfl
    · refine iff_of_true ?_ ?_
      · intro stored held hnone
        rw [hwiz'] at hnone
        cases hnone
      · rw [hexpires]

lemma TwinInv.input {t : Twins} (ht : TwinInv convID t) (env : AnsweringEnv) (text : String) :
    (OnTime convID t (.input env text) ↔ Transparent convID t (.input env text)) ∧
      (OnTime convID t (.input env text) → TwinInv convID (twinStep convID t (.input env text))) := by
  obtain ⟨wiz, hrunning⟩ | hended := ht.wizard
  · obtain ⟨wiz', a, hfirst, ha, hsame, hontime⟩ := hrunning.found env text
    have hsecond := answer_held env text hrunning.held
    have hstored : ∃ wiz', pendingWizard a convID = some wiz' ∧ SameWizard wiz wiz' := by
      rw [pendingWizard_congr ha]
      exact hrunning.stored
    have htwins := handleWizard_twins env text wiz (ha.trans ht.conversations) hrunning.steps hrunning.conv hstored
      hsame
    rw [hontime, twinStep, Transparent, hfirst, hsecond]
    refine ⟨⟨fun hexpiry => ?_, fun htransparent => ?_⟩, fun hexpiry => (htwins hexpiry).2⟩
    · obtain ⟨hreply, hinv⟩ := htwins hexpiry
      exact ⟨congrArg Outcome.returned hreply, hinv.conversations⟩
    · have hreply := Outcome.returned.inj htransparent.1
      by_cases hexpired : wiz.expiresAt < env.clock 0
      · refine iff_of_true ?_ hexpired
        by_contra hstored'
        exact handleWizard_ne_expired hexpired hstored' hreply.symm
      · refine iff_of_false ?_ hexpired
        exact fun hstored' => handleWizard_ne_expired hstored' hexpired hreply
  · obtain ⟨hpanic₁, hconversations₁, hheld₁⟩ := answer_ended hended.stored hended.first env text
    have hstored₂ : pendingWizard t.2 convID = none := (pendingWizard_congr ht.conversations).symm.trans hended.stored
    obtain ⟨hpanic₂, hconversations₂, hheld₂⟩ := answer_ended hstored₂ hended.second env text
    have hconversations : (answer convID env text t.1).2.conversations = (answer convID env text t.2).2.conversations := by
      rw [hconversations₁, hconversations₂, ht.conversations]
    refine ⟨iff_of_true ?_ ⟨hpanic₁.trans hpanic₂.symm, hconversations⟩, fun _ => ⟨hconversations, .inr ⟨?_, .inr hheld₁, .inr hheld₂⟩⟩⟩
    · intro stored held _ hstored
      rw [hended.stored] at hstored
      cases hstored
    · exact (pendingWizard_congr hconversations₁).trans hended.stored

lemma TwinInv.restart {t : Twins} (ht : TwinInv convID t) : TwinInv convID (twinStep convID t .restart) where
  conversations := ht.conversations
  wizard := by
    obtain ⟨wiz, hrunning⟩ | hended := ht.wizard
    · exact .inl ⟨wiz, hrunning.steps, hrunning.conv, hrunning.held, hrunning.stored, .inl rfl⟩
    · exact .inr ⟨hended.stored, .inl rfl, hended.second⟩

lemma twinInv_started (env : AnsweringEnv) (userID platform firstStep : String) (conversations : Conversations) :
    TwinInv convID (startedRSS convID env userID platform firstStep conversations,
      startedRSS convID env userID platform firstStep conversations) where
  conversations := rfl
  wizard := by
    let wiz : WizardState := ⟨convID, userID, platform, firstStep, if detectWizardTemplate registerRSSWizard ≠ "" then
      AList.singleton wizardTemplateKey (detectWizardTemplate registerRSSWizard) else ∅, registerRSSWizard, env.clock 1,
      env.clock 2 + wizardTTL⟩
    have hstarted : startedRSS convID env userID platform firstStep conversations =
        persistWizard env.toWizardEnv wiz (env.clock 3) (put wiz convID { conversations }) := rfl
    rw [hstarted]
    have hheld : (persistWizard env.toWizardEnv wiz (env.clock 3) (put wiz convID { conversations })).wizards.lookup convID =
        some (some wiz) := by rw [wizards_persistWizard, lookup_put]
    exact .inl ⟨wiz, rfl, rfl, hheld, pendingWizard_persistWizard env rfl rfl _ _, .inr ⟨wiz, hheld, rfl, rfl⟩⟩

/-- Restarts are not noticed if and only if no input that is the first after a restart comes
between the persisted expiry of the wizard and the one in memory. -/
theorem transparent_throughout_iff (env : AnsweringEnv) (convID userID platform firstStep : String) (conversations : Conversations)
    (events : List ChatEvent) :
    let started := startedRSS convID env userID platform firstStep conversations
    Throughout (twinStep convID) (Transparent convID) (started, started) events ↔
      Throughout (twinStep convID) (OnTime convID) (started, started) events := by
  refine (Throughout.congr (I := TwinInv convID) ?_ ?_ (twinInv_started env userID platform firstStep conversations) events).symm
  · intro t event ht hontime
    cases event with
    | input env text => exact (ht.input env text).2 hontime
    | restart => exact ht.restart
  · intro t event ht
    cases event with
    | input env text => exact (ht.input env text).1
    | restart => exact Iff.rfl

end Twins

section Sample

attribute [local instance] asciiLibrary

namespace Sample

def answering (second : ℤ) : AnsweringEnv where
  clock _ := second * 1000000000
  monotone := monotone_const
  finds := rfl
  writes := rfl

def startedAtZero : ConversationService := startedRSS "chat" (answering 0) "user" "telegram" "input_url" .empty

/-- An address that is too short after 100 seconds, and another one after 350. -/
def lateAnswer : List ChatEvent :=
  [.input (answering 100) "abc", .restart, .input (answering 350) "https://example.com/feed"]

end Sample

/-- The rejected input has extended the wizard in memory only. -/
theorem restart_after_rejected_input_is_noticed :
    ¬Throughout (twinStep "chat") (Transparent "chat") (Sample.startedAtZero, Sample.startedAtZero) Sample.lateAnswer := by
  rintro ⟨-, -, hnoticed, -⟩
  exact absurd hnoticed.1 (by decide)

end Sample

end ErgGo.Bot
