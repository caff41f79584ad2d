import ErgGo.Bot.Conversation
import ErgGo.Lib.Runs

/-!
# Which wizards there are

That a conversation has no wizard is said by the map with a missing entry and by the loader with
a nil pointer and no error, which `HandleWizardInput` stores and dereferences.
-/

namespace ErgGo.Bot
open Go Documents Bson Runs ConversationService

section Service

variable [Library]

inductive WizardCall where
  | start (convID userID platform firstStep : String) (steps : List WizardStep)
  | input (update : Option PlatformUpdate)
  | cancel (convID : String)
  | active (convID : String)
  | restart

def Outcome.panicked {α : Type} : Outcome α → Bool
  | .returned _ => false
  | .panic => true

def panics (s : ConversationService) (call : WizardEnv × WizardCall) : Bool :=
  match call.2 with
  | .start convID userID platform firstStep steps => (startWizard call.1 convID userID platform firstStep steps s).1.panicked
  | .input update => (handleWizardInput call.1 update s).1.panicked
  | .active convID => (getActiveWizard call.1 convID s).panicked
  | .cancel _ | .restart => false

def afterCall (s : ConversationService) (call : WizardEnv × WizardCall) : ConversationService :=
  match call.2 with
  | .start convID userID platform firstStep steps => (startWizard call.1 convID userID platform firstStep steps s).2
  | .input update => (handleWizardInput call.1 update s).2
  | .cancel convID => (cancelWizard call.1 convID s).2
  | .active _ => s
  | .restart => s.restart

def pendingWizard (s : ConversationService) (convID : String) : Option WizardState :=
  (s.conversations.find (fun conv => conv.platformConvID = convID && conv.state = .pending)).map (wizardOf convID)

/-- The wizard of a conversation, in memory or else in MongoDB. -/
def wizardFor (s : ConversationService) (convID : String) : Option WizardState :=
  match s.wizards.lookup convID with
  | some wiz => wiz
  | none => pendingWizard s convID

def HasUnexpired (s : ConversationService) (convID : String) (now : Time) : Prop :=
  ∃ wiz, wizardFor s convID = some wiz ∧ ¬wiz.expiresAt < now

/-- No nil wizard is stored. -/
def NoNil (s : ConversationService) : Prop := ∀ convID, s.wizards.lookup convID ≠ some none

/-- What is asked of one call. -/
structure WizardSafe (s : ConversationService) (call : WizardEnv × WizardCall) : Prop where
  noPanic : panics s call = false
  noNil : NoNil (afterCall s call)
  /-- The reply says that a wizard is active exactly if the call leaves an unexpired one. -/
  activity : ∀ update reply, call.2 = .input (some update) → (handleWizardInput call.1 (some update) s).1 = .returned reply →
    (reply.active ↔ HasUnexpired (afterCall s call) update.conversationID (call.1.clock 0))

/-- Input comes to a conversation that has a wizard, expired or at one of its steps, while MongoDB
answers. -/
def Answerable (s : ConversationService) (call : WizardEnv × WizardCall) : Prop :=
  match call.2 with
  | .input (some update) => call.1.findError = none ∧ call.1.writeError = none ∧
      ∃ wiz, wizardFor s update.conversationID = some wiz ∧
        (wiz.expiresAt < call.1.clock 0 ∨ ∃ step ∈ wiz.steps, step.name = wiz.step)
  | _ => True

section Calls

variable {s : ConversationService} {env : WizardEnv}

omit [Library] in
lemma NoNil.insert (hs : NoNil s) (wiz : WizardState) (convID : String) : NoNil (put wiz convID s) := by
  intro convID'
  by_cases hconv : convID' = convID
  · rw [hconv, put, AList.lookup_insert]
    simp
  · rw [put, AList.lookup_insert_ne hconv]
    exact hs convID'

lemma wizards_persistWizard (wiz : WizardState) (now : Time) : (persistWizard env wiz now s).wizards = s.wizards := by
  unfold persistWizard
  split_ifs
  · rfl
  · rfl

omit [Library] in
lemma wizards_forget (convID : String) : (forget env convID s).wizards = s.wizards.erase convID := by
  unfold forget deleteWizard
  split_ifs
  · rfl
  · rfl

omit [Library] in
lemma NoNil.forget (hs : NoNil s) (convID : String) : NoNil (forget env convID s) := by
  intro convID'
  rw [wizards_forget]
  by_cases hconv : convID' = convID
  · rw [hconv, AList.lookup_erase]
    simp
  · rw [AList.lookup_erase_ne hconv]
    exact hs convID'

omit [Library] in
lemma conversations_forget (henv : env.writeError = none) (convID : String) : (forget env convID s).conversations =
    s.conversations.updateOne (fun conv => conv.platformConvID = convID) setEnded := by
  unfold forget deleteWizard
  rw [henv]
  rfl

lemma pendingWizard_eq (s : ConversationService) (convID : String) : pendingWizard s convID =
    ((s.conversations.lookup convID).filter (fun conv => conv.state = .pending)).map (wizardOf convID) := by
  have hpinned : Pinned BotConversation.platformConvID
      (fun conv => decide (conv.platformConvID = convID) && decide (conv.state = .pending)) convID := by
    intro conv hconv
    rw [Bool.and_eq_true] at hconv
    exact of_decide_eq_true hconv.1
  rw [pendingWizard, Collection.find_of_pinned hpinned]
  cases hlookup : s.conversations.lookup convID with
  | none => rfl
  | some conv =>
    have hid : conv.platformConvID = convID := Collection.key_of_lookup hlookup
    simp [Option.filter, hid]

lemma pendingWizard_forget (henv : env.writeError = none) (convID : String) : pendingWizard (forget env convID s) convID = none := by
  have hpinned : Pinned BotConversation.platformConvID (fun conv => decide (conv.platformConvID = convID)) convID :=
    fun conv hconv => of_decide_eq_true hconv
  rw [pendingWizard_eq, conversations_forget henv, Collection.lookup_updateOne hpinned]
  cases hconv : s.conversations.lookup convID with
  | none => rfl
  | some conv =>
    have hid : conv.platformConvID = convID := Collection.key_of_lookup hconv
    simp [hid, setEnded, Option.filter]

/-- Forgetting a wizard leaves none, if MongoDB answers. -/
lemma wizardFor_forget (henv : env.writeError = none) (convID : String) : wizardFor (forget env convID s) convID = none := by
  have hmemory : (forget env convID s).wizards.lookup convID = none := by
    rw [wizards_forget]
    exact AList.lookup_erase _ _
  rw [wizardFor, hmemory]
  exact pendingWizard_forget henv convID

lemma hasUnexpired_put (wiz : WizardState) (convID : String) (now : Time) :
    HasUnexpired (put wiz convID s) convID now ↔ ¬wiz.expiresAt < now := by
  unfold HasUnexpired wizardFor put
  rw [AList.lookup_insert]
  simp

lemma not_hasUnexpired_forget (henv : env.writeError = none) (convID : String) (now : Time) :
    ¬HasUnexpired (forget env convID s) convID now := by
  rintro ⟨wiz, hwiz, -⟩
  rw [wizardFor_forget henv] at hwiz
  cases hwiz

lemma hasUnexpired_persistWizard (wiz wiz' : WizardState) (convID : String) (at' now : Time) :
    HasUnexpired (persistWizard env wiz at' (put wiz' convID s)) convID now ↔ ¬wiz'.expiresAt < now := by
  unfold HasUnexpired wizardFor
  rw [wizards_persistWizard, put, AList.lookup_insert]
  simp

omit [Library] in
/-- An expiry that has just been extended. -/
lemma not_expired_extended (env : WizardEnv) : ¬env.clock 1 + wizardTTL < env.clock 0 := by
  have hmonotone := env.monotone (Nat.zero_le 1)
  have hpositive : (0 : ℤ) < wizardTTL := by decide
  intro h
  have hle : env.clock 1 + wizardTTL ≤ env.clock 1 := h.le.trans hmonotone
  exact absurd hpositive (not_lt.mpr (by simpa using hle))

/-- What input to a wizard at one of its steps leaves. -/
lemma handleStep_safe (hs : NoNil s) (henv : env.writeError = none) (update : PlatformUpdate) (wiz : WizardState)
    (hextended : wiz.expiresAt = env.clock 1 + wizardTTL) (currentStep : WizardStep) :
    let reply := handleStep env update wiz currentStep s
    NoNil reply.2 ∧ (reply.1.active ↔ HasUnexpired reply.2 update.conversationID (env.clock 0)) := by
  have hunexpired : ¬wiz.expiresAt < env.clock 0 := by
    rw [hextended]
    exact not_expired_extended env
  intro reply
  have hreply : reply = handleStep env update wiz currentStep s := rfl
  unfold handleStep at hreply
  cases hvalid : currentStep.validate.bind (fun validate => validate update.rawText) with
  | some err =>
    rw [hreply, hvalid]
    exact ⟨hs.insert wiz _, iff_of_true rfl ((hasUnexpired_put _ _ _).mpr hunexpired)⟩
  | none =>
    rw [hreply, hvalid]
    dsimp only
    split_ifs
    · exact ⟨hs.forget _, iff_of_false (by simp) (not_hasUnexpired_forget henv _ _)⟩
    · exact ⟨hs.forget _, iff_of_false (by simp) (not_hasUnexpired_forget henv _ _)⟩
    · refine ⟨?_, iff_of_true rfl ((hasUnexpired_persistWizard _ _ _ _ _).mpr hunexpired)⟩
      intro convID
      rw [wizards_persistWizard]
      exact hs.insert _ _ convID

lemma handleWizard_safe (hs : NoNil s) (henv : env.writeError = none) (update : PlatformUpdate) (wiz : WizardState)
    (hwiz : wiz.expiresAt < env.clock 0 ∨ ∃ step ∈ wiz.steps, step.name = wiz.step) :
    let reply := handleWizard env update wiz s
    NoNil reply.2 ∧ (reply.1.active ↔ HasUnexpired reply.2 update.conversationID (env.clock 0)) := by
  intro reply
  have hreply : reply = handleWizard env update wiz s := rfl
  unfold handleWizard at hreply
  by_cases hexpired : wiz.expiresAt < env.clock 0
  · rw [hreply, if_pos hexpired]
    exact ⟨hs.forget _, iff_of_false Bool.false_ne_true (not_hasUnexpired_forget henv _ _)⟩
  · obtain ⟨step, hstep, hname⟩ := hwiz.resolve_left hexpired
    have hfound : (wiz.steps.find? (fun step => step.name = wiz.step)).isSome := by
      rw [List.find?_isSome]
      exact ⟨step, hstep, decide_eq_true hname⟩
    obtain ⟨currentStep, hcurrent⟩ := Option.isSome_iff_exists.mp hfound
    rw [if_neg hexpired] at hreply
    dsimp only at hreply
    rw [hcurrent] at hreply
    rw [hreply]
    exact handleStep_safe hs henv update _ rfl currentStep

lemma handleWizardInput_safe (hs : NoNil s) {update : PlatformUpdate}
    (hanswer : Answerable s (env, .input (some update))) :
    ∃ reply s', handleWizardInput env (some update) s = (.returned reply, s') ∧ NoNil s' ∧
      (reply.active ↔ HasUnexpired s' update.conversationID (env.clock 0)) := by
  obtain ⟨hfind, hwrite, wiz, hheld, hwiz⟩ := hanswer
  unfold wizardFor at hheld
  unfold handleWizardInput
  dsimp only
  cases hmemory : s.wizards.lookup update.conversationID with
  | some held =>
    rw [hmemory] at hheld
    cases (show held = some wiz from hheld)
    exact ⟨_, _, rfl, handleWizard_safe hs hwrite update wiz hwiz⟩
  | none =>
    rw [hmemory] at hheld
    have hload : loadWizard env update.conversationID s = .ok (some wiz) := by
      unfold loadWizard
      rw [hfind]
      exact congrArg Except.ok hheld
    rw [hload]
    exact ⟨_, _, rfl, handleWizard_safe (hs.insert wiz _) hwrite update wiz hwiz⟩

lemma startWizard_safe (hs : NoNil s) (env : WizardEnv) (convID userID platform firstStep : String) (steps : List WizardStep) :
    (startWizard env convID userID platform firstStep steps s).1.panicked = false ∧
      NoNil (startWizard env convID userID platform firstStep steps s).2 := by
  have hstarted : ∀ wiz now, NoNil (persistWizard env wiz now (put wiz convID s)) := by
    intro wiz now convID'
    rw [wizards_persistWizard]
    exact hs.insert _ _ convID'
  unfold startWizard
  cases hmemory : s.wizards.lookup convID with
  | none => exact ⟨rfl, hstarted _ _⟩
  | some held =>
    cases held with
    | none => exact absurd hmemory (hs convID)
    | some existing =>
      dsimp only
      by_cases hrunning : env.clock 0 < existing.expiresAt
      · rw [if_pos hrunning]
        exact ⟨rfl, hs⟩
      · rw [if_neg hrunning]
        exact ⟨rfl, hstarted _ _⟩

lemma getActiveWizard_safe (hs : NoNil s) (convID : String) : (getActiveWizard env convID s).panicked = false := by
  unfold getActiveWizard
  cases hmemory : s.wizards.lookup convID with
  | none => rfl
  | some held =>
    cases held with
    | none => exact absurd hmemory (hs convID)
    | some wiz =>
      dsimp only
      split_ifs
      · rfl
      · rfl

/-- A call that can be answered, where no nil wizard is stored. -/
lemma NoNil.safe (hs : NoNil s) {call : WizardEnv × WizardCall} (hanswer : Answerable s call) : WizardSafe s call := by
  obtain ⟨env, call⟩ := call
  cases call with
  | start convID userID platform firstStep steps =>
    obtain ⟨hpanic, hafter⟩ := startWizard_safe hs env convID userID platform firstStep steps
    exact ⟨hpanic, hafter, fun _ _ h => by cases h⟩
  | cancel convID => exact ⟨rfl, hs.forget convID, fun _ _ h => by cases h⟩
  | active convID => exact ⟨getActiveWizard_safe hs convID, hs, fun _ _ h => by cases h⟩
  | restart =>
    refine ⟨rfl, ?_, fun _ _ h => by cases h⟩
    intro convID h
    cases h
  | input update =>
    cases update with
    | none => exact ⟨rfl, hs, fun _ _ h => by cases h⟩
    | some update =>
      obtain ⟨reply, s', hreply, hnil, hactive⟩ := handleWizardInput_safe hs hanswer
      have hafter : afterCall s (env, .input (some update)) = s' := congrArg Prod.snd hreply
      refine ⟨?_, ?_, ?_⟩
      · simp only [panics, hreply, Outcome.panicked]
      · rw [hafter]
        exact hnil
      · intro update' reply' hcall hreturned
        cases hcall
        rw [hafter]
        have hreply' : (handleWizardInput env (some update) s).1 = .returned reply := congrArg Prod.fst hreply
        cases hreply'.symm.trans hreturned
        exact hactive

end Calls

/-- In a run of answerable calls from a new service no nil wizard is stored or dereferenced, and
the replies say which conversations have a wizard. -/
theorem wizardSafe_throughout {calls : List (WizardEnv × WizardCall)} (hanswer : Throughout afterCall Answerable {} calls) :
    Throughout afterCall WizardSafe {} calls := by
  have hstart : NoNil {} := by
    intro convID h
    cases h
  exact hanswer.of_invariant (fun _ _ hs hcall => (hs.safe hcall).noNil) (fun _ _ hs hcall => hs.safe hcall) hstart

end Service

section Sample

attribute [local instance] asciiLibrary

namespace Sample

/-- A clock that stands still during the call. -/
def wizardEnv (now : Time) : WizardEnv := { clock := fun _ => now, monotone := monotone_const }

def startRSS : WizardEnv × WizardCall := (wizardEnv 0, .start "chat" "user" "telegram" "input_url" registerRSSWizard)

def say (now : Time) (text : String) : WizardEnv × WizardCall := (wizardEnv now, .input (some ⟨"chat", text⟩))

end Sample

open Sample

/-- A wizard is started, the process restarts, and the user answers the first question. -/
theorem restarted_wizard_is_answered :
    Throughout afterCall WizardSafe {} [startRSS, (wizardEnv 1, .restart), say 2 "https://example.com/feed"] := by
  refine wizardSafe_throughout ⟨trivial, trivial, ⟨rfl, rfl, ?_⟩, trivial⟩
  refine ⟨_, rfl, .inr ?_⟩
  decide

/-- Input for a conversation that never had a wizard. -/
theorem input_without_wizard_panics : ¬Throughout afterCall WizardSafe {} [say 0 "hello"] := by
  rintro ⟨hsafe, -⟩
  cases hsafe.noPanic

end Sample

end ErgGo.Bot
