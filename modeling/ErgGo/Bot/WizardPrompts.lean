import ErgGo.Bot.WizardStates

/-!
# Which prompt is shown

The reply to an accepted input repeats the prompt of the step just answered, while the input
after it is saved under the name of the next step.
-/

namespace ErgGo.Bot
open Go Documents Bson Runs ConversationService

section Service

variable [Library]

def WizardState.currentStep (wiz : WizardState) : Option WizardStep := wiz.steps.find? (fun step => step.name = wiz.step)

/-- The step under whose name the next input is saved. -/
def pendingStep (s : ConversationService) (convID : String) : Option WizardStep :=
  (wizardFor s convID).bind WizardState.currentStep

/-- The wizard that a call finds in memory or loads. -/
def wizardMet (env : WizardEnv) (s : ConversationService) (convID : String) : Option WizardState :=
  match s.wizards.lookup convID with
  | some wiz => wiz
  | none => (loadWizard env convID s).toOption.join

/-- What the validator of the step says to the input. -/
def WizardStep.objection (step : WizardStep) (update : PlatformUpdate) : Option String :=
  step.validate.bind (fun validate => validate update.rawText)

/-- A prompt, after the text of an objection. -/
def promptAfter (objection : Option String) (prompt : String) : String :=
  match objection with
  | some err => "⚠️ " ++ err ++ "\n\n" ++ prompt
  | none => prompt

/-- A reply that says that a wizard is active shows the prompt of the pending step. -/
def PromptMatches (s : ConversationService) (call : WizardEnv × WizardCall) : Prop :=
  ∀ update reply, call.2 = .input (some update) → (handleWizardInput call.1 (some update) s).1 = .returned reply →
    reply.active → ∃ step, pendingStep (afterCall s call) update.conversationID = some step ∧
      reply.response = promptAfter ((pendingStep s update.conversationID).bind (fun step => step.objection update)) step.prompt

/-- The input is accepted at this step, and the wizard goes on. -/
structure Advances (env : WizardEnv) (update : PlatformUpdate) (wiz : WizardState) (step : WizardStep) : Prop where
  unexpired : ¬wiz.expiresAt < env.clock 0
  current : wiz.currentStep = some step
  accepted : step.objection update = none
  incomplete : ¬(step.onComplete ≠ "" ∧ step.onComplete = wiz.step)
  goesOn : step.nextStep ≠ ""

/-- A step that an input leads to has the prompt of the step before. -/
def PromptRepeats (s : ConversationService) (call : WizardEnv × WizardCall) : Prop :=
  ∀ update wiz step, call.2 = .input (some update) → wizardMet call.1 s update.conversationID = some wiz →
    Advances call.1 update wiz step →
    ∃ next, wiz.steps.find? (fun other => other.name = step.nextStep) = some next ∧ next.prompt = step.prompt

variable {s : ConversationService} {env : WizardEnv} {update : PlatformUpdate} {wiz : WizardState} {step : WizardStep}

lemma wizardFor_put (convID : String) : wizardFor (put wiz convID s) convID = some wiz := by
  rw [wizardFor, put, AList.lookup_insert]

lemma wizardFor_persistWizard (wiz wiz' : WizardState) (now : Time) (convID : String) :
    wizardFor (persistWizard env wiz' now (put wiz convID s)) convID = some wiz := by
  unfold wizardFor
  rw [wizards_persistWizard, put, AList.lookup_insert]

/-- A wizard that is met is the one of the conversation. -/
lemma wizardFor_of_met {convID : String} (h : wizardMet env s convID = some wiz) : wizardFor s convID = some wiz := by
  unfold wizardMet at h
  unfold wizardFor
  cases hmemory : s.wizards.lookup convID with
  | some held =>
    rw [hmemory] at h
    exact h
  | none =>
    rw [hmemory] at h
    unfold loadWizard at h
    cases hfind : env.findError with
    | some e =>
      rw [hfind] at h
      cases h
    | none =>
      rw [hfind] at h
      exact h

/-- An active reply comes from the step of a wizard that was met. -/
lemma handleWizardInput_active {reply : InputReply} (hreply : (handleWizardInput env (some update) s).1 = .returned reply)
    (hactive : reply.active) : ∃ wiz step, wizardMet env s update.conversationID = some wiz ∧
      ¬wiz.expiresAt < env.clock 0 ∧ wiz.currentStep = some step ∧
      ∃ s', handleWizardInput env (some update) s =
        (.returned (handleStep env update { wiz with expiresAt := env.clock 1 + wizardTTL } step s').1,
          (handleStep env update { wiz with expiresAt := env.clock 1 + wizardTTL } step s').2) := by
  have hfound : ∀ held s', (handleFound env update held s').1 = .returned reply →
      ∃ wiz step, held = some wiz ∧ ¬wiz.expiresAt < env.clock 0 ∧ wiz.currentStep = some step ∧
        handleFound env update held s' =
          (.returned (handleStep env update { wiz with expiresAt := env.clock 1 + wizardTTL } step s').1,
            (handleStep env update { wiz with expiresAt := env.clock 1 + wizardTTL } step s').2) := by
    intro held s' h
    cases held with
    | none => cases h
    | some wiz =>
      unfold handleFound at h ⊢
      dsimp only at h ⊢
      unfold handleWizard at h ⊢
      by_cases hexpired : wiz.expiresAt < env.clock 0
      · rw [if_pos hexpired] at h
        cases h
        cases hactive
      · rw [if_neg hexpired] at h ⊢
        dsimp only at h ⊢
        cases hstep : wiz.steps.find? (fun step => step.name = wiz.step) with
        | none =>
          rw [hstep] at h
          cases h
          cases hactive
        | some step => exact ⟨wiz, step, rfl, hexpired, hstep, rfl⟩
  unfold handleWizardInput at hreply ⊢
  unfold wizardMet
  dsimp only at hreply ⊢
  cases hmemory : s.wizards.lookup update.conversationID with
  | some held =>
    rw [hmemory] at hreply
    obtain ⟨wiz, step, hheld, hexpired, hstep, hcall⟩ := hfound held s hreply
    exact ⟨wiz, step, hheld, hexpired, hstep, s, hcall⟩
  | none =>
    rw [hmemory] at hreply
    dsimp only at hreply ⊢
    cases hload : loadWizard env update.conversationID s with
    | error e =>
      rw [hload] at hreply
      cases hreply
      cases hactive
    | ok held =>
      rw [hload] at hreply
      obtain ⟨wiz, step, hheld, hexpired, hstep, hcall⟩ := hfound held _ hreply
      exact ⟨wiz, step, hheld, hexpired, hstep, _, hcall⟩

/-- The reply at a step: the objection and the prompt, or the prompt alone where the wizard goes on, or no active wizard. -/
lemma handleStep_cases (env : WizardEnv) (update : PlatformUpdate) (wiz : WizardState) (step : WizardStep)
    (s : ConversationService) :
    (∃ err, step.objection update = some err ∧ handleStep env update wiz step s =
      ({ response := promptAfter (some err) step.prompt, active := true }, put wiz update.conversationID s)) ∨
    step.objection update = none ∧
      ((step.onComplete ≠ "" ∧ step.onComplete = wiz.step ∨ step.nextStep = "") ∧
          (handleStep env update wiz step s).1.active = false ∨
        ¬(step.onComplete ≠ "" ∧ step.onComplete = wiz.step) ∧ step.nextStep ≠ "" ∧
          (handleStep env update wiz step s).1 = { response := step.prompt, active := true } ∧
          wizardFor (handleStep env update wiz step s).2 update.conversationID =
            some { wiz with data := wiz.data.insert wiz.step update.rawText, step := step.nextStep }) := by
  unfold handleStep
  change _ ∨ step.validate.bind _ = none ∧ _
  cases hvalid : step.validate.bind (fun validate => validate update.rawText) with
  | some err => exact .inl ⟨err, hvalid, rfl⟩
  | none =>
    refine .inr ⟨rfl, ?_⟩
    dsimp only
    by_cases hcomplete : step.onComplete ≠ "" ∧ step.onComplete = wiz.step
    · rw [if_pos hcomplete]
      exact .inl ⟨.inl hcomplete, rfl⟩
    · rw [if_neg hcomplete]
      by_cases hnext : step.nextStep = ""
      · rw [if_pos hnext]
        exact .inl ⟨.inr hnext, rfl⟩
      · rw [if_neg hnext]
        exact .inr ⟨hcomplete, hnext, rfl, wizardFor_persistWizard _ _ _ _⟩

lemma handleWizardInput_met (hmet : wizardMet env s update.conversationID = some wiz)
    (hunexpired : ¬wiz.expiresAt < env.clock 0) (hstep : wiz.currentStep = some step) :
    ∃ s', handleWizardInput env (some update) s =
      (.returned (handleStep env update { wiz with expiresAt := env.clock 1 + wizardTTL } step s').1,
        (handleStep env update { wiz with expiresAt := env.clock 1 + wizardTTL } step s').2) := by
  have hfound : ∀ s', handleFound env update (some wiz) s' =
      (.returned (handleStep env update { wiz with expiresAt := env.clock 1 + wizardTTL } step s').1,
        (handleStep env update { wiz with expiresAt := env.clock 1 + wizardTTL } step s').2) := by
    intro s'
    unfold WizardState.currentStep at hstep
    unfold handleFound handleWizard
    dsimp only
    rw [if_neg hunexpired, hstep]
  unfold wizardMet at hmet
  unfold handleWizardInput
  dsimp only
  cases hmemory : s.wizards.lookup update.conversationID with
  | some held =>
    rw [hmemory] at hmet
    cases (show held = some wiz from hmet)
    exact ⟨s, hfound s⟩
  | none =>
    rw [hmemory] at hmet
    dsimp only at hmet ⊢
    cases hload : loadWizard env update.conversationID s with
    | error e =>
      rw [hload] at hmet
      cases hmet
    | ok held =>
      rw [hload] at hmet
      cases (show held = some wiz from hmet)
      exact ⟨_, hfound _⟩

/-- One call. -/
lemma promptMatches_iff (s : ConversationService) (call : WizardEnv × WizardCall) :
    PromptMatches s call ↔ PromptRepeats s call := by
  obtain ⟨env, call⟩ := call
  constructor
  · rintro h update wiz step rfl hmet hadvances
    obtain ⟨s', hcall⟩ := handleWizardInput_met hmet hadvances.unexpired hadvances.current
    have hbefore : pendingStep s update.conversationID = some step := by
      rw [pendingStep, wizardFor_of_met hmet, Option.bind_some, hadvances.current]
    obtain ⟨err, hobjection, -⟩ | ⟨-, ⟨hends, -⟩ | ⟨-, -, hreply, hafter⟩⟩ :=
      handleStep_cases env update { wiz with expiresAt := env.clock 1 + wizardTTL } step s'
    · rw [hadvances.accepted] at hobjection
      cases hobjection
    · exact absurd hends (not_or.mpr ⟨hadvances.incomplete, hadvances.goesOn⟩)
    · obtain ⟨next, hnext, hresponse⟩ := h update _ rfl (congrArg Prod.fst hcall) (by rw [hreply])
      rw [hbefore, Option.bind_some, hadvances.accepted, hreply] at hresponse
      change pendingStep (handleWizardInput env (some update) s).2 update.conversationID = some next at hnext
      rw [hcall, pendingStep, hafter] at hnext
      exact ⟨next, hnext, hresponse.symm⟩
  · rintro h update reply rfl hreply hactive
    obtain ⟨wiz, step, hmet, hunexpired, hstep, s', hcall⟩ := handleWizardInput_active hreply hactive
    have hbefore : pendingStep s update.conversationID = some step := by
      rw [pendingStep, wizardFor_of_met hmet, Option.bind_some, hstep]
    have hreturned := (congrArg Prod.fst hcall).symm.trans hreply
    rw [Outcome.returned.injEq] at hreturned
    change ∃ next, pendingStep (handleWizardInput env (some update) s).2 update.conversationID = some next ∧ _
    rw [hcall, hbefore, Option.bind_some]
    obtain ⟨err, hobjection, hout⟩ | ⟨haccepted, ⟨-, hinactive⟩ | ⟨hincomplete, hgoesOn, hout, hafter⟩⟩ :=
      handleStep_cases env update { wiz with expiresAt := env.clock 1 + wizardTTL } step s'
    · refine ⟨step, ?_, ?_⟩
      · rw [hout, pendingStep, wizardFor_put]
        exact hstep
      · rw [← hreturned, hout, hobjection]
    · rw [hreturned, hactive] at hinactive
      cases hinactive
    · obtain ⟨next, hnext, hprompt⟩ := h update wiz step rfl hmet ⟨hunexpired, hstep, haccepted, hincomplete, hgoesOn⟩
      refine ⟨next, ?_, ?_⟩
      · rw [pendingStep, hafter]
        exact hnext
      · rw [← hreturned, hout, haccepted, hprompt]
        rfl

/-- Every reply of a run shows the prompt of the pending step exactly if every step that an
accepted input leads to has the prompt of the step before. -/
theorem promptMatches_throughout (s : ConversationService) (calls : List (WizardEnv × WizardCall)) :
    Throughout afterCall PromptMatches s calls ↔ Throughout afterCall PromptRepeats s calls :=
  Throughout.congr (I := fun _ => True) (fun _ _ _ _ => trivial) (fun s call _ => promptMatches_iff s call) trivial calls

end Service

section Sample

attribute [local instance] asciiLibrary

open Sample

/-- The URL is accepted, and the user is asked for it again. -/
theorem prompt_of_the_answered_step : ¬Throughout afterCall PromptMatches {} [startRSS, say 1 "https://example.com/feed"] := by
  rw [promptMatches_throughout]
  rintro ⟨-, hrepeats, -⟩
  have hsecond : registerRSSWizard.find? (fun step => step.name = registerRSSWizard[0].nextStep) =
      some registerRSSWizard[1] := rfl
  obtain ⟨next, hnext, hprompt⟩ := hrepeats ⟨"chat", "https://example.com/feed"⟩ _ registerRSSWizard[0] rfl rfl
    ⟨by decide, rfl, by decide, by decide, by decide⟩
  have hnext' : registerRSSWizard.find? (fun step => step.name = registerRSSWizard[0].nextStep) = some next := hnext
  have hprompts : registerRSSWizard[1].prompt ≠ registerRSSWizard[0].prompt := by decide
  rw [hsecond, Option.some_inj] at hnext'
  rw [← hnext'] at hprompt
  exact hprompts hprompt

end Sample

end ErgGo.Bot
