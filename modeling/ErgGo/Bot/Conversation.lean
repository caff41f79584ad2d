import ErgGo.Lib.Bson

/-!
# Conversation wizards

A wizard is kept in memory, by conversation, and copied to MongoDB when it starts and when it
moves to another step. A nil pointer can be stored in memory like any other.
-/

namespace ErgGo.Bot
open Go Documents Bson

def wizardTTL : Time := 300000000000
def wizardTemplateKey : String := "wizard_template"

structure WizardStep where
  name : String
  prompt : String
  /-- The text of the validator's error, if there is a validator and it objects. -/
  validate : Option (String → Option String) := none
  nextStep : String := ""
  onComplete : String := ""

structure WizardState where
  convID : String
  userID : String
  platform : String
  step : String
  data : GoMap String
  steps : List WizardStep
  startedAt : Time
  expiresAt : Time

inductive ConversationState where
  | active
  | pending
  | completed
  | expired
  deriving DecidableEq

/-- A document of `bot_conversations`, as far as the service uses it. -/
structure BotConversation where
  platformConvID : String
  userID : String
  platform : String
  state : ConversationState
  wizardStep : String
  wizardData : Option (GoMap String)
  /-- `context.wizard_template`. -/
  template : Option String
  createdAt : Time
  updatedAt : Time
  expiresAt : Time

abbrev Conversations := Collection BotConversation.platformConvID

structure ConversationService where
  wizards : GoMap (Option WizardState) := ∅
  conversations : Conversations := .empty

/-- What one call meets: successive clock readings, failures of MongoDB, and the order in
which a map is visited. -/
structure WizardEnv where
  clock : ℕ → Time
  monotone : ∀ ⦃i j : ℕ⦄, i ≤ j → clock i ≤ clock j
  findError : Option String := none
  writeError : Option String := none
  rangeOrder : List (String × String) → List (String × String) := id

inductive Outcome (α : Type) where
  | returned (a : α)
  /-- A nil pointer was dereferenced. -/
  | panic
  deriving DecidableEq

/-! ## The RSS wizard -/

section Validators

variable [Library]

def validateURL (input : String) : Option String :=
  let input := trimSpace input
  if input.utf8ByteSize < 5 then some "URL không hợp lệ. Vui lòng nhập URL đầy đủ (ví dụ: https://example.com/feed)"
  else if !contains input "." then some "URL không hợp lệ. Vui lòng nhập URL đầy đủ"
  else none

def validateCategory (input : String) : Option String :=
  let valid := ["news", "tech", "education", "other"]
  if toLower (trimSpace input) ∈ valid then none
  else some ("Danh mục không hợp lệ. Chọn: " ++ ", ".intercalate valid)

def validateYesNo (input : String) : Option String :=
  let input := toLower (trimSpace input)
  if input ≠ "yes" ∧ input ≠ "no" then some "Vui lòng trả lời *yes* hoặc *no*" else none

def registerRSSWizard : List WizardStep :=
  [{ name := "input_url", prompt := "📡 Vui lòng nhập URL RSS feed bạn muốn thêm:", nextStep := "input_category",
     validate := some validateURL },
    { name := "input_category", prompt := "📂 Chọn danh mục (news, tech, education, other):", nextStep := "confirm",
      validate := some validateCategory },
    { name := "confirm", prompt := "✅ Xác nhận? Gõ *yes* để thêm, *no* để hủy:", nextStep := "done",
      validate := some validateYesNo },
    { name := "done", onComplete := "done", prompt := "✅ RSS feed đã được thêm thành công!" }]

end Validators

/-- What `sameWizardSteps` compares. -/
def stepKey (step : WizardStep) : String × String × String := (step.name, step.nextStep, step.onComplete)

def sameWizardSteps (a b : List WizardStep) : Bool := a.map stepKey = b.map stepKey

variable [Library]

def detectWizardTemplate (steps : List WizardStep) : String :=
  if sameWizardSteps steps registerRSSWizard then "rss_add" else ""

def restoreWizardSteps (conv : BotConversation) : List WizardStep :=
  let template := conv.template.getD ""
  let template := if template = "" then (conv.wizardData.bind (fun data => data.lookup wizardTemplateKey)).getD "" else template
  if template = "rss_add" then registerRSSWizard
  -- conversations persisted without a template
  else if registerRSSWizard.any (fun step => (conv.wizardData.bind (fun data => data.lookup step.name)).isSome ∨
      step.name = conv.wizardStep) then registerRSSWizard
  else []

/-! ## MongoDB -/

def setWizard (wiz : WizardState) (now : Time) : Update BotConversation.platformConvID where
  apply conv := { conv with
    state := .pending
    wizardStep := wiz.step
    wizardData := some wiz.data
    template := some (detectWizardTemplate wiz.steps)
    userID := wiz.userID
    platform := wiz.platform
    updatedAt := dateTime now
    expiresAt := dateTime wiz.expiresAt }
  key_apply _ := rfl

def newConversation (wiz : WizardState) (now : Time) : BotConversation :=
  ⟨wiz.convID, wiz.userID, wiz.platform, .pending, wiz.step, some wiz.data, some (detectWizardTemplate wiz.steps),
    dateTime wiz.startedAt, dateTime now, dateTime wiz.expiresAt⟩

def setEnded : Update BotConversation.platformConvID :=
  ⟨fun conv => { conv with state := .active, wizardStep := "" }, fun _ => rfl⟩

namespace ConversationService

def persistWizard (env : WizardEnv) (wiz : WizardState) (now : Time) (s : ConversationService) : ConversationService :=
  if env.writeError.isSome then s
  else { s with conversations := upsertKey s.conversations (setWizard wiz now) (newConversation wiz now) }

def deleteWizard (env : WizardEnv) (convID : String) (s : ConversationService) : ConversationService :=
  if env.writeError.isSome then s
  else { s with conversations := s.conversations.updateOne (fun conv => conv.platformConvID = convID) setEnded }

/-- The data are copied entry by entry. -/
def wizardOf (convID : String) (conv : BotConversation) : WizardState :=
  ⟨convID, conv.userID, conv.platform, conv.wizardStep, conv.wizardData.getD ∅, restoreWizardSteps conv, conv.createdAt,
    conv.expiresAt⟩

/-- No document is no error, and no wizard. -/
def loadWizard (env : WizardEnv) (convID : String) (s : ConversationService) : Except String (Option WizardState) :=
  match env.findError with
  | some e => .error ("conversation: load wizard: " ++ e)
  | none => .ok ((s.conversations.find (fun conv => conv.platformConvID = convID && conv.state = .pending)).map (wizardOf convID))

/-! ## The calls -/

def startWizard (env : WizardEnv) (convID userID platform firstStep : String) (steps : List WizardStep)
    (s : ConversationService) : Outcome WizardState × ConversationService :=
  let data : GoMap String := if detectWizardTemplate steps ≠ "" then AList.singleton wizardTemplateKey (detectWizardTemplate steps) else ∅
  let wiz : WizardState := ⟨convID, userID, platform, firstStep, data, steps, env.clock 1, env.clock 2 + wizardTTL⟩
  let started := (.returned wiz, persistWizard env wiz (env.clock 3) { s with wizards := s.wizards.insert convID (some wiz) })
  match s.wizards.lookup convID with
  | none => started
  | some none => (.panic, s)
  | some (some existing) => if env.clock 0 < existing.expiresAt then (.returned existing, s) else started

end ConversationService

structure PlatformUpdate where
  conversationID : String
  rawText : String

inductive WizardError where
  | stepNotFound (step : String)
  deriving DecidableEq

structure InputReply where
  response : String
  active : Bool
  err : Option WizardError := none
  deriving DecidableEq

namespace ConversationService

def buildWizardResult (env : WizardEnv) (wiz : WizardState) : String :=
  "✅ Wizard complete!\n" ++ "\n".intercalate ((env.rangeOrder wiz.data.pairs).map (fun entry => entry.1 ++ ": `" ++ entry.2 ++ "`"))

def put (wiz : WizardState) (convID : String) (s : ConversationService) : ConversationService :=
  { s with wizards := s.wizards.insert convID (some wiz) }

def forget (env : WizardEnv) (convID : String) (s : ConversationService) : ConversationService :=
  deleteWizard env convID { s with wizards := s.wizards.erase convID }

/-- The input at the current step. -/
def handleStep (env : WizardEnv) (update : PlatformUpdate) (wiz : WizardState) (currentStep : WizardStep)
    (s : ConversationService) : InputReply × ConversationService :=
  match currentStep.validate.bind (fun validate => validate update.rawText) with
  | some err => ({ response := "⚠️ " ++ err ++ "\n\n" ++ currentStep.prompt, active := true }, put wiz update.conversationID s)
  | none =>
    let wiz := { wiz with data := wiz.data.insert wiz.step update.rawText }
    if currentStep.onComplete ≠ "" ∧ currentStep.onComplete = wiz.step then
      ({ response := buildWizardResult env wiz, active := false }, forget env update.conversationID s)
    else if currentStep.nextStep = "" then
      ({ response := "✅ Wizard complete.", active := false }, forget env update.conversationID s)
    else
      let wiz := { wiz with step := currentStep.nextStep }
      ({ response := currentStep.prompt, active := true }, persistWizard env wiz (env.clock 2) (put wiz update.conversationID s))

/-- The input to a wizard, from the check of its expiry on. -/
def handleWizard (env : WizardEnv) (update : PlatformUpdate) (wiz : WizardState) (s : ConversationService) :
    InputReply × ConversationService :=
  if wiz.expiresAt < env.clock 0 then
    ({ response := "⏰ Wizard expired. Please start again.", active := false }, forget env update.conversationID s)
  else
    let wiz := { wiz with expiresAt := env.clock 1 + wizardTTL }
    match wiz.steps.find? (fun step => step.name = wiz.step) with
    | none => ({ response := "", active := false, err := some (.stepNotFound wiz.step) }, put wiz update.conversationID s)
    | some currentStep => handleStep env update wiz currentStep s

/-- The wizard found is used whether it is nil or not. -/
def handleFound (env : WizardEnv) (update : PlatformUpdate) (wiz : Option WizardState) (s : ConversationService) :
    Outcome InputReply × ConversationService :=
  match wiz with
  | none => (.panic, s)
  | some wiz =>
    let reply := handleWizard env update wiz s
    (.returned reply.1, reply.2)

def handleWizardInput (env : WizardEnv) (update : Option PlatformUpdate) (s : ConversationService) :
    Outcome InputReply × ConversationService :=
  match update with
  | none => (.returned { response := "", active := false }, s)
  | some update =>
    match s.wizards.lookup update.conversationID with
    | some wiz => handleFound env update wiz s
    | none =>
      match loadWizard env update.conversationID s with
      | .error _ => (.returned { response := "", active := false }, s)
      | .ok wiz => handleFound env update wiz { s with wizards := s.wizards.insert update.conversationID wiz }

def cancelWizard (env : WizardEnv) (convID : String) (s : ConversationService) : Except String Unit × ConversationService :=
  (match env.writeError with
    | some e => .error ("cancel wizard: " ++ e)
    | none => .ok (), forget env convID s)

/-- The fallback to MongoDB. -/
def storedWizard (env : WizardEnv) (convID : String) (s : ConversationService) : Option WizardState :=
  match loadWizard env convID s with
  | .error _ | .ok none => none
  | .ok (some wiz) => if wiz.expiresAt < env.clock 1 then none else some wiz

def getActiveWizard (env : WizardEnv) (convID : String) (s : ConversationService) : Outcome (Option WizardState) :=
  match s.wizards.lookup convID with
  | some none => .panic
  | some (some wiz) => if env.clock 0 < wiz.expiresAt then .returned (some wiz) else .returned (storedWizard env convID s)
  | none => .returned (storedWizard env convID s)

/-- The process starts again: what was in memory is lost. -/
def restart (s : ConversationService) : ConversationService := { s with wizards := ∅ }

end ConversationService

end ErgGo.Bot
