import ErgGo.Lib.Bson
import ErgGo.Lib.Interleaving
import ErgGo.Lib.Runes

/-!
# AI provider keys

Keys are created, tested, selected and deleted by calls that send several requests each. A key is
selected by one request that clears the selection and another that sets it. The repository returns
a nil pointer for a key that is not there; every use of a pointer is an explicit dereference.
-/

namespace ErgGo.AiContent
open Go Documents Bson Concurrent

inductive ApiKeyStatus where
  | active
  | inactive
  | quotaExceeded
  | rateLimited
  | error
  deriving DecidableEq

structure ApiKey where
  id : String := ""
  label : String := ""
  projectID : String := ""
  key : String := ""
  encryptedKey : String := ""
  keyNonce : String := ""
  keyVersion : String := ""
  keyFingerprint : String := ""
  maskedKeyPreview : String := ""
  provider : String := ""
  type : String := ""
  status : ApiKeyStatus := .active
  ownerID : String := ""
  selected : Bool := false
  consecutiveErrors : ℤ := 0
  model : String := ""
  maxTokensPerRequest : ℤ := 0
  defaultTemperature : Float64 := 0
  todayUsage : ℤ := 0
  maxDailyQuota : ℤ := 0
  usageCount : ℤ := 0
  lastUsedAt : Option Time := none
  lastTestedAt : Option Time := none
  cooldownUntil : Option Time := none
  lastErrorMessage : String := ""
  createdAt : Time := 0
  updatedAt : Time := 0

/-- What the AI client is made from. -/
structure AiConfig where
  provider : String := ""
  apiKey : String := ""
  model : String := ""
  maxCompletionTokens : ℤ := 0
  temperature : Float64 := 0

abbrev KeyStore := Collection ApiKey.id

/-! ## Requests -/

/-- The clear also names the key that is to be selected next, and whether its call has just
inserted it. -/
inductive KeyRequest where
  | insert (key : ApiKey)
  | updateSecret (key : ApiKey) (now : Time)
  | find (id : String)
  | delete (id : String)
  | clearSelected (now : Time) (next : String) (created : Bool)
  | setSelected (id : String) (now : Time)
  | updateStatus (id : String) (status : ApiKeyStatus) (message : String) (now : Time)
  | generateText (cfg : AiConfig) (prompt : String)

def KeyValue : KeyRequest → Type
  | .insert _ => Unit
  | .updateSecret .. => Unit
  | .find _ => Option ApiKey
  | .delete _ => Bool
  | .clearSelected .. => Unit
  | .setSelected .. => Bool
  | .updateStatus .. => Bool
  | .generateText .. => Unit

abbrev KeyReply (q : KeyRequest) : Type := Except String (KeyValue q)

/-- A request that fails, and the keys it wrote all the same. -/
structure KeyFault where
  error : String
  carriedOut : String → Bool

def performed (fault : Option KeyFault) (id : String) : Bool := fault.all fun f => f.carriedOut id

/-- Times are stored in milliseconds. -/
def ApiKey.stored (key : ApiKey) : ApiKey :=
  { key with
    lastTestedAt := key.lastTestedAt.map dateTime, createdAt := dateTime key.createdAt
    updatedAt := dateTime key.updatedAt }

def setSecret (key : ApiKey) (now : Time) : Update ApiKey.id where
  apply old :=
    { old with
      key := "", encryptedKey := key.encryptedKey, keyNonce := key.keyNonce, keyVersion := key.keyVersion
      keyFingerprint := key.keyFingerprint, maskedKeyPreview := key.maskedKeyPreview, updatedAt := dateTime now }
  key_apply _ := rfl

def deselect (now : Time) : Update ApiKey.id where
  apply key := { key with selected := false, updatedAt := dateTime now }
  key_apply _ := rfl

def select (now : Time) : Update ApiKey.id where
  apply key := { key with selected := true, status := .active, updatedAt := dateTime now }
  key_apply _ := rfl

def setStatus (status : ApiKeyStatus) (message : String) (now : Time) : Update ApiKey.id where
  apply key :=
    { key with
      status := status, lastTestedAt := some (dateTime now), lastErrorMessage := message
      updatedAt := dateTime now, consecutiveErrors := if status = .active then 0 else 1
      cooldownUntil := if status = .active then none else key.cooldownUntil }
  key_apply _ := rfl

/-- The first document under the id is changed, unless the request is lost. -/
def KeyStore.update (fault : Option KeyFault) (id : String) (u : Update ApiKey.id) (s : KeyStore) : KeyStore :=
  if performed fault id then s.updateOne (fun key => key.id = id) u else s

/-- The reply of a request that is answered, and the store afterwards. -/
def KeyStore.carryOut (fault : Option KeyFault) : (q : KeyRequest) → KeyStore → KeyReply q × KeyStore
  | .insert key, s =>
    (if (s.insertOne key.stored).isSome then .ok () else .error "E11000 duplicate key error",
      if performed fault key.id then (s.insertOne key.stored).getD s else s)
  | .updateSecret key now, s => (.ok (), KeyStore.update fault key.id (setSecret key now) s)
  | .find id, s => (.ok (s.lookup id), s)
  | .delete id, s =>
    (.ok (s.lookup id).isSome, if performed fault id then s.deleteMany fun key => key.id = id else s)
  | .clearSelected now _ _, s =>
    (.ok (), s.updateMany (fun key => key.selected && performed fault key.id) (deselect now))
  | .setSelected id now, s => (.ok (s.lookup id).isSome, KeyStore.update fault id (select now) s)
  | .updateStatus id status message now, s =>
    (.ok (s.lookup id).isSome, KeyStore.update fault id (setStatus status message now) s)
  | .generateText .., s => (.ok (), s)

def KeyStore.serve (fault : Option KeyFault) (q : KeyRequest) (s : KeyStore) : KeyReply q × KeyStore :=
  (match fault with
    | none => (KeyStore.carryOut fault q s).1
    | some f => .error f.error, (KeyStore.carryOut fault q s).2)

/-! ## Pointers -/

inductive KeyError where
  | message (text : String)
  | nilDereference
  deriving DecidableEq

def KeyError.wrap (op : String) : KeyError → KeyError
  | .message text => .message (op ++ ": " ++ text)
  | .nilDereference => .nilDereference

abbrev KeyM (α : Type) := ExceptT KeyError (Program KeyRequest KeyReply) α

def fail {α : Type} (text : String) : KeyM α := throw (.message text)

def deref (key : Option ApiKey) : KeyM ApiKey :=
  match key with
  | none => throw .nilDereference
  | some key => pure key

def request (q : KeyRequest) : KeyM (KeyValue q) :=
  ExceptT.mk ((Program.send q).bind fun r => .done (r.mapError .message))

/-- An error of a step of the call. -/
def wrapped {α : Type} (op : String) (x : KeyM α) : KeyM α :=
  ExceptT.mk (x.run.bind fun r => .done (r.mapError (KeyError.wrap op)))

/-- The error of a step as a value. -/
def outcome {α : Type} : Except KeyError α → Except KeyError (Except String α)
  | .ok a => .ok (.ok a)
  | .error (.message text) => .ok (.error text)
  | .error .nilDereference => .error .nilDereference

def attempt {α : Type} (x : KeyM α) : KeyM (Except String α) :=
  ExceptT.mk (x.run.bind fun r => .done (outcome r))

/-- The encryption of keys. -/
structure Box where
  encrypt : String → Except String (String × String)
  decrypt : String → String → String → Except String String
  version : String
  fingerprint : String → String

/-- What a call brings along. -/
structure KeyCallEnv where
  newID : String
  now : Time := 0
  box : Option Box := none

namespace Repository

def createKey (env : KeyCallEnv) (key : ApiKey) : KeyM ApiKey := do
  let key := { key with
    id := if key.id = "" then env.newID else key.id
    createdAt := if key.createdAt = 0 then env.now else key.createdAt
    updatedAt := env.now }
  request (.insert key)
  pure key

def updateKeySecret (env : KeyCallEnv) (key : Option ApiKey) : KeyM Unit :=
  if key.isNone then pure ()
  else do
    let key ← deref key
    if key.id = "" then pure () else request (.updateSecret key env.now)

def getKeyByID (id : String) : KeyM (Option ApiKey) := request (.find id)

def deleteKey (id : String) : KeyM Bool := request (.delete id)

def selectKey (env : KeyCallEnv) (id : String) (created : Bool) : KeyM (Option ApiKey) := do
  request (.clearSelected env.now id created)
  let matched : Bool ← request (.setSelected id env.now)
  if !matched then pure none else getKeyByID id

def updateKeyStatus (env : KeyCallEnv) (id : String) (status : ApiKeyStatus) (message : String) :
    KeyM (Option ApiKey) := do
  let matched : Bool ← request (.updateStatus id status message env.now)
  if !matched then pure none else getKeyByID id

end Repository

/-! ## The service -/

/-- The last bytes of a text, where U+FFFD stands for those of a rune that is cut. -/
def lastBytes (n : ℕ) (s : String) : String := String.ofList (takeBytes n s.toList.reverse).reverse

def maskKey (value : String) : String :=
  let value := trimSpace value
  if value = "" then ""
  else if value.utf8ByteSize ≤ 8 then String.ofList (List.replicate value.utf8ByteSize '*')
  else String.ofList (takeBytes 4 value.toList) ++ "..." ++ lastBytes 4 value

def defaultModelForProvider (provider model : String) : String :=
  if trimSpace model ≠ "" then trimSpace model
  else if provider = "groq" then "openai/gpt-oss-120b"
  else if provider = "gemini" then "gemini-2.0-flash"
  else trimSpace model

def defaultMaxTokens (value : ℤ) (provider : String) : ℤ :=
  if 0 < value then value else if provider = "groq" then 4096 else 2048

def defaultTemperature (value : Float64) (provider : String) : Float64 :=
  if 0 < value then value else if provider = "groq" then Float64.ofLen 1 else ⟨roundFloat64 (7 / 10)⟩

def defaultDailyQuota (value : ℤ) : ℤ := if 0 < value then value else 1000

def validateSupportedProvider (provider : String) : KeyM Unit :=
  if provider = "groq" ∨ provider = "gemini" then pure ()
  else if provider = "openai" ∨ provider = "claude" then
    fail (provider ++ " provider is not wired for AI Content yet")
  else fail ("unsupported provider " ++ provider.quote)

def aiConfigFromKey (key : ApiKey) : AiConfig :=
  if key.provider = "groq" then
    { provider := "groq", apiKey := key.key, model := trimSpace key.model
      maxCompletionTokens := key.maxTokensPerRequest, temperature := key.defaultTemperature }
  else if key.provider = "gemini" then
    { provider := "gemini", apiKey := key.key, model := trimSpace key.model }
  else {}

def encryptKeyForStorage (env : KeyCallEnv) (key : Option ApiKey) : KeyM (Option ApiKey) :=
  if key.isNone then pure none
  else do
    let key ← deref key
    let plain := trimSpace key.key
    if plain = "" then fail "key is required"
    else
      match env.box with
      | none => fail "ai api key encryption is not configured"
      | some box =>
        match box.encrypt plain with
        | .error e => fail ("ai keys encrypt: " ++ e)
        | .ok (ciphertext, nonce) =>
          pure (some { key with
            key := "", encryptedKey := ciphertext, keyNonce := nonce, keyVersion := box.version
            keyFingerprint := box.fingerprint plain, maskedKeyPreview := maskKey plain })

/-- A key that was stored in the clear is encrypted in the database. -/
def migrateKey (env : KeyCallEnv) (key : Option ApiKey) (plain : String) : KeyM (Option ApiKey) :=
  if env.box.isNone then fail "ai api key encryption is not configured"
  else do
    let key ← encryptKeyForStorage env key
    wrapped "ai keys migrate raw key" (Repository.updateKeySecret env key)
    let key ← deref key
    pure (some { key with key := plain })

/-- A key is decrypted, and its preview and fingerprint are filled in where they are missing. -/
def decryptKey (env : KeyCallEnv) (key : ApiKey) : KeyM (Option ApiKey) :=
  match env.box with
  | none => fail "ai api key encryption is not configured"
  | some box =>
    match box.decrypt key.encryptedKey key.keyNonce key.keyVersion with
    | .error e => fail ("ai keys decrypt: " ++ e)
    | .ok plain =>
      let decrypted := { key with key := plain }
      if trimSpace key.maskedKeyPreview = "" ∨ trimSpace key.keyFingerprint = "" then do
        let filled := { decrypted with maskedKeyPreview := maskKey plain, keyFingerprint := box.fingerprint plain }
        wrapped "ai keys backfill secret metadata" (Repository.updateKeySecret env (some filled))
        pure (some filled)
      else pure (some decrypted)

def prepareKeyForRuntime (env : KeyCallEnv) (key : Option ApiKey) : KeyM (Option ApiKey) :=
  if key.isNone then pure none
  else do
    let k ← deref key
    if trimSpace k.key ≠ "" then
      if trimSpace k.encryptedKey = "" then migrateKey env key k.key else pure key
    else if trimSpace k.encryptedKey = "" then fail "ai api key encryption is not configured"
    else decryptKey env k

def loadKey (env : KeyCallEnv) (id : String) : KeyM (Option ApiKey) :=
  if trimSpace id = "" then fail "id is required"
  else do
    let key ← wrapped "ai keys get" (Repository.getKeyByID (trimSpace id))
    if key.isNone then fail "ai api key not found" else prepareKeyForRuntime env key

class KeyLibrary where
  /-- `unicode.ToUpper`. -/
  toUpper : Char → Char

/-- `strings.ToUpper`. -/
def toUpper [KeyLibrary] (s : String) : String := String.ofList (s.toList.map KeyLibrary.toUpper)

section Service

variable [Library]

def normalizeProvider (provider : String) : String := toLower (trimSpace provider)

/-- The provider is asked for a sentence, and once more where it answers with nothing. -/
def testAPIKey (key : Option ApiKey) : KeyM Unit :=
  if key.isNone then fail "key is required"
  else do
    let key ← deref key
    let provider := normalizeProvider key.provider
    validateSupportedProvider provider
    let testKey : ApiKey :=
      { key with
        provider := provider, model := defaultModelForProvider provider key.model, maxTokensPerRequest := 128
        defaultTemperature := defaultTemperature key.defaultTemperature provider }
    let cfg := aiConfigFromKey testKey
    if trimSpace cfg.apiKey = "" then fail (provider ++ " API key is empty")
    else
      let first ← attempt (request (.generateText cfg
        "Write one short plain-text sentence confirming that the AI provider connection works. No markdown."))
      match first with
      | .ok _ => pure ()
      | .error e =>
        if !contains (toLower e) "empty content" then fail e
        else request (.generateText (aiConfigFromKey { testKey with maxTokensPerRequest := 256 })
          "Generate a concise Vietnamese sentence about education. Return only the sentence.")

structure APIKeyResponse where
  id : String := ""
  label : String := ""
  projectID : String := ""
  maskedKey : String := ""
  key : String := ""
  provider : String := ""
  type : String := ""
  status : Option ApiKeyStatus := none
  selected : Bool := false
  model : String := ""
  maxTokensPerRequest : ℤ := 0
  defaultTemperature : Float64 := 0
  todayUsage : ℤ := 0
  maxDailyQuota : ℤ := 0
  usageCount : ℤ := 0
  lastUsedAt : Option Time := none
  lastTestedAt : Option Time := none
  cooldownUntil : Option Time := none
  lastErrorMessage : String := ""
  createdAt : Time := 0
  updatedAt : Time := 0

def apiKeyResponse (key : Option ApiKey) : KeyM APIKeyResponse :=
  if key.isNone then pure {}
  else do
    let key ← deref key
    let masked := if trimSpace key.maskedKeyPreview = "" then maskKey key.key else trimSpace key.maskedKeyPreview
    pure
      { id := key.id, label := key.label, projectID := key.projectID, maskedKey := masked, key := masked
        provider := key.provider, type := key.type, status := some key.status, selected := key.selected
        model := key.model, maxTokensPerRequest := key.maxTokensPerRequest
        defaultTemperature := key.defaultTemperature, todayUsage := key.todayUsage
        maxDailyQuota := key.maxDailyQuota, usageCount := key.usageCount, lastUsedAt := key.lastUsedAt
        lastTestedAt := key.lastTestedAt, cooldownUntil := key.cooldownUntil
        lastErrorMessage := key.lastErrorMessage, createdAt := key.createdAt, updatedAt := key.updatedAt }

/-- The audit log reads the key's fields. -/
def auditAIKeyEvent (key : Option ApiKey) : KeyM Unit :=
  if key.isNone then pure ()
  else do
    let _ ← deref key
    pure ()

structure CreateAPIKeyRequest where
  key : String
  label : String := ""
  projectID : String := ""
  provider : String
  type : String := ""
  model : String := ""
  maxTokensPerRequest : ℤ := 0
  defaultTemperature : Float64 := 0
  maxDailyQuota : ℤ := 0
  selected : Bool := false

def newKey [KeyLibrary] (env : KeyCallEnv) (req : CreateAPIKeyRequest) (ownerID : String) : ApiKey :=
  let provider := normalizeProvider req.provider
  let label := trimSpace req.label
  { label := if label = "" then toUpper provider ++ " " ++ maskKey (trimSpace req.key) else label
    projectID := trimSpace req.projectID
    key := trimSpace req.key
    provider := provider
    type := if req.type = "" then "shared" else req.type
    ownerID := ownerID
    selected := req.selected
    model := defaultModelForProvider provider req.model
    maxTokensPerRequest := defaultMaxTokens req.maxTokensPerRequest provider
    defaultTemperature := defaultTemperature req.defaultTemperature provider
    maxDailyQuota := defaultDailyQuota req.maxDailyQuota
    createdAt := env.now
    updatedAt := env.now }

namespace Service

/-- The created key, selected where the request asks for it. -/
def selectCreated (env : KeyCallEnv) (item : ApiKey) : KeyM (Option ApiKey) :=
  if item.selected then wrapped "ai keys select created key" (Repository.selectKey env item.id true)
  else pure (some item)

def insertKey (env : KeyCallEnv) (item : ApiKey) : KeyM (Option ApiKey) := do
  let item ← wrapped "ai keys create" (Repository.createKey env item)
  selectCreated env item

def createKey [KeyLibrary] (env : KeyCallEnv) (req : CreateAPIKeyRequest) (ownerID : String) : KeyM APIKeyResponse :=
  if trimSpace req.key = "" then fail "key is required"
  else do
    validateSupportedProvider (normalizeProvider req.provider)
    if req.type ≠ "" ∧ req.type ≠ "shared" ∧ req.type ≠ "private" then fail "type must be shared or private"
    else
      let item := newKey env req ownerID
      wrapped "api key test failed" (testAPIKey (some item))
      let item ← encryptKeyForStorage env (some { item with lastTestedAt := some env.now })
      let item ← deref item
      let created ← insertKey env item
      auditAIKeyEvent created
      apiKeyResponse created

def deleteKey (id : String) : KeyM Unit := do
  let deleted ← wrapped "ai keys delete" (Repository.deleteKey (trimSpace id))
  if !deleted then fail "ai api key not found"
  else auditAIKeyEvent (some { id := trimSpace id })

/-- The status of a test. -/
def testStatus : Except String Unit → ApiKeyStatus × String
  | .ok _ => (.active, "")
  | .error e => (.error, e)

def testKey (env : KeyCallEnv) (id : String) : KeyM APIKeyResponse := do
  let key ← loadKey env id
  let tested ← attempt (testAPIKey key)
  let key ← deref key
  let updated ← wrapped "ai keys update status"
    (Repository.updateKeyStatus env key.id (testStatus tested).1 (testStatus tested).2)
  auditAIKeyEvent updated
  apiKeyResponse updated

/-- The key is selected, and the selected key is returned. -/
def selectLoaded (env : KeyCallEnv) (id : String) : KeyM APIKeyResponse := do
  let selected ← wrapped "ai keys select" (Repository.selectKey env id false)
  if selected.isNone then fail "ai generation job not found"
  else do
    auditAIKeyEvent selected
    apiKeyResponse selected

def selectKey (env : KeyCallEnv) (id : String) : KeyM APIKeyResponse := do
  let loaded ← loadKey env id
  let key ← deref loaded
  if key.status ≠ .active then
    let tested ← attempt (testAPIKey loaded)
    match tested with
    | .ok _ => selectLoaded env key.id
    | .error e => do
      let _ ← attempt (Repository.updateKeyStatus env key.id .error e)
      fail ("api key test failed: " ++ e)
  else selectLoaded env key.id

def reactivateKey (env : KeyCallEnv) (id : String) : KeyM APIKeyResponse := do
  let loaded ← loadKey env id
  let tested ← attempt (testAPIKey loaded)
  let key ← deref loaded
  match tested with
  | .error e => do
    let updated ← Repository.updateKeyStatus env key.id .error e
    auditAIKeyEvent updated
    let _ ← apiKeyResponse updated
    fail ("api key test failed: " ++ e)
  | .ok _ => do
    let updated ← wrapped "ai keys reactivate" (Repository.updateKeyStatus env key.id .active "")
    auditAIKeyEvent updated
    apiKeyResponse updated

end Service

/-! ## Calls -/

inductive KeyCall where
  | createKey (req : CreateAPIKeyRequest) (ownerID : String)
  | selectKey (id : String)
  | testKey (id : String)
  | reactivateKey (id : String)
  | deleteKey (id : String)

/-- A call answers with a key or with nothing. -/
def KeyCall.program [KeyLibrary] (env : KeyCallEnv) (call : KeyCall) : KeyM (Option APIKeyResponse) :=
  match call with
  | .createKey req ownerID => some <$> Service.createKey env req ownerID
  | .selectKey id => some <$> Service.selectKey env id
  | .testKey id => some <$> Service.testKey env id
  | .reactivateKey id => some <$> Service.reactivateKey env id
  | .deleteKey id => (fun _ => none) <$> Service.deleteKey id

end Service

end ErgGo.AiContent
