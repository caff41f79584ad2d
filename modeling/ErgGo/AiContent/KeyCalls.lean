import ErgGo.AiContent.ApiKeys

/-!
# Stages of the calls on keys

A selection is made in two or three requests: a key that is created selected is inserted, the
selection is cleared, and the key is set. No call sends another request in between, and no call
dereferences a key that was not found.
-/

namespace ErgGo.AiContent
open Go Documents Concurrent

/-- Where a call stands: it has inserted a selected key and is to clear the selection, or it has
cleared the selection and is to set it. -/
inductive Stage where
  | idle
  | created (id : String)
  | cleared (id : String)

def Stage.clearing? : Stage → Option String
  | idle => none
  | created _ => none
  | cleared id => some id

def KeyRequest.stage : KeyRequest → Stage
  | .clearSelected _ id true => .created id
  | .setSelected id _ => .cleared id
  | _ => .idle

abbrev KeyProgram (α : Type) := Program KeyRequest KeyReply α

namespace KeyProgram

variable {α : Type}

def stage : KeyProgram α → Stage
  | .done _ => .idle
  | .request q _ => q.stage

def next : KeyProgram α → Option KeyRequest
  | .done _ => none
  | .request q _ => some q

end KeyProgram

/-! ## The stages of a call -/

namespace KeyProgram

/-- Where the call may stand after a reply. -/
def After : (q : KeyRequest) → KeyReply q → Stage → Prop
  | .insert key, .ok _, stage => stage = if key.selected then .created key.id else .idle
  | .clearSelected _ next _, .ok _, stage => stage = .cleared next
  | _, _, stage => stage = .idle

/-- A selection is not interrupted by other requests of its call. -/
def Orderly {α : Type} : KeyProgram α → Prop
  | .done _ => True
  | .request q k => ∀ r, After q r (stage (k r)) ∧ Orderly (k r)

/-- Outside of a selection. -/
def Calm {α : Type} (p : KeyProgram α) : Prop := stage p = .idle ∧ Orderly p

variable {α β : Type}

lemma stage_bind (p : KeyProgram α) {f : α → KeyProgram β} (hf : ∀ a, stage (f a) = .idle) :
    stage (p.bind f) = stage p := by
  cases p with
  | done a => exact hf a
  | request q k => rfl

lemma Orderly.bind {p : KeyProgram α} (hp : Orderly p) {f : α → KeyProgram β} (hf : ∀ a, Calm (f a)) :
    Orderly (p.bind f) := by
  induction p with
  | done a => exact (hf a).2
  | request q k ih =>
    intro r
    obtain ⟨hafter, hrest⟩ := hp r
    refine ⟨?_, ih r hrest⟩
    have hstage : stage ((k r).bind f) = stage (k r) := stage_bind _ fun a => (hf a).1
    exact hstage.symm ▸ hafter

lemma Calm.bind {p : KeyProgram α} (hp : Calm p) {f : α → KeyProgram β} (hf : ∀ a, Calm (f a)) : Calm (p.bind f) :=
  ⟨(stage_bind p fun a => (hf a).1).trans hp.1, hp.2.bind hf⟩

lemma calm_done (a : α) : Calm (.done a) := ⟨rfl, trivial⟩

lemma calm_run_bind {x : KeyM α} {f : α → KeyM β} (hx : Calm x.run) (hf : ∀ a, Calm (f a).run) :
    Calm (x >>= f).run := by
  rw [Program.run_bind]
  refine hx.bind fun r => ?_
  cases r with
  | error e => exact calm_done _
  | ok a => exact hf a

lemma calm_map {x : KeyM α} (hx : Calm x.run) (f : α → β) : Calm (f <$> x).run :=
  calm_run_bind hx fun _ => calm_done _

lemma calm_ite {c : Prop} [Decidable c] {x y : KeyM α} (hx : Calm x.run) (hy : Calm y.run) :
    Calm (if c then x else y).run := by
  by_cases hc : c
  · rw [if_pos hc]
    exact hx
  · rw [if_neg hc]
    exact hy

lemma calm_fail (text : String) : Calm (fail text : KeyM α).run := calm_done _

lemma calm_wrapped {x : KeyM α} (op : String) (hx : Calm x.run) : Calm (wrapped op x).run :=
  hx.bind fun _ => calm_done _

lemma calm_attempt {x : KeyM α} (hx : Calm x.run) : Calm (attempt x).run := hx.bind fun _ => calm_done _

lemma calm_deref (key : Option ApiKey) : Calm (deref key).run := by
  cases key <;> exact calm_done _

/-- A request that is no part of a selection. -/
lemma calm_request {q : KeyRequest} (hstage : q.stage = .idle) (hafter : ∀ r, After q r .idle) : Calm (request q).run :=
  ⟨hstage, fun r => ⟨hafter r, trivial⟩⟩

lemma calm_getKeyByID (id : String) : Calm (Repository.getKeyByID id).run := calm_request rfl fun _ => rfl

lemma calm_updateKeySecret (env : KeyCallEnv) (key : Option ApiKey) : Calm (Repository.updateKeySecret env key).run :=
  calm_ite (calm_done _) (calm_run_bind (calm_deref key) fun _ =>
    calm_ite (calm_done _) (calm_request rfl fun _ => rfl))

lemma calm_updateKeyStatus (env : KeyCallEnv) (id : String) (status : ApiKeyStatus) (message : String) :
    Calm (Repository.updateKeyStatus env id status message).run :=
  calm_run_bind (calm_request rfl fun _ => rfl) fun _ => calm_ite (calm_done _) (calm_getKeyByID id)

/-- A selection, which may have begun with the insertion of its key. -/
lemma orderly_selectKey (env : KeyCallEnv) (id : String) (created : Bool) :
    Orderly (Repository.selectKey env id created).run := by
  intro r
  cases r with
  | error e => exact ⟨rfl, trivial⟩
  | ok _ =>
    refine ⟨rfl, fun r => ?_⟩
    cases r with
    | error e => exact ⟨rfl, trivial⟩
    | ok found =>
      cases found with
      | false => exact ⟨rfl, trivial⟩
      | true => exact calm_getKeyByID id

/-- For an inserted key that is selected the selection is cleared next. -/
lemma orderly_selectCreated (env : KeyCallEnv) (item : ApiKey) :
    stage (Service.selectCreated env item).run = (if item.selected then .created item.id else .idle) ∧
      Orderly (Service.selectCreated env item).run := by
  unfold Service.selectCreated
  by_cases hselected : item.selected
  · rw [if_pos hselected, if_pos hselected]
    exact ⟨rfl, (orderly_selectKey env item.id true).bind fun _ => calm_done _⟩
  · rw [if_neg hselected, if_neg hselected]
    exact calm_done _

lemma calm_insertKey (env : KeyCallEnv) (item : ApiKey) : Calm (Service.insertKey env item).run := by
  refine ⟨rfl, fun r => ?_⟩
  cases r with
  | error e => exact ⟨rfl, trivial⟩
  | ok _ => exact orderly_selectCreated env _

lemma calm_encryptKeyForStorage (env : KeyCallEnv) (key : Option ApiKey) : Calm (encryptKeyForStorage env key).run := by
  refine calm_ite (calm_done _) (calm_run_bind (calm_deref key) fun key => calm_ite (calm_fail _) ?_)
  cases env.box with
  | none => exact calm_fail _
  | some box =>
    dsimp only
    cases box.encrypt (trimSpace key.key) with
    | error e => exact calm_fail _
    | ok encrypted => exact calm_done _

lemma calm_migrateKey (env : KeyCallEnv) (key : Option ApiKey) (plain : String) : Calm (migrateKey env key plain).run :=
  calm_ite (calm_fail _) (calm_run_bind (calm_encryptKeyForStorage env key) fun key =>
    calm_run_bind (calm_wrapped _ (calm_updateKeySecret env key)) fun _ =>
      calm_run_bind (calm_deref key) fun _ => calm_done _)

lemma calm_decryptKey (env : KeyCallEnv) (key : ApiKey) : Calm (decryptKey env key).run := by
  unfold decryptKey
  cases env.box with
  | none => exact calm_fail _
  | some box =>
    dsimp only
    cases box.decrypt key.encryptedKey key.keyNonce key.keyVersion with
    | error e => exact calm_fail _
    | ok plain =>
      exact calm_ite (calm_run_bind (calm_wrapped _ (calm_updateKeySecret env _)) fun _ => calm_done _) (calm_done _)

lemma calm_prepareKeyForRuntime (env : KeyCallEnv) (key : Option ApiKey) : Calm (prepareKeyForRuntime env key).run :=
  calm_ite (calm_done _) (calm_run_bind (calm_deref key) fun k =>
    calm_ite (calm_ite (calm_migrateKey env key k.key) (calm_done _))
      (calm_ite (calm_fail _) (calm_decryptKey env k)))

lemma calm_loadKey (env : KeyCallEnv) (id : String) : Calm (loadKey env id).run :=
  calm_ite (calm_fail _) (calm_run_bind (calm_wrapped _ (calm_getKeyByID _)) fun key =>
    calm_ite (calm_fail _) (calm_prepareKeyForRuntime env key))

lemma calm_validateSupportedProvider (provider : String) : Calm (validateSupportedProvider provider).run :=
  calm_ite (calm_done _) (calm_ite (calm_fail _) (calm_fail _))

lemma calm_auditAIKeyEvent (key : Option ApiKey) : Calm (auditAIKeyEvent key).run :=
  calm_ite (calm_done _) (calm_run_bind (calm_deref key) fun _ => calm_done _)

lemma calm_apiKeyResponse (key : Option ApiKey) : Calm (apiKeyResponse key).run :=
  calm_ite (calm_done _) (calm_run_bind (calm_deref key) fun _ => calm_done _)

/-- The end of a call. -/
lemma calm_answer (key : Option ApiKey) : Calm (auditAIKeyEvent key >>= fun _ => apiKeyResponse key).run :=
  calm_run_bind (calm_auditAIKeyEvent key) fun _ => calm_apiKeyResponse key

lemma calm_deleteKey (id : String) : Calm (Service.deleteKey id).run :=
  calm_run_bind (calm_wrapped _ (calm_request rfl fun _ => rfl)) fun _ =>
    calm_ite (calm_fail _) (calm_auditAIKeyEvent _)

lemma calm_selectLoaded (env : KeyCallEnv) (id : String) : Calm (Service.selectLoaded env id).run := by
  refine ⟨rfl, ?_⟩
  refine Orderly.bind (Orderly.bind (orderly_selectKey env id false) fun _ => calm_done _) fun r => ?_
  cases r with
  | error e => exact calm_done _
  | ok selected => exact calm_ite (calm_fail _) (calm_answer selected)

section Calls

variable [Library]

lemma calm_testAPIKey (key : Option ApiKey) : Calm (testAPIKey key).run := by
  refine calm_ite (calm_fail _) (calm_run_bind (calm_deref key) fun key =>
    calm_run_bind (calm_validateSupportedProvider _) fun _ => calm_ite (calm_fail _)
      (calm_run_bind (calm_attempt (calm_request rfl fun _ => rfl)) fun first => ?_))
  cases first with
  | ok _ => exact calm_done _
  | error e => exact calm_ite (calm_fail _) (calm_request rfl fun _ => rfl)

lemma calm_createKey [KeyLibrary] (env : KeyCallEnv) (req : CreateAPIKeyRequest) (ownerID : String) :
    Calm (Service.createKey env req ownerID).run :=
  calm_ite (calm_fail _) (calm_run_bind (calm_validateSupportedProvider _) fun _ => calm_ite (calm_fail _)
    (calm_run_bind (calm_wrapped _ (calm_testAPIKey _)) fun _ =>
      calm_run_bind (calm_encryptKeyForStorage env _) fun item => calm_run_bind (calm_deref item) fun item =>
        calm_run_bind (calm_insertKey env item) fun created => calm_answer created))

lemma calm_testKey (env : KeyCallEnv) (id : String) : Calm (Service.testKey env id).run :=
  calm_run_bind (calm_loadKey env id) fun key => calm_run_bind (calm_attempt (calm_testAPIKey key)) fun _ =>
    calm_run_bind (calm_deref key) fun _ =>
      calm_run_bind (calm_wrapped _ (calm_updateKeyStatus env _ _ _)) fun updated => calm_answer updated

lemma calm_selectKey (env : KeyCallEnv) (id : String) : Calm (Service.selectKey env id).run := by
  refine calm_run_bind (calm_loadKey env id) fun loaded => calm_run_bind (calm_deref loaded) fun key =>
    calm_ite (calm_run_bind (calm_attempt (calm_testAPIKey loaded)) fun tested => ?_) (calm_selectLoaded env key.id)
  cases tested with
  | ok _ => exact calm_selectLoaded env key.id
  | error e => exact calm_run_bind (calm_attempt (calm_updateKeyStatus env _ _ _)) fun _ => calm_fail _

lemma calm_reactivateKey (env : KeyCallEnv) (id : String) : Calm (Service.reactivateKey env id).run := by
  refine calm_run_bind (calm_loadKey env id) fun loaded =>
    calm_run_bind (calm_attempt (calm_testAPIKey loaded)) fun tested => calm_run_bind (calm_deref loaded) fun key => ?_
  cases tested with
  | error e =>
    exact calm_run_bind (calm_updateKeyStatus env _ _ _) fun updated => calm_run_bind (calm_auditAIKeyEvent updated)
      fun _ => calm_run_bind (calm_apiKeyResponse updated) fun _ => calm_fail _
  | ok _ => exact calm_run_bind (calm_wrapped _ (calm_updateKeyStatus env _ _ _)) fun updated => calm_answer updated

lemma calm_program [KeyLibrary] (env : KeyCallEnv) (call : KeyCall) : Calm (call.program env).run := by
  cases call with
  | createKey req ownerID => exact calm_map (calm_createKey env req ownerID) _
  | selectKey id => exact calm_map (calm_selectKey env id) _
  | testKey id => exact calm_map (calm_testKey env id) _
  | reactivateKey id => exact calm_map (calm_reactivateKey env id) _
  | deleteKey id => exact calm_map (calm_deleteKey id) _

end Calls

end KeyProgram

/-! ## Dereferences -/

/-- A result that satisfies `P`, or an error other than a nil dereference. -/
def Guarded {α : Type} (P : α → Prop) : Except KeyError α → Prop
  | .ok a => P a
  | .error e => e ≠ .nilDereference

@[irreducible] def Yields {α : Type} (P : α → Prop) (x : KeyM α) : Prop := x.run.Returns (Guarded P)

namespace Yields

variable {α β : Type} {P : α → Prop} {Q : β → Prop}

lemma returns {x : KeyM α} (hx : Yields P x) : x.run.Returns (Guarded P) := by
  unfold Yields at hx
  exact hx

lemma pure {a : α} (h : P a) : Yields P (Pure.pure a) := by
  unfold Yields
  exact h

lemma fail (text : String) : Yields P (fail text) := by
  unfold Yields
  intro h
  cases h

lemma bind {x : KeyM α} {f : α → KeyM β} (hx : Yields P x) (hf : ∀ a, P a → Yields Q (f a)) :
    Yields Q (x >>= f) := by
  unfold Yields
  rw [Program.run_bind]
  refine hx.returns.seq fun r hr => ?_
  cases r with
  | error e => exact hr
  | ok a => exact (hf a hr).returns

lemma map {x : KeyM α} (hx : Yields P x) {f : α → β} (hf : ∀ a, P a → Q (f a)) : Yields Q (f <$> x) :=
  hx.bind fun a ha => pure (hf a ha)

lemma ite {c : Prop} [Decidable c] {x y : KeyM α} (hx : c → Yields P x) (hy : ¬c → Yields P y) :
    Yields P (if c then x else y) := by
  by_cases hc : c
  · rw [if_pos hc]
    exact hx hc
  · rw [if_neg hc]
    exact hy hc

lemma request (q : KeyRequest) : Yields (fun _ => True) (request q) := by
  unfold Yields
  intro r
  cases r with
  | error e =>
    intro h
    cases h
  | ok a => trivial

lemma wrapped {x : KeyM α} (op : String) (hx : Yields P x) : Yields P (wrapped op x) := by
  unfold Yields
  refine hx.returns.seq fun r hr => ?_
  cases r with
  | ok a => exact hr
  | error e =>
    cases e with
    | message text =>
      intro h
      cases h
    | nilDereference => exact absurd rfl hr

lemma attempt {x : KeyM α} (hx : Yields P x) : Yields (fun _ => True) (attempt x) := by
  unfold Yields
  refine hx.returns.seq fun r hr => ?_
  cases r with
  | ok a => trivial
  | error e =>
    cases e with
    | message text => trivial
    | nilDereference => exact absurd rfl hr

end Yields

/-- A key that is there can be dereferenced. -/
lemma yields_deref {key : Option ApiKey} (h : key.isSome) : Yields (fun k => key = some k) (deref key) := by
  obtain ⟨k, rfl⟩ := Option.isSome_iff_exists.mp h
  exact .pure rfl

/-- A key that is looked at before it is dereferenced. -/
lemma yields_unless_none {α : Type} {P : α → Prop} {key : Option ApiKey} {x : KeyM α} {f : ApiKey → KeyM α}
    (hx : Yields P x) (hf : ∀ k, key = some k → Yields P (f k)) :
    Yields P (if key.isNone then x else deref key >>= f) := by
  cases key with
  | none => exact hx
  | some k => exact hf k rfl

section Pointers

variable (env : KeyCallEnv)

lemma yields_getKeyByID (id : String) : Yields (fun _ => True) (Repository.getKeyByID id) :=
  .request (.find id)

lemma yields_updateKeySecret (key : Option ApiKey) : Yields (fun _ => True) (Repository.updateKeySecret env key) :=
  yields_unless_none (.pure trivial) fun key _ =>
    .ite (fun _ => .pure trivial) fun _ => .request (.updateSecret key env.now)

lemma yields_updateKeyStatus (id : String) (status : ApiKeyStatus) (message : String) :
    Yields (fun _ => True) (Repository.updateKeyStatus env id status message) :=
  (Yields.request _).bind fun _ _ => .ite (fun _ => .pure trivial) fun _ => yields_getKeyByID id

lemma yields_repository_selectKey (id : String) (created : Bool) :
    Yields (fun _ => True) (Repository.selectKey env id created) :=
  (Yields.request _).bind fun _ _ => (Yields.request _).bind fun _ _ =>
    .ite (fun _ => .pure trivial) fun _ => yields_getKeyByID id

lemma yields_encryptKeyForStorage {key : Option ApiKey} (h : key.isSome) :
    Yields (fun encrypted => encrypted.isSome) (encryptKeyForStorage env key) := by
  obtain ⟨k, rfl⟩ := Option.isSome_iff_exists.mp h
  refine .ite (fun hnone => absurd hnone Bool.false_ne_true) fun _ => (yields_deref rfl).bind fun k _ =>
    .ite (fun _ => .fail _) fun _ => ?_
  cases env.box with
  | none => exact .fail _
  | some box =>
    dsimp only
    cases box.encrypt (trimSpace k.key) with
    | error e => exact .fail _
    | ok encrypted => exact .pure rfl

lemma yields_migrateKey {key : Option ApiKey} (h : key.isSome) (plain : String) :
    Yields (fun migrated => migrated.isSome) (migrateKey env key plain) :=
  .ite (fun _ => .fail _) fun _ => (yields_encryptKeyForStorage env h).bind fun key hkey =>
    ((yields_updateKeySecret env key).wrapped _).bind fun _ _ => (yields_deref hkey).bind fun _ _ => .pure rfl

lemma yields_decryptKey (key : ApiKey) : Yields (fun decrypted => decrypted.isSome) (decryptKey env key) := by
  unfold decryptKey
  cases env.box with
  | none => exact .fail _
  | some box =>
    dsimp only
    cases box.decrypt key.encryptedKey key.keyNonce key.keyVersion with
    | error e => exact .fail _
    | ok plain =>
      exact .ite (fun _ => ((yields_updateKeySecret env _).wrapped _).bind fun _ _ => .pure rfl) fun _ => .pure rfl

lemma yields_prepareKeyForRuntime {key : Option ApiKey} (h : key.isSome) :
    Yields (fun prepared => prepared.isSome) (prepareKeyForRuntime env key) := by
  obtain ⟨k, rfl⟩ := Option.isSome_iff_exists.mp h
  exact .ite (fun hnone => absurd hnone Bool.false_ne_true) fun _ => (yields_deref rfl).bind fun k _ =>
    .ite (fun _ => .ite (fun _ => yields_migrateKey env rfl k.key) fun _ => .pure rfl) fun _ =>
      .ite (fun _ => .fail _) fun _ => yields_decryptKey env k

lemma yields_loadKey (id : String) : Yields (fun key => key.isSome) (loadKey env id) := by
  refine .ite (fun _ => .fail _) fun _ => ((yields_getKeyByID _).wrapped _).bind fun key _ => ?_
  cases key with
  | none => exact .fail _
  | some k => exact @yields_prepareKeyForRuntime env (some k) rfl

lemma yields_validateSupportedProvider (provider : String) :
    Yields (fun _ => True) (validateSupportedProvider provider) :=
  .ite (fun _ => .pure trivial) fun _ => .ite (fun _ => .fail _) fun _ => .fail _

lemma yields_auditAIKeyEvent (key : Option ApiKey) : Yields (fun _ => True) (auditAIKeyEvent key) :=
  yields_unless_none (.pure trivial) fun _ _ => .pure trivial

lemma yields_apiKeyResponse (key : Option ApiKey) : Yields (fun _ => True) (apiKeyResponse key) :=
  yields_unless_none (.pure trivial) fun _ _ => .pure trivial

/-- The end of a call, where the repository may have returned nil. -/
lemma yields_answer (key : Option ApiKey) :
    Yields (fun _ => True) (auditAIKeyEvent key >>= fun _ => apiKeyResponse key) :=
  (yields_auditAIKeyEvent key).bind fun _ _ => yields_apiKeyResponse key

lemma yields_insertKey (item : ApiKey) : Yields (fun _ => True) (Service.insertKey env item) := by
  have hcreate : Yields (fun _ => True) (Repository.createKey env item) :=
    (Yields.request _).bind fun _ _ => .pure trivial
  exact (hcreate.wrapped _).bind fun item _ =>
    .ite (fun _ => (yields_repository_selectKey env item.id true).wrapped _) fun _ => .pure trivial

lemma yields_deleteKey (id : String) : Yields (fun _ => True) (Service.deleteKey id) :=
  ((Yields.request (.delete (trimSpace id))).wrapped _).bind fun _ _ =>
    .ite (fun _ => .fail _) fun _ => yields_auditAIKeyEvent _

lemma yields_selectLoaded (id : String) : Yields (fun _ => True) (Service.selectLoaded env id) :=
  ((yields_repository_selectKey env id false).wrapped _).bind fun selected _ =>
    .ite (fun _ => .fail _) fun _ => yields_answer selected

variable [Library]

lemma yields_testAPIKey (key : Option ApiKey) : Yields (fun _ => True) (testAPIKey key) := by
  refine yields_unless_none (.fail _) fun key _ => (yields_validateSupportedProvider _).bind fun _ _ =>
    .ite (fun _ => .fail _) fun _ => (Yields.request _).attempt.bind fun first _ => ?_
  cases first with
  | ok _ => exact .pure trivial
  | error e => exact .ite (fun _ => .fail _) fun _ => .request (.generateText _ _)

lemma yields_createKey [KeyLibrary] (req : CreateAPIKeyRequest) (ownerID : String) :
    Yields (fun _ => True) (Service.createKey env req ownerID) :=
  .ite (fun _ => .fail _) fun _ => (yields_validateSupportedProvider _).bind fun _ _ =>
    .ite (fun _ => .fail _) fun _ => ((yields_testAPIKey _).wrapped _).bind fun _ _ =>
      (yields_encryptKeyForStorage env rfl).bind fun _ hitem => (yields_deref hitem).bind fun item _ =>
        (yields_insertKey env item).bind fun created _ => yields_answer created

lemma yields_testKey (id : String) : Yields (fun _ => True) (Service.testKey env id) :=
  (yields_loadKey env id).bind fun key hkey => (yields_testAPIKey key).attempt.bind fun _ _ =>
    (yields_deref hkey).bind fun _ _ =>
      ((yields_updateKeyStatus env _ _ _).wrapped _).bind fun updated _ => yields_answer updated

lemma yields_selectKey (id : String) : Yields (fun _ => True) (Service.selectKey env id) := by
  refine (yields_loadKey env id).bind fun loaded hloaded => (yields_deref hloaded).bind fun key _ =>
    .ite (fun _ => (yields_testAPIKey loaded).attempt.bind fun tested _ => ?_) fun _ => yields_selectLoaded env key.id
  cases tested with
  | ok _ => exact yields_selectLoaded env key.id
  | error e => exact (yields_updateKeyStatus env _ _ _).attempt.bind fun _ _ => .fail _

lemma yields_reactivateKey (id : String) : Yields (fun _ => True) (Service.reactivateKey env id) := by
  refine (yields_loadKey env id).bind fun loaded hloaded => (yields_testAPIKey loaded).attempt.bind fun tested _ =>
    (yields_deref hloaded).bind fun key _ => ?_
  cases tested with
  | error e =>
    exact (yields_updateKeyStatus env _ _ _).bind fun updated _ => (yields_auditAIKeyEvent updated).bind
      fun _ _ => (yields_apiKeyResponse updated).bind fun _ _ => .fail _
  | ok _ => exact ((yields_updateKeyStatus env _ _ _).wrapped _).bind fun updated _ => yields_answer updated

/-- No call dereferences nil. -/
lemma yields_program [KeyLibrary] (call : KeyCall) : Yields (fun _ => True) (call.program env) := by
  cases call with
  | createKey req ownerID => exact (yields_createKey env req ownerID).map fun _ _ => trivial
  | selectKey id => exact (yields_selectKey env id).map fun _ _ => trivial
  | testKey id => exact (yields_testKey env id).map fun _ _ => trivial
  | reactivateKey id => exact (yields_reactivateKey env id).map fun _ _ => trivial
  | deleteKey id => exact (yields_deleteKey id).map fun _ _ => trivial

end Pointers

end ErgGo.AiContent
