import ErgGo.Hoclieu.Operations

/-!
# What the operations of the service change

For each operation the state it is accepted in and the memory it leaves.
-/

namespace ErgGo.Hoclieu
open Go

lemma Memory.setTaxonomySlice_kept (m : Memory) (options : List TaxonomyOption) (kind : TaxonomyKind) :
    (m.setTaxonomySlice options kind).resources = m.resources ∧ (m.setTaxonomySlice options kind).assets = m.assets ∧
      (m.setTaxonomySlice options kind).items = m.items := by
  cases kind <;> exact ⟨rfl, rfl, rfl⟩

variable [Library] [WebLibrary]

namespace Service

variable {env : ServiceEnv} {m : Memory} {id : String}

lemma createResource_eq_ok {req : CreateResourceRequest} {mutation : Mutation ResourceDetail}
    (h : createResource env req m = .ok mutation) :
    ∃ validation, validateSelectedFileTypeMetadata req.selectedFileType req.originalFileName req.detectedMimeType =
        .ok validation ∧
      mutation.memory.resources = m.resources.insert (resourceID (resourceSlug env req)) mutation.result ∧
      mutation.memory.assets = m.assets.insert (primaryAssetID (resourceSlug env req)) (newResourceAsset env req validation) ∧
      mutation.memory.items = (if req.items.isEmpty then m.items else
        m.items.insert (resourceID (resourceSlug env req)) mutation.result.items) ∧
      mutation.result = newResource env req validation mutation.result.items := by
  obtain ⟨validation, hvalidation, h⟩ := except_bind_eq_ok.mp h
  cases h
  exact ⟨validation, hvalidation, rfl, rfl, rfl, rfl⟩

lemma createResource_of_valid {req : CreateResourceRequest} {validation : FileTypeValidationResult}
    (h : validateSelectedFileTypeMetadata req.selectedFileType req.originalFileName req.detectedMimeType = .ok validation)
    (m : Memory) : ∃ mutation, createResource env req m = .ok mutation := by
  unfold createResource
  rw [h]
  exact ⟨_, rfl⟩

lemma updateResource_eq_ok {req : UpdateResourceRequest} {mutation : Mutation ResourceDetail}
    (h : updateResource env id req m = .ok mutation) :
    ∃ resource, m.resources.lookup id = some resource ∧
      mutation.memory.resources = m.resources.insert id mutation.result ∧
      mutation.memory.assets = m.assets ∧ mutation.result.assets = resource.assets ∧
      mutation.result.updatedAt = env.later := by
  unfold updateResource at h
  cases hlookup : m.resources.lookup id with
  | none =>
    rw [hlookup] at h
    cases h
  | some resource =>
    simp only [hlookup] at h
    obtain ⟨metadata, -, h⟩ := except_bind_eq_ok.mp h
    refine ⟨resource, rfl, ?_⟩
    have hassets : (updateResourceFields env.later req
        (applyUpdatedMetadata applyResourceFileTypeMetadata resource metadata)).assets = resource.assets := by
      cases metadata <;> rfl
    cases hitems : req.items with
    | none =>
      rw [hitems] at h
      cases h
      exact ⟨rfl, rfl, hassets, rfl⟩
    | some items =>
      rw [hitems] at h
      cases h
      exact ⟨rfl, rfl, hassets, rfl⟩

omit [Library] [WebLibrary] in
lemma deleteResource_eq_ok {mutation : Mutation Unit} (h : deleteResource id m = .ok mutation) :
    ∃ resource, m.resources.lookup id = some resource ∧
      mutation.memory.resources = m.resources.erase id ∧
      mutation.memory.assets = resource.assets.foldl (fun assets asset => assets.erase asset.id) m.assets := by
  unfold deleteResource at h
  cases hlookup : m.resources.lookup id with
  | none =>
    rw [hlookup] at h
    cases h
  | some resource =>
    rw [hlookup] at h
    cases h
    exact ⟨resource, rfl, rfl, rfl⟩

lemma createAsset_eq_ok {req : CreateAssetRequest} {mutation : Mutation Asset} (h : createAsset env req m = .ok mutation) :
    ∃ validation resource, validateSelectedFileTypeMetadata req.selectedFileType req.originalFileName req.detectedMimeType =
        .ok validation ∧ m.resources.lookup req.resourceID = some resource ∧
      mutation.result.id = nextAssetID req.resourceID m ∧ mutation.memory = { m with
        assets := m.assets.insert (nextAssetID req.resourceID m) (newAsset env req validation (nextAssetID req.resourceID m))
        resources := m.resources.insert req.resourceID
          (withNewAsset env req validation (newAsset env req validation (nextAssetID req.resourceID m)) resource) } := by
  obtain ⟨validation, hvalidation, h⟩ := except_bind_eq_ok.mp h
  cases hlookup : m.resources.lookup req.resourceID with
  | none =>
    rw [hlookup] at h
    cases h
  | some resource =>
    rw [hlookup] at h
    cases h
    exact ⟨validation, resource, hvalidation, rfl, rfl, rfl⟩

lemma createAsset_of_valid {req : CreateAssetRequest} {validation : FileTypeValidationResult}
    (h : validateSelectedFileTypeMetadata req.selectedFileType req.originalFileName req.detectedMimeType = .ok validation)
    {resource : ResourceDetail} (hlookup : m.resources.lookup req.resourceID = some resource) :
    ∃ mutation, createAsset env req m = .ok mutation := by
  unfold createAsset
  rw [h, hlookup]
  exact ⟨_, rfl⟩

lemma updateAsset_eq_ok {req : UpdateAssetRequest} {mutation : Mutation Asset} (h : updateAsset env id req m = .ok mutation) :
    ∃ record updated, m.assets.lookup id = some record ∧ updated.toAsset.id = record.id ∧
      updated.resourceID = record.resourceID ∧ updated.updatedAt = env.now ∧
      mutation.memory.assets = m.assets.insert id updated ∧
      ((m.resources.lookup record.resourceID = none ∧ mutation.memory.resources = m.resources) ∨
        ∃ resource changed, m.resources.lookup record.resourceID = some resource ∧
          changed.assets = (syncAssetIntoResource resource updated.toAsset).assets ∧ changed.updatedAt = env.now ∧
          mutation.memory.resources = m.resources.insert record.resourceID changed) := by
  unfold updateAsset at h
  cases hlookup : m.assets.lookup id with
  | none =>
    rw [hlookup] at h
    cases h
  | some record =>
    simp only [hlookup] at h
    obtain ⟨metadata, -, h⟩ := except_bind_eq_ok.mp h
    have hid : (applyUpdatedMetadata applyAssetFileTypeMetadata record metadata).id = record.id := by
      cases metadata <;> rfl
    have hresource : (applyUpdatedMetadata applyAssetFileTypeMetadata record metadata).resourceID = record.resourceID := by
      cases metadata <;> rfl
    refine ⟨record, updateAssetFields env.now req (applyUpdatedMetadata applyAssetFileTypeMetadata record metadata),
      rfl, hid, hresource, rfl, ?_⟩
    rw [show (updateAssetFields env.now req (applyUpdatedMetadata applyAssetFileTypeMetadata record metadata)).resourceID =
      record.resourceID from hresource] at h
    cases hparent : m.resources.lookup record.resourceID with
    | none =>
      rw [hparent] at h
      cases h
      exact ⟨rfl, .inl ⟨rfl, rfl⟩⟩
    | some resource =>
      rw [hparent] at h
      cases h
      refine ⟨rfl, .inr ⟨resource, _, rfl, ?_, rfl, rfl⟩⟩
      cases metadata <;> rfl


omit [WebLibrary] in
lemma createTaxonomyOption_eq_ok {kind : String} {req : CreateTaxonomyOptionRequest} {mutation : Mutation TaxonomyOption}
    (h : createTaxonomyOption env kind req m = .ok mutation) :
    ∃ target, taxonomyKind kind = some target ∧ mutation.memory = m.setTaxonomySlice
      (upsertTaxonomyOption (taxonomyOptionFromRequest env.now req) (m.taxonomySlice target)) target := by
  unfold createTaxonomyOption at h
  cases hkind : taxonomyKind kind with
  | none =>
    rw [hkind] at h
    cases h
  | some target =>
    rw [hkind] at h
    cases h
    exact ⟨target, rfl, rfl⟩

omit [WebLibrary] in
lemma updateTaxonomyOption_eq_ok {kind : String} {req : UpdateTaxonomyOptionRequest} {mutation : Mutation TaxonomyOption}
    (h : updateTaxonomyOption env kind id req m = .ok mutation) :
    ∃ target option changed, taxonomyKind kind = some target ∧
      (m.taxonomySlice target).find? (fun option => option.id = trimSpace id) = some option ∧
      updateTaxonomyOptionFields env.now req option = .ok changed ∧
      mutation.memory = m.setTaxonomySlice (upsertTaxonomyOption changed (m.taxonomySlice target)) target := by
  unfold updateTaxonomyOption at h
  cases hkind : taxonomyKind kind with
  | none =>
    rw [hkind] at h
    cases h
  | some target =>
    simp only [hkind] at h
    cases hfind : (m.taxonomySlice target).find? (fun option => option.id = trimSpace id) with
    | none =>
      rw [hfind] at h
      cases h
    | some option =>
      rw [hfind] at h
      obtain ⟨changed, hchanged, h⟩ := except_bind_eq_ok.mp h
      cases h
      exact ⟨target, option, changed, rfl, hfind, hchanged, rfl⟩

omit [Library] [WebLibrary] in
lemma deleteTaxonomyOption_eq_ok {kind : String} {mutation : Mutation Unit}
    (h : deleteTaxonomyOption kind id m = .ok mutation) :
    ∃ target option, taxonomyKind kind = some target ∧
      (m.taxonomySlice target).find? (fun option => option.id = trimSpace id) = some option ∧
      mutation.memory = m.setTaxonomySlice
        ((m.taxonomySlice target).eraseP (fun option => option.id = trimSpace id)) target := by
  unfold deleteTaxonomyOption at h
  cases hkind : taxonomyKind kind with
  | none =>
    rw [hkind] at h
    cases h
  | some target =>
    simp only [hkind] at h
    cases hfind : (m.taxonomySlice target).find? (fun option => option.id = trimSpace id) with
    | none =>
      rw [hfind] at h
      cases h
    | some option =>
      rw [hfind] at h
      cases h
      exact ⟨target, option, rfl, hfind, rfl⟩

omit [Library] [WebLibrary] in
lemma trackProgressEvent_eq_ok {req : TrackTeacherProgressEventRequest} {mutation : Mutation TeacherProgressEvent}
    (h : trackProgressEvent env req m = .ok mutation) :
    mutation.memory = { m with progressEvents := mutation.result :: m.progressEvents } := by
  unfold trackProgressEvent at h
  dsimp only at h
  split at h
  · cases h
  · split at h
    · cases h
    · cases h
      rfl

end Service

end ErgGo.Hoclieu
