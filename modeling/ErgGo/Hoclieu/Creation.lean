import ErgGo.Hoclieu.ServiceSpec

/-!
# Ids of created records

The id of a resource and of its first asset is made from the slug, the id of a further asset from
the number of assets in memory. Neither looks whether the id is in use: where it is, the record
under it is replaced.
-/

namespace ErgGo.Hoclieu
open Go

/-- The assets are unchanged, and so are the resources and their items but for the resource `owner`. -/
structure KeepsRecords (m m' : Memory) (owner : Option String) : Prop where
  assets : ∀ id asset, m.assets.lookup id = some asset → m'.assets.lookup id = some asset
  resources : ∀ id resource, some id ≠ owner → m.resources.lookup id = some resource →
    m'.resources.lookup id = some resource
  items : ∀ id, (m.resources.lookup id).isSome → m'.items.lookup id = m.items.lookup id

section Creation

variable [Library] [WebLibrary]

/-- A resource and its asset that are stored destroy nothing. -/
def CreatesResource (env : ServiceEnv) (req : CreateResourceRequest) (m : Memory) : Prop :=
  ∀ mutation, Service.createResource env req m = .ok mutation →
    m.resources.lookup mutation.result.id = none ∧
    (∀ asset ∈ mutation.result.assets, m.assets.lookup asset.id = none) ∧
    KeepsRecords m mutation.memory none

/-- An asset that is stored destroys nothing; it is listed by its resource. -/
def CreatesAsset (env : ServiceEnv) (req : CreateAssetRequest) (m : Memory) : Prop :=
  ∀ mutation, Service.createAsset env req m = .ok mutation →
    m.assets.lookup mutation.result.id = none ∧ KeepsRecords m mutation.memory (some req.resourceID)

def Operation.CreatesWithoutLoss : Operation → Memory → Prop
  | createResource env req, m => CreatesResource env req m
  | createAsset env req, m => CreatesAsset env req m
  | uploadAsset env req size name mimeType, m =>
    ∀ created, Service.uploadRequest env req size name mimeType = .ok created → CreatesAsset env created m
  | _, _ => True

/-- No resource was made from the slug, and no asset goes by its name. -/
def SlugFree (env : ServiceEnv) (req : CreateResourceRequest) (m : Memory) : Prop :=
  ∀ validation,
    validateSelectedFileTypeMetadata req.selectedFileType req.originalFileName req.detectedMimeType = .ok validation →
    "res-" ++ Service.resourceSlug env req ∉ m.resources ∧ "asset-" ++ Service.resourceSlug env req ∉ m.assets

/-- No asset of the resource is numbered one more than there are assets. -/
def NumberFree (req : CreateAssetRequest) (m : Memory) : Prop :=
  ∀ validation,
    validateSelectedFileTypeMetadata req.selectedFileType req.originalFileName req.detectedMimeType = .ok validation →
    req.resourceID ∈ m.resources →
    "asset-" ++ req.resourceID ++ "-" ++ toString (m.assets.len + 1) ∉ m.assets

def Operation.FindsIDFree : Operation → Memory → Prop
  | createResource env req, m => SlugFree env req m
  | createAsset _ req, m => NumberFree req m
  | uploadAsset env req size name mimeType, m =>
    ∀ created, Service.uploadRequest env req size name mimeType = .ok created → NumberFree created m
  | _, _ => True

omit [Library] [WebLibrary] in
lemma lookup_insert_of_notMem {V : Type} {records : GoMap V} {k id : String} {record value : V} (hk : k ∉ records)
    (hid : records.lookup id = some record) : (records.insert k value).lookup id = some record := by
  have hne : id ≠ k := by
    rintro rfl
    exact hk (AList.lookup_isSome.mp (by rw [hid]; rfl))
  rw [AList.lookup_insert_ne hne, hid]

lemma createsResource_iff {env : ServiceEnv} {req : CreateResourceRequest} {m : Memory} :
    CreatesResource env req m ↔ SlugFree env req m := by
  constructor
  · intro h validation hvalidation
    obtain ⟨mutation, hok⟩ := Service.createResource_of_valid hvalidation m
    obtain ⟨_, -, -, -, -, hresult⟩ := Service.createResource_eq_ok hok
    obtain ⟨hresource, hassets, -⟩ := h mutation hok
    rw [hresult] at hresource hassets
    exact ⟨AList.lookup_eq_none.mp hresource, AList.lookup_eq_none.mp (hassets _ List.mem_cons_self)⟩
  · intro h mutation hok
    obtain ⟨validation, hvalidation, hresources, hassets, hitems, hresult⟩ := Service.createResource_eq_ok hok
    obtain ⟨hresource, hasset⟩ := h validation hvalidation
    refine ⟨?_, ?_, ?_, ?_, ?_⟩
    · rw [hresult]
      exact AList.lookup_eq_none.mpr hresource
    · intro asset hmem
      rw [hresult] at hmem
      obtain rfl := List.mem_singleton.mp hmem
      exact AList.lookup_eq_none.mpr hasset
    · intro id asset hid
      rw [hassets]
      exact lookup_insert_of_notMem hasset hid
    · intro id resource _ hid
      rw [hresources]
      exact lookup_insert_of_notMem hresource hid
    · intro id hid
      have hne : id ≠ "res-" ++ Service.resourceSlug env req := by
        rintro rfl
        exact hresource (AList.lookup_isSome.mp hid)
      rw [hitems]
      split
      · rfl
      · exact AList.lookup_insert_ne hne

lemma createsAsset_iff {env : ServiceEnv} {req : CreateAssetRequest} {m : Memory} :
    CreatesAsset env req m ↔ NumberFree req m := by
  constructor
  · intro h validation hvalidation hresource
    obtain ⟨resource, hlookup⟩ := Option.isSome_iff_exists.mp (AList.lookup_isSome.mpr hresource)
    obtain ⟨mutation, hok⟩ := Service.createAsset_of_valid hvalidation hlookup
    obtain ⟨-, -, -, -, hid, -⟩ := Service.createAsset_eq_ok hok
    have hfree := (h mutation hok).1
    rw [hid] at hfree
    exact AList.lookup_eq_none.mp hfree
  · intro h mutation hok
    obtain ⟨validation, resource, hvalidation, hlookup, hid, hmemory⟩ := Service.createAsset_eq_ok hok
    have hfree := h validation hvalidation (AList.lookup_isSome.mp (by rw [hlookup]; rfl))
    refine ⟨?_, ?_, ?_, ?_⟩
    · rw [hid]
      exact AList.lookup_eq_none.mpr hfree
    · intro id asset hasset
      rw [hmemory]
      exact lookup_insert_of_notMem hfree hasset
    · intro id other hne hother
      rw [hmemory]
      have hne' : id ≠ req.resourceID := fun heq => hne (congrArg some heq)
      exact (AList.lookup_insert_ne hne').trans hother
    · intro id _
      rw [hmemory]

/-- In a run, the creations destroy nothing exactly when each of them finds the ids it derives free. -/
theorem createsWithoutLoss_iff (m : Memory) (ops : List Operation) :
    (∀ done op, done ++ [op] <+: ops → op.CreatesWithoutLoss (memoryFrom m done)) ↔
      ∀ done op, done ++ [op] <+: ops → op.FindsIDFree (memoryFrom m done) := by
  refine forall_congr' fun done => forall_congr' fun op => forall_congr' fun _ => ?_
  cases op with
  | createResource env req => exact createsResource_iff
  | createAsset env req => exact createsAsset_iff
  | uploadAsset env req size name mimeType => exact forall₂_congr fun _ _ => createsAsset_iff
  | _ => exact Iff.rfl

end Creation

section Sample

attribute [local instance] asciiLibrary plainWeb

namespace Sample

def titled (title : String) : CreateResourceRequest :=
  { title := title, programSlug := "english", subjectID := "english", categoryID := "lecture", selectedFileType := .pdf }

def fileOf (resourceID title : String) : CreateAssetRequest :=
  { resourceID := resourceID, title := title, selectedFileType := .pdf, fileSizeBytes := 2048,
    storageURL := "https://files/" ++ title }

/-- Two resources with a file each; deleting one makes the number of the other's file the next one again. -/
def numberedRun : List Operation :=
  [.createResource ⟨1, 1, "", none⟩ (titled "Unit 1"), .createResource ⟨2, 2, "", none⟩ (titled "Unit 2"),
    .createAsset ⟨3, 3, "", none⟩ (fileOf "res-unit-1" "audio"), .deleteResource "res-unit-2"]

end Sample

/-- A resource whose title differs only in punctuation replaces the first one; a second file
replaces the first one of its resource after another resource was deleted. -/
theorem creation_replaces :
    ¬(Operation.createResource ⟨2, 2, "", none⟩ (Sample.titled "unit_1")).CreatesWithoutLoss
        (memoryAfter [.createResource ⟨1, 1, "", none⟩ (Sample.titled "Unit 1")]) ∧
      ¬(Operation.createAsset ⟨5, 5, "", none⟩ (Sample.fileOf "res-unit-1" "video")).CreatesWithoutLoss
        (memoryAfter Sample.numberedRun) := by
  constructor
  · intro h
    have hfree := (createsResource_iff.mp h _ rfl).1
    exact hfree (by decide +kernel)
  · intro h
    exact createsAsset_iff.mp h _ rfl (by decide) (by decide)

end Sample

end ErgGo.Hoclieu
